import FiberApp.Devices.HardwareIdProperties

/-! One device in the two forms of its hardware id, that of its endpoint and that of its
wave device. The parsers search the whole text for a key, so they see the separator too
when less than the value stands in front of it. -/

set_option autoImplicit false

namespace FiberApp.Devices

open Foundation

/-- `{n}`, with the digits of `n`. -/
def endpointNumber (digits : Chars) : Chars := '{' :: (digits ++ ['}'])

/-- `{n}.CLASS\REST`. -/
def coreForm (digits className rest : Chars) : Chars :=
  endpointNumber digits ++ '.' :: (className ++ '\\' :: rest)

/-- `\\?\CLASS#REST`. -/
def waveForm (className rest : Chars) : Chars :=
  ['\\', '\\', '?', '\\'] ++ (className ++ '#' :: rest)

/-- A class name of the two forms. -/
structure PlainClass (className : Chars) : Prop where
  noDot : '.' ∉ className
  noBackslash : '\\' ∉ className
  noHash : '#' ∉ className

def Decimal (digits : Chars) : Prop := digits ≠ [] ∧ ∀ c ∈ digits, c.isDigit = true

/-- The characters of the two forms that are in none of their parts. -/
def separators : Chars := ['{', '}', '.', '\\', '?', '#']

/-- What all four keys have in common. -/
structure PlainKey (key : Chars) : Prop where
  four : key.length = 4
  noDigit : key.all (fun c => !c.isDigit) = true
  noSeparator : key.all (fun c => !separators.contains c) = true

theorem vendorKey_plain (classId : String) : PlainKey (vendorKey classId) := by
  unfold vendorKey
  split <;> exact ⟨by decide, by decide, by decide⟩

theorem productKey_plain (classId : String) : PlainKey (productKey classId) := by
  unfold productKey
  split <;> exact ⟨by decide, by decide, by decide⟩

theorem PlainKey.nonempty {key : Chars} (plain : PlainKey key) : key ≠ [] := by
  intro empty
  have four := plain.four
  rw [empty] at four
  cases four

theorem PlainKey.digit_not_mem {key : Chars} (plain : PlainKey key) {c : Char}
    (digit : c.isDigit = true) : c ∉ key := by
  intro member
  have other := List.all_eq_true.mp plain.noDigit c member
  simp [digit] at other

theorem PlainKey.separator_not_mem {key : Chars} (plain : PlainKey key) {c : Char}
    (separator : c ∈ separators) : c ∉ key := by
  intro member
  have other := List.all_eq_true.mp plain.noSeparator c member
  simp [separator] at other

theorem mem_endpointNumber {digits : Chars} {c : Char} (member : c ∈ endpointNumber digits) :
    c = '{' ∨ c ∈ digits ∨ c = '}' := by
  rw [endpointNumber, List.mem_cons, List.mem_append, List.mem_singleton] at member
  exact member

theorem PlainKey.number_not_mem {key digits : Chars} (plain : PlainKey key)
    (decimal : Decimal digits) : ∀ c ∈ endpointNumber digits, c ∉ key := by
  intro c member
  rcases mem_endpointNumber member with rfl | digit | rfl
  · exact plain.separator_not_mem (by decide)
  · exact plain.digit_not_mem (decimal.2 c digit)
  · exact plain.separator_not_mem (by decide)

/-! Where a key is found in either form. -/

/-- The first place of the key in the class or else in the rest. -/
def foundIn (key className rest : Chars) (separator : Char) : Option Chars :=
  match findFrom key className with
  | some tail => some (tail ++ separator :: rest)
  | none => findFrom key rest

theorem findFrom_append_separator {key : Chars} (plain : PlainKey key) (className rest : Chars)
    {separator : Char} (known : separator ∈ separators) :
    findFrom key (className ++ separator :: rest) = foundIn key className rest separator := by
  rw [findFrom_append_cons className rest plain.nonempty (plain.separator_not_mem known)]
  cases found : findFrom key className <;> simp only [foundIn, found]

theorem findFrom_coreForm {key digits : Chars} (plain : PlainKey key) (decimal : Decimal digits)
    (className rest : Chars) :
    findFrom key (coreForm digits className rest) = foundIn key className rest '\\' := by
  have dot : findFrom key (['.'] ++ (className ++ '\\' :: rest)) =
      findFrom key (className ++ '\\' :: rest) := by
    apply findFrom_append_of_disjoint _ plain.nonempty
    intro c member
    rw [List.mem_singleton.mp member]
    exact plain.separator_not_mem (by decide)
  rw [coreForm, findFrom_append_of_disjoint _ plain.nonempty (plain.number_not_mem decimal),
    ← List.singleton_append, dot]
  exact findFrom_append_separator plain className rest (by decide)

theorem findFrom_waveForm {key : Chars} (plain : PlainKey key) (className rest : Chars) :
    findFrom key (waveForm className rest) = foundIn key className rest '#' := by
  have known : ['\\', '\\', '?', '\\'] ⊆ separators := by simp [separators]
  rw [waveForm, findFrom_append_of_disjoint _ plain.nonempty
    fun c member => plain.separator_not_mem (known member)]
  exact findFrom_append_separator plain className rest (by decide)

/-! The class name of either form. -/

theorem assignBetween_append (before className after : Chars) :
    assignBetween (before ++ (className ++ after)) before.length
        (before.length + className.length) = some (String.ofList className) := by
  rw [assignBetween, if_pos (Nat.le_add_right _ _), List.drop_left, Nat.add_sub_cancel_left,
    List.take_left]

theorem Decimal.not_mem_endpointNumber {digits : Chars} (decimal : Decimal digits) {c : Char}
    (noDigit : c.isDigit = false) (noBrace : c ≠ '{' ∧ c ≠ '}') : c ∉ endpointNumber digits := by
  intro member
  rcases mem_endpointNumber member with other | digit | other
  · exact noBrace.1 other
  · rw [decimal.2 c digit] at noDigit
    cases noDigit
  · exact noBrace.2 other

theorem coreClass_coreForm {digits className : Chars} (decimal : Decimal digits)
    (plain : PlainClass className) (rest : Chars) :
    coreClass (coreForm digits className rest) = some (some (String.ofList className)) := by
  have dot : (coreForm digits className rest).idxOf? '.' =
      some (endpointNumber digits).length :=
    idxOf?_append_cons _ (decimal.not_mem_endpointNumber (by decide) (by decide))
  have outside : '\\' ∉ endpointNumber digits ++ '.' :: className := by
    rw [List.mem_append, List.mem_cons, not_or, not_or]
    exact ⟨decimal.not_mem_endpointNumber (by decide) (by decide), by decide, plain.noBackslash⟩
  have split : coreForm digits className rest =
      (endpointNumber digits ++ ['.']) ++ (className ++ '\\' :: rest) := by
    rw [coreForm, List.append_assoc, List.singleton_append]
  have backslash : (coreForm digits className rest).idxOf? '\\' =
      some ((endpointNumber digits).length + 1 + className.length) := by
    have found := idxOf?_append_cons rest outside
    rw [List.append_assoc, List.cons_append, List.length_append, List.length_cons] at found
    rw [coreForm, found]
    congr 1
    omega
  have between := assignBetween_append (endpointNumber digits ++ ['.']) className ('\\' :: rest)
  rw [← split, List.length_append, List.length_singleton] at between
  simp only [coreClass, dot, backslash, between, Option.map_some]

theorem waveClass_waveForm {className : Chars} (plain : PlainClass className) (rest : Chars) :
    waveClass (waveForm className rest) = some (some (String.ofList className)) := by
  have outside : '#' ∉ ['\\', '\\', '?', '\\'] ++ className := by
    rw [List.mem_append, not_or]
    exact ⟨by decide, plain.noHash⟩
  have hash : (waveForm className rest).idxOf? '#' = some (4 + className.length) := by
    have found := idxOf?_append_cons rest outside
    rw [List.append_assoc, List.length_append] at found
    exact found
  have between := assignBetween_append ['\\', '\\', '?', '\\'] className ('#' :: rest)
  rw [← waveForm] at between
  simp only [waveClass, hash]
  exact congrArg (Option.map some) between

/-! The value behind a key in either form. -/

/-- The value ends before the separator when the key stands in the class, and else before
the terminator of the text, which may be copied with it. -/
def ValueAgrees (key className rest : Chars) : Prop :=
  match findFrom key className with
  | some tail => 4 ≤ (tail.drop 4).length
  | none => ∀ found, findFrom key rest = some found → 3 ≤ (found.drop 4).length

instance decidableValueAgrees (key className rest : Chars) :
    Decidable (ValueAgrees key className rest) :=
  match found : findFrom key className with
  | some tail =>
      decidable_of_iff (4 ≤ (tail.drop 4).length) (by simp only [ValueAgrees, found])
  | none =>
      decidable_of_iff (∀ other ∈ findFrom key rest, 3 ≤ (other.drop 4).length)
        (by simp only [ValueAgrees, found, Option.mem_def])

theorem assignFour_separator_iff (behind rest : Chars) (pastEnd other : PastEnd) :
    assignFour (behind ++ '\\' :: rest) pastEnd = assignFour (behind ++ '#' :: rest) other ↔
      4 ≤ behind.length := by
  simp only [assignFour, String.ofList_inj, List.append_assoc]
  constructor
  · intro same
    by_contra short
    have at_separator := congrArg (·[behind.length]?) same
    simp [show behind.length < 4 by omega] at at_separator
  · intro long
    rw [List.take_append_of_le_length long, List.take_append_of_le_length long]

theorem keyedValue_forms_iff {key digits : Chars} (plain : PlainKey key)
    (decimal : Decimal digits) (className rest : Chars) :
    (∀ pastEnd other prior, keyedValue key (coreForm digits className rest) pastEnd prior =
        keyedValue key (waveForm className rest) other prior) ↔
      ValueAgrees key className rest := by
  simp only [keyedValue, findFrom_coreForm plain decimal, findFrom_waveForm plain, foundIn,
    ValueAgrees]
  cases found : findFrom key className with
  | some tail =>
      have starts := (findFrom_some found).2.length_le
      rw [plain.four] at starts
      simp only [List.drop_append_of_le_length starts]
      constructor
      · intro same
        exact (assignFour_separator_iff _ rest allA allA).mp (same allA allA "")
      · intro long pastEnd other _
        exact (assignFour_separator_iff _ rest pastEnd other).mpr long
  | none =>
      cases behind : findFrom key rest with
      | none => simp
      | some found =>
          constructor
          · intro same other
            rintro ⟨⟩
            exact three_le_of_same (congrArg String.toUpper (same allA allB ""))
          · intro long pastEnd other prior
            have keyed : Keyed key rest := ⟨found, behind, long found rfl⟩
            have same := keyed.keyedValue_eq pastEnd other prior prior
            simp only [keyedValue, behind] at same
            exact same

/-- The parsers yield the same for one device, whatever the outputs and the memory behind
either text held. -/
def FormsAgree (digits className rest : Chars) (endpointType : Nat) : Prop :=
  ∀ pastEnd other prior,
    hardwareKeyFromHardwareId (coreForm digits className rest) endpointType pastEnd prior =
      hardwareKeyFromHardwareIdWave (waveForm className rest) other prior

theorem vendorAndProduct_inj {hardwareId otherId : Chars} {pastEnd other : PastEnd}
    {prior : HardwareIds} {classId : String} :
    vendorAndProduct hardwareId pastEnd prior classId =
        vendorAndProduct otherId other prior classId ↔
      keyedValue (vendorKey classId) hardwareId pastEnd prior.vendorId =
          keyedValue (vendorKey classId) otherId other prior.vendorId ∧
        keyedValue (productKey classId) hardwareId pastEnd prior.productId =
          keyedValue (productKey classId) otherId other prior.productId := by
  simp [vendorAndProduct]

/-- The two forms give the same outputs exactly if this holds of the vendor key and of the
product key: standing in the class, it has its four characters there; else, standing in
the rest, it has three characters behind it. -/
theorem formsAgree_iff {digits className : Chars} (decimal : Decimal digits)
    (plain : PlainClass className) (rest : Chars) {endpointType : Nat}
    (notHdmi : endpointType ≠ digitalAudioDisplayDevice) :
    FormsAgree digits className rest endpointType ↔
      ValueAgrees (vendorKey (String.ofList className)) className rest ∧
        ValueAgrees (productKey (String.ofList className)) className rest := by
  have core := coreClass_coreForm decimal plain rest
  have wave := waveClass_waveForm plain rest
  simp only [FormsAgree, hardwareKeyFromHardwareId, hardwareKeyFromHardwareIdWave, core, wave,
    notHdmi, if_false, Option.bind_eq_bind, Option.bind_some, Option.getD_some,
    Option.some.injEq, vendorAndProduct_inj]
  rw [← keyedValue_forms_iff (vendorKey_plain _) decimal,
    ← keyedValue_forms_iff (productKey_plain _) decimal]
  constructor
  · intro same
    exact ⟨fun pastEnd other prior => (same pastEnd other ⟨prior, "", ""⟩).1,
      fun pastEnd other prior => (same pastEnd other ⟨"", prior, ""⟩).2⟩
  · intro same pastEnd other prior
    exact ⟨same.1 pastEnd other prior.vendorId, same.2 pastEnd other prior.productId⟩

theorem formsAgree_webcam :
    FormsAgree ['1'] "USB".toList "VID_046D&PID_0821&MI_00".toList 4 := by
  refine (formsAgree_iff ⟨by decide, List.forall_mem_singleton.mpr rfl⟩
    ⟨by decide, by decide, by decide⟩ _ (by decide)).mpr ?_
  decide

/-- A class that ends with a cut vendor gives the separators as its last character. -/
theorem not_formsAgree :
    ¬ ∀ (digits className rest : Chars) (endpointType : Nat) (pastEnd : PastEnd)
      (prior : HardwareIds), Decimal digits → PlainClass className →
      endpointType ≠ digitalAudioDisplayDevice →
      hardwareKeyFromHardwareId (coreForm digits className rest) endpointType pastEnd prior =
        hardwareKeyFromHardwareIdWave (waveForm className rest) pastEnd prior := by
  intro agree
  have same := agree ['1'] "VEN_10".toList "EC&DEV_0887".toList 1 allA ⟨"", "", ""⟩
    ⟨by decide, List.forall_mem_singleton.mpr rfl⟩ ⟨by decide, by decide, by decide⟩ (by decide)
  have vendor := congrArg (Option.map HardwareIds.vendorId) same
  exact absurd vendor (by decide)

end FiberApp.Devices
