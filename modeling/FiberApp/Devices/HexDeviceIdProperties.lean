import Mathlib.Algebra.Group.Nat.Defs
import Mathlib.Data.List.TakeWhile
import FiberApp.Devices.HexDeviceId

/-! Which strings the parser of device ids takes for four hexadecimal digits. -/

set_option autoImplicit false

namespace FiberApp.Devices

theorem hexDigit_eq (c : Char) :
    hexDigit c =
      if 48 ≤ c.toNat ∧ c.toNat ≤ 57 then some (c.toNat - 48)
      else if 97 ≤ c.toNat ∧ c.toNat ≤ 102 then some (c.toNat - 97 + 10)
      else if 65 ≤ c.toNat ∧ c.toNat ≤ 70 then some (c.toNat - 65 + 10)
      else none := rfl

theorem isHexDigit_iff {c : Char} :
    isHexDigit c = true ↔ (48 ≤ c.toNat ∧ c.toNat ≤ 57) ∨ (97 ≤ c.toNat ∧ c.toNat ≤ 102) ∨
      (65 ≤ c.toNat ∧ c.toNat ≤ 70) := by
  rw [isHexDigit, hexDigit_eq]
  by_cases decimal : 48 ≤ c.toNat ∧ c.toNat ≤ 57
  · simp [decimal]
  · by_cases lower : 97 ≤ c.toNat ∧ c.toNat ≤ 102
    · simp [decimal, lower]
    · by_cases upper : 65 ≤ c.toNat ∧ c.toNat ≤ 70 <;> simp [decimal, lower, upper]

theorem hexDigit_lt (c : Char) : (hexDigit c).getD 0 < 16 := by
  rw [hexDigit_eq]
  split
  · simp only [Option.getD_some]
    omega
  · split
    · simp only [Option.getD_some]
      omega
    · split
      · simp only [Option.getD_some]
        omega
      · exact Nat.succ_pos 15

theorem foldl_hexDigit_lt (digits : List Char) (value : Nat) :
    digits.foldl (fun value c => value * 16 + (hexDigit c).getD 0) value <
      (value + 1) * 16 ^ digits.length := by
  induction digits generalizing value with
  | nil => simp
  | cons c digits ih =>
      have digit := hexDigit_lt c
      calc digits.foldl (fun value c => value * 16 + (hexDigit c).getD 0)
            (value * 16 + (hexDigit c).getD 0)
          < (value * 16 + (hexDigit c).getD 0 + 1) * 16 ^ digits.length := ih _
        _ ≤ ((value + 1) * 16) * 16 ^ digits.length :=
            Nat.mul_le_mul_right _ (by omega)
        _ = (value + 1) * 16 ^ (c :: digits).length := by
            rw [List.length_cons, Nat.pow_succ, Nat.mul_assoc, Nat.mul_comm 16]

theorem hexNumber_lt (digits : List Char) : hexNumber digits < 16 ^ digits.length := by
  have below := foldl_hexDigit_lt digits 0
  rw [Nat.zero_add, Nat.one_mul] at below
  exact below

section

variable {c : Char} (digit : isHexDigit c = true)
include digit

theorem isSpace_of_isHexDigit : isSpace c = false := by
  have code := isHexDigit_iff.mp digit
  have notBlank : c ≠ ' ' := by
    intro blank
    subst blank
    exact absurd digit (by decide)
  rw [isSpace, Bool.or_eq_false_iff]
  refine ⟨beq_false_of_ne notBlank, ?_⟩
  rw [Bool.and_eq_false_iff, decide_eq_false_iff_not, decide_eq_false_iff_not]
  omega

theorem ne_of_isHexDigit {other : Char} (noDigit : isHexDigit other = false) : c ≠ other := by
  intro same
  rw [same, noDigit] at digit
  cases digit

end

theorem splitSign_spec (text : List Char) :
    (splitSign text).1 ++ (splitSign text).2 = text ∧
      ((splitSign text).1 = [] ∨ (splitSign text).1 = ['-'] ∨ (splitSign text).1 = ['+']) := by
  unfold splitSign
  split
  · exact ⟨rfl, .inr (.inl rfl)⟩
  · exact ⟨rfl, .inr (.inr rfl)⟩
  · exact ⟨rfl, .inl rfl⟩

theorem splitMarker_spec (text : List Char) :
    (splitMarker text).1 ++ (splitMarker text).2 = text ∧
      ((splitMarker text).1 = [] ∨ (splitMarker text).1 = ['0', 'x'] ∨
        (splitMarker text).1 = ['0', 'X']) := by
  unfold splitMarker
  split
  case h_1 x next rest =>
    split
    case isTrue marked =>
      rw [Bool.and_eq_true, Bool.or_eq_true, beq_iff_eq, beq_iff_eq] at marked
      rcases marked.1 with rfl | rfl
      · exact ⟨rfl, .inr (.inl rfl)⟩
      · exact ⟨rfl, .inr (.inr rfl)⟩
    case isFalse unmarked => exact ⟨rfl, .inl rfl⟩
  case h_2 => exact ⟨rfl, .inl rfl⟩

/-- White space, an optional sign, an optional `0x` and at least one digit, the parts of a
number as `strtol` reads it with base 16. -/
structure NumeralParts (spaces sign marker digits : List Char) : Prop where
  blank : ∀ c ∈ spaces, isSpace c = true
  signed : sign = [] ∨ sign = ['-'] ∨ sign = ['+']
  marked : marker = [] ∨ marker = ['0', 'x'] ∨ marker = ['0', 'X']
  digital : ∀ c ∈ digits, isHexDigit c = true
  nonempty : digits ≠ []

def IsNumeral (text : List Char) : Prop :=
  ∃ spaces sign marker digits, NumeralParts spaces sign marker digits ∧
    text = spaces ++ (sign ++ (marker ++ digits))

theorem splitMarker_of_digits {digits : List Char}
    (all : ∀ c ∈ digits, isHexDigit c = true) : splitMarker digits = ([], digits) := by
  unfold splitMarker
  split
  case h_1 x next rest =>
    have second := all x (by simp)
    rw [beq_false_of_ne (ne_of_isHexDigit second (by decide)),
      beq_false_of_ne (ne_of_isHexDigit second (by decide))]
    rfl
  case h_2 => rfl

theorem splitMarker_append {marker digits : List Char}
    (shape : marker = [] ∨ marker = ['0', 'x'] ∨ marker = ['0', 'X'])
    (all : ∀ c ∈ digits, isHexDigit c = true) (nonempty : digits ≠ []) :
    splitMarker (marker ++ digits) = (marker, digits) := by
  obtain ⟨first, rest, rfl⟩ := List.exists_cons_of_ne_nil nonempty
  have digit := all first List.mem_cons_self
  rcases shape with rfl | rfl | rfl
  · exact splitMarker_of_digits all
  · simp [splitMarker, digit]
  · simp [splitMarker, digit]

/-- No sign stands at the start of a number without one. -/
theorem splitSign_append {sign number : List Char}
    (shape : sign = [] ∨ sign = ['-'] ∨ sign = ['+'])
    (unsigned : ∀ c ∈ number, c ≠ '-' ∧ c ≠ '+') :
    splitSign (sign ++ number) = (sign, number) := by
  rcases shape with rfl | rfl | rfl
  · cases number with
    | nil => rfl
    | cons first rest =>
        have other := unsigned first List.mem_cons_self
        rw [List.nil_append]
        unfold splitSign
        split
        case h_1 same => exact absurd (List.cons.inj same).1 other.1
        case h_2 same => exact absurd (List.cons.inj same).1 other.2
        case h_3 => rfl
  · rfl
  · rfl

namespace NumeralParts

variable {spaces sign marker digits : List Char}

theorem digit_or_x (parts : NumeralParts spaces sign marker digits) {c : Char}
    (member : c ∈ marker ++ digits) : isHexDigit c = true ∨ c = 'x' ∨ c = 'X' := by
  rcases List.mem_append.mp member with inMarker | inDigits
  · rcases parts.marked with rfl | rfl | rfl
    · exact absurd inMarker List.not_mem_nil
    · rcases List.mem_cons.mp inMarker with rfl | second
      · exact .inl (by decide)
      · exact .inr (.inl (List.mem_singleton.mp second))
    · rcases List.mem_cons.mp inMarker with rfl | second
      · exact .inl (by decide)
      · exact .inr (.inr (List.mem_singleton.mp second))
  · exact .inl (parts.digital c inDigits)

theorem unsigned (parts : NumeralParts spaces sign marker digits) :
    ∀ c ∈ marker ++ digits, c ≠ '-' ∧ c ≠ '+' := by
  intro c member
  rcases parts.digit_or_x member with digit | rfl | rfl
  · exact ⟨ne_of_isHexDigit digit (by decide), ne_of_isHexDigit digit (by decide)⟩
  · decide
  · decide

theorem unspaced (parts : NumeralParts spaces sign marker digits) :
    ∀ c ∈ sign ++ (marker ++ digits), isSpace c = false := by
  intro c member
  rcases List.mem_append.mp member with inSign | inNumber
  · rcases parts.signed with rfl | rfl | rfl
    · exact absurd inSign List.not_mem_nil
    · rw [List.mem_singleton.mp inSign]
      decide
    · rw [List.mem_singleton.mp inSign]
      decide
  · rcases parts.digit_or_x inNumber with digit | rfl | rfl
    · exact isSpace_of_isHexDigit digit
    · decide
    · decide

theorem dropWhile_eq (parts : NumeralParts spaces sign marker digits) :
    (spaces ++ (sign ++ (marker ++ digits))).dropWhile isSpace = sign ++ (marker ++ digits) := by
  rw [List.dropWhile_append_of_pos parts.blank, List.dropWhile_eq_self_iff]
  intro _ spaced
  rw [parts.unspaced _ (List.getElem_mem _)] at spaced
  cases spaced

/-- A number is read to its end. -/
theorem strtol_eq (parts : NumeralParts spaces sign marker digits) (noNumberErrno : Int) :
    strtol noNumberErrno (spaces ++ (sign ++ (marker ++ digits))) =
      ⟨if sign = ['-'] then -(hexNumber digits : Int) else hexNumber digits,
        (spaces ++ (sign ++ (marker ++ digits))).length, 0⟩ := by
  have unspaced : ∀ c ∈ sign ++ (marker ++ digits), ¬ isSpace c = true := by
    intro c member
    rw [parts.unspaced c member]
    exact Bool.false_ne_true
  have noSpace : (sign ++ (marker ++ digits)).takeWhile isSpace = [] :=
    List.takeWhile_eq_nil_iff.mpr fun _ => unspaced _ (List.get_mem _ _)
  have spaced : (spaces ++ (sign ++ (marker ++ digits))).takeWhile isSpace = spaces := by
    rw [List.takeWhile_append_of_pos parts.blank, noSpace, List.append_nil]
  have whole : digits.takeWhile isHexDigit = digits :=
    List.takeWhile_eq_self_iff.mpr parts.digital
  simp only [strtol, spaced, parts.dropWhile_eq, splitSign_append parts.signed parts.unsigned,
    splitMarker_append parts.marked parts.digital parts.nonempty, whole,
    if_neg parts.nonempty, List.length_append, Nat.add_assoc]

end NumeralParts

/-- What the parts of the text are that `strtol` reads, and what it leaves. -/
theorem strtol_cases (noNumberErrno : Int) (text : List Char) :
    strtol noNumberErrno text = ⟨0, 0, noNumberErrno⟩ ∨
      ∃ spaces sign marker digits left, NumeralParts spaces sign marker digits ∧
        text = spaces ++ (sign ++ (marker ++ digits)) ++ left ∧
        (strtol noNumberErrno text).endOffset =
          (spaces ++ (sign ++ (marker ++ digits))).length ∧
        (strtol noNumberErrno text).errno = 0 := by
  obtain ⟨signed, signShape⟩ := splitSign_spec (text.dropWhile isSpace)
  obtain ⟨marked, markerShape⟩ := splitMarker_spec (splitSign (text.dropWhile isSpace)).2
  generalize same : strtol noNumberErrno text = result
  simp only [strtol] at same
  split at same
  case isTrue noDigits => exact .inl same.symm
  case isFalse someDigits =>
    refine .inr ⟨text.takeWhile isSpace, (splitSign (text.dropWhile isSpace)).1,
      (splitMarker (splitSign (text.dropWhile isSpace)).2).1,
      (splitMarker (splitSign (text.dropWhile isSpace)).2).2.takeWhile isHexDigit,
      (splitMarker (splitSign (text.dropWhile isSpace)).2).2.dropWhile isHexDigit,
      ⟨fun c member => List.mem_takeWhile_imp member, signShape, markerShape,
        fun c member => List.mem_takeWhile_imp member, someDigits⟩, ?_, ?_, ?_⟩
    · simp only [List.append_assoc, List.takeWhile_append_dropWhile, marked, signed]
    · rw [← same]
      simp only [List.length_append, Nat.add_assoc]
    · rw [← same]

/-- `strtol` reads a whole text if and only if that is a number. -/
theorem strtol_reads_iff {noNumberErrno : Int} {text : List Char} :
    ((strtol noNumberErrno text).endOffset ≠ 0 ∧
      (strtol noNumberErrno text).endOffset = text.length) ↔ IsNumeral text := by
  constructor
  · intro reads
    rcases strtol_cases noNumberErrno text with nothing |
      ⟨spaces, sign, marker, digits, left, parts, split, offset, -⟩
    · rw [nothing] at reads
      exact absurd rfl reads.1
    · rw [reads.2, split, List.length_append] at offset
      have whole : left = [] := List.length_eq_zero_iff.mp (by omega)
      rw [whole, List.append_nil] at split
      exact ⟨spaces, sign, marker, digits, parts, split⟩
  · intro numeral
    obtain ⟨spaces, sign, marker, digits, parts, rfl⟩ := numeral
    rw [parts.strtol_eq]
    have positive := List.length_pos_iff.mpr parts.nonempty
    refine ⟨?_, rfl⟩
    simp only [List.length_append]
    omega

theorem strtol_errno {noNumberErrno : Int} {text : List Char}
    (reads : (strtol noNumberErrno text).endOffset ≠ 0) :
    (strtol noNumberErrno text).errno = 0 := by
  rcases strtol_cases noNumberErrno text with nothing | ⟨_, _, _, _, _, -, -, -, noError⟩
  · rw [nothing] at reads
    exact absurd rfl reads
  · exact noError

theorem isNumeral_of_digits {digits : List Char} (digital : ∀ c ∈ digits, isHexDigit c = true)
    (nonempty : digits ≠ []) : NumeralParts [] [] [] digits :=
  ⟨fun _ member => absurd member List.not_mem_nil, .inl rfl, .inl rfl, digital, nonempty⟩

theorem cString_of_digits {digits : List Char}
    (digital : ∀ c ∈ digits, isHexDigit c = true) : cString digits = digits := by
  refine List.takeWhile_eq_self_iff.mpr fun c member => ?_
  have code := isHexDigit_iff.mp (digital c member)
  rw [bne_iff_ne]
  omega

/-- The error number takes part in no outcome: it is only set when nothing was read. -/
theorem getIntDeviceIdFromHex_eq (noNumberErrno : Int) (str : List Char) (val : Int32) :
    getIntDeviceIdFromHex noNumberErrno str val =
      if str.length = 4 ∧ (strtol noNumberErrno (cString str)).endOffset ≠ 0 ∧
          (strtol noNumberErrno (cString str)).endOffset = (cString str).length then
        (true, .ofInt (strtol noNumberErrno (cString str)).longVal)
      else (false, val) := by
  simp only [getIntDeviceIdFromHex]
  by_cases four : str.length = 4
  · by_cases reads : (strtol noNumberErrno (cString str)).endOffset ≠ 0
    · have noError := strtol_errno reads
      simp [four, reads, noError]
    · simp [four, reads]
  · simp [four]

/-- The parser succeeds on four characters that read as a number up to the first NUL. -/
theorem getIntDeviceIdFromHex_succeeds_iff {noNumberErrno : Int} {str : List Char}
    {val : Int32} :
    (getIntDeviceIdFromHex noNumberErrno str val).1 = true ↔
      str.length = 4 ∧ IsNumeral (cString str) := by
  rw [getIntDeviceIdFromHex_eq, ← @strtol_reads_iff noNumberErrno]
  split
  case isTrue reads => exact ⟨fun _ => reads, fun _ => rfl⟩
  case isFalse refused => exact ⟨fun succeeded => Bool.noConfusion succeeded,
    fun reads => absurd reads refused⟩

theorem getIntDeviceIdFromHex_failed {noNumberErrno : Int} {str : List Char}
    {val : Int32} (failed : (getIntDeviceIdFromHex noNumberErrno str val).1 = false) :
    (getIntDeviceIdFromHex noNumberErrno str val).2 = val := by
  rw [getIntDeviceIdFromHex_eq] at failed ⊢
  split at failed
  case isTrue reads => cases failed
  case isFalse refused => rw [if_neg refused]

/-- Exactly four hexadecimal digits. -/
def FourHexDigits (str : List Char) : Prop :=
  str.length = 4 ∧ ∀ c ∈ str, isHexDigit c = true

/-- Four hexadecimal digits are read and everything else is refused. -/
def ReadsDeviceId (noNumberErrno : Int) (str : List Char) (val : Int32) : Prop :=
  ((getIntDeviceIdFromHex noNumberErrno str val).1 = true ↔ FourHexDigits str) ∧
  (FourHexDigits str →
    (getIntDeviceIdFromHex noNumberErrno str val).2.toInt = hexNumber str ∧
      hexNumber str ≤ 65535) ∧
  (¬ FourHexDigits str → (getIntDeviceIdFromHex noNumberErrno str val).2 = val)

theorem FourHexDigits.numeral {str : List Char} (four : FourHexDigits str) :
    NumeralParts [] [] [] str := by
  refine isNumeral_of_digits four.2 fun empty => ?_
  have length := four.1
  rw [empty] at length
  cases length

/-- Four digits are read as the number they denote. -/
theorem FourHexDigits.reads {str : List Char} (four : FourHexDigits str)
    (noNumberErrno : Int) (val : Int32) :
    getIntDeviceIdFromHex noNumberErrno str val = (true, .ofInt (hexNumber str)) := by
  have read : strtol noNumberErrno str = ⟨hexNumber str, str.length, 0⟩ :=
    four.numeral.strtol_eq noNumberErrno
  have positive : ¬ str.length = 0 := by
    rw [four.1]
    decide
  rw [getIntDeviceIdFromHex_eq, cString_of_digits four.2, read, if_pos ⟨four.1, positive, rfl⟩]

theorem FourHexDigits.hexNumber_le {str : List Char} (four : FourHexDigits str) :
    hexNumber str ≤ 65535 := by
  have below := hexNumber_lt str
  rw [four.1] at below
  omega

/-- A device id is parsed as it should be if and only if it is not a text of four
characters that `strtol` reads as a shorter number: one with white space, a sign or `0x`
before its digits, or with a NUL after them. -/
theorem readsDeviceId_iff (noNumberErrno : Int) (str : List Char) (val : Int32) :
    ReadsDeviceId noNumberErrno str val ↔
      ¬ (str.length = 4 ∧ IsNumeral (cString str) ∧ ¬ FourHexDigits str) := by
  rw [ReadsDeviceId]
  by_cases four : FourHexDigits str
  · have bound := four.hexNumber_le
    have value : (Int32.ofInt (hexNumber str)).toInt = hexNumber str := by
      rw [Int32.ofInt_eq_ofNat]
      exact Int32.toInt_ofNat_of_lt (by omega)
    simp only [four.reads noNumberErrno val, four, value, bound, not_true, and_false,
      not_false_eq_true, forall_const, and_self, false_imp_iff]
  · simp only [four, not_false_eq_true, and_true, forall_const, false_imp_iff, true_and, iff_false,
      getIntDeviceIdFromHex_succeeds_iff]
    constructor
    · intro reads
      exact reads.1
    · intro refused
      refine ⟨refused, getIntDeviceIdFromHex_failed ?_⟩
      rw [Bool.eq_false_iff]
      exact mt getIntDeviceIdFromHex_succeeds_iff.mp refused

/-- A sign takes the place of a digit, and the number becomes negative. -/
theorem not_readsDeviceId : ¬ ReadsDeviceId 0 ['-', '1', '2', 'F'] 0 := by
  intro reads
  have accepted : (getIntDeviceIdFromHex 0 ['-', '1', '2', 'F'] 0).1 = true := by decide
  have digits := (reads.1.mp accepted).2 '-' List.mem_cons_self
  exact absurd digits (by decide)

end FiberApp.Devices
