import FiberApp.Devices.HardwareIdProperties
import Mathlib.Tactic.Common

/-! The substrings the parsers take out of a hardware id, as the pointer and the length they
hand to `assign`. Nothing compares either with the end of the text. -/

set_option autoImplicit false

namespace FiberApp.Devices

open Foundation

/-- The arguments of one `assign`: an offset into the text and a signed length. -/
structure Slice where
  start : Nat
  length : Int
  deriving DecidableEq, Repr

/-- What `assign` copies; a negative length is a huge unsigned one, for which it throws. -/
def Slice.copied (taken : Slice) (text : Chars) (pastEnd : PastEnd) : Option String :=
  if 0 ≤ taken.length then
    some (String.ofList
      (((text ++ '\x00' :: pastEnd.toList).drop taken.start).take taken.length.toNat))
  else none

/-- The substring starts inside the text and ends before its terminator, or right behind it
when the terminator may be copied too. -/
structure Slice.StaysInside (withTerminator : Bool) (text : Chars) (taken : Slice) :
    Prop where
  start : taken.start ≤ text.length
  nonneg : 0 ≤ taken.length
  last : (taken.start : Int) + taken.length ≤ text.length + (if withTerminator then 1 else 0)

/-- The class between two places of the text. -/
def coreClassTaken (hardwareId : Chars) : Option Slice :=
  match hardwareId.idxOf? '.', hardwareId.idxOf? '\\' with
  | some startChar, some endChar => some ⟨startChar + 1, (endChar : Int) - startChar - 1⟩
  | _, _ => none

def waveClassTaken (hardwareId : Chars) : Option Slice :=
  match hardwareId.idxOf? '#' with
  | some endChar => some ⟨4, (endChar : Int) - 4⟩
  | none => none

/-- `assign(startChar + 4, 4)` where the key is found. -/
def valueTaken (key hardwareId : Chars) : Option Slice :=
  (findFrom key hardwareId).map fun found => ⟨hardwareId.length - found.length + 4, 4⟩

namespace Located

def classTaken : Located → Option Slice
  | .core hardwareId _ => coreClassTaken hardwareId
  | .wave hardwareId => waveClassTaken hardwareId

/-- The keys searched after the class; none when taking the class throws. -/
def keys (located : Located) (priorClass : String) : List Chars :=
  match located.classOf with
  | none => []
  | some assigned =>
      [vendorKey (assigned.getD priorClass), productKey (assigned.getD priorClass)]

/-- The substrings taken, in order. -/
def taken (located : Located) (priorClass : String) : List Slice :=
  located.classTaken.toList ++
    (located.keys priorClass).filterMap (valueTaken · located.hardwareId)

end Located

/-! What the parsers assign is what is copied of these substrings. -/

theorem lt_length_of_idxOf? {text : Chars} {c : Char} {index : Nat}
    (found : text.idxOf? c = some index) : index < text.length :=
  (List.idxOf?_eq_some_iff.mp found).1

/-- Inside the text nothing behind it is copied. -/
theorem copied_eq_assignBetween {text : Chars} {first last : Nat} (inside : last < text.length)
    (pastEnd : PastEnd) (taken : Slice) (start : taken.start = first)
    (length : taken.length = (last : Int) - first) :
    taken.copied text pastEnd = assignBetween text first last := by
  rw [Slice.copied, assignBetween, start, length]
  by_cases ordered : first ≤ last
  · have exactly : ((last : Int) - first).toNat = last - first := by omega
    rw [if_pos (by omega), if_pos ordered, exactly, List.drop_append_of_le_length (by omega),
      List.take_append_of_le_length]
    rw [List.length_drop]
    omega
  · rw [if_neg (by omega), if_neg ordered]

theorem coreClass_eq_copied (hardwareId : Chars) (pastEnd : PastEnd) :
    coreClass hardwareId =
      match coreClassTaken hardwareId with
      | some taken => (taken.copied hardwareId pastEnd).map some
      | none => some none := by
  rw [coreClass, coreClassTaken]
  cases dot : hardwareId.idxOf? '.' with
  | none => rfl
  | some startChar =>
      cases backslash : hardwareId.idxOf? '\\' with
      | none => rfl
      | some endChar =>
          have inside := lt_length_of_idxOf? backslash
          have length : (endChar : Int) - startChar - 1 = endChar - (startChar + 1 : Nat) := by
            omega
          simp only [copied_eq_assignBetween inside pastEnd
            ⟨startChar + 1, (endChar : Int) - startChar - 1⟩ rfl length]

theorem waveClass_eq_copied (hardwareId : Chars) (pastEnd : PastEnd) :
    waveClass hardwareId =
      match waveClassTaken hardwareId with
      | some taken => (taken.copied hardwareId pastEnd).map some
      | none => some none := by
  rw [waveClass, waveClassTaken]
  cases hash : hardwareId.idxOf? '#' with
  | none => rfl
  | some endChar =>
      have inside := lt_length_of_idxOf? hash
      simp only [copied_eq_assignBetween inside pastEnd ⟨4, (endChar : Int) - 4⟩ rfl rfl]

/-- A key that is found is followed by the rest of the text it was found in. -/
theorem drop_eq_of_findFrom {key text found : Chars} (starts : findFrom key text = some found)
    (four : key.length = 4) :
    4 ≤ found.length ∧ found.length ≤ text.length ∧
      text.drop (text.length - found.length + 4) = found.drop 4 := by
  obtain ⟨suffix, leads⟩ := findFrom_some starts
  obtain ⟨before, rfl⟩ := suffix
  have long := leads.length_le
  rw [four] at long
  refine ⟨long, by simp, ?_⟩
  rw [List.length_append, Nat.add_sub_cancel, ← List.drop_drop, List.drop_left]

theorem keyedValue_eq_copied {key : Chars} (four : key.length = 4) (hardwareId : Chars)
    (pastEnd : PastEnd) (prior : String) :
    some (keyedValue key hardwareId pastEnd prior) =
      match valueTaken key hardwareId with
      | some taken => taken.copied hardwareId pastEnd
      | none => some prior := by
  rw [keyedValue, valueTaken]
  cases starts : findFrom key hardwareId with
  | none => rfl
  | some found =>
      obtain ⟨long, short, behind⟩ := drop_eq_of_findFrom starts four
      simp only [Option.map_some, Slice.copied, assignFour]
      rw [if_pos (by decide), List.drop_append_of_le_length (by omega), behind]
      rfl

/-! Where they stay inside. -/

namespace Located

/-- The end of the class is not in front of its start. -/
def SplitsInOrder : Located → Prop
  | .core hardwareId _ => ∀ startChar endChar, hardwareId.idxOf? '.' = some startChar →
      hardwareId.idxOf? '\\' = some endChar → startChar < endChar
  | .wave hardwareId => ∀ endChar, hardwareId.idxOf? '#' = some endChar → 4 ≤ endChar

end Located

/-- The characters behind the first place of the key make a value. -/
def ValueEnds (withTerminator : Bool) (key hardwareId : Chars) : Prop :=
  ∀ found, findFrom key hardwareId = some found →
    (if withTerminator then 3 else 4) ≤ (found.drop 4).length

/-- A substring that ends inside the text stays inside exactly if it is not negative. -/
theorem staysInside_of_inside {withTerminator : Bool} {text : Chars} {start last : Nat}
    {length : Int} (inside : last < text.length) (spans : length = (last : Int) - start) :
    (Slice.mk start length).StaysInside withTerminator text ↔ start ≤ last := by
  constructor
  · intro stays
    have nonneg := stays.nonneg
    simp only at nonneg
    omega
  · intro ordered
    refine ⟨?_, ?_, ?_⟩ <;> simp only
    · omega
    · omega
    · split <;> omega

theorem classTaken_staysInside_iff (withTerminator : Bool) (located : Located) :
    (∀ taken ∈ located.classTaken, taken.StaysInside withTerminator located.hardwareId) ↔
      located.SplitsInOrder := by
  cases located with
  | core hardwareId endpointType =>
      simp only [Located.classTaken, coreClassTaken, Located.SplitsInOrder, Located.hardwareId]
      cases dot : hardwareId.idxOf? '.' with
      | none => simp
      | some startChar =>
          cases backslash : hardwareId.idxOf? '\\' with
          | none => simp
          | some endChar =>
              have inside := lt_length_of_idxOf? backslash
              have length : (endChar : Int) - startChar - 1 = endChar - (startChar + 1 : Nat) := by
                omega
              simp only [Option.mem_def, Option.some.injEq, forall_eq',
                staysInside_of_inside inside length]
              constructor
              · rintro ordered _ _ rfl rfl
                exact ordered
              · intro ordered
                exact ordered startChar endChar rfl rfl
  | wave hardwareId =>
      simp only [Located.classTaken, waveClassTaken, Located.SplitsInOrder, Located.hardwareId]
      cases hash : hardwareId.idxOf? '#' with
      | none => simp
      | some endChar =>
          have inside := lt_length_of_idxOf? hash
          simp only [Option.mem_def, Option.some.injEq, forall_eq',
            staysInside_of_inside inside (show (endChar : Int) - 4 = endChar - (4 : Nat) from rfl)]

theorem valueTaken_staysInside_iff (withTerminator : Bool) {key : Chars} (four : key.length = 4)
    (hardwareId : Chars) :
    (∀ taken ∈ valueTaken key hardwareId, taken.StaysInside withTerminator hardwareId) ↔
      ValueEnds withTerminator key hardwareId := by
  simp only [valueTaken, ValueEnds]
  cases starts : findFrom key hardwareId with
  | none => simp
  | some found =>
      obtain ⟨long, short, -⟩ := drop_eq_of_findFrom starts four
      simp only [Option.map_some, Option.mem_def, Option.some.injEq, forall_eq', List.length_drop]
      constructor
      · intro stays
        have last := stays.last
        cases withTerminator <;> simp only [Bool.false_eq_true, if_true, if_false] at last ⊢ <;>
          omega
      · intro ends
        refine ⟨?_, ?_, ?_⟩ <;> simp only
        · omega
        · decide
        · cases withTerminator <;> simp only [Bool.false_eq_true, if_true, if_false] at ends ⊢ <;>
            omega

theorem four_of_mem_keys {located : Located} {priorClass : String} {key : Chars}
    (member : key ∈ located.keys priorClass) : key.length = 4 := by
  rw [Located.keys] at member
  cases split : located.classOf with
  | none => simp [split] at member
  | some assigned =>
      simp only [split, List.mem_cons, List.not_mem_nil, or_false] at member
      rcases member with rfl | rfl
      · unfold vendorKey
        split_ifs <;> rfl
      · unfold productKey
        split_ifs <;> rfl

/-- Every substring stays inside exactly if the class is split in order and every key that
is searched then has a value behind it. -/
theorem taken_staysInside_iff (withTerminator : Bool) (located : Located)
    (priorClass : String) :
    (∀ taken ∈ located.taken priorClass,
        taken.StaysInside withTerminator located.hardwareId) ↔
      located.SplitsInOrder ∧
        ∀ key ∈ located.keys priorClass, ValueEnds withTerminator key located.hardwareId := by
  rw [← classTaken_staysInside_iff withTerminator]
  simp only [Located.taken, List.mem_append, Option.mem_toList, List.mem_filterMap]
  constructor
  · intro stays
    refine ⟨fun taken member => stays taken (.inl member), fun key searched => ?_⟩
    rw [← valueTaken_staysInside_iff withTerminator (four_of_mem_keys searched)]
    exact fun taken member => stays taken (.inr ⟨key, searched, member⟩)
  · intro condition taken member
    obtain ⟨ordered, ends⟩ := condition
    rcases member with inClass | ⟨key, searched, inValue⟩
    · exact ordered taken inClass
    · exact (valueTaken_staysInside_iff withTerminator (four_of_mem_keys searched) _).mpr
        (ends key searched) taken inValue

/-- The value of an id cut behind the vendor key runs past the terminator. -/
theorem not_taken_staysInside :
    ¬ ∀ (located : Located) (priorClass : String), ∀ taken ∈ located.taken priorClass,
      taken.StaysInside true located.hardwareId := by
  intro stays
  have last := (stays (.core "{1}.USB\\VID_0".toList 4) "" ⟨12, 4⟩ (by decide)).last
  exact absurd last (by decide)

end FiberApp.Devices
