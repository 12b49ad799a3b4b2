import FiberApp.Devices.ScreenSharing
import Mathlib.Algebra.Group.Nat.Defs
import Mathlib.Data.List.TakeWhile

/-! The decoder reads the last number of an id, which is the screen index only when
the id names no application. -/

set_option autoImplicit false

namespace FiberApp.Devices.ScreenSharing

open Foundation

theorem isDigit_of_mem_toDigits {character : Char} {number : Nat}
    (member : character ∈ Nat.toDigits 10 number) : character.isDigit = true :=
  Nat.isDigit_of_mem_toDigits (by decide) (by decide) member

theorem not_mem_toDecimal {separator : Char} (number : Int)
    (notDigit : separator.isDigit = false) (notSign : separator ≠ '-') :
    separator ∉ toDecimal number := by
  intro member
  cases number with
  | ofNat number =>
      rw [toDecimal] at member
      rw [isDigit_of_mem_toDigits member] at notDigit
      cases notDigit
  | negSucc number =>
      rw [toDecimal, List.mem_cons] at member
      rcases member with same | member
      · exact notSign same
      · rw [isDigit_of_mem_toDigits member] at notDigit
        cases notDigit

@[simp] theorem digitsValue_toDigits (number : Nat) :
    digitsValue (Nat.toDigits 10 number) = number := by
  have digits : (Nat.toDigits 10 number).takeWhile Char.isDigit = Nat.toDigits 10 number :=
    List.takeWhile_eq_self_iff.mpr fun _ member => isDigit_of_mem_toDigits member
  rw [digitsValue, digits, Nat.ofDigitChars_ten_toDigits]

theorem signedValue_of_digit {first : Char} {rest : Text} (digit : first.isDigit = true) :
    signedValue (first :: rest) = digitsValue (first :: rest) := by
  have notSpace : isSpace first = false := by
    by_contra space
    simp only [Bool.not_eq_false, isSpace, decide_eq_true_eq, List.mem_cons,
      List.not_mem_nil, or_false] at space
    rcases space with rfl | rfl | rfl | rfl | rfl | rfl <;> exact absurd digit (by decide)
  rw [signedValue, List.dropWhile_cons_of_neg (by simp [notSpace])]
  split
  · rename_i same
    cases same
    exact absurd digit (by decide)
  · rename_i same
    cases same
    exact absurd digit (by decide)
  · rfl

theorem signedValue_toDecimal (number : Int) : signedValue (toDecimal number) = number := by
  cases number with
  | ofNat number =>
      have nonempty : Nat.toDigits 10 number ≠ [] := Nat.toDigits_ne_nil
      obtain ⟨first, rest, same⟩ := List.exists_cons_of_ne_nil nonempty
      have member : first ∈ Nat.toDigits 10 number := by
        rw [same]
        exact List.mem_cons_self
      have digit : first.isDigit = true := isDigit_of_mem_toDigits member
      rw [toDecimal, same, signedValue_of_digit digit, ← same, digitsValue_toDigits]
      rfl
  | negSucc number =>
      rw [toDecimal, signedValue, List.dropWhile_cons_of_neg (by decide)]
      simp only [digitsValue_toDigits]
      rfl

theorem atoi_toDecimal (outOfRange : Int → Int32) (number : Int) :
    atoi outOfRange (toDecimal number) =
      if -2 ^ 31 ≤ number ∧ number < 2 ^ 31 then Int32.ofInt number else outOfRange number := by
  rw [atoi, signedValue_toDecimal]

theorem atoi_toDecimal_toInt (outOfRange : Int → Int32) (index : Int32) :
    atoi outOfRange (toDecimal index.toInt) = index := by
  rw [atoi_toDecimal, if_pos ⟨index.le_toInt, index.toInt_lt⟩, Int32.ofInt_toInt]

/-- Every id starts with the guid, whatever follows it. -/
theorem isScreenSharingDevice_uniqueID (index : Int32) (appId : UInt64) :
    isScreenSharingDevice (getScreenSharingDeviceUniqueID index appId) = true := by
  rw [isScreenSharingDevice, List.isPrefixOf_iff_prefix, getScreenSharingDeviceUniqueID]
  split
  · rw [List.append_assoc]
    exact List.prefix_append _ _
  · exact List.prefix_append _ _

theorem getScreenSharingDeviceIndex_append (outOfRange : Int → Int32) (before : Text)
    (number : Int) :
    getScreenSharingDeviceIndex outOfRange (before ++ '\\' :: toDecimal number) =
      atoi outOfRange (toDecimal number) := by
  have outside : '\\' ∉ toDecimal number := not_mem_toDecimal number (by decide) (by decide)
  rw [getScreenSharingDeviceIndex, fromLast_append_cons before outside]
  rfl

/-- With an application the decoder returns its id, so the round trip holds only
where the two numbers agree. -/
theorem getScreenSharingDeviceIndex_uniqueID_iff (outOfRange : Int → Int32) (index : Int32)
    (appId : UInt64) :
    getScreenSharingDeviceIndex outOfRange (getScreenSharingDeviceUniqueID index appId) = index ↔
      appId = 0 ∨ (appId.toNat : Int) = index.toInt ∨
        (2 ^ 31 ≤ appId.toNat ∧ outOfRange appId.toNat = index) := by
  by_cases whole : appId = 0
  · rw [getScreenSharingDeviceUniqueID, if_neg (not_not.mpr whole),
      getScreenSharingDeviceIndex_append, atoi_toDecimal_toInt]
    simp [whole]
  · rw [getScreenSharingDeviceUniqueID, if_pos whole, getScreenSharingDeviceIndex_append,
      atoi_toDecimal]
    have upper := index.toInt_lt
    by_cases inRange : (appId.toNat : Int) < 2 ^ 31
    · rw [if_pos ⟨by omega, inRange⟩, ← Int32.toInt_inj,
        Int32.toInt_ofInt_of_le (by omega) (by omega)]
      have notLarge : ¬ 2 ^ 31 ≤ appId.toNat := by omega
      constructor
      · exact fun same => .inr (.inl same)
      · rintro (zero | same | ⟨large, _⟩)
        · exact absurd zero whole
        · exact same
        · exact absurd large notLarge
    · rw [if_neg (by omega)]
      have different : (appId.toNat : Int) ≠ index.toInt := by omega
      have large : 2 ^ 31 ≤ appId.toNat := by omega
      constructor
      · exact fun same => .inr (.inr ⟨large, same⟩)
      · rintro (zero | same | ⟨_, same⟩)
        · exact absurd zero whole
        · exact absurd same different
        · exact same

/-- The first screen, shared for the application with id 5, is read as screen 5. -/
theorem getScreenSharingDeviceIndex_application :
    ¬ ∀ (outOfRange : Int → Int32) (index : Int32) (appId : UInt64), 0 ≤ index →
      getScreenSharingDeviceIndex outOfRange (getScreenSharingDeviceUniqueID index appId) =
        index := by
  intro roundTrip
  have same := roundTrip (fun _ => 0) 0 5 (by decide)
  revert same
  decide

end FiberApp.Devices.ScreenSharing
