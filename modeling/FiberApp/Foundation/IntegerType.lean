import Mathlib.Algebra.Order.Ring.Int

/-! Machine integers of a type that has a width and may have a sign. A value that leaves
its type wraps around. A sum can be converted to its type once at the end; a division does
not undo the conversion. -/

set_option autoImplicit false

namespace FiberApp.Foundation

theorem ediv_eq_zero_iff_lt {dividend divisor : Int} (nonneg : 0 ≤ dividend)
    (divides : 0 < divisor) : dividend / divisor = 0 ↔ dividend < divisor := by
  rw [Int.ediv_eq_iff_of_pos divides]
  omega

/-- A quotient is a multiple of a number if and only if the dividend leaves less than the
divisor over a multiple of their product. -/
theorem dvd_ediv_iff {factor divisor : Int} (positive : 0 < factor) (divides : 0 < divisor)
    (dividend : Int) :
    factor ∣ dividend / divisor ↔ dividend % (factor * divisor) < divisor := by
  have whole := Int.mul_ediv_add_emod dividend (factor * divisor)
  have low := Int.emod_nonneg dividend (Int.mul_pos positive divides).ne'
  have high := Int.emod_lt_of_pos dividend (Int.mul_pos positive divides)
  generalize dividend % (factor * divisor) = rest at whole low high ⊢
  generalize dividend / (factor * divisor) = multiple at whole
  have split : dividend / divisor = rest / divisor + factor * multiple := by
    rw [← whole, Int.add_comm, Int.mul_right_comm, Int.add_mul_ediv_right _ _ divides.ne']
  have restLow := Int.ediv_nonneg low (Int.le_of_lt divides)
  have restHigh : rest / divisor < factor := Int.ediv_lt_of_lt_mul divides high
  rw [split, Int.dvd_add_left (Int.dvd_mul_right factor multiple),
    ← ediv_eq_zero_iff_lt low divides]
  constructor
  · exact Int.eq_zero_of_dvd_of_nonneg_of_lt restLow restHigh
  · intro zero
    rw [zero]
    exact Int.dvd_zero factor

/-- Truncated division rounds towards zero, so a negative number has the quotient of an
unsigned one only when both are zero. -/
theorem ediv_emod_eq_tdiv_iff {divisor : Int} (divides : 0 < divisor)
    (bounded : divisor < 2 ^ 32) (sum : Int) :
    sum % 2 ^ 32 / divisor = sum.tdiv divisor ↔
      (0 ≤ sum ∧ sum < 2 ^ 32) ∨ (-divisor < sum ∧ sum < divisor - 2 ^ 32) := by
  have unsignedLow := Int.emod_nonneg sum (by decide : (2 : Int) ^ 32 ≠ 0)
  rcases lt_or_ge sum 0 with negative | notNegative
  · have opposite : sum.tdiv divisor = -(-sum / divisor) := by
      rw [← Int.tdiv_eq_ediv_of_nonneg (by omega), Int.neg_tdiv, Int.neg_neg]
    have unsigned := Int.ediv_nonneg unsignedLow divides.le
    have signed : 0 ≤ -sum / divisor := Int.ediv_nonneg (by omega) divides.le
    have both : sum % 2 ^ 32 / divisor = sum.tdiv divisor ↔
        sum % 2 ^ 32 / divisor = 0 ∧ -sum / divisor = 0 := by
      omega
    rw [both, ediv_eq_zero_iff_lt unsignedLow divides, ediv_eq_zero_iff_lt (by omega) divides]
    omega
  · rw [Int.tdiv_eq_ediv_of_nonneg notNegative]
    have whole := Int.mul_ediv_add_emod sum divisor
    have rest := Int.emod_nonneg sum divides.ne'
    have restBelow := Int.emod_lt_of_pos sum divides
    have unsignedWhole := Int.mul_ediv_add_emod (sum % 2 ^ 32) divisor
    have unsignedRest := Int.emod_nonneg (sum % 2 ^ 32) divides.ne'
    have unsignedBelow := Int.emod_lt_of_pos (sum % 2 ^ 32) divides
    constructor
    · intro same
      rw [same] at unsignedWhole
      omega
    · intro condition
      rw [Int.emod_eq_of_lt] <;> omega

structure IntegerType where
  width : Nat
  signed : Bool
  width_pos : 0 < width
  deriving DecidableEq, Repr

namespace IntegerType

def int32 : IntegerType := ⟨32, true, by decide⟩

variable (type : IntegerType)

/-- `numeric_limits<T>::min()`. -/
def minValue : Int := if type.signed then -2 ^ (type.width - 1) else 0

/-- `numeric_limits<T>::max()`. -/
def maxValue : Int := if type.signed then 2 ^ (type.width - 1) - 1 else 2 ^ type.width - 1

theorem maxValue_eq : type.maxValue = type.minValue + 2 ^ type.width - 1 := by
  obtain ⟨width, signed, positive⟩ := type
  obtain ⟨smaller, rfl⟩ : ∃ smaller, width = smaller + 1 := ⟨width - 1, by omega⟩
  cases signed with
  | true =>
      simp only [maxValue, minValue, if_true, Nat.add_sub_cancel, Int.pow_succ]
      omega
  | false =>
      simp only [maxValue, minValue, Bool.false_eq_true, if_false]
      omega

theorem size_pos : (0 : Int) < 2 ^ type.width := Int.pow_pos (by decide)

theorem minValue_le_maxValue : type.minValue ≤ type.maxValue := by
  have size := type.size_pos
  rw [maxValue_eq]
  omega

abbrev Value : Type := { value : Int // type.minValue ≤ value ∧ value ≤ type.maxValue }

/-- The conversion to the type. -/
def wrap (value : Int) : type.Value :=
  ⟨(value - type.minValue) % 2 ^ type.width + type.minValue, by
    have size := type.size_pos
    have low := Int.emod_nonneg (value - type.minValue) size.ne'
    have high := Int.emod_lt_of_pos (value - type.minValue) size
    rw [maxValue_eq]
    constructor <;> omega⟩

def lowest : type.Value := ⟨type.minValue, Int.le_refl _, type.minValue_le_maxValue⟩

def highest : type.Value := ⟨type.maxValue, type.minValue_le_maxValue, Int.le_refl _⟩

/-- `/=` with a `uint32_t`. Up to 32 bits both operands are made unsigned; a wider type
keeps its own sign. -/
def divide (total : type.Value) (count : UInt32) : type.Value :=
  if type.width ≤ 32 then type.wrap (total.val % 2 ^ 32 / count.toNat)
  else type.wrap (total.val.tdiv count.toNat)

theorem minValue_nonpos : type.minValue ≤ 0 := by
  have size : (0 : Int) < 2 ^ (type.width - 1) := Int.pow_pos (by decide)
  rw [minValue]
  split <;> omega

theorem maxValue_nonneg : 0 ≤ type.maxValue := by
  have half : (0 : Int) < 2 ^ (type.width - 1) := Int.pow_pos (by decide)
  have size := type.size_pos
  rw [maxValue]
  split <;> omega

/-- What the conversion to the type takes off a value, a multiple of the type's size. -/
def overflow (value : Int) : Int := value - (type.wrap value).val

theorem overflow_eq (value : Int) :
    type.overflow value = 2 ^ type.width * ((value - type.minValue) / 2 ^ type.width) := by
  have whole := Int.mul_ediv_add_emod (value - type.minValue) (2 ^ type.width)
  simp only [overflow, wrap]
  omega

theorem wrap_of_mem {value : Int} (low : type.minValue ≤ value) (high : value ≤ type.maxValue) :
    (type.wrap value).val = value := by
  rw [maxValue_eq] at high
  simp only [wrap]
  rw [Int.emod_eq_of_lt (by omega) (by omega)]
  omega

/-- The conversion gives a value of the type if and only if it takes off the difference. -/
theorem wrap_eq_iff {value target : Int} (low : type.minValue ≤ target)
    (high : target ≤ type.maxValue) :
    (type.wrap value).val = target ↔ 2 ^ type.width ∣ value - target := by
  constructor
  · intro same
    have taken := type.overflow_eq value
    rw [overflow, same] at taken
    exact ⟨_, taken⟩
  · intro divides
    obtain ⟨multiple, difference⟩ := divides
    have shifted : value - type.minValue =
        target - type.minValue + 2 ^ type.width * multiple := by omega
    rw [maxValue_eq] at high
    simp only [wrap]
    rw [shifted, Int.add_mul_emod_self_left, Int.emod_eq_of_lt (by omega) (by omega)]
    omega

theorem dvd_overflow (value : Int) : 2 ^ type.width ∣ type.overflow value :=
  ⟨_, type.overflow_eq value⟩

theorem wrap_add (first second : Int) :
    type.wrap ((type.wrap first).val + second) = type.wrap (first + second) := by
  have inside := (type.wrap (first + second)).property
  refine Subtype.ext ((type.wrap_eq_iff inside.1 inside.2).mpr ?_)
  have taken : (type.wrap first).val + second - (type.wrap (first + second)).val =
      type.overflow (first + second) - type.overflow first := by
    simp only [overflow]
    omega
  rw [taken]
  exact Int.dvd_sub (type.dvd_overflow _) (type.dvd_overflow _)

theorem foldl_wrap (total : Int) (values : List type.Value) :
    values.foldl (fun total value => type.wrap (total.val + value.val)) (type.wrap total) =
      type.wrap (total + (values.map Subtype.val).sum) := by
  induction values generalizing total with
  | nil => rw [List.foldl_nil, List.map_nil, List.sum_nil, Int.add_zero]
  | cons value values ih =>
      rw [List.foldl_cons, wrap_add, ih, List.map_cons, List.sum_cons, Int.add_assoc]

/-- An average of values of the type is a value of the type. -/
theorem tdiv_mem {sum : Int} {count : Nat} (positive : 0 < count)
    (low : type.minValue * count ≤ sum) (high : sum ≤ type.maxValue * count) :
    type.minValue ≤ sum.tdiv count ∧ sum.tdiv count ≤ type.maxValue := by
  have counted : (0 : Int) < count := Int.natCast_pos.mpr positive
  have least := Int.tdiv_le_tdiv counted low
  have most := Int.tdiv_le_tdiv counted high
  rw [Int.mul_tdiv_cancel _ counted.ne'] at least most
  exact ⟨least, most⟩

theorem sum_mem (values : List type.Value) :
    type.minValue * values.length ≤ (values.map Subtype.val).sum ∧
      (values.map Subtype.val).sum ≤ type.maxValue * values.length := by
  induction values with
  | nil => simp
  | cons value values ih =>
      have inside := value.property
      rw [List.map_cons, List.sum_cons, List.length_cons, Nat.cast_succ, Int.mul_add,
        Int.mul_add, Int.mul_one, Int.mul_one]
      omega

/-- When a sum that is converted to the type and divided there gives the quotient of the
sum. A type of more than 32 bits has to hold the sum. A type of 32 bits takes the sum as an
unsigned number, which is another one unless it is below `2 ^ 32`; that does not show where
nothing is divided, or where both quotients are zero. In a smaller type the quotient is
converted once more, and what was added to the sum or taken off it must not show in that. -/
def QuotientExact (sum : Int) (count : Nat) : Prop :=
  if 32 < type.width then type.minValue ≤ sum ∧ sum ≤ type.maxValue
  else if type.width = 32 then
    count = 1 ∨ (0 ≤ sum ∧ sum < 2 ^ 32) ∨ (-count < sum ∧ sum < count - 2 ^ 32)
  else
    (sum.tmod count - type.overflow sum + if sum < type.overflow sum then 2 ^ 32 else 0) %
      (2 ^ type.width * count) < count

/-- A type that holds a nonnegative sum divides it as any other number. -/
theorem quotientExact_of_nonneg {sum : Int} {count : Nat} (positive : 0 < count)
    (nonneg : 0 ≤ sum) (fits : sum ≤ type.maxValue) : type.QuotientExact sum count := by
  have low := type.minValue_nonpos.trans nonneg
  have kept := type.wrap_of_mem low fits
  rw [QuotientExact]
  split
  case isTrue wide => exact ⟨low, fits⟩
  split
  case isTrue word =>
    have high : type.maxValue < 2 ^ 32 := by
      have minValue := type.minValue_nonpos
      rw [maxValue_eq, word]
      omega
    exact .inr (.inl ⟨nonneg, by omega⟩)
  case isFalse narrow =>
    have counted : (0 : Int) < count := Int.natCast_pos.mpr positive
    have restLow := Int.tmod_nonneg count nonneg
    have restHigh := Int.tmod_lt_of_pos sum counted
    have atLeast : (count : Int) ≤ 2 ^ type.width * count :=
      le_mul_of_one_le_left counted.le (Int.add_one_le_of_lt type.size_pos)
    rw [overflow, kept, Int.sub_self, if_neg (by omega), Int.sub_zero, Int.add_zero,
      Int.emod_eq_of_lt restLow (by omega)]
    exact restHigh

/-- As an unsigned number of 32 bits, a negative value of a type of up to 32 bits is larger
by the size of that. -/
theorem emod_of_narrow (narrow : type.width ≤ 32) (value : type.Value) :
    value.val % 2 ^ 32 = value.val + if value.val < 0 then 2 ^ 32 else 0 := by
  obtain ⟨value, low, high⟩ := value
  have size : (2 : Int) ^ type.width ≤ 2 ^ 32 := pow_le_pow_right₀ (by decide) narrow
  have minValue := type.minValue_nonpos
  have maxValue := type.maxValue_nonneg
  rw [maxValue_eq] at high maxValue
  change value % 2 ^ 32 = value + if value < 0 then 2 ^ 32 else 0
  split
  case isTrue negative =>
    rw [← Int.add_emod_right]
    exact Int.emod_eq_of_lt (by omega) (by omega)
  case isFalse notNegative =>
    rw [Int.add_zero]
    exact Int.emod_eq_of_lt (by omega) (by omega)

section

variable {type : IntegerType} {sum : Int} {count : UInt32}

/-- Two values of a wide type with the same quotient are closer than the type's size. -/
theorem divide_wide_iff (wide : 32 < type.width) (positive : 0 < count.toNat) :
    (type.divide (type.wrap sum) count).val = sum.tdiv count.toNat ↔
      type.QuotientExact sum count.toNat := by
  have counted : (0 : Int) < count.toNat := Int.natCast_pos.mpr positive
  have inside := (type.wrap sum).property
  have kept : (type.wrap ((type.wrap sum).val.tdiv count.toNat)).val =
      (type.wrap sum).val.tdiv count.toNat := by
    have one : (1 : Int) ≤ count.toNat := Int.add_one_le_of_lt counted
    obtain ⟨least, most⟩ := type.tdiv_mem positive
      ((mul_le_of_one_le_right type.minValue_nonpos one).trans inside.1)
      (inside.2.trans (le_mul_of_one_le_right type.maxValue_nonneg one))
    exact type.wrap_of_mem least most
  rw [divide, if_neg (by omega), QuotientExact, if_pos wide, kept]
  constructor
  · intro same
    have size : (2 : Int) ^ 33 ≤ 2 ^ type.width := pow_le_pow_right₀ (by decide) wide
    have below := count.toNat_lt
    have sumWhole := Int.mul_tdiv_add_tmod sum count.toNat
    have wrappedWhole := Int.mul_tdiv_add_tmod (type.wrap sum).val count.toNat
    have sumHigh := Int.tmod_lt_of_pos sum counted
    have sumLow := Int.lt_tmod_of_pos sum counted
    have wrappedHigh := Int.tmod_lt_of_pos (type.wrap sum).val counted
    have wrappedLow := Int.lt_tmod_of_pos (type.wrap sum).val counted
    rw [same] at wrappedWhole
    have nothing : type.overflow sum = 0 := by
      refine Int.eq_zero_of_abs_lt_dvd (type.dvd_overflow sum) ?_
      rw [overflow, abs_lt]
      constructor <;> omega
    rw [overflow] at nothing
    omega
  · intro fits
    rw [type.wrap_of_mem fits.1 fits.2]

/-- The quotient in a type of 32 bits is one of unsigned numbers. Unless nothing is divided
it is below `2 ^ 31`, so the conversion cannot make it the quotient of the sum. -/
theorem divide_word_iff (word : type.width = 32) (positive : 0 < count.toNat)
    (low : type.minValue * count.toNat ≤ sum) (high : sum ≤ type.maxValue * count.toNat) :
    (type.divide (type.wrap sum) count).val = sum.tdiv count.toNat ↔
      type.QuotientExact sum count.toNat := by
  obtain ⟨least, most⟩ := type.tdiv_mem positive low high
  have unsigned : (type.wrap sum).val % 2 ^ 32 = sum % 2 ^ 32 := by
    have taken := type.dvd_overflow sum
    rw [word, overflow] at taken
    omega
  rw [divide, if_pos (by omega), QuotientExact, if_neg (by omega), if_pos word, unsigned,
    type.wrap_eq_iff least most, word]
  rcases Nat.eq_or_lt_of_le positive with one | several
  · rw [← one]
    simp only [Nat.cast_one, Int.ediv_one, Int.tdiv_one, true_or, iff_true]
    omega
  · have counted : (0 : Int) < count.toNat := Int.natCast_pos.mpr positive
    have below := count.toNat_lt
    have bounds : -2 ^ 31 ≤ type.minValue ∧ type.maxValue < 2 ^ 32 := by
      rw [maxValue_eq, minValue, word]
      split <;> omega
    have unsignedLow := Int.emod_nonneg sum (by decide : (2 : Int) ^ 32 ≠ 0)
    have unsignedHigh := Int.emod_lt_of_pos sum (by decide : (0 : Int) < 2 ^ 32)
    have quotientLow := Int.ediv_nonneg unsignedLow counted.le
    have quotientHigh : sum % 2 ^ 32 / count.toNat < 2 ^ 31 :=
      Int.ediv_lt_of_lt_mul counted (by omega)
    rw [← ediv_emod_eq_tdiv_iff counted (by omega)]
    omega

theorem divide_narrow_iff (narrow : type.width < 32) (positive : 0 < count.toNat)
    (low : type.minValue * count.toNat ≤ sum) (high : sum ≤ type.maxValue * count.toNat) :
    (type.divide (type.wrap sum) count).val = sum.tdiv count.toNat ↔
      type.QuotientExact sum count.toNat := by
  obtain ⟨least, most⟩ := type.tdiv_mem positive low high
  have counted : (0 : Int) < count.toNat := Int.natCast_pos.mpr positive
  have whole := Int.mul_tdiv_add_tmod sum count.toNat
  have taken : (type.wrap sum).val = sum - type.overflow sum := by
    rw [overflow]
    omega
  have rest : (type.wrap sum).val % 2 ^ 32 - sum.tdiv count.toNat * count.toNat =
      sum.tmod count.toNat - type.overflow sum +
        if sum < type.overflow sum then 2 ^ 32 else 0 := by
    have negative : sum - type.overflow sum < 0 ↔ sum < type.overflow sum := sub_neg
    rw [type.emod_of_narrow narrow.le, taken, Int.mul_comm (sum.tdiv count.toNat),
      if_congr negative rfl rfl]
    omega
  rw [divide, if_pos narrow.le, QuotientExact, if_neg (by omega), if_neg (by omega),
    type.wrap_eq_iff least most, ← Int.sub_mul_ediv_right _ _ counted.ne',
    dvd_ediv_iff type.size_pos counted, rest]

theorem divide_iff (positive : 0 < count.toNat)
    (low : type.minValue * count.toNat ≤ sum) (high : sum ≤ type.maxValue * count.toNat) :
    (type.divide (type.wrap sum) count).val = sum.tdiv count.toNat ↔
      type.QuotientExact sum count.toNat := by
  rcases Nat.lt_trichotomy type.width 32 with narrow | word | wide
  · exact divide_narrow_iff narrow positive low high
  · exact divide_word_iff word positive low high
  · exact divide_wide_iff wide positive

end

end IntegerType

end FiberApp.Foundation
