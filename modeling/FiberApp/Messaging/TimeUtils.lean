import Mathlib.Data.BitVec

/-! The 32-bit millisecond clock of `talk/base/timeutils.cc`. The file has every comparison
twice: the implementation that is compiled in subtracts, the other one asks whether a time
lies in the half circle that follows another. -/

set_option autoImplicit false

namespace FiberApp.Messaging

abbrev TimeStamp : Type := BitVec 32

def half : TimeStamp := 0x80000000

/-- What `Time()` returns when `clock` milliseconds have passed. -/
def time (clock : Nat) : TimeStamp := BitVec.ofNat 32 clock

def timeAfter (clock : Nat) (elapsed : Int) : TimeStamp := time clock + BitVec.ofInt 32 elapsed

def timeIsBetween (earlier middle later : TimeStamp) : Bool :=
  if earlier ≤ later then earlier ≤ middle && middle ≤ later
  else !(later < middle && middle < earlier)

def timeIsLaterOrEqual (earlier later : TimeStamp) : Bool :=
  let diff := later - earlier
  0 ≤ diff.toInt && diff < half

def timeIsLater (earlier later : TimeStamp) : Bool :=
  let diff := later - earlier
  0 < diff.toInt && diff < half

def timeDiff (later earlier : TimeStamp) : Int := (later - earlier).toInt

/-- `timeUntil(later)`, the clock reading given. -/
def timeUntil (now later : TimeStamp) : Int := timeDiff later now

namespace Plain

def timeIsLaterOrEqual (earlier later : TimeStamp) : Bool :=
  timeIsBetween earlier later (earlier + half)

def timeIsLater (earlier later : TimeStamp) : Bool :=
  !timeIsBetween later earlier (later + half)

/-- Whatever the width of `long`, the difference is returned as an `int32`. -/
def timeDiff (later earlier : TimeStamp) : Int :=
  if timeIsBetween earlier later (earlier + half) then
    if earlier ≤ later then (later - earlier).toInt
    else (later + (0xFFFFFFFF - earlier) + 1).toInt
  else if later ≤ earlier then (-(earlier - later)).toInt
  else (-(earlier + (0xFFFFFFFF - later) + 1)).toInt

end Plain

theorem half_toNat : half.toNat = 2147483648 := rfl

theorem timeIsBetween_half (start middle : TimeStamp) :
    timeIsBetween start middle (start + half) =
      decide ((middle - start).toNat ≤ 2147483648) := by
  have room : (start + half).toNat = (start.toNat + 2147483648) % 4294967296 := by
    rw [BitVec.toNat_add, half_toNat]
  have distance : (middle - start).toNat =
      (4294967296 - start.toNat + middle.toNat) % 4294967296 := BitVec.toNat_sub middle start
  have startBelow : start.toNat < 4294967296 := start.isLt
  have middleBelow : middle.toNat < 4294967296 := middle.isLt
  rw [Bool.eq_iff_iff, decide_eq_true_eq, distance]
  by_cases order : start ≤ start + half
  · have inOrder := BitVec.le_def.mp order
    rw [timeIsBetween, if_pos order]
    simp only [Bool.and_eq_true, decide_eq_true_eq, BitVec.le_def]
    omega
  · have wraps := mt BitVec.le_def.mpr order
    rw [timeIsBetween, if_neg order]
    simp only [Bool.not_eq_true', Bool.and_eq_false_iff, decide_eq_false_iff_not, BitVec.lt_def]
    omega

theorem timeIsLater_iff (earlier later : TimeStamp) :
    timeIsLater earlier later = true ↔
      0 < (later - earlier).toNat ∧ (later - earlier).toNat < 2147483648 := by
  simp only [timeIsLater, BitVec.toInt_eq_toNat_cond, BitVec.lt_def, half_toNat,
    Bool.and_eq_true, decide_eq_true_eq]
  split <;> omega

theorem timeIsLaterOrEqual_iff (earlier later : TimeStamp) :
    timeIsLaterOrEqual earlier later = true ↔ (later - earlier).toNat < 2147483648 := by
  simp only [timeIsLaterOrEqual, BitVec.toInt_eq_toNat_cond, BitVec.lt_def, half_toNat,
    Bool.and_eq_true, decide_eq_true_eq]
  split <;> omega

/-- The two directions of a difference add up to the whole circle. -/
theorem sub_swap_toNat (earlier later : TimeStamp) (apart : earlier ≠ later) :
    (earlier - later).toNat + (later - earlier).toNat = 4294967296 := by
  have different : earlier.toNat ≠ later.toNat := fun same => apart (BitVec.eq_of_toNat_eq same)
  have earlierBelow : earlier.toNat < 4294967296 := earlier.isLt
  have laterBelow : later.toNat < 4294967296 := later.isLt
  rw [BitVec.toNat_sub, BitVec.toNat_sub]
  omega

theorem plain_timeIsLater (earlier later : TimeStamp) :
    Plain.timeIsLater earlier later = timeIsLater earlier later := by
  rw [Plain.timeIsLater, timeIsBetween_half, Bool.eq_iff_iff, timeIsLater_iff]
  simp only [Bool.not_eq_true', decide_eq_false_iff_not]
  by_cases same : earlier = later
  · subst same
    simp
  · have circle := sub_swap_toNat earlier later same
    have below := (earlier - later).isLt
    omega

theorem plain_timeIsLaterOrEqual_iff (earlier later : TimeStamp) :
    Plain.timeIsLaterOrEqual earlier later = timeIsLaterOrEqual earlier later ↔
      later - earlier ≠ half := by
  rw [Plain.timeIsLaterOrEqual, timeIsBetween_half, Bool.eq_iff_iff, timeIsLaterOrEqual_iff,
    decide_eq_true_eq, Ne, BitVec.toNat_eq, half_toNat]
  omega

theorem plain_timeDiff (later earlier : TimeStamp) :
    Plain.timeDiff later earlier = timeDiff later earlier := by
  have around : later + (0xFFFFFFFF - earlier) + 1 = later - earlier := by bv_omega
  have backwards : -(earlier - later) = later - earlier := by bv_omega
  have backwardsAround : -(earlier + (0xFFFFFFFF - later) + 1) = later - earlier := by bv_omega
  simp only [Plain.timeDiff, timeDiff, around, backwards, backwardsAround, ite_self]

/-- The implementation compiled in agrees with the other one, but for the inclusive comparison
of two times that are half a circle apart. -/
theorem implementations_agree (earlier later : TimeStamp) :
    Plain.timeIsLater earlier later = timeIsLater earlier later ∧
      Plain.timeDiff later earlier = timeDiff later earlier ∧
        (Plain.timeIsLaterOrEqual earlier later = timeIsLaterOrEqual earlier later ↔
          later - earlier ≠ half) :=
  ⟨plain_timeIsLater earlier later, plain_timeDiff later earlier,
    plain_timeIsLaterOrEqual_iff earlier later⟩

end FiberApp.Messaging
