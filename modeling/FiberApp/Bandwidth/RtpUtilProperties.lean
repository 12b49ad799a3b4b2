import FiberApp.Bandwidth.RtpUtil
import Mathlib.Algebra.Group.Nat.Defs
import Mathlib.Tactic.Tauto

/-! How far the comparison of `rtputil.h` is a serial-number order. -/

set_option autoImplicit false

namespace FiberApp.Bandwidth

variable {w : Nat}

/-- The distance at which neither of two numbers is ahead of the other. -/
def halfRange (w : Nat) : BitVec w := BitVec.twoPow w (w - 1)

def ExactlyOne (p q r : Prop) : Prop :=
  p ∧ ¬ q ∧ ¬ r ∨ ¬ p ∧ q ∧ ¬ r ∨ ¬ p ∧ ¬ q ∧ r

/-- The law of a serial-number order for two numbers, and for 16 bits its agreement with
the sign of the difference. -/
def OrderedSerially (lhs rhs : BitVec w) : Prop :=
  ExactlyOne (lhs = rhs) (rtpLess lhs rhs = true) (rtpLess rhs lhs = true) ∧
    ∀ sixteen : w = 16,
      rtpLess lhs rhs = true ↔ seqDelta (lhs.cast sixteen) (rhs.cast sixteen) < 0

theorem rtpGreater_eq (lhs rhs : BitVec w) : rtpGreater lhs rhs = rtpLess rhs lhs := rfl

theorem halfOfMax_succ (n : Nat) : halfOfMax (n + 1) = 2 ^ n - 1 := by
  rw [halfOfMax, BitVec.toNat_allOnes, Nat.pow_succ]
  omega

theorem toNat_halfRange (n : Nat) : (halfRange (n + 1)).toNat = 2 ^ n := by
  rw [halfRange, BitVec.toNat_twoPow, Nat.add_sub_cancel]
  exact Nat.mod_eq_of_lt (Nat.pow_lt_pow_succ (by decide))

section Distance

/-! The width is `n + 2`, so half the range is `2 ^ (n + 1)`. -/

variable {n : Nat} (lhs rhs : BitVec (n + 2))

theorem two_pow_width : 2 ^ (n + 2) = 2 * 2 ^ (n + 1) := by
  rw [Nat.pow_succ, Nat.mul_comm]

theorem two_le_half : 2 ≤ 2 ^ (n + 1) := Nat.le_self_pow (Nat.succ_ne_zero n) 2

theorem rtpLess_iff :
    rtpLess lhs rhs = true ↔ 2 ^ (n + 1) ≤ (lhs - rhs).toNat + 1 := by
  rw [rtpLess, decide_eq_true_iff, halfOfMax_succ]
  omega

theorem toNat_sub_swap (different : lhs ≠ rhs) :
    (rhs - lhs).toNat = 2 ^ (n + 2) - (lhs - rhs).toNat := by
  have positive : (lhs - rhs).toNat ≠ 0 := by
    intro zero
    exact different (BitVec.sub_eq_iff_eq_add.mp (BitVec.eq_of_toNat_eq zero) |>.trans
      (BitVec.zero_add rhs))
  have bound := (lhs - rhs).isLt
  have opposite : rhs - lhs = -(lhs - rhs) := by
    rw [BitVec.neg_sub, BitVec.add_comm, ← BitVec.sub_eq_add_neg]
  rw [opposite, BitVec.toNat_neg, Nat.mod_eq_of_lt (by omega)]

theorem rtpLess_swap_iff (different : lhs ≠ rhs) :
    rtpLess rhs lhs = true ↔ (lhs - rhs).toNat ≤ 2 ^ (n + 1) + 1 := by
  have bound := (lhs - rhs).isLt
  rw [rtpLess_iff, toNat_sub_swap lhs rhs different, two_pow_width] at *
  omega

theorem not_rtpLess_self : ¬ rtpLess lhs lhs = true := by
  have wide := two_le_half (n := n)
  rw [rtpLess_iff, BitVec.sub_self, BitVec.toNat_zero]
  omega

theorem exactlyOne_iff (away : (lhs - rhs).toNat ≠ 2 ^ (n + 1)) :
    ExactlyOne (lhs = rhs) (rtpLess lhs rhs = true) (rtpLess rhs lhs = true) ↔
      (lhs - rhs).toNat + 1 ≠ 2 ^ (n + 1) ∧ (lhs - rhs).toNat ≠ 2 ^ (n + 1) + 1 := by
  have wide := two_le_half (n := n)
  by_cases same : lhs = rhs
  · subst same
    have refused := not_rtpLess_self lhs
    rw [BitVec.sub_self, BitVec.toNat_zero]
    constructor
    · intro _
      omega
    · intro _
      exact .inl ⟨rfl, refused, refused⟩
  · rw [ExactlyOne, rtpLess_iff, rtpLess_swap_iff lhs rhs same]
    simp only [same, false_and, not_false_eq_true, true_and, false_or]
    omega

end Distance

/-- The 16-bit difference is negative from half the range on. -/
theorem seqDelta_neg_iff (cur prev : BitVec 16) :
    seqDelta cur prev < 0 ↔ 2 ^ 15 ≤ (cur - prev).toNat := by
  rw [seqDelta, BitVec.toInt_eq_toNat_cond]
  have bound := (cur - prev).isLt
  split <;> omega

theorem agrees_with_seqDelta {n : Nat} {lhs rhs : BitVec (n + 2)}
    (below : (lhs - rhs).toNat + 1 ≠ 2 ^ (n + 1)) (sixteen : n + 2 = 16) :
    rtpLess lhs rhs = true ↔ seqDelta (lhs.cast sixteen) (rhs.cast sixteen) < 0 := by
  obtain rfl : n = 14 := by omega
  rw [BitVec.cast_eq, BitVec.cast_eq, seqDelta_neg_iff, rtpLess_iff]
  omega

theorem toNat_halfRange_sub_one (n : Nat) :
    (halfRange (n + 2) - 1#(n + 2)).toNat = 2 ^ (n + 1) - 1 := by
  have half := toNat_halfRange (n + 1)
  have wide := two_le_half (n := n)
  have one : (1#(n + 2)).toNat = 1 := BitVec.toNat_one (Nat.succ_pos (n + 1))
  have small : 1#(n + 2) ≤ halfRange (n + 2) := by
    rw [BitVec.le_def, half, one]
    omega
  rw [BitVec.toNat_sub_of_le small, half, one]

theorem toNat_halfRange_add_one (n : Nat) :
    (halfRange (n + 2) + 1#(n + 2)).toNat = 2 ^ (n + 1) + 1 := by
  have half := toNat_halfRange (n + 1)
  have wide := two_le_half (n := n)
  have width := two_pow_width (n := n)
  have one : (1#(n + 2)).toNat = 1 := BitVec.toNat_one (Nat.succ_pos (n + 1))
  rw [BitVec.toNat_add, half, one, Nat.mod_eq_of_lt (by omega)]

/-- Away from half the range the order is a serial-number order but for the two distances
next to it, where each number is less than the other. -/
theorem ordered_serially_iff (wide : 1 < w) (lhs rhs : BitVec w)
    (away : lhs - rhs ≠ halfRange w) :
    OrderedSerially lhs rhs ↔
      lhs - rhs ≠ halfRange w - 1#w ∧ lhs - rhs ≠ halfRange w + 1#w := by
  obtain ⟨n, rfl⟩ : ∃ n, w = n + 2 := ⟨w - 2, by omega⟩
  have apart := two_le_half (n := n)
  have distance : (lhs - rhs).toNat ≠ 2 ^ (n + 1) := by
    rw [← toNat_halfRange]
    exact fun same => away (BitVec.eq_of_toNat_eq same)
  rw [Ne, Ne, ← BitVec.toNat_inj, ← BitVec.toNat_inj, toNat_halfRange_sub_one,
    toNat_halfRange_add_one, OrderedSerially, exactlyOne_iff lhs rhs distance]
  constructor
  · intro ordered
    obtain ⟨⟨below, above⟩, -⟩ := ordered
    exact ⟨by omega, above⟩
  · intro apartFromBoth
    obtain ⟨below, above⟩ := apartFromBoth
    have beneath : (lhs - rhs).toNat + 1 ≠ 2 ^ (n + 1) := by omega
    exact ⟨⟨beneath, above⟩, agrees_with_seqDelta beneath⟩

/-- The comparison with equality is as its name says wherever the order is one. -/
theorem OrderedSerially.rtpLtEq_iff {lhs rhs : BitVec w} (ordered : OrderedSerially lhs rhs) :
    rtpLtEq lhs rhs = true ↔ lhs = rhs ∨ rtpLess lhs rhs = true := by
  have one := ordered.1
  rw [rtpLtEq, rtpGreater_eq, Bool.not_eq_true', ← Bool.not_eq_true]
  unfold ExactlyOne at one
  tauto

theorem OrderedSerially.rtpGtEq_iff {lhs rhs : BitVec w} (ordered : OrderedSerially lhs rhs) :
    rtpGtEq lhs rhs = true ↔ lhs = rhs ∨ rtpGreater lhs rhs = true := by
  have one := ordered.1
  rw [rtpGtEq, rtpGreater_eq, Bool.not_eq_true', ← Bool.not_eq_true]
  unfold ExactlyOne at one
  tauto

theorem ordered_serially_across_the_wrap :
    OrderedSerially 2#16 65534#16 := by
  refine (ordered_serially_iff (by decide) 2#16 65534#16 ?_).mpr ?_
  · decide
  · decide

/-- Sequence numbers 32767 apart are each less than the other. -/
theorem not_ordered_serially :
    ¬ ∀ (w : Nat) (lhs rhs : BitVec w), 1 < w → lhs - rhs ≠ halfRange w →
      OrderedSerially lhs rhs := by
  intro ordered
  have distance : (32767#16) - 0#16 ≠ halfRange 16 := by decide
  obtain ⟨one, -⟩ := ordered 16 (32767#16) 0#16 (by decide) distance
  have both : rtpLess (32767#16) 0#16 = true ∧ rtpLess 0#16 (32767#16) = true := by decide
  simp [ExactlyOne, both] at one

end FiberApp.Bandwidth
