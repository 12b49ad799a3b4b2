import Mathlib.Algebra.BigOperators.Group.List.Basic
import Mathlib.Algebra.Order.BigOperators.Group.List
import Mathlib.Algebra.Order.Field.Basic
import Mathlib.Tactic.FieldSimp
import Mathlib.Tactic.LinearCombination
import Mathlib.Tactic.Positivity
import Mathlib.Tactic.Ring

/-! The line through a list of points with the least sum of squared vertical distances.
Its slope is a quotient of the sums over the points. -/

set_option autoImplicit false

namespace FiberApp.Foundation.LeastSquares

variable {K : Type} [Field K]

def sumX (points : List (K × K)) : K := (points.map fun point => point.1).sum

def sumY (points : List (K × K)) : K := (points.map fun point => point.2).sum

def sumXY (points : List (K × K)) : K := (points.map fun point => point.1 * point.2).sum

def sumXX (points : List (K × K)) : K := (points.map fun point => point.1 * point.1).sum

def sumYY (points : List (K × K)) : K := (points.map fun point => point.2 * point.2).sum

/-- The sum of the squared vertical distances to a line. -/
def residual (points : List (K × K)) (intercept slope : K) : K :=
  (points.map fun point => (point.2 - (intercept + slope * point.1)) ^ 2).sum

/-- The denominator of the slope. -/
def spread (points : List (K × K)) : K :=
  points.length * sumXX points - sumX points * sumX points

def slope (points : List (K × K)) : K :=
  (points.length * sumXY points - sumX points * sumY points) / spread points

def intercept (points : List (K × K)) : K :=
  (sumY points - slope points * sumX points) / points.length

theorem residual_eq (points : List (K × K)) (a b : K) :
    residual points a b = sumYY points - 2 * a * sumY points - 2 * b * sumXY points +
      points.length * a ^ 2 + 2 * a * b * sumX points + b ^ 2 * sumXX points := by
  induction points with
  | nil => simp [residual, sumX, sumY, sumXY, sumXX, sumYY]
  | cons point rest ih =>
      simp only [residual, sumX, sumY, sumXY, sumXX, sumYY, List.map_cons, List.sum_cons,
        List.length_cons, Nat.cast_succ] at ih ⊢
      rw [ih]
      ring

theorem sum_sq_scaled (points : List (K × K)) (scale shift : K) :
    (points.map fun point => (scale * point.1 - shift) ^ 2).sum =
      scale ^ 2 * sumXX points - 2 * scale * shift * sumX points + points.length * shift ^ 2 := by
  induction points with
  | nil => simp [sumX, sumXX]
  | cons point rest ih =>
      simp only [sumX, sumXX, List.map_cons, List.sum_cons, List.length_cons,
        Nat.cast_succ] at ih ⊢
      rw [ih]
      ring

theorem slope_mul_spread {points : List (K × K)} (spreads : spread points ≠ 0) :
    slope points * spread points =
      points.length * sumXY points - sumX points * sumY points :=
  div_mul_cancel₀ _ spreads

variable [LinearOrder K] [IsStrictOrderedRing K]

theorem sum_sq_nonneg (points : List (K × K)) (f : K × K → K) :
    0 ≤ (points.map fun point => f point ^ 2).sum := by
  apply List.sum_nonneg
  intro value member
  obtain ⟨point, -, rfl⟩ := List.mem_map.mp member
  exact sq_nonneg _

theorem length_pos_of_spread {points : List (K × K)} (spreads : spread points ≠ 0) :
    (0 : K) < points.length := by
  cases points with
  | nil => exact absurd (by simp [spread, sumX]) spreads
  | cons point rest => exact Nat.cast_pos.mpr (Nat.succ_pos _)

theorem spread_pos {points : List (K × K)} (spreads : spread points ≠ 0) :
    0 < spread points := by
  have counted := length_pos_of_spread spreads
  have squares := sum_sq_nonneg points fun point => points.length * point.1 - sumX points
  rw [sum_sq_scaled] at squares
  have product : 0 ≤ points.length * spread points := by
    rw [spread]
    linear_combination squares
  exact lt_of_le_of_ne (nonneg_of_mul_nonneg_right product counted) (Ne.symm spreads)

/-! The two normal equations. -/

theorem normal_intercept {points : List (K × K)} (spreads : spread points ≠ 0) :
    points.length * intercept points + slope points * sumX points = sumY points := by
  have counted := (length_pos_of_spread spreads).ne'
  rw [intercept, mul_div_cancel₀ _ counted]
  ring

theorem normal_slope {points : List (K × K)} (spreads : spread points ≠ 0) :
    intercept points * sumX points + slope points * sumXX points = sumXY points := by
  have counted := (length_pos_of_spread spreads).ne'
  have first := normal_intercept spreads
  have second := slope_mul_spread spreads
  rw [spread] at second
  apply mul_left_cancel₀ counted
  linear_combination second + sumX points * first

/-- How much worse a line is than the one of the quotients. -/
theorem residual_sub {points : List (K × K)} (spreads : spread points ≠ 0) (a b : K) :
    residual points a b - residual points (intercept points) (slope points) =
      points.length * (a - intercept points) ^ 2 +
        2 * (a - intercept points) * (b - slope points) * sumX points +
        (b - slope points) ^ 2 * sumXX points := by
  have first := normal_intercept spreads
  have second := normal_slope spreads
  rw [residual_eq, residual_eq, ← first, ← second]
  ring

theorem length_mul_residual_sub {points : List (K × K)} (spreads : spread points ≠ 0) (a b : K) :
    points.length *
        (residual points a b - residual points (intercept points) (slope points)) =
      (points.length * (a - intercept points) + (b - slope points) * sumX points) ^ 2 +
        (b - slope points) ^ 2 * spread points := by
  rw [residual_sub spreads, spread]
  ring

/-- No line has a smaller sum of squared distances. -/
def IsLeastSquaresLine (points : List (K × K)) (a b : K) : Prop :=
  ∀ otherIntercept otherSlope, residual points a b ≤ residual points otherIntercept otherSlope

theorem isLeastSquaresLine_quotients {points : List (K × K)} (spreads : spread points ≠ 0) :
    IsLeastSquaresLine points (intercept points) (slope points) := by
  intro a b
  have counted := length_pos_of_spread spreads
  have positive := spread_pos spreads
  have worse : 0 ≤ points.length *
      (residual points a b - residual points (intercept points) (slope points)) := by
    rw [length_mul_residual_sub spreads]
    positivity
  exact sub_nonneg.mp (nonneg_of_mul_nonneg_right worse counted)

/-- When the denominator is not zero, the quotient is the one least-squares slope. -/
theorem exists_isLeastSquaresLine_iff {points : List (K × K)} (spreads : spread points ≠ 0)
    (b : K) : (∃ a, IsLeastSquaresLine points a b) ↔ b = slope points := by
  constructor
  · intro fits
    obtain ⟨a, least⟩ := fits
    have counted := length_pos_of_spread spreads
    have positive := spread_pos spreads
    have worse := length_mul_residual_sub spreads a b
    have noWorse : (points.length : K) *
        (residual points a b - residual points (intercept points) (slope points)) ≤ 0 :=
      mul_nonpos_of_nonneg_of_nonpos counted.le (sub_nonpos.mpr (least _ _))
    have square : (b - slope points) ^ 2 * spread points ≤ 0 := by
      rw [worse] at noWorse
      exact le_trans (le_add_of_nonneg_left (sq_nonneg _)) noWorse
    have zero : (b - slope points) ^ 2 ≤ 0 := nonpos_of_mul_nonpos_left square positive
    exact sub_eq_zero.mp (pow_eq_zero_iff (two_ne_zero) |>.mp (le_antisymm zero (sq_nonneg _)))
  · intro same
    exact ⟨intercept points, same ▸ isLeastSquaresLine_quotients spreads⟩

end FiberApp.Foundation.LeastSquares
