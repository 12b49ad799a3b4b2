import Mathlib.Algebra.BigOperators.Group.List.Basic
import Mathlib.Algebra.CharZero.Defs
import Mathlib.Algebra.Field.Basic
import Mathlib.Tactic.FieldSimp
import Mathlib.Tactic.LinearCombination
import Mathlib.Tactic.Ring

/-! Mean and sample variance of a list of samples, and how they change when a sample is
appended and when it takes the place of the first one. -/

set_option autoImplicit false

namespace FiberApp.Foundation

variable {K : Type} [Field K]

def mean (samples : List K) : K := samples.sum / samples.length

/-- The sum of the squared deviations from the mean. -/
def deviations (samples : List K) : K :=
  (samples.map fun sample => (sample - mean samples) ^ 2).sum

/-- Zero for fewer than two samples, where nothing deviates from the mean. -/
def sampleVariance (samples : List K) : K := deviations samples / (samples.length - 1)

def sumOfSquares (samples : List K) : K := (samples.map fun sample => sample ^ 2).sum

theorem sum_sq_sub (samples : List K) (center : K) :
    (samples.map fun sample => (sample - center) ^ 2).sum =
      sumOfSquares samples - 2 * center * samples.sum + samples.length * center ^ 2 := by
  induction samples with
  | nil => simp [sumOfSquares]
  | cons sample rest ih =>
      simp only [sumOfSquares, List.map_cons, List.sum_cons, List.length_cons,
        Nat.cast_succ] at ih ⊢
      rw [ih]
      ring

theorem sumOfSquares_append (before after : List K) :
    sumOfSquares (before ++ after) = sumOfSquares before + sumOfSquares after := by
  rw [sumOfSquares, List.map_append, List.sum_append]
  rfl

theorem mean_singleton (sample : K) : mean [sample] = sample := by
  simp [mean]

variable [CharZero K]

theorem length_mul_mean (samples : List K) : samples.length * mean samples = samples.sum := by
  cases samples with
  | nil => simp
  | cons sample rest =>
      rw [mean, mul_div_cancel₀]
      exact Nat.cast_ne_zero.mpr (Nat.succ_ne_zero rest.length)

theorem deviations_eq (samples : List K) :
    deviations samples = sumOfSquares samples - samples.length * mean samples ^ 2 := by
  rw [deviations, sum_sq_sub, ← length_mul_mean samples]
  ring

theorem mean_concat (samples : List K) (sample : K) :
    mean (samples ++ [sample]) =
      mean samples + (sample - mean samples) / (samples.length + 1) := by
  have counted : (samples.length + 1 : K) ≠ 0 := Nat.cast_add_one_ne_zero samples.length
  rw [mean, List.sum_append, List.sum_singleton, ← length_mul_mean samples, List.length_append,
    List.length_singleton, Nat.cast_succ]
  field_simp
  ring

theorem deviations_concat (samples : List K) (sample : K) :
    deviations (samples ++ [sample]) =
      deviations samples + (sample - mean samples) * (sample - mean (samples ++ [sample])) := by
  have before := length_mul_mean samples
  have after := length_mul_mean (samples ++ [sample])
  rw [List.sum_append, List.sum_singleton, List.length_append, List.length_singleton,
    Nat.cast_succ, ← before] at after
  rw [deviations_eq, deviations_eq, sumOfSquares_append, List.length_append,
    List.length_singleton, Nat.cast_succ]
  simp only [sumOfSquares, List.map_cons, List.map_nil, List.sum_singleton]
  linear_combination (-mean (samples ++ [sample]) - mean samples) * after

/-- The mean when the last sample takes the place of the first one. -/
theorem mean_replace (oldest : K) (rest : List K) (sample : K) :
    mean (rest ++ [sample]) =
      mean (oldest :: rest) + (sample - oldest) / (rest.length + 1) := by
  have counted : (rest.length + 1 : K) ≠ 0 := Nat.cast_add_one_ne_zero rest.length
  rw [mean, mean, List.sum_append, List.sum_singleton, List.sum_cons, List.length_append,
    List.length_singleton, List.length_cons, Nat.cast_succ]
  field_simp
  ring

theorem deviations_replace (oldest : K) (rest : List K) (sample : K) :
    deviations (rest ++ [sample]) = deviations (oldest :: rest) -
      (oldest - mean (oldest :: rest)) * (oldest - mean (rest ++ [sample])) +
      (sample - mean (oldest :: rest)) * (sample - mean (rest ++ [sample])) := by
  have before := length_mul_mean (oldest :: rest)
  have after := length_mul_mean (rest ++ [sample])
  rw [List.sum_append, List.sum_singleton, List.length_append, List.length_singleton,
    Nat.cast_succ] at after
  rw [List.sum_cons, List.length_cons, Nat.cast_succ] at before
  rw [deviations_eq, deviations_eq, sumOfSquares_append, List.length_append,
    List.length_singleton, List.length_cons, Nat.cast_succ]
  simp only [sumOfSquares, List.map_cons, List.map_nil, List.sum_cons, List.sum_nil, add_zero]
  linear_combination (mean (rest ++ [sample]) + mean (oldest :: rest)) * (before - after)

end FiberApp.Foundation
