import Mathlib.Data.List.Basic
import Mathlib.Algebra.Order.Ring.Int

/-! The rank of a value in a list, and how many values of a list fall into a stretch of
bins. A value of a given rank is found by counting the values of each bin in turn. -/

set_option autoImplicit false

namespace FiberApp.Foundation

variable {α : Type}

/-- In a sorted list a downward closed test holds of as many first values as pass it. -/
theorem test_getElem_iff {before : α → α → Prop} {test : α → Bool}
    (downward : ∀ first second, before first second → test second = true →
      test first = true)
    {values : List α} (sorted : values.Pairwise before) {position : Nat}
    (inside : position < values.length) :
    test values[position] = true ↔ position < values.countP test := by
  induction values generalizing position with
  | nil => exact absurd inside (Nat.not_lt_zero position)
  | cons value rest ih =>
      obtain ⟨least, sorted⟩ := List.pairwise_cons.mp sorted
      cases passes : test value with
      | true =>
          rw [List.countP_cons_of_pos passes]
          cases position with
          | zero => simp [passes]
          | succ position => simpa using ih sorted (Nat.lt_of_succ_lt_succ inside)
      | false =>
          have nowhere : ∀ other ∈ rest, ¬ test other = true := by
            intro other member passed
            rw [downward value other (least other member) passed] at passes
            cases passes
          rw [List.countP_cons_of_neg (by rw [passes]; exact Bool.false_ne_true),
            List.countP_eq_zero.mpr nowhere]
          cases position with
          | zero => simp [passes]
          | succ position => simpa using nowhere _ (List.getElem_mem _)

/-- The value of the given rank, the smallest one having rank one. -/
def smallest (le : α → α → Bool) (rank : Nat) (values : List α) : Option α :=
  (values.mergeSort le)[rank - 1]?

/-- The value of a rank passes a downward closed test if and only if that many do. -/
theorem test_smallest_iff {le : α → α → Bool} (test : α → Bool)
    (trans : ∀ first second third, le first second → le second third → le first third)
    (total : ∀ first second, le first second || le second first)
    (downward : ∀ first second, le first second = true → test second = true →
      test first = true)
    {rank : Nat} (positive : 0 < rank) {values : List α} {value : α}
    (found : smallest le rank values = some value) :
    test value = true ↔ rank ≤ values.countP test := by
  obtain ⟨inside, rfl⟩ := List.getElem?_eq_some_iff.mp found
  rw [test_getElem_iff downward (List.pairwise_mergeSort trans total values) inside,
    (List.mergeSort_perm values le).countP_eq]
  omega

/-- How many values fall into the bins from `start` on and before `stop`. -/
def countBins (bin : α → Nat) (start stop : Nat) (values : List α) : Nat :=
  values.countP fun value => start ≤ bin value ∧ bin value < stop

theorem countBins_self (bin : α → Nat) (start : Nat) (values : List α) :
    countBins bin start start values = 0 := by
  refine List.countP_eq_zero.mpr fun value _ => ?_
  rw [decide_eq_true_eq]
  omega

/-- One bin more counts the values of that bin in addition. -/
theorem countBins_succ (bin : α → Nat) {start stop : Nat} (ordered : start ≤ stop)
    (values : List α) :
    countBins bin start (stop + 1) values =
      countBins bin start stop values + values.countP (bin · = stop) := by
  induction values with
  | nil => rfl
  | cons value rest ih =>
      simp only [countBins, List.countP_cons, decide_eq_true_eq] at ih ⊢
      rw [ih]
      split <;> split <;> split <;> omega

theorem countBins_congr {bin : α → Nat} {start stop : Nat} (test : α → Bool)
    {values : List α}
    (same : ∀ value ∈ values, (start ≤ bin value ∧ bin value < stop) ↔ test value = true) :
    countBins bin start stop values = values.countP test := by
  refine List.countP_congr fun value member => ?_
  rw [decide_eq_true_eq]
  exact same value member

/-- Every value lies in a bin at most or at least a given one, and those in it do both. -/
theorem countP_le_add_countP_ge (bin : α → Nat) (middle : Nat) (values : List α) :
    values.countP (bin · ≤ middle) + values.countP (middle ≤ bin ·) =
      values.length + values.countP (bin · = middle) := by
  induction values with
  | nil => rfl
  | cons value rest ih =>
      simp only [List.countP_cons, List.length_cons, decide_eq_true_eq]
      split <;> split <;> split <;> omega

theorem sum_map_countP (bin : α → Nat) (values : List α) (start length : Nat) :
    ((List.range' start length).map fun idx => (values.countP (bin · = idx) : Int)).sum =
      countBins bin start (start + length) values := by
  induction length with
  | zero => simp [countBins_self]
  | succ length ih =>
      rw [List.range'_1_concat, List.map_append, List.sum_append, ih, ← Nat.add_assoc,
        countBins_succ bin (Nat.le_add_right start length)]
      simp

end FiberApp.Foundation
