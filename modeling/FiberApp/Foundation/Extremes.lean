import Mathlib.Order.Bounds.Basic
import Mathlib.Order.Lattice

/-! The smallest and the largest value that a scan of a list keeps, from a start value on.
They are the extremes of the list when the start value does not cut them off. -/

set_option autoImplicit false

namespace FiberApp.Foundation

variable {α : Type} [LinearOrder α]

/-- A scan that keeps the smaller value. -/
def least (start : α) (values : List α) : α :=
  values.foldl (fun low value => if value < low then value else low) start

/-- A scan that keeps the larger value, which is the smaller one in the dual order. -/
def greatest (start : α) (values : List α) : α :=
  values.foldl (fun high value => if value > high then value else high) start

theorem le_least_iff {start bound : α} {values : List α} :
    bound ≤ least start values ↔ bound ≤ start ∧ ∀ value ∈ values, bound ≤ value := by
  induction values generalizing start with
  | nil => simp [least]
  | cons value values ih =>
      have step : least start (value :: values) =
          least (if value < start then value else start) values := rfl
      rw [step, ih, List.forall_mem_cons]
      split
      case isTrue lower =>
        constructor
        · intro both
          exact ⟨both.1.trans lower.le, both⟩
        · intro both
          exact both.2
      case isFalse notLower =>
        constructor
        · intro both
          exact ⟨both.1, both.1.trans (not_lt.mp notLower), both.2⟩
        · intro both
          exact ⟨both.1, both.2.2⟩

theorem least_le_start (start : α) (values : List α) : least start values ≤ start :=
  (le_least_iff.mp le_rfl).1

theorem least_le {start value : α} {values : List α} (member : value ∈ values) :
    least start values ≤ value :=
  (le_least_iff.mp le_rfl).2 value member

theorem least_eq_or_mem (start : α) (values : List α) :
    least start values = start ∨ least start values ∈ values := by
  induction values generalizing start with
  | nil => exact .inl rfl
  | cons value values ih =>
      have step : least start (value :: values) =
          least (if value < start then value else start) values := rfl
      rw [step]
      rcases ih (if value < start then value else start) with same | later
      · rw [same]
        split
        · exact .inr List.mem_cons_self
        · exact .inl rfl
      · exact .inr (List.mem_cons_of_mem value later)

theorem least_append (start : α) (first second : List α) :
    least start (first ++ second) = least (least start first) second :=
  List.foldl_append

/-- A value that is already taken into account changes nothing. -/
theorem least_eq_self {start : α} {values : List α} (above : ∀ value ∈ values, start ≤ value) :
    least start values = start :=
  le_antisymm (least_le_start start values) (le_least_iff.mpr ⟨le_rfl, above⟩)

/-- Of values that are taken into account but for one, only that one counts. -/
theorem least_eq_of_one_new {start value : α} {values : List α} (member : value ∈ values)
    (known : ∀ other ∈ values, start ≤ other ∨ other = value) :
    least start values = least start [value] := by
  apply le_antisymm
  · refine le_least_iff.mpr ⟨least_le_start start values, fun other only => ?_⟩
    rw [List.mem_singleton.mp only]
    exact least_le member
  · refine le_least_iff.mpr ⟨least_le_start start [value], fun other inside => ?_⟩
    rcases known other inside with above | rfl
    · exact (least_le_start start [value]).trans above
    · exact least_le (List.mem_singleton.mpr rfl)

/-- The scan of a list finds the smallest value of one of its parts if and only if that
part reaches as far down as everything scanned. -/
theorem isLeast_part_iff {start : α} {part values : List α}
    (inside : ∀ value ∈ part, value ∈ values) :
    IsLeast {value | value ∈ part} (least start values) ↔
      (∃ kept ∈ part, kept ≤ start) ∧ ∀ value ∈ values, ∃ kept ∈ part, kept ≤ value := by
  constructor
  · intro isLeast
    exact ⟨⟨_, isLeast.1, least_le_start start values⟩,
      fun value member => ⟨_, isLeast.1, least_le member⟩⟩
  · intro reaches
    refine ⟨?_, fun value member => least_le (inside value member)⟩
    have below : ∃ kept ∈ part, kept ≤ least start values := by
      rcases least_eq_or_mem start values with same | member
      · rw [same]
        exact reaches.1
      · exact reaches.2 _ member
    obtain ⟨kept, member, atMost⟩ := below
    have same : kept = least start values :=
      le_antisymm atMost (least_le (inside kept member))
    rw [← same]
    exact member

theorem le_greatest {start value : α} {values : List α} (member : value ∈ values) :
    value ≤ greatest start values :=
  @least_le αᵒᵈ _ start value values member

theorem greatest_append (start : α) (first second : List α) :
    greatest start (first ++ second) = greatest (greatest start first) second :=
  List.foldl_append

theorem greatest_eq_self {start : α} {values : List α}
    (below : ∀ value ∈ values, value ≤ start) : greatest start values = start :=
  @least_eq_self αᵒᵈ _ start values below

theorem greatest_eq_of_one_new {start value : α} {values : List α} (member : value ∈ values)
    (known : ∀ other ∈ values, other ≤ start ∨ other = value) :
    greatest start values = greatest start [value] :=
  @least_eq_of_one_new αᵒᵈ _ start value values member known

theorem isGreatest_part_iff {start : α} {part values : List α}
    (inside : ∀ value ∈ part, value ∈ values) :
    IsGreatest {value | value ∈ part} (greatest start values) ↔
      (∃ kept ∈ part, start ≤ kept) ∧ ∀ value ∈ values, ∃ kept ∈ part, value ≤ kept :=
  @isLeast_part_iff αᵒᵈ _ start part values inside

end FiberApp.Foundation
