import Mathlib.Algebra.Order.Ring.Int
import FiberApp.Bandwidth.RunningWindowedAverage
import FiberApp.Foundation.Execution
import FiberApp.Foundation.LastValues

/-! The extremes of a running windowed average are those of all samples since the reset
and not of the window, since they are never widened when an extreme sample leaves it. -/

set_option autoImplicit false

namespace FiberApp.Bandwidth

open Foundation

namespace RunningWindowedAverageT

variable {T : Type} [LinearOrder T]

/-- The window holds the last samples, and the extremes are those of all samples. -/
structure Tracks (limits : NumericLimits T) (windowSize : Nat)
    (average : RunningWindowedAverageT T) (samples : List T) : Prop where
  tracking : average.mDoMinMax = true
  size : average.mWindowSize = windowSize
  sized : average.mWindow.length = windowSize
  ring : Ring average.mWindow average.mNextEntry average.mNumEntries (samples.rtake windowSize)
  minValue : average.mMinValue = least limits.max samples
  maxValue : average.mMaxValue = greatest limits.min samples

variable {limits : NumericLimits T} {windowSize : Nat}

theorem tracks_create [Zero T] {mWindow : List T} (positive : 0 < mWindow.length) (mAverage : T) :
    Tracks limits mWindow.length (create limits mWindow mAverage true) [] where
  tracking := rfl
  size := rfl
  sized := rfl
  ring := by
    rw [List.rtake_nil]
    exact .empty positive
  minValue := rfl
  maxValue := rfl

/-- The state between the store of a sample and the update of the extremes. -/
structure Stored (limits : NumericLimits T) (windowSize : Nat)
    (average : RunningWindowedAverageT T) (samples : List T) (x : T) : Prop where
  tracking : average.mDoMinMax = true
  size : average.mWindowSize = windowSize
  sized : average.mWindow.length = windowSize
  ring : Ring average.mWindow average.mNextEntry average.mNumEntries
    ((samples ++ [x]).rtake windowSize)
  positive : 0 < average.mNumEntries
  minValue : average.mMinValue = least limits.max samples
  maxValue : average.mMaxValue = greatest limits.min samples

section

variable {average : RunningWindowedAverageT T} {samples : List T} {x : T}

theorem Stored.mem_cells_iff (stored : Stored limits windowSize average samples x) {value : T} :
    value ∈ average.mWindow.take average.mNumEntries ↔
      value ∈ (samples ++ [x]).rtake windowSize :=
  stored.ring.perm.mem_iff

theorem Stored.x_mem (stored : Stored limits windowSize average samples x) :
    x ∈ average.mWindow.take average.mNumEntries := by
  have inside := stored.ring.inside
  have sized := stored.sized
  exact stored.mem_cells_iff.mpr (mem_rtake_concat (by omega) samples x)

theorem Stored.known (stored : Stored limits windowSize average samples x) {value : T}
    (member : value ∈ average.mWindow.take average.mNumEntries) :
    value ∈ samples ∨ value = x := by
  have pushed := mem_of_mem_rtake (stored.mem_cells_iff.mp member)
  rw [List.mem_append, List.mem_singleton] at pushed
  exact pushed

/-- The scan takes the new sample into account, and nothing else that is not so already. -/
theorem Stored.resetMinMax (stored : Stored limits windowSize average samples x) :
    Tracks limits windowSize average.resetMinMax (samples ++ [x]) := by
  rw [RunningWindowedAverageT.resetMinMax, if_pos stored.positive]
  refine ⟨stored.tracking, stored.size, stored.sized, stored.ring, ?_, ?_⟩
  · rw [least_append, ← stored.minValue]
    refine least_eq_of_one_new stored.x_mem fun value member => ?_
    rw [stored.minValue]
    exact (stored.known member).imp_left least_le
  · rw [greatest_append, ← stored.maxValue]
    refine greatest_eq_of_one_new stored.x_mem fun value member => ?_
    rw [stored.maxValue]
    exact (stored.known member).imp_left le_greatest

theorem Stored.unchanged (stored : Stored limits windowSize average samples x)
    (notAbove : ¬ x > average.mMaxValue) (notBelow : ¬ x < average.mMinValue) :
    Tracks limits windowSize average (samples ++ [x]) := by
  refine ⟨stored.tracking, stored.size, stored.sized, stored.ring, ?_, ?_⟩
  · rw [least_append, ← stored.minValue, least_eq_self]
    intro value only
    rw [List.mem_singleton.mp only]
    exact not_lt.mp notBelow
  · rw [greatest_append, ← stored.maxValue, greatest_eq_self]
    intro value only
    rw [List.mem_singleton.mp only]
    exact not_lt.mp notAbove

end

/-- The extremes that are answered are those of the window, as far as it has samples. -/
def AnswersExtremes (average : RunningWindowedAverageT T) (window : List T) : Prop :=
  window ≠ [] → IsLeast {sample | sample ∈ window} average.getMinMax.2.1 ∧
    IsGreatest {sample | sample ∈ window} average.getMinMax.2.2

/-- No sample of those pushed, and no limit of the type, lies outside the extremes of the
window. -/
structure KeepsExtremes (limits : NumericLimits T) (samples window : List T) : Prop where
  max_least : ∃ kept ∈ window, kept ≤ limits.max
  least : ∀ sample ∈ samples, ∃ kept ∈ window, kept ≤ sample
  min_greatest : ∃ kept ∈ window, limits.min ≤ kept
  greatest : ∀ sample ∈ samples, ∃ kept ∈ window, sample ≤ kept

theorem keepsExtremes_iff {samples window : List T}
    (inside : ∀ sample ∈ window, sample ∈ samples) :
    KeepsExtremes limits samples window ↔
      IsLeast {sample | sample ∈ window} (Foundation.least limits.max samples) ∧
        IsGreatest {sample | sample ∈ window} (Foundation.greatest limits.min samples) := by
  rw [isLeast_part_iff inside, isGreatest_part_iff inside]
  constructor
  · intro keeps
    exact ⟨⟨keeps.max_least, keeps.least⟩, ⟨keeps.min_greatest, keeps.greatest⟩⟩
  · intro both
    exact ⟨both.1.1, both.1.2, both.2.1, both.2.2⟩

theorem Tracks.answersExtremes_iff_keeps {average : RunningWindowedAverageT T} {samples : List T}
    (tracks : Tracks limits windowSize average samples) (positive : 0 < windowSize) :
    average.AnswersExtremes (samples.rtake windowSize) ↔
      samples = [] ∨ KeepsExtremes limits samples (samples.rtake windowSize) := by
  have held : samples.rtake windowSize = [] ↔ samples = [] := by
    rw [← List.length_eq_zero_iff, length_rtake, ← List.length_eq_zero_iff]
    omega
  rw [keepsExtremes_iff fun _ => mem_of_mem_rtake, ← tracks.minValue, ← tracks.maxValue,
    AnswersExtremes, getMinMax, if_pos tracks.tracking, Ne, held, imp_iff_not_or, not_not]

variable [Zero T] [Add T] [Sub T]

/-- A sample is stored whether or not the window was full. -/
theorem Tracks.stored {average : RunningWindowedAverageT T} {samples : List T}
    (tracks : Tracks limits windowSize average samples) (divide : T → Nat → T) (x : T) :
    ∃ popped poppedVal stored, average.popValue = some (popped, poppedVal) ∧
      popped.storeValue divide x = some stored ∧ Stored limits windowSize stored samples x := by
  have inside := tracks.ring.inside
  have sized := tracks.sized
  have size := tracks.size
  have positive : 0 < windowSize := by omega
  have ring := tracks.ring.push x
  rw [sized, ← rtake_concat positive, ← size] at ring
  by_cases room : average.mNumEntries < average.mWindowSize
  · rw [if_pos room] at ring
    simp only [popValue, if_pos room]
    refine ⟨_, _, _, rfl, if_pos inside, tracks.tracking, size, ?_, size ▸ ring, Nat.succ_pos _,
      tracks.minValue, tracks.maxValue⟩
    rw [List.length_set, sized]
  · rw [if_neg room] at ring
    have oldest := List.getElem?_eq_getElem inside
    simp only [popValue, if_neg room, oldest]
    refine ⟨_, _, _, rfl, if_pos inside, tracks.tracking, size, ?_, size ▸ ring, ?_,
      tracks.minValue, tracks.maxValue⟩
    · rw [List.length_set, sized]
    · simp only
      omega

theorem Tracks.push {average : RunningWindowedAverageT T} {samples : List T}
    (tracks : Tracks limits windowSize average samples) (divide : T → Nat → T) (x : T) :
    ∃ next, average.push divide x = some next ∧ Tracks limits windowSize next (samples ++ [x]) := by
  obtain ⟨popped, poppedVal, stored, pops, stores, isStored⟩ := tracks.stored divide x
  simp only [RunningWindowedAverageT.push, pops, stores, isStored.tracking, if_true,
    Option.bind_eq_bind, Option.bind_some]
  split
  case isTrue scans => exact ⟨_, rfl, isStored.resetMinMax⟩
  case isFalse stays =>
    simp only [not_or] at stays
    exact ⟨stored, rfl, isStored.unchanged stays.2.2.2.1 stays.2.2.2.2⟩

theorem execute_push (limits : NumericLimits T) {mWindow : List T}
    (positive : 0 < mWindow.length) (mAverage : T) (divide : T → Nat → T) (samples : List T) :
    ∃ average, execute (push divide) (create limits mWindow mAverage true) samples =
        some average ∧ Tracks limits mWindow.length average samples := by
  have run := execute_simulates (Tracks limits mWindow.length)
    (fun _ _ x tracks => Tracks.push tracks divide x) (tracks_create positive mAverage) samples
  rw [foldl_concat, List.nil_append] at run
  exact run

/-- After any samples, the answered extremes are those of the window if and only if there
was no sample, or there is a cell and nothing lies outside the window's extremes. -/
theorem answersExtremes_iff (limits : NumericLimits T) (divide : T → Nat → T)
    (mWindow : List T) (mAverage : T) (samples : List T) :
    (∃ average, execute (push divide) (create limits mWindow mAverage true) samples =
        some average ∧ average.AnswersExtremes (samples.rtake mWindow.length)) ↔
      samples = [] ∨
        (0 < mWindow.length ∧ KeepsExtremes limits samples (samples.rtake mWindow.length)) := by
  rcases Nat.eq_zero_or_pos mWindow.length with zero | positive
  · obtain rfl := List.length_eq_zero_iff.mp zero
    cases samples with
    | nil => exact ⟨fun _ => .inl rfl, fun _ => ⟨_, rfl, fun held => absurd rfl held⟩⟩
    | cons sample samples =>
        have stuck : execute (push divide) (create limits [] mAverage true)
            (sample :: samples) = none := rfl
        rw [stuck]
        constructor
        · intro run
          obtain ⟨average, impossible, -⟩ := run
          cases impossible
        · intro condition
          rcases condition with empty | ⟨cell, -⟩
          · cases empty
          · exact absurd cell (Nat.lt_irrefl 0)
  · obtain ⟨average, executed, tracks⟩ :=
      execute_push limits positive mAverage divide samples
    have answers := tracks.answersExtremes_iff_keeps positive
    rw [executed]
    constructor
    · intro run
      obtain ⟨other, same, answered⟩ := run
      cases same
      exact (answers.mp answered).imp_right fun keeps => ⟨positive, keeps⟩
    · intro condition
      exact ⟨average, rfl, answers.mpr (condition.imp_right fun both => both.2)⟩

/-- In a window of two, the smallest of three samples has left and is still answered. -/
theorem not_answersExtremes :
    ¬ ∃ average, execute (push fun (total : Int) count => total / count)
        (create ⟨-2 ^ 31, 2 ^ 31 - 1⟩ [0, 0] 0 true) [1, 5, 6] = some average ∧
      average.AnswersExtremes ([1, 5, 6].rtake 2) := by
  intro run
  obtain ⟨average, executed, answers⟩ := run
  cases executed
  exact absurd (answers (by decide)).1.1 (by decide)

end RunningWindowedAverageT

end FiberApp.Bandwidth
