import FiberApp.Bandwidth.WindowedAverage
import FiberApp.Foundation.Execution
import FiberApp.Foundation.LastValues
import Mathlib.Algebra.BigOperators.Group.List.Basic

/-! A windowed average holds the last samples for ever, but how many of them are read
depends on a counter of 32 bits that goes on counting when the window is full. -/

set_option autoImplicit false

namespace FiberApp.Bandwidth

open Foundation

namespace WindowedAverageT

variable {type : IntegerType} {windowSize : UInt32}

/-- The last samples, as many as there are cells. -/
def lastSamples (windowSize : UInt32) (samples : List type.Value) : List type.Value :=
  samples.rtake windowSize.toNat

def lastTotal (windowSize : UInt32) (samples : List type.Value) : Int :=
  ((lastSamples windowSize samples).map Subtype.val).sum

structure Tracks (average : WindowedAverageT type windowSize) (samples : List type.Value) :
    Prop where
  counted : average.mNumEntries = UInt32.ofNat samples.length
  ring : Ring average.mWindow.toList average.mNextEntry.toNat
    (min samples.length windowSize.toNat) (lastSamples windowSize samples)

theorem tracks_create (positive : 0 < windowSize.toNat)
    (mWindow : Vector type.Value windowSize.toNat) : (create mWindow).Tracks [] where
  counted := rfl
  ring := by
    rw [lastSamples, List.rtake_nil, List.length_nil, Nat.zero_min]
    refine .empty ?_
    rw [Vector.length_toList]
    exact positive

theorem Tracks.inside {average : WindowedAverageT type windowSize} {samples : List type.Value}
    (tracks : average.Tracks samples) : average.mNextEntry.toNat < windowSize.toNat := by
  have inside := tracks.ring.inside
  rw [Vector.length_toList] at inside
  exact inside

theorem Tracks.push {average : WindowedAverageT type windowSize} {samples : List type.Value}
    (tracks : average.Tracks samples) (x : type.Value) :
    ∃ next, average.push x = some next ∧ next.Tracks (samples ++ [x]) := by
  have inside := tracks.inside
  refine ⟨_, dif_pos inside, ?_, ?_⟩
  · rw [tracks.counted, List.length_append, List.length_singleton, UInt32.ofNat_add]
    rfl
  · have below := windowSize.toNat_lt
    have ring := tracks.ring.push x
    have advanced : (average.mNextEntry + 1).toNat = average.mNextEntry.toNat + 1 := by
      rw [UInt32.toNat_add, UInt32.toNat_one]
      exact Nat.mod_eq_of_lt (by omega)
    have nextEntry :
        (if average.mNextEntry + 1 = windowSize then 0 else average.mNextEntry + 1).toNat =
          if average.mNextEntry.toNat + 1 = windowSize.toNat then 0
          else average.mNextEntry.toNat + 1 := by
      rw [apply_ite UInt32.toNat, advanced]
      exact if_congr (by rw [← UInt32.toNat_inj, advanced]) rfl rfl
    have held : (if min samples.length windowSize.toNat < windowSize.toNat then
        min samples.length windowSize.toNat + 1 else min samples.length windowSize.toNat) =
          min (samples ++ [x]).length windowSize.toNat := by
      rw [List.length_append, List.length_singleton]
      split <;> omega
    rw [Vector.length_toList, lastSamples, ← rtake_concat (by omega), held, ← nextEntry,
      ← Vector.toList_set inside] at ring
    exact ring

theorem execute_push (positive : 0 < windowSize.toNat)
    (mWindow : Vector type.Value windowSize.toNat) (samples : List type.Value) :
    ∃ average, execute push (create mWindow) samples = some average ∧ average.Tracks samples := by
  have run := execute_simulates Tracks (fun _ _ x tracks => Tracks.push tracks x)
    (tracks_create positive mWindow) samples
  rw [foldl_concat, List.nil_append] at run
  exact run

/-- The counter has not wrapped around, or has counted the whole window again since. -/
def CounterReaches (windowSize : UInt32) (pushed : Nat) : Prop :=
  pushed < 2 ^ 32 ∨ windowSize.toNat ≤ pushed % 2 ^ 32

section

variable {average : WindowedAverageT type windowSize} {samples : List type.Value}

theorem Tracks.isFull_iff (tracks : average.Tracks samples) :
    average.isFull = true ↔ windowSize.toNat ≤ samples.length % 2 ^ 32 := by
  rw [isFull, decide_eq_true_iff, tracks.counted, ge_iff_le, UInt32.le_iff_toNat_le,
    UInt32.toNat_ofNat']

theorem Tracks.counterReaches_iff (tracks : average.Tracks samples) :
    CounterReaches windowSize samples.length ↔
      (windowSize.toNat ≤ samples.length → average.isFull = true) := by
  have below := windowSize.toNat_lt
  rw [tracks.isFull_iff, CounterReaches]
  omega

theorem Tracks.maxIndex_eq (tracks : average.Tracks samples)
    (reaches : CounterReaches windowSize samples.length) :
    average.maxIndex.toNat = (lastSamples windowSize samples).length := by
  have counted := congrArg UInt32.toNat tracks.counted
  rw [UInt32.toNat_ofNat'] at counted
  have below := windowSize.toNat_lt
  rw [lastSamples, length_rtake, maxIndex]
  unfold CounterReaches at reaches
  split
  case isTrue more =>
    rw [UInt32.lt_iff_toNat_lt] at more
    omega
  case isFalse notMore =>
    rw [UInt32.lt_iff_toNat_lt] at notMore
    omega

theorem Tracks.entries_perm (tracks : average.Tracks samples)
    (reaches : CounterReaches windowSize samples.length) :
    average.entries.Perm (lastSamples windowSize samples) := by
  have perm := tracks.ring.perm
  rw [← length_rtake] at perm
  rw [entries, tracks.maxIndex_eq reaches]
  exact perm

theorem Tracks.maxIndex_pos (tracks : average.Tracks samples)
    (reaches : CounterReaches windowSize samples.length)
    (sampled : 0 < (lastSamples windowSize samples).length) : average.maxIndex > 0 := by
  rw [gt_iff_lt, UInt32.lt_iff_toNat_lt, tracks.maxIndex_eq reaches]
  exact sampled

theorem Tracks.getAverage_eq (tracks : average.Tracks samples)
    (reaches : CounterReaches windowSize samples.length)
    (sampled : 0 < (lastSamples windowSize samples).length) :
    average.getAverage =
      type.divide (type.wrap (lastTotal windowSize samples)) average.maxIndex := by
  have total := ((tracks.entries_perm reaches).map Subtype.val).sum_eq
  rw [getAverage, if_pos (tracks.maxIndex_pos reaches sampled), IntegerType.foldl_wrap,
    Int.zero_add, total, lastTotal]

theorem Tracks.isLeast (tracks : average.Tracks samples)
    (reaches : CounterReaches windowSize samples.length)
    (sampled : 0 < (lastSamples windowSize samples).length) :
    IsLeast {sample | sample ∈ lastSamples windowSize samples} average.getMinMax.2.1 := by
  have perm := tracks.entries_perm reaches
  obtain ⟨some, member⟩ := List.exists_mem_of_length_pos sampled
  rw [getMinMax, if_pos (tracks.maxIndex_pos reaches sampled)]
  simp only [← perm.mem_iff]
  exact (isLeast_part_iff fun _ => id).mpr
    ⟨⟨some, perm.mem_iff.mpr member, some.property.2⟩,
      fun value inside => ⟨value, inside, le_rfl⟩⟩

theorem Tracks.isGreatest (tracks : average.Tracks samples)
    (reaches : CounterReaches windowSize samples.length)
    (sampled : 0 < (lastSamples windowSize samples).length) :
    IsGreatest {sample | sample ∈ lastSamples windowSize samples} average.getMinMax.2.2 := by
  have perm := tracks.entries_perm reaches
  obtain ⟨some, member⟩ := List.exists_mem_of_length_pos sampled
  rw [getMinMax, if_pos (tracks.maxIndex_pos reaches sampled)]
  simp only [← perm.mem_iff]
  exact (isGreatest_part_iff fun _ => id).mpr
    ⟨⟨some, perm.mem_iff.mpr member, some.property.1⟩,
      fun value inside => ⟨value, inside, le_rfl⟩⟩

end

/-- What is reported after the samples is about the last ones, and the window is full once
there are enough of them. -/
structure Reports (average : WindowedAverageT type windowSize) (samples : List type.Value) :
    Prop where
  full : windowSize.toNat ≤ samples.length → average.isFull = true
  mean : samples ≠ [] → average.getAverage.val =
    (lastTotal windowSize samples).tdiv (lastSamples windowSize samples).length
  minimum : samples ≠ [] →
    IsLeast {sample | sample ∈ lastSamples windowSize samples} average.getMinMax.2.1
  maximum : samples ≠ [] →
    IsGreatest {sample | sample ∈ lastSamples windowSize samples} average.getMinMax.2.2

theorem Tracks.reports_iff_exact {average : WindowedAverageT type windowSize}
    {samples : List type.Value} (tracks : average.Tracks samples)
    (positive : 0 < windowSize.toNat) :
    average.Reports samples ↔
      CounterReaches windowSize samples.length ∧
        (samples ≠ [] → type.QuotientExact (lastTotal windowSize samples)
          (lastSamples windowSize samples).length) := by
  have held : samples ≠ [] → 0 < (lastSamples windowSize samples).length := by
    intro sampled
    have pushed := List.length_pos_iff.mpr sampled
    rw [lastSamples, length_rtake]
    omega
  have divided (reaches : CounterReaches windowSize samples.length) (sampled : samples ≠ []) :
      average.getAverage.val =
          (lastTotal windowSize samples).tdiv (lastSamples windowSize samples).length ↔
        type.QuotientExact (lastTotal windowSize samples)
          (lastSamples windowSize samples).length := by
    have bounds := type.sum_mem (lastSamples windowSize samples)
    have several := held sampled
    rw [tracks.getAverage_eq reaches several]
    rw [← tracks.maxIndex_eq reaches] at bounds several ⊢
    exact IntegerType.divide_iff several bounds.1 bounds.2
  constructor
  · intro reports
    have reaches := tracks.counterReaches_iff.mpr reports.full
    exact ⟨reaches, fun sampled => (divided reaches sampled).mp (reports.mean sampled)⟩
  · intro condition
    obtain ⟨reaches, averaged⟩ := condition
    exact ⟨tracks.counterReaches_iff.mp reaches,
      fun sampled => (divided reaches sampled).mpr (averaged sampled),
      fun sampled => tracks.isLeast reaches (held sampled),
      fun sampled => tracks.isGreatest reaches (held sampled)⟩

/-- What is reported is right if and only if the counter still reaches over the window and
the division in the type is exact on the sum of the last samples. -/
theorem reports_iff (positive : 0 < windowSize.toNat)
    (mWindow : Vector type.Value windowSize.toNat) (samples : List type.Value) :
    (∃ average, execute push (create mWindow) samples = some average ∧
      average.Reports samples) ↔
      CounterReaches windowSize samples.length ∧
        (samples ≠ [] → type.QuotientExact (lastTotal windowSize samples)
          (lastSamples windowSize samples).length) := by
  obtain ⟨average, executed, tracks⟩ := execute_push positive mWindow samples
  rw [← tracks.reports_iff_exact positive, executed]
  constructor
  · intro run
    obtain ⟨other, same, reports⟩ := run
    cases same
    exact reports
  · intro reports
    exact ⟨average, rfl, reports⟩

/-- Of three samples the last two are averaged. -/
theorem reports_of_three :
    ∃ average, execute push
        (create (Vector.replicate _ IntegerType.int32.lowest) :
          WindowedAverageT IntegerType.int32 2)
        [IntegerType.int32.wrap 7, IntegerType.int32.wrap 4, IntegerType.int32.wrap 5] =
          some average ∧
      average.Reports
        [IntegerType.int32.wrap 7, IntegerType.int32.wrap 4, IntegerType.int32.wrap 5] := by
  refine (reports_iff (by decide) _ _).mpr ⟨.inl (by decide), fun _ => ?_⟩
  exact IntegerType.quotientExact_of_nonneg _ (by decide) (by decide) (by decide)

/-- The average of -3 and -3 is answered as 2147483645. -/
theorem not_reports :
    ¬ ∃ average, execute push
        (create (Vector.replicate _ IntegerType.int32.lowest) :
          WindowedAverageT IntegerType.int32 2)
        [IntegerType.int32.wrap (-3), IntegerType.int32.wrap (-3)] = some average ∧
      average.Reports [IntegerType.int32.wrap (-3), IntegerType.int32.wrap (-3)] := by
  intro run
  obtain ⟨average, executed, reports⟩ := run
  cases executed
  exact absurd (reports.mean (by decide)) (by decide)

end WindowedAverageT

end FiberApp.Bandwidth
