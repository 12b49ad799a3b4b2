import FiberApp.Bandwidth.RtpStatsUtil
import FiberApp.Foundation.Execution
import FiberApp.Foundation.LastValues
import FiberApp.Foundation.SampleMoments
import Mathlib.Algebra.Field.Rat
import Mathlib.Tactic.NormNum

/-! The windowed mean and variance are those of the last samples until the window is
full. From then on a push takes off what the leaving sample added when it was pushed,
which is seldom what it has come to contribute since. -/

set_option autoImplicit false

namespace FiberApp.Bandwidth

open Foundation

variable {K : Type} [Field K]

namespace WindowedRunningMeanAndVariance

/-- The statistics beside the samples pushed so far. -/
structure Observed (K : Type) where
  stats : WindowedRunningMeanAndVariance K
  pushed : List K

def Observed.initial (windowSize : Nat) : Observed K := ⟨create windowSize, []⟩

def Observed.step (windowSize : Nat) (observed : Observed K) (val : K) : Option (Observed K) :=
  (observed.stats.push windowSize val).map fun stats => ⟨stats, observed.pushed ++ [val]⟩

def Observed.window (windowSize : Nat) (observed : Observed K) : List K :=
  observed.pushed.rtake windowSize

/-- What is reported are the mean and the variance of the last samples. -/
def Observed.ReportsLast (windowSize : Nat) (observed : Observed K) : Prop :=
  observed.stats.mean = Foundation.mean (observed.window windowSize) ∧
    observed.stats.variance = sampleVariance (observed.window windowSize)

/-- The stored parts at the next entry are what the leaving sample contributes to the mean
of the window and to its deviations when `val` takes its place. -/
def Observed.StoresContribution (windowSize : Nat) (observed : Observed K) (val : K) : Prop :=
  ∃ leaving rest meanPart varPart,
    observed.window windowSize = leaving :: rest ∧
    observed.stats.mOldMParts[observed.stats.mNextEntry]? = some meanPart ∧
    observed.stats.mOldSParts[observed.stats.mNextEntry]? = some varPart ∧
    (windowSize - 1) * meanPart = leaving - Foundation.mean (leaving :: rest) ∧
    varPart = (leaving - Foundation.mean (leaving :: rest)) *
      (leaving - Foundation.mean (rest ++ [val]))

/-- The window is not full yet, holds one sample, or stores the right contribution. -/
def Observed.Removable (windowSize : Nat) (observed : Observed K) (val : K) : Prop :=
  observed.stats.mNumEntries < windowSize ∨ windowSize = 1 ∨
    observed.StoresContribution windowSize val

structure Observed.InBounds (windowSize : Nat) (observed : Observed K) : Prop where
  meanParts : observed.stats.mOldMParts.length = windowSize
  varParts : observed.stats.mOldSParts.length = windowSize
  next : observed.stats.mNextEntry < windowSize

structure Observed.Tracks (windowSize : Nat) (observed : Observed K) : Prop
    extends observed.InBounds windowSize where
  counted : observed.stats.mNumEntries = (observed.window windowSize).length
  newM : observed.stats.mNewM = Foundation.mean (observed.window windowSize)
  oldM : observed.stats.mOldM = observed.stats.mNewM
  newS : 1 < windowSize → observed.stats.mNewS = deviations (observed.window windowSize)

theorem advanceEntry_lt {windowSize next : Nat} (inside : next < windowSize) :
    advanceEntry windowSize next < windowSize := by
  unfold advanceEntry
  split <;> omega

theorem initial_inBounds {windowSize : Nat} (positive : 0 < windowSize) :
    (Observed.initial windowSize : Observed K).InBounds windowSize :=
  ⟨List.length_replicate, List.length_replicate, positive⟩

theorem initial_tracks {windowSize : Nat} (positive : 0 < windowSize) :
    (Observed.initial windowSize : Observed K).Tracks windowSize := by
  refine ⟨initial_inBounds positive, ?_, ?_, rfl, fun _ => ?_⟩ <;>
    simp [Observed.window, Observed.initial, create, Foundation.mean, deviations]

/-- What `record` leaves, the bounds being kept. -/
def recorded (windowSize : Nat) (val : K) (stats : WindowedRunningMeanAndVariance K) :
    WindowedRunningMeanAndVariance K :=
  let meanPart := (val - stats.mNewM) / stats.mNumEntries
  let newM := stats.mNewM + meanPart
  let varPart := (val - stats.mOldM) * (val - newM)
  { stats with
    mOldMParts := stats.mOldMParts.set stats.mNextEntry meanPart
    mOldSParts := stats.mOldSParts.set stats.mNextEntry varPart
    mNewM := newM
    mNewS := stats.mNewS + varPart
    mOldM := newM
    mNextEntry := advanceEntry windowSize stats.mNextEntry }

section Step

variable {windowSize : Nat} {observed : Observed K}

theorem Observed.InBounds.record (bounds : observed.InBounds windowSize) (val : K)
    (roomy : WindowedRunningMeanAndVariance K)
    (meanParts : roomy.mOldMParts = observed.stats.mOldMParts)
    (varParts : roomy.mOldSParts = observed.stats.mOldSParts)
    (next : roomy.mNextEntry = observed.stats.mNextEntry) :
    roomy.record windowSize val = some (roomy.recorded windowSize val) := by
  have inside := bounds.next
  rw [WindowedRunningMeanAndVariance.record, if_pos]
  · rfl
  · rw [meanParts, varParts, next, bounds.meanParts, bounds.varParts]
    exact ⟨inside, inside⟩

theorem Observed.InBounds.step_filling (bounds : observed.InBounds windowSize)
    (filling : observed.stats.mNumEntries < windowSize) (val : K) :
    observed.step windowSize val = some
      ⟨({ observed.stats with mNumEntries := observed.stats.mNumEntries + 1 } :
          WindowedRunningMeanAndVariance K).recorded windowSize val,
        observed.pushed ++ [val]⟩ := by
  have recorded := bounds.record val
    { observed.stats with mNumEntries := observed.stats.mNumEntries + 1 } rfl rfl rfl
  simp only [Observed.step, WindowedRunningMeanAndVariance.push, makeRoom, if_pos filling,
    Option.bind_eq_bind, Option.bind_some, recorded, Option.map_some]

theorem Observed.InBounds.step_full (bounds : observed.InBounds windowSize)
    (full : ¬ observed.stats.mNumEntries < windowSize) (val : K) :
    ∃ meanPart varPart,
      observed.stats.mOldMParts[observed.stats.mNextEntry]? = some meanPart ∧
      observed.stats.mOldSParts[observed.stats.mNextEntry]? = some varPart ∧
      observed.step windowSize val = some
        ⟨({ observed.stats with
              mNewM := observed.stats.mNewM - meanPart
              mNewS := observed.stats.mNewS - varPart } :
            WindowedRunningMeanAndVariance K).recorded windowSize val,
          observed.pushed ++ [val]⟩ := by
  have insideMean : observed.stats.mNextEntry < observed.stats.mOldMParts.length := by
    rw [bounds.meanParts]
    exact bounds.next
  have insideVar : observed.stats.mNextEntry < observed.stats.mOldSParts.length := by
    rw [bounds.varParts]
    exact bounds.next
  refine ⟨_, _, List.getElem?_eq_getElem insideMean, List.getElem?_eq_getElem insideVar, ?_⟩
  have recorded := bounds.record val
    { observed.stats with
      mNewM := observed.stats.mNewM - observed.stats.mOldMParts[observed.stats.mNextEntry]
      mNewS := observed.stats.mNewS - observed.stats.mOldSParts[observed.stats.mNextEntry] }
    rfl rfl rfl
  simp only [Observed.step, WindowedRunningMeanAndVariance.push, makeRoom, if_neg full,
    List.getElem?_eq_getElem insideMean, List.getElem?_eq_getElem insideVar,
    Option.bind_eq_bind, Option.bind_some, recorded, Option.map_some]

theorem Observed.InBounds.step (bounds : observed.InBounds windowSize) (val : K) :
    ∃ next, observed.step windowSize val = some next ∧ next.InBounds windowSize := by
  have kept : ∀ roomy : WindowedRunningMeanAndVariance K,
      roomy.mOldMParts = observed.stats.mOldMParts →
      roomy.mOldSParts = observed.stats.mOldSParts →
      roomy.mNextEntry = observed.stats.mNextEntry →
      (⟨roomy.recorded windowSize val, observed.pushed ++ [val]⟩ : Observed K).InBounds
        windowSize := by
    intro roomy meanParts varParts next
    refine ⟨?_, ?_, ?_⟩
    · rw [← bounds.meanParts, ← meanParts]
      exact List.length_set ..
    · rw [← bounds.varParts, ← varParts]
      exact List.length_set ..
    · exact advanceEntry_lt (next ▸ bounds.next)
  by_cases filling : observed.stats.mNumEntries < windowSize
  · exact ⟨_, bounds.step_filling filling val, kept _ rfl rfl rfl⟩
  · obtain ⟨meanPart, varPart, -, -, taken⟩ := bounds.step_full filling val
    exact ⟨_, taken, kept _ rfl rfl rfl⟩

/-- The arrays are indexed within their bounds, right or wrong as the statistics are. -/
theorem execute_within_bounds (positive : 0 < windowSize) (samples : List K) :
    ∃ final, execute (Observed.step windowSize) (Observed.initial windowSize) samples =
      some final := by
  have run : ∀ (observed : Observed K), observed.InBounds windowSize →
      ∃ final, execute (Observed.step windowSize) observed samples = some final := by
    induction samples with
    | nil => exact fun observed _ => ⟨observed, rfl⟩
    | cons val rest ih =>
        intro observed bounds
        obtain ⟨next, taken, kept⟩ := bounds.step val
        obtain ⟨final, executed⟩ := ih next kept
        exact ⟨final, execute_cons_eq_some.mpr ⟨next, taken, executed⟩⟩
  exact run _ (initial_inBounds positive)

theorem Observed.Tracks.window_filling (tracks : observed.Tracks windowSize)
    (filling : observed.stats.mNumEntries < windowSize) (val : K) :
    (observed.pushed ++ [val]).rtake windowSize = observed.window windowSize ++ [val] := by
  have counted := tracks.counted
  rw [rtake_concat (by omega), pushBounded, keptBounded, if_neg]
  · rfl
  · rw [Observed.window] at counted
    omega

theorem Observed.Tracks.window_full (tracks : observed.Tracks windowSize)
    (full : ¬ observed.stats.mNumEntries < windowSize) :
    ∃ leaving rest, observed.window windowSize = leaving :: rest ∧
      windowSize = rest.length + 1 ∧ observed.stats.mNumEntries = windowSize ∧
      ∀ val, (observed.pushed ++ [val]).rtake windowSize = rest ++ [val] := by
  have counted := tracks.counted
  have next := tracks.next
  have length := length_rtake windowSize observed.pushed
  rw [Observed.window] at counted
  have whole : (observed.pushed.rtake windowSize).length = windowSize := by omega
  obtain ⟨leaving, rest, window⟩ : ∃ leaving rest,
      observed.pushed.rtake windowSize = leaving :: rest :=
    List.exists_cons_of_ne_nil (List.ne_nil_of_length_pos (by omega))
  refine ⟨leaving, rest, window, ?_, by omega, ?_⟩
  · rw [← whole, window, List.length_cons]
  · intro val
    rw [rtake_concat (by omega), pushBounded, keptBounded, if_pos whole, window, List.tail_cons]

/-- Taking the mean part off moves the mean as the leaving sample does exactly when the part
is its share in the mean of the others. -/
theorem newMean_eq_iff {samples : Nat} (counted : (samples : K) ≠ 0)
    (newM meanPart leaving val : K) :
    newM - meanPart + (val - (newM - meanPart)) / samples =
        newM + (val - leaving) / samples ↔
      (samples - 1) * meanPart = leaving - newM := by
  have difference : newM - meanPart + (val - (newM - meanPart)) / samples -
      (newM + (val - leaving) / samples) =
        (leaving - newM - (samples - 1) * meanPart) / samples := by
    field_simp
    ring
  rw [← sub_eq_zero, difference, div_eq_zero_iff, or_iff_left counted, sub_eq_zero, eq_comm]

theorem newS_eq_iff (newS varPart contribution added : K) :
    newS - varPart + added = newS - contribution + added ↔ varPart = contribution := by
  rw [add_left_inj, sub_right_inj]

/-- The statistics after a push to a full window, in terms of the parts taken off. -/
structure FullStep (windowSize : Nat) (observed : Observed K) (val leaving : K)
    (rest : List K) (meanPart varPart : K) (next : Observed K) : Prop where
  window : observed.window windowSize = leaving :: rest
  meanStored : observed.stats.mOldMParts[observed.stats.mNextEntry]? = some meanPart
  varStored : observed.stats.mOldSParts[observed.stats.mNextEntry]? = some varPart
  meanParts : next.stats.mOldMParts.length = windowSize
  varParts : next.stats.mOldSParts.length = windowSize
  inside : next.stats.mNextEntry < windowSize
  entries : next.stats.mNumEntries = windowSize
  after : next.window windowSize = rest ++ [val]
  oldM : next.stats.mOldM = next.stats.mNewM
  newM : next.stats.mNewM = Foundation.mean (leaving :: rest) - meanPart +
    (val - (Foundation.mean (leaving :: rest) - meanPart)) / windowSize
  newS : 1 < windowSize → next.stats.mNewS = deviations (leaving :: rest) - varPart +
    (val - Foundation.mean (leaving :: rest)) * (val - next.stats.mNewM)

theorem Observed.Tracks.fullStep (tracks : observed.Tracks windowSize)
    (full : ¬ observed.stats.mNumEntries < windowSize) (val : K) :
    ∃ leaving rest meanPart varPart next, observed.step windowSize val = some next ∧
      windowSize = rest.length + 1 ∧
      FullStep windowSize observed val leaving rest meanPart varPart next := by
  obtain ⟨meanPart, varPart, meanStored, varStored, taken⟩ := tracks.toInBounds.step_full full val
  obtain ⟨leaving, rest, window, sized, entries, after⟩ := tracks.window_full full
  obtain ⟨⟨meanParts, varParts, inside⟩, counted, newM, oldM, newS⟩ := tracks
  rw [window] at newM newS
  refine ⟨leaving, rest, meanPart, varPart, _, taken, sized, window, meanStored, varStored,
    ?_, ?_, advanceEntry_lt inside, entries, after val, rfl, ?_, ?_⟩
  · exact (List.length_set ..).trans meanParts
  · exact (List.length_set ..).trans varParts
  · simp only [recorded, newM, entries]
  · intro wide
    simp only [recorded, newS wide, oldM, newM]

/-- A push to a full window keeps the statistics right exactly when it takes off what the
leaving sample contributes. -/
theorem FullStep.tracks_iff {val leaving meanPart varPart : K} {rest : List K}
    {next : Observed K}
    (step : FullStep windowSize observed val leaving rest meanPart varPart next)
    (sized : windowSize = rest.length + 1) :
    next.Tracks windowSize ↔
      next.stats.mNewM = Foundation.mean (rest ++ [val]) ∧
        (1 < windowSize → next.stats.mNewS = deviations (rest ++ [val])) := by
  constructor
  · intro tracks
    exact ⟨step.after ▸ tracks.newM, step.after ▸ tracks.newS⟩
  · intro right
    obtain ⟨mean, variance⟩ := right
    refine ⟨⟨step.meanParts, step.varParts, step.inside⟩, ?_, step.after ▸ mean, step.oldM,
      step.after ▸ variance⟩
    rw [step.entries, step.after, sized, List.length_append, List.length_singleton]

theorem Observed.Tracks.reportsLast (tracks : observed.Tracks windowSize) :
    observed.ReportsLast windowSize := by
  have counted := tracks.counted
  have short := length_rtake windowSize observed.pushed
  rw [← Observed.window] at short
  constructor
  · rw [WindowedRunningMeanAndVariance.mean]
    split
    case isTrue some => exact tracks.newM
    case isFalse none =>
      have empty : observed.window windowSize = [] :=
        List.eq_nil_of_length_eq_zero (by omega)
      simp [empty, Foundation.mean]
  · rw [WindowedRunningMeanAndVariance.variance, sampleVariance]
    split
    case isTrue several =>
      rw [tracks.newS (by omega), counted, Nat.cast_pred (by omega)]
    case isFalse few =>
      cases window : observed.window windowSize with
      | nil => simp [deviations]
      | cons sample rest =>
          rw [window, List.length_cons] at counted
          have alone : rest = [] := List.eq_nil_of_length_eq_zero (by omega)
          simp [alone]

variable [CharZero K]

theorem Observed.Tracks.kept_filling (tracks : observed.Tracks windowSize)
    (filling : observed.stats.mNumEntries < windowSize) (val : K) {next : Observed K}
    (taken : observed.step windowSize val = some next) : next.Tracks windowSize := by
  rw [tracks.toInBounds.step_filling filling] at taken
  cases taken
  have window := tracks.window_filling filling val
  obtain ⟨⟨meanParts, varParts, inside⟩, counted, newM, oldM, newS⟩ := tracks
  have mean : observed.stats.mNewM + (val - observed.stats.mNewM) /
      ((observed.stats.mNumEntries + 1 : Nat) : K) =
        Foundation.mean (observed.window windowSize ++ [val]) := by
    rw [newM, counted, Nat.cast_succ, mean_concat]
  refine ⟨⟨?_, ?_, advanceEntry_lt inside⟩, ?_, ?_, rfl, ?_⟩
  · exact (List.length_set ..).trans meanParts
  · exact (List.length_set ..).trans varParts
  · rw [Observed.window, window, List.length_append, List.length_singleton, ← counted]
    rfl
  · rw [Observed.window, window, ← mean]
    rfl
  · intro wide
    rw [Observed.window, window, deviations_concat, ← mean, ← newS wide, ← newM]
    simp only [recorded, oldM]

theorem FullStep.mean_iff {val leaving meanPart varPart : K} {rest : List K}
    {next : Observed K}
    (step : FullStep windowSize observed val leaving rest meanPart varPart next)
    (sized : windowSize = rest.length + 1) :
    next.stats.mNewM = Foundation.mean (rest ++ [val]) ↔
      (windowSize - 1) * meanPart = leaving - Foundation.mean (leaving :: rest) := by
  have counted : (windowSize : K) ≠ 0 := by
    rw [sized]
    exact Nat.cast_ne_zero.mpr (Nat.succ_ne_zero _)
  have replaced := mean_replace leaving rest val
  rw [← Nat.cast_succ, Nat.succ_eq_add_one, ← sized] at replaced
  rw [step.newM, replaced, newMean_eq_iff counted]

theorem FullStep.variance_iff {val leaving meanPart varPart : K} {rest : List K}
    {next : Observed K}
    (step : FullStep windowSize observed val leaving rest meanPart varPart next)
    (wide : 1 < windowSize) (mean : next.stats.mNewM = Foundation.mean (rest ++ [val])) :
    next.stats.mNewS = deviations (rest ++ [val]) ↔
      varPart = (leaving - Foundation.mean (leaving :: rest)) *
        (leaving - Foundation.mean (rest ++ [val])) := by
  rw [step.newS wide, mean, deviations_replace leaving rest val, newS_eq_iff]

theorem FullStep.kept {val leaving meanPart varPart : K} {rest : List K} {next : Observed K}
    (step : FullStep windowSize observed val leaving rest meanPart varPart next)
    (sized : windowSize = rest.length + 1)
    (full : ¬ observed.stats.mNumEntries < windowSize)
    (removable : observed.Removable windowSize val) : next.Tracks windowSize := by
  rw [step.tracks_iff sized]
  rcases removable with filling | single | contribution
  · exact absurd filling full
  · have alone : rest = [] := List.eq_nil_of_length_eq_zero (by omega)
    refine ⟨?_, by omega⟩
    rw [step.newM, single, alone, List.nil_append, mean_singleton, Nat.cast_one, div_one,
      add_sub_cancel, mean_singleton]
  · obtain ⟨_, _, _, _, window, meanStored, varStored, meanRight, varRight⟩ := contribution
    rw [step.window, List.cons.injEq] at window
    obtain ⟨rfl, rfl⟩ := window
    cases Option.some.inj (step.meanStored.symm.trans meanStored)
    cases Option.some.inj (step.varStored.symm.trans varStored)
    have mean := (step.mean_iff sized).mpr meanRight
    exact ⟨mean, fun wide => (step.variance_iff wide mean).mpr varRight⟩

theorem FullStep.lost {val leaving meanPart varPart : K} {rest : List K} {next : Observed K}
    (step : FullStep windowSize observed val leaving rest meanPart varPart next)
    (sized : windowSize = rest.length + 1)
    (refused : ¬ observed.Removable windowSize val) : ¬ next.ReportsLast windowSize := by
  intro reports
  obtain ⟨mean, variance⟩ := reports
  have several : ¬ windowSize = 1 := fun single => refused (.inr (.inl single))
  have wide : 1 < windowSize := by omega
  have apart : (rest.length : K) ≠ 0 := by
    rw [Nat.cast_ne_zero]
    omega
  rw [WindowedRunningMeanAndVariance.mean, step.entries, if_pos (by omega), step.after] at mean
  rw [WindowedRunningMeanAndVariance.variance, step.entries, if_pos wide, step.after,
    sampleVariance, List.length_append, List.length_singleton, Nat.cast_succ,
    add_sub_cancel_right, sized, Nat.add_sub_cancel, div_left_inj' apart] at variance
  refine refused (.inr (.inr ⟨leaving, rest, meanPart, varPart, step.window, step.meanStored,
    step.varStored, ?_, ?_⟩))
  · exact (step.mean_iff sized).mp mean
  · exact (step.variance_iff wide mean).mp variance

end Step

end WindowedRunningMeanAndVariance

end FiberApp.Bandwidth
