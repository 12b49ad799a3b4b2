import FiberApp.Bandwidth.HistogramQueriesProperties

/-! Which values of the range a histogram counts in the bins between its first and last.
The number of these bins is rounded down, so the values of the range past the last whole
step are counted with those above the range. -/

set_option autoImplicit false

namespace FiberApp.Bandwidth

namespace CompiledRange

/-- Where the last whole step of the range ends. -/
def wholeEnd (range : CompiledRange) : Int :=
  range.minVal + (range.maxVal - range.minVal) / range.stepSize * range.stepSize

theorem minVal_le_wholeEnd (range : CompiledRange) : range.minVal ≤ range.wholeEnd := by
  have span := Int.sub_nonneg_of_le range.ordered
  have steps := Int.mul_nonneg (Int.ediv_nonneg span (Int.le_of_lt range.stepSize_pos))
    (Int.le_of_lt range.stepSize_pos)
  rw [wholeEnd]
  omega

theorem wholeEnd_le_maxVal (range : CompiledRange) : range.wholeEnd ≤ range.maxVal := by
  have whole := Int.ediv_mul_le (range.maxVal - range.minVal) range.stepSize_pos.ne'
  rw [wholeEnd]
  omega

theorem wholeEnd_eq_iff (range : CompiledRange) :
    range.wholeEnd = range.maxVal ↔ range.stepSize ∣ range.maxVal - range.minVal := by
  constructor
  · intro whole
    rw [wholeEnd] at whole
    exact ⟨(range.maxVal - range.minVal) / range.stepSize, by rw [Int.mul_comm]; omega⟩
  · intro divides
    rw [wholeEnd, Int.ediv_mul_cancel divides]
    omega

/-- The bin that counts the value, one of those between the first and the last, whose
values are the ones between its bounds. -/
def CountedInside (range : CompiledRange) (value : Int32) : Prop :=
  ∃ idx : Fin range.numBins,
    (∀ histogram : BasicHistogram range.toHistogramRange,
      (histogram.insert value).bins = histogram.bins.set idx (histogram.bins[idx] + 1)) ∧
    1 ≤ idx.val ∧ idx.val ≤ range.numBins - 2 ∧
    range.minVal + ((idx.val : Int) - 1) * range.stepSize ≤ value.toInt ∧
    value.toInt < range.minVal + (idx.val : Int) * range.stepSize

/-- A value of the range is counted inside it, and the first and the last bin count
values outside it. -/
structure Covers (range : CompiledRange) (value : Int32) : Prop where
  inside : range.minVal ≤ value.toInt → value.toInt < range.maxVal → range.CountedInside value
  ends : range.bin value = 0 ∨ range.bin value = range.numBins - 1 →
    value.toInt < range.minVal ∨ range.maxVal ≤ value.toInt

variable {range : CompiledRange} {value : Int32}

theorem CountedInside.lt_wholeEnd (counted : range.CountedInside value) :
    value.toInt < range.wholeEnd := by
  obtain ⟨idx, -, -, last, -, below⟩ := counted
  have span := Int.sub_nonneg_of_le range.ordered
  have quotient := Int.ediv_nonneg span (Int.le_of_lt range.stepSize_pos)
  have bins : range.numBins =
      ((range.maxVal - range.minVal) / range.stepSize).toNat + 2 := rfl
  have most : (idx.val : Int) ≤ (range.maxVal - range.minVal) / range.stepSize := by omega
  have steps := Int.mul_le_mul_of_nonneg_right most (Int.le_of_lt range.stepSize_pos)
  rw [wholeEnd]
  omega

/-- Before the end of the last whole step, the code's index is that of the bin around
the value. -/
theorem bin_of_lt_wholeEnd (notBelow : range.minVal ≤ value.toInt)
    (below : value.toInt < range.wholeEnd) :
    1 ≤ range.bin value ∧ range.bin value ≤ range.numBins - 2 ∧
      range.minVal + ((range.bin value : Int) - 1) * range.stepSize ≤ value.toInt ∧
      value.toInt < range.minVal + (range.bin value : Int) * range.stepSize := by
  have positive := range.stepSize_pos
  have inside := Int.lt_of_lt_of_le below range.wholeEnd_le_maxVal
  have bins : range.numBins =
      ((range.maxVal - range.minVal) / range.stepSize).toNat + 2 := rfl
  have lower := Int.ediv_mul_le (value.toInt - range.minVal) positive.ne'
  have upper := Int.lt_ediv_add_one_mul_self (value.toInt - range.minVal) positive
  have quotient := Int.ediv_nonneg (Int.sub_nonneg_of_le notBelow) (Int.le_of_lt positive)
  have fewer : (value.toInt - range.minVal) / range.stepSize <
      (range.maxVal - range.minVal) / range.stepSize := by
    refine Int.ediv_lt_of_lt_mul positive ?_
    rw [wholeEnd] at below
    omega
  rw [HistogramRange.bin_of_inside notBelow inside, Nat.cast_add, Int.toNat_of_nonneg quotient,
    Nat.cast_one, Int.add_sub_cancel]
  refine ⟨by omega, by omega, by omega, by omega⟩

theorem countedInside_of_lt (notBelow : range.minVal ≤ value.toInt)
    (below : value.toInt < range.wholeEnd) : range.CountedInside value :=
  ⟨range.getIndex value, fun _ => rfl, bin_of_lt_wholeEnd notBelow below⟩

theorem covers_value_iff :
    Covers range value ↔ value.toInt < range.wholeEnd ∨ range.maxVal ≤ value.toInt := by
  have start := range.minVal_le_wholeEnd
  constructor
  · intro covers
    by_cases inside : range.minVal ≤ value.toInt ∧ value.toInt < range.maxVal
    · exact .inl (covers.inside inside.1 inside.2).lt_wholeEnd
    · omega
  · intro whole
    constructor
    · intro notBelow below
      exact countedInside_of_lt notBelow (by omega)
    · intro ends
      by_contra inside
      have notBelow : range.minVal ≤ value.toInt := by omega
      have whole : value.toInt < range.wholeEnd := by omega
      have bounds := bin_of_lt_wholeEnd notBelow whole
      omega

/-- A value of the range is counted in its bin if and only if it lies before the end of
the last whole step; so all are if and only if the step divides the range. -/
theorem covers_iff (range : CompiledRange) :
    (∀ value, Covers range value ↔
      value.toInt < range.wholeEnd ∨ range.maxVal ≤ value.toInt) ∧
    ((∀ value, Covers range value) ↔ range.stepSize ∣ range.maxVal - range.minVal) := by
  refine ⟨fun value => covers_value_iff, ?_⟩
  rw [← wholeEnd_eq_iff]
  have start := range.minVal_le_wholeEnd
  have stop := range.wholeEnd_le_maxVal
  have minVal_int := range.minVal_int
  have maxVal_int := range.maxVal_int
  constructor
  · intro covers
    by_contra rest
    have value := Int32.toInt_ofInt_of_le (n := range.wholeEnd) (by omega) (by omega)
    have covered := covers_value_iff.mp (covers (.ofInt range.wholeEnd))
    omega
  · intro whole value
    refine covers_value_iff.mpr ?_
    omega

/-- Of a range of seven in steps of three, the last value is counted with those above the
range. -/
def seven : CompiledRange where
  minVal := 1
  maxVal := 8
  stepSize := 3
  ordered := by decide
  stepSize_pos := by decide
  minVal_int := by decide
  maxVal_int := by decide
  stepSize_int := by decide
  span_int := by decide
  numBins_int := by decide

theorem not_covers : ¬ Covers seven 7 := by
  intro covers
  exact absurd (covers.ends (.inr (by decide))) (by decide)

end CompiledRange

end FiberApp.Bandwidth
