import Mathlib.Tactic.FieldSimp
import Mathlib.Algebra.Field.Rat
import Mathlib.Algebra.Field.Basic
import FiberApp.Foundation.OrderStatistics
import FiberApp.Bandwidth.HistogramQueries
import FiberApp.Bandwidth.OverlappedHistogramProperties

/-! What the queries of a histogram answer about the values inserted since its reset. -/

set_option autoImplicit false

namespace FiberApp.Bandwidth

open Foundation

namespace HistogramRange

/-- The bin a value is counted in. -/
def bin (range : HistogramRange) (value : Int32) : Nat := (range.getIndex value).val

theorem bin_lt (range : HistogramRange) (value : Int32) : range.bin value < range.numBins :=
  (range.getIndex value).isLt

theorem bin_of_below {range : HistogramRange} {value : Int32}
    (below : value.toInt < range.minVal) : range.bin value = 0 := by
  rw [bin, getIndex, if_pos below]

theorem bin_of_above {range : HistogramRange} {value : Int32}
    (above : range.maxVal ≤ value.toInt) : range.bin value = range.numBins - 1 := by
  have ordered := range.ordered
  rw [bin, getIndex, if_neg (by omega), dif_pos above]

theorem bin_of_inside {range : HistogramRange} {value : Int32}
    (notBelow : range.minVal ≤ value.toInt) (below : value.toInt < range.maxVal) :
    range.bin value = ((value.toInt - range.minVal) / range.stepSize).toNat + 1 := by
  rw [bin, getIndex, if_neg (by omega), dif_neg (by omega)]

theorem bin_mono (range : HistogramRange) {first second : Int32} (ordered : first ≤ second) :
    range.bin first ≤ range.bin second := by
  have values := Int32.le_iff_toInt_le.mp ordered
  by_cases below : first.toInt < range.minVal
  · rw [bin_of_below below]
    exact Nat.zero_le _
  · by_cases above : range.maxVal ≤ second.toInt
    · have inside := range.bin_lt first
      rw [bin_of_above above]
      omega
    · rw [bin_of_inside (Int.not_lt.mp below) (by omega),
        bin_of_inside (by omega) (Int.not_le.mp above)]
      have steps := Int.ediv_le_ediv range.stepSize_pos (Int.sub_le_sub_right values range.minVal)
      omega

end HistogramRange

namespace BasicHistogram

variable {range : HistogramRange}

theorem Holds.inserted {histogram : BasicHistogram range} {held : List Int32}
    (holds : histogram.Holds held) (values : List Int32) :
    (values.foldl (fun histogram value => histogram.insert value) histogram).Holds
      (values.reverse ++ held) := by
  induction values generalizing histogram held with
  | nil => exact holds
  | cons value rest ih =>
      rw [List.reverse_cons, List.append_assoc]
      exact ih (holds.insert value)

theorem FirstOf.perm {order : Int32 → Int32 → Prop} {last seen : Int32}
    {values others : List Int32} (first : FirstOf order last values seen)
    (perm : values.Perm others) : FirstOf order last others seen := by
  rcases first with ⟨rfl, same⟩ | ⟨member, least⟩
  · exact .inl ⟨List.nil_perm.mp perm, same⟩
  · exact .inr ⟨perm.mem_iff.mp member, fun value inside => least value (perm.mem_iff.mpr inside)⟩

theorem Holds.perm {histogram : BasicHistogram range} {values others : List Int32}
    (holds : histogram.Holds values) (perm : values.Perm others) : histogram.Holds others where
  count := by rw [holds.count, perm.length_eq]
  bins := fun idx => by rw [holds.bins, perm.countP_eq]
  minSeen := holds.minSeen.perm perm
  maxSeen := holds.maxSeen.perm perm

/-- After a reset a histogram holds what is inserted. -/
theorem holds_inserted (histogram : BasicHistogram range) (values : List Int32) :
    (values.foldl (fun histogram value => histogram.insert value) histogram.reset).Holds
      values := by
  have none_held : (empty : BasicHistogram range).Holds [] := holds_empty
  have holds := none_held.inserted values
  rw [List.append_nil] at holds
  exact holds.perm values.reverse_perm

theorem Holds.toList_bins {histogram : BasicHistogram range} {values : List Int32}
    (holds : histogram.Holds values) :
    histogram.bins.toList = (List.range' 0 range.numBins).map fun idx =>
      Int32.ofNat (values.countP (range.bin · = idx)) := by
  refine List.ext_getElem (by simp) fun idx inside _ => ?_
  have bounded : idx < range.numBins := by simpa using inside
  have counted := holds.bins ⟨idx, bounded⟩
  simp only [Fin.getElem_fin] at counted
  simp [counted, HistogramRange.bin, Fin.ext_iff]

/-- The sum of a stretch of bins counts the values that fall into it. -/
theorem sum_bins (range : HistogramRange) (values : List Int32) (start length : Nat)
    (sum : Int32) :
    ((List.range' start length).map fun idx =>
      Int32.ofNat (values.countP (range.bin · = idx))).foldl (· + ·) sum =
      sum + Int32.ofNat (countBins range.bin start (start + length) values) := by
  induction length with
  | zero => simp [countBins_self]
  | succ length ih =>
      rw [List.range'_1_concat, List.map_append, List.foldl_append, ih, ← Nat.add_assoc,
        countBins_succ range.bin (Nat.le_add_right start length), Int32.ofNat_add,
        ← Int32.add_assoc]
      rfl

section

variable {histogram : BasicHistogram range} {values : List Int32}

theorem Holds.numElems (holds : histogram.Holds values) (fits : values.length < 2 ^ 31) :
    histogram.count.toInt32.toInt = values.length := by
  rw [holds.count, UInt32.toInt32_ofNat', Int32.toInt_ofNat_of_lt fits]

theorem Holds.numElems_eq_zero (holds : histogram.Holds values)
    (fits : values.length < 2 ^ 31) : histogram.count.toInt32 = 0 ↔ values = [] := by
  rw [← Int32.toInt_inj, holds.numElems fits, Int32.toInt_zero, Int.natCast_eq_zero,
    List.length_eq_zero_iff]

theorem toInt_countP (fits : values.length < 2 ^ 31) (test : Int32 → Bool) :
    (Int32.ofNat (values.countP test)).toInt = values.countP test :=
  Int32.toInt_ofNat_of_lt (Nat.lt_of_le_of_lt List.countP_le_length fits)

/-- No value lies in a bin before that of the smallest value seen. -/
theorem Holds.bin_minSeen_le (holds : histogram.Holds values) {value : Int32}
    (member : value ∈ values) : range.bin histogram.minSeen ≤ range.bin value := by
  rcases holds.minSeen with ⟨rfl, -⟩ | ⟨-, least⟩
  · exact absurd member List.not_mem_nil
  · exact range.bin_mono (least value member)

theorem Holds.minSeen_mem (holds : histogram.Holds values) (some_values : values ≠ []) :
    histogram.minSeen ∈ values := by
  rcases holds.minSeen with ⟨rfl, -⟩ | ⟨member, -⟩
  · exact absurd rfl some_values
  · exact member

/-- From the bin of the smallest value seen on, the bins count all values up to there. -/
theorem Holds.countBins_minSeen (holds : histogram.Holds values) (stop : Nat) :
    countBins range.bin (range.bin histogram.minSeen) stop values =
      values.countP (range.bin · < stop) := by
  refine countBins_congr _ fun value member => ?_
  have least := holds.bin_minSeen_le member
  rw [decide_eq_true_eq]
  omega

/-- The loop of the median stops at the first bin up to which half of the values lie. -/
theorem reachHalfWay_spec (range : HistogramRange) (fits : values.length < 2 ^ 31)
    {halfWay : Int32} {half first : Nat} (same : halfWay.toInt = half) (remaining : Nat)
    {idx : Nat} (ordered : first ≤ idx) :
    ∃ reached, reachHalfWay halfWay
        ((List.range' idx remaining).map fun idx =>
          Int32.ofNat (values.countP (range.bin · = idx))) idx
        (Int32.ofNat (countBins range.bin first idx values)) = reached ∧
      idx ≤ reached ∧
      (∀ before, idx ≤ before → before < reached →
        countBins range.bin first (before + 1) values < half) ∧
      (reached < idx + remaining →
        half ≤ countBins range.bin first (reached + 1) values) := by
  induction remaining generalizing idx with
  | zero => exact ⟨idx, rfl, Nat.le_refl idx, fun before _ _ => by omega, fun _ => by omega⟩
  | succ remaining ih =>
      have sum : Int32.ofNat (countBins range.bin first idx values) +
          Int32.ofNat (values.countP (range.bin · = idx)) =
          Int32.ofNat (countBins range.bin first (idx + 1) values) := by
        rw [countBins_succ range.bin ordered, Int32.ofNat_add]
      simp only [List.range'_succ, List.map_cons, reachHalfWay, sum]
      have reaches : Int32.ofNat (countBins range.bin first (idx + 1) values) ≥ halfWay ↔
          half ≤ countBins range.bin first (idx + 1) values := by
        rw [ge_iff_le, Int32.le_iff_toInt_le, same, countBins, toInt_countP fits]
        exact Int.ofNat_le
      by_cases enough : half ≤ countBins range.bin first (idx + 1) values
      · rw [if_pos (reaches.mpr enough)]
        exact ⟨idx, rfl, Nat.le_refl idx, fun before _ _ => by omega, fun _ => enough⟩
      · rw [if_neg (mt reaches.mp enough)]
        obtain ⟨reached, stops, after, fewer, last⟩ := ih (Nat.le_succ_of_le ordered)
        refine ⟨reached, stops, by omega, ?_, fun inside => last (by omega)⟩
        intro before notBefore inside
        rcases Nat.eq_or_lt_of_le notBefore with rfl | later
        · exact Nat.lt_of_not_le enough
        · exact fewer before later inside

theorem Holds.countBins_all (values : List Int32) :
    countBins range.bin 0 range.numBins values = values.length :=
  List.countP_eq_length.mpr fun value _ => decide_eq_true ⟨Nat.zero_le _, range.bin_lt value⟩

theorem Holds.sum_bins_eq (holds : histogram.Holds values) (fits : values.length < 2 ^ 31) :
    (histogram.bins.toList.map Int32.toInt).sum = values.length := by
  have counts := sum_map_countP range.bin values 0 range.numBins
  rw [Nat.zero_add, Holds.countBins_all] at counts
  rw [← counts, holds.toList_bins, List.map_map]
  refine congrArg List.sum (List.map_congr_left fun idx _ => ?_)
  exact toInt_countP fits _

theorem Holds.bins_getIndex (holds : histogram.Holds values) (val : Int32) :
    histogram.bins.get (range.getIndex val) =
      Int32.ofNat (values.countP (range.bin · = range.bin val)) := by
  have counted := holds.bins (range.getIndex val)
  refine counted.trans ?_
  refine congrArg Int32.ofNat (List.countP_congr fun value _ => ?_)
  exact ⟨fun same => decide_eq_true (congrArg Fin.val (of_decide_eq_true same)),
    fun same => decide_eq_true (Fin.ext (of_decide_eq_true same))⟩

/-- The fraction of the values whose bin is in the given relation to a value's bin. -/
def fraction (range : HistogramRange) (related : Nat → Nat → Bool) (values : List Int32)
    (val : Int32) : ℚ :=
  values.countP (fun value => related (range.bin value) (range.bin val)) / values.length

theorem Holds.valDensity_eq (holds : histogram.Holds values) (fits : values.length < 2 ^ 31)
    (inserted : values ≠ []) (val : Int32) :
    histogram.valDensity val = fraction range (fun bin other => bin = other) values val := by
  simp only [valDensity]
  rw [if_neg (mt (holds.numElems_eq_zero fits).mp inserted), holds.numElems fits,
    holds.bins_getIndex, toInt_countP fits, fraction, Int.cast_natCast, Int.cast_natCast]

theorem Holds.decDensity_eq (holds : histogram.Holds values) (fits : values.length < 2 ^ 31)
    (inserted : values ≠ []) (val : Int32) :
    histogram.decDensity val = fraction range (fun bin other => other ≤ bin) values val := by
  have inside := range.bin_lt val
  have summed := sum_bins range values (range.bin val)
    (range.numBins - range.bin val) 0
  rw [Nat.add_sub_cancel' (Nat.le_of_lt inside), Int32.zero_add,
    countBins_congr (fun value => range.bin val ≤ range.bin value) (by
      intro value _
      have bounded := range.bin_lt value
      rw [decide_eq_true_eq]
      omega)] at summed
  rw [HistogramRange.bin] at summed
  simp only [decDensity]
  rw [if_neg (mt (holds.numElems_eq_zero fits).mp inserted), holds.numElems fits,
    holds.toList_bins, ← List.map_drop, List.drop_range', Nat.zero_add, Nat.mul_one, summed,
    toInt_countP fits, fraction, Int.cast_natCast, Int.cast_natCast]
  rfl

theorem Holds.incDensity_eq (holds : histogram.Holds values) (fits : values.length < 2 ^ 31)
    (inserted : values ≠ []) (val : Int32) :
    histogram.incDensity val = fraction range (fun bin other => bin ≤ other) values val := by
  have inside : (range.getIndex val).val < range.numBins := range.bin_lt val
  have summed := sum_bins range values (range.bin histogram.minSeen)
    (range.bin val + 1 - range.bin histogram.minSeen) 0
  rw [Int32.zero_add, countBins_congr (fun value => range.bin value ≤ range.bin val) (by
      intro value member
      have least := holds.bin_minSeen_le member
      rw [decide_eq_true_eq]
      omega)] at summed
  rw [HistogramRange.bin, HistogramRange.bin] at summed
  simp only [incDensity]
  rw [if_neg (mt (holds.numElems_eq_zero fits).mp inserted), holds.numElems fits,
    holds.toList_bins, ← List.map_drop, ← List.map_take, List.drop_range', Nat.zero_add,
    Nat.mul_one, List.take_range'_of_length_ge (by omega), summed, toInt_countP fits, fraction,
    Int.cast_natCast, Int.cast_natCast]
  rfl

theorem fraction_total (inserted : values ≠ []) (val : Int32) :
    fraction range (fun bin other => bin ≤ other) values val +
        fraction range (fun bin other => other ≤ bin) values val -
      fraction range (fun bin other => bin = other) values val = 1 := by
  have whole : (values.length : ℚ) ≠ 0 :=
    Nat.cast_ne_zero.mpr (mt List.length_eq_zero_iff.mp inserted)
  have counts := congrArg (Nat.cast (R := ℚ))
    (countP_le_add_countP_ge range.bin (range.bin val) values)
  rw [Nat.cast_add, Nat.cast_add] at counts
  simp only [fraction]
  rw [← add_div, counts, ← sub_div, add_sub_cancel_right, div_self whole]

theorem int32_le_trans (first second third : Int32) (before : decide (first ≤ second) = true)
    (after : decide (second ≤ third) = true) : decide (first ≤ third) = true :=
  decide_eq_true (Int32.le_trans (of_decide_eq_true before) (of_decide_eq_true after))

theorem int32_le_total (first second : Int32) :
    (decide (first ≤ second) || decide (second ≤ first)) = true := by
  rw [Bool.or_eq_true, decide_eq_true_eq, decide_eq_true_eq]
  exact Int32.le_total first second

/-- The value of half the rank, or the smallest value when half the rank is zero. -/
def middle (values : List Int32) : Option Int32 :=
  smallest (fun first second => decide (first ≤ second)) (max 1 (values.length / 2)) values

theorem bin_middle_lt_iff {value : Int32} (found : middle values = some value) (stop : Nat) :
    range.bin value < stop ↔
      max 1 (values.length / 2) ≤ values.countP (range.bin · < stop) := by
  have ranked := test_smallest_iff (fun value => decide (range.bin value < stop))
    int32_le_trans int32_le_total ?_ (by omega) found
  · rw [← ranked, decide_eq_true_eq]
  · intro first second before inside
    rw [decide_eq_true_eq] at inside ⊢
    exact Nat.lt_of_le_of_lt (range.bin_mono (of_decide_eq_true before)) inside

theorem middle_mem {value : Int32} (found : middle values = some value) : value ∈ values := by
  have member := List.mem_of_getElem? found
  exact (List.mergeSort_perm values _).mem_iff.mp member

theorem Holds.toInt_halfWay (holds : histogram.Holds values) (fits : values.length < 2 ^ 31) :
    (histogram.count.toInt32 / 2).toInt = (values.length / 2 : Nat) := by
  rw [Int32.toInt_div_of_ne_right _ _ (by decide), holds.numElems fits]
  exact Int.tdiv_eq_ediv_of_nonneg (Int.natCast_nonneg _)

/-- The loop of the median stops at the bin of the middle value. -/
theorem Holds.reachHalfWay_eq (holds : histogram.Holds values)
    (fits : values.length < 2 ^ 31) {value : Int32} (found : middle values = some value) :
    reachHalfWay (histogram.count.toInt32 / 2)
      (histogram.bins.toList.drop (range.bin histogram.minSeen))
      (range.bin histogram.minSeen) 0 = range.bin value := by
  have member := middle_mem found
  have seen := holds.minSeen_mem (List.ne_nil_of_mem member)
  have inside := range.bin_lt histogram.minSeen
  rw [holds.toList_bins, ← List.map_drop, List.drop_range', Nat.zero_add, Nat.mul_one]
  obtain ⟨reached, stops, after, fewer, last⟩ := reachHalfWay_spec range fits
    (holds.toInt_halfWay fits) (range.numBins - range.bin histogram.minSeen)
    (Nat.le_refl (range.bin histogram.minSeen))
  rw [countBins_self] at stops
  refine stops.trans ?_
  simp only [holds.countBins_minSeen] at fewer last
  have stopped : reached < range.numBins := by
    by_contra runs
    have all : values.countP (range.bin · < range.numBins) = values.length :=
      List.countP_eq_length.mpr fun other _ => decide_eq_true (range.bin_lt other)
    have missed := fewer (range.numBins - 1) (by omega) (by omega)
    rw [Nat.sub_add_cancel (by omega), all] at missed
    omega
  have atMost : range.bin value < reached + 1 := by
    have positive : 0 < values.countP (range.bin · < reached + 1) :=
      List.countP_pos_iff.mpr ⟨histogram.minSeen, seen, decide_eq_true (by omega)⟩
    have enough := last (by omega)
    exact (bin_middle_lt_iff found (reached + 1)).mpr (by omega)
  have atLeast : reached ≤ range.bin value := by
    by_contra before
    have missed := fewer (range.bin value) (holds.bin_minSeen_le member) (by omega)
    have enough := (bin_middle_lt_iff found (range.bin value + 1)).mp (Nat.lt_succ_self _)
    omega
  omega

theorem toInt32_ofInt (value : Int) : (UInt32.ofInt value).toInt32 = Int32.ofInt value := by
  rw [← Int32.toInt_inj, UInt32.ofInt, UInt32.toInt32_ofNat', Int32.toInt_ofNat', Int32.toInt_ofInt,
    Int.toNat_of_nonneg (Int.emod_nonneg value (by decide))]
  exact Int.emod_bmod value Int32.size

/-- Taken as an `int`, the unsigned product is the distance of a bin's lower end from the
start of the range, also for the bin before the range. -/
theorem toInt32_steps (stepSize : Int) (idx : Nat) :
    (UInt32.ofInt stepSize * (UInt32.ofNat idx - 1)).toInt32 =
      Int32.ofInt (stepSize * ((idx : Int) - 1)) := by
  rw [UInt32.toInt32_mul, UInt32.toInt32_sub, toInt32_ofInt, UInt32.toInt32_ofNat',
    ← Int32.ofInt_eq_ofNat, Int32.ofInt_mul, Int32.ofInt_sub]
  rfl

theorem Holds.median_eq (holds : histogram.Holds values) (fits : values.length < 2 ^ 31)
    {value : Int32} (found : middle values = some value) :
    histogram.median = .ofInt (range.minVal + range.stepSize * ((range.bin value : Int) - 1) +
      range.stepSize / 2) := by
  have some_values : ¬ values = [] := List.ne_nil_of_mem (middle_mem found)
  have reached := holds.reachHalfWay_eq fits found
  rw [HistogramRange.bin] at reached
  rw [median, if_neg (mt (holds.numElems_eq_zero fits).mp some_values), Int32.ofInt_add,
    Int32.ofInt_add, ← toInt32_steps]
  simp only [reached]

end

section

variable {range : CompiledRange} {histogram : BasicHistogram range.toHistogramRange}
  {values : List Int32}

/-- The lazy median is the middle of the bin of the middle value, if that is of type
`int`. -/
theorem Holds.median_iff (holds : histogram.Holds values) (fits : values.length < 2 ^ 31)
    {value : Int32} (found : middle values = some value) :
    histogram.median.toInt = range.minVal + range.stepSize * ((range.bin value : Int) - 1) +
        range.stepSize / 2 ↔
      -2 ^ 31 ≤ range.minVal + range.stepSize * ((range.bin value : Int) - 1) +
          range.stepSize / 2 ∧
        range.minVal + range.stepSize * ((range.bin value : Int) - 1) + range.stepSize / 2 <
          2 ^ 31 := by
  rw [holds.median_eq fits found]
  constructor
  · intro answered
    rw [← answered]
    exact ⟨Int32.le_toInt _, Int32.toInt_lt _⟩
  · rintro ⟨lower, upper⟩
    exact Int32.toInt_ofInt_of_le lower upper

/-- Where the middle of the bin of a value is of type `int`. -/
structure MiddleFits (range : CompiledRange) (value : Int32) : Prop where
  below : value.toInt < range.minVal →
    -2 ^ 31 ≤ range.minVal - range.stepSize + range.stepSize / 2
  inside : range.minVal ≤ value.toInt → value.toInt < range.maxVal →
    range.minVal + range.stepSize * ((value.toInt - range.minVal) / range.stepSize) +
      range.stepSize / 2 < 2 ^ 31
  above : range.maxVal ≤ value.toInt →
    range.minVal + range.stepSize * ((range.maxVal - range.minVal) / range.stepSize) +
      range.stepSize / 2 < 2 ^ 31

theorem middleFits_iff (value : Int32) :
    MiddleFits range value ↔
      -2 ^ 31 ≤ range.minVal + range.stepSize * ((range.bin value : Int) - 1) +
          range.stepSize / 2 ∧
        range.minVal + range.stepSize * ((range.bin value : Int) - 1) + range.stepSize / 2 <
          2 ^ 31 := by
  have positive := range.stepSize_pos
  have ordered := range.ordered
  have minVal_int := range.minVal_int
  have maxVal_int := range.maxVal_int
  by_cases below : value.toInt < range.minVal
  · have lower : range.stepSize * (((0 : Nat) : Int) - 1) = -range.stepSize := by omega
    rw [HistogramRange.bin_of_below below, lower]
    refine ⟨fun fits => ⟨fits.below below, by omega⟩, fun both => ⟨fun _ => both.1, ?_, ?_⟩⟩
    · intro notBelow _
      omega
    · intro above
      omega
  · have quotient_nonneg (distance : Int) (notBelow : 0 ≤ distance) :
        0 ≤ range.stepSize * (distance / range.stepSize) :=
      Int.mul_nonneg (Int.le_of_lt positive) (Int.ediv_nonneg notBelow (Int.le_of_lt positive))
    have steps (distance : Int) (notBelow : 0 ≤ distance) :
        (((distance / range.stepSize).toNat + 1 : Nat) : Int) - 1 =
          distance / range.stepSize := by
      have quotient := Int.ediv_nonneg notBelow (Int.le_of_lt positive)
      omega
    by_cases above : range.maxVal ≤ value.toInt
    · have last : range.numBins - 1 =
          ((range.maxVal - range.minVal) / range.stepSize).toNat + 1 := rfl
      have distance := quotient_nonneg (range.maxVal - range.minVal) (by omega)
      rw [HistogramRange.bin_of_above above, last, steps _ (by omega)]
      refine ⟨fun fits => ⟨by omega, fits.above above⟩, fun both => ⟨?_, ?_, fun _ => both.2⟩⟩
      · exact fun before => absurd before below
      · intro _ before
        omega
    · have distance := quotient_nonneg (value.toInt - range.minVal) (by omega)
      rw [HistogramRange.bin_of_inside (by omega) (by omega), steps _ (by omega)]
      refine ⟨fun fits => ⟨by omega, fits.inside (by omega) (by omega)⟩,
        fun both => ⟨?_, fun _ _ => both.2, fun after => absurd after above⟩⟩
      exact fun before => absurd before below

/-- The queries answer exactly what was inserted. -/
structure QueriesExact (histogram : BasicHistogram range.toHistogramRange)
    (values : List Int32) : Prop where
  count : histogram.count.toNat = values.length
  total : (histogram.bins.toList.map Int32.toInt).sum = values.length
  incDensity : values ≠ [] → ∀ val, histogram.incDensity val =
    fraction range.toHistogramRange (fun bin other => bin ≤ other) values val
  decDensity : values ≠ [] → ∀ val, histogram.decDensity val =
    fraction range.toHistogramRange (fun bin other => other ≤ bin) values val
  valDensity : values ≠ [] → ∀ val, histogram.valDensity val =
    fraction range.toHistogramRange (fun bin other => bin = other) values val
  whole : values ≠ [] → ∀ val,
    histogram.incDensity val + histogram.decDensity val - histogram.valDensity val = 1
  median : ∀ value, middle values = some value →
    histogram.median.toInt = range.minVal + range.stepSize * ((range.bin value : Int) - 1) +
      range.stepSize / 2

theorem Holds.queriesExact_iff (holds : histogram.Holds values)
    (fits : values.length < 2 ^ 31) :
    histogram.QueriesExact values ↔
      ∀ value, middle values = some value → MiddleFits range value := by
  constructor
  · intro exact_queries value found
    exact (middleFits_iff value).mpr
      ((holds.median_iff fits found).mp (exact_queries.median value found))
  · intro middleFits
    refine ⟨?_, holds.sum_bins_eq fits, fun inserted val => holds.incDensity_eq fits inserted val,
      fun inserted val => holds.decDensity_eq fits inserted val,
      fun inserted val => holds.valDensity_eq fits inserted val, fun inserted val => ?_,
      fun value found => ?_⟩
    · rw [holds.count, UInt32.toNat_ofNat_of_lt' (Nat.lt_trans fits (by decide))]
    · rw [holds.incDensity_eq fits inserted, holds.decDensity_eq fits inserted,
        holds.valDensity_eq fits inserted, fraction_total inserted]
    · exact (holds.median_iff fits found).mpr
        ((middleFits_iff value).mp (middleFits value found))

/-- Whatever is inserted after a reset, the queries are exact if and only if the middle
of the bin of the middle value is of type `int`. -/
theorem queries_exact_iff (range : CompiledRange)
    (before : BasicHistogram range.toHistogramRange) (values : List Int32)
    (fits : values.length < 2 ^ 31) :
    (values.foldl (fun histogram value => histogram.insert value) before.reset).QueriesExact
        values ↔
      ∀ value, middle values = some value → MiddleFits range value :=
  (holds_inserted before values).queriesExact_iff fits

/-- Ten bins of width ten from zero on. -/
def hundred : CompiledRange where
  minVal := 0
  maxVal := 100
  stepSize := 10
  ordered := by decide
  stepSize_pos := by decide
  minVal_int := by decide
  maxVal_int := by decide
  stepSize_int := by decide
  span_int := by decide
  numBins_int := by decide

theorem queries_exact_of_three :
    ([25, 105, -3].foldl (fun histogram value => histogram.insert value)
      (empty : BasicHistogram hundred.toHistogramRange).reset).QueriesExact [25, 105, -3] := by
  refine (queries_exact_iff hundred empty [25, 105, -3] (by decide)).mpr fun value _ => ?_
  refine ⟨fun _ => by decide, fun notBelow below => ?_, fun _ => by decide⟩
  change 0 ≤ value.toInt at notBelow
  change value.toInt < 100 at below
  change 0 + 10 * ((value.toInt - 0) / 10) + 10 / 2 < (2 ^ 31 : Int)
  omega

/-- A range with one bin that ends just below the largest `int`. -/
def highest : CompiledRange where
  minVal := 0
  maxVal := 2 ^ 31 - 1
  stepSize := 2 ^ 31 - 2
  ordered := by decide
  stepSize_pos := by decide
  minVal_int := by decide
  maxVal_int := by decide
  stepSize_int := by decide
  span_int := by decide
  numBins_int := by decide

theorem not_queries_exact :
    ¬ ([intMax - 1].foldl (fun histogram value => histogram.insert value)
      (empty : BasicHistogram highest.toHistogramRange).reset).QueriesExact [intMax - 1] := by
  intro exact_queries
  have found : middle [intMax - 1] = some (intMax - 1) := by simp [middle, smallest]
  have holds := holds_inserted (empty : BasicHistogram highest.toHistogramRange) [intMax - 1]
  have middleFits := (holds.queriesExact_iff (by decide)).mp exact_queries _ found
  exact absurd (middleFits.inside (by decide) (by decide)) (by decide)

end

end BasicHistogram

end FiberApp.Bandwidth
