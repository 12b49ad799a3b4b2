import Mathlib.Data.Int.Basic

/-! The histograms of `rtpstatsutil.h`: counts in bins of one width with a bin for
the values outside the range at either end, and two such histograms that are
swapped on an interval. -/

set_option autoImplicit false

namespace FiberApp.Bandwidth

/-- The template arguments `MINVAL`, `MAXVAL` and `STEPSIZE`. The constructor
asserts their order, and a step of zero does not compile. -/
structure HistogramRange where
  minVal : Int
  maxVal : Int
  stepSize : Int
  ordered : minVal ≤ maxVal
  stepSize_pos : 0 < stepSize

namespace HistogramRange

def numBins (range : HistogramRange) : Nat :=
  ((range.maxVal - range.minVal) / range.stepSize).toNat + 2

theorem relVal_lt_numBins (range : HistogramRange) {val : Int} (below : val < range.maxVal) :
    ((val - range.minVal) / range.stepSize).toNat + 1 < range.numBins := by
  have smaller : (val - range.minVal) / range.stepSize ≤
      (range.maxVal - range.minVal) / range.stepSize :=
    Int.ediv_le_ediv range.stepSize_pos (by omega)
  rw [numBins]
  omega

/-- The difference does not overflow, since the value is in the range. -/
def getIndex (range : HistogramRange) (val : Int32) : Fin range.numBins :=
  if val.toInt < range.minVal then ⟨0, Nat.succ_pos _⟩
  else if outside : val.toInt ≥ range.maxVal then ⟨range.numBins - 1, Nat.lt_succ_self _⟩
  else ⟨((val.toInt - range.minVal) / range.stepSize).toNat + 1,
    range.relVal_lt_numBins (Int.not_le.mp outside)⟩

end HistogramRange

def intMax : Int32 := 0x7fffffff

def intMin : Int32 := -0x80000000

structure BasicHistogram (range : HistogramRange) where
  bins : Vector Int32 range.numBins
  count : UInt32
  maxSeen : Int32
  minSeen : Int32
  deriving DecidableEq

namespace BasicHistogram

variable {range : HistogramRange}

/-- `reset`, which the constructor calls. -/
def empty : BasicHistogram range where
  bins := .replicate range.numBins 0
  count := 0
  maxSeen := intMin
  minSeen := intMax

def insert (value : Int32) (histogram : BasicHistogram range) : BasicHistogram range where
  bins :=
    let idx := range.getIndex value
    histogram.bins.set idx (histogram.bins[idx] + 1)
  count := histogram.count + 1
  maxSeen := if histogram.maxSeen < value then value else histogram.maxSeen
  minSeen := if value < histogram.minSeen then value else histogram.minSeen

end BasicHistogram

/-- The histogram `mActive` points to. -/
inductive ActiveHistogram
  | first
  | second
  deriving DecidableEq, Repr

structure OverlappedHistogram (range : HistogramRange) where
  first : BasicHistogram range
  second : BasicHistogram range
  active : ActiveHistogram
  swapInterval : UInt32
  swapCount : UInt32
  deriving DecidableEq

namespace OverlappedHistogram

variable {range : HistogramRange}

def create (swapInterval : UInt32) : OverlappedHistogram range :=
  ⟨.empty, .empty, .first, swapInterval, 0⟩

def activeHistogram (histogram : OverlappedHistogram range) : BasicHistogram range :=
  match histogram.active with
  | .first => histogram.first
  | .second => histogram.second

/-- The active histogram is reset, and the other one becomes active. -/
def swap (histogram : OverlappedHistogram range) : OverlappedHistogram range :=
  match histogram.active with
  | .first => { histogram with first := .empty, active := .second, swapCount := 0 }
  | .second => { histogram with second := .empty, active := .first, swapCount := 0 }

def insert (value : Int32) (histogram : OverlappedHistogram range) :
    OverlappedHistogram range :=
  let histogram :=
    if histogram.swapCount = histogram.swapInterval then histogram.swap else histogram
  { histogram with
    first := histogram.first.insert value
    second := histogram.second.insert value
    swapCount := histogram.swapCount + 1 }

/-- `mActive` stays where it is. -/
def reset (histogram : OverlappedHistogram range) : OverlappedHistogram range :=
  { histogram with first := .empty, second := .empty, swapCount := 0 }

end OverlappedHistogram

end FiberApp.Bandwidth
