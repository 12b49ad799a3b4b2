import Mathlib.Algebra.Order.Ring.Int
import Mathlib.Data.Rat.Defs
import FiberApp.Bandwidth.OverlappedHistogram

/-! The queries of `BasicHistogram`: counts, densities and the median. A density is the
exact quotient that the code rounds to a `float`. -/

set_option autoImplicit false

namespace FiberApp.Bandwidth

/-- The template arguments the class compiles with: `NUMBINS` is a constant expression
of type `int`, which must not overflow. -/
structure CompiledRange extends HistogramRange where
  minVal_int : -2 ^ 31 ≤ minVal
  maxVal_int : maxVal < 2 ^ 31
  stepSize_int : stepSize < 2 ^ 31
  span_int : maxVal - minVal < 2 ^ 31
  numBins_int : (maxVal - minVal) / stepSize + 2 < 2 ^ 31

namespace BasicHistogram

variable {range : HistogramRange}

def reset (_ : BasicHistogram range) : BasicHistogram range := empty

/-- The loop of `median` over the bins from `idx` on: the index it stops at. -/
def reachHalfWay (halfWay : Int32) : List Int32 → Nat → Int32 → Nat
  | [], idx, _ => idx
  | bin :: bins, idx, sum =>
      if sum + bin ≥ halfWay then idx else reachHalfWay halfWay bins (idx + 1) (sum + bin)

/-- The bin's index is unsigned, and the sums are of type `int`: they wrap around. -/
def median (histogram : BasicHistogram range) : Int32 :=
  let numElems := histogram.count.toInt32
  if numElems = 0 then .ofInt ((range.maxVal - range.minVal) / 2 + range.minVal)
  else
    let halfWay := numElems / 2
    let first := (range.getIndex histogram.minSeen).val
    let idx := reachHalfWay halfWay (histogram.bins.toList.drop first) first 0
    .ofInt range.minVal + (UInt32.ofInt range.stepSize * (UInt32.ofNat idx - 1)).toInt32 +
      .ofInt (range.stepSize / 2)

def incDensity (val : Int32) (histogram : BasicHistogram range) : ℚ :=
  let numElems := histogram.count.toInt32
  if numElems = 0 then 0
  else
    let endIdx := (range.getIndex val).val
    let first := (range.getIndex histogram.minSeen).val
    let summed := (histogram.bins.toList.drop first).take (endIdx + 1 - first)
    (summed.foldl (· + ·) 0).toInt / numElems.toInt

def decDensity (val : Int32) (histogram : BasicHistogram range) : ℚ :=
  let numElems := histogram.count.toInt32
  if numElems = 0 then 0
  else
    let startIdx := (range.getIndex val).val
    ((histogram.bins.toList.drop startIdx).foldl (· + ·) 0).toInt / numElems.toInt

def valDensity (val : Int32) (histogram : BasicHistogram range) : ℚ :=
  let numElems := histogram.count.toInt32
  if numElems = 0 then 0
  else (histogram.bins.get (range.getIndex val)).toInt / numElems.toInt

end BasicHistogram

end FiberApp.Bandwidth
