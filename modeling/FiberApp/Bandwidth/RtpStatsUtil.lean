import Mathlib.Algebra.Field.Defs

/-! The windowed statistics of `rtpstatsutil.h`, in exact arithmetic: `float`, `double`
and the sample type are one field. -/

set_option autoImplicit false

namespace FiberApp.Bandwidth

variable {K : Type} [Field K]

/-- The index behind the one just written. -/
def advanceEntry (windowSize nextEntry : Nat) : Nat :=
  if nextEntry + 1 = windowSize then 0 else nextEntry + 1

structure WindowedRunningMeanAndVariance (K : Type) where
  mOldMParts : List K
  mOldSParts : List K
  mOldM : K
  mOldS : K
  mNewM : K
  mNewS : K
  mNumEntries : Nat
  mNextEntry : Nat
  deriving DecidableEq, Repr

namespace WindowedRunningMeanAndVariance

/-- The constructor, and what `reset` leaves. -/
def create (windowSize : Nat) : WindowedRunningMeanAndVariance K where
  mOldMParts := List.replicate windowSize 0
  mOldSParts := List.replicate windowSize 0
  mOldM := 0
  mOldS := 0
  mNewM := 0
  mNewS := 0
  mNumEntries := 0
  mNextEntry := 0

/-- Make room for a sample: a full window takes off the parts that the sample about to be
overwritten had added. -/
def makeRoom (windowSize : Nat) (stats : WindowedRunningMeanAndVariance K) :
    Option (WindowedRunningMeanAndVariance K) :=
  if stats.mNumEntries < windowSize then
    some { stats with mNumEntries := stats.mNumEntries + 1 }
  else
    match stats.mOldMParts[stats.mNextEntry]?, stats.mOldSParts[stats.mNextEntry]? with
    | some meanPart, some varPart =>
        some { stats with mNewM := stats.mNewM - meanPart, mNewS := stats.mNewS - varPart }
    | _, _ => none

/-- Add the sample and store its parts at the next entry. -/
def record (windowSize : Nat) (val : K) (stats : WindowedRunningMeanAndVariance K) :
    Option (WindowedRunningMeanAndVariance K) :=
  let next := stats.mNextEntry
  let meanPart := (val - stats.mNewM) / stats.mNumEntries
  let newM := stats.mNewM + meanPart
  let varPart := (val - stats.mOldM) * (val - newM)
  if next < stats.mOldMParts.length ∧ next < stats.mOldSParts.length then
    some { stats with
      mOldMParts := stats.mOldMParts.set next meanPart
      mOldSParts := stats.mOldSParts.set next varPart
      mNewM := newM
      mNewS := stats.mNewS + varPart
      mOldM := newM
      mNextEntry := advanceEntry windowSize next }
  else none

def push (windowSize : Nat) (stats : WindowedRunningMeanAndVariance K) (val : K) :
    Option (WindowedRunningMeanAndVariance K) := do
  let roomy ← stats.makeRoom windowSize
  roomy.record windowSize val

def mean (stats : WindowedRunningMeanAndVariance K) : K :=
  if stats.mNumEntries > 0 then stats.mNewM else 0

def variance (stats : WindowedRunningMeanAndVariance K) : K :=
  if stats.mNumEntries > 1 then stats.mNewS / ((stats.mNumEntries - 1 : Nat) : K) else 0

end WindowedRunningMeanAndVariance

/-- An array of the window with the running sum of its values, as `mXs` and `mSumOfXs`. -/
structure SummedArray (K : Type) where
  entries : List K
  sum : K
  deriving DecidableEq, Repr

namespace SummedArray

/-- Take the value about to be overwritten off the sum; `none` is an index out of bounds. -/
def pop (nextEntry : Nat) (array : SummedArray K) : Option (SummedArray K) :=
  match array.entries[nextEntry]? with
  | none => none
  | some poppedVal => some { array with sum := array.sum - poppedVal }

/-- Write the value and add what was written to the sum. -/
def put (nextEntry : Nat) (value : K) (array : SummedArray K) : Option (SummedArray K) :=
  if nextEntry < array.entries.length then
    some ⟨array.entries.set nextEntry value, array.sum + value⟩
  else none

/-- What a push does with one array; a full window pops first. -/
def push (full : Bool) (nextEntry : Nat) (value : K) (array : SummedArray K) :
    Option (SummedArray K) := do
  let popped ← if full then array.pop nextEntry else some array
  popped.put nextEntry value

end SummedArray

structure WindowedCorrelationCoeffT (K : Type) where
  mXs : SummedArray K
  mYs : SummedArray K
  mXYs : SummedArray K
  mXSquares : SummedArray K
  mYSquares : SummedArray K
  mWindowSize : Nat
  mNumEntries : Nat
  mNextEntry : Nat
  deriving DecidableEq, Repr

namespace WindowedCorrelationCoeffT

/-- The five arrays as `new` leaves them, with nothing written yet. -/
structure Uninitialised (K : Type) (windowSize : Nat) where
  xs : Vector K windowSize
  ys : Vector K windowSize
  xys : Vector K windowSize
  xSquares : Vector K windowSize
  ySquares : Vector K windowSize

def reset (correlation : WindowedCorrelationCoeffT K) : WindowedCorrelationCoeffT K :=
  { correlation with
    mNumEntries := 0
    mNextEntry := 0
    mXs := { correlation.mXs with sum := 0 }
    mYs := { correlation.mYs with sum := 0 }
    mXYs := { correlation.mXYs with sum := 0 }
    mXSquares := { correlation.mXSquares with sum := 0 }
    mYSquares := { correlation.mYSquares with sum := 0 } }

/-- The constructor; `reset` sets the sums and counters before anything reads them. -/
def create {windowSize : Nat} (arrays : Uninitialised K windowSize) :
    WindowedCorrelationCoeffT K :=
  reset {
    mXs := ⟨arrays.xs.toList, 0⟩
    mYs := ⟨arrays.ys.toList, 0⟩
    mXYs := ⟨arrays.xys.toList, 0⟩
    mXSquares := ⟨arrays.xSquares.toList, 0⟩
    mYSquares := ⟨arrays.ySquares.toList, 0⟩
    mWindowSize := windowSize
    mNumEntries := 0
    mNextEntry := 0 }

/-- `none` is an index out of bounds. -/
def push (correlation : WindowedCorrelationCoeffT K) (point : K × K) :
    Option (WindowedCorrelationCoeffT K) := do
  let (x, y) := point
  let full := decide (¬ correlation.mNumEntries < correlation.mWindowSize)
  let next := correlation.mNextEntry
  let xs ← correlation.mXs.push full next x
  let ys ← correlation.mYs.push full next y
  let xys ← correlation.mXYs.push full next (x * y)
  let xSquares ← correlation.mXSquares.push full next (x * x)
  let ySquares ← correlation.mYSquares.push full next (y * y)
  some { correlation with
    mXs := xs
    mYs := ys
    mXYs := xys
    mXSquares := xSquares
    mYSquares := ySquares
    mNumEntries :=
      if correlation.mNumEntries < correlation.mWindowSize then correlation.mNumEntries + 1
      else correlation.mNumEntries
    mNextEntry := advanceEntry correlation.mWindowSize next }

def getSlope [DecidableEq K] (correlation : WindowedCorrelationCoeffT K) : K :=
  let entries : K := correlation.mNumEntries
  let denominator :=
    entries * correlation.mXSquares.sum - correlation.mXs.sum * correlation.mXs.sum
  if denominator ≠ 0 then
    (entries * correlation.mXYs.sum - correlation.mXs.sum * correlation.mYs.sum) / denominator
  else 0

end WindowedCorrelationCoeffT

end FiberApp.Bandwidth
