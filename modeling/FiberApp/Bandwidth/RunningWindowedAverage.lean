import FiberApp.Foundation.Extremes

/-! The running windowed average of `BwMgr.h`. The sample type is any ordered type with a
sum; the type's limits and its division by a count are parameters. -/

set_option autoImplicit false

namespace FiberApp.Bandwidth

open Foundation

/-- `numeric_limits<T>::min()` and `numeric_limits<T>::max()`. For a floating-point type
the first one is the smallest positive number. -/
structure NumericLimits (T : Type) where
  min : T
  max : T
  deriving DecidableEq, Repr

structure RunningWindowedAverageT (T : Type) where
  mWindow : List T
  mMinValue : T
  mMaxValue : T
  mAverage : T
  mTotal : T
  mDoMinMax : Bool
  mWindowSize : Nat
  mNumEntries : Nat
  mNextEntry : Nat
  deriving DecidableEq, Repr

namespace RunningWindowedAverageT

variable {T : Type} [LinearOrder T] [Zero T] [Add T] [Sub T]

def reset (limits : NumericLimits T) (average : RunningWindowedAverageT T) :
    RunningWindowedAverageT T :=
  { average with
    mNumEntries := 0
    mNextEntry := 0
    mTotal := 0
    mMinValue := limits.max
    mMaxValue := limits.min }

/-- The constructor. What the new array and the average hold is left to the caller. -/
def create (limits : NumericLimits T) (mWindow : List T) (mAverage : T) (doMinMax : Bool) :
    RunningWindowedAverageT T :=
  reset limits
    { mWindow, mAverage
      mMinValue := limits.max
      mMaxValue := limits.min
      mTotal := 0
      mDoMinMax := doMinMax
      mWindowSize := mWindow.length
      mNumEntries := 0
      mNextEntry := 0 }

/-- The scan starts from the extremes that are there. -/
def resetMinMax (average : RunningWindowedAverageT T) : RunningWindowedAverageT T :=
  if average.mNumEntries > 0 then
    { average with
      mMinValue := least average.mMinValue (average.mWindow.take average.mNumEntries)
      mMaxValue := greatest average.mMaxValue (average.mWindow.take average.mNumEntries) }
  else average

/-- The start of `push`: a full window gives up the value about to be overwritten. `none`
is an index out of bounds. -/
def popValue (average : RunningWindowedAverageT T) : Option (RunningWindowedAverageT T × T) :=
  if average.mNumEntries < average.mWindowSize then
    some ({ average with mNumEntries := average.mNumEntries + 1 }, 0)
  else
    match average.mWindow[average.mNextEntry]? with
    | none => none
    | some poppedVal => some ({ average with mTotal := average.mTotal - poppedVal }, poppedVal)

def storeValue (divide : T → Nat → T) (x : T) (average : RunningWindowedAverageT T) :
    Option (RunningWindowedAverageT T) :=
  let total := average.mTotal + x
  if average.mNextEntry < average.mWindow.length then
    some { average with
      mTotal := total
      mAverage := divide total average.mNumEntries
      mWindow := average.mWindow.set average.mNextEntry x
      mNextEntry :=
        if average.mNextEntry + 1 = average.mWindowSize then 0 else average.mNextEntry + 1 }
  else none

def push (divide : T → Nat → T) (average : RunningWindowedAverageT T) (x : T) :
    Option (RunningWindowedAverageT T) := do
  let (popped, poppedVal) ← average.popValue
  let stored ← popped.storeValue divide x
  if stored.mDoMinMax then
    if stored.mNumEntries = 1 ∨ poppedVal = stored.mMinValue ∨ poppedVal = stored.mMaxValue ∨
        x > stored.mMaxValue ∨ x < stored.mMinValue then
      some stored.resetMinMax
    else some stored
  else some stored

/-- The extremes, and the average they are taken from afterwards. -/
def getMinMax (average : RunningWindowedAverageT T) : RunningWindowedAverageT T × T × T :=
  let average := if average.mDoMinMax then average else average.resetMinMax
  (average, average.mMinValue, average.mMaxValue)

def isFull (average : RunningWindowedAverageT T) : Bool :=
  average.mNumEntries ≥ average.mWindowSize

end RunningWindowedAverageT

end FiberApp.Bandwidth
