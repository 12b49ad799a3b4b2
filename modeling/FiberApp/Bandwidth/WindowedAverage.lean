import FiberApp.Foundation.Extremes
import FiberApp.Foundation.IntegerType

/-! The windowed average of `rtpstatsutil.h` over the integer types. -/

set_option autoImplicit false

namespace FiberApp.Bandwidth

open Foundation

/-- The array, the extremes found last, and the entries counted and written next. -/
structure WindowedAverageT (type : IntegerType) (windowSize : UInt32) where
  mWindow : Vector type.Value windowSize.toNat
  mMinValue : type.Value
  mMaxValue : type.Value
  mNumEntries : UInt32
  mNextEntry : UInt32
  deriving DecidableEq

namespace WindowedAverageT

variable {type : IntegerType} {windowSize : UInt32}

/-- The constructor, which leaves the array as it is allocated, and `reset`. -/
def create (mWindow : Vector type.Value windowSize.toNat) : WindowedAverageT type windowSize where
  mWindow := mWindow
  mMinValue := type.highest
  mMaxValue := type.lowest
  mNumEntries := 0
  mNextEntry := 0

/-- `none` is an index out of bounds. -/
def push (average : WindowedAverageT type windowSize) (x : type.Value) :
    Option (WindowedAverageT type windowSize) :=
  if inside : average.mNextEntry.toNat < windowSize.toNat then
    some { average with
      mWindow := average.mWindow.set average.mNextEntry.toNat x
      mNextEntry :=
        if average.mNextEntry + 1 = windowSize then 0 else average.mNextEntry + 1
      mNumEntries := average.mNumEntries + 1 }
  else none

def maxIndex (average : WindowedAverageT type windowSize) : UInt32 :=
  if windowSize < average.mNumEntries then windowSize else average.mNumEntries

/-- The entries that the loops go over. -/
def entries (average : WindowedAverageT type windowSize) : List type.Value :=
  average.mWindow.toList.take average.maxIndex.toNat

def getAverage (average : WindowedAverageT type windowSize) : type.Value :=
  if average.maxIndex > 0 then
    type.divide
      (average.entries.foldl (fun total value => type.wrap (total.val + value.val)) (type.wrap 0))
      average.maxIndex
  else type.wrap 0

/-- The extremes, and the average with them stored. -/
def getMinMax (average : WindowedAverageT type windowSize) :
    WindowedAverageT type windowSize × type.Value × type.Value :=
  let average :=
    if average.maxIndex > 0 then
      { average with
        mMinValue := least type.highest average.entries
        mMaxValue := greatest type.lowest average.entries }
    else average
  (average, average.mMinValue, average.mMaxValue)

def isFull (average : WindowedAverageT type windowSize) : Bool :=
  average.mNumEntries ≥ windowSize

end WindowedAverageT

end FiberApp.Bandwidth
