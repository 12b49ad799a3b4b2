import Mathlib.Data.List.Basic

/-! Dynamic frame sizes of the base video encoder: the capability tables, the
hysteresis between a decrease and the next increase, and the width correction
for shared content. -/

set_option autoImplicit false

namespace FiberApp.Codec

structure DynamicCap where
  rate : UInt32
  width : UInt32
  height : UInt32
  deriving DecidableEq

/-- A table behind a pointer to its first entry; how many entries may be read is
up to the limit of the encoder. -/
abbrev CapTable := Nat → DynamicCap

structure TimeVal where
  sec : Int
  msec : Int
  deriving DecidableEq

structure FrameSize where
  width : UInt32
  height : UInt32
  deriving DecidableEq

/-- The product the encoder compares, in `unsigned` arithmetic. -/
def FrameSize.pixels (size : FrameSize) : UInt32 := size.width * size.height

structure Frame where
  size : FrameSize
  rate : UInt32
  deriving DecidableEq

inductive MediaIndex
  | audio
  | video
  | content
  | max
  deriving DecidableEq

/-- The size of the captured frames (`m_vafp.size`), which is not empty. -/
structure SourceSize where
  w : UInt32
  h : UInt32
  h_ne_zero : h ≠ 0

inductive ResizeLog
  | increaseHeld (proposed : FrameSize) (secondsAgo : Int)
  | firstDecrease
  | timeReset
  deriving DecidableEq

structure VideoEncoder where
  dynamicSize : Bool
  dynamicCapTable : Option CapTable
  increaseDynamicCapTable : Option CapTable
  hasFrameSizeEverDecreased : Bool
  timeOfLastResizeDown : TimeVal
  hasBegunEncoding : Bool
  dynamicMaxAllowedEntry : Int
  rotated : Bool
  maxFrameRate : UInt32
  mediaIdx : MediaIndex
  source : SourceSize
  size : FrameSize
  framerate : UInt32

def secondsBeforeResizeUp : Int := 15

/-- `PJ_TIME_VAL_SUB`. The code of `pj_time_val_normalize` belongs to a library. -/
def timeValSub (normalize : TimeVal → TimeVal) (left right : TimeVal) : TimeVal :=
  normalize ⟨left.sec - right.sec, left.msec - right.msec⟩

/-- The loop over the table from entry `i`, with the number of entries it may
still look at: it stops at the first entry whose rate is above the target. The
rate factor is the map from a rate to `static_cast<uint32_t>(rate * rateFactor)`. -/
def firstAbove (capTable : CapTable) (rateFactor : UInt32 → UInt32) (rateKbps : UInt32) :
    Nat → Nat → Nat
  | i, 0 => i
  | i, remaining + 1 =>
      if rateFactor (capTable i).rate > rateKbps then i
      else firstAbove capTable rateFactor rateKbps (i + 1) remaining

namespace VideoEncoder

def entrySize (encoder : VideoEncoder) (cap : DynamicCap) : FrameSize :=
  if encoder.rotated then ⟨cap.height, cap.width⟩ else ⟨cap.width, cap.height⟩

/-- The private overload of `getDynamicSize`. -/
def getTableSize (capTable : Option CapTable) (rateKbps : UInt32)
    (rateFactor : UInt32 → UInt32) (encoder : VideoEncoder) : VideoEncoder × Frame :=
  match capTable with
  | some capTable =>
      let encoder :=
        { encoder with dynamicMaxAllowedEntry := max 1 encoder.dynamicMaxAllowedEntry }
      let i := firstAbove capTable rateFactor rateKbps 1
        (encoder.dynamicMaxAllowedEntry.toNat - 1) - 1
      (encoder, ⟨encoder.entrySize (capTable i), encoder.maxFrameRate⟩)
  | none => (encoder, ⟨encoder.size, encoder.framerate⟩)

/-- The aspect ratio of a screen capture replaces that of the table. -/
def fitToSource (encoder : VideoEncoder) (proposed : FrameSize) : FrameSize :=
  if encoder.mediaIdx = .content then
    { proposed with width := encoder.source.w * proposed.height / encoder.source.h }
  else proposed

/-- The middle of `getDynamicSize`: the size the main table proposes is held
back, taken from the second table, or marks the time of a decrease. -/
def applyHysteresis (normalize : TimeVal → TimeVal) (now : TimeVal) (rateKbps : UInt32)
    (rateFactor : UInt32 → UInt32) (proposed : Frame) (encoder : VideoEncoder) :
    VideoEncoder × Frame × List ResizeLog :=
  let current := encoder.size
  if encoder.increaseDynamicCapTable.isSome && encoder.hasFrameSizeEverDecreased &&
      proposed.size.pixels > current.pixels then
    let diff := timeValSub normalize now encoder.timeOfLastResizeDown
    if diff.sec < secondsBeforeResizeUp then
      (encoder, { proposed with size := current }, [.increaseHeld proposed.size diff.sec])
    else
      let (encoder, proposed) :=
        encoder.getTableSize encoder.increaseDynamicCapTable rateKbps rateFactor
      (encoder, proposed, [])
  else if encoder.increaseDynamicCapTable.isSome && proposed.size.pixels < current.pixels then
    let (encoder, log) :=
      if !encoder.hasFrameSizeEverDecreased && encoder.hasBegunEncoding then
        ({ encoder with hasFrameSizeEverDecreased := true }, [.firstDecrease])
      else (encoder, [])
    ({ encoder with timeOfLastResizeDown := now }, proposed, log ++ [.timeReset])
  else (encoder, proposed, [])

def getDynamicSize (normalize : TimeVal → TimeVal) (now : TimeVal) (rateKbps : UInt32)
    (rateFactor : UInt32 → UInt32) (encoder : VideoEncoder) :
    VideoEncoder × Frame × List ResizeLog :=
  if encoder.dynamicSize then
    let (encoder, proposed) :=
      encoder.getTableSize encoder.dynamicCapTable rateKbps rateFactor
    let (encoder, proposed, log) :=
      encoder.applyHysteresis normalize now rateKbps rateFactor proposed
    (encoder, { proposed with size := encoder.fitToSource proposed.size }, log)
  else (encoder, ⟨encoder.size, encoder.framerate⟩, [])

end VideoEncoder

end FiberApp.Codec
