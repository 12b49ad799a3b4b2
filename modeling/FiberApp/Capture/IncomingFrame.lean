import FiberApp.Capture.WebrtcCaptureDev

/-! The callback for captured frames, `PjVideoCaptureDataCallback`. Of a frame the model
keeps its class, its type and its size, not its pixels. -/

set_option autoImplicit false

namespace FiberApp.Capture

inductive FrameClass
  | i420
  | rgb
  deriving DecidableEq, Repr

/-- `zeroSize` tells that the planes hold nothing. -/
structure BaseVideoFrame where
  frameClass : FrameClass
  frameType : RawVideoType
  width : Int
  height : Int
  zeroSize : Bool
  deriving DecidableEq, Repr

namespace BaseVideoFrame

def isRGBFrame (frame : BaseVideoFrame) : Bool :=
  frame.frameType = .argb || frame.frameType = .rgb24

/-- A new `I420VideoFrame` after `CreateEmptyFrame`, whose result the callback ignores. -/
def createI420 (width height strideY strideU strideV : Int) : BaseVideoFrame :=
  let halfWidth := (width + 1).tdiv 2
  if width < 1 || height < 1 || strideY < width || strideU < halfWidth || strideV < halfWidth then
    ⟨.i420, .i420, 0, 0, true⟩
  else ⟨.i420, .i420, width, height, false⟩

end BaseVideoFrame

/-- `CalcBufferSize`, `none` for the types it does not know. -/
def calcBufferSize (type : RawVideoType) (width height : Int) : Option Int :=
  match type with
  | .i420 | .nv12 | .nv21 | .iyuv | .yv12 =>
      some (width * height + ((width + 1) / 2) * ((height + 1) / 2) * 2)
  | .argb4444 | .rgb565 | .argb1555 | .yuy2 | .uyvy => some (width * height * 2)
  | .rgb24 => some (width * height * 3)
  | .bgra | .argb => some (width * height * 4)
  | .mjpeg | .unknown => none

/-- The stream as far as the callback uses it. `frameScaler` is there for a screen only;
the scaler itself and `calculateDesiredWH`, which computes with doubles, are parameters. -/
structure WebrtcCapStream where
  frameScaler : Bool
  frameCroppingEnabled : Bool
  resizeFrameIfNeeded : BaseVideoFrame → Int → Int → BaseVideoFrame
  calculateDesiredWH : Int → Int → Int × Int

/-- `captureSize` is the size of the buffer of `_captureFrame`. -/
structure PjVideoCaptureDataCallback where
  desiredWidth : Int
  desiredHeight : Int
  firstFrame : Bool
  changedWidth : Int
  changedHeight : Int
  resetInProcess : Bool
  captureSize : Int
  deriving DecidableEq, Repr

namespace PjVideoCaptureDataCallback

def create (desiredWidth desiredHeight : Int) : PjVideoCaptureDataCallback where
  desiredWidth := desiredWidth
  desiredHeight := desiredHeight
  firstFrame := true
  changedWidth := 0
  changedHeight := 0
  resetInProcess := false
  captureSize := 0

/-- Whether the frame's bytes fit into the buffer, and the buffer's size afterwards. -/
def convertToVideoFrame (callback : PjVideoCaptureDataCallback) (inFrame : BaseVideoFrame) :
    Bool × PjVideoCaptureDataCallback :=
  match calcBufferSize inFrame.frameType inFrame.width inFrame.height with
  | none => (false, callback)
  | some requiredLength =>
      let size := max callback.captureSize requiredLength
      let callback := { callback with captureSize := size }
      if size < 1 then (false, callback)
      else if inFrame.isRGBFrame then (inFrame.frameClass = .rgb, callback)
      else if inFrame.frameClass = .i420 && !inFrame.zeroSize then
        match calcBufferSize .i420 inFrame.width inFrame.height with
        | none => (false, callback)
        | some length => (length ≤ size, callback)
      else (false, callback)

/-- The part for a screen: the frame is resized, or the stream is reset. -/
def followScreen (stream : WebrtcCapStream) (callback : PjVideoCaptureDataCallback)
    (videoFrame : BaseVideoFrame) : PjVideoCaptureDataCallback × BaseVideoFrame :=
  let desired := stream.calculateDesiredWH videoFrame.width videoFrame.height
  let initial := callback.firstFrame &&
    (desired.1 ≠ callback.desiredWidth || desired.2 ≠ callback.desiredHeight)
  let changed := !callback.firstFrame &&
    (callback.changedWidth ≠ videoFrame.width || callback.changedHeight ≠ videoFrame.height)
  let seen := { callback with
    firstFrame := false
    changedWidth := videoFrame.width
    changedHeight := videoFrame.height }
  if initial || changed then
    ({ seen with desiredWidth := desired.1, desiredHeight := desired.2, resetInProcess := true },
      videoFrame)
  else
    (seen, stream.resizeFrameIfNeeded videoFrame callback.desiredWidth callback.desiredHeight)

/-- What a call leaves: the callback, the captured frame after it was resized, the crop
offsets, and the object handed to `capture_cb`, null or not, unless the call returns before. -/
structure Outcome where
  callback : PjVideoCaptureDataCallback
  videoFrame : BaseVideoFrame
  cropX : Int
  cropY : Int
  delivered : Option (Option BaseVideoFrame)
  deriving DecidableEq, Repr

def prepareFrame (stream : WebrtcCapStream) (callback : PjVideoCaptureDataCallback)
    (videoFrame : BaseVideoFrame) : Outcome :=
  if stream.frameScaler then
    let (seen, resized) := callback.followScreen stream videoFrame
    ⟨seen, resized, 0, 0, none⟩
  else if videoFrame.width ≥ 1920 && videoFrame.height ≥ 1080 then
    ⟨callback,
      stream.resizeFrameIfNeeded videoFrame callback.desiredWidth callback.desiredHeight, 0, 0,
      none⟩
  else if stream.frameCroppingEnabled then ⟨callback, videoFrame, 0, 0, none⟩
  else
    ⟨callback, videoFrame, (videoFrame.width - callback.desiredWidth).tdiv 2,
      (videoFrame.height - callback.desiredHeight).tdiv 2, none⟩

/-- The cropped frame, `none` where the call returns because a conversion failed. -/
def cropFrame (conversionResult : Int) (callback : PjVideoCaptureDataCallback)
    (videoFrame : BaseVideoFrame) : Option BaseVideoFrame × PjVideoCaptureDataCallback :=
  let halfWidth := (callback.desiredWidth + 1).tdiv 2
  let croppedFrame := BaseVideoFrame.createI420 callback.desiredWidth callback.desiredHeight
    callback.desiredWidth halfWidth halfWidth
  let (converted, callback) := callback.convertToVideoFrame videoFrame
  if converted && conversionResult ≥ 0 then (some croppedFrame, callback) else (none, callback)

/-- `OnIncomingCapturedFrame`, with the result of libyuv's `ConvertToI420`. -/
def onIncomingCapturedFrame (stream : WebrtcCapStream) (conversionResult : Int)
    (callback : PjVideoCaptureDataCallback) (videoFrame : BaseVideoFrame) : Outcome :=
  let prepared := callback.prepareFrame stream videoFrame
  let crops := !stream.frameCroppingEnabled && (prepared.cropX ≠ 0 || prepared.cropY ≠ 0)
  if prepared.callback.resetInProcess then prepared
  else if crops && !prepared.videoFrame.isRGBFrame then
    match prepared.callback.cropFrame conversionResult prepared.videoFrame with
    | (none, callback) => { prepared with callback := callback }
    | (some croppedFrame, callback) =>
        { prepared with callback := callback, delivered := some (some croppedFrame) }
  -- The object stays null for an RGB frame that was to be cropped.
  else if crops then { prepared with delivered := some none }
  else { prepared with delivered := some (some prepared.videoFrame) }

end PjVideoCaptureDataCallback

end FiberApp.Capture
