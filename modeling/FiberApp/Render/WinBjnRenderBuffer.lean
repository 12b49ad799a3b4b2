import FiberApp.Video.RawVideoType

/-! `WinBjnRenderBuffer` of `winbjnrenderer.h`: the frame that the delivering and the
drawing thread share under a recursive critical section. Pixels are left out. -/

set_option autoImplicit false

namespace FiberApp.Render

/-- `BASEVideoFrame` with its two classes. -/
inductive BaseVideoFrame
  | i420 (width height strideY strideU strideV : Int)
  | rgb (width height : Int)
  deriving DecidableEq, Repr

namespace BaseVideoFrame

def width : BaseVideoFrame → Int
  | .i420 width _ _ _ _ => width
  | .rgb width _ => width

def height : BaseVideoFrame → Int
  | .i420 _ height _ _ _ => height
  | .rgb _ height => height

/-- `I420VideoFrame::CheckDimensions`. -/
def checkI420Dimensions (width height strideY strideU strideV : Int) : Bool :=
  let halfWidth := (width + 1).tdiv 2
  !(decide (width < 1) || decide (height < 1) || decide (strideY < width) ||
    decide (strideU < halfWidth) || decide (strideV < halfWidth))

/-- `CreateEmptyFrame` on a new `I420VideoFrame`, which keeps its zeros when it fails. -/
def createEmptyI420 (width height strideY strideU strideV : Int) : BaseVideoFrame × Bool :=
  if checkI420Dimensions width height strideY strideU strideV then
    (.i420 width height strideY strideU strideV, true)
  else (.i420 0 0 0 0 0, false)

/-- `CreateEmptyFrame` on a new `RGBVideoFrame`. -/
def createEmptyRGB (width height : Int) : BaseVideoFrame × Bool :=
  if width < 1 ∨ height < 1 then (.rgb 0 0, false) else (.rgb width height, true)

end BaseVideoFrame

/-- `depth` counts the entries of the critical section that have not been left. -/
structure WinBjnRenderBuffer where
  renderFrame : Option BaseVideoFrame
  width : Int
  height : Int
  frameType : RawVideoType
  depth : Int
  deriving DecidableEq, Repr

namespace WinBjnRenderBuffer

def create (type : RawVideoType) : WinBjnRenderBuffer := ⟨none, 0, 0, type, 0⟩

def enter (buffer : WinBjnRenderBuffer) : WinBjnRenderBuffer :=
  { buffer with depth := buffer.depth + 1 }

def leave (buffer : WinBjnRenderBuffer) : WinBjnRenderBuffer :=
  { buffer with depth := buffer.depth - 1 }

/-- Like `updateStride` and `copyFrame`, this holds the lock in a scope of its own. -/
def reset (type : RawVideoType) (buffer : WinBjnRenderBuffer) : WinBjnRenderBuffer :=
  { buffer with renderFrame := none, width := 0, height := 0, frameType := type }

def lockBuffer (buffer : WinBjnRenderBuffer) : Option BaseVideoFrame × WinBjnRenderBuffer :=
  let buffer := buffer.enter
  match buffer.renderFrame with
  | some frame => (some frame, buffer)
  | none => (none, buffer.leave)

def unlockBuffer (buffer : WinBjnRenderBuffer) : WinBjnRenderBuffer := buffer.leave

/-- `allocated` is the outcome of `new (std::nothrow)`. -/
def updateStride (allocated : Bool) (dxStride width height : Int)
    (buffer : WinBjnRenderBuffer) : Bool × WinBjnRenderBuffer :=
  if buffer.frameType ≠ .i420 ∨ dxStride = width then (false, buffer)
  else
    let buffer := { buffer with renderFrame := none }
    if allocated then
      let halfStride := dxStride >>> (1 : Nat)
      let (frame, created) :=
        BaseVideoFrame.createEmptyI420 width height dxStride halfStride halfStride
      if created then
        (true, { buffer with width := width, height := height, renderFrame := some frame })
      else (false, buffer)
    else (false, buffer)

/-- The frame that `CopyFrame` creates, for a buffer of one of two types. The cast of an RGB
frame for an I420 buffer is null, and `none` is the access through it. -/
def createCopy (allocated : Bool) (videoFrame : BaseVideoFrame) (buffer : WinBjnRenderBuffer) :
    Option WinBjnRenderBuffer :=
  let buffer := { buffer with renderFrame := none }
  if !allocated then some buffer
  else
    match buffer.frameType with
    | .argb =>
        let (frame, created) := BaseVideoFrame.createEmptyRGB videoFrame.width videoFrame.height
        let buffer := { buffer with renderFrame := some frame }
        if created then
          some { buffer with width := videoFrame.width, height := videoFrame.height }
        else some buffer
    | .i420 =>
        match videoFrame with
        | .i420 width height strideY strideU strideV =>
            let (frame, created) :=
              BaseVideoFrame.createEmptyI420 width height strideY strideU strideV
            let buffer := { buffer with renderFrame := some frame }
            if created then some { buffer with width := width, height := height }
            else some buffer
        | .rgb _ _ => none
    | _ => some buffer

def copyFrame (allocated : Bool) (videoFrame : BaseVideoFrame) (buffer : WinBjnRenderBuffer) :
    Option WinBjnRenderBuffer :=
  if videoFrame.width ≠ buffer.width ∨ videoFrame.height ≠ buffer.height then
    buffer.createCopy allocated videoFrame
  else some buffer

end WinBjnRenderBuffer

end FiberApp.Render
