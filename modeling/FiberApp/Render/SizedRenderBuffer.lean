import FiberApp.Render.WinBjnRenderBuffer

/-! `WinBjnRenderBuffer` of `winbjnrenderer.h` once more, now with the memory of its frames,
all frame types and the length of every copy. Pixels are left out. -/

set_option autoImplicit false

namespace FiberApp.Render.Sized

/-- A product of `int`s, which wraps around. -/
def toInt (value : Int) : Int := value.bmod 4294967296

/-- The conversion of an `int` to `uint32_t`. -/
def toUInt32 (value : Int) : Int := value % 4294967296

/-- `buffer` is whether the pointer is set. -/
structure Plane where
  buffer : Bool
  allocatedSize : Int
  stride : Int
  deriving DecidableEq, Repr

namespace Plane

def empty : Plane := ⟨false, 0, 0⟩

/-- `CreateEmptyPlane` on a new plane, with the outcome of `AlignedMalloc`. The size is
recorded also when there was no memory. -/
def createEmptyPlane (malloc : Bool) (size stride : Int) : Plane :=
  if size < 1 ∨ stride < 1 then empty else ⟨malloc, size, stride⟩

/-- The bytes that a copy can write. -/
def room (plane : Plane) : Int := if plane.buffer then plane.allocatedSize else 0

end Plane

/-- The outcomes of the allocations of a frame: `frame` of `new` for the frame and, as an
exception leaves the same behind, for the pixels of an RGB frame; the others of
`AlignedMalloc` for the planes. -/
structure Allocations where
  frame : Bool
  yPlane : Bool
  uPlane : Bool
  vPlane : Bool
  deriving DecidableEq, Repr

structure I420VideoFrame where
  width : Int
  height : Int
  yPlane : Plane
  uPlane : Plane
  vPlane : Plane
  deriving DecidableEq, Repr

namespace I420VideoFrame

/-- What `new I420VideoFrame` makes. -/
def new : I420VideoFrame := ⟨0, 0, .empty, .empty, .empty⟩

/-- On a new frame, with the flag of a result that is not negative. What the planes return
is dropped. -/
def createEmptyFrame (allocations : Allocations) (width height strideY strideU strideV : Int) :
    I420VideoFrame × Bool :=
  if BaseVideoFrame.checkI420Dimensions width height strideY strideU strideV then
    let halfHeight := (height + 1).tdiv 2
    let frame :=
      { width := width
        height := height
        yPlane := .createEmptyPlane allocations.yPlane (toInt (strideY * height)) strideY
        uPlane := .createEmptyPlane allocations.uPlane (toInt (strideU * halfHeight)) strideU
        vPlane := .createEmptyPlane allocations.vPlane (toInt (strideV * halfHeight)) strideV }
    (frame, true)
  else (new, false)

/-- All three pointers are set. -/
def buffers (frame : I420VideoFrame) : Bool :=
  frame.yPlane.buffer && frame.uPlane.buffer && frame.vPlane.buffer

end I420VideoFrame

/-- `prevSize` is the size of `buffer_`, which is null without one. -/
structure RGBVideoFrame where
  width : Int
  height : Int
  frameType : RawVideoType
  prevSize : Int
  deriving DecidableEq, Repr

namespace RGBVideoFrame

/-- What `new RGBVideoFrame` makes. -/
def new : RGBVideoFrame := ⟨0, 0, .rgb24, 0⟩

def pixelBytes (type : RawVideoType) : Int := if type = .rgb24 then 3 else 4

/-- On a new frame, with the flag of a result that is not negative. -/
def createEmptyFrame (width height : Int) (type : RawVideoType) : RGBVideoFrame × Bool :=
  if width < 1 ∨ height < 1 then (new, false)
  else if type = .rgb24 ∨ type = .argb then
    (⟨width, height, type, toUInt32 (width * height * pixelBytes type)⟩, true)
  else ({ new with width := width, height := height }, false)

def frameSize (frame : RGBVideoFrame) : Int :=
  toUInt32 (frame.width * frame.height * pixelBytes frame.frameType)

end RGBVideoFrame

/-- `BASEVideoFrame` by its class. -/
inductive VideoFrame
  | i420 (frame : I420VideoFrame)
  | rgb (frame : RGBVideoFrame)
  deriving DecidableEq, Repr

namespace VideoFrame

def width : VideoFrame → Int
  | .i420 frame => frame.width
  | .rgb frame => frame.width

def height : VideoFrame → Int
  | .i420 frame => frame.height
  | .rgb frame => frame.height

def frameType : VideoFrame → RawVideoType
  | .i420 _ => .i420
  | .rgb frame => frame.frameType

/-- `is_RGB_Frame`, which goes by the frame type and not by the class. -/
def isRGBFrame (frame : VideoFrame) : Bool :=
  decide (frame.frameType = .argb) || decide (frame.frameType = .rgb24)

end VideoFrame

/-- A copy of `length` bytes into memory of `room` bytes. -/
structure Write where
  length : Int
  room : Int
  deriving DecidableEq, Repr

/-- How far from its start each plane is written. -/
structure Extents where
  y : Int
  u : Int
  v : Int
  deriving DecidableEq, Repr

/-- The two functions of `libyuv`, by how far they write. `src` and `dst` are whether the
pointers are set, and the conversion is the one to ARGB. -/
structure Libyuv where
  i420Copy (src dst : Bool) (dstStrideY dstStrideU dstStrideV width height : Int) : Extents
  convertFromI420 (src dst : Bool) (dstSampleStride width height : Int) : Int

namespace Libyuv

variable (libyuv : Libyuv)

/-- `webrtc::CopyI420`. -/
def copyI420 (src dst : I420VideoFrame) : List Write :=
  if src.width ≠ dst.width ∨ src.height ≠ dst.height then []
  else
    let extents := libyuv.i420Copy src.buffers dst.buffers dst.yPlane.stride dst.uPlane.stride
      dst.vPlane.stride src.width src.height
    [⟨extents.y, dst.yPlane.room⟩, ⟨extents.u, dst.uPlane.room⟩, ⟨extents.v, dst.vPlane.room⟩]

/-- `webrtc::ConvertFromI420` into the buffer of an RGB frame. -/
def convertInto (src : I420VideoFrame) (dst : RGBVideoFrame) : Write :=
  ⟨libyuv.convertFromI420 src.buffers (decide (0 < dst.prevSize)) 0 src.width src.height,
    dst.prevSize⟩

end Libyuv

structure BitmapInfoHeader where
  biWidth : Int
  biHeight : Int
  biSizeImage : Int
  deriving DecidableEq, Repr

structure WinBjnRenderBuffer where
  renderFrame : Option VideoFrame
  width : Int
  height : Int
  frameType : RawVideoType
  bmiHeader : BitmapInfoHeader
  deriving DecidableEq, Repr

namespace WinBjnRenderBuffer

def create (type : RawVideoType) : WinBjnRenderBuffer := ⟨none, 0, 0, type, ⟨0, 0, 0⟩⟩

def reset (type : RawVideoType) (buffer : WinBjnRenderBuffer) : WinBjnRenderBuffer :=
  { buffer with renderFrame := none, width := 0, height := 0, frameType := type }

def updateStride (allocations : Allocations) (dxStride width height : Int)
    (buffer : WinBjnRenderBuffer) : Bool × WinBjnRenderBuffer :=
  if buffer.frameType ≠ .i420 ∨ dxStride = width then (false, buffer)
  else
    let buffer := { buffer with renderFrame := none }
    if allocations.frame then
      let halfStride := dxStride >>> (1 : Nat)
      let (frame, created) :=
        I420VideoFrame.createEmptyFrame allocations width height dxStride halfStride halfStride
      if created then
        (true, { buffer with width := width, height := height, renderFrame := some (.i420 frame) })
      else (false, buffer)
    else (false, buffer)

/-- The frame for an ARGB buffer. A frame that could not be created is stored as well. -/
def createRGB (allocations : Allocations) (width height : Int) (buffer : WinBjnRenderBuffer) :
    WinBjnRenderBuffer :=
  if allocations.frame then
    let (frame, created) := RGBVideoFrame.createEmptyFrame width height .argb
    if created then
      { buffer with
        renderFrame := some (.rgb frame)
        width := width
        height := height
        bmiHeader := ⟨width, -height, toUInt32 (width * height * 4)⟩ }
    else { buffer with renderFrame := some (.rgb frame) }
  else { buffer with renderFrame := none }

/-- The frame for an I420 buffer. -/
def createI420 (allocations : Allocations) (videoFrame : I420VideoFrame)
    (buffer : WinBjnRenderBuffer) : WinBjnRenderBuffer :=
  let (frame, created) :=
    I420VideoFrame.createEmptyFrame allocations videoFrame.width videoFrame.height
      videoFrame.yPlane.stride videoFrame.uPlane.stride videoFrame.vPlane.stride
  if created then
    { buffer with
      renderFrame := some (.i420 frame)
      width := videoFrame.width
      height := videoFrame.height }
  else { buffer with renderFrame := some (.i420 frame) }

/-- The first part of `CopyFrame`. The cast of an RGB frame for an I420 buffer is null, and
`none` is the access through it. -/
def resize (allocations : Allocations) (videoFrame : VideoFrame) (buffer : WinBjnRenderBuffer) :
    Option WinBjnRenderBuffer :=
  if videoFrame.width ≠ buffer.width ∨ videoFrame.height ≠ buffer.height then
    let buffer := { buffer with renderFrame := none }
    match buffer.frameType with
    | .argb => some (buffer.createRGB allocations videoFrame.width videoFrame.height)
    | .i420 =>
        if allocations.frame then
          match videoFrame with
          | .i420 frame => some (buffer.createI420 allocations frame)
          | .rgb _ => none
        else some buffer
    | _ => some buffer
  else some buffer

/-- The second part of `CopyFrame`. `none` is an access through a cast that is null. -/
def fill (libyuv : Libyuv) (videoFrame : VideoFrame) (buffer : WinBjnRenderBuffer) :
    Option (List Write) :=
  match buffer.renderFrame with
  | none => some []
  | some renderFrame =>
      match buffer.frameType with
      | .argb =>
          if videoFrame.isRGBFrame then
            match videoFrame, renderFrame with
            | .rgb src, .rgb dst => some [⟨src.frameSize, dst.prevSize⟩]
            | _, _ => none
          else
            match videoFrame, renderFrame with
            | .i420 src, .rgb dst => some [libyuv.convertInto src dst]
            | _, _ => none
      | .i420 =>
          if videoFrame.isRGBFrame then some []
          else
            match videoFrame, renderFrame with
            | .i420 src, .i420 dst => some (libyuv.copyI420 src dst)
            | _, _ => none
      | _ => some []

/-- The copies made come first. -/
def copyFrame (libyuv : Libyuv) (allocations : Allocations) (videoFrame : VideoFrame)
    (buffer : WinBjnRenderBuffer) : Option (List Write × WinBjnRenderBuffer) :=
  match buffer.resize allocations videoFrame with
  | none => none
  | some buffer =>
      match buffer.fill libyuv videoFrame with
      | none => none
      | some writes => some (writes, buffer)

end WinBjnRenderBuffer

end FiberApp.Render.Sized
