import FiberApp.Foundation.StridedCopy
import FiberApp.Render.DxVideoRenderer

/-! `UpdateOffScreenSurface` of `DxVideoRenderer.cpp` once more, now for the pixels: what the
locked surface receives from the planes of the frame. -/

set_option autoImplicit false

namespace FiberApp.Render

open Foundation (Surface memcpy copyRows)

/-- The dimensions of an `I420VideoFrame` that passed `CheckDimensions`. -/
structure I420Layout where
  width : Nat
  height : Nat
  strideY : Nat
  strideU : Nat
  strideV : Nat
  width_pos : 0 < width
  height_pos : 0 < height
  width_le : width ≤ strideY
  halfU_le : (width + 1) / 2 ≤ strideU
  halfV_le : (width + 1) / 2 ≤ strideV

structure I420VideoFrame extends I420Layout where
  bufferY : Nat → UInt8
  bufferU : Nat → UInt8
  bufferV : Nat → UInt8

structure RGBVideoFrame where
  width : Nat
  height : Nat
  buffer : Nat → UInt8

/-- What `LockBuffer` answers, by its class. -/
inductive RenderFrame
  | i420 (frame : I420VideoFrame)
  | rgb (frame : RGBVideoFrame)

namespace DxVideoRenderer

/-- `width` counts pixels, or the bytes of a row of a plane. -/
def copyWithStride (renderer : DxVideoRenderer) (pDest : Surface UInt8) (offset : Nat)
    (lengthWithPitch : Nat) (pSrc : Nat → UInt8) (width height : Nat) : Surface UInt8 :=
  let k := if renderer.isYUVSupported then 1 else 4
  copyRows lengthWithPitch (width * k) height pDest offset pSrc

def copyI420 (renderer : DxVideoRenderer) (pitch : Nat) (frame : I420VideoFrame) :
    Surface UInt8 :=
  let half := frame.height / 2
  if pitch = frame.strideY then
    let luma := memcpy .blank 0 frame.bufferY (frame.strideY * frame.height)
    let pRect := frame.strideY * frame.height
    let chromaV := memcpy luma pRect frame.bufferV (frame.strideV * half)
    let pRect := pRect + frame.strideV * half
    memcpy chromaV pRect frame.bufferU (frame.strideU * half)
  else
    let luma :=
      renderer.copyWithStride .blank 0 pitch frame.bufferY frame.strideY frame.height
    let pRect := pitch * frame.height
    let chromaV :=
      renderer.copyWithStride luma pRect (pitch / 2) frame.bufferV frame.strideV half
    let pRect := pRect + pitch / 2 * half
    renderer.copyWithStride chromaV pRect (pitch / 2) frame.bufferU frame.strideU half

def copyRGB (renderer : DxVideoRenderer) (pitch : Nat) (frame : RGBVideoFrame) :
    Surface UInt8 :=
  if pitch = frame.width * 4 then
    memcpy .blank 0 frame.buffer (frame.width * frame.height * 4)
  else renderer.copyWithStride .blank 0 pitch frame.buffer frame.width frame.height

/-- The bytes written to the surface that `LockRect` locks, off screen or the device's own.
`lockRect` is the pitch it answers, and `none` stands for a surface that is not locked. -/
def uploadedSurface (renderer : DxVideoRenderer) (lockRect : Option Nat)
    (lockBuffer : Option RenderFrame) : Option (Surface UInt8) :=
  match renderer.isYUVSupported, lockBuffer with
  | true, some (.i420 frame) =>
      if renderer.pOffScreenSurface && renderer.pDeviceSurface then
        lockRect.map fun pitch => renderer.copyI420 pitch frame
      else none
  | false, some (.rgb frame) =>
      if renderer.pDeviceSurface then
        lockRect.map fun pitch => renderer.copyRGB pitch frame
      else none
  | _, _ => none

end DxVideoRenderer

end FiberApp.Render
