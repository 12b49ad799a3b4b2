import FiberApp.Render.WinBjnRenderBuffer

/-! `DxVideoRenderer.cpp`: the renderer of the proxy widget. -/

set_option autoImplicit false

namespace FiberApp.Render

/-- The pointers that are set, and the buffer once it is allocated. -/
structure DxVideoRenderer where
  pDX : Bool
  pDevice : Bool
  pDeviceSurface : Bool
  pOffScreenSurface : Bool
  isYUVSupported : Bool
  pRenderFrame : Option WinBjnRenderBuffer
  deriving DecidableEq, Repr

/-- The outcomes of the calls of `CreateDevice`, in their order. -/
structure CreateDeviceCalls where
  direct3DCreate : Bool
  getAdapterDisplayMode : Bool
  checkDeviceType : Bool
  createDevice : Bool
  checkDeviceFormat : Bool
  checkDeviceFormatConversion : Bool
  createRenderTarget : Bool
  setRenderTarget : Bool
  createOffscreenPlainSurface : Bool
  deriving DecidableEq, Repr

namespace DxVideoRenderer

def initial : DxVideoRenderer := ⟨false, false, false, false, false, none⟩

def createSurfaces (calls : CreateDeviceCalls) (renderer : DxVideoRenderer) : DxVideoRenderer :=
  let renderer := { renderer with pDeviceSurface := calls.createRenderTarget }
  if !(calls.createRenderTarget && calls.setRenderTarget) then renderer
  else if renderer.isYUVSupported then
    { renderer with pOffScreenSurface := calls.createOffscreenPlainSurface }
  else renderer

def createFrameBuffer (renderer : DxVideoRenderer) : DxVideoRenderer :=
  let type := if renderer.isYUVSupported then RawVideoType.i420 else RawVideoType.argb
  match renderer.pRenderFrame with
  | none => { renderer with pRenderFrame := some (.create type) }
  | some buffer => { renderer with pRenderFrame := some (buffer.reset type) }

def createDevice (calls : CreateDeviceCalls) (renderer : DxVideoRenderer) : DxVideoRenderer :=
  if renderer.pDevice then renderer
  else
    let renderer := { renderer with pDX := renderer.pDX || calls.direct3DCreate }
    if !renderer.pDX then renderer
    else if !calls.getAdapterDisplayMode then renderer
    else if !calls.checkDeviceType then renderer
    else if !calls.createDevice then renderer
    else
      let renderer := { renderer with
        pDevice := true
        isYUVSupported := calls.checkDeviceFormat && calls.checkDeviceFormatConversion }
      (renderer.createSurfaces calls).createFrameBuffer

def destroyDevice (renderer : DxVideoRenderer) : DxVideoRenderer :=
  { renderer with
    pDeviceSurface := false
    pOffScreenSurface := false
    pDevice := false
    pDX := false }

/-- What the surfaces receive does not matter to the lock, nor does a failed `LockRect`. -/
def updateOffScreenSurface (renderer : DxVideoRenderer) : DxVideoRenderer :=
  match renderer.pRenderFrame with
  | none => renderer
  | some buffer =>
      let (frame, buffer) := buffer.lockBuffer
      if renderer.isYUVSupported then
        match frame with
        | some (.i420 ..) =>
            if renderer.pOffScreenSurface && renderer.pDeviceSurface then
              { renderer with pRenderFrame := some buffer.unlockBuffer }
            else { renderer with pRenderFrame := some buffer }
        | _ => { renderer with pRenderFrame := some buffer }
      else { renderer with pRenderFrame := some buffer.unlockBuffer }

def copyFrame (allocated : Bool) (videoFrame : BaseVideoFrame) (renderer : DxVideoRenderer) :
    Option DxVideoRenderer :=
  match renderer.pRenderFrame with
  | none => some renderer
  | some buffer =>
      (buffer.copyFrame allocated videoFrame).map
        fun buffer => { renderer with pRenderFrame := some buffer }

end DxVideoRenderer

/-- `Draw` is `copyFrame` and then `updateOffScreenSurface`. -/
inductive DxOperation
  | createDevice (calls : CreateDeviceCalls)
  | destroyDevice
  | copyFrame (allocated : Bool) (videoFrame : BaseVideoFrame)
  | updateOffScreenSurface
  deriving DecidableEq, Repr

namespace DxVideoRenderer

def step (renderer : DxVideoRenderer) : DxOperation → Option DxVideoRenderer
  | .createDevice calls => some (renderer.createDevice calls)
  | .destroyDevice => some renderer.destroyDevice
  | .copyFrame allocated videoFrame => renderer.copyFrame allocated videoFrame
  | .updateOffScreenSurface => some renderer.updateOffScreenSurface

end DxVideoRenderer

end FiberApp.Render
