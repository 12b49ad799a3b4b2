import FiberApp.Render.WinBjnRenderBuffer

/-! `D3DVideoRenderer` of `d3d_render.cc`: its device and surfaces, the retry loop of
`Redraw`, and the fallback to GDI. The recording indicator and the vertex buffer are left
out. -/

set_option autoImplicit false

namespace FiberApp.Render

structure D3DVideoRenderer where
  renderFrame : WinBjnRenderBuffer
  pd3dDevice : Bool
  pTexture : Bool
  pOffSurface : Bool
  deviceMonitor : Nat
  deviceWidth : Int
  deviceHeight : Int
  surfaceWidth : Int
  surfaceHeight : Int
  d3dFailureCount : Nat
  resetTexturePending : Bool
  updateTexturePending : Bool
  gdiFallbackMode : Bool
  blackness : Bool
  isFrameCopied : Bool
  renderYUV : Bool
  deriving DecidableEq, Repr

/-- The client area of the window and the monitor it is on. -/
structure WindowPlace where
  width : Int
  height : Int
  monitor : Nat
  deriving DecidableEq, Repr

/-- For `Init`, a window without an area gets a dummy size. -/
def WindowPlace.forInit (place : WindowPlace) : WindowPlace where
  width := if place.width = 0 then 16 else place.width
  height := if place.height = 0 then 16 else place.height
  monitor := place.monitor

structure InitCalls where
  direct3DCreate : Bool
  hardwareTransform : Bool
  createDevice : Bool
  createVertexBuffer : Bool
  checkDeviceFormat : Bool
  checkDeviceFormatConversion : Bool
  deriving DecidableEq, Repr

/-- The outcomes of the calls of one round of `Redraw`. A successful `LockRect` yields the
pitch. `surfacePitch` is the one `ResetOffScreenSurface` sees, `updatePitch` the one
`UpdateOffScreenSurface` sees, and `allocated` is `new` in `UpdateStride`. -/
structure RoundCalls where
  createDevice : Bool
  createOffscreenPlainSurface : Bool
  createTexture : Bool
  getSurfaceLevel : Bool
  surfacePitch : Option Int
  allocated : Bool
  updatePitch : Option Int
  clear : Bool
  present : Bool
  deriving DecidableEq, Repr

namespace D3DVideoRenderer

def create : D3DVideoRenderer where
  renderFrame := .create .argb
  pd3dDevice := false
  pTexture := false
  pOffSurface := false
  deviceMonitor := 0
  deviceWidth := 0
  deviceHeight := 0
  surfaceWidth := 0
  surfaceHeight := 0
  d3dFailureCount := 0
  resetTexturePending := false
  updateTexturePending := false
  gdiFallbackMode := false
  blackness := false
  isFrameCopied := false
  renderYUV := false

def resetDevice (createDevice : Bool) (place : WindowPlace) (renderer : D3DVideoRenderer) :
    D3DVideoRenderer :=
  let renderer := { renderer with pTexture := false, pOffSurface := false, pd3dDevice := false }
  if createDevice then
    { renderer with
      pd3dDevice := true
      resetTexturePending := true
      deviceWidth := place.width
      deviceHeight := place.height
      deviceMonitor := place.monitor }
  else renderer

def releaseAllD3DObjects (renderer : D3DVideoRenderer) : D3DVideoRenderer :=
  { renderer with pTexture := false, pOffSurface := false, pd3dDevice := false }

/-- The renderer that `Init` leaves, for a new object. `none` is the result `false`, on
which the caller deletes it. The buffer is allocated last. -/
def init (calls : InitCalls) (isHwColorConvEnabled allowGDIFallback forceGDI : Bool)
    (place : WindowPlace) : Option D3DVideoRenderer :=
  let capable := !forceGDI && calls.direct3DCreate && calls.hardwareTransform
  let renderer := if capable then create.resetDevice calls.createDevice place.forInit else create
  if capable && calls.createDevice && calls.createVertexBuffer then
    let renderYUV :=
      isHwColorConvEnabled && calls.checkDeviceFormat && calls.checkDeviceFormatConversion
    some { renderer with
      renderYUV := renderYUV
      renderFrame := .create (if renderYUV then .i420 else .argb) }
  else if allowGDIFallback then
    some { renderer.releaseAllD3DObjects with gdiFallbackMode := true }
  else none

/-- The stride of the buffer follows the pitch of the surface, at the price of its frame. -/
def fitStride (calls : RoundCalls) (width height : Int) (renderer : D3DVideoRenderer) :
    D3DVideoRenderer :=
  if renderer.pOffSurface then
    match calls.surfacePitch with
    | none => renderer
    | some pitch =>
        let (reallocated, buffer) :=
          renderer.renderFrame.updateStride calls.allocated pitch width height
        { renderer with
          renderFrame := buffer
          updateTexturePending := !reallocated && renderer.updateTexturePending }
  else renderer

/-- The surface or texture that holds the picture; YV12 takes both. -/
def createSurface (calls : RoundCalls) (renderer : D3DVideoRenderer) : D3DVideoRenderer × Bool :=
  if renderer.renderYUV then
    ({ renderer with
      pOffSurface := calls.createOffscreenPlainSurface
      pTexture := calls.createTexture }, calls.createTexture && calls.getSurfaceLevel)
  else ({ renderer with pTexture := calls.createTexture }, calls.createTexture)

def takeSurface (width height : Int) (renderer : D3DVideoRenderer) : D3DVideoRenderer :=
  { renderer with
    resetTexturePending := false
    surfaceWidth := width
    surfaceHeight := height
    updateTexturePending := true
    isFrameCopied := false }

def resetOffScreenSurface (calls : RoundCalls) (width height : Int)
    (renderer : D3DVideoRenderer) : D3DVideoRenderer :=
  let renderer := { renderer with pTexture := false, pOffSurface := false }
  if renderer.pd3dDevice then
    let (renderer, created) := renderer.createSurface calls
    if created then fitStride calls width height (renderer.takeSurface width height)
    else renderer
  else renderer

/-- The frame is copied to the surface that `LockRect` opened. -/
def copiesFrame (pitch : Option Int) (frame : Option BaseVideoFrame)
    (renderer : D3DVideoRenderer) : Bool :=
  match frame, renderer.renderYUV with
  | some (.i420 _ _ strideY _ _), true => renderer.pOffSurface && decide (pitch = some strideY)
  | some (.rgb ..), false => renderer.pTexture && pitch.isSome
  | _, _ => false

def updateOffScreenSurface (pitch : Option Int) (renderer : D3DVideoRenderer) :
    D3DVideoRenderer :=
  let (frame, buffer) := renderer.renderFrame.lockBuffer
  { renderer with
    renderFrame := buffer.unlockBuffer
    isFrameCopied := renderer.copiesFrame pitch frame || renderer.isFrameCopied
    updateTexturePending := false }

def updateRenderSurface (calls : RoundCalls) (renderer : D3DVideoRenderer) : Bool :=
  if renderer.pd3dDevice then
    if (!renderer.pOffSurface && !renderer.pTexture) || renderer.blackness then calls.clear
    else calls.present
  else false

/-- The device or the surface is set up anew where it does not fit. -/
def prepareSurface (place : WindowPlace) (calls : RoundCalls) (resetDevice : Bool)
    (renderer : D3DVideoRenderer) : D3DVideoRenderer :=
  let frameWidth := renderer.renderFrame.width
  let frameHeight := renderer.renderFrame.height
  if !renderer.pd3dDevice || resetDevice || place.width != renderer.deviceWidth ||
      place.height != renderer.deviceHeight then
    (renderer.resetDevice calls.createDevice place).resetOffScreenSurface calls frameWidth
      frameHeight
  else if renderer.resetTexturePending || frameWidth != renderer.surfaceWidth ||
      frameHeight != renderer.surfaceHeight then
    renderer.resetOffScreenSurface calls frameWidth frameHeight
  else renderer

/-- One round of the loop in `Redraw`. -/
def redrawRound (place : WindowPlace) (calls : RoundCalls) (resetDevice : Bool)
    (renderer : D3DVideoRenderer) : Bool × D3DVideoRenderer :=
  let (frame, buffer) := renderer.renderFrame.lockBuffer
  let renderer := { renderer with renderFrame := buffer }
  let renderer :=
    match frame with
    | none => renderer
    | some _ =>
        let renderer := renderer.prepareSurface place calls resetDevice
        let renderer :=
          if renderer.updateTexturePending then renderer.updateOffScreenSurface calls.updatePitch
          else renderer
        { renderer with renderFrame := renderer.renderFrame.unlockBuffer }
  (renderer.updateRenderSurface calls, renderer)

def maxDeviceResetAttempts : Nat := 3

/-- The loop of `Redraw`, from the round with this number on. -/
def redrawRounds (place : WindowPlace) (rounds : Nat → RoundCalls) :
    Nat → Nat → Bool → D3DVideoRenderer → Bool × D3DVideoRenderer
  | 0, _, _, renderer => (false, renderer)
  | attempts + 1, round, resetDevice, renderer =>
      let (rendered, renderer) := renderer.redrawRound place (rounds round) resetDevice
      if rendered then (true, renderer)
      else redrawRounds place rounds attempts (round + 1) true renderer

/-- A frame that is not RGB is not drawn. -/
def drawIntoDC (renderer : D3DVideoRenderer) : D3DVideoRenderer :=
  let (frame, buffer) := renderer.renderFrame.lockBuffer
  match frame with
  | some (.rgb ..) => { renderer with renderFrame := buffer.unlockBuffer }
  | _ => { renderer with renderFrame := buffer }

def redraw (place : WindowPlace) (rounds : Nat → RoundCalls) (renderer : D3DVideoRenderer) :
    D3DVideoRenderer :=
  let renderWithGDI := decide (200 < renderer.d3dFailureCount) || renderer.gdiFallbackMode
  if !renderWithGDI then
    let (rendered, renderer) := redrawRounds place rounds (maxDeviceResetAttempts + 1) 0
      (place.monitor != renderer.deviceMonitor) renderer
    if rendered then renderer
    else { renderer with d3dFailureCount := renderer.d3dFailureCount + 1 }
  else
    let renderer :=
      if renderer.renderFrame.frameType = .i420 then
        { renderer with renderFrame := renderer.renderFrame.reset .argb }
      else renderer
    renderer.drawIntoDC

def deliverFrame (allocated : Bool) (videoFrame : BaseVideoFrame)
    (renderer : D3DVideoRenderer) : Option D3DVideoRenderer :=
  (renderer.renderFrame.copyFrame allocated videoFrame).map fun buffer =>
    { renderer with renderFrame := buffer, updateTexturePending := true }

end D3DVideoRenderer

inductive D3DOperation
  | deliverFrame (allocated : Bool) (videoFrame : BaseVideoFrame)
  | renderBlackness (black : Bool)
  | updateOffScreenSurface (pitch : Option Int)
  | redraw (place : WindowPlace) (rounds : Nat → RoundCalls)
  | drawIntoDC

namespace D3DVideoRenderer

def step (renderer : D3DVideoRenderer) : D3DOperation → Option D3DVideoRenderer
  | .deliverFrame allocated videoFrame => renderer.deliverFrame allocated videoFrame
  | .renderBlackness black => some { renderer with blackness := black }
  | .updateOffScreenSurface pitch => some (renderer.updateOffScreenSurface pitch)
  | .redraw place rounds => some (renderer.redraw place rounds)
  | .drawIntoDC => some renderer.drawIntoDC

end D3DVideoRenderer

end FiberApp.Render
