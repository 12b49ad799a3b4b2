import FiberApp.Foundation.Execution
import FiberApp.Render.D3DVideoRendererProperties
import FiberApp.Render.DxVideoRenderer

/-! The lock depth of the render buffer over runs of the two Direct3D renderers. -/

set_option autoImplicit false

namespace FiberApp.Render

open Foundation WinBjnRenderBuffer

namespace DxVideoRenderer

/-- The buffer's lock is as deep as before the first operation. -/
def LockKept (renderer : DxVideoRenderer) : Prop :=
  ∀ buffer, renderer.pRenderFrame = some buffer → buffer.depth = 0

/-- With YV12 support, a frame needs both surfaces to be drawn to. Without, there is one. -/
def guard (renderer : DxVideoRenderer) : DxOperation → Prop
  | .updateOffScreenSurface => ∀ buffer, renderer.pRenderFrame = some buffer →
      if renderer.isYUVSupported then
        buffer.renderFrame = none ∨
          (renderer.pOffScreenSurface = true ∧ renderer.pDeviceSurface = true)
      else buffer.renderFrame ≠ none
  | .createDevice _ | .destroyDevice | .copyFrame .. => True

def bufferType (renderer : DxVideoRenderer) : RawVideoType :=
  if renderer.isYUVSupported then .i420 else .argb

def Invariant (renderer : DxVideoRenderer) : Prop :=
  ∀ buffer, renderer.pRenderFrame = some buffer →
    buffer.Balanced ∧ buffer.frameType = renderer.bufferType

theorem createFrameBuffer_invariant {renderer : DxVideoRenderer}
    (balanced : ∀ buffer, renderer.pRenderFrame = some buffer → buffer.Balanced) :
    renderer.createFrameBuffer.Invariant := by
  unfold createFrameBuffer
  cases allocated : renderer.pRenderFrame with
  | none =>
      intro buffer held
      cases held
      exact ⟨create_balanced _, rfl⟩
  | some old =>
      intro buffer held
      cases held
      exact ⟨reset_balanced (balanced old allocated) _, rfl⟩

theorem createSurfaces_pRenderFrame (calls : CreateDeviceCalls) (renderer : DxVideoRenderer) :
    (renderer.createSurfaces calls).pRenderFrame = renderer.pRenderFrame := by
  unfold createSurfaces
  simp only
  split_ifs <;> rfl

theorem createDevice_invariant {renderer : DxVideoRenderer} (invariant : renderer.Invariant)
    (calls : CreateDeviceCalls) : (renderer.createDevice calls).Invariant := by
  unfold createDevice
  simp only
  split_ifs
  · exact invariant
  · exact invariant
  · exact invariant
  · exact invariant
  · exact invariant
  · apply createFrameBuffer_invariant
    rw [createSurfaces_pRenderFrame]
    exact fun buffer held => (invariant buffer held).1

theorem copyFrame_invariant {renderer next : DxVideoRenderer} (invariant : renderer.Invariant)
    {allocated : Bool} {videoFrame : BaseVideoFrame}
    (copied : renderer.copyFrame allocated videoFrame = some next) : next.Invariant := by
  unfold copyFrame at copied
  cases held : renderer.pRenderFrame with
  | none =>
      simp only [held, Option.some.injEq] at copied
      exact copied ▸ invariant
  | some buffer =>
      simp only [held, Option.map_eq_some_iff] at copied
      obtain ⟨after, copied, rfl⟩ := copied
      obtain ⟨balanced, type⟩ := invariant buffer held
      intro other same
      cases same
      obtain ⟨kept, same⟩ := balanced.copyFrame copied
      exact ⟨kept, same.trans type⟩

def withBuffer (renderer : DxVideoRenderer) (buffer : WinBjnRenderBuffer) : DxVideoRenderer :=
  { renderer with pRenderFrame := some buffer }

theorem withBuffer_held {renderer : DxVideoRenderer} {buffer : WinBjnRenderBuffer}
    (held : renderer.pRenderFrame = some buffer) : renderer.withBuffer buffer = renderer := by
  rw [withBuffer, ← held]

theorem withBuffer_lockKept {renderer : DxVideoRenderer} {buffer : WinBjnRenderBuffer} :
    (renderer.withBuffer buffer).LockKept ↔ buffer.depth = 0 := by
  simp [LockKept, withBuffer]

/-- With support for YV12 only the branch that draws unlocks. -/
theorem updateOffScreenSurface_yuv {renderer : DxVideoRenderer} {buffer : WinBjnRenderBuffer}
    (held : renderer.pRenderFrame = some buffer) (yuv : renderer.isYUVSupported = true)
    {frame : BaseVideoFrame} (received : buffer.renderFrame = some frame)
    (i420 : frame.type = .i420) :
    renderer.updateOffScreenSurface = renderer.withBuffer
      (if renderer.pOffScreenSurface && renderer.pDeviceSurface then buffer
        else buffer.enter) := by
  cases frame with
  | rgb width height => cases i420
  | i420 width height strideY strideU strideV =>
      simp only [updateOffScreenSurface, held, lockBuffer_of_some received, yuv, if_true]
      split_ifs <;> simp [withBuffer, yuv]

theorem updateOffScreenSurface_rgb {renderer : DxVideoRenderer} {buffer : WinBjnRenderBuffer}
    (held : renderer.pRenderFrame = some buffer) (rgb : renderer.isYUVSupported = false)
    {frame : BaseVideoFrame} (received : buffer.renderFrame = some frame) :
    renderer.updateOffScreenSurface = renderer.withBuffer buffer := by
  simp [updateOffScreenSurface, withBuffer, held, lockBuffer_of_some received, rgb]

/-- Without, it unlocks also when `LockBuffer` has done so itself. -/
theorem updateOffScreenSurface_empty {renderer : DxVideoRenderer}
    {buffer : WinBjnRenderBuffer} (held : renderer.pRenderFrame = some buffer)
    (empty : buffer.renderFrame = none) :
    renderer.updateOffScreenSurface =
      renderer.withBuffer (if renderer.isYUVSupported then buffer else buffer.leave) := by
  simp only [updateOffScreenSurface, held, lockBuffer_of_none empty, unlockBuffer]
  split_ifs <;> rfl

theorem updateOffScreenSurface_spec {renderer : DxVideoRenderer}
    (invariant : renderer.Invariant) :
    (renderer.guard .updateOffScreenSurface → renderer.updateOffScreenSurface = renderer) ∧
      (¬ renderer.guard .updateOffScreenSurface →
        ¬ renderer.updateOffScreenSurface.LockKept) := by
  cases held : renderer.pRenderFrame with
  | none => simp [guard, held, updateOffScreenSurface]
  | some buffer =>
      obtain ⟨balanced, type⟩ := invariant buffer held
      have depth := balanced.depth
      have same := withBuffer_held held
      simp only [guard, held, Option.some.injEq, forall_eq']
      cases received : buffer.renderFrame with
      | none =>
          rw [updateOffScreenSurface_empty held received, withBuffer_lockKept]
          by_cases yuv : renderer.isYUVSupported = true
          · simp [yuv, same]
          · simp [yuv, leave, depth]
      | some frame =>
          by_cases yuv : renderer.isYUVSupported = true
          · have i420 := (balanced.typed frame received).trans type
            rw [bufferType, if_pos yuv] at i420
            rw [updateOffScreenSurface_yuv held yuv received i420, withBuffer_lockKept,
              if_pos yuv, ← Bool.and_eq_true]
            by_cases surfaces : (renderer.pOffScreenSurface && renderer.pDeviceSurface) = true
            · simp [surfaces, same]
            · simp [surfaces, enter, depth]
          · rw [updateOffScreenSurface_rgb held (Bool.eq_false_iff.mpr yuv) received]
            simp [yuv, same]

theorem step_invariant {renderer next : DxVideoRenderer} {operation : DxOperation}
    (invariant : renderer.Invariant) (guarded : renderer.guard operation)
    (taken : renderer.step operation = some next) : next.Invariant := by
  cases operation with
  | createDevice calls =>
      cases taken
      exact createDevice_invariant invariant calls
  | destroyDevice =>
      cases taken
      exact invariant
  | copyFrame allocated videoFrame => exact copyFrame_invariant invariant taken
  | updateOffScreenSurface =>
      cases taken
      rw [(updateOffScreenSurface_spec invariant).1 guarded]
      exact invariant

theorem step_exact {renderer : DxVideoRenderer} {operation : DxOperation}
    (invariant : renderer.Invariant) (refused : ¬ renderer.guard operation) :
    ∃ next, renderer.step operation = some next ∧ ¬ next.LockKept := by
  cases operation with
  | createDevice calls => exact absurd trivial refused
  | destroyDevice => exact absurd trivial refused
  | copyFrame allocated videoFrame => exact absurd trivial refused
  | updateOffScreenSurface =>
      exact ⟨_, rfl, (updateOffScreenSurface_spec invariant).2 refused⟩

theorem lockKept_throughout_iff (operations : List DxOperation) :
    Throughout step LockKept initial operations ↔ Guarded step guard initial operations :=
  throughout_iff_guarded Invariant
    (fun _ invariant buffer held => (invariant buffer held).1.depth)
    (fun _ _ _ invariant guarded taken => step_invariant invariant guarded taken)
    (fun _ _ invariant refused => step_exact invariant refused)
    (fun _ held => by cases held)

end DxVideoRenderer

/-- In a run of either renderer every operation leaves the lock of the buffer as deep as it
found it, if and only if every step meets the guard of its renderer. -/
theorem lockKept_iff {calls : InitCalls} {isHwColorConvEnabled allowGDIFallback forceGDI : Bool}
    {place : WindowPlace} {renderer : D3DVideoRenderer}
    (inited : D3DVideoRenderer.init calls isHwColorConvEnabled allowGDIFallback forceGDI place =
      some renderer) (d3dOperations : List D3DOperation) (dxOperations : List DxOperation) :
    (Throughout D3DVideoRenderer.step D3DVideoRenderer.LockKept renderer d3dOperations ↔
        Guarded D3DVideoRenderer.step D3DVideoRenderer.guard renderer d3dOperations) ∧
      (Throughout DxVideoRenderer.step DxVideoRenderer.LockKept .initial dxOperations ↔
        Guarded DxVideoRenderer.step DxVideoRenderer.guard .initial dxOperations) :=
  ⟨throughout_iff_guarded (fun renderer => renderer.renderFrame.Balanced)
      (fun _ balanced => balanced.depth)
      (fun _ _ _ balanced guarded taken => D3DVideoRenderer.step_invariant balanced guarded taken)
      (fun _ _ balanced refused => D3DVideoRenderer.step_exact balanced refused)
      (D3DVideoRenderer.init_balanced inited),
    DxVideoRenderer.lockKept_throughout_iff dxOperations⟩

def hardware : InitCalls := ⟨true, true, true, true, true, true⟩

def hardwareRenderer : D3DVideoRenderer :=
  { D3DVideoRenderer.create.resetDevice true ⟨640, 480, 1⟩ with
    renderYUV := true
    renderFrame := .create .i420 }

def withoutOffScreenSurface : CreateDeviceCalls :=
  ⟨true, true, true, true, true, true, true, true, false⟩

def receivedFrame : BaseVideoFrame := .i420 640 480 640 320 320

def lockedForGood : List DxOperation :=
  [.createDevice withoutOffScreenSurface, .copyFrame true receivedFrame,
    .updateOffScreenSurface]

theorem lockKept_iff_hardware :
    (Throughout D3DVideoRenderer.step D3DVideoRenderer.LockKept hardwareRenderer [.drawIntoDC] ↔
        Guarded D3DVideoRenderer.step D3DVideoRenderer.guard hardwareRenderer [.drawIntoDC]) ∧
      (Throughout DxVideoRenderer.step DxVideoRenderer.LockKept .initial lockedForGood ↔
        Guarded DxVideoRenderer.step DxVideoRenderer.guard .initial lockedForGood) :=
  lockKept_iff (show D3DVideoRenderer.init hardware true false false ⟨640, 480, 1⟩ =
    some hardwareRenderer by rfl) [.drawIntoDC] lockedForGood

/-- The received frame has no surface to be drawn to, and the buffer stays locked. -/
theorem lockKept_withoutOffScreenSurface :
    ¬ ∀ operations,
      Throughout DxVideoRenderer.step DxVideoRenderer.LockKept .initial operations := by
  intro holds
  have kept := (holds lockedForGood).reached rfl
  have depth := kept _ rfl
  revert depth
  decide

end FiberApp.Render
