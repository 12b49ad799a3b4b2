import FiberApp.Render.WinBjnRenderBufferProperties
import FiberApp.Render.D3DVideoRenderer

/-! The operations of `D3DVideoRenderer` and the lock of its buffer: when each of them
leaves it as it found it, and what it leaves otherwise. -/

set_option autoImplicit false

namespace FiberApp.Render

open WinBjnRenderBuffer

namespace D3DVideoRenderer

/-- `UpdateStride` deletes the frame and cannot put another one in its place. -/
def losesStride (calls : RoundCalls) (buffer : WinBjnRenderBuffer) : Bool :=
  match calls.surfacePitch with
  | none => false
  | some pitch => decide (buffer.frameType = .i420) && decide (pitch ≠ buffer.width) &&
      !(calls.allocated && BaseVideoFrame.checkI420Dimensions buffer.width buffer.height pitch
        (pitch >>> (1 : Nat)) (pitch >>> (1 : Nat)))

def resetsDevice (place : WindowPlace) (resetDevice : Bool) (renderer : D3DVideoRenderer) :
    Bool :=
  !renderer.pd3dDevice || resetDevice || place.width != renderer.deviceWidth ||
    place.height != renderer.deviceHeight

def resetsSurface (place : WindowPlace) (resetDevice : Bool) (renderer : D3DVideoRenderer) :
    Bool :=
  renderer.resetsDevice place resetDevice || renderer.resetTexturePending ||
    renderer.renderFrame.width != renderer.surfaceWidth ||
    renderer.renderFrame.height != renderer.surfaceHeight

/-- A round finds a device, or creates it. -/
def hasDevice (place : WindowPlace) (calls : RoundCalls) (resetDevice : Bool)
    (renderer : D3DVideoRenderer) : Bool :=
  !renderer.resetsDevice place resetDevice || calls.createDevice

/-- What `ResetOffScreenSurface` asks of the calls before the stride matters. -/
def opensSurface (calls : RoundCalls) (renderer : D3DVideoRenderer) : Bool :=
  renderer.renderYUV && calls.createTexture && calls.getSurfaceLevel &&
    calls.createOffscreenPlainSurface

/-- A round that starts with a frame loses it: the surface is set up anew, the off-screen
surface opens, and the stride it asks for cannot be had. -/
def losesFrame (place : WindowPlace) (calls : RoundCalls) (resetDevice : Bool)
    (renderer : D3DVideoRenderer) : Bool :=
  renderer.resetsSurface place resetDevice && renderer.hasDevice place calls resetDevice &&
    renderer.opensSurface calls && losesStride calls renderer.renderFrame

/-- A round that keeps its frame presents something. -/
def renders (place : WindowPlace) (calls : RoundCalls) (resetDevice : Bool)
    (renderer : D3DVideoRenderer) : Bool :=
  let surfaces :=
    if renderer.resetsSurface place resetDevice then
      calls.createTexture || (renderer.renderYUV && calls.createOffscreenPlainSurface)
    else renderer.pOffSurface || renderer.pTexture
  renderer.hasDevice place calls resetDevice &&
    (if !surfaces || renderer.blackness then calls.clear else calls.present)

/-- The renderer still has a frame of the same size and type, at the same lock depth. -/
structure KeepsFrame (before after : D3DVideoRenderer) : Prop where
  frame : ∃ frame, after.renderFrame = { before.renderFrame with renderFrame := some frame }
  typed : before.renderFrame.Typed → after.renderFrame.Typed
  yuv : after.renderYUV = before.renderYUV
  blackness : after.blackness = before.blackness

/-- The renderer has no frame any more, and the lock depth has changed by this. -/
structure LosesFrame (before after : D3DVideoRenderer) (change : Int) : Prop where
  frame : after.renderFrame.renderFrame = none
  depth : after.renderFrame.depth = before.renderFrame.depth + change

theorem KeepsFrame.refl {renderer : D3DVideoRenderer} {frame : BaseVideoFrame}
    (held : renderer.renderFrame.renderFrame = some frame) : renderer.KeepsFrame renderer :=
  ⟨⟨frame, by rw [← held]⟩, id, rfl, rfl⟩

theorem KeepsFrame.held {before after : D3DVideoRenderer} (keeps : before.KeepsFrame after) :
    ∃ frame, after.renderFrame.renderFrame = some frame := by
  obtain ⟨frame, same⟩ := keeps.frame
  exact ⟨frame, by rw [same]⟩

/-- With a frame in the buffer, the lock and its release cancel out. -/
theorem updateOffScreenSurface_held {renderer : D3DVideoRenderer} {frame : BaseVideoFrame}
    (held : renderer.renderFrame.renderFrame = some frame) (pitch : Option Int) :
    (renderer.updateOffScreenSurface pitch).renderFrame = renderer.renderFrame := by
  simp [updateOffScreenSurface, lockBuffer_of_some held]

/-- Without one, only the release is left. -/
theorem updateOffScreenSurface_empty {renderer : D3DVideoRenderer}
    (empty : renderer.renderFrame.renderFrame = none) (pitch : Option Int) :
    (renderer.updateOffScreenSurface pitch).renderFrame = renderer.renderFrame.leave := by
  simp [updateOffScreenSurface, lockBuffer_of_none empty, unlockBuffer]

theorem fitStride_lost {calls : RoundCalls} {renderer : D3DVideoRenderer}
    {buffer : WinBjnRenderBuffer} (same : renderer.renderFrame = buffer)
    (surface : renderer.pOffSurface = true) (loses : losesStride calls buffer = true) :
    (fitStride calls buffer.width buffer.height renderer).renderFrame =
        { buffer with renderFrame := none } ∧
      (fitStride calls buffer.width buffer.height renderer).updateTexturePending =
        renderer.updateTexturePending := by
  subst same
  unfold losesStride at loses
  cases opened : calls.surfacePitch with
  | none => simp [opened] at loses
  | some pitch =>
      simp only [opened, Bool.and_eq_true, decide_eq_true_eq, Bool.not_eq_true',
        Bool.and_eq_false_iff] at loses
      obtain ⟨⟨i420, pitched⟩, failed⟩ := loses
      have refused : ¬ (renderer.renderFrame.frameType ≠ .i420 ∨
          pitch = renderer.renderFrame.width) := by simp [i420, pitched]
      simp only [fitStride, surface, if_true, opened, updateStride, if_neg refused]
      rcases failed with unallocated | unsuited
      · simp [unallocated]
      · simp [BaseVideoFrame.createEmptyI420, unsuited]

/-- Everything but the buffer and the pending update stays. -/
theorem fitStride_frame (calls : RoundCalls) (width height : Int) (renderer : D3DVideoRenderer) :
    ∃ buffer pending, fitStride calls width height renderer =
      { renderer with renderFrame := buffer, updateTexturePending := pending } := by
  unfold fitStride
  split_ifs
  · cases calls.surfacePitch with
    | none => exact ⟨_, _, rfl⟩
    | some pitch => exact ⟨_, _, rfl⟩
  · exact ⟨_, _, rfl⟩

theorem fitStride_typed (calls : RoundCalls) (width height : Int)
    (renderer : D3DVideoRenderer) (typed : renderer.renderFrame.Typed) :
    (fitStride calls width height renderer).renderFrame.Typed := by
  unfold fitStride
  split_ifs
  · cases calls.surfacePitch with
    | none => exact typed
    | some pitch => exact typed.updateStride calls.allocated pitch width height
  · exact typed

theorem fitStride_kept {calls : RoundCalls} (renderer : D3DVideoRenderer)
    {buffer : WinBjnRenderBuffer} (same : renderer.renderFrame = buffer)
    {frame : BaseVideoFrame} (held : buffer.renderFrame = some frame)
    (keeps : (renderer.pOffSurface && losesStride calls buffer) = false) :
    ∃ frame, (fitStride calls buffer.width buffer.height renderer).renderFrame =
      { buffer with renderFrame := some frame } := by
  subst same
  unfold fitStride
  split_ifs with surface
  · rw [surface, Bool.true_and] at keeps
    unfold losesStride at keeps
    cases opened : calls.surfacePitch with
    | none => exact ⟨frame, by rw [← held]⟩
    | some pitch =>
        simp only [opened] at keeps
        simp only [updateStride]
        split_ifs with unsuited allocated created
        · exact ⟨frame, by rw [← held]⟩
        · exact ⟨_, rfl⟩
        · simp_all [BaseVideoFrame.createEmptyI420]
        · simp_all
  · exact ⟨frame, by rw [← held]⟩

def released (renderer : D3DVideoRenderer) : D3DVideoRenderer :=
  { renderer with pTexture := false, pOffSurface := false }

theorem createSurface_frame (calls : RoundCalls) (renderer : D3DVideoRenderer) :
    (renderer.released.createSurface calls).1.renderFrame = renderer.renderFrame ∧
      (renderer.released.createSurface calls).1.renderYUV = renderer.renderYUV ∧
      (renderer.released.createSurface calls).1.blackness = renderer.blackness ∧
      (renderer.released.createSurface calls).1.pd3dDevice = renderer.pd3dDevice := by
  unfold createSurface
  split_ifs <;> exact ⟨rfl, rfl, rfl, rfl⟩

theorem createSurface_surfaces (calls : RoundCalls) (renderer : D3DVideoRenderer) :
    (renderer.released.createSurface calls).1.pTexture = calls.createTexture ∧
      (renderer.released.createSurface calls).1.pOffSurface =
        (renderer.renderYUV && calls.createOffscreenPlainSurface) ∧
      ((renderer.released.createSurface calls).2 &&
        (renderer.released.createSurface calls).1.pOffSurface) = renderer.opensSurface calls := by
  unfold createSurface opensSurface
  cases yuv : renderer.renderYUV <;> simp [released, yuv]

theorem resetOffScreenSurface_eq {calls : RoundCalls} {renderer : D3DVideoRenderer}
    (device : renderer.pd3dDevice = true) (width height : Int) :
    renderer.resetOffScreenSurface calls width height =
      if (renderer.released.createSurface calls).2 then
        fitStride calls width height
          ((renderer.released.createSurface calls).1.takeSurface width height)
      else (renderer.released.createSurface calls).1 := by
  simp only [resetOffScreenSurface, released, device, if_true]

theorem resetOffScreenSurface_lost {calls : RoundCalls} {renderer : D3DVideoRenderer}
    {buffer : WinBjnRenderBuffer} (same : renderer.renderFrame = buffer)
    (device : renderer.pd3dDevice = true) (opens : renderer.opensSurface calls = true)
    (loses : losesStride calls buffer = true) :
    (renderer.resetOffScreenSurface calls buffer.width buffer.height).renderFrame =
        { buffer with renderFrame := none } ∧
      (renderer.resetOffScreenSurface calls buffer.width buffer.height).updateTexturePending =
        true := by
  obtain ⟨sameFrame, _⟩ := createSurface_frame calls renderer
  obtain ⟨_, _, opened⟩ := createSurface_surfaces calls renderer
  rw [opens, Bool.and_eq_true] at opened
  obtain ⟨created, surface⟩ := opened
  rw [resetOffScreenSurface_eq device, if_pos created]
  exact fitStride_lost (sameFrame.trans same) surface loses

theorem resetOffScreenSurface_kept {calls : RoundCalls} {renderer : D3DVideoRenderer}
    {buffer : WinBjnRenderBuffer} (same : renderer.renderFrame = buffer)
    {frame : BaseVideoFrame} (held : buffer.renderFrame = some frame)
    (keeps : (renderer.pd3dDevice && renderer.opensSurface calls &&
      losesStride calls buffer) = false) :
    let after := renderer.resetOffScreenSurface calls buffer.width buffer.height
    renderer.KeepsFrame after ∧ after.pd3dDevice = renderer.pd3dDevice ∧
      (renderer.pd3dDevice = true → (after.pOffSurface || after.pTexture) =
        (calls.createTexture || (renderer.renderYUV && calls.createOffscreenPlainSurface))) := by
  have unchanged : renderer.renderFrame =
      { renderer.renderFrame with renderFrame := some frame } := by rw [same, ← held]
  by_cases device : renderer.pd3dDevice = true
  · obtain ⟨sameFrame, yuv, blackness, sameDevice⟩ := createSurface_frame calls renderer
    obtain ⟨texture, offScreen, opened⟩ := createSurface_surfaces calls renderer
    have surfaces : ((renderer.released.createSurface calls).1.pOffSurface ||
        (renderer.released.createSurface calls).1.pTexture) =
          (calls.createTexture || (renderer.renderYUV && calls.createOffscreenPlainSurface)) := by
      rw [texture, offScreen, Bool.or_comm]
    rw [device, Bool.true_and, ← opened] at keeps
    rw [resetOffScreenSurface_eq device]
    by_cases created : (renderer.released.createSurface calls).2 = true
    · rw [created, Bool.true_and] at keeps
      have kept := fitStride_kept
        ((renderer.released.createSurface calls).1.takeSurface buffer.width buffer.height)
        (sameFrame.trans same) held keeps
      obtain ⟨after, pending, fitted⟩ := fitStride_frame calls buffer.width buffer.height
        ((renderer.released.createSurface calls).1.takeSurface buffer.width buffer.height)
      have typed (before : renderer.renderFrame.Typed) := fitStride_typed calls buffer.width
        buffer.height
        ((renderer.released.createSurface calls).1.takeSurface buffer.width buffer.height)
        (sameFrame.symm ▸ before)
      rw [if_pos created]
      rw [fitted] at kept typed ⊢
      exact ⟨⟨same ▸ kept, typed, yuv, blackness⟩, sameDevice, fun _ => surfaces⟩
    · rw [if_neg created]
      exact ⟨⟨⟨frame, sameFrame.trans unchanged⟩, fun typed => sameFrame.symm ▸ typed, yuv,
        blackness⟩, sameDevice, fun _ => surfaces⟩
  · simp only [resetOffScreenSurface, if_neg device]
    exact ⟨⟨⟨frame, unchanged⟩, id, rfl, rfl⟩, trivial, fun present => absurd present device⟩

theorem resetDevice_frame (createDevice : Bool) (place : WindowPlace)
    (renderer : D3DVideoRenderer) :
    (renderer.resetDevice createDevice place).renderFrame = renderer.renderFrame ∧
      (renderer.resetDevice createDevice place).renderYUV = renderer.renderYUV ∧
      (renderer.resetDevice createDevice place).blackness = renderer.blackness ∧
      (renderer.resetDevice createDevice place).pd3dDevice = createDevice := by
  cases createDevice <;> exact ⟨rfl, rfl, rfl, rfl⟩

/-- The three ways on which a round goes from its state to a surface. -/
theorem prepareSurface_cases (place : WindowPlace) (calls : RoundCalls) (resetDevice : Bool)
    (renderer : D3DVideoRenderer) :
    (renderer.resetsDevice place resetDevice = true ∧
      renderer.prepareSurface place calls resetDevice =
        (renderer.resetDevice calls.createDevice place).resetOffScreenSurface calls
          renderer.renderFrame.width renderer.renderFrame.height) ∨
    (renderer.resetsDevice place resetDevice = false ∧
      renderer.resetsSurface place resetDevice = true ∧ renderer.pd3dDevice = true ∧
      renderer.prepareSurface place calls resetDevice =
        renderer.resetOffScreenSurface calls renderer.renderFrame.width
          renderer.renderFrame.height) ∨
    (renderer.resetsDevice place resetDevice = false ∧
      renderer.resetsSurface place resetDevice = false ∧ renderer.pd3dDevice = true ∧
      renderer.prepareSurface place calls resetDevice = renderer) := by
  unfold prepareSurface resetsSurface
  cases anew : renderer.resetsDevice place resetDevice with
  | true =>
      refine .inl ⟨rfl, ?_⟩
      simp only [resetsDevice] at anew
      simp only [anew, if_true]
  | false =>
      right
      have device : renderer.pd3dDevice = true := by
        simp only [resetsDevice, Bool.or_eq_false_iff, Bool.not_eq_false'] at anew
        exact anew.1.1.1
      simp only [resetsDevice] at anew
      simp only [anew, Bool.false_eq_true, if_false, Bool.false_or]
      cases pending : renderer.resetTexturePending ||
          renderer.renderFrame.width != renderer.surfaceWidth ||
          renderer.renderFrame.height != renderer.surfaceHeight with
      | true => exact .inl (by simp [device])
      | false => exact .inr (by simp [device])

theorem resetsSurface_of_resetsDevice {place : WindowPlace} {resetDevice : Bool}
    {renderer : D3DVideoRenderer} (anew : renderer.resetsDevice place resetDevice = true) :
    renderer.resetsSurface place resetDevice = true := by
  simp [resetsSurface, anew]

theorem prepareSurface_lost {place : WindowPlace} {calls : RoundCalls} {resetDevice : Bool}
    (renderer : D3DVideoRenderer)
    (loses : renderer.losesFrame place calls resetDevice = true) :
    (renderer.prepareSurface place calls resetDevice).renderFrame =
        { renderer.renderFrame with renderFrame := none } ∧
      (renderer.prepareSurface place calls resetDevice).updateTexturePending = true := by
  simp only [losesFrame, Bool.and_eq_true] at loses
  obtain ⟨⟨⟨resets, device⟩, opens⟩, stride⟩ := loses
  rcases prepareSurface_cases place calls resetDevice renderer with
    ⟨anew, prepared⟩ | ⟨_, _, present, prepared⟩ | ⟨_, unfit, _, _⟩
  · obtain ⟨frame, yuv, _, created⟩ := resetDevice_frame calls.createDevice place renderer
    rw [hasDevice, anew, Bool.not_true, Bool.false_or] at device
    rw [prepared]
    refine resetOffScreenSurface_lost frame (created.trans device) ?_ stride
    rw [opensSurface, yuv]
    exact opens
  · rw [prepared]
    exact resetOffScreenSurface_lost rfl present opens stride
  · rw [resets] at unfit
    cases unfit

theorem KeepsFrame.trans {first second third : D3DVideoRenderer}
    (before : first.KeepsFrame second) (after : second.KeepsFrame third) :
    first.KeepsFrame third := by
  obtain ⟨⟨_, held⟩, typed, yuv, blackness⟩ := before
  obtain ⟨⟨frame, kept⟩, sameTyped, sameYUV, sameBlackness⟩ := after
  exact ⟨⟨frame, by rw [kept, held]⟩, fun start => sameTyped (typed start),
    sameYUV.trans yuv, sameBlackness.trans blackness⟩

theorem prepareSurface_kept {place : WindowPlace} {calls : RoundCalls} {resetDevice : Bool}
    {renderer : D3DVideoRenderer} {frame : BaseVideoFrame}
    (held : renderer.renderFrame.renderFrame = some frame)
    (keeps : renderer.losesFrame place calls resetDevice = false) :
    renderer.KeepsFrame (renderer.prepareSurface place calls resetDevice) ∧
      (renderer.prepareSurface place calls resetDevice).updateRenderSurface calls =
        renderer.renders place calls resetDevice := by
  unfold losesFrame at keeps
  rcases prepareSurface_cases place calls resetDevice renderer with
    ⟨anew, prepared⟩ | ⟨kept, resets, present, prepared⟩ | ⟨kept, fits, present, prepared⟩
  · obtain ⟨sameFrame, yuv, blackness, created⟩ :=
      resetDevice_frame calls.createDevice place renderer
    have resets := resetsSurface_of_resetsDevice anew
    have device : renderer.hasDevice place calls resetDevice = calls.createDevice := by
      simp [hasDevice, anew]
    have opens : (renderer.resetDevice calls.createDevice place).opensSurface calls =
        renderer.opensSurface calls := by rw [opensSurface, opensSurface, yuv]
    rw [resets, device, Bool.true_and, ← created, ← opens] at keeps
    obtain ⟨keepsFrame, sameDevice, surfaces⟩ := resetOffScreenSurface_kept sameFrame held keeps
    rw [prepared]
    refine ⟨KeepsFrame.trans ⟨⟨frame, ?_⟩, fun typed => sameFrame.symm ▸ typed, yuv, blackness⟩
      keepsFrame, ?_⟩
    · rw [sameFrame, ← held]
    · simp only [updateRenderSurface, renders, resets, device, if_true, keepsFrame.blackness,
        blackness, sameDevice, created]
      cases made : calls.createDevice with
      | false => simp
      | true =>
          have surfaces := surfaces (created.trans made)
          rw [yuv, made] at surfaces
          simp [← surfaces, Bool.not_or]
  · have device : renderer.hasDevice place calls resetDevice = true := by simp [hasDevice, kept]
    rw [resets, device, Bool.true_and, Bool.true_and] at keeps
    obtain ⟨keepsFrame, sameDevice, surfaces⟩ := resetOffScreenSurface_kept rfl held
      (by rw [present, Bool.true_and]; exact keeps)
    rw [prepared]
    refine ⟨keepsFrame, ?_⟩
    simp [updateRenderSurface, renders, resets, device, keepsFrame.blackness, sameDevice, present,
      ← surfaces present, Bool.not_or]
  · have device : renderer.hasDevice place calls resetDevice = true := by simp [hasDevice, kept]
    rw [prepared]
    refine ⟨.refl held, ?_⟩
    simp [updateRenderSurface, renders, fits, device, present, Bool.not_or]

/-- A round that starts without a frame touches the lock only in passing. -/
theorem redrawRound_empty {renderer : D3DVideoRenderer}
    (empty : renderer.renderFrame.renderFrame = none) (place : WindowPlace) (calls : RoundCalls)
    (resetDevice : Bool) : (renderer.redrawRound place calls resetDevice).2 = renderer := by
  simp [redrawRound, lockBuffer_of_none empty]

def locked (renderer : D3DVideoRenderer) : D3DVideoRenderer :=
  { renderer with renderFrame := renderer.renderFrame.enter }

def unlocked (renderer : D3DVideoRenderer) : D3DVideoRenderer :=
  { renderer with renderFrame := renderer.renderFrame.unlockBuffer }

/-- The pending update of a round. -/
def updatePending (calls : RoundCalls) (renderer : D3DVideoRenderer) : D3DVideoRenderer :=
  if renderer.updateTexturePending then renderer.updateOffScreenSurface calls.updatePitch
  else renderer

theorem redrawRound_held {renderer : D3DVideoRenderer} {frame : BaseVideoFrame}
    (held : renderer.renderFrame.renderFrame = some frame) (place : WindowPlace)
    (calls : RoundCalls) (resetDevice : Bool) :
    let after := ((renderer.locked.prepareSurface place calls resetDevice).updatePending
      calls).unlocked
    renderer.redrawRound place calls resetDevice = (after.updateRenderSurface calls, after) := by
  simp only [redrawRound, lockBuffer_of_some held]
  rfl

theorem redrawRound_lost {place : WindowPlace} {calls : RoundCalls} {resetDevice : Bool}
    {renderer : D3DVideoRenderer} {frame : BaseVideoFrame}
    (held : renderer.renderFrame.renderFrame = some frame)
    (loses : renderer.losesFrame place calls resetDevice = true) :
    renderer.LosesFrame (renderer.redrawRound place calls resetDevice).2 (-1) := by
  obtain ⟨lost, pending⟩ := prepareSurface_lost renderer.locked loses
  rw [redrawRound_held held]
  generalize renderer.locked.prepareSurface place calls resetDevice = prepared at lost pending
  have updated : (prepared.updatePending calls).renderFrame = prepared.renderFrame.leave := by
    rw [updatePending, if_pos pending]
    exact updateOffScreenSurface_empty (by rw [lost]) calls.updatePitch
  constructor
  · simp only [unlocked, updated, lost, unlockBuffer, leave]
  · simp only [unlocked, updated, lost, unlockBuffer, leave, locked, enter]
    omega

theorem redrawRound_kept {place : WindowPlace} {calls : RoundCalls} {resetDevice : Bool}
    {renderer : D3DVideoRenderer} {frame : BaseVideoFrame}
    (held : renderer.renderFrame.renderFrame = some frame)
    (keeps : renderer.losesFrame place calls resetDevice = false) :
    renderer.KeepsFrame (renderer.redrawRound place calls resetDevice).2 ∧
      (renderer.redrawRound place calls resetDevice).1 =
        renderer.renders place calls resetDevice := by
  have entered : renderer.locked.renderFrame.renderFrame = some frame := held
  obtain ⟨kept, shown⟩ := prepareSurface_kept entered keeps
  rw [redrawRound_held held]
  generalize renderer.locked.prepareSurface place calls resetDevice = prepared at kept shown
  obtain ⟨⟨after, same⟩, typed, yuv, blackness⟩ := kept
  have updated : (prepared.updatePending calls).renderFrame = prepared.renderFrame ∧
      (prepared.updatePending calls).renderYUV = prepared.renderYUV ∧
      (prepared.updatePending calls).blackness = prepared.blackness ∧
      (prepared.updatePending calls).updateRenderSurface calls =
        prepared.updateRenderSurface calls := by
    unfold updatePending
    split_ifs
    · exact ⟨updateOffScreenSurface_held (by rw [same]) _, rfl, rfl, rfl⟩
    · exact ⟨rfl, rfl, rfl, rfl⟩
  obtain ⟨sameFrame, sameYUV, sameBlackness, sameShown⟩ := updated
  refine ⟨⟨⟨after, ?_⟩, fun start => ?_, sameYUV.trans yuv, sameBlackness.trans blackness⟩, ?_⟩
  · simp [unlocked, sameFrame, same, locked, enter, unlockBuffer, leave]
  · have kept : prepared.renderFrame.Typed := typed start
    rw [← sameFrame] at kept
    exact kept
  · exact sameShown.trans shown

/-- What a later round does does not depend on what an earlier one has set up. -/
theorem KeepsFrame.retry {before after : D3DVideoRenderer} (keeps : before.KeepsFrame after)
    (place : WindowPlace) (calls : RoundCalls) :
    after.losesFrame place calls true = before.losesFrame place calls true ∧
      after.renders place calls true = before.renders place calls true := by
  obtain ⟨⟨frame, same⟩, _, yuv, blackness⟩ := keeps
  have stride : losesStride calls after.renderFrame = losesStride calls before.renderFrame := by
    rw [same]
    rfl
  have anew (renderer : D3DVideoRenderer) : renderer.resetsDevice place true = true := by
    simp [resetsDevice]
  constructor
  · simp [losesFrame, resetsSurface, hasDevice, anew, opensSurface, yuv, stride]
  · simp [renders, resetsSurface, hasDevice, anew, yuv, blackness]

/-- No round that is reached loses the frame: one is reached when none before it presents
anything, and every round but the first resets the device. -/
def AdmitsRounds (place : WindowPlace) (rounds : Nat → RoundCalls) (attempts first : Nat)
    (resetDevice : Bool) (renderer : D3DVideoRenderer) : Prop :=
  ∀ round < attempts,
    (∀ earlier < round, renderer.renders place (rounds (first + earlier))
      (resetDevice || decide (earlier ≠ 0)) = false) →
    renderer.losesFrame place (rounds (first + round)) (resetDevice || decide (round ≠ 0)) = false

theorem admitsRounds_succ {place : WindowPlace} {rounds : Nat → RoundCalls}
    {attempts first : Nat} {resetDevice : Bool} {renderer : D3DVideoRenderer} :
    renderer.AdmitsRounds place rounds (attempts + 1) first resetDevice ↔
      renderer.losesFrame place (rounds first) resetDevice = false ∧
        (renderer.renders place (rounds first) resetDevice = false →
          renderer.AdmitsRounds place rounds attempts (first + 1) true) := by
  have shift (round : Nat) : first + 1 + round = first + (round + 1) := by omega
  unfold AdmitsRounds
  rw [Nat.forall_lt_succ_left]
  refine and_congr (by simp) ?_
  constructor
  · intro later dark round bound earlier
    have admitted := later round bound (Nat.forall_lt_succ_left.mpr ⟨by simpa using dark, ?_⟩)
    · simpa [shift] using admitted
    · simpa [shift] using earlier
  · intro later round bound earlier
    obtain ⟨dark, earlier⟩ := Nat.forall_lt_succ_left.mp earlier
    have admitted := later (by simpa using dark) round bound (by simpa [shift] using earlier)
    simpa [shift] using admitted

theorem redrawRounds_empty {place : WindowPlace} {rounds : Nat → RoundCalls}
    {renderer : D3DVideoRenderer} (empty : renderer.renderFrame.renderFrame = none)
    (attempts first : Nat) (resetDevice : Bool) :
    (redrawRounds place rounds attempts first resetDevice renderer).2 = renderer := by
  induction attempts generalizing first resetDevice with
  | zero => rfl
  | succ attempts ih =>
      have same := redrawRound_empty empty place (rounds first) resetDevice
      simp only [redrawRounds]
      split_ifs
      · exact same
      · rw [same]
        exact ih (first + 1) true

theorem redrawRounds_held (place : WindowPlace) (rounds : Nat → RoundCalls)
    {renderer : D3DVideoRenderer} {frame : BaseVideoFrame}
    (held : renderer.renderFrame.renderFrame = some frame)
    (attempts first : Nat) (resetDevice : Bool) :
    let after := (redrawRounds place rounds attempts first resetDevice renderer).2
    (renderer.AdmitsRounds place rounds attempts first resetDevice →
        renderer.KeepsFrame after) ∧
      (¬ renderer.AdmitsRounds place rounds attempts first resetDevice →
        renderer.LosesFrame after (-1)) := by
  induction attempts generalizing first resetDevice renderer frame with
  | zero => exact ⟨fun _ => .refl held, fun refused => absurd (fun _ bound => by omega) refused⟩
  | succ attempts ih =>
      simp only [redrawRounds, admitsRounds_succ]
      cases loses : renderer.losesFrame place (rounds first) resetDevice with
      | true =>
          refine ⟨fun admitted => absurd admitted.1 (by decide), fun _ => ?_⟩
          have lost := redrawRound_lost held loses
          split_ifs
          · exact lost
          · rw [redrawRounds_empty lost.frame]
            exact lost
      | false =>
          obtain ⟨kept, shown⟩ := redrawRound_kept held loses
          rw [shown]
          cases presents : renderer.renders place (rounds first) resetDevice with
          | true =>
              simp only [if_true]
              exact ⟨fun _ => kept,
                fun refused => absurd ⟨trivial, fun dark => by cases dark⟩ refused⟩
          | false =>
              simp only [Bool.false_eq_true, if_false, true_and, true_imp_iff]
              obtain ⟨next, after⟩ := kept.held
              obtain ⟨admitted, refused⟩ := ih after (first + 1) true
              have same : AdmitsRounds place rounds attempts (first + 1) true
                  (renderer.redrawRound place (rounds first) resetDevice).2 ↔
                    AdmitsRounds place rounds attempts (first + 1) true renderer := by
                simp only [AdmitsRounds, Bool.true_or, (kept.retry place _).1,
                  (kept.retry place _).2]
              rw [same] at admitted refused
              refine ⟨fun rest => kept.trans (admitted rest), fun rest => ?_⟩
              obtain ⟨lost, depth⟩ := refused rest
              obtain ⟨_, unchanged⟩ := kept.frame
              exact ⟨lost, by rw [depth, unchanged]⟩

def LockKept (renderer : D3DVideoRenderer) : Prop := renderer.renderFrame.depth = 0

def rendersWithGDI (renderer : D3DVideoRenderer) : Bool :=
  decide (200 < renderer.d3dFailureCount) || renderer.gdiFallbackMode

def guard (renderer : D3DVideoRenderer) : D3DOperation → Prop
  | .updateOffScreenSurface _ => renderer.renderFrame.renderFrame ≠ none
  | .drawIntoDC => ∀ frame, renderer.renderFrame.renderFrame = some frame → frame.type = .argb
  | .redraw place rounds => renderer.rendersWithGDI = false →
      renderer.renderFrame.renderFrame ≠ none →
        renderer.AdmitsRounds place rounds (maxDeviceResetAttempts + 1) 0
          (place.monitor != renderer.deviceMonitor)
  | .deliverFrame .. | .renderBlackness _ => True

theorem drawIntoDC_drawn {renderer : D3DVideoRenderer}
    (drawn : ∀ frame, renderer.renderFrame.renderFrame = some frame → frame.type = .argb) :
    renderer.drawIntoDC = renderer := by
  cases received : renderer.renderFrame.renderFrame with
  | none => simp [drawIntoDC, lockBuffer_of_none received]
  | some frame =>
      have argb := drawn frame received
      cases frame with
      | rgb width height => simp [drawIntoDC, lockBuffer_of_some received]
      | i420 width height strideY strideU strideV => cases argb

/-- An I420 frame is locked, is not drawn, and stays locked. -/
theorem drawIntoDC_locked {renderer : D3DVideoRenderer} {frame : BaseVideoFrame}
    (received : renderer.renderFrame.renderFrame = some frame) (i420 : frame.type ≠ .argb) :
    renderer.drawIntoDC = renderer.locked := by
  cases frame with
  | rgb width height => exact absurd rfl i420
  | i420 width height strideY strideU strideV =>
      simp [drawIntoDC, lockBuffer_of_some received, locked]

theorem redraw_gdi {renderer : D3DVideoRenderer} (balanced : renderer.renderFrame.Balanced)
    (gdi : renderer.rendersWithGDI = true) (place : WindowPlace) (rounds : Nat → RoundCalls) :
    (renderer.redraw place rounds).renderFrame.Balanced := by
  unfold rendersWithGDI at gdi
  simp only [redraw, gdi, Bool.not_true, Bool.false_eq_true, if_false]
  split_ifs with i420
  · rw [drawIntoDC_drawn fun _ held => by cases held]
    exact reset_balanced balanced .argb
  · rw [drawIntoDC_drawn fun frame held => ?_]
    · exact balanced
    · have same := balanced.typed frame held
      cases frame with
      | i420 => exact absurd same.symm i420
      | rgb => rfl

theorem redraw_d3d {renderer : D3DVideoRenderer} (d3d : renderer.rendersWithGDI = false)
    (place : WindowPlace) (rounds : Nat → RoundCalls) :
    (renderer.redraw place rounds).renderFrame =
      (redrawRounds place rounds (maxDeviceResetAttempts + 1) 0
        (place.monitor != renderer.deviceMonitor) renderer).2.renderFrame := by
  unfold rendersWithGDI at d3d
  simp only [redraw, d3d, Bool.not_false, if_true]
  split_ifs <;> rfl

theorem redraw_spec {renderer : D3DVideoRenderer} (balanced : renderer.renderFrame.Balanced)
    (place : WindowPlace) (rounds : Nat → RoundCalls) :
    (renderer.guard (.redraw place rounds) →
        (renderer.redraw place rounds).renderFrame.Balanced) ∧
      (¬ renderer.guard (.redraw place rounds) →
        ¬ (renderer.redraw place rounds).LockKept) := by
  unfold guard LockKept
  cases gdi : renderer.rendersWithGDI with
  | true =>
      exact ⟨fun _ => redraw_gdi balanced gdi place rounds,
        fun refused => absurd (fun d3d => by cases d3d) refused⟩
  | false =>
      rw [redraw_d3d gdi]
      cases received : renderer.renderFrame.renderFrame with
      | none =>
          rw [redrawRounds_empty received]
          exact ⟨fun _ => balanced, fun refused => absurd (fun _ held => absurd rfl held) refused⟩
      | some frame =>
          obtain ⟨kept, lost⟩ := redrawRounds_held place rounds received
            (maxDeviceResetAttempts + 1) 0 (place.monitor != renderer.deviceMonitor)
          simp only [true_imp_iff, ne_eq, reduceCtorEq, not_false_eq_true]
          constructor
          · intro admitted
            obtain ⟨⟨after, same⟩, typed, _, _⟩ := kept admitted
            exact ⟨by rw [same]; exact balanced.depth, typed balanced.typed⟩
          · intro refused unchanged
            have depth := (lost refused).depth
            rw [unchanged, balanced.depth] at depth
            omega

theorem step_invariant {renderer next : D3DVideoRenderer} {operation : D3DOperation}
    (balanced : renderer.renderFrame.Balanced) (guarded : renderer.guard operation)
    (taken : renderer.step operation = some next) : next.renderFrame.Balanced := by
  cases operation with
  | deliverFrame allocated videoFrame =>
      simp only [step, deliverFrame, Option.map_eq_some_iff] at taken
      obtain ⟨buffer, copied, rfl⟩ := taken
      exact (balanced.copyFrame copied).1
  | renderBlackness black =>
      cases taken
      exact balanced
  | updateOffScreenSurface pitch =>
      cases taken
      obtain ⟨frame, held⟩ := Option.ne_none_iff_exists'.mp guarded
      rw [updateOffScreenSurface_held held]
      exact balanced
  | redraw place rounds =>
      cases taken
      exact (redraw_spec balanced place rounds).1 guarded
  | drawIntoDC =>
      cases taken
      rw [drawIntoDC_drawn guarded]
      exact balanced

theorem step_exact {renderer : D3DVideoRenderer} {operation : D3DOperation}
    (balanced : renderer.renderFrame.Balanced) (refused : ¬ renderer.guard operation) :
    ∃ next, renderer.step operation = some next ∧ ¬ next.LockKept := by
  have depth := balanced.depth
  cases operation with
  | deliverFrame allocated videoFrame => exact absurd trivial refused
  | renderBlackness black => exact absurd trivial refused
  | updateOffScreenSurface pitch =>
      refine ⟨_, rfl, ?_⟩
      rw [LockKept, updateOffScreenSurface_empty (not_not.mp refused)]
      simp [leave, depth]
  | redraw place rounds => exact ⟨_, rfl, (redraw_spec balanced place rounds).2 refused⟩
  | drawIntoDC =>
      simp only [guard, not_forall] at refused
      obtain ⟨frame, held, i420⟩ := refused
      refine ⟨_, rfl, ?_⟩
      rw [LockKept, drawIntoDC_locked held i420]
      simp [locked, enter, depth]

theorem init_balanced {calls : InitCalls} {isHwColorConvEnabled allowGDIFallback forceGDI : Bool}
    {place : WindowPlace} {renderer : D3DVideoRenderer}
    (inited : init calls isHwColorConvEnabled allowGDIFallback forceGDI place = some renderer) :
    renderer.renderFrame.Balanced := by
  have same := (resetDevice_frame calls.createDevice place.forInit create).1
  unfold init at inited
  simp only at inited
  split_ifs at inited
  all_goals
    rw [← Option.some.inj inited]
    first
    | exact create_balanced _
    | exact same.symm ▸ create_balanced .argb

end D3DVideoRenderer

end FiberApp.Render
