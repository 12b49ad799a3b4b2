import FiberApp.Render.WinBjnRenderBuffer
import Mathlib.Data.List.Basic

/-! What the operations of the render buffer do to its lock and to the class of its frame. -/

set_option autoImplicit false

namespace FiberApp.Render

def BaseVideoFrame.type : BaseVideoFrame → RawVideoType
  | .i420 .. => .i420
  | .rgb .. => .argb

namespace WinBjnRenderBuffer

/-- The frame has the class of the buffer's type. -/
def Typed (buffer : WinBjnRenderBuffer) : Prop :=
  ∀ frame, buffer.renderFrame = some frame → frame.type = buffer.frameType

structure Balanced (buffer : WinBjnRenderBuffer) : Prop where
  depth : buffer.depth = 0
  typed : buffer.Typed

theorem create_balanced (type : RawVideoType) : (create type).Balanced :=
  ⟨rfl, fun _ held => by cases held⟩

theorem reset_balanced {buffer : WinBjnRenderBuffer} (balanced : buffer.Balanced)
    (type : RawVideoType) : (buffer.reset type).Balanced :=
  ⟨balanced.depth, fun _ held => by cases held⟩

theorem lockBuffer_of_some {buffer : WinBjnRenderBuffer} {frame : BaseVideoFrame}
    (held : buffer.renderFrame = some frame) : buffer.lockBuffer = (some frame, buffer.enter) := by
  simp [lockBuffer, enter, held]

/-- Without a frame the lock is left at once. -/
theorem lockBuffer_of_none {buffer : WinBjnRenderBuffer} (empty : buffer.renderFrame = none) :
    buffer.lockBuffer = (none, buffer) := by
  obtain ⟨frame, width, height, type, depth⟩ := buffer
  cases empty
  simp [lockBuffer, enter, leave]

@[simp] theorem unlockBuffer_enter (buffer : WinBjnRenderBuffer) :
    buffer.enter.unlockBuffer = buffer := by
  simp [enter, unlockBuffer, leave]

theorem createEmptyI420_type (width height strideY strideU strideV : Int) :
    (BaseVideoFrame.createEmptyI420 width height strideY strideU strideV).1.type = .i420 := by
  unfold BaseVideoFrame.createEmptyI420
  split_ifs <;> rfl

theorem createEmptyRGB_type (width height : Int) :
    (BaseVideoFrame.createEmptyRGB width height).1.type = .argb := by
  unfold BaseVideoFrame.createEmptyRGB
  split_ifs <;> rfl

theorem Typed.updateStride {buffer : WinBjnRenderBuffer} (typed : buffer.Typed)
    (allocated : Bool) (dxStride width height : Int) :
    (buffer.updateStride allocated dxStride width height).2.Typed := by
  have created := createEmptyI420_type width height dxStride (dxStride >>> (1 : Nat))
    (dxStride >>> (1 : Nat))
  unfold WinBjnRenderBuffer.updateStride
  simp only
  split_ifs with unsuited
  · exact typed
  · rw [not_or, not_not] at unsuited
    intro frame held
    cases held
    exact created.trans unsuited.1.symm
  all_goals
    intro frame held
    cases held

theorem Balanced.hold {buffer : WinBjnRenderBuffer} (balanced : buffer.Balanced)
    (width height : Int) {frame : BaseVideoFrame} (same : frame.type = buffer.frameType) :
    Balanced { buffer with renderFrame := some frame, width := width, height := height } :=
  ⟨balanced.depth, fun _ held => Option.some.inj held ▸ same⟩

theorem Balanced.createCopy {buffer next : WinBjnRenderBuffer} (balanced : buffer.Balanced)
    {allocated : Bool} {videoFrame : BaseVideoFrame}
    (copied : buffer.createCopy allocated videoFrame = some next) :
    next.Balanced ∧ next.frameType = buffer.frameType := by
  unfold WinBjnRenderBuffer.createCopy at copied
  cases allocated with
  | false =>
      cases copied
      exact ⟨⟨balanced.depth, fun _ held => by cases held⟩, rfl⟩
  | true =>
      simp only [Bool.not_true, Bool.false_eq_true, if_false] at copied
      cases type : buffer.frameType with
      | argb =>
          have same := (createEmptyRGB_type videoFrame.width videoFrame.height).trans type.symm
          simp only [type] at copied
          split_ifs at copied
          all_goals
            cases copied
            exact ⟨type ▸ balanced.hold _ _ same, rfl⟩
      | i420 =>
          cases videoFrame with
          | i420 width height strideY strideU strideV =>
              have same := (createEmptyI420_type width height strideY strideU strideV).trans
                type.symm
              simp only [type] at copied
              split_ifs at copied
              all_goals
                cases copied
                exact ⟨type ▸ balanced.hold _ _ same, rfl⟩
          | rgb width height =>
              simp only [type] at copied
              cases copied
      | _ =>
          simp only [type] at copied
          cases copied
          exact ⟨⟨balanced.depth, fun _ held => by cases held⟩, rfl⟩

theorem Balanced.copyFrame {buffer next : WinBjnRenderBuffer} (balanced : buffer.Balanced)
    {allocated : Bool} {videoFrame : BaseVideoFrame}
    (copied : buffer.copyFrame allocated videoFrame = some next) :
    next.Balanced ∧ next.frameType = buffer.frameType := by
  unfold WinBjnRenderBuffer.copyFrame at copied
  split_ifs at copied
  · exact balanced.createCopy copied
  · cases copied
    exact ⟨balanced, rfl⟩

end WinBjnRenderBuffer

end FiberApp.Render
