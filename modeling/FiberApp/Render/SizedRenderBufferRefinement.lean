import FiberApp.Render.SizedRenderBufferProperties

/-! The render buffer with the memory of its frames does what the one without it does. -/

set_option autoImplicit false

namespace FiberApp.Render.Sized

def I420VideoFrame.plain (frame : I420VideoFrame) : BaseVideoFrame :=
  .i420 frame.width frame.height frame.yPlane.stride frame.uPlane.stride frame.vPlane.stride

def RGBVideoFrame.plain (frame : RGBVideoFrame) : BaseVideoFrame := .rgb frame.width frame.height

def VideoFrame.plain : VideoFrame → BaseVideoFrame
  | .i420 frame => frame.plain
  | .rgb frame => frame.plain

@[simp] theorem VideoFrame.plain_width (frame : VideoFrame) : frame.plain.width = frame.width := by
  cases frame <;> rfl

@[simp] theorem VideoFrame.plain_height (frame : VideoFrame) :
    frame.plain.height = frame.height := by
  cases frame <;> rfl

theorem RGBVideoFrame.createEmptyFrame_plain (width height : Int) :
    (createEmptyFrame width height .argb).map RGBVideoFrame.plain id =
      BaseVideoFrame.createEmptyRGB width height := by
  unfold createEmptyFrame BaseVideoFrame.createEmptyRGB
  split <;> rfl

/-- Planes whose sizes fit keep the strides they are created with. -/
theorem I420VideoFrame.createEmptyFrame_plain (allocations : Allocations)
    {width height strideY strideU strideV : Int}
    (fits : Layout width height strideY strideU strideV →
      PlanesFit height strideY strideU strideV) :
    (createEmptyFrame allocations width height strideY strideU strideV).map I420VideoFrame.plain
      id = BaseVideoFrame.createEmptyI420 width height strideY strideU strideV := by
  unfold createEmptyFrame BaseVideoFrame.createEmptyI420
  split
  case isFalse => rfl
  case isTrue checked =>
    have layout := (checkI420Dimensions_iff ..).mp checked
    have wide := layout.width_pos
    have high := layout.height_pos
    have halfWidth : 1 ≤ (width + 1) / 2 := by omega
    have halfHeight : 1 ≤ (height + 1) / 2 := by omega
    have half : (height + 1).tdiv 2 = (height + 1) / 2 :=
      Int.tdiv_eq_ediv_of_nonneg (by omega)
    simp only [half, Prod.map_apply, id_eq, plain]
    rw [createEmptyPlane_of_fits allocations.yPlane (wide.trans layout.strideY_ge) high
        (fits layout).y,
      createEmptyPlane_of_fits allocations.uPlane (halfWidth.trans layout.strideU_ge) halfHeight
        (fits layout).u,
      createEmptyPlane_of_fits allocations.vPlane (halfWidth.trans layout.strideV_ge) halfHeight
        (fits layout).v]

namespace WinBjnRenderBuffer

/-- The buffer without the memory of its frame. -/
def plain (depth : Int) (buffer : WinBjnRenderBuffer) : Render.WinBjnRenderBuffer where
  renderFrame := buffer.renderFrame.map VideoFrame.plain
  width := buffer.width
  height := buffer.height
  frameType := buffer.frameType
  depth := depth

theorem reset_plain (buffer : WinBjnRenderBuffer) (type : RawVideoType) (depth : Int) :
    (buffer.reset type).plain depth = (buffer.plain depth).reset type := rfl

theorem createRGB_plain (allocations : Allocations) (videoFrame : VideoFrame)
    {buffer : WinBjnRenderBuffer} (type : buffer.frameType = .argb) (depth : Int) :
    some ((buffer.createRGB allocations videoFrame.width videoFrame.height).plain depth) =
      (buffer.plain depth).createCopy allocations.frame videoFrame.plain := by
  unfold createRGB Render.WinBjnRenderBuffer.createCopy
  cases allocations.frame with
  | false => rfl
  | true =>
      have created := RGBVideoFrame.createEmptyFrame_plain videoFrame.width videoFrame.height
      cases made : RGBVideoFrame.createEmptyFrame videoFrame.width videoFrame.height .argb with
      | mk frame result =>
          rw [made] at created
          simp only [plain, type, VideoFrame.plain_width, VideoFrame.plain_height, ← created,
            Prod.map_apply, id_eq, Bool.not_true, Bool.false_eq_true, if_false, if_true]
          cases result <;> simp [VideoFrame.plain]

theorem createI420_plain (allocations : Allocations) {videoFrame : I420VideoFrame}
    (valid : videoFrame.Valid) {buffer : WinBjnRenderBuffer} (type : buffer.frameType = .i420)
    (depth : Int) :
    some ((buffer.createI420 allocations videoFrame).plain depth) =
      (buffer.plain depth).createCopy true videoFrame.plain := by
  have fits : Layout videoFrame.width videoFrame.height videoFrame.yPlane.stride
      videoFrame.uPlane.stride videoFrame.vPlane.stride →
      PlanesFit videoFrame.height videoFrame.yPlane.stride videoFrame.uPlane.stride
        videoFrame.vPlane.stride := by
    intro layout
    cases valid with
    | inl new =>
        rw [new] at layout
        exact absurd layout.width_pos (by decide)
    | inr checked => exact checked.2
  have created := I420VideoFrame.createEmptyFrame_plain allocations fits
  unfold createI420 Render.WinBjnRenderBuffer.createCopy
  cases made : I420VideoFrame.createEmptyFrame allocations videoFrame.width videoFrame.height
      videoFrame.yPlane.stride videoFrame.uPlane.stride videoFrame.vPlane.stride with
  | mk frame result =>
      rw [made] at created
      simp only [plain, type, I420VideoFrame.plain, ← created, Prod.map_apply, id_eq,
        Bool.not_true, Bool.false_eq_true, if_false]
      cases result <;> simp [VideoFrame.plain, I420VideoFrame.plain]

/-- What `CopyFrame` does to the buffer does not depend on the memory of its frames. -/
theorem resize_plain (allocations : Allocations) {videoFrame : VideoFrame}
    (valid : videoFrame.Valid) (buffer : WinBjnRenderBuffer) (depth : Int) :
    (buffer.resize allocations videoFrame).map (plain depth) =
      (buffer.plain depth).copyFrame allocations.frame videoFrame.plain := by
  unfold resize Render.WinBjnRenderBuffer.copyFrame
  rw [VideoFrame.plain_width, VideoFrame.plain_height]
  by_cases differs : videoFrame.width ≠ buffer.width ∨ videoFrame.height ≠ buffer.height
  · have plainDiffers : videoFrame.width ≠ (buffer.plain depth).width ∨
        videoFrame.height ≠ (buffer.plain depth).height := differs
    rw [if_pos differs, if_pos plainDiffers]
    obtain ⟨renderFrame, width, height, type, header⟩ := buffer
    cases type with
    | argb =>
        exact @createRGB_plain allocations videoFrame ⟨none, width, height, .argb, header⟩ rfl depth
    | i420 =>
        cases made : allocations.frame with
        | false => rfl
        | true =>
            cases videoFrame with
            | i420 frame => exact createI420_plain allocations valid rfl depth
            | rgb frame => rfl
    | _ => cases allocations.frame <;> rfl
  · have plainSame : ¬ (videoFrame.width ≠ (buffer.plain depth).width ∨
        videoFrame.height ≠ (buffer.plain depth).height) := differs
    rw [if_neg differs, if_neg plainSame]
    rfl

theorem copyFrame_plain {libyuv : Libyuv} {allocations : Allocations} {videoFrame : VideoFrame}
    (valid : videoFrame.Valid) {buffer next : WinBjnRenderBuffer} {writes : List Write}
    (copied : buffer.copyFrame libyuv allocations videoFrame = some (writes, next))
    (depth : Int) :
    (buffer.plain depth).copyFrame allocations.frame videoFrame.plain =
      some (next.plain depth) := by
  rw [← resize_plain allocations valid buffer depth]
  unfold copyFrame at copied
  cases resized : buffer.resize allocations videoFrame with
  | none =>
      rw [resized] at copied
      cases copied
  | some reached =>
      cases filled : reached.fill libyuv videoFrame with
      | none => simp [resized, filled] at copied
      | some copies =>
          simp only [resized, filled, Option.some.injEq, Prod.mk.injEq] at copied
          rw [copied.2, Option.map_some]

theorem updateStride_plain (allocations : Allocations) (buffer : WinBjnRenderBuffer)
    {dxStride height : Int} (width : Int) (fits : dxStride * height < 2147483648) (depth : Int) :
    (buffer.updateStride allocations dxStride width height).map id (plain depth) =
      (buffer.plain depth).updateStride allocations.frame dxStride width height := by
  have created := I420VideoFrame.createEmptyFrame_plain allocations
    fun layout : Layout width height dxStride (dxStride >>> (1 : Nat)) (dxStride >>> (1 : Nat)) =>
      planesFit_of_halfStride layout fits
  unfold updateStride Render.WinBjnRenderBuffer.updateStride
  simp only [plain, ← created]
  split
  · rfl
  · cases allocations.frame with
    | false => rfl
    | true =>
        cases made : I420VideoFrame.createEmptyFrame allocations width height dxStride
            (dxStride >>> (1 : Nat)) (dxStride >>> (1 : Nat)) with
        | mk frame result => cases result <;> simp [plain, VideoFrame.plain]

end WinBjnRenderBuffer

end FiberApp.Render.Sized
