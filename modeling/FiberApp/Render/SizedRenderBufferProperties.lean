import FiberApp.Foundation.Execution
import FiberApp.Render.SizedRenderBuffer
import Mathlib.Algebra.Order.Ring.Int

/-! What the render buffer holds and how far the copies into it write. A frame is only
replaced when the size changes, and one that could not be created is stored like any other. -/

set_option autoImplicit false

namespace FiberApp.Render.Sized

open Foundation

/-- What `CheckDimensions` of an `I420VideoFrame` lets through. -/
structure Layout (width height strideY strideU strideV : Int) : Prop where
  width_pos : 1 ≤ width
  height_pos : 1 ≤ height
  strideY_ge : width ≤ strideY
  strideU_ge : (width + 1) / 2 ≤ strideU
  strideV_ge : (width + 1) / 2 ≤ strideV

theorem checkI420Dimensions_iff (width height strideY strideU strideV : Int) :
    BaseVideoFrame.checkI420Dimensions width height strideY strideU strideV = true ↔
      Layout width height strideY strideU strideV := by
  simp only [BaseVideoFrame.checkI420Dimensions, Bool.not_eq_true', Bool.or_eq_false_iff,
    decide_eq_false_iff_not, Int.not_lt]
  constructor
  · intro checked
    obtain ⟨⟨⟨⟨wide, high⟩, y⟩, u⟩, v⟩ := checked
    rw [Int.tdiv_eq_ediv_of_nonneg (by omega)] at u v
    exact ⟨wide, high, y, u, v⟩
  · intro layout
    rw [Int.tdiv_eq_ediv_of_nonneg (by have := layout.width_pos; omega)]
    exact ⟨⟨⟨⟨layout.width_pos, layout.height_pos⟩, layout.strideY_ge⟩, layout.strideU_ge⟩,
      layout.strideV_ge⟩

/-- The sizes of the planes can be computed in `int`. -/
structure PlanesFit (height strideY strideU strideV : Int) : Prop where
  y : strideY * height < 2147483648
  u : strideU * ((height + 1) / 2) < 2147483648
  v : strideV * ((height + 1) / 2) < 2147483648

/-- Half strides do not need more than the stride itself. -/
theorem planesFit_of_halfStride {width height dxStride : Int}
    (layout : Layout width height dxStride (dxStride >>> (1 : Nat)) (dxStride >>> (1 : Nat)))
    (fits : dxStride * height < 2147483648) :
    PlanesFit height dxStride (dxStride >>> (1 : Nat)) (dxStride >>> (1 : Nat)) := by
  have wide := layout.width_pos
  have high := layout.height_pos
  have long := layout.strideY_ge
  have half : dxStride >>> (1 : Nat) * ((height + 1) / 2) ≤ dxStride * height := by
    rw [Int.shiftRight_eq_div_pow]
    apply mul_le_mul
    · omega
    · omega
    · omega
    · omega
  exact ⟨fits, half.trans_lt fits, half.trans_lt fits⟩

/-- The plane has its rows in memory, or no memory. -/
structure Plane.Whole (plane : Plane) (rows length : Int) : Prop where
  length_pos : 1 ≤ length
  length_le : length ≤ plane.stride
  allocatedSize : plane.allocatedSize = plane.stride * rows

theorem createEmptyPlane_of_fits {stride rows : Int} (malloc : Bool) (long : 1 ≤ stride)
    (many : 1 ≤ rows) (fits : stride * rows < 2147483648) :
    Plane.createEmptyPlane malloc (toInt (stride * rows)) stride =
      ⟨malloc, stride * rows, stride⟩ := by
  have positive : 1 ≤ stride * rows := one_le_mul_of_one_le_of_one_le long many
  have exact_size : toInt (stride * rows) = stride * rows :=
    Int.bmod_eq_of_le (by omega) (by omega)
  rw [exact_size, Plane.createEmptyPlane, if_neg (by omega)]

theorem createEmptyPlane_whole {stride rows length : Int} (malloc : Bool) (filled : 1 ≤ length)
    (long : length ≤ stride) (many : 1 ≤ rows) (fits : stride * rows < 2147483648) :
    (Plane.createEmptyPlane malloc (toInt (stride * rows)) stride).Whole rows length := by
  rw [createEmptyPlane_of_fits malloc (filled.trans long) many fits]
  exact ⟨filled, long, rfl⟩

/-- The rows of a plane end before its memory does. -/
theorem Plane.Whole.rows_le {plane : Plane} {rows length : Int} (whole : plane.Whole rows length)
    (buffer : plane.buffer = true) : plane.stride * (rows - 1) + length ≤ plane.room := by
  rw [Plane.room, if_pos buffer, whole.allocatedSize, mul_sub, mul_one]
  have := whole.length_le
  omega

theorem Plane.Whole.room_nonneg {plane : Plane} {rows length : Int}
    (whole : plane.Whole rows length) (many : 1 ≤ rows) : 0 ≤ plane.room := by
  unfold Plane.room
  split
  · rw [whole.allocatedSize]
    have stride := whole.length_pos.trans whole.length_le
    exact mul_nonneg (by omega) (by omega)
  · exact le_rfl

namespace I420VideoFrame

/-- Every plane of the frame has the size that its stride and the height ask for. -/
structure Whole (frame : I420VideoFrame) : Prop where
  width_pos : 1 ≤ frame.width
  height_pos : 1 ≤ frame.height
  y : frame.yPlane.Whole frame.height frame.width
  u : frame.uPlane.Whole ((frame.height + 1) / 2) ((frame.width + 1) / 2)
  v : frame.vPlane.Whole ((frame.height + 1) / 2) ((frame.width + 1) / 2)

theorem createEmptyFrame_of_layout (allocations : Allocations)
    {width height strideY strideU strideV : Int}
    (layout : Layout width height strideY strideU strideV)
    (fits : PlanesFit height strideY strideU strideV) :
    ∃ frame, createEmptyFrame allocations width height strideY strideU strideV = (frame, true) ∧
      frame.Whole ∧ frame.width = width ∧ frame.height = height := by
  have wide := layout.width_pos
  have high := layout.height_pos
  have halfWidth : 1 ≤ (width + 1) / 2 := by omega
  have halfHeight : 1 ≤ (height + 1) / 2 := by omega
  refine ⟨_, if_pos ((checkI420Dimensions_iff ..).mpr layout), ⟨wide, high, ?_, ?_, ?_⟩, rfl, rfl⟩
  · exact createEmptyPlane_whole allocations.yPlane wide layout.strideY_ge high fits.y
  · show Plane.Whole (.createEmptyPlane _ (toInt (_ * (height + 1).tdiv 2)) _) _ _
    rw [Int.tdiv_eq_ediv_of_nonneg (by omega)]
    exact createEmptyPlane_whole allocations.uPlane halfWidth layout.strideU_ge halfHeight
      fits.u
  · show Plane.Whole (.createEmptyPlane _ (toInt (_ * (height + 1).tdiv 2)) _) _ _
    rw [Int.tdiv_eq_ediv_of_nonneg (by omega)]
    exact createEmptyPlane_whole allocations.vPlane halfWidth layout.strideV_ge halfHeight
      fits.v

theorem createEmptyFrame_of_not_layout (allocations : Allocations)
    {width height strideY strideU strideV : Int}
    (unchecked : ¬ Layout width height strideY strideU strideV) :
    createEmptyFrame allocations width height strideY strideU strideV = (new, false) :=
  if_neg (mt (checkI420Dimensions_iff ..).mp unchecked)

end I420VideoFrame

/-- How far the functions of `libyuv` write: nowhere if a pointer is null, and otherwise to
the end of the last row. A stride of zero stands for rows without gaps. -/
structure Libyuv.Documented (libyuv : Libyuv) : Prop where
  copy_null : ∀ src dst strideY strideU strideV width height, (src && dst) = false →
    libyuv.i420Copy src dst strideY strideU strideV width height = ⟨0, 0, 0⟩
  copy_rows : ∀ strideY strideU strideV width height,
    Layout width height strideY strideU strideV →
      (libyuv.i420Copy true true strideY strideU strideV width height).y ≤
          strideY * (height - 1) + width ∧
        (libyuv.i420Copy true true strideY strideU strideV width height).u ≤
          strideU * ((height + 1) / 2 - 1) + (width + 1) / 2 ∧
        (libyuv.i420Copy true true strideY strideU strideV width height).v ≤
          strideV * ((height + 1) / 2 - 1) + (width + 1) / 2
  convert_rows : ∀ src dst width height, 1 ≤ width → 1 ≤ height →
    libyuv.convertFromI420 src dst 0 width height ≤ width * 4 * height

def Write.InBounds (write : Write) : Prop := write.length ≤ write.room

theorem Libyuv.Documented.copyI420_inBounds {libyuv : Libyuv} (documented : libyuv.Documented)
    (src : I420VideoFrame) {dst : I420VideoFrame} (whole : dst.Whole) :
    ∀ write ∈ libyuv.copyI420 src dst, write.InBounds := by
  unfold copyI420
  split
  case isTrue => exact List.forall_mem_nil _
  case isFalse same =>
    rw [not_or, not_not, not_not] at same
    obtain ⟨sameWidth, sameHeight⟩ := same
    have rows : 1 ≤ (dst.height + 1) / 2 := by
      have := whole.height_pos
      omega
    rw [sameWidth, sameHeight]
    simp only [List.forall_mem_cons, Write.InBounds]
    cases buffers : src.buffers && dst.buffers with
    | false =>
        rw [documented.copy_null _ _ _ _ _ _ _ buffers]
        exact ⟨whole.y.room_nonneg whole.height_pos, whole.u.room_nonneg rows,
          whole.v.room_nonneg rows, List.forall_mem_nil _⟩
    | true =>
        obtain ⟨source, destination⟩ := Bool.and_eq_true_iff.mp buffers
        rw [source, destination]
        simp only [I420VideoFrame.buffers, Bool.and_eq_true] at destination
        obtain ⟨⟨bufferY, bufferU⟩, bufferV⟩ := destination
        have layout : Layout dst.width dst.height dst.yPlane.stride dst.uPlane.stride
            dst.vPlane.stride :=
          ⟨whole.width_pos, whole.height_pos, whole.y.length_le, whole.u.length_le,
            whole.v.length_le⟩
        obtain ⟨y, u, v⟩ := documented.copy_rows _ _ _ _ _ layout
        exact ⟨y.trans (whole.y.rows_le bufferY), u.trans (whole.u.rows_le bufferU),
          v.trans (whole.v.rows_le bufferV), List.forall_mem_nil _⟩

/-- The buffer of the frame has the size of its ARGB pixels. -/
structure RGBVideoFrame.Whole (frame : RGBVideoFrame) : Prop where
  width_pos : 1 ≤ frame.width
  height_pos : 1 ≤ frame.height
  prevSize : frame.prevSize = frame.width * frame.height * 4

theorem RGBVideoFrame.createEmptyFrame_of_fits {width height : Int} (wide : 1 ≤ width)
    (high : 1 ≤ height) (fits : width * height * 4 < 4294967296) :
    ∃ frame, createEmptyFrame width height .argb = (frame, true) ∧ frame.Whole ∧
      frame.width = width ∧ frame.height = height := by
  have positive : 1 ≤ width * height := one_le_mul_of_one_le_of_one_le wide high
  refine ⟨⟨width, height, .argb, toUInt32 (width * height * 4)⟩, ?_, ⟨wide, high, ?_⟩, rfl, rfl⟩
  · rw [createEmptyFrame, if_neg (by omega), if_pos (.inr rfl)]
    rfl
  · exact Int.emod_eq_of_lt (by show 0 ≤ width * height * 4; omega) fits

theorem RGBVideoFrame.createEmptyFrame_of_empty {width : Int} (empty : width = 0) (height : Int)
    (type : RawVideoType) : createEmptyFrame width height type = (new, false) :=
  if_pos (.inl (by rw [empty]; decide))

theorem Libyuv.Documented.convertInto_inBounds {libyuv : Libyuv}
    (documented : libyuv.Documented) {src : I420VideoFrame} {dst : RGBVideoFrame}
    (whole : dst.Whole) (sameWidth : src.width = dst.width)
    (sameHeight : src.height = dst.height) : (libyuv.convertInto src dst).InBounds := by
  show libyuv.convertFromI420 _ _ 0 src.width src.height ≤ dst.prevSize
  rw [sameWidth, sameHeight, whole.prevSize, mul_right_comm]
  exact documented.convert_rows _ _ _ _ whole.width_pos whole.height_pos

/-- A new frame, or one that its checks let through and whose planes could be allocated. -/
def I420VideoFrame.Valid (frame : I420VideoFrame) : Prop :=
  frame = new ∨
    Layout frame.width frame.height frame.yPlane.stride frame.uPlane.stride frame.vPlane.stride ∧
      PlanesFit frame.height frame.yPlane.stride frame.uPlane.stride frame.vPlane.stride

def RGBVideoFrame.Valid (frame : RGBVideoFrame) : Prop :=
  (frame.frameType = .rgb24 ∨ frame.frameType = .argb) ∧
    (frame.width = 0 ∧ frame.height = 0 ∨
      1 ≤ frame.width ∧ 1 ≤ frame.height ∧
        frame.width * frame.height * pixelBytes frame.frameType < 2147483648)

def VideoFrame.Valid : VideoFrame → Prop
  | .i420 frame => frame.Valid
  | .rgb frame => frame.Valid

theorem RGBVideoFrame.Valid.isRGBFrame {frame : RGBVideoFrame} (valid : frame.Valid) :
    (VideoFrame.rgb frame).isRGBFrame = true := by
  rw [VideoFrame.isRGBFrame, Bool.or_eq_true, decide_eq_true_iff, decide_eq_true_iff]
  exact valid.1.symm

theorem RGBVideoFrame.Valid.frameSize_le {src dst : RGBVideoFrame} (valid : src.Valid)
    (whole : dst.Whole) (sameWidth : src.width = dst.width)
    (sameHeight : src.height = dst.height) : src.frameSize ≤ dst.prevSize := by
  obtain ⟨type, empty | ⟨wide, high, fits⟩⟩ := valid
  · have := whole.width_pos
    omega
  · have positive : 1 ≤ src.width * src.height := one_le_mul_of_one_le_of_one_le wide high
    rw [whole.prevSize, ← sameWidth, ← sameHeight, frameSize]
    cases type with
    | inl rgb24 =>
        rw [pixelBytes, if_pos rgb24] at fits ⊢
        rw [toUInt32, Int.emod_eq_of_lt (by omega) (by omega)]
        omega
    | inr argb =>
        rw [pixelBytes, if_neg (by rw [argb]; decide)] at fits ⊢
        rw [toUInt32, Int.emod_eq_of_lt (by omega) (by omega)]

/-- A frame has no size at all or a whole one. -/
theorem VideoFrame.Valid.size {videoFrame : VideoFrame} (valid : videoFrame.Valid) :
    videoFrame.width = 0 ∧ videoFrame.height = 0 ∨
      1 ≤ videoFrame.width ∧ 1 ≤ videoFrame.height := by
  cases videoFrame with
  | i420 frame =>
      cases valid with
      | inl new =>
          rw [new]
          exact .inl ⟨rfl, rfl⟩
      | inr checked => exact .inr ⟨checked.1.width_pos, checked.1.height_pos⟩
  | rgb frame =>
      obtain ⟨-, empty | ⟨wide, high, -⟩⟩ := valid
      · exact .inl empty
      · exact .inr ⟨wide, high⟩

theorem VideoFrame.Valid.size_pos {videoFrame : VideoFrame} (valid : videoFrame.Valid)
    (created : videoFrame.width ≠ 0) : 1 ≤ videoFrame.width ∧ 1 ≤ videoFrame.height :=
  valid.size.resolve_left fun empty => created empty.1

theorem VideoFrame.Valid.height_eq_zero {videoFrame : VideoFrame} (valid : videoFrame.Valid)
    (empty : videoFrame.width = 0) : videoFrame.height = 0 := by
  cases valid.size with
  | inl empty => exact empty.2
  | inr whole => exact absurd whole.1 (by rw [empty]; decide)

def VideoFrame.HasClass (type : RawVideoType) : VideoFrame → Prop
  | .i420 _ => type = .i420
  | .rgb _ => type = .argb

/-- The frame has the class of the type, and is whole. -/
def VideoFrame.Suits (type : RawVideoType) : VideoFrame → Prop
  | .i420 frame => type = .i420 ∧ frame.Whole
  | .rgb frame => type = .argb ∧ frame.Whole

namespace WinBjnRenderBuffer

/-- A frame in the buffer suits its type and has its size. -/
def Sound (buffer : WinBjnRenderBuffer) : Prop :=
  ∀ frame, buffer.renderFrame = some frame →
    frame.Suits buffer.frameType ∧ frame.width = buffer.width ∧ frame.height = buffer.height

theorem sound_of_none {buffer : WinBjnRenderBuffer} (empty : buffer.renderFrame = none) :
    buffer.Sound := by
  intro frame held
  rw [empty] at held
  cases held

/-- A frame of the buffer's own size is copied within bounds. -/
theorem Sound.fill {buffer : WinBjnRenderBuffer} (sound : buffer.Sound) {libyuv : Libyuv}
    (documented : libyuv.Documented) {videoFrame : VideoFrame} (valid : videoFrame.Valid)
    (sameSize : buffer.renderFrame ≠ none →
      videoFrame.width = buffer.width ∧ videoFrame.height = buffer.height) :
    ∃ writes, buffer.fill libyuv videoFrame = some writes ∧ ∀ write ∈ writes, write.InBounds := by
  cases held : buffer.renderFrame with
  | none => exact ⟨[], by rw [WinBjnRenderBuffer.fill, held], List.forall_mem_nil _⟩
  | some renderFrame =>
      obtain ⟨suits, width, height⟩ := sound renderFrame held
      obtain ⟨sameWidth, sameHeight⟩ := sameSize (by rw [held]; exact Option.some_ne_none _)
      rw [← width] at sameWidth
      rw [← height] at sameHeight
      cases renderFrame with
      | rgb dst =>
          obtain ⟨type, whole⟩ := suits
          cases videoFrame with
          | rgb src =>
              refine ⟨[⟨src.frameSize, dst.prevSize⟩], ?_, ?_⟩
              · simp [WinBjnRenderBuffer.fill, held, type, RGBVideoFrame.Valid.isRGBFrame valid]
              · rw [List.forall_mem_singleton]
                exact RGBVideoFrame.Valid.frameSize_le valid whole sameWidth sameHeight
          | i420 src =>
              refine ⟨[libyuv.convertInto src dst], ?_, ?_⟩
              · simp [WinBjnRenderBuffer.fill, held, type, VideoFrame.isRGBFrame,
                  VideoFrame.frameType]
              · rw [List.forall_mem_singleton]
                exact documented.convertInto_inBounds whole sameWidth sameHeight
      | i420 dst =>
          obtain ⟨type, whole⟩ := suits
          cases videoFrame with
          | rgb src =>
              refine ⟨[], ?_, List.forall_mem_nil _⟩
              simp [WinBjnRenderBuffer.fill, held, type, RGBVideoFrame.Valid.isRGBFrame valid]
          | i420 src =>
              refine ⟨libyuv.copyI420 src dst, ?_, documented.copyI420_inBounds src whole⟩
              simp [WinBjnRenderBuffer.fill, held, type, VideoFrame.isRGBFrame,
                VideoFrame.frameType]

/-- A frame of the type can be created for the frame that comes in. -/
def Creatable : RawVideoType → VideoFrame → Prop
  | .argb, videoFrame => videoFrame.width ≠ 0
  | .i420, .i420 videoFrame => videoFrame.width ≠ 0
  | .i420, .rgb _ => False
  | _, _ => True

/-- The ARGB image of the frame has a size in `uint32_t`. -/
def ImageFits (type : RawVideoType) (videoFrame : VideoFrame) : Prop :=
  type = .argb → videoFrame.width * videoFrame.height * 4 < 4294967296

/-- Either the buffer is empty, or its frame is whole and has the size asked for. -/
structure Resized (buffer : WinBjnRenderBuffer) (videoFrame : VideoFrame) : Prop where
  sound : buffer.Sound
  sameSize : buffer.renderFrame ≠ none →
    videoFrame.width = buffer.width ∧ videoFrame.height = buffer.height

theorem resized_of_none {buffer : WinBjnRenderBuffer} (empty : buffer.renderFrame = none)
    (videoFrame : VideoFrame) : buffer.Resized videoFrame :=
  ⟨sound_of_none empty, fun held => absurd empty held⟩

theorem createRGB_resized {allocations : Allocations} {buffer : WinBjnRenderBuffer}
    {videoFrame : VideoFrame} (type : buffer.frameType = .argb) (valid : videoFrame.Valid)
    (fits : ImageFits buffer.frameType videoFrame)
    (creatable : allocations.frame = true → videoFrame.width ≠ 0) :
    (buffer.createRGB allocations videoFrame.width videoFrame.height).Resized videoFrame := by
  unfold createRGB
  split
  case isTrue allocated =>
    obtain ⟨wide, high⟩ := valid.size_pos (creatable allocated)
    obtain ⟨frame, created, whole, frameWidth, frameHeight⟩ :=
      RGBVideoFrame.createEmptyFrame_of_fits wide high (fits type)
    rw [created]
    refine ⟨?_, fun _ => ⟨rfl, rfl⟩⟩
    intro held stored
    cases stored
    exact ⟨⟨type, whole⟩, frameWidth, frameHeight⟩
  case isFalse => exact resized_of_none rfl videoFrame

theorem createI420_resized (allocations : Allocations) {buffer : WinBjnRenderBuffer}
    {videoFrame : I420VideoFrame} (type : buffer.frameType = .i420) (valid : videoFrame.Valid)
    (creatable : videoFrame.width ≠ 0) :
    (buffer.createI420 allocations videoFrame).Resized (.i420 videoFrame) := by
  cases valid with
  | inl new =>
      rw [new] at creatable
      exact absurd rfl creatable
  | inr checked =>
      obtain ⟨frame, created, whole, frameWidth, frameHeight⟩ :=
        I420VideoFrame.createEmptyFrame_of_layout allocations checked.1 checked.2
      unfold createI420
      rw [created]
      refine ⟨?_, fun _ => ⟨rfl, rfl⟩⟩
      intro held stored
      cases stored
      exact ⟨⟨type, whole⟩, frameWidth, frameHeight⟩

theorem resize_of_same {buffer : WinBjnRenderBuffer} {videoFrame : VideoFrame}
    (same : ¬ (videoFrame.width ≠ buffer.width ∨ videoFrame.height ≠ buffer.height))
    (allocations : Allocations) : buffer.resize allocations videoFrame = some buffer :=
  if_neg same

theorem resize_of_other {buffer : WinBjnRenderBuffer} {videoFrame : VideoFrame}
    (differs : videoFrame.width ≠ buffer.width ∨ videoFrame.height ≠ buffer.height)
    (argb : buffer.frameType ≠ .argb) (i420 : buffer.frameType ≠ .i420)
    (allocations : Allocations) :
    buffer.resize allocations videoFrame = some { buffer with renderFrame := none } := by
  rw [resize, if_pos differs]
  cases type : buffer.frameType
  case argb => exact absurd type argb
  case i420 => exact absurd type i420
  all_goals rfl

theorem Sound.resize {buffer : WinBjnRenderBuffer} (sound : buffer.Sound)
    {allocations : Allocations} {videoFrame : VideoFrame} (valid : videoFrame.Valid)
    (fits : ImageFits buffer.frameType videoFrame)
    (creatable : videoFrame.width ≠ buffer.width ∨ videoFrame.height ≠ buffer.height →
      allocations.frame = true → Creatable buffer.frameType videoFrame) :
    ∃ next, buffer.resize allocations videoFrame = some next ∧ next.Resized videoFrame := by
  by_cases differs : videoFrame.width ≠ buffer.width ∨ videoFrame.height ≠ buffer.height
  · have creatable := creatable differs
    by_cases argb : buffer.frameType = .argb
    · have emptied : ({ buffer with renderFrame := none } : WinBjnRenderBuffer).frameType = .argb :=
        argb
      refine ⟨_, ?_, createRGB_resized emptied valid fits (by rwa [argb] at creatable)⟩
      rw [WinBjnRenderBuffer.resize, if_pos differs]
      simp only [argb]
    · by_cases i420 : buffer.frameType = .i420
      · rw [i420] at creatable
        rw [WinBjnRenderBuffer.resize, if_pos differs]
        simp only [i420]
        split
        case isTrue allocated =>
          cases videoFrame with
          | i420 frame => exact ⟨_, rfl, createI420_resized allocations rfl valid
              (creatable allocated)⟩
          | rgb frame => exact (creatable allocated).elim
        case isFalse => exact ⟨_, rfl, resized_of_none rfl videoFrame⟩
      · exact ⟨_, resize_of_other differs argb i420 allocations, resized_of_none rfl videoFrame⟩
  · refine ⟨buffer, resize_of_same differs allocations, sound, fun _ => ?_⟩
    rwa [not_or, not_not, not_not] at differs

theorem Sound.updateStride {buffer : WinBjnRenderBuffer} (sound : buffer.Sound)
    (allocations : Allocations) {dxStride height : Int} (width : Int)
    (fits : buffer.frameType = .i420 → dxStride * height < 2147483648) :
    (buffer.updateStride allocations dxStride width height).2.Sound := by
  unfold WinBjnRenderBuffer.updateStride
  split
  case isTrue => exact sound
  case isFalse unequal =>
    rw [not_or, not_not] at unequal
    dsimp only
    split
    case isFalse => exact sound_of_none rfl
    case isTrue =>
      by_cases layout : Layout width height dxStride (dxStride >>> (1 : Nat))
          (dxStride >>> (1 : Nat))
      · obtain ⟨frame, created, whole, frameWidth, frameHeight⟩ :=
          I420VideoFrame.createEmptyFrame_of_layout allocations layout
            (planesFit_of_halfStride layout (fits unequal.1))
        rw [created]
        intro held stored
        cases stored
        exact ⟨⟨unequal.1, whole⟩, frameWidth, frameHeight⟩
      · rw [I420VideoFrame.createEmptyFrame_of_not_layout allocations layout]
        exact sound_of_none rfl

/-- A frame in the buffer has the class of its type and its size. -/
def Consistent (buffer : WinBjnRenderBuffer) : Prop :=
  ∀ frame, buffer.renderFrame = some frame →
    frame.HasClass buffer.frameType ∧ frame.width = buffer.width ∧ frame.height = buffer.height

theorem Sound.consistent {buffer : WinBjnRenderBuffer} (sound : buffer.Sound) :
    buffer.Consistent := by
  intro frame held
  obtain ⟨suits, size⟩ := sound frame held
  cases frame with
  | i420 => exact ⟨suits.1, size⟩
  | rgb => exact ⟨suits.1, size⟩

/-- A call with the answers of its allocations. -/
inductive Call
  | copyFrame (allocations : Allocations) (videoFrame : { frame : VideoFrame // frame.Valid })
  | reset (type : RawVideoType)
  | updateStride (allocations : Allocations) (dxStride width height : Int)

/-- The copies a call makes and the buffer after it; `none` is an access through a cast that
is null. -/
def perform (libyuv : Libyuv) (buffer : WinBjnRenderBuffer) :
    Call → Option (List Write × WinBjnRenderBuffer)
  | .copyFrame allocations videoFrame => buffer.copyFrame libyuv allocations videoFrame.1
  | .reset type => some ([], buffer.reset type)
  | .updateStride allocations dxStride width height =>
      some ([], (buffer.updateStride allocations dxStride width height).2)

def step (libyuv : Libyuv) (buffer : WinBjnRenderBuffer) (call : Call) :
    Option WinBjnRenderBuffer :=
  match buffer.perform libyuv call with
  | none => none
  | some (_, next) => some next

/-- The call uses no cast that is null, its copies stay inside their memory, and it leaves a
consistent buffer. -/
def Meets (libyuv : Libyuv) (buffer : WinBjnRenderBuffer) (call : Call) : Prop :=
  ∃ writes next, buffer.perform libyuv call = some (writes, next) ∧
    (∀ write ∈ writes, write.InBounds) ∧ next.Consistent

/-- A frame that comes in with a new size, and finds memory for another one, is not empty
and is not an RGB frame for an I420 buffer. -/
def Suited (buffer : WinBjnRenderBuffer) : Call → Prop
  | .copyFrame allocations videoFrame =>
      videoFrame.1.width ≠ buffer.width ∨ videoFrame.1.height ≠ buffer.height →
        allocations.frame = true → Creatable buffer.frameType videoFrame.1
  | _ => True

/-- The sizes that the call computes fit their types. -/
def SizesFit (buffer : WinBjnRenderBuffer) : Call → Prop
  | .copyFrame _ videoFrame => ImageFits buffer.frameType videoFrame.1
  | .reset _ => True
  | .updateStride _ dxStride _ height =>
      buffer.frameType = .i420 → dxStride * height < 2147483648

/-- What a call of a sound buffer does, and that the buffer stays sound. -/
theorem Sound.perform {buffer : WinBjnRenderBuffer} (sound : buffer.Sound) {libyuv : Libyuv}
    (documented : libyuv.Documented) {call : Call} (fits : buffer.SizesFit call)
    (suited : buffer.Suited call) :
    ∃ writes next, buffer.perform libyuv call = some (writes, next) ∧
      (∀ write ∈ writes, write.InBounds) ∧ next.Sound := by
  cases call with
  | copyFrame allocations videoFrame =>
      obtain ⟨next, resized, ready⟩ := sound.resize videoFrame.2 fits suited
      obtain ⟨writes, filled, inBounds⟩ :=
        ready.sound.fill documented videoFrame.2 ready.sameSize
      refine ⟨writes, next, ?_, inBounds, ready.sound⟩
      simp only [WinBjnRenderBuffer.perform, copyFrame, resized, filled]
  | reset type => exact ⟨[], _, rfl, List.forall_mem_nil _, sound_of_none rfl⟩
  | updateStride allocations dxStride width height =>
      exact ⟨[], _, rfl, List.forall_mem_nil _, sound.updateStride allocations width fits⟩

theorem Sound.step {buffer next : WinBjnRenderBuffer} (sound : buffer.Sound) {libyuv : Libyuv}
    (documented : libyuv.Documented) {call : Call} (fits : buffer.SizesFit call)
    (suited : buffer.Suited call) (taken : buffer.step libyuv call = some next) : next.Sound := by
  obtain ⟨writes, reached, performed, -, kept⟩ := sound.perform documented fits suited
  rw [WinBjnRenderBuffer.step, performed] at taken
  cases taken
  exact kept

/-- A frame without a size is stored beside the size that was there before. -/
theorem resize_empty {buffer : WinBjnRenderBuffer} {allocations : Allocations}
    {videoFrame : VideoFrame} (valid : videoFrame.Valid)
    (differs : videoFrame.width ≠ buffer.width ∨ videoFrame.height ≠ buffer.height)
    (allocated : allocations.frame = true)
    (unsuited : ¬ Creatable buffer.frameType videoFrame) {next : WinBjnRenderBuffer}
    (resized : buffer.resize allocations videoFrame = some next) : ¬ next.Consistent := by
  have mismatch : ∀ frame, next.renderFrame = some frame → frame.width = videoFrame.width →
      frame.height = videoFrame.height → next.width = buffer.width →
      next.height = buffer.height → ¬ next.Consistent := by
    intro frame held width height keptWidth keptHeight consistent
    obtain ⟨-, sameWidth, sameHeight⟩ := consistent frame held
    cases differs with
    | inl differs => exact differs (by rw [← width, sameWidth, keptWidth])
    | inr differs => exact differs (by rw [← height, sameHeight, keptHeight])
  rw [resize, if_pos differs] at resized
  cases type : buffer.frameType
  case argb =>
    simp only [type, createRGB, allocated, if_true, Option.some.injEq] at resized
    rw [type, Creatable, not_not] at unsuited
    simp only [RGBVideoFrame.createEmptyFrame_of_empty unsuited, Bool.false_eq_true,
      if_false] at resized
    subst resized
    exact mismatch _ rfl unsuited.symm (valid.height_eq_zero unsuited).symm rfl rfl
  case i420 =>
    simp only [type, allocated, if_true] at resized
    cases videoFrame with
    | rgb frame => cases resized
    | i420 frame =>
        rw [type, Creatable, not_not] at unsuited
        have unchecked : ¬ Layout frame.width frame.height frame.yPlane.stride
            frame.uPlane.stride frame.vPlane.stride := by
          intro layout
          have := layout.width_pos
          omega
        simp only [createI420, I420VideoFrame.createEmptyFrame_of_not_layout allocations unchecked,
          Bool.false_eq_true, if_false, Option.some.injEq] at resized
        subst resized
        exact mismatch _ rfl unsuited.symm (valid.height_eq_zero unsuited).symm rfl rfl
  all_goals exact absurd (by rw [type]; trivial) unsuited

/-- A call that is not suited goes wrong at once. -/
theorem suited_of_meets {buffer : WinBjnRenderBuffer} {libyuv : Libyuv} {call : Call}
    (meets : buffer.Meets libyuv call) : buffer.Suited call := by
  obtain ⟨writes, next, performed, -, consistent⟩ := meets
  cases call with
  | copyFrame allocations videoFrame =>
      intro differs allocated
      by_contra unsuited
      simp only [perform, copyFrame] at performed
      cases resized : buffer.resize allocations videoFrame.1 with
      | none => simp [resized] at performed
      | some reached =>
          cases filled : reached.fill libyuv videoFrame.1 with
          | none => simp [resized, filled] at performed
          | some copies =>
              simp only [resized, filled, Option.some.injEq, Prod.mk.injEq] at performed
              obtain ⟨-, rfl⟩ := performed
              exact resize_empty videoFrame.2 differs allocated unsuited resized consistent
  | reset type => trivial
  | updateStride allocations dxStride width height => trivial

/-- In a run whose calls are suited, and whose sizes fit their types, every call keeps its
promise. And only suited calls do. -/
theorem meets_of_suited {libyuv : Libyuv} (documented : libyuv.Documented)
    (type : RawVideoType) (calls : List Call) :
    (Guarded (step libyuv) (fun buffer call => buffer.Suited call ∧ buffer.SizesFit call)
        (create type) calls →
      Guarded (step libyuv) (Meets libyuv) (create type) calls) ∧
    (Guarded (step libyuv) (Meets libyuv) (create type) calls →
      Guarded (step libyuv) Suited (create type) calls) := by
  constructor
  · apply Guarded.promised Sound
    · intro buffer call sound guarded
      obtain ⟨writes, next, performed, inBounds, kept⟩ :=
        sound.perform documented guarded.2 guarded.1
      exact ⟨writes, next, performed, inBounds, kept.consistent⟩
    · intro buffer call next sound guarded taken
      exact sound.step documented guarded.2 guarded.1 taken
    · exact sound_of_none rfl
  · apply Guarded.promised fun _ => True
    · intro buffer call _ meets
      exact suited_of_meets meets
    · intro buffer call next _ _ _
      trivial
    · trivial

/-- `libyuv` writes all rows, or none if a pointer is null. -/
def wholeRows : Libyuv where
  i420Copy src dst strideY strideU strideV width height :=
    if src && dst then
      ⟨strideY * (height - 1) + width,
        strideU * ((height + 1) / 2 - 1) + (width + 1) / 2,
        strideV * ((height + 1) / 2 - 1) + (width + 1) / 2⟩
    else ⟨0, 0, 0⟩
  convertFromI420 src dst _ width height := if src && dst then width * 4 * height else 0

theorem wholeRows_documented : wholeRows.Documented where
  copy_null := by
    intro src dst strideY strideU strideV width height null
    exact if_neg (by rw [null]; exact Bool.false_ne_true)
  copy_rows := by
    intro strideY strideU strideV width height layout
    exact ⟨le_rfl, le_rfl, le_rfl⟩
  convert_rows := by
    intro src dst width height wide high
    show (if _ then _ else _) ≤ _
    split
    · exact le_rfl
    · exact mul_nonneg (by omega) (by omega)

def smallFrame : { frame : VideoFrame // frame.Valid } :=
  ⟨.i420 ⟨2, 2, ⟨true, 4, 2⟩, ⟨true, 1, 1⟩, ⟨true, 1, 1⟩⟩,
    .inr ⟨⟨by decide, by decide, by decide, by decide, by decide⟩,
      ⟨by decide, by decide, by decide⟩⟩⟩

def smallImage : { frame : VideoFrame // frame.Valid } :=
  ⟨.rgb ⟨2, 2, .argb, 16⟩, ⟨.inr rfl, .inr ⟨by decide, by decide, by decide⟩⟩⟩

theorem meets_smallFrame :
    Guarded (step wholeRows) (Meets wholeRows) (create .argb)
      [.copyFrame ⟨true, true, true, true⟩ smallFrame,
        .copyFrame ⟨false, false, false, false⟩ smallImage] := by
  apply (meets_of_suited wholeRows_documented .argb _).1
  have wide : (2 : Int) ≠ 0 := by decide
  refine ⟨⟨fun _ _ => wide, fun _ => by decide⟩, ?_⟩
  intro next taken
  refine ⟨⟨fun _ unallocated => absurd unallocated Bool.false_ne_true, fun _ => by decide⟩, ?_⟩
  intro last _
  trivial

/-- The buffer of a renderer that draws YV12 is given an RGB frame. -/
theorem not_meets :
    ¬ ∀ (libyuv : Libyuv), libyuv.Documented → ∀ (type : RawVideoType) (calls : List Call),
      Guarded (step libyuv) (Meets libyuv) (create type) calls := by
  intro meets
  obtain ⟨⟨writes, next, performed, -⟩, -⟩ := meets wholeRows wholeRows_documented .i420
    [.copyFrame ⟨true, true, true, true⟩ smallImage]
  cases performed

end WinBjnRenderBuffer

end FiberApp.Render.Sized
