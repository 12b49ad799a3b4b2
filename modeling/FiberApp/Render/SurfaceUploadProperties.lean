import FiberApp.Render.SurfaceUpload

/-! The picture that a YV12 surface shows after an upload. Both paths take the strides of the
frame for the lengths of its rows, so the strides decide whether the planes fall into place. -/

set_option autoImplicit false

namespace FiberApp.Render

open Foundation (Surface memcpy copyRows)
open Foundation

/-- The rows of the planes stand where a YV12 surface of this pitch has them, and nothing is
written past its end. -/
structure ShowsPicture (pitch : Nat) (frame : I420VideoFrame) (surface : Surface UInt8) :
    Prop where
  luma : ∀ row < frame.height, ∀ column < frame.width,
    surface (pitch * row + column) = some (frame.bufferY (frame.strideY * row + column))
  chromaV : ∀ row < frame.height / 2, ∀ column < frame.width / 2,
    surface (pitch * frame.height + pitch / 2 * row + column) =
      some (frame.bufferV (frame.strideV * row + column))
  chromaU : ∀ row < frame.height / 2, ∀ column < frame.width / 2,
    surface (pitch * frame.height + pitch / 2 * (frame.height / 2) + pitch / 2 * row + column) =
      some (frame.bufferU (frame.strideU * row + column))
  inside : ∀ place, pitch * frame.height * 3 / 2 ≤ place → surface place = none

/-- A block needs the strides of the surface, up to the end of its only row. Rows need only
that the last one of each plane ends within the surface. -/
def StridesFit (pitch : Nat) (layout : I420Layout) : Prop :=
  if pitch = layout.strideY then
    layout.strideV = pitch / 2 ∧
      (layout.strideU = pitch / 2 ∨ (layout.height / 2 = 1 ∧ layout.strideU ≤ pitch / 2))
  else
    layout.strideY ≤ pitch * (layout.height / 2 + 1) ∧
      layout.strideV ≤ pitch / 2 * (layout.height / 2 + 1) ∧ layout.strideU ≤ pitch / 2

instance (pitch : Nat) (layout : I420Layout) : Decidable (StridesFit pitch layout) :=
  inferInstanceAs (Decidable (ite _ _ _))

/-- The device converts YV12 and both of its surfaces exist. -/
structure DxVideoRenderer.DrawsYUV (renderer : DxVideoRenderer) : Prop where
  isYUVSupported : renderer.isYUVSupported = true
  pOffScreenSurface : renderer.pOffScreenSurface = true
  pDeviceSurface : renderer.pDeviceSurface = true

section Places

variable {pitch rows row column length : Nat}

theorem row_end_le (inside : row < rows) (fits : length ≤ pitch) :
    pitch * row + length ≤ pitch * rows :=
  calc pitch * row + length
    _ ≤ pitch * row + pitch := Nat.add_le_add_left fits _
    _ = pitch * (row + 1) := (Nat.mul_succ pitch row).symm
    _ ≤ pitch * rows := Nat.mul_le_mul_left pitch inside

theorem row_place_lt (inside : row < rows) (within : column < pitch) :
    pitch * row + column < pitch * rows :=
  row_end_le inside within

theorem row_end_le_add (inside : row < rows) {extra : Nat}
    (fits : length ≤ pitch * (extra + 1)) :
    pitch * row + length ≤ pitch * (rows + extra) :=
  calc pitch * row + length
    _ ≤ pitch * row + pitch * (extra + 1) := Nat.add_le_add_left fits _
    _ = pitch * (row + 1 + extra) := by rw [← Nat.mul_add]; congr 1; omega
    _ ≤ pitch * (rows + extra) := Nat.mul_le_mul_left pitch (by omega)

/-- A surface of even pitch and height ends with its plane of U. -/
theorem surfaceEnd_eq {height : Nat} (evenPitch : pitch % 2 = 0) (evenHeight : height % 2 = 0) :
    pitch * height * 3 / 2 =
      pitch * height + pitch / 2 * (height / 2) + pitch / 2 * (height / 2) := by
  obtain ⟨halfPitch, rfl⟩ := Nat.dvd_of_mod_eq_zero evenPitch
  obtain ⟨halfHeight, rfl⟩ := Nat.dvd_of_mod_eq_zero evenHeight
  rw [Nat.mul_div_cancel_left _ Nat.two_pos, Nat.mul_div_cancel_left _ Nat.two_pos,
    Nat.mul_mul_mul_comm]
  omega

theorem double_half_mul (evenPitch : pitch % 2 = 0) (rows : Nat) :
    pitch * rows = pitch / 2 * rows + pitch / 2 * rows := by
  rw [← Nat.add_mul, ← Nat.two_mul, Nat.mul_div_cancel' (Nat.dvd_of_mod_eq_zero evenPitch)]

/-- The last row tells how long the rows may be. -/
theorem length_le_of_last {extra : Nat} (some_row : 0 < rows)
    (fits : pitch * (rows - 1) + length ≤ pitch * (rows + extra)) :
    length ≤ pitch * (extra + 1) := by
  obtain ⟨last, rfl⟩ : ∃ last, rows = last + 1 := ⟨rows - 1, by omega⟩
  have split : pitch * (last + 1 + extra) = pitch * last + pitch * (extra + 1) := by
    rw [← Nat.mul_add, Nat.add_assoc, Nat.add_comm 1 extra]
  rw [split, Nat.add_sub_cancel] at fits
  exact Nat.le_of_add_le_add_left fits

end Places

section Upload

variable {renderer : DxVideoRenderer} {pitch : Nat} {frame : I420VideoFrame}

theorem copyI420_block (same : pitch = frame.strideY) :
    renderer.copyI420 pitch frame =
      memcpy (memcpy (memcpy .blank 0 frame.bufferY (pitch * frame.height))
          (pitch * frame.height) frame.bufferV (frame.strideV * (frame.height / 2)))
        (pitch * frame.height + frame.strideV * (frame.height / 2)) frame.bufferU
        (frame.strideU * (frame.height / 2)) := by
  rw [DxVideoRenderer.copyI420, if_pos same, ← same]

theorem copyI420_rows (draws : renderer.DrawsYUV) (differ : pitch ≠ frame.strideY) :
    renderer.copyI420 pitch frame =
      copyRows (pitch / 2) frame.strideU (frame.height / 2)
        (copyRows (pitch / 2) frame.strideV (frame.height / 2)
          (copyRows pitch frame.strideY frame.height .blank 0 frame.bufferY)
          (pitch * frame.height) frame.bufferV)
        (pitch * frame.height + pitch / 2 * (frame.height / 2)) frame.bufferU := by
  simp only [DxVideoRenderer.copyI420, if_neg differ, DxVideoRenderer.copyWithStride,
    draws.isYUVSupported, if_true, Nat.mul_one]

theorem uploadedSurface_i420 (draws : renderer.DrawsYUV) :
    renderer.uploadedSurface (some pitch) (some (.i420 frame)) =
      some (renderer.copyI420 pitch frame) := by
  simp only [DxVideoRenderer.uploadedSurface, draws.isYUVSupported, draws.pOffScreenSurface,
    draws.pDeviceSurface, Bool.and_self, if_true, Option.map_some]

/-- `CreateEmptyFrame` accepts every layout. -/
theorem I420Layout.checkI420Dimensions_eq_true (layout : I420Layout) :
    BaseVideoFrame.checkI420Dimensions layout.width layout.height layout.strideY layout.strideU
      layout.strideV = true := by
  obtain ⟨width, height, strideY, strideU, strideV, wide, high, widthY, widthU, widthV⟩ := layout
  have half : ((width : Int) + 1).tdiv 2 = ((width + 1) / 2 : Nat) := by
    rw [Int.tdiv_eq_ediv_of_nonneg (by omega)]
    omega
  simp only [BaseVideoFrame.checkI420Dimensions, half, Bool.not_eq_true', Bool.or_eq_false_iff,
    decide_eq_false_iff_not, Int.not_lt]
  omega

theorem I420Layout.half_le (layout : I420Layout) :
    layout.width / 2 ≤ layout.strideU ∧ layout.width / 2 ≤ layout.strideV :=
  have := layout.halfU_le
  have := layout.halfV_le
  ⟨by omega, by omega⟩

section Block

variable (same : pitch = frame.strideY)
include same

theorem block_luma {place : Nat} (inside : place < pitch * frame.height) :
    renderer.copyI420 pitch frame place = some (frame.bufferY place) := by
  rw [copyI420_block same, memcpy_outside _ _ _ _ (.inl (by omega)),
    memcpy_outside _ _ _ _ (.inl inside)]
  conv => lhs; rw [← Nat.zero_add place]
  exact memcpy_inside _ _ _ _ inside

theorem block_chromaV {place : Nat} (inside : place < frame.strideV * (frame.height / 2)) :
    renderer.copyI420 pitch frame (pitch * frame.height + place) =
      some (frame.bufferV place) := by
  rw [copyI420_block same, memcpy_outside _ _ _ _ (.inl (by omega)),
    memcpy_inside _ _ _ _ inside]

theorem block_chromaU {place : Nat} (inside : place < frame.strideU * (frame.height / 2)) :
    renderer.copyI420 pitch frame
        (pitch * frame.height + frame.strideV * (frame.height / 2) + place) =
      some (frame.bufferU place) := by
  rw [copyI420_block same, memcpy_inside _ _ _ _ inside]

theorem block_outside {place : Nat}
    (outside : pitch * frame.height + frame.strideV * (frame.height / 2) +
      frame.strideU * (frame.height / 2) ≤ place) :
    renderer.copyI420 pitch frame place = none := by
  rw [copyI420_block same, memcpy_outside _ _ _ _ (.inr outside),
    memcpy_outside _ _ _ _ (.inr (by omega)), memcpy_outside _ _ _ _ (.inr (by omega))]
  rfl

theorem block_shows (evenPitch : pitch % 2 = 0) (evenHeight : frame.height % 2 = 0)
    (wide : frame.width ≤ pitch) (strideV : frame.strideV = pitch / 2)
    (strideU : frame.strideU = pitch / 2 ∨
      (frame.height / 2 = 1 ∧ frame.strideU ≤ pitch / 2)) :
    ShowsPicture pitch frame (renderer.copyI420 pitch frame) := by
  have halfWide : frame.width / 2 ≤ pitch / 2 := Nat.div_le_div_right wide
  obtain ⟨halfU, _⟩ := frame.half_le
  have uppermost : frame.strideU * (frame.height / 2) ≤ pitch / 2 * (frame.height / 2) := by
    obtain equal | ⟨_, less⟩ := strideU
    · exact Nat.le_of_eq (congrArg (· * (frame.height / 2)) equal)
    · exact Nat.mul_le_mul_right _ less
  constructor
  · intro row inside column within
    rw [block_luma same (row_place_lt inside (Nat.lt_of_lt_of_le within wide)), same]
  · intro row inside column within
    have place := row_place_lt inside (Nat.lt_of_lt_of_le within halfWide)
    rw [← strideV] at place ⊢
    rw [Nat.add_assoc, block_chromaV same place]
  · intro row inside column within
    have sameRow : pitch / 2 * row = frame.strideU * row := by
      obtain equal | ⟨single, _⟩ := strideU
      · rw [equal]
      · obtain rfl : row = 0 := by omega
        rw [Nat.mul_zero, Nat.mul_zero]
    have place := row_place_lt inside (Nat.lt_of_lt_of_le within halfU)
    rw [sameRow, ← strideV, Nat.add_assoc, block_chromaU same place]
  · intro place past
    rw [surfaceEnd_eq evenPitch evenHeight] at past
    rw [← strideV] at past uppermost
    exact block_outside same (by omega)

end Block

/-- The frame of this layout that is black but for one byte of U. -/
def markedFrame (layout : I420Layout) (mark : Nat) : I420VideoFrame :=
  { layout with
    bufferY := fun _ => 0
    bufferU := fun place => if place = mark then 1 else 0
    bufferV := fun _ => 0 }

theorem markedFrame_mark {layout : I420Layout} {mark index : Nat} (same : index = mark) :
    (markedFrame layout mark).bufferU index = 1 :=
  if_pos same

/-- Where the marked byte shows, the plane of U was copied with its mark. -/
theorem block_marked {layout : I420Layout} (same : pitch = layout.strideY) (mark : Nat)
    {place : Nat}
    (shows : renderer.copyI420 pitch (markedFrame layout mark) place = some 1) :
    place = pitch * layout.height + layout.strideV * (layout.height / 2) + mark := by
  rw [copyI420_block same] at shows
  obtain ⟨index, _, rfl, byte⟩ | shows := memcpy_cases _ _ _ _ shows
  · by_cases marked : index = mark
    · rw [marked]
      rfl
    · exact absurd (((if_neg marked).symm.trans byte) : (0 : UInt8) = 1) (by decide)
  · obtain ⟨_, _, _, byte⟩ | shows := memcpy_cases _ _ _ _ shows
    · exact absurd byte (by decide : ¬ (0 : UInt8) = 1)
    · obtain ⟨_, _, _, byte⟩ | shows := memcpy_cases _ _ _ _ shows
      · exact absurd byte (by decide : ¬ (0 : UInt8) = 1)
      · exact nomatch shows

theorem block_fits (evenPitch : pitch % 2 = 0) {layout : I420Layout}
    (evenHeight : layout.height % 2 = 0) (evenWidth : layout.width % 2 = 0)
    (same : pitch = layout.strideY)
    (shows : ∀ mark, ShowsPicture pitch (markedFrame layout mark)
      (renderer.copyI420 pitch (markedFrame layout mark))) :
    layout.strideV = pitch / 2 ∧
      (layout.strideU = pitch / 2 ∨ (layout.height / 2 = 1 ∧ layout.strideU ≤ pitch / 2)) := by
  have high := layout.height_pos
  have width := layout.width_pos
  have first := (shows 0).chromaU 0 (by simp only [markedFrame]; omega) 0
    (by simp only [markedFrame]; omega)
  have placed := block_marked same 0 (first.trans (congrArg some (markedFrame_mark rfl)))
  have strideV : layout.strideV = pitch / 2 := by
    simp only [markedFrame, Nat.mul_zero, Nat.add_zero, Nat.add_left_cancel_iff] at placed
    exact (Nat.eq_of_mul_eq_mul_right (by omega) placed).symm
  refine ⟨strideV, ?_⟩
  by_cases several : 1 < layout.height / 2
  case pos =>
    have second := (shows layout.strideU).chromaU 1 several 0
      (by simp only [markedFrame]; omega)
    have placed := block_marked same _ (second.trans
      (congrArg some (markedFrame_mark (Nat.mul_one _))))
    simp only [markedFrame, Nat.mul_one, Nat.add_zero, strideV] at placed
    exact .inl (by omega)
  case neg =>
    have single : layout.height / 2 = 1 := by omega
    refine .inr ⟨single, Nat.le_of_not_lt fun long => ?_⟩
    have written : renderer.copyI420 pitch (markedFrame layout 0)
        (pitch * layout.height + layout.strideV * (layout.height / 2) + pitch / 2) =
          some ((markedFrame layout 0).bufferU (pitch / 2)) :=
      block_chromaU same (by simpa only [markedFrame, single, Nat.mul_one] using long)
    have past := (shows 0).inside
      (pitch * layout.height + layout.strideV * (layout.height / 2) + pitch / 2)
      (by simp only [markedFrame, surfaceEnd_eq evenPitch evenHeight, strideV, single]; omega)
    exact Option.some_ne_none _ (written.symm.trans past)

section Rows

variable (draws : renderer.DrawsYUV) (differ : pitch ≠ frame.strideY)
include draws differ

theorem rows_luma (wide : frame.width ≤ pitch) {row column : Nat} (inside : row < frame.height)
    (within : column < frame.width) :
    renderer.copyI420 pitch frame (pitch * row + column) =
      some (frame.bufferY (frame.strideY * row + column)) := by
  have place := row_place_lt inside (Nat.lt_of_lt_of_le within wide)
  rw [copyI420_rows draws differ, copyRows_outside, copyRows_outside]
  · conv => lhs; rw [← Nat.zero_add (pitch * row)]
    exact copyRows_row inside (Nat.lt_of_lt_of_le within frame.width_le)
      (Nat.lt_of_lt_of_le within wide)
  · exact fun _ _ => .inl (by omega)
  · exact fun _ _ => .inl (by omega)

theorem rows_chromaV (wide : frame.width ≤ pitch) {row column : Nat}
    (inside : row < frame.height / 2) (within : column < frame.width / 2) :
    renderer.copyI420 pitch frame (pitch * frame.height + pitch / 2 * row + column) =
      some (frame.bufferV (frame.strideV * row + column)) := by
  have apart : column < pitch / 2 := Nat.lt_of_lt_of_le within (Nat.div_le_div_right wide)
  have place := row_place_lt inside apart
  rw [copyI420_rows draws differ, copyRows_outside]
  · exact copyRows_row inside (Nat.lt_of_lt_of_le within frame.half_le.2) apart
  · exact fun _ _ => .inl (by omega)

theorem rows_chromaU (wide : frame.width ≤ pitch) {row column : Nat}
    (inside : row < frame.height / 2) (within : column < frame.width / 2) :
    renderer.copyI420 pitch frame
        (pitch * frame.height + pitch / 2 * (frame.height / 2) + pitch / 2 * row + column) =
      some (frame.bufferU (frame.strideU * row + column)) := by
  rw [copyI420_rows draws differ]
  exact copyRows_row inside (Nat.lt_of_lt_of_le within frame.half_le.1)
    (Nat.lt_of_lt_of_le within (Nat.div_le_div_right wide))

theorem rows_inside (evenPitch : pitch % 2 = 0) (evenHeight : frame.height % 2 = 0)
    (lengthY : frame.strideY ≤ pitch * (frame.height / 2 + 1))
    (lengthV : frame.strideV ≤ pitch / 2 * (frame.height / 2 + 1))
    (lengthU : frame.strideU ≤ pitch / 2) {place : Nat}
    (past : pitch * frame.height * 3 / 2 ≤ place) :
    renderer.copyI420 pitch frame place = none := by
  rw [surfaceEnd_eq evenPitch evenHeight] at past
  rw [copyI420_rows draws differ, copyRows_outside, copyRows_outside, copyRows_outside]
  · rfl
  · intro row inside
    have rowEnd := row_end_le_add inside lengthY
    rw [Nat.mul_add, double_half_mul evenPitch (frame.height / 2)] at rowEnd
    exact .inr (by omega)
  · intro row inside
    have rowEnd := row_end_le_add inside lengthV
    rw [Nat.mul_add] at rowEnd
    exact .inr (by omega)
  · intro row inside
    have rowEnd := row_end_le inside lengthU
    exact .inr (by omega)

/-- The last byte of the last row of each plane is written, so it lies in the surface. -/
theorem rows_fits (evenPitch : pitch % 2 = 0) (evenHeight : frame.height % 2 = 0)
    (halfHeight : 0 < frame.height / 2)
    (inside : ∀ place, pitch * frame.height * 3 / 2 ≤ place →
      renderer.copyI420 pitch frame place = none) :
    frame.strideY ≤ pitch * (frame.height / 2 + 1) ∧
      frame.strideV ≤ pitch / 2 * (frame.height / 2 + 1) ∧ frame.strideU ≤ pitch / 2 := by
  have positiveY := Nat.lt_of_lt_of_le frame.width_pos frame.width_le
  obtain ⟨positiveU, positiveV⟩ : 0 < frame.strideU ∧ 0 < frame.strideV := by
    have := frame.halfU_le
    have := frame.halfV_le
    have := frame.width_pos
    exact ⟨by omega, by omega⟩
  have written {place : Nat} (written : renderer.copyI420 pitch frame place ≠ none) :
      place < pitch * frame.height + pitch / 2 * (frame.height / 2) +
        pitch / 2 * (frame.height / 2) := by
    rw [← surfaceEnd_eq evenPitch evenHeight]
    exact Nat.lt_of_not_le fun past => written (inside place past)
  rw [copyI420_rows draws differ] at written
  refine ⟨?_, ?_, ?_⟩
  · have last := written (copyRows_written (copyRows_written (copyRows_writes
      (Nat.sub_one_lt_of_lt frame.height_pos) (Nat.sub_one_lt_of_lt positiveY))))
    refine length_le_of_last frame.height_pos ?_
    rw [Nat.mul_add, double_half_mul evenPitch (frame.height / 2)]
    omega
  · have last := written (copyRows_written (copyRows_writes
      (Nat.sub_one_lt_of_lt halfHeight) (Nat.sub_one_lt_of_lt positiveV)))
    refine length_le_of_last halfHeight ?_
    rw [Nat.mul_add]
    omega
  · have last := written (copyRows_writes
      (Nat.sub_one_lt_of_lt halfHeight) (Nat.sub_one_lt_of_lt positiveU))
    rw [← Nat.mul_one (pitch / 2), ← Nat.zero_add 1]
    refine length_le_of_last halfHeight ?_
    rw [Nat.add_zero]
    omega

theorem rows_shows_iff (evenPitch : pitch % 2 = 0) (evenHeight : frame.height % 2 = 0)
    (wide : frame.width ≤ pitch) :
    ShowsPicture pitch frame (renderer.copyI420 pitch frame) ↔
      frame.strideY ≤ pitch * (frame.height / 2 + 1) ∧
        frame.strideV ≤ pitch / 2 * (frame.height / 2 + 1) ∧ frame.strideU ≤ pitch / 2 := by
  constructor
  · intro shows
    have high := frame.height_pos
    exact rows_fits draws differ evenPitch evenHeight (by omega) shows.inside
  · intro lengths
    obtain ⟨lengthY, lengthV, lengthU⟩ := lengths
    exact ⟨fun _ inside _ within => rows_luma draws differ wide inside within,
      fun _ inside _ within => rows_chromaV draws differ wide inside within,
      fun _ inside _ within => rows_chromaU draws differ wide inside within,
      fun _ past => rows_inside draws differ evenPitch evenHeight lengthY lengthV lengthU past⟩

end Rows

/-- Every frame of even dimensions shows on a surface of even pitch exactly where the strides
fit. -/
theorem uploadedSurface_shows_iff (renderer : DxVideoRenderer) (draws : renderer.DrawsYUV)
    (layout : I420Layout) (evenWidth : layout.width % 2 = 0) (evenHeight : layout.height % 2 = 0)
    (pitch : Nat) (evenPitch : pitch % 2 = 0) (wide : layout.width ≤ pitch) :
    (∀ frame : I420VideoFrame, frame.toI420Layout = layout →
      ∃ surface, renderer.uploadedSurface (some pitch) (some (.i420 frame)) = some surface ∧
        ShowsPicture pitch frame surface) ↔ StridesFit pitch layout := by
  unfold StridesFit
  constructor
  · intro shows
    have shows (frame : I420VideoFrame) (same : frame.toI420Layout = layout) :
        ShowsPicture pitch frame (renderer.copyI420 pitch frame) := by
      obtain ⟨surface, uploaded, shown⟩ := shows frame same
      rw [uploadedSurface_i420 draws] at uploaded
      exact Option.some.inj uploaded ▸ shown
    split
    case isTrue same =>
      exact block_fits evenPitch evenHeight evenWidth same
        fun mark => shows (markedFrame layout mark) rfl
    case isFalse differ =>
      have differ : pitch ≠ (markedFrame layout 0).strideY := differ
      exact (rows_shows_iff draws differ evenPitch evenHeight wide).mp (shows _ rfl)
  · rintro fit frame rfl
    refine ⟨_, uploadedSurface_i420 draws, ?_⟩
    split at fit
    case isTrue same => exact block_shows same evenPitch evenHeight wide fit.1 fit.2
    case isFalse differ => exact (rows_shows_iff draws differ evenPitch evenHeight wide).mpr fit

end Upload

def convertingRenderer : DxVideoRenderer := ⟨true, true, true, true, true, none⟩

theorem convertingRenderer_drawsYUV : convertingRenderer.DrawsYUV := ⟨rfl, rfl, rfl⟩

/-- A picture of 4 by 4 pixels without borders. -/
def packedLayout : I420Layout :=
  ⟨4, 4, 4, 2, 2, by decide, by decide, by decide, by decide, by decide⟩

theorem uploadedSurface_shows_packed :
    ∃ surface,
      convertingRenderer.uploadedSurface (some 8)
          (some (.i420 (markedFrame packedLayout 0))) = some surface ∧
        ShowsPicture 8 (markedFrame packedLayout 0) surface :=
  (uploadedSurface_shows_iff convertingRenderer convertingRenderer_drawsYUV packedLayout rfl rfl
    8 rfl (by decide)).mpr (by decide) (markedFrame packedLayout 0) rfl

/-- A picture of 640 by 360 pixels with a border of 64 bytes at each row of Y. -/
def borderedLayout : I420Layout :=
  ⟨640, 360, 704, 352, 352, by decide, by decide, by decide, by decide, by decide⟩

/-- The last row of U ends 32 bytes past the surface. -/
theorem uploadedSurface_overflows :
    ∃ surface,
      convertingRenderer.uploadedSurface (some 640)
          (some (.i420 (markedFrame borderedLayout 0))) = some surface ∧
        ¬ ShowsPicture 640 (markedFrame borderedLayout 0) surface := by
  refine ⟨_, uploadedSurface_i420 convertingRenderer_drawsYUV, fun shows => ?_⟩
  have differ : 640 ≠ (markedFrame borderedLayout 0).strideY := by decide
  have fits := rows_fits convertingRenderer_drawsYUV differ rfl rfl (by decide) shows.inside
  exact absurd fits.2.2 (by decide)

end FiberApp.Render
