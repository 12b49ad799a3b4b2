import FiberApp.Capture.IncomingFrame

/-! What a camera's frame looks like when it is delivered: it is cropped only where the
halves of the surplus are not zero, and never when it is RGB. -/

set_option autoImplicit false

namespace FiberApp.Capture

open PjVideoCaptureDataCallback

/-- The crop rectangle lies in the frame, and the object that is delivered, if any, is a frame
of the desired size. -/
structure CropsToDesired (desiredWidth desiredHeight : Int) (outcome : Outcome) : Prop where
  cropX_nonneg : 0 ≤ outcome.cropX
  cropY_nonneg : 0 ≤ outcome.cropY
  insideWidth : outcome.cropX + desiredWidth ≤ outcome.videoFrame.width
  insideHeight : outcome.cropY + desiredHeight ≤ outcome.videoFrame.height
  delivered : ∀ obj, outcome.delivered = some obj → ∃ frame, obj = some frame ∧
    frame.width = desiredWidth ∧ frame.height = desiredHeight

/-- A stream of a camera whose frames the capture module does not crop. -/
structure CameraStream (stream : WebrtcCapStream) : Prop where
  notScreen : stream.frameScaler = false
  croppingDisabled : stream.frameCroppingEnabled = false

/-- Both conversions of a frame that is to be cropped succeed. -/
def Converts (conversionResult : Int) (callback : PjVideoCaptureDataCallback)
    (videoFrame : BaseVideoFrame) : Prop :=
  (callback.convertToVideoFrame videoFrame).1 = true ∧ 0 ≤ conversionResult

/-- `CreateEmptyFrame` gives the cropped frame this size, or nothing is delivered. -/
def CroppedFrameHasSize (conversionResult : Int) (callback : PjVideoCaptureDataCallback)
    (videoFrame : BaseVideoFrame) : Prop :=
  (0 < callback.desiredWidth ∧ 0 < callback.desiredHeight) ∨
    (callback.desiredWidth = 0 ∧ callback.desiredHeight = 0) ∨
    ¬ Converts conversionResult callback videoFrame

/-- The frame has the desired size, or it is not RGB, is large enough, and exceeds the desired
size by two pixels in one direction. A frame as large as the default screen is left to the
frame scaler. -/
def FitsDesired (stream : WebrtcCapStream) (conversionResult : Int)
    (callback : PjVideoCaptureDataCallback) (videoFrame : BaseVideoFrame) : Prop :=
  if videoFrame.width ≥ 1920 ∧ videoFrame.height ≥ 1080 then
    let resized :=
      stream.resizeFrameIfNeeded videoFrame callback.desiredWidth callback.desiredHeight
    resized.width = callback.desiredWidth ∧ resized.height = callback.desiredHeight
  else
    (videoFrame.width = callback.desiredWidth ∧ videoFrame.height = callback.desiredHeight) ∨
      (callback.desiredWidth ≤ videoFrame.width ∧ callback.desiredHeight ≤ videoFrame.height ∧
        (callback.desiredWidth + 2 ≤ videoFrame.width ∨
          callback.desiredHeight + 2 ≤ videoFrame.height) ∧
        videoFrame.isRGBFrame = false ∧
        CroppedFrameHasSize conversionResult callback videoFrame)

theorem crop_inside_iff (size desired : Int) :
    (0 ≤ (size - desired).tdiv 2 ∧ (size - desired).tdiv 2 + desired ≤ size) ↔
      desired ≤ size := by
  constructor
  · intro bounded
    obtain ⟨nonneg, inside⟩ := bounded
    omega
  · intro large
    rw [Int.tdiv_eq_ediv_of_nonneg (by omega)]
    omega

theorem crop_eq_zero_iff {size desired : Int} (large : desired ≤ size) :
    (size - desired).tdiv 2 = 0 ↔ size < desired + 2 := by
  rw [Int.tdiv_eq_ediv_of_nonneg (by omega)]
  omega

theorem createI420_hasSize_iff (width height : Int) :
    ((BaseVideoFrame.createI420 width height width ((width + 1).tdiv 2)
        ((width + 1).tdiv 2)).width = width ∧
      (BaseVideoFrame.createI420 width height width ((width + 1).tdiv 2)
        ((width + 1).tdiv 2)).height = height) ↔
      (0 < width ∧ 0 < height) ∨ (width = 0 ∧ height = 0) := by
  unfold BaseVideoFrame.createI420
  simp only [Int.lt_irrefl, decide_false, Bool.or_false]
  split
  case isTrue bad =>
    simp only [Bool.or_eq_true, decide_eq_true_eq] at bad
    constructor
    · intro sameSize
      obtain ⟨sameWidth, sameHeight⟩ := sameSize
      exact .inr ⟨sameWidth.symm, sameHeight.symm⟩
    · intro hasSize
      rcases hasSize with ⟨wide, high⟩ | ⟨rfl, rfl⟩
      · omega
      · exact ⟨rfl, rfl⟩
  case isFalse good =>
    simp only [Bool.or_eq_true, decide_eq_true_eq, not_or] at good
    exact iff_of_true ⟨rfl, rfl⟩ (.inl ⟨by omega, by omega⟩)

/-- Without a crop the frame itself is delivered. -/
theorem uncropped_cropsToDesired_iff (desiredWidth desiredHeight : Int)
    (callback : PjVideoCaptureDataCallback) (frame : BaseVideoFrame) :
    CropsToDesired desiredWidth desiredHeight ⟨callback, frame, 0, 0, some (some frame)⟩ ↔
      frame.width = desiredWidth ∧ frame.height = desiredHeight := by
  constructor
  · intro crops
    obtain ⟨delivered, same, size⟩ := crops.delivered _ rfl
    cases same
    exact size
  · intro created
    obtain ⟨rfl, rfl⟩ := created
    refine ⟨Int.le_refl 0, Int.le_refl 0, Int.le_of_eq (Int.zero_add _),
      Int.le_of_eq (Int.zero_add _), ?_⟩
    rintro obj ⟨⟩
    exact ⟨frame, rfl, rfl, rfl⟩

section Camera

variable {stream : WebrtcCapStream} {callback : PjVideoCaptureDataCallback}
  {conversionResult : Int} {videoFrame : BaseVideoFrame}

theorem prepareFrame_camera (camera : CameraStream stream) :
    callback.prepareFrame stream videoFrame =
      if videoFrame.width ≥ 1920 ∧ videoFrame.height ≥ 1080 then
        ⟨callback, stream.resizeFrameIfNeeded videoFrame callback.desiredWidth
          callback.desiredHeight, 0, 0, none⟩
      else
        ⟨callback, videoFrame, (videoFrame.width - callback.desiredWidth).tdiv 2,
          (videoFrame.height - callback.desiredHeight).tdiv 2, none⟩ := by
  simp [prepareFrame, camera.notScreen, camera.croppingDisabled]

theorem onIncomingCapturedFrame_large (camera : CameraStream stream)
    (running : callback.resetInProcess = false)
    (large : videoFrame.width ≥ 1920 ∧ videoFrame.height ≥ 1080) :
    let resized :=
      stream.resizeFrameIfNeeded videoFrame callback.desiredWidth callback.desiredHeight
    callback.onIncomingCapturedFrame stream conversionResult videoFrame =
      ⟨callback, resized, 0, 0, some (some resized)⟩ := by
  simp [onIncomingCapturedFrame, prepareFrame_camera camera, large, running]

theorem onIncomingCapturedFrame_uncropped (camera : CameraStream stream)
    (running : callback.resetInProcess = false)
    (small : ¬ (videoFrame.width ≥ 1920 ∧ videoFrame.height ≥ 1080))
    (noCropX : (videoFrame.width - callback.desiredWidth).tdiv 2 = 0)
    (noCropY : (videoFrame.height - callback.desiredHeight).tdiv 2 = 0) :
    callback.onIncomingCapturedFrame stream conversionResult videoFrame =
      ⟨callback, videoFrame, 0, 0, some (some videoFrame)⟩ := by
  simp [onIncomingCapturedFrame, prepareFrame_camera camera, small, running, noCropX, noCropY]

/-- What is delivered where the frame is to be cropped. -/
theorem onIncomingCapturedFrame_cropped (camera : CameraStream stream)
    (running : callback.resetInProcess = false) (conversionResult : Int)
    (small : ¬ (videoFrame.width ≥ 1920 ∧ videoFrame.height ≥ 1080))
    (crops : (videoFrame.width - callback.desiredWidth).tdiv 2 ≠ 0 ∨
      (videoFrame.height - callback.desiredHeight).tdiv 2 ≠ 0) :
    let outcome := callback.onIncomingCapturedFrame stream conversionResult videoFrame
    outcome.videoFrame = videoFrame ∧
      outcome.cropX = (videoFrame.width - callback.desiredWidth).tdiv 2 ∧
      outcome.cropY = (videoFrame.height - callback.desiredHeight).tdiv 2 ∧
      (videoFrame.isRGBFrame = true → outcome.delivered = some none) ∧
      (videoFrame.isRGBFrame = false →
        outcome.delivered = (callback.cropFrame conversionResult videoFrame).1.map some) := by
  have isCropped : ((videoFrame.width - callback.desiredWidth).tdiv 2 ≠ 0 ||
      (videoFrame.height - callback.desiredHeight).tdiv 2 ≠ 0) = true := by
    simpa using crops
  simp only [onIncomingCapturedFrame, prepareFrame_camera camera, if_neg small, running,
    camera.croppingDisabled, isCropped, Bool.not_false, Bool.true_and, Bool.false_eq_true,
    ↓reduceIte]
  cases rgb : videoFrame.isRGBFrame with
  | true => simp
  | false =>
      simp only [Bool.not_false, ↓reduceIte]
      rcases callback.cropFrame conversionResult videoFrame with ⟨cropped | cropped, after⟩ <;>
        simp

theorem cropFrame_fst :
    (callback.cropFrame conversionResult videoFrame).1 =
      if (callback.convertToVideoFrame videoFrame).1 && conversionResult ≥ 0 then
        some (BaseVideoFrame.createI420 callback.desiredWidth callback.desiredHeight
          callback.desiredWidth ((callback.desiredWidth + 1).tdiv 2)
          ((callback.desiredWidth + 1).tdiv 2))
      else none := by
  simp only [cropFrame]
  split <;> simp_all

theorem cropFrame_hasSize_iff :
    (∀ obj, (callback.cropFrame conversionResult videoFrame).1.map some = some obj →
      ∃ frame, obj = some frame ∧ frame.width = callback.desiredWidth ∧
        frame.height = callback.desiredHeight) ↔
      CroppedFrameHasSize conversionResult callback videoFrame := by
  rw [cropFrame_fst, CroppedFrameHasSize, Converts]
  by_cases converts : (callback.convertToVideoFrame videoFrame).1 = true ∧ 0 ≤ conversionResult
  · have created := createI420_hasSize_iff callback.desiredWidth callback.desiredHeight
    simp [converts, created]
  · have notBoth :
        ((callback.convertToVideoFrame videoFrame).1 && conversionResult ≥ 0) = false := by
      simpa using converts
    simp [converts, notBoth]

theorem large_crops_iff (camera : CameraStream stream)
    (running : callback.resetInProcess = false)
    (large : videoFrame.width ≥ 1920 ∧ videoFrame.height ≥ 1080) :
    CropsToDesired callback.desiredWidth callback.desiredHeight
        (callback.onIncomingCapturedFrame stream conversionResult videoFrame) ↔
      FitsDesired stream conversionResult callback videoFrame := by
  rw [onIncomingCapturedFrame_large camera running large, uncropped_cropsToDesired_iff,
    FitsDesired, if_pos large]

theorem uncropped_crops_iff (camera : CameraStream stream)
    (running : callback.resetInProcess = false)
    (small : ¬ (videoFrame.width ≥ 1920 ∧ videoFrame.height ≥ 1080))
    (noCropX : (videoFrame.width - callback.desiredWidth).tdiv 2 = 0)
    (noCropY : (videoFrame.height - callback.desiredHeight).tdiv 2 = 0) :
    CropsToDesired callback.desiredWidth callback.desiredHeight
        (callback.onIncomingCapturedFrame stream conversionResult videoFrame) ↔
      FitsDesired stream conversionResult callback videoFrame := by
  rw [onIncomingCapturedFrame_uncropped camera running small noCropX noCropY,
    uncropped_cropsToDesired_iff, FitsDesired, if_neg small]
  constructor
  · exact .inl
  · intro fits
    rcases fits with size | ⟨wide, high, surplus, -⟩
    · exact size
    · rw [crop_eq_zero_iff wide] at noCropX
      rw [crop_eq_zero_iff high] at noCropY
      omega

theorem cropped_crops_iff (camera : CameraStream stream)
    (running : callback.resetInProcess = false)
    (small : ¬ (videoFrame.width ≥ 1920 ∧ videoFrame.height ≥ 1080))
    (crops : (videoFrame.width - callback.desiredWidth).tdiv 2 ≠ 0 ∨
      (videoFrame.height - callback.desiredHeight).tdiv 2 ≠ 0) :
    CropsToDesired callback.desiredWidth callback.desiredHeight
        (callback.onIncomingCapturedFrame stream conversionResult videoFrame) ↔
      FitsDesired stream conversionResult callback videoFrame := by
  obtain ⟨sameFrame, cropX, cropY, isRGB, notRGB⟩ :=
    onIncomingCapturedFrame_cropped camera running conversionResult small crops
  have insideX := crop_inside_iff videoFrame.width callback.desiredWidth
  have insideY := crop_inside_iff videoFrame.height callback.desiredHeight
  rw [FitsDesired, if_neg small]
  constructor
  · intro property
    obtain ⟨nonnegX, nonnegY, fitsX, fitsY, delivers⟩ := property
    rw [cropX] at nonnegX fitsX
    rw [cropY] at nonnegY fitsY
    rw [sameFrame] at fitsX fitsY
    have wide := insideX.mp ⟨nonnegX, fitsX⟩
    have high := insideY.mp ⟨nonnegY, fitsY⟩
    rw [ne_eq, crop_eq_zero_iff wide, ne_eq, crop_eq_zero_iff high] at crops
    refine .inr ⟨wide, high, by omega, ?_⟩
    cases rgb : videoFrame.isRGBFrame with
    | true =>
        obtain ⟨frame, absurdly, -⟩ := delivers none (isRGB rgb)
        cases absurdly
    | false =>
        refine ⟨rfl, cropFrame_hasSize_iff.mp fun obj cropped => ?_⟩
        exact delivers obj ((notRGB rgb).trans cropped)
  · intro keeps
    rcases keeps with ⟨sameWidth, sameHeight⟩ | ⟨wide, high, -, rgb, hasSize⟩
    · rw [sameWidth, sameHeight, Int.sub_self, Int.sub_self] at crops
      exact absurd crops (by decide)
    · obtain ⟨nonnegX, fitsX⟩ := insideX.mpr wide
      obtain ⟨nonnegY, fitsY⟩ := insideY.mpr high
      refine ⟨by rw [cropX]; exact nonnegX, by rw [cropY]; exact nonnegY,
        by rw [cropX, sameFrame]; exact fitsX, by rw [cropY, sameFrame]; exact fitsY, ?_⟩
      intro obj delivered
      rw [notRGB rgb] at delivered
      exact cropFrame_hasSize_iff.mpr hasSize obj delivered

/-- A camera's frame never resets the stream, nor does it change the desired size. -/
theorem onIncomingCapturedFrame_camera_callback (camera : CameraStream stream)
    (callback : PjVideoCaptureDataCallback) (conversionResult : Int)
    (videoFrame : BaseVideoFrame) :
    let after := (callback.onIncomingCapturedFrame stream conversionResult videoFrame).callback
    after.resetInProcess = callback.resetInProcess ∧
      after.desiredWidth = callback.desiredWidth ∧
      after.desiredHeight = callback.desiredHeight := by
  have prepared : (callback.prepareFrame stream videoFrame).callback = callback := by
    rw [prepareFrame_camera camera]
    split <;> rfl
  have converted : ∀ frame, let after := (callback.convertToVideoFrame frame).2
      after.resetInProcess = callback.resetInProcess ∧
        after.desiredWidth = callback.desiredWidth ∧
        after.desiredHeight = callback.desiredHeight := by
    intro frame
    simp only [convertToVideoFrame]
    repeat' split
    all_goals exact ⟨rfl, rfl, rfl⟩
  have cropped : ∀ frame, let after := (callback.cropFrame conversionResult frame).2
      after.resetInProcess = callback.resetInProcess ∧
        after.desiredWidth = callback.desiredWidth ∧
        after.desiredHeight = callback.desiredHeight := by
    intro frame
    simp only [cropFrame]
    split <;> exact converted frame
  simp only [onIncomingCapturedFrame, prepared]
  split
  · rw [prepared]
    exact ⟨rfl, rfl, rfl⟩
  split
  · have size := cropped (callback.prepareFrame stream videoFrame).videoFrame
    split
    case h_1 after returns => simpa only [returns] using size
    case h_2 frame after crops => simpa only [crops] using size
  split <;> exact ⟨rfl, rfl, rfl⟩

end Camera

/-- The callback after these frames, each with the result of its conversion. -/
def receive (stream : WebrtcCapStream) (callback : PjVideoCaptureDataCallback)
    (frames : List (BaseVideoFrame × Int)) : PjVideoCaptureDataCallback :=
  frames.foldl
    (fun callback frame => (callback.onIncomingCapturedFrame stream frame.2 frame.1).callback)
    callback

theorem receive_camera {stream : WebrtcCapStream} (camera : CameraStream stream)
    (callback : PjVideoCaptureDataCallback) (frames : List (BaseVideoFrame × Int)) :
    (receive stream callback frames).resetInProcess = callback.resetInProcess ∧
      (receive stream callback frames).desiredWidth = callback.desiredWidth ∧
      (receive stream callback frames).desiredHeight = callback.desiredHeight := by
  induction frames generalizing callback with
  | nil => exact ⟨rfl, rfl, rfl⟩
  | cons frame rest ih =>
      obtain ⟨reset, width, height⟩ :=
        onIncomingCapturedFrame_camera_callback camera callback frame.2 frame.1
      obtain ⟨restReset, restWidth, restHeight⟩ := ih
        (callback.onIncomingCapturedFrame stream frame.2 frame.1).callback
      exact ⟨restReset.trans reset, restWidth.trans width, restHeight.trans height⟩

/-- Whatever frames came before, a camera's frame is cropped to the desired size exactly when
it fits. -/
theorem onIncomingCapturedFrame_crops_iff (stream : WebrtcCapStream)
    (desiredWidth desiredHeight : Int) (before : List (BaseVideoFrame × Int))
    (videoFrame : BaseVideoFrame) (conversionResult : Int) (camera : CameraStream stream) :
    let callback := receive stream (create desiredWidth desiredHeight) before
    CropsToDesired desiredWidth desiredHeight
        (callback.onIncomingCapturedFrame stream conversionResult videoFrame) ↔
      FitsDesired stream conversionResult callback videoFrame := by
  intro callback
  obtain ⟨running, width, height⟩ : callback.resetInProcess = false ∧
      callback.desiredWidth = desiredWidth ∧ callback.desiredHeight = desiredHeight :=
    receive_camera camera (create desiredWidth desiredHeight) before
  clear_value callback
  subst width height
  by_cases large : videoFrame.width ≥ 1920 ∧ videoFrame.height ≥ 1080
  · exact large_crops_iff camera running large
  by_cases crops : (videoFrame.width - callback.desiredWidth).tdiv 2 ≠ 0 ∨
      (videoFrame.height - callback.desiredHeight).tdiv 2 ≠ 0
  · exact cropped_crops_iff camera running large crops
  · simp only [ne_eq, not_or, Decidable.not_not] at crops
    exact uncropped_crops_iff camera running large crops.1 crops.2

/-- A camera's stream with a scaler that does what its header says. -/
def cameraStream : WebrtcCapStream where
  frameScaler := false
  frameCroppingEnabled := false
  resizeFrameIfNeeded := fun frame width height => { frame with width := width, height := height }
  calculateDesiredWH := fun width height => (width, height)

theorem cameraStream_camera : CameraStream cameraStream := ⟨rfl, rfl⟩

/-- An RGB frame of 640x480 for a desired size of 640x360. -/
theorem onIncomingCapturedFrame_delivers_null :
    ¬ CropsToDesired 640 360 ((create 640 360).onIncomingCapturedFrame cameraStream 0
      ⟨.rgb, .rgb24, 640, 480, false⟩) := by
  intro property
  obtain ⟨frame, absurdly, -⟩ := property.delivered none (by decide)
  cases absurdly

theorem onIncomingCapturedFrame_crops_480p :
    CropsToDesired 640 360 ((receive cameraStream (create 640 360) []).onIncomingCapturedFrame
        cameraStream 0 ⟨.i420, .i420, 640, 480, false⟩) ↔
      FitsDesired cameraStream 0 (receive cameraStream (create 640 360) [])
        ⟨.i420, .i420, 640, 480, false⟩ :=
  onIncomingCapturedFrame_crops_iff cameraStream 640 360 [] ⟨.i420, .i420, 640, 480, false⟩ 0
    cameraStream_camera

end FiberApp.Capture
