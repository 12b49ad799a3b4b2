import FiberApp.Capture.WebrtcCaptureDev
import FiberApp.Foundation.Preference

/-! The capability selected for a camera. The loop over the capabilities is one scan for
the most preferred one, over those it considers. -/

set_option autoImplicit false

namespace FiberApp.Capture

open Foundation
open Devices.ScreenSharing (Text isScreenSharingDevice)

theorem afterFilterList_eq_true (id : Text) (entries : List FilterCam) :
    afterFilterList id entries = true := by
  induction entries with
  | nil => rfl
  | cons entry rest ih => simp [afterFilterList, ih]

theorem isYUV_of_isFavored (capability : VideoCaptureCapability)
    (favored : isFavored capability) : isYUV capability := by
  simp only [isFavored, Bool.or_eq_true, decide_eq_true_eq] at favored
  rcases favored with raw | raw <;> simp [isYUV, isRawTypeYUV, raw]

theorem rawType_ne_mjpeg_of_isYUV {capability : VideoCaptureCapability}
    (yuv : isYUV capability) : capability.rawType ≠ .mjpeg := by
  intro mjpeg
  simp [isYUV, isRawTypeYUV, mjpeg] at yuv

namespace WebrtcCapDevInfo

variable (ddi : WebrtcCapDevInfo) (slot : Fin formatCapacity)

def setCapability (capability : VideoCaptureCapability) : WebrtcCapDevInfo :=
  { ddi with capability := Function.update ddi.capability slot capability }

def setFormat (format : PjmediaFormat) : WebrtcCapDevInfo :=
  { ddi with fmt := Function.update ddi.fmt slot format }

@[simp] theorem storeCapability_fin (capability : VideoCaptureCapability) :
    ddi.storeCapability slot capability = some (ddi.setCapability slot capability) := by
  simp [storeCapability, setCapability, slot.isLt]

@[simp] theorem storeFormat_fin (format : PjmediaFormat) :
    ddi.storeFormat slot format = some (ddi.setFormat slot format) := by
  simp [storeFormat, setFormat, slot.isLt]

@[simp] theorem readCapability_fin :
    ddi.readCapability slot = some (ddi.capability slot) := by
  simp [readCapability, slot.isLt]

@[simp] theorem setCapability_setCapability (first second : VideoCaptureCapability) :
    (ddi.setCapability slot first).setCapability slot second = ddi.setCapability slot second := by
  simp [setCapability]

@[simp] theorem setCapability_capability (capability : VideoCaptureCapability) :
    (ddi.setCapability slot capability).capability slot = capability := by
  simp [setCapability]

/-- The device while the loop holds this candidate in the slot. -/
def holding : Option VideoCaptureCapability → WebrtcCapDevInfo
  | none => ddi
  | some capability => ddi.setCapability slot capability

@[simp] theorem holding_isScreen (best : Option VideoCaptureCapability) :
    (ddi.holding slot best).isScreen = ddi.isScreen := by
  cases best <;> rfl

@[simp] theorem holding_setCapability (best : Option VideoCaptureCapability)
    (capability : VideoCaptureCapability) :
    (ddi.holding slot best).setCapability slot capability =
      ddi.holding slot (some capability) := by
  cases best with
  | none => rfl
  | some earlier => exact setCapability_setCapability ddi slot earlier capability

end WebrtcCapDevInfo

/-- Nothing of the device but this slot of its two tables differs. -/
structure OnlySlotWritten (slot : Fin formatCapacity) (before after : WebrtcCapDevInfo) :
    Prop where
  name : after.name = before.name
  webrtcId : after.webrtcId = before.webrtcId
  productId : after.productId = before.productId
  fmtCnt : after.fmtCnt = before.fmtCnt
  capability : ∀ other, other ≠ slot → after.capability other = before.capability other
  fmt : ∀ other, other ≠ slot → after.fmt other = before.fmt other

theorem OnlySlotWritten.refl (slot : Fin formatCapacity) (ddi : WebrtcCapDevInfo) :
    OnlySlotWritten slot ddi ddi :=
  ⟨rfl, rfl, rfl, rfl, fun _ _ => rfl, fun _ _ => rfl⟩

theorem OnlySlotWritten.trans {slot : Fin formatCapacity}
    {first second third : WebrtcCapDevInfo} (before : OnlySlotWritten slot first second)
    (after : OnlySlotWritten slot second third) : OnlySlotWritten slot first third where
  name := after.name.trans before.name
  webrtcId := after.webrtcId.trans before.webrtcId
  productId := after.productId.trans before.productId
  fmtCnt := after.fmtCnt.trans before.fmtCnt
  capability other away := (after.capability other away).trans (before.capability other away)
  fmt other away := (after.fmt other away).trans (before.fmt other away)

theorem setCapability_onlySlotWritten (slot : Fin formatCapacity) (ddi : WebrtcCapDevInfo)
    (capability : VideoCaptureCapability) :
    OnlySlotWritten slot ddi (ddi.setCapability slot capability) where
  name := rfl
  webrtcId := rfl
  productId := rfl
  fmtCnt := rfl
  capability other away := by simp [WebrtcCapDevInfo.setCapability, away]
  fmt _ _ := rfl

theorem setFormat_onlySlotWritten (slot : Fin formatCapacity) (ddi : WebrtcCapDevInfo)
    (format : PjmediaFormat) : OnlySlotWritten slot ddi (ddi.setFormat slot format) where
  name := rfl
  webrtcId := rfl
  productId := rfl
  fmtCnt := rfl
  capability _ _ := rfl
  fmt other away := by simp [WebrtcCapDevInfo.setFormat, away]

namespace WebrtcCapFactory

variable (cf : WebrtcCapFactory) (ddi : WebrtcCapDevInfo) (slot : Fin formatCapacity)
  (request : CapabilitySupported)

/-- The capabilities that reach the comparison with the slot. -/
def considers (capability : VideoCaptureCapability) : Bool :=
  !(capability.rawType = .mjpeg && cf.ignoresMjpeg) && request.matchedBy capability

theorem keepsSlot_holding (best : Option VideoCaptureCapability)
    (tmpCap : VideoCaptureCapability) :
    keepsSlot (ddi.holding slot best) slot best.isSome tmpCap =
      some (best.any isYUV && !isYUV tmpCap) := by
  cases best <;> simp [keepsSlot, WebrtcCapDevInfo.holding]

/-- The loop of a camera is a scan for the most preferred capability. -/
theorem scanCapabilities_camera (camera : ddi.isScreen = false)
    (capabilities : List VideoCaptureCapability) (best : Option VideoCaptureCapability) :
    cf.scanCapabilities request slot capabilities best.isSome (ddi.holding slot best) =
      let found := keepPreferred isFavored isYUV best
        (capabilities.filter (cf.considers request))
      some (found.isSome, ddi.holding slot found) := by
  induction capabilities generalizing best with
  | nil => rfl
  | cons tmpCap rest ih =>
      rw [scanCapabilities, afterFilterList_eq_true]
      simp only [Bool.not_true, Bool.and_false, Bool.false_eq_true, ↓reduceIte,
        WebrtcCapDevInfo.holding_isScreen, camera, keepsSlot_holding]
      by_cases ignored : (decide (tmpCap.rawType = .mjpeg) && cf.ignoresMjpeg) = true
      · have passed : cf.considers request tmpCap = false := by simp [considers, ignored]
        rw [if_pos ignored, List.filter_cons_of_neg (by simp [passed]), ih]
      · rw [if_neg ignored]
        have considered : cf.considers request tmpCap = request.matchedBy tmpCap := by
          simp [considers, ignored]
        by_cases matched : request.matchedBy tmpCap
        · rw [if_pos matched, List.filter_cons_of_pos (by rw [considered, matched]),
            keepPreferred]
          simp only [Option.bind_eq_bind, Option.bind_some,
            WebrtcCapDevInfo.storeCapability_fin, WebrtcCapDevInfo.holding_setCapability]
          split
          case isTrue kept => exact ih best
          case isFalse replaced =>
            split
            case isTrue favored => rfl
            case isFalse plain => exact ih (some tmpCap)
        · rw [if_neg matched, List.filter_cons_of_neg (by rw [considered]; exact matched), ih]

/-- The capability that the function selects for a camera. -/
def selectedCapability (capabilities : List VideoCaptureCapability) :
    Option VideoCaptureCapability :=
  mostPreferred isFavored isYUV (capabilities.filter (cf.considers request))

theorem addFormat_onlySlotWritten :
    ∃ next, addFormat ddi slot = some next ∧ OnlySlotWritten slot ddi next ∧
      next.capability = ddi.capability := by
  simp only [addFormat, WebrtcCapDevInfo.readCapability_fin, Option.bind_eq_bind,
    Option.bind_some, WebrtcCapDevInfo.storeFormat_fin]
  split
  case isTrue raw => exact ⟨_, rfl, setFormat_onlySlotWritten slot ddi _, rfl⟩
  case isFalse coded => exact ⟨_, rfl, OnlySlotWritten.refl slot ddi, rfl⟩

theorem populateSupportedCapability_camera (camera : ddi.isScreen = false)
    (capabilities : List VideoCaptureCapability) :
    ∃ next, cf.populateSupportedCapability capabilities ddi slot request =
        some ((cf.selectedCapability request capabilities).isSome, next) ∧
      OnlySlotWritten slot ddi next ∧
      ∀ selected, cf.selectedCapability request capabilities = some selected →
        next.capability slot = selected := by
  have scanned := cf.scanCapabilities_camera ddi slot request camera capabilities none
  rw [keepPreferred_none _ isYUV_of_isFavored] at scanned
  change cf.scanCapabilities request slot capabilities false ddi =
    some ((cf.selectedCapability request capabilities).isSome,
      ddi.holding slot (cf.selectedCapability request capabilities)) at scanned
  rw [populateSupportedCapability, scanned]
  cases found : cf.selectedCapability request capabilities with
  | none =>
      refine ⟨ddi, rfl, OnlySlotWritten.refl slot ddi, ?_⟩
      intro selected absurdly
      cases absurdly
  | some selected =>
      obtain ⟨next, formatted, frame, kept⟩ :=
        addFormat_onlySlotWritten (ddi.setCapability slot selected) slot
      refine ⟨next, ?_, (setCapability_onlySlotWritten slot ddi selected).trans frame, ?_⟩
      · simp [WebrtcCapDevInfo.holding, formatted]
      · intro other same
        cases same
        rw [kept, WebrtcCapDevInfo.setCapability_capability]

end WebrtcCapFactory

def isFiltered (id : Text) : Bool := filterList.any (·.names id)

namespace WebrtcCapFactory

variable (cf : WebrtcCapFactory) (ddi : WebrtcCapDevInfo) (slot : Fin formatCapacity)
  (request : CapabilitySupported)

/-- What `filter_list` and the Linux build admit for the camera with this id. -/
def admits (id : Text) (capability : VideoCaptureCapability) : Bool :=
  !(capability.rawType = .mjpeg && (cf.ignoresMjpeg || isFiltered id))

def candidates (id : Text) (capabilities : List VideoCaptureCapability) :
    List VideoCaptureCapability :=
  capabilities.filter fun capability => request.matchedBy capability && cf.admits id capability

/-- The selection that the function is for, over its result and the device it leaves. -/
structure SelectsCapability (capabilities : List VideoCaptureCapability) (added : Bool)
    (next : WebrtcCapDevInfo) : Prop where
  added_iff : added = true ↔ ∃ capability ∈ capabilities,
    request.matchedBy capability = true ∧ cf.admits ddi.webrtcId capability = true
  selected : added = true → some (next.capability slot) =
    mostPreferred isFavored isYUV (cf.candidates request ddi.webrtcId capabilities)
  noMjpeg : added = true → isFiltered ddi.webrtcId = true →
    (next.capability slot).rawType ≠ .mjpeg
  onlySlotWritten : OnlySlotWritten slot ddi next

/-- A filtered camera has no YUV capability of the size, and its last one is MJPEG. -/
def MjpegLeftOver (capabilities : List VideoCaptureCapability) : Prop :=
  isFiltered ddi.webrtcId = true ∧
    (∀ capability ∈ capabilities, request.matchedBy capability = true →
      isYUV capability = false) ∧
    ∃ last, (capabilities.filter (cf.considers request)).getLast? = some last ∧
      last.rawType = .mjpeg

theorem candidates_eq_filter_considers (id : Text) (capabilities : List VideoCaptureCapability) :
    cf.candidates request id capabilities =
      (capabilities.filter (cf.considers request)).filter
        fun capability => !(decide (capability.rawType = .mjpeg) && isFiltered id) := by
  rw [candidates, List.filter_filter]
  apply List.filter_congr
  intro capability _
  simp only [admits, considers]
  cases decide (capability.rawType = .mjpeg) <;> cases cf.ignoresMjpeg <;> simp [Bool.and_comm]

theorem not_isYUV_of_mjpeg {capability : VideoCaptureCapability}
    (mjpeg : capability.rawType = .mjpeg) : isYUV capability = false := by
  by_contra yuv
  exact rawType_ne_mjpeg_of_isYUV (by simpa using yuv) mjpeg

/-- A camera with MJPEG left over gets it. -/
theorem MjpegLeftOver.selects {capabilities : List VideoCaptureCapability}
    (leftOver : cf.MjpegLeftOver ddi request capabilities) :
    ∃ selected, cf.selectedCapability request capabilities = some selected ∧
      selected.rawType = .mjpeg := by
  obtain ⟨-, others, last, isLast, mjpeg⟩ := leftOver
  refine ⟨last, ?_, mjpeg⟩
  rw [selectedCapability, mostPreferred_eq_getLast? isYUV_of_isFavored, isLast]
  intro capability member
  obtain ⟨member, considered⟩ := List.mem_filter.mp member
  simp only [considers, Bool.and_eq_true] at considered
  exact others capability member considered.2

/-- Without MJPEG left over the selection is the one among the admitted capabilities. -/
theorem selectedCapability_eq_of_not_leftOver {capabilities : List VideoCaptureCapability}
    (spared : ¬ cf.MjpegLeftOver ddi request capabilities) :
    cf.selectedCapability request capabilities =
      mostPreferred isFavored isYUV (cf.candidates request ddi.webrtcId capabilities) := by
  rw [candidates_eq_filter_considers]
  cases filtered : isFiltered ddi.webrtcId with
  | false =>
      simp only [Bool.and_false, Bool.not_false, List.filter_true]
      rfl
  | true =>
      simp only [Bool.and_true]
      cases found : cf.selectedCapability request capabilities with
      | none =>
          have empty := mostPreferred_eq_none.mp found
          rw [empty]
          rfl
      | some best =>
          have notMjpeg : best.rawType ≠ .mjpeg := by
            intro mjpeg
            obtain ⟨others, last⟩ := getLast?_of_mostPreferred isYUV_of_isFavored found
              (not_isYUV_of_mjpeg mjpeg)
            refine spared ⟨filtered, ?_, best, last, mjpeg⟩
            intro capability member matched
            by_cases ignored : capability.rawType = .mjpeg
            · exact not_isYUV_of_mjpeg ignored
            · exact others capability
                (List.mem_filter.mpr ⟨member, by simp [considers, ignored, matched]⟩)
          refine (mostPreferred_filter isYUV_of_isFavored ?_ found (by simp [notMjpeg])).symm
          intro capability yuv
          simp [rawType_ne_mjpeg_of_isYUV yuv]

theorem admits_of_mem_candidates {id : Text} {capabilities : List VideoCaptureCapability}
    {capability : VideoCaptureCapability}
    (member : capability ∈ cf.candidates request id capabilities) :
    cf.admits id capability = true := by
  have passed := (List.mem_filter.mp member).2
  simp only [Bool.and_eq_true] at passed
  exact passed.2

theorem candidates_ne_nil_iff {id : Text} {capabilities : List VideoCaptureCapability} :
    cf.candidates request id capabilities ≠ [] ↔ ∃ capability ∈ capabilities,
      request.matchedBy capability = true ∧ cf.admits id capability = true := by
  simp [candidates, List.filter_eq_nil_iff]

theorem selectsCapability_of_selected {capabilities : List VideoCaptureCapability}
    {next : WebrtcCapDevInfo}
    (same : cf.selectedCapability request capabilities =
      mostPreferred isFavored isYUV (cf.candidates request ddi.webrtcId capabilities))
    (frame : OnlySlotWritten slot ddi next)
    (stored : ∀ selected, cf.selectedCapability request capabilities = some selected →
      next.capability slot = selected) :
    cf.SelectsCapability ddi slot request capabilities
      (cf.selectedCapability request capabilities).isSome next where
  added_iff := by
    rw [← candidates_ne_nil_iff, same, Option.isSome_iff_ne_none, ne_eq, mostPreferred_eq_none]
  selected added := by
    obtain ⟨selected, found⟩ := Option.isSome_iff_exists.mp added
    rw [stored selected found, ← same, found]
  noMjpeg added filtered := by
    obtain ⟨selected, found⟩ := Option.isSome_iff_exists.mp added
    rw [stored selected found]
    have member := mem_of_mostPreferred (same.symm.trans found)
    have admitted := cf.admits_of_mem_candidates request member
    simpa [admits, filtered] using admitted
  onlySlotWritten := frame

/-- The function selects for a camera what it is to select exactly when no MJPEG is left
over: the loop over `filter_list` leaves no capability out. -/
theorem populateSupportedCapability_selects_iff (capabilities : List VideoCaptureCapability)
    (camera : ddi.isScreen = false) :
    (∃ added next,
      cf.populateSupportedCapability capabilities ddi slot request = some (added, next) ∧
        cf.SelectsCapability ddi slot request capabilities added next) ↔
      ¬ cf.MjpegLeftOver ddi request capabilities := by
  obtain ⟨next, populated, frame, stored⟩ :=
    cf.populateSupportedCapability_camera ddi slot request camera capabilities
  rw [populated]
  constructor
  · rintro ⟨added, other, same, selects⟩ leftOver
    obtain ⟨selected, found, mjpeg⟩ := leftOver.selects
    obtain ⟨rfl, rfl⟩ := Prod.mk.inj (Option.some.inj same)
    apply selects.noMjpeg (by rw [found]; rfl) leftOver.1
    rw [stored selected found, mjpeg]
  · intro spared
    exact ⟨_, next, rfl, cf.selectsCapability_of_selected ddi slot request
      (cf.selectedCapability_eq_of_not_leftOver ddi request spared) frame stored⟩

/-- A camera of `filter_list` that offers MJPEG only. -/
def filteredCamera : WebrtcCapDevInfo where
  name := "B990".toList
  webrtcId := "usb#vid_046d&pid_0828".toList
  productId := []
  capability := fun _ => ⟨0, 0, 0, 0, .unknown, .unknown, false⟩
  fmt := fun _ => ⟨.none, 0, 0, 0, 0⟩
  fmtCnt := 0

def mjpegOnly : List VideoCaptureCapability := [⟨1280, 720, 30, 0, .mjpeg, .unknown, false⟩]

def windowsFactory : WebrtcCapFactory where
  build := .windows
  mjpegLinux := false
  encWidth := 1280
  encHeight := 720
  videoDevicePropertiesMap := fun _ => none
  calculateDesiredWH := fun width height => (width, height)

theorem populateSupportedCapability_selects_mjpeg :
    ¬ ∃ added next,
      windowsFactory.populateSupportedCapability mjpegOnly filteredCamera (0 : Fin formatCapacity)
          ⟨1280, 720, maxFps⟩ = some (added, next) ∧
        windowsFactory.SelectsCapability filteredCamera 0 ⟨1280, 720, maxFps⟩ mjpegOnly added
          next := by
  intro selected
  obtain ⟨added, next, populated, selects⟩ := selected
  have isAdded : (windowsFactory.populateSupportedCapability mjpegOnly filteredCamera
      (0 : Fin formatCapacity) ⟨1280, 720, maxFps⟩).map
        (fun result => (result.1, (result.2.capability 0).rawType)) = some (true, .mjpeg) := by
    decide
  rw [populated] at isAdded
  obtain ⟨rfl, mjpeg⟩ := Prod.mk.inj (Option.some.inj isAdded)
  exact selects.noMjpeg rfl (by decide) mjpeg

/-- The same camera with YUY2 before the MJPEG capability. -/
theorem populateSupportedCapability_selects_yuy2 :
    filteredCamera.isScreen = false ∧
      ((∃ added next,
        windowsFactory.populateSupportedCapability
            (⟨1280, 720, 30, 0, .yuy2, .unknown, false⟩ :: mjpegOnly) filteredCamera
            (0 : Fin formatCapacity) ⟨1280, 720, maxFps⟩ = some (added, next) ∧
          windowsFactory.SelectsCapability filteredCamera 0 ⟨1280, 720, maxFps⟩
            (⟨1280, 720, 30, 0, .yuy2, .unknown, false⟩ :: mjpegOnly) added next) ↔
        ¬ windowsFactory.MjpegLeftOver filteredCamera ⟨1280, 720, maxFps⟩
          (⟨1280, 720, 30, 0, .yuy2, .unknown, false⟩ :: mjpegOnly)) :=
  ⟨by decide, populateSupportedCapability_selects_iff _ _ _ _ _ (by decide)⟩

end WebrtcCapFactory

end FiberApp.Capture
