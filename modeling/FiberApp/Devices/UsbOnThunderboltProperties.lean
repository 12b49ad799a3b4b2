import FiberApp.Devices.ReconciliationProperties
import FiberApp.Devices.UsbOnThunderbolt

/-! The map of devices on Thunderbolt against the saved lists. One entry stands for a GUID in
both lists, so a removal from one of them can take the entry of a device that is still saved. -/

set_option autoImplicit false

namespace FiberApp.Devices

open Foundation

def DeviceChanges.IsSaved (changes : DeviceChanges) (devGuid : String) : Prop :=
  devGuid ∈ ids changes.saved.audioCapture ∨ devGuid ∈ ids changes.saved.audioPlayout

instance (changes : DeviceChanges) (devGuid : String) : Decidable (changes.IsSaved devGuid) :=
  inferInstanceAs (Decidable (_ ∨ _))

/-- The devices together with the GUIDs that are recorded: from the update that finds one on
Thunderbolt until no list saves it. -/
structure RecordedDevices where
  devices : ThunderboltDevices
  recorded : String → Bool

/-- The GUIDs in the map are saved, and the query knows every saved one that is recorded. -/
structure MapFollowsDevices (build : ThunderboltBuild) (state : RecordedDevices) : Prop where
  saved : ∀ devGuid, state.devices.usbOnThnMap devGuid ≠ none →
    state.devices.changes.IsSaved devGuid
  answers : ∀ devGuid, state.devices.changes.IsSaved devGuid → state.recorded devGuid = true →
    isUsbDeviceInThnMap build state.devices.usbOnThnMap devGuid = true

/-- A device that an update adds, with the list it is in. -/
structure Arrival where
  devName : String
  devGuid : String
  capture : Bool
  deriving DecidableEq

section Enter

variable (build : ThunderboltBuild) (hardware : ThunderboltHardware)

/-- The value a GUID has after these arrivals: its own, or that of the first one with it. -/
def enteredAs (usbOnThnMap : UsbOnThnMap) (arrivals : List Arrival) (devGuid : String) :
    Option Bool :=
  (usbOnThnMap devGuid).or ((arrivals.find? (·.devGuid = devGuid)).map fun arrival =>
    isOnThn build hardware arrival.devName arrival.devGuid arrival.capture)

/-- Every arrival that enters as one on Thunderbolt is looked up under such an entry. -/
def AllFound (usbOnThnMap : UsbOnThnMap) (arrivals : List Arrival) : Prop :=
  ∀ arrival ∈ arrivals, usbOnThnMap arrival.devGuid = none →
    enteredAs build hardware usbOnThnMap arrivals arrival.devGuid = some true →
    enteredAs build hardware usbOnThnMap arrivals (fixedDevGuid build arrival.devGuid) =
      some true

def enterAll (usbOnThnMap : UsbOnThnMap) (arrivals : List Arrival) : UsbOnThnMap :=
  arrivals.foldl (fun usbOnThnMap arrival => updateUsbOnThunderboltMap build hardware usbOnThnMap
    arrival.devName arrival.devGuid true arrival.capture) usbOnThnMap

variable {build hardware}

theorem updateUsbOnThunderboltMap_added (usbOnThnMap : UsbOnThnMap)
    (devName devGuid : String) (capture : Bool) (other : String) :
    updateUsbOnThunderboltMap build hardware usbOnThnMap devName devGuid true capture other =
      (usbOnThnMap other).or
        (if devGuid = other then some (isOnThn build hardware devName devGuid capture)
          else none) := by
  unfold updateUsbOnThunderboltMap
  cases present : usbOnThnMap devGuid with
  | none =>
      by_cases same : devGuid = other
      · subst same
        simp [present]
      · simp [Function.update_of_ne (Ne.symm same), same]
  | some value =>
      by_cases same : devGuid = other
      · subst same
        simp [present]
      · simp [same]

theorem updateUsbOnThunderboltMap_removed (usbOnThnMap : UsbOnThnMap)
    (devName devGuid : String) (capture : Bool) (other : String) :
    updateUsbOnThunderboltMap build hardware usbOnThnMap devName devGuid false capture other =
      if other = devGuid then none else usbOnThnMap other := by
  unfold updateUsbOnThunderboltMap
  cases present : usbOnThnMap devGuid with
  | none =>
      split
      case isTrue same =>
        rw [same]
        exact present
      case isFalse => rfl
  | some value => exact Function.update_apply usbOnThnMap devGuid none other

theorem enterAll_apply (usbOnThnMap : UsbOnThnMap) (arrivals : List Arrival)
    (devGuid : String) :
    enterAll build hardware usbOnThnMap arrivals devGuid =
      enteredAs build hardware usbOnThnMap arrivals devGuid := by
  induction arrivals generalizing usbOnThnMap with
  | nil => simp [enterAll, enteredAs]
  | cons arrival rest ih =>
      have first := ih (updateUsbOnThunderboltMap build hardware usbOnThnMap arrival.devName
        arrival.devGuid true arrival.capture)
      rw [enterAll, List.foldl_cons, ← enterAll, first, enteredAs, enteredAs,
        updateUsbOnThunderboltMap_added, Option.or_assoc]
      by_cases same : arrival.devGuid = devGuid
      · simp [same]
      · simp [same]

theorem updateUsbOnThunderboltMapAll_added (usbOnThnMap : UsbOnThnMap) (devList : List Device)
    (capture : Bool) :
    updateUsbOnThunderboltMapAll build hardware devList true capture usbOnThnMap =
      enterAll build hardware usbOnThnMap
        (devList.map fun dev => ⟨dev.name, dev.id, capture⟩) := by
  rw [enterAll, List.foldl_map, updateUsbOnThunderboltMapAll]

end Enter

/-! What one step can do. -/

def arrivalsOf (saved : DeviceLists) : List Arrival :=
  saved.audioCapture.map (fun dev => ⟨dev.name, dev.id, true⟩) ++
    saved.audioPlayout.map fun dev => ⟨dev.name, dev.id, false⟩

def arrivalOf (dev : ChangeDevInfo) : Arrival :=
  ⟨dev.devName, dev.devGuid, decide (dev.devType = .audioIn)⟩

/-- An update that enters devices finds them again, and an update that removes a GUID removes
no entry under which a saved and recorded device is looked up. -/
def Accepts (options : ThunderboltOptions) (state : RecordedDevices) : ThunderboltStep → Prop
  | .getPlatformDevices hardware platform =>
      options.depreferUsbOnThunderbolt = true →
        AllFound options.build hardware state.devices.usbOnThnMap
          (arrivalsOf (state.devices.changes.copyPlatformDevices platform).saved)
  | .devicesChanged hardware platform retry =>
      retry ∈ state.devices.changes.delayed → ∀ found,
        ThunderboltDevices.findAndSetDevice platform
            (state.devices.changes.takeDevicesChanged retry) = some found →
          found.dev.devType ≠ .video → options.depreferUsbOnThunderbolt = true →
            if state.devices.changes.dev.devAction = .added then
              AllFound options.build hardware state.devices.usbOnThnMap [arrivalOf found.dev]
            else
              ∀ devGuid, found.IsSaved devGuid → state.recorded devGuid = true →
                fixedDevGuid options.build devGuid ≠ found.dev.devGuid
  | _ => True

namespace RecordedDevices

def start : RecordedDevices := ⟨.initial, fun _ => false⟩

def step (options : ThunderboltOptions) (state : RecordedDevices) (label : ThunderboltStep) :
    Option RecordedDevices :=
  (state.devices.step options label).map fun next => ⟨next, fun devGuid =>
    decide (next.changes.IsSaved devGuid) &&
      (state.recorded devGuid || next.usbOnThnMap devGuid == some true)⟩

end RecordedDevices

inductive Effect (options : ThunderboltOptions) (state : RecordedDevices)
    (label : ThunderboltStep) (next : ThunderboltDevices) : Prop
  | keeps (sameMap : next.usbOnThnMap = state.devices.usbOnThnMap)
      (sameSaved : ∀ devGuid, next.changes.IsSaved devGuid ↔
        state.devices.changes.IsSaved devGuid)
      (accepts : Accepts options state label)
  | unmapped (off : options.depreferUsbOnThunderbolt = false)
      (sameMap : next.usbOnThnMap = state.devices.usbOnThnMap)
      (accepts : Accepts options state label)
  | enters (hardware : ThunderboltHardware) (arrivals : List Arrival)
      (on : options.depreferUsbOnThunderbolt = true)
      (map : next.usbOnThnMap =
        enterAll options.build hardware state.devices.usbOnThnMap arrivals)
      (kept : ∀ devGuid, state.devices.changes.IsSaved devGuid → next.changes.IsSaved devGuid)
      (arrived : ∀ arrival ∈ arrivals, next.changes.IsSaved arrival.devGuid)
      (accepts : Accepts options state label ↔
        AllFound options.build hardware state.devices.usbOnThnMap arrivals)
  | leaves (removed : String) (on : options.depreferUsbOnThunderbolt = true)
      (map : ∀ devGuid, next.usbOnThnMap devGuid =
        if devGuid = removed then none else state.devices.usbOnThnMap devGuid)
      (kept : ∀ devGuid, devGuid ≠ removed → state.devices.changes.IsSaved devGuid →
        next.changes.IsSaved devGuid)
      (accepts : Accepts options state label ↔
        ∀ devGuid, next.changes.IsSaved devGuid → state.recorded devGuid = true →
          fixedDevGuid options.build devGuid ≠ removed)

namespace DeviceChanges

theorem isSaved_iff_list {changes : DeviceChanges} {devGuid : String} :
    changes.IsSaved devGuid ↔ devGuid ∈ ids (changes.saved.list .audioIn) ∨
      devGuid ∈ ids (changes.saved.list .audioOut) :=
  Iff.rfl

theorem isSaved_copyPlatformDevices {changes : DeviceChanges} {platform : DeviceLists}
    {devGuid : String} (saved : changes.IsSaved devGuid) :
    (changes.copyPlatformDevices platform).IsSaved devGuid := by
  simp only [IsSaved, copyPlatformDevices, deviceCpy, ids, List.map_append, List.mem_append]
    at saved ⊢
  exact saved.imp .inl .inl

theorem isSaved_relabelAutomaticDevices (changes : DeviceChanges)
    (sAutoMicName sAutoSpeakerName devGuid : String) :
    (changes.relabelAutomaticDevices sAutoMicName sAutoSpeakerName).IsSaved devGuid ↔
      changes.IsSaved devGuid := by
  have sameIds (name : String) (devices : List Device) :
      ids (relabelFirst name devices) = ids devices := by cases devices <;> rfl
  simp only [IsSaved, relabelAutomaticDevices, sameIds]

theorem isSaved_retryOnce (changes : DeviceChanges) (retry : Bool) (devGuid : String) :
    (changes.retryOnce retry).IsSaved devGuid ↔ changes.IsSaved devGuid := by
  cases retry <;> rfl

theorem isSaved_of_addsOne {platform : DeviceLists} {type : DevType} (known : type ≠ .devNone)
    {changes next : DeviceChanges} (added : AddsOne type platform changes next)
    (devGuid : String) :
    next.IsSaved devGuid ↔
      changes.IsSaved devGuid ∨ (next.dev.devType ≠ .video ∧ devGuid = next.dev.devGuid) := by
  obtain ⟨before, device, after, _, _, _, rfl⟩ := added
  simp only [isSaved_iff_list, DeviceLists.list_withList _ _ known]
  cases type with
  | devNone => exact absurd rfl known
  | audioIn => simp [ids, or_right_comm]
  | audioOut => simp [ids, or_assoc]
  | video => simp

theorem isSaved_of_removesOne {platform : DeviceLists} {type : DevType}
    (known : type ≠ .devNone) {changes next : DeviceChanges}
    (removed : RemovesOne type platform changes next) {devGuid : String}
    (other : next.dev.devType = .video ∨ devGuid ≠ next.dev.devGuid) :
    next.IsSaved devGuid ↔ changes.IsSaved devGuid := by
  obtain ⟨before, device, after, split, _, _, rfl⟩ := removed
  simp only [isSaved_iff_list, DeviceLists.list_withList _ _ known]
  cases type with
  | devNone => exact absurd rfl known
  | audioIn =>
      have apart : devGuid ≠ device.id := by simpa using other
      simp [split, ids, apart]
  | audioOut =>
      have apart : devGuid ≠ device.id := by simpa using other
      simp [split, ids, apart]
  | video => simp

end DeviceChanges

namespace ThunderboltDevices

variable {options : ThunderboltOptions} {state : RecordedDevices}

theorem getPlatformDevices_effect (hardware : ThunderboltHardware) (platform : DeviceLists) :
    Effect options state (.getPlatformDevices hardware platform)
      (state.devices.getPlatformDevices options hardware platform) := by
  cases feature : options.depreferUsbOnThunderbolt with
  | false =>
      refine .unmapped feature ?_ fun on => ?_
      · simp [getPlatformDevices, feature]
      · rw [feature] at on
        cases on
  | true =>
      refine .enters hardware
        (arrivalsOf (state.devices.changes.copyPlatformDevices platform).saved) feature ?_ ?_ ?_
        ⟨fun accepted => accepted feature, fun found _ => found⟩
      · simp only [getPlatformDevices, feature, if_true, updateUsbOnThunderboltMapAll_added,
          arrivalsOf, enterAll, List.foldl_append]
      · intro devGuid saved
        simp only [getPlatformDevices, feature, if_true]
        exact DeviceChanges.isSaved_copyPlatformDevices saved
      · intro arrival member
        simp only [getPlatformDevices, feature, if_true]
        rcases List.mem_append.mp member with capture | playout
        · obtain ⟨device, saved, rfl⟩ := List.mem_map.mp capture
          exact .inl (mem_ids saved)
        · obtain ⟨device, saved, rfl⟩ := List.mem_map.mp playout
          exact .inr (mem_ids saved)

theorem onDevicesChange_dev (changes : DeviceChanges) (dAction : Bool) :
    (changes.onDevicesChange dAction).dev =
      { changes.dev with devAction := if dAction then .added else .removed } :=
  rfl

theorem takeDevicesChanged_dev (changes : DeviceChanges) (retry : Bool) :
    (changes.takeDevicesChanged retry).dev = changes.dev :=
  rfl

theorem isSaved_of_video {platform : DeviceLists} {changes found : DeviceChanges}
    (pass : findAndSetDevice platform changes = some found) (video : found.dev.devType = .video)
    (devGuid : String) : found.IsSaved devGuid ↔ changes.IsSaved devGuid := by
  unfold findAndSetDevice at pass
  split at pass
  case isTrue =>
    obtain ⟨type, known, added⟩ := DeviceChanges.findAndSetAddedDevice_some pass
    simp [DeviceChanges.isSaved_of_addsOne known added, video]
  case isFalse =>
    obtain ⟨type, known, removed, _⟩ := DeviceChanges.findAndSetRemovedDevice_some pass
    exact DeviceChanges.isSaved_of_removesOne known removed (.inl video)

theorem accepts_devicesChanged (options : ThunderboltOptions) (hardware : ThunderboltHardware)
    {platform : DeviceLists} {retry : Bool}
    (pending : retry ∈ state.devices.changes.delayed) {found : DeviceChanges}
    (pass : findAndSetDevice platform (state.devices.changes.takeDevicesChanged retry) =
      some found) :
    Accepts options state (.devicesChanged hardware platform retry) ↔
      (found.dev.devType ≠ .video → options.depreferUsbOnThunderbolt = true →
        if state.devices.changes.dev.devAction = .added then
          AllFound options.build hardware state.devices.usbOnThnMap [arrivalOf found.dev]
        else
          ∀ devGuid, found.IsSaved devGuid → state.recorded devGuid = true →
            fixedDevGuid options.build devGuid ≠ found.dev.devGuid) := by
  simp only [Accepts, pass, Option.some.injEq, pending, forall_const, forall_eq']

theorem handleDevicesChanged_effect (hardware : ThunderboltHardware) (platform : DeviceLists)
    {retry : Bool} (pending : retry ∈ state.devices.changes.delayed) :
    Effect options state (.devicesChanged hardware platform retry)
      ({ state.devices with changes := state.devices.changes.takeDevicesChanged retry }
        |>.handleDevicesChanged options hardware platform retry) := by
  cases pass : findAndSetDevice platform (state.devices.changes.takeDevicesChanged retry) with
  | none =>
      simp only [handleDevicesChanged, pass]
      refine .keeps rfl (DeviceChanges.isSaved_retryOnce _ retry) ?_
      intro _ found same
      rw [pass] at same
      cases same
  | some found =>
      have accepts := accepts_devicesChanged options hardware pending pass
      simp only [handleDevicesChanged, pass]
      by_cases video : found.dev.devType = .video
      case pos =>
        refine .keeps (if_neg fun updates => updates.1 video) ?_
          (accepts.mpr fun other => absurd video other)
        exact fun devGuid => isSaved_of_video pass video devGuid
      cases feature : options.depreferUsbOnThunderbolt with
      | false =>
          refine .unmapped feature (if_neg fun updates => ?_) (accepts.mpr fun _ on => ?_)
          · exact Bool.false_ne_true updates.2
          · rw [feature] at on
            cases on
      | true =>
          simp only [feature, video, ne_eq, not_false_eq_true, forall_const] at accepts
          by_cases action : state.devices.changes.dev.devAction = .added
          case pos =>
            rw [if_pos action] at accepts
            rw [findAndSetDevice, takeDevicesChanged_dev, if_pos action] at pass
            obtain ⟨type, known, added⟩ := DeviceChanges.findAndSetAddedDevice_some pass
            have saved := DeviceChanges.isSaved_of_addsOne known added
            refine .enters hardware [arrivalOf found.dev] feature ?_ ?_ ?_ accepts
            · simp only [onDevicesChange_dev, takeDevicesChanged_dev, action, video, ne_eq,
                not_false_eq_true, and_self, if_true, decide_true]
              rfl
            · exact fun devGuid before => (saved devGuid).mpr (.inl before)
            · intro arrival member
              cases List.mem_singleton.mp member
              exact (saved _).mpr (.inr ⟨video, rfl⟩)
          case neg =>
            rw [if_neg action] at accepts
            rw [findAndSetDevice, takeDevicesChanged_dev, if_neg action] at pass
            obtain ⟨type, known, removed, _⟩ := DeviceChanges.findAndSetRemovedDevice_some pass
            refine .leaves found.dev.devGuid feature ?_ ?_ accepts
            · intro devGuid
              simp only [onDevicesChange_dev, takeDevicesChanged_dev, action, video, ne_eq,
                not_false_eq_true, and_self, if_true, decide_false]
              exact updateUsbOnThunderboltMap_removed _ _ _ _ devGuid
            · exact fun devGuid other before =>
                (DeviceChanges.isSaved_of_removesOne known removed (.inr other)).mpr before

theorem step_effect {label : ThunderboltStep} {next : ThunderboltDevices}
    (taken : state.devices.step options label = some next) : Effect options state label next := by
  cases label with
  | getPlatformDevices hardware platform =>
      cases taken
      exact getPlatformDevices_effect hardware platform
  | onDevicesChange dAction =>
      cases taken
      exact .keeps rfl (fun _ => Iff.rfl) trivial
  | devicesChanged hardware platform retry =>
      simp only [step] at taken
      split at taken
      case isTrue pending =>
        cases taken
        exact handleDevicesChanged_effect hardware platform pending
      case isFalse => cases taken
  | relabelAutomaticDevices sAutoMicName sAutoSpeakerName =>
      cases taken
      exact .keeps rfl (DeviceChanges.isSaved_relabelAutomaticDevices _ _ _) trivial

/-- The handler treats the lists as if there were no map. -/
theorem handleDevicesChanged_changes (hardware : ThunderboltHardware) (platform : DeviceLists)
    (retry : Bool) (devices : ThunderboltDevices) :
    (devices.handleDevicesChanged options hardware platform retry).changes =
      devices.changes.handleDevicesChanged platform retry := by
  by_cases action : devices.changes.dev.devAction = .added
  · cases pass : devices.changes.findAndSetAddedDevice platform <;>
      simp [handleDevicesChanged, findAndSetDevice, DeviceChanges.handleDevicesChanged, action,
        pass]
  · cases pass : devices.changes.findAndSetRemovedDevice platform <;>
      simp [handleDevicesChanged, findAndSetDevice, DeviceChanges.handleDevicesChanged, action,
        pass]

end ThunderboltDevices

/-! The map over whole runs. -/

structure OnlySaved (options : ThunderboltOptions) (state : RecordedDevices) : Prop where
  saved : ∀ devGuid, state.devices.usbOnThnMap devGuid ≠ none →
    state.devices.changes.IsSaved devGuid
  unmapped : options.depreferUsbOnThunderbolt = false →
    ∀ devGuid, state.devices.usbOnThnMap devGuid = none

structure Followed (options : ThunderboltOptions) (state : RecordedDevices) : Prop
    extends OnlySaved options state where
  found : ∀ devGuid, state.recorded devGuid = true →
    state.devices.usbOnThnMap (fixedDevGuid options.build devGuid) = some true
  true_recorded : ∀ devGuid, state.devices.usbOnThnMap devGuid = some true →
    state.recorded devGuid = true
  unrecorded : options.depreferUsbOnThunderbolt = false →
    ∀ devGuid, state.recorded devGuid = false

theorem isUsbDeviceInThnMap_iff {build : ThunderboltBuild} {usbOnThnMap : UsbOnThnMap}
    {devGuid : String} :
    isUsbDeviceInThnMap build usbOnThnMap devGuid = true ↔
      usbOnThnMap (fixedDevGuid build devGuid) = some true := by
  unfold isUsbDeviceInThnMap
  cases usbOnThnMap (fixedDevGuid build devGuid) <;> simp

theorem enteredAs_eq_some {build : ThunderboltBuild} {hardware : ThunderboltHardware}
    {usbOnThnMap : UsbOnThnMap} {arrivals : List Arrival} {devGuid : String} {value : Bool}
    (entered : enteredAs build hardware usbOnThnMap arrivals devGuid = some value) :
    usbOnThnMap devGuid = some value ∨
      usbOnThnMap devGuid = none ∧ ∃ arrival ∈ arrivals, arrival.devGuid = devGuid := by
  unfold enteredAs at entered
  cases present : usbOnThnMap devGuid with
  | some old =>
      rw [present, Option.some_or] at entered
      exact .inl entered
  | none =>
      rw [present, Option.none_or, Option.map_eq_some_iff] at entered
      obtain ⟨arrival, first, _⟩ := entered
      have same := List.find?_some first
      exact .inr ⟨rfl, arrival, List.mem_of_find?_eq_some first, of_decide_eq_true same⟩

theorem enteredAs_of_some {build : ThunderboltBuild} {hardware : ThunderboltHardware}
    {usbOnThnMap : UsbOnThnMap} (arrivals : List Arrival) {devGuid : String} {value : Bool}
    (present : usbOnThnMap devGuid = some value) :
    enteredAs build hardware usbOnThnMap arrivals devGuid = some value := by
  rw [enteredAs, present, Option.some_or]

namespace RecordedDevices

variable {options : ThunderboltOptions} {state : RecordedDevices}

theorem step_eq_some {label : ThunderboltStep} {next : RecordedDevices}
    (taken : state.step options label = some next) :
    Effect options state label next.devices ∧
      ∀ devGuid, next.recorded devGuid = true ↔ next.devices.changes.IsSaved devGuid ∧
        (state.recorded devGuid = true ∨ next.devices.usbOnThnMap devGuid = some true) := by
  obtain ⟨devices, stepped, rfl⟩ := Option.map_eq_some_iff.mp taken
  refine ⟨ThunderboltDevices.step_effect stepped, fun devGuid => ?_⟩
  simp

theorem start_followed : Followed options start where
  saved := fun _ present => absurd rfl present
  unmapped := fun _ _ => rfl
  found := fun _ recorded => absurd recorded Bool.false_ne_true
  true_recorded := fun _ present => absurd present (Option.some_ne_none true).symm
  unrecorded := fun _ _ => rfl

theorem follows_of_followed (followed : Followed options state) :
    MapFollowsDevices options.build state where
  saved := followed.saved
  answers := fun devGuid _ known => isUsbDeviceInThnMap_iff.mpr (followed.found devGuid known)

/-- Whatever the steps are, only saved GUIDs are in the map. -/
theorem step_onlySaved {label : ThunderboltStep} {next : RecordedDevices}
    (only : OnlySaved options state) (taken : state.step options label = some next) :
    OnlySaved options next := by
  cases (step_eq_some taken).1 with
  | keeps sameMap sameSaved _ =>
      refine ⟨fun devGuid present => ?_, fun off => ?_⟩
      · rw [sameMap] at present
        exact (sameSaved devGuid).mpr (only.saved devGuid present)
      · rw [sameMap]
        exact only.unmapped off
  | unmapped off sameMap _ =>
      have empty : ∀ devGuid, next.devices.usbOnThnMap devGuid = none := by
        rw [sameMap]
        exact only.unmapped off
      exact ⟨fun devGuid present => absurd (empty devGuid) present, fun _ => empty⟩
  | enters hardware arrivals on map kept arrived _ =>
      refine ⟨fun devGuid present => ?_, fun off => absurd (on.symm.trans off) (by decide)⟩
      rw [map, enterAll_apply] at present
      obtain ⟨value, entered⟩ := Option.ne_none_iff_exists'.mp present
      rcases enteredAs_eq_some entered with old | ⟨_, arrival, member, rfl⟩
      · exact kept devGuid (only.saved devGuid (by simp [old]))
      · exact arrived arrival member
  | leaves removed on map kept _ =>
      refine ⟨fun devGuid present => ?_, fun off => absurd (on.symm.trans off) (by decide)⟩
      rw [map, ne_eq, ite_eq_left_iff, Classical.not_imp] at present
      exact kept devGuid present.1 (only.saved devGuid present.2)

theorem step_found {label : ThunderboltStep} {next : RecordedDevices}
    (followed : Followed options state) (accepted : Accepts options state label)
    (taken : state.step options label = some next) (devGuid : String)
    (known : next.recorded devGuid = true) :
    next.devices.usbOnThnMap (fixedDevGuid options.build devGuid) = some true := by
  obtain ⟨effect, recorded⟩ := step_eq_some taken
  obtain ⟨saved, known⟩ := (recorded devGuid).mp known
  cases effect with
  | keeps sameMap _ _ =>
      rw [sameMap] at known ⊢
      exact followed.found devGuid (known.elim id (followed.true_recorded devGuid))
  | unmapped off sameMap _ =>
      rw [sameMap, followed.unmapped off devGuid, followed.unrecorded off devGuid] at known
      simp at known
  | enters hardware arrivals _ map _ _ accepts =>
      rw [map, enterAll_apply] at known ⊢
      rcases known with known | entered
      · exact enteredAs_of_some arrivals (followed.found devGuid known)
      · rcases enteredAs_eq_some entered with old | ⟨new, arrival, member, rfl⟩
        · have known := followed.true_recorded devGuid old
          exact enteredAs_of_some arrivals (followed.found devGuid known)
        · exact accepts.mp accepted arrival member new entered
  | leaves removed _ map _ accepts =>
      have before : state.recorded devGuid = true := by
        rcases known with known | present
        · exact known
        · rw [map] at present
          split at present
          · cases present
          · exact followed.true_recorded devGuid present
      rw [map, if_neg (accepts.mp accepted devGuid saved before)]
      exact followed.found devGuid before

/-- An accepted step keeps the map in line with the lists. -/
theorem step_followed {label : ThunderboltStep} {next : RecordedDevices}
    (followed : Followed options state) (accepted : Accepts options state label)
    (taken : state.step options label = some next) : Followed options next := by
  have only := step_onlySaved followed.toOnlySaved taken
  obtain ⟨_, recorded⟩ := step_eq_some taken
  refine ⟨only, step_found followed accepted taken, fun devGuid present => ?_,
    fun off devGuid => ?_⟩
  · have saved := only.saved devGuid (by simp [present])
    exact (recorded devGuid).mpr ⟨saved, .inr present⟩
  · refine Bool.eq_false_iff.mpr fun known => ?_
    obtain ⟨_, before | present⟩ := (recorded devGuid).mp known
    · exact Bool.false_ne_true ((followed.unrecorded off devGuid).symm.trans before)
    · exact Option.some_ne_none true (present.symm.trans (only.unmapped off devGuid))

/-- A step that is not accepted leaves a saved and recorded GUID without its answer. -/
theorem step_lost {label : ThunderboltStep} (refused : ¬ Accepts options state label)
    {next : RecordedDevices} (taken : state.step options label = some next) :
    ¬ MapFollowsDevices options.build next := by
  intro follows
  obtain ⟨effect, recorded⟩ := step_eq_some taken
  cases effect with
  | keeps _ _ accepts => exact refused accepts
  | unmapped _ _ accepts => exact refused accepts
  | enters hardware arrivals _ map _ arrived accepts =>
      refine refused (accepts.mpr fun arrival member new entered => ?_)
      have saved := arrived arrival member
      have known := (recorded arrival.devGuid).mpr
        ⟨saved, .inr (by rw [map, enterAll_apply, entered])⟩
      have answer := isUsbDeviceInThnMap_iff.mp (follows.answers _ saved known)
      rwa [map, enterAll_apply] at answer
  | leaves removed _ map _ accepts =>
      refine refused (accepts.mpr fun devGuid saved before same => ?_)
      have known := (recorded devGuid).mpr ⟨saved, .inl before⟩
      have answer := isUsbDeviceInThnMap_iff.mp (follows.answers _ saved known)
      rw [map, if_pos same] at answer
      exact Option.some_ne_none true answer.symm

theorem step_enabled {label : ThunderboltStep} (refused : ¬ Accepts options state label) :
    ∃ next, state.step options label = some next := by
  cases label with
  | getPlatformDevices hardware platform => exact ⟨_, rfl⟩
  | onDevicesChange dAction => exact absurd trivial refused
  | devicesChanged hardware platform retry =>
      obtain ⟨pending, _⟩ := Classical.not_imp.mp refused
      exact ⟨_, congrArg (Option.map _) (if_pos pending)⟩
  | relabelAutomaticDevices sAutoMicName sAutoSpeakerName => exact absurd trivial refused

/-- The map follows the saved devices throughout a run exactly where every update is
accepted. -/
theorem mapFollowsDevices_iff (options : ThunderboltOptions) (labels : List ThunderboltStep) :
    Throughout (step options) (MapFollowsDevices options.build) start labels ↔
      Guarded (step options) (Accepts options) start labels :=
  throughout_iff_guarded (Followed options) (fun _ => follows_of_followed)
    (fun _ _ _ followed accepted taken => step_followed followed accepted taken)
    (fun _ _ _ refused =>
      have ⟨next, taken⟩ := step_enabled refused
      ⟨next, taken, step_lost refused taken⟩)
    start_followed

/-! A headset on Thunderbolt that is in both lists under one GUID. -/

def headset : Device := ⟨"Headset", "headset", false⟩

def builtInMic : Device := ⟨"Built-in Microphone", "builtin", true⟩

def macOptions : ThunderboltOptions := ⟨⟨true, id⟩, true⟩

def headsetHardware : ThunderboltHardware where
  getAudioHardwareIdFromDeviceId := fun _ _ devGuid =>
    if devGuid = "headset" then some ⟨"0D8C", "0014", "USB"⟩ else none
  isUSBDeviceOnThunderboltMac := fun vendorId productId => vendorId == 3468 && productId == 20

/-- Once its microphone is gone, the speaker that is still saved is no longer known. -/
def microphoneLeaves : List ThunderboltStep :=
  [.getPlatformDevices headsetHardware
      (platformLists ⟨[builtInMic, headset], [headset], []⟩),
    .onDevicesChange false,
    .devicesChanged headsetHardware (platformLists ⟨[builtInMic], [headset], []⟩) true]

theorem microphoneLeaves_not_followed :
    ¬ Throughout (step macOptions) (MapFollowsDevices macOptions.build) start
      microphoneLeaves := by
  intro holds
  have reached : ∃ final, execute (step macOptions) start microphoneLeaves = some final ∧
      final.devices.changes.IsSaved "headset" ∧ final.recorded "headset" = true ∧
        isUsbDeviceInThnMap macOptions.build final.devices.usbOnThnMap "headset" = false :=
    ⟨_, rfl, by decide, by decide, by decide⟩
  obtain ⟨final, executed, saved, recorded, unknown⟩ := reached
  have answer := (holds.reached executed).answers "headset" saved recorded
  exact Bool.false_ne_true (unknown.symm.trans answer)

end RecordedDevices

end FiberApp.Devices
