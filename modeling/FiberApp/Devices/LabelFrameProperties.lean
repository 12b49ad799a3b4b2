import FiberApp.Devices.AutomaticMicProperties

/-! What computing the label leaves as it was. Asking for the automatic microphone
without a check still sets the count of the pending one to 20 and its levels back. -/

set_option autoImplicit false

namespace FiberApp.Devices

/-- Only the name of the first entry may differ. -/
def FirstRenamed (before after : List Device) : Prop :=
  ∃ name, after = DeviceChanges.relabelFirst name before

/-- Beyond the names of the first entries only a notification is posted. -/
structure DeviceChanges.LeavesDevices (before after : DeviceChanges) : Prop where
  capture : FirstRenamed before.saved.audioCapture after.saved.audioCapture
  playout : FirstRenamed before.saved.audioPlayout after.saved.audioPlayout
  video : after.saved.videoCapture = before.saved.videoCapture
  dev : after.dev = before.dev
  delayed : after.delayed = before.delayed
  notified : after.notified = before.notified ∨
    ∃ updatedDevicesList, after.notified = before.notified ++ [updatedDevicesList]

theorem DeviceChanges.leavesDevices_refl (changes : DeviceChanges) :
    changes.LeavesDevices changes := by
  have unchanged (devices : List Device) : FirstRenamed devices devices := by
    cases devices with
    | nil => exact ⟨"", rfl⟩
    | cons first rest => exact ⟨first.name, rfl⟩
  exact ⟨unchanged _, unchanged _, rfl, rfl, rfl, .inl rfl⟩

theorem DeviceChanges.leavesDevices_relabel (changes : DeviceChanges)
    (micName speakerName : String) :
    changes.LeavesDevices (changes.relabelAutomaticDevices micName speakerName) := by
  refine ⟨⟨_, rfl⟩, ⟨_, rfl⟩, rfl, rfl, rfl, ?_⟩
  simp only [relabelAutomaticDevices]
  split_ifs with empty
  · exact .inl rfl
  · exact .inr ⟨_, rfl⟩

namespace AudioManager

/-- The cache apart, only the names of the Automatic entries may differ. -/
structure LeavesSelection (before after : AudioManager) : Prop where
  changes : before.changes.LeavesDevices after.changes
  selectedDeviceOptions : after.selectedDeviceOptions = before.selectedDeviceOptions
  initMedia : after.initMedia = before.initMedia
  check : after.check = before.check

/-- A check as it is when it starts: 20 samples to take, none of them taken, and the
level is the one the signal meter shows, if that can be read. -/
structure JustStarted (check : MicLevelCheck) (inputSignalMeter : Option Nat) : Prop where
  count : check.autoLevelCheckCount = 20
  undetermined : check.levelDetermined = 0
  level : ∀ micLvl ∈ inputSignalMeter, micLvl = check.micLvl

/-- The label asks for the automatic microphone, which is not cached, while the default
microphone is built in. -/
structure LabelRestartsCheck (platform : AudioPlatform)
    (micSelection spkrSelection : AudioDeviceSelection) (spk : Endpoint)
    (manager : AudioManager) : Prop where
  selected : (manager.selectedDeviceOptions.microphoneId.isEmpty &&
    manager.selectedDeviceOptions.speakerId.isEmpty) = false
  asksMic : manager.labelAsksMic platform micSelection spkrSelection spk = true
  uncached : manager.autoSpkMic.isMicValid = false
  builtIn : manager.defaultMicBuiltIn platform = true

theorem restart_eq_iff (check : MicLevelCheck) (inputSignalMeter : Option Nat) :
    check.restart inputSignalMeter = check ↔ JustStarted check inputSignalMeter := by
  obtain ⟨micLvl, count, determined, pending⟩ := check
  simp only [MicLevelCheck.restart, MicLevelCheck.mk.injEq, and_true]
  constructor
  · intro same
    obtain ⟨level, counting, none⟩ := same
    refine ⟨counting.symm, none.symm, fun read member => ?_⟩
    rw [Option.mem_def.mp member] at level
    exact level
  · intro started
    refine ⟨?_, started.count.symm, started.undetermined.symm⟩
    cases inputSignalMeter with
    | none => rfl
    | some read => exact started.level read rfl

theorem recount_eq_iff (platform : AudioPlatform) (asked : Bool) (manager : AudioManager) :
    manager.recount platform asked = manager.check ↔
      (asked = true → manager.autoSpkMic.isMicValid = false →
        manager.defaultMicBuiltIn platform = true →
          JustStarted manager.check platform.inputSignalMeter) := by
  rw [← restart_eq_iff, recount]
  cases asked with
  | false => simp
  | true =>
      cases manager.autoSpkMic.isMicValid with
      | true => simp
      | false => cases manager.defaultMicBuiltIn platform <;> simp

theorem updateAutomaticDeviceLabel_frame (platform : AudioPlatform)
    (micSelection spkrSelection : AudioDeviceSelection) (mic spk : Endpoint)
    (manager : AudioManager) :
    let after := manager.updateAutomaticDeviceLabel platform micSelection spkrSelection mic spk
    manager.changes.LeavesDevices after.changes ∧
      after.selectedDeviceOptions = manager.selectedDeviceOptions := by
  obtain ⟨same, -⟩ := compute_spec platform micSelection spkrSelection mic spk manager
  simp only [updateAutomaticDeviceLabel]
  generalize LabelState.compute platform micSelection spkrSelection mic spk manager = label
    at same ⊢
  split_ifs with empty
  · exact ⟨manager.changes.leavesDevices_refl, rfl⟩
  · rw [same.changes]
    exact ⟨manager.changes.leavesDevices_relabel _ _, same.selectedDeviceOptions⟩

/-- Computing the label leaves the selection and the check as they are exactly if it does
not ask for a built-in default microphone, or the check has only just started. -/
theorem updateAutomaticDeviceLabel_leaves_iff (platform : AudioPlatform)
    (micSelection spkrSelection : AudioDeviceSelection) (mic spk : Endpoint)
    (manager : AudioManager) :
    manager.LeavesSelection
        (manager.updateAutomaticDeviceLabel platform micSelection spkrSelection mic spk) ↔
      (manager.LabelRestartsCheck platform micSelection spkrSelection spk →
        JustStarted manager.check platform.inputSignalMeter) := by
  obtain ⟨initMedia, check⟩ :=
    updateAutomaticDeviceLabel_spec platform micSelection spkrSelection mic spk manager
  obtain ⟨devices, options⟩ :=
    updateAutomaticDeviceLabel_frame platform micSelection spkrSelection mic spk manager
  have unchanged := manager.recount_eq_iff platform
    (!(manager.selectedDeviceOptions.microphoneId.isEmpty &&
        manager.selectedDeviceOptions.speakerId.isEmpty) &&
      manager.labelAsksMic platform micSelection spkrSelection spk)
  rw [← check, Bool.and_eq_true, Bool.not_eq_true'] at unchanged
  constructor
  · intro leaves restarts
    exact unchanged.mp leaves.check ⟨restarts.selected, restarts.asksMic⟩ restarts.uncached
      restarts.builtIn
  · intro started
    refine ⟨devices, options, initMedia, unchanged.mpr ?_⟩
    intro asked uncached builtIn
    exact started ⟨asked.1, asked.2, uncached, builtIn⟩

/-- The built-in microphone is being checked when both devices are selected by hand. -/
def checkedManager : AudioManager :=
  { headsetManager with
    check := ⟨7, 5, 15, 1⟩
    selectedDeviceOptions :=
      ⟨"Microphone Array", "array", "Speakers", "speakers", .manual, .manual⟩ }

theorem updateAutomaticDeviceLabel_restarts :
    ¬ ∀ (platform : AudioPlatform) (micSelection spkrSelection : AudioDeviceSelection)
        (mic spk : Endpoint) (manager : AudioManager),
      manager.LeavesSelection
        (manager.updateAutomaticDeviceLabel platform micSelection spkrSelection mic spk) := by
  intro leaves
  have check := (leaves AudioPlatform.headsetPlatform .manual .manual ⟨"array", "Microphone Array"⟩
    ⟨"speakers", "Speakers"⟩ checkedManager).check
  revert check
  decide +kernel

end AudioManager

end FiberApp.Devices
