import FiberApp.Audio.AudioEngine
import FiberApp.Foundation.Execution

/-! The gate of the level monitors around `enableAudioEngine`. A device that was not opened
leaves the gate as if its change were still going on. -/

set_option autoImplicit false

namespace FiberApp.Audio

open Foundation

namespace LevelMonitors

@[simp] theorem platformPreDeviceOperation_inProgress (state : LevelMonitors) :
    state.platformPreDeviceOperation.deviceChangeInProgress = true := rfl

theorem monitorSpeakerMic_inProgress (speakerReplies micReplies : SettingReplies)
    (state : LevelMonitors) :
    (monitorSpeakerMic speakerReplies micReplies state).deviceChangeInProgress =
      state.deviceChangeInProgress := by
  simp only [monitorSpeakerMic]
  split <;> rfl

@[simp] theorem platformPostDeviceOperation_inProgress (speakerReplies micReplies : SettingReplies)
    (state : LevelMonitors) :
    (state.platformPostDeviceOperation speakerReplies micReplies).deviceChangeInProgress =
      false := by
  rw [platformPostDeviceOperation, monitorSpeakerMic_inProgress]

end LevelMonitors

namespace AudioEngine

variable (engine : AudioEngine) (outcomes : EngineOutcomes)

/-- `aud_dev_change_inprogress_`. -/
def deviceChangeInProgress : Bool := engine.monitors.deviceChangeInProgress

def GateOpen : Prop := engine.deviceChangeInProgress = false

@[simp] theorem sendAudioEngineState_monitors :
    engine.sendAudioEngineState.monitors = engine.monitors := by
  unfold sendAudioEngineState
  split <;> rfl

@[simp] theorem closeDevice_monitors :
    (engine.closeDevice outcomes).monitors = engine.monitors := by
  unfold closeDevice
  simp only
  split <;> split <;> rfl

/-- The device is opened, and that fails or leaves no sound device active. -/
def OpensInVain (request : Bool × EngineOutcomes) : Prop :=
  engine.enableDisableAudioEngine = true ∧ engine.audioEngineEnabled = false ∧
    request.1 = true ∧ request.2.wasActive = false ∧
    ¬ (request.2.setSndDevStatus = pjSuccess ∧ request.2.isActive = true)

theorem openDevice_inProgress :
    (engine.openDevice outcomes).deviceChangeInProgress =
      if outcomes.wasActive then engine.deviceChangeInProgress
      else !(outcomes.setSndDevStatus = pjSuccess && outcomes.isActive) := by
  unfold openDevice
  split
  · rfl
  · cases opened : (decide (outcomes.setSndDevStatus = pjSuccess) && outcomes.isActive) with
    | true => simp [deviceChangeInProgress]
    | false => simp [deviceChangeInProgress, call]

/-- With an open gate a call leaves it open exactly when it does not open the device in
vain. -/
theorem step_inProgress_iff (isOpen : engine.deviceChangeInProgress = false)
    (request : Bool × EngineOutcomes) :
    (engine.step request).deviceChangeInProgress = false ↔ ¬ engine.OpensInVain request := by
  obtain ⟨enable, outcomes⟩ := request
  unfold step enableAudioEngine
  cases feature : engine.enableDisableAudioEngine with
  | false => simp [OpensInVain, feature, isOpen]
  | true =>
      by_cases already : engine.audioEngineEnabled = enable
      · have spared : ¬ engine.OpensInVain (enable, outcomes) := by
          rintro ⟨-, disabled, isEnable, -⟩
          cases isEnable
          rw [already] at disabled
          cases disabled
        simp [already, isOpen, spared]
      · cases enable with
        | false =>
            simp only [deviceChangeInProgress] at isOpen
            simp [OpensInVain, already, deviceChangeInProgress, isOpen]
        | true =>
            have disabled : engine.audioEngineEnabled = false := by simpa using already
            have gate := engine.openDevice_inProgress outcomes
            simp only [deviceChangeInProgress] at gate isOpen
            cases active : outcomes.wasActive <;>
              simp [OpensInVain, feature, disabled, deviceChangeInProgress, gate, active, isOpen]

/-- While the engine counts as enabled, enabling it again does nothing. -/
theorem step_enabled (enabled : engine.audioEngineEnabled = true) :
    engine.step (true, outcomes) = engine := by
  simp [step, enableAudioEngine, enabled]

/-- From an open gate on, it is open after every call exactly when no call opens the device
in vain. -/
theorem gate_open_iff (requests : List (Bool × EngineOutcomes))
    (isOpen : engine.GateOpen) :
    Throughout (total step) GateOpen engine requests ↔
      Guarded (total step) (fun state request => ¬ OpensInVain state request) engine
        requests := by
  refine throughout_iff_guarded GateOpen (fun _ isOpen => isOpen) ?_ ?_ isOpen
  · intro state request next isOpen spared taken
    cases taken
    exact (state.step_inProgress_iff isOpen request).mpr spared
  · intro state request isOpen vain
    exact ⟨_, rfl, mt (state.step_inProgress_iff isOpen request).mp vain⟩

def idleEngine : AudioEngine where
  enableDisableAudioEngine := true
  audioEngineEnabled := false
  audioDirectionInactive := true
  inCall := true
  micIdx := 0
  spkIdx := 0
  monitors := .initial true false ⟨⟨0, false⟩, ⟨0, false⟩, ⟨0, false⟩⟩ false false false 0
  calls := []

def noReplies : SettingReplies := ⟨none, none, none⟩

/-- The device is busy: `pjsua_set_snd_dev` fails. -/
def deviceBusy : Bool × EngineOutcomes := (true, ⟨false, 70001, false, noReplies, noReplies⟩)

def deviceOpens : Bool × EngineOutcomes := (true, ⟨false, 0, true, noReplies, noReplies⟩)

theorem gate_closed_after_failure :
    idleEngine.GateOpen ∧
      ¬ Throughout (total step) GateOpen idleEngine
        [deviceBusy] := by
  refine ⟨rfl, fun holds => ?_⟩
  have after : (idleEngine.step deviceBusy).deviceChangeInProgress = false :=
    (holds.2 _ rfl).start
  exact absurd after (by decide)

theorem gate_open_after_success :
    idleEngine.GateOpen ∧
      (Throughout (total step) GateOpen idleEngine
          [deviceOpens] ↔
        Guarded (total step) (fun state request => ¬ OpensInVain state request) idleEngine
          [deviceOpens]) :=
  ⟨rfl, gate_open_iff idleEngine [deviceOpens] rfl⟩

end AudioEngine

end FiberApp.Audio
