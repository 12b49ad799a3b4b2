import FiberApp.Audio.LevelMonitor

/-! The check for faulty devices in `skinnysipmanager.cpp`, with what happened to the levels
since the last device operation kept beside it. -/

set_option autoImplicit false

namespace FiberApp.Audio

/-- The check of an automatic microphone reads its level too, whatever the monitors do. -/
inductive FaultyDeviceOperation
  | monitor (operation : MonitorOperation)
  | autoMicLevelCheck (inputSignalMeter : Option UInt32)

namespace LevelMonitors

def monitor (state : LevelMonitors) : FaultyDevice → LevelMonitor
  | .microphone => state.microphone
  | .speaker => state.speaker

def faulty (state : LevelMonitors) : FaultyDevice → Bool
  | .microphone => state.faultyMicrophone
  | .speaker => state.faultySpeaker

def autoMicLevelCheck (inputSignalMeter : Option UInt32) (state : LevelMonitors) :
    LevelMonitors :=
  { state with
    microphone :=
      { state.microphone with lvl := inputSignalMeter.getD state.microphone.lvl } }

def performChecked (state : LevelMonitors) : FaultyDeviceOperation → LevelMonitors
  | .monitor operation => state.perform operation
  | .autoMicLevelCheck inputSignalMeter => state.autoMicLevelCheck inputSignalMeter

def enabledChecked (state : LevelMonitors) : FaultyDeviceOperation → Bool
  | .monitor operation => state.enabled operation
  | .autoMicLevelCheck _ => true

/-- The message is the last one of its operation, the one that decides. -/
def decides (state : LevelMonitors) : FaultyDeviceOperation → Bool
  | .monitor (.monitorLevel _ _) => state.checkCount = maxTimeLevelDetection
  | _ => false

/-- The monitor of the device reads its settings when it is restarted. -/
def readsOnRestart (state : LevelMonitors) (device : FaultyDevice) : Bool :=
  state.clientThread && (state.monitor device).decayTimer = 0 && !state.deviceChangeInProgress

def repliesFor (speakerReplies micReplies : SettingReplies) : FaultyDevice → SettingReplies
  | .microphone => micReplies
  | .speaker => speakerReplies

/-- The level of the device that the operation samples. -/
def sampled (state : LevelMonitors) (device : FaultyDevice) :
    FaultyDeviceOperation → Option UInt32
  | .monitor (.startSpkMonitor replies) =>
      if device = .speaker ∧ state.speaker.decayTimer ≠ 0 ∧ state.deviceChangeInProgress = false
      then replies.lvl else none
  | .monitor (.startMicMonitor replies) =>
      if device = .microphone ∧ state.microphone.decayTimer ≠ 0 ∧
        state.deviceChangeInProgress = false
      then replies.lvl else none
  | .monitor (.monitorLevel speakerReplies micReplies) =>
      if state.checkCount = maxTimeLevelDetection ∧ state.readsOnRestart device = true
      then (repliesFor speakerReplies micReplies device).lvl else none
  | .autoMicLevelCheck inputSignalMeter =>
      if device = .microphone then inputSignalMeter else none
  | _ => none

end LevelMonitors

/-- The levels of a device sampled since the last device operation, whether one that is not
zero waits for the next check, and whether one was overwritten by zero before its check. -/
structure LevelHistory where
  levels : List UInt32
  waiting : Bool
  overwritten : Bool
  deriving DecidableEq

namespace LevelHistory

def empty : LevelHistory := ⟨[], false, false⟩

def checked (history : LevelHistory) : LevelHistory := { history with waiting := false }

def sample (history : LevelHistory) : Option UInt32 → LevelHistory
  | none => history
  | some level =>
      { levels := history.levels ++ [level]
        waiting := decide (level ≠ 0)
        overwritten := history.overwritten || (history.waiting && decide (level = 0)) }

end LevelHistory

/-- A notification with what was sampled and known when it was sent. -/
structure FaultyNotice where
  device : FaultyDevice
  levels : List UInt32
  muted : Bool
  deriving DecidableEq

/-- `prepared` says that `platformPreDeviceOperation` was called since the last
`platformPostDeviceOperation`, and `decisions` counts the decisions since then. -/
structure CheckedDevices where
  monitors : LevelMonitors
  prepared : Bool
  decisions : Nat
  history : FaultyDevice → LevelHistory
  notices : List FaultyNotice

namespace CheckedDevices

def start (monitors : LevelMonitors) : CheckedDevices :=
  ⟨monitors, false, 0, fun _ => .empty, []⟩

/-- The history after the operation: a device operation begins a new one, and a check comes
before the sample it may take. -/
def historyAfter (state : CheckedDevices) (operation : FaultyDeviceOperation)
    (device : FaultyDevice) : LevelHistory :=
  match operation with
  | .monitor (.platformPostDeviceOperation _ _) => .empty
  | .monitor (.monitorLevel _ _) =>
      (state.history device).checked.sample (state.monitors.sampled device operation)
  | _ => (state.history device).sample (state.monitors.sampled device operation)

def preparedAfter (state : CheckedDevices) : FaultyDeviceOperation → Bool
  | .monitor .platformPreDeviceOperation => true
  | .monitor (.platformPostDeviceOperation _ _) => false
  | _ => state.prepared

def decisionsAfter (state : CheckedDevices) (operation : FaultyDeviceOperation) : Nat :=
  match operation with
  | .monitor (.platformPostDeviceOperation _ _) => 0
  | _ => if state.monitors.decides operation then state.decisions + 1 else state.decisions

def perform (state : CheckedDevices) (operation : FaultyDeviceOperation) : CheckedDevices :=
  let monitors := state.monitors.performChecked operation
  let history := state.historyAfter operation
  { monitors := monitors
    prepared := state.preparedAfter operation
    decisions := state.decisionsAfter operation
    history := history
    notices := state.notices ++
      (monitors.notified.drop state.monitors.notified.length).map fun device =>
        ⟨device, (history device).levels, (monitors.monitor device).mute⟩ }

/-- A device operation is only finished after it was begun. -/
def enabled (state : CheckedDevices) : FaultyDeviceOperation → Bool
  | .monitor (.platformPostDeviceOperation _ _) => state.prepared
  | operation => state.monitors.enabledChecked operation

def step (state : CheckedDevices) (operation : FaultyDeviceOperation) : Option CheckedDevices :=
  if state.enabled operation then some (state.perform operation) else none

end CheckedDevices

end FiberApp.Audio
