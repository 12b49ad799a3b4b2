import FiberApp.Audio.LevelMonitor

/-! `enableAudioEngine` of `skinnysipmanager.cpp`, which opens and closes the sound device
of a call. -/

set_option autoImplicit false

namespace FiberApp.Audio

/-- What the engine asks of the call and of the sound device. -/
inductive SoundDeviceCall
  | setSndDev (micIdx spkIdx : Int32)
  | inactivateAudioDirection
  | pauseSndDev
  | saveSeqNumTs
  | setNullSndDev
  | audioEngineState (value : String)
  deriving DecidableEq, Repr

/-- `mEnableDisableAudioEngine` is the feature flag; `calls` is what was asked so far. -/
structure AudioEngine where
  enableDisableAudioEngine : Bool
  audioEngineEnabled : Bool
  audioDirectionInactive : Bool
  inCall : Bool
  micIdx : Int32
  spkIdx : Int32
  monitors : LevelMonitors
  calls : List SoundDeviceCall

/-- The answers of `pjsua_snd_is_active`, before and after the device is set, the status of
`pjsua_set_snd_dev`, and the settings read by the monitors that may start. -/
structure EngineOutcomes where
  wasActive : Bool
  setSndDevStatus : Int32
  isActive : Bool
  speakerReplies : SettingReplies
  micReplies : SettingReplies
  deriving DecidableEq, Repr

namespace AudioEngine

def pjSuccess : Int32 := 0

def call (engine : AudioEngine) (made : SoundDeviceCall) : AudioEngine :=
  { engine with calls := engine.calls ++ [made] }

def sendAudioEngineState (engine : AudioEngine) : AudioEngine :=
  if engine.inCall then
    engine.call (.audioEngineState (if engine.audioEngineEnabled then "enabled" else "disabled"))
  else engine

def openDevice (outcomes : EngineOutcomes) (engine : AudioEngine) : AudioEngine :=
  if outcomes.wasActive then engine
  else
    let engine := { engine with monitors := engine.monitors.platformPreDeviceOperation }
    let engine := engine.call (.setSndDev engine.micIdx engine.spkIdx)
    if outcomes.setSndDevStatus = pjSuccess && outcomes.isActive then
      { engine with
        monitors := engine.monitors.platformPostDeviceOperation outcomes.speakerReplies
          outcomes.micReplies }
    else engine

def closeDevice (outcomes : EngineOutcomes) (engine : AudioEngine) : AudioEngine :=
  let engine :=
    if engine.audioDirectionInactive then engine
    else { engine.call .inactivateAudioDirection with audioDirectionInactive := true }
  if outcomes.wasActive then
    ((engine.call .pauseSndDev).call .saveSeqNumTs).call .setNullSndDev
  else engine

def enableAudioEngine (enable : Bool) (outcomes : EngineOutcomes) (engine : AudioEngine) :
    AudioEngine :=
  if !engine.enableDisableAudioEngine then engine
  else if engine.audioEngineEnabled = enable then engine
  else
    let moved := if enable then engine.openDevice outcomes else engine.closeDevice outcomes
    { moved with audioEngineEnabled := enable }.sendAudioEngineState

/-- One call of `enableAudioEngine`. -/
def step (engine : AudioEngine) (request : Bool × EngineOutcomes) : AudioEngine :=
  engine.enableAudioEngine request.1 request.2

end AudioEngine

end FiberApp.Audio
