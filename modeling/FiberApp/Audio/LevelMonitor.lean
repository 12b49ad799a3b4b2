import FiberApp.CoreAudio.VolumeStats

/-! The monitors of the speaker's and the microphone's settings in
`skinnysipmanager.cpp`. Each is a message that posts itself again while a decay
timer runs; the queries of the UI restart the timer. -/

set_option autoImplicit false

namespace FiberApp.Audio

open CoreAudio

/-- `DECAY_POLL_INTERVAL`, `POLL_INTERVAL` and `MAX_TIME_LEVEL_DETECTION`. -/
def decayPollInterval : Int32 := 150 * 7
def pollInterval : Int32 := 150
def maxTimeLevelDetection : Nat := 15

/-- One side: the saved settings, the decay timer, and the number of its monitor
messages in the queue of the client thread. -/
structure LevelMonitor where
  vol : Int32
  mute : Bool
  lvl : UInt32
  decayTimer : Int32
  pending : Nat
  deriving DecidableEq, Repr

/-- The settings as the sound device answers them; `none` is a failed call. -/
structure SettingReplies where
  lvl : Option UInt32
  vol : Option Int32
  mute : Option Bool
  deriving DecidableEq, Repr

namespace LevelMonitor

/-- `DEFAULT_SOUND_VOLUME`, `DEFAULT_SOUND_LEVEL` and `DEFAULT_SOUND_DECAY_TIMER`. -/
def initial : LevelMonitor := ⟨255, false, 9, 0, 0⟩

def post (monitor : LevelMonitor) : LevelMonitor :=
  { monitor with pending := monitor.pending + 1 }

def saveSettings (replies : SettingReplies) (monitor : LevelMonitor) : LevelMonitor :=
  { monitor with
    lvl := replies.lvl.getD monitor.lvl
    vol := replies.vol.getD monitor.vol
    mute := replies.mute.getD monitor.mute }

/-- `getSpeakerSettings` and `getMicSettings`. -/
def getSettings (deviceChangeInProgress : Bool) (replies : SettingReplies)
    (monitor : LevelMonitor) : LevelMonitor :=
  if monitor.decayTimer ≠ 0 then
    let monitor := if deviceChangeInProgress then monitor else monitor.saveSettings replies
    { monitor.post with decayTimer := monitor.decayTimer - pollInterval }
  else monitor

/-- What the queries of the UI share. -/
def keepPolling (clientThread : Bool) (monitor : LevelMonitor) : LevelMonitor :=
  if clientThread && monitor.decayTimer = 0 then
    { monitor.post with decayTimer := decayPollInterval }
  else monitor

/-- The start of a monitor by `monitorSpeakerMic`, without a message. -/
def restart (clientThread deviceChangeInProgress : Bool) (replies : SettingReplies)
    (monitor : LevelMonitor) : LevelMonitor :=
  if clientThread && monitor.decayTimer = 0 then
    getSettings deviceChangeInProgress replies { monitor with decayTimer := decayPollInterval }
  else monitor

def stop (monitor : LevelMonitor) : LevelMonitor := { monitor with decayTimer := 0 }

/-- The messages are cleared from the queue, and the timer is stopped. -/
def clear (monitor : LevelMonitor) : LevelMonitor :=
  { monitor with pending := 0, decayTimer := 0 }

/-- `resetSavedSpeakerState` and `resetSavedMicrophoneState`. -/
def resetSavedState (monitor : LevelMonitor) : LevelMonitor :=
  { initial with pending := monitor.pending }

/-- A monitor message leaves the queue and is handled. -/
def handleMessage (deviceChangeInProgress : Bool) (replies : SettingReplies)
    (monitor : LevelMonitor) : LevelMonitor :=
  getSettings deviceChangeInProgress replies { monitor with pending := monitor.pending - 1 }

end LevelMonitor

inductive FaultyDevice
  | microphone
  | speaker
  deriving DecidableEq, Repr

/-- `levelMessages` counts `MSG_MONITOR_LEVEL` in the queue. -/
structure LevelMonitors where
  clientThread : Bool
  coreAudioDevNotify : Bool
  volStats : VolumeStats
  speaker : LevelMonitor
  microphone : LevelMonitor
  deviceChangeInProgress : Bool
  faultyMicrophone : Bool
  faultySpeaker : Bool
  checkCount : Nat
  levelMessages : Nat
  notified : List FaultyDevice

namespace LevelMonitors

/-- The fields of the base class, whose constructor is not in the repository, have any
value. -/
def initial (clientThread coreAudioDevNotify : Bool) (volStats : VolumeStats)
    (deviceChangeInProgress faultyMicrophone faultySpeaker : Bool) (checkCount : Nat) :
    LevelMonitors where
  clientThread := clientThread
  coreAudioDevNotify := coreAudioDevNotify
  volStats := volStats
  speaker := .initial
  microphone := .initial
  deviceChangeInProgress := deviceChangeInProgress
  faultyMicrophone := faultyMicrophone
  faultySpeaker := faultySpeaker
  checkCount := checkCount
  levelMessages := 0
  notified := []

def pollSpeaker (state : LevelMonitors) : LevelMonitors :=
  { state with speaker := state.speaker.keepPolling state.clientThread }

def pollMicrophone (state : LevelMonitors) : LevelMonitors :=
  { state with microphone := state.microphone.keepPolling state.clientThread }

def postGetSpeakerVolLvl (state : LevelMonitors) : UInt32 × LevelMonitors :=
  (state.speaker.lvl, state.pollSpeaker)

def postGetMicVolLvl (state : LevelMonitors) : UInt32 × LevelMonitors :=
  (state.microphone.lvl, state.pollMicrophone)

def postGetSpeakerMute (state : LevelMonitors) : Bool × LevelMonitors :=
  if state.coreAudioDevNotify then
    let mute := state.volStats.system.muteState || state.volStats.session.muteState ||
      decide (state.volStats.session.volume = 0) || decide (state.volStats.system.volume = 0)
    (mute, { state with speaker := { state.speaker with mute := mute } })
  else (state.speaker.mute, state.pollSpeaker)

def postGetMicrophoneMute (state : LevelMonitors) : Bool × LevelMonitors :=
  if state.coreAudioDevNotify then
    let mute := state.volStats.mic.muteState
    (mute, { state with microphone := { state.microphone with mute := mute } })
  else (state.microphone.mute, state.pollMicrophone)

/-- The conversion of a `float` volume to an integer drops the fraction. -/
def wholeVolume (level : Level) : Int32 := .ofInt (level.volume.tdiv (2 ^ 149))

def postGetSpeakerVol (state : LevelMonitors) : Int32 × LevelMonitors :=
  if state.coreAudioDevNotify then
    let vol := wholeVolume state.volStats.system
    (vol, { state with speaker := { state.speaker with vol := vol } })
  else (state.speaker.vol, state.pollSpeaker)

def postGetMicrophoneVol (state : LevelMonitors) : Int32 × LevelMonitors :=
  if state.coreAudioDevNotify then
    let vol := wholeVolume state.volStats.mic
    (vol, { state with microphone := { state.microphone with vol := vol } })
  else (state.microphone.vol, state.pollMicrophone)

def postStopSpeakerVolume (state : LevelMonitors) : LevelMonitors :=
  { state with speaker := state.speaker.stop }

def postStopMicVolume (state : LevelMonitors) : LevelMonitors :=
  { state with microphone := state.microphone.stop }

def resetSavedSpeakerState (state : LevelMonitors) : LevelMonitors :=
  { state with speaker := state.speaker.resetSavedState }

def resetSavedMicrophoneState (state : LevelMonitors) : LevelMonitors :=
  { state with microphone := state.microphone.resetSavedState }

def platformPreDeviceOperation (state : LevelMonitors) : LevelMonitors :=
  { state with
    microphone := state.microphone.clear
    speaker := state.speaker.clear
    levelMessages := 0
    deviceChangeInProgress := true }

/-- The levels that were heard clear the faulty marks. -/
def hearLevels (state : LevelMonitors) : LevelMonitors :=
  { state with
    faultyMicrophone := if state.microphone.lvl ≠ 0 then false else state.faultyMicrophone
    faultySpeaker := if state.speaker.lvl ≠ 0 then false else state.faultySpeaker }

def notifyFaulty (state : LevelMonitors) : LevelMonitors :=
  { state with
    notified := state.notified ++
      (if state.faultyMicrophone && !state.microphone.mute then [.microphone] else []) ++
      (if state.faultySpeaker && !state.speaker.mute then [.speaker] else []) }

def monitorSpeakerMic (speakerReplies micReplies : SettingReplies) (state : LevelMonitors) :
    LevelMonitors :=
  let state := state.hearLevels
  if state.checkCount = maxTimeLevelDetection then
    { notifyFaulty
        { state with
          speaker := state.speaker.restart state.clientThread state.deviceChangeInProgress
            speakerReplies
          microphone := state.microphone.restart state.clientThread
            state.deviceChangeInProgress micReplies } with
      checkCount := 0 }
  else { state with checkCount := state.checkCount + 1, levelMessages := state.levelMessages + 1 }

/-- The check count is zero, so the call posts the first `MSG_MONITOR_LEVEL`. -/
def platformPostDeviceOperation (speakerReplies micReplies : SettingReplies)
    (state : LevelMonitors) : LevelMonitors :=
  monitorSpeakerMic speakerReplies micReplies
    { state with
      faultyMicrophone := true
      faultySpeaker := true
      checkCount := 0
      deviceChangeInProgress := false }

end LevelMonitors

inductive MonitorOperation
  | postGetSpeakerVolLvl
  | postGetMicVolLvl
  | postGetSpeakerMute
  | postGetMicrophoneMute
  | postGetSpeakerVol
  | postGetMicrophoneVol
  | postStopSpeakerVolume
  | postStopMicVolume
  | resetSavedSpeakerState
  | resetSavedMicrophoneState
  | volumeChange (stats : VolumeStats)
  | platformPreDeviceOperation
  | platformPostDeviceOperation (speakerReplies micReplies : SettingReplies)
  | startSpkMonitor (replies : SettingReplies)
  | startMicMonitor (replies : SettingReplies)
  | monitorLevel (speakerReplies micReplies : SettingReplies)

namespace LevelMonitors

def perform (state : LevelMonitors) : MonitorOperation → LevelMonitors
  | .postGetSpeakerVolLvl => state.postGetSpeakerVolLvl.2
  | .postGetMicVolLvl => state.postGetMicVolLvl.2
  | .postGetSpeakerMute => state.postGetSpeakerMute.2
  | .postGetMicrophoneMute => state.postGetMicrophoneMute.2
  | .postGetSpeakerVol => state.postGetSpeakerVol.2
  | .postGetMicrophoneVol => state.postGetMicrophoneVol.2
  | .postStopSpeakerVolume => state.postStopSpeakerVolume
  | .postStopMicVolume => state.postStopMicVolume
  | .resetSavedSpeakerState => state.resetSavedSpeakerState
  | .resetSavedMicrophoneState => state.resetSavedMicrophoneState
  | .volumeChange stats => { state with volStats := stats }
  | .platformPreDeviceOperation => state.platformPreDeviceOperation
  | .platformPostDeviceOperation speakerReplies micReplies =>
      state.platformPostDeviceOperation speakerReplies micReplies
  | .startSpkMonitor replies =>
      { state with
        speaker := state.speaker.handleMessage state.deviceChangeInProgress replies }
  | .startMicMonitor replies =>
      { state with
        microphone := state.microphone.handleMessage state.deviceChangeInProgress replies }
  | .monitorLevel speakerReplies micReplies =>
      monitorSpeakerMic speakerReplies micReplies
        { state with levelMessages := state.levelMessages - 1 }

/-- A message is handled only while one is in the queue. -/
def enabled (state : LevelMonitors) : MonitorOperation → Bool
  | .startSpkMonitor _ => 0 < state.speaker.pending
  | .startMicMonitor _ => 0 < state.microphone.pending
  | .monitorLevel _ _ => 0 < state.levelMessages
  | _ => true

def step (state : LevelMonitors) (operation : MonitorOperation) : Option LevelMonitors :=
  if state.enabled operation then some (state.perform operation) else none

end LevelMonitors

end FiberApp.Audio
