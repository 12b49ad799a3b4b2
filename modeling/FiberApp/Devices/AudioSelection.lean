import FiberApp.Devices.AudioHardware

/-! The audio selection of `skinnysipmanager.cpp`: `MSG_INIT_MEDIA` with the
automatic devices and their labels, and the delayed `MSG_AUTO_MIC_LEVEL_CHECK`. -/

set_option autoImplicit false

namespace FiberApp.Devices

structure SpeakerMicAutoDetails where
  mic : Endpoint
  autoMic : Bool
  speaker : Endpoint
  deriving DecidableEq, Repr

namespace SpeakerMicAutoDetails

def clear : SpeakerMicAutoDetails := ⟨⟨"", ""⟩, false, ⟨"", ""⟩⟩

def isSpkValid (details : SpeakerMicAutoDetails) : Bool :=
  !(details.speaker.id.isEmpty || details.speaker.name.isEmpty)

def isMicValid (details : SpeakerMicAutoDetails) : Bool :=
  !(details.mic.id.isEmpty || details.mic.name.isEmpty)

end SpeakerMicAutoDetails

/-- `mic_lvl_`, `auto_level_check_count_`, `level_determined_`, and the number of
delayed `MSG_AUTO_MIC_LEVEL_CHECK` messages that are pending. -/
structure MicLevelCheck where
  micLvl : Nat
  autoLevelCheckCount : Nat
  levelDetermined : Nat
  pending : Nat
  deriving DecidableEq, Repr

def defaultSoundLevel : Nat := 9

namespace MicLevelCheck

def restart (check : MicLevelCheck) (inputSignalMeter : Option Nat) : MicLevelCheck :=
  { check with
    micLvl := inputSignalMeter.getD check.micLvl
    levelDetermined := 0
    autoLevelCheckCount := 20 }

def post (check : MicLevelCheck) : MicLevelCheck := { check with pending := check.pending + 1 }

def clear (check : MicLevelCheck) : MicLevelCheck := { check with pending := 0 }

end MicLevelCheck

/-- The state the two messages work on. `initMedia` are the `MSG_INIT_MEDIA`
messages the level check has posted. -/
structure AudioManager where
  changes : DeviceChanges
  autoSpkMic : SpeakerMicAutoDetails
  check : MicLevelCheck
  selectedDeviceOptions : LocalMediaInfo
  initMedia : List LocalMediaInfo
  deriving DecidableEq, Repr

namespace AudioManager

def audioCaptureDevices (manager : AudioManager) : List Device :=
  manager.changes.saved.audioCapture

def audioPlayoutDevices (manager : AudioManager) : List Device :=
  manager.changes.saved.audioPlayout

/-- The first part of `getAutomaticMic`: a built-in default microphone is checked. -/
def startLevelCheck (platform : AudioPlatform) (postMicCheck automaticMic : Bool)
    (manager : AudioManager) : AudioManager :=
  if automaticMic then
    let check := manager.check.restart platform.inputSignalMeter
    { manager with check := if postMicCheck then check.post else check }
  else manager

def clearLevelCheck (postMicCheck : Bool) (manager : AudioManager) : AudioManager :=
  if postMicCheck then { manager with check := manager.check.clear } else manager

/-- The second part with `mBiasedAudioDeviceAutoSelection`. -/
def getBiasedMic (platform : AudioPlatform) (postMicCheck automaticMic : Bool) (mic : Endpoint)
    (manager : AudioManager) : AudioManager × Endpoint :=
  let mic := platform.getPreferredDeviceId true manager.audioCaptureDevices
    manager.audioPlayoutDevices mic
  let manager :=
    if automaticMic && !platform.isDeviceBuiltIn manager.audioCaptureDevices mic.id then
      manager.clearLevelCheck postMicCheck
    else manager
  ({ manager with
    autoSpkMic := { manager.autoSpkMic with mic := mic, autoMic := automaticMic } }, mic)

/-- The second part without it. The default microphone is not cached when it is
kept for its speaker. -/
def getUsbMic (platform : AudioPlatform) (postMicCheck automaticMic : Bool) (mic : Endpoint)
    (manager : AudioManager) : AudioManager × Endpoint :=
  match platform.isUsbMicWithSpeaker manager.audioPlayoutDevices mic.id .empty with
  | (true, _) => (manager.clearLevelCheck postMicCheck, mic)
  | (false, ids) =>
      match platform.usbMicWithSpeakerFrom manager.audioPlayoutDevices ids
          manager.audioCaptureDevices with
      | some device =>
          let manager := manager.clearLevelCheck postMicCheck
          ({ manager with autoSpkMic := { manager.autoSpkMic with mic := device.endpoint } },
            device.endpoint)
      | none =>
          ({ manager with
            autoSpkMic := { manager.autoSpkMic with mic := mic, autoMic := automaticMic } },
            mic)

def getAutomaticMic (platform : AudioPlatform) (postMicCheck : Bool) (manager : AudioManager) :
    AudioManager × Endpoint :=
  let mic := platform.defaultCapCommDevice.endpoint
  let automaticMic := platform.isDeviceBuiltIn manager.audioCaptureDevices mic.id
  let manager := manager.startLevelCheck platform postMicCheck automaticMic
  if platform.features.biasedAudioDeviceAutoSelection then
    manager.getBiasedMic platform postMicCheck automaticMic mic
  else manager.getUsbMic platform postMicCheck automaticMic mic

def getAutomaticSpk (platform : AudioPlatform) (manager : AudioManager) :
    AudioManager × Endpoint :=
  let spk := platform.defaultPlayCommDevice.endpoint
  let spk :=
    if platform.features.biasedAudioDeviceAutoSelection then
      platform.getPreferredDeviceId false manager.audioCaptureDevices
        manager.audioPlayoutDevices spk
    else spk
  ({ manager with autoSpkMic := { manager.autoSpkMic with speaker := spk } }, spk)

def cachedAutomaticMic (platform : AudioPlatform) (manager : AudioManager) :
    AudioManager × Endpoint :=
  if !manager.autoSpkMic.isMicValid then manager.getAutomaticMic platform false
  else (manager, manager.autoSpkMic.mic)

def cachedAutomaticSpk (platform : AudioPlatform) (manager : AudioManager) :
    AudioManager × Endpoint :=
  if !manager.autoSpkMic.isSpkValid then manager.getAutomaticSpk platform
  else (manager, manager.autoSpkMic.speaker)

/-- The saved device of the other kind with the hardware id of this one, if it has one. -/
def deviceMatching (platform : AudioPlatform) (type : DeviceConfigType) (deviceId : String)
    (manager : AudioManager) : Option Endpoint :=
  match platform.getAudioHardwareIdFromDeviceId type deviceId .empty false with
  | (false, _) => none
  | (true, _, key) =>
      match type with
      | .mic => platform.getMatchingDevice key .speaker manager.audioPlayoutDevices
      | .speaker => platform.getMatchingDevice key .mic manager.audioCaptureDevices

inductive InitType
  | default
  | auto
  | matching
  | speakerMatchingAutoMic
  | micMatchingAutoSpeaker
  deriving DecidableEq, Repr

structure LabelState where
  manager : AudioManager
  micInitType : InitType
  speakerInitType : InitType
  autoMic : Endpoint
  autoSpeaker : Endpoint
  deriving DecidableEq, Repr

namespace LabelState

def start (micSelection spkrSelection : AudioDeviceSelection) (mic spk : Endpoint)
    (manager : AudioManager) : LabelState :=
  match micSelection != .manual, spkrSelection != .manual with
  | true, true => ⟨manager, .default, .default, mic, spk⟩
  | false, false => ⟨manager, .matching, .matching, ⟨"", ""⟩, ⟨"", ""⟩⟩
  | true, false => ⟨manager, .default, .speakerMatchingAutoMic, mic, ⟨"", ""⟩⟩
  | false, true => ⟨manager, .micMatchingAutoSpeaker, .default, ⟨"", ""⟩, spk⟩

def matchMic (platform : AudioPlatform) (spk : Endpoint) (label : LabelState) : LabelState :=
  if label.micInitType = .matching then
    match label.manager.deviceMatching platform .speaker spk.id with
    | some autoMic => { label with autoMic := autoMic }
    | none => { label with micInitType := .auto }
  else label

/-- The hardware ids found for the automatic microphone are the strings the
lookup of the speaker starts from. -/
def matchMicToAutoSpeaker (platform : AudioPlatform) (spk : Endpoint) (label : LabelState) :
    LabelState :=
  if label.micInitType = .micMatchingAutoSpeaker then
    let (manager, autoMic) := label.manager.cachedAutomaticMic platform
    let (result, ids, deviceId) :=
      platform.getAudioHardwareIdFromDeviceId .mic autoMic.id .empty false
    if !result || (platform.getMatchingDevice deviceId .speaker
        manager.audioPlayoutDevices).isNone then
      let (manager, _) := manager.getAutomaticSpk platform
      let (found, _, deviceId) :=
        platform.getAudioHardwareIdFromDeviceId .speaker spk.id ids false
      let matching :=
        if found then platform.getMatchingDevice deviceId .mic manager.audioCaptureDevices
        else none
      { label with manager := manager, autoMic := matching.getD autoMic }
    else { label with manager := manager, autoMic := autoMic }
  else label

def matchSpeakerToAutoMic (platform : AudioPlatform) (label : LabelState) : LabelState :=
  if label.speakerInitType = .speakerMatchingAutoMic then
    let (manager, localAutoMic) := label.manager.cachedAutomaticMic platform
    match manager.deviceMatching platform .mic localAutoMic.id with
    | some autoSpeaker => { label with manager := manager, autoSpeaker := autoSpeaker }
    | none => { label with manager := manager, speakerInitType := .auto }
  else label

def matchSpeaker (platform : AudioPlatform) (mic : Endpoint) (label : LabelState) : LabelState :=
  if label.speakerInitType = .matching then
    match label.manager.deviceMatching platform .mic mic.id with
    | some autoSpeaker => { label with autoSpeaker := autoSpeaker }
    | none => { label with speakerInitType := .auto }
  else label

def chooseMic (platform : AudioPlatform) (label : LabelState) : LabelState :=
  if label.micInitType = .auto then
    let (manager, autoMic) := label.manager.cachedAutomaticMic platform
    { label with manager := manager, autoMic := autoMic }
  else label

def chooseSpeaker (platform : AudioPlatform) (label : LabelState) : LabelState :=
  if label.speakerInitType = .auto then
    let (manager, autoSpeaker) := label.manager.cachedAutomaticSpk platform
    { label with manager := manager, autoSpeaker := autoSpeaker }
  else label

def compute (platform : AudioPlatform) (micSelection spkrSelection : AudioDeviceSelection)
    (mic spk : Endpoint) (manager : AudioManager) : LabelState :=
  start micSelection spkrSelection mic spk manager
    |>.matchMic platform spk
    |>.matchMicToAutoSpeaker platform spk
    |>.matchSpeakerToAutoMic platform
    |>.matchSpeaker platform mic
    |>.chooseMic platform
    |>.chooseSpeaker platform

end LabelState

def updateAutomaticDeviceLabel (platform : AudioPlatform)
    (micSelection spkrSelection : AudioDeviceSelection) (mic spk : Endpoint)
    (manager : AudioManager) : AudioManager :=
  if manager.selectedDeviceOptions.microphoneId.isEmpty &&
      manager.selectedDeviceOptions.speakerId.isEmpty then manager
  else
    let label := LabelState.compute platform micSelection spkrSelection mic spk manager
    { label.manager with
      changes := label.manager.changes.relabelAutomaticDevices label.autoMic.name
        label.autoSpeaker.name }

structure ChosenDevices where
  mic : Endpoint
  micSelection : AudioDeviceSelection
  spk : Endpoint
  spkrSelection : AudioDeviceSelection
  deriving DecidableEq, Repr

/-- Both devices are Automatic: the speaker is paired with the automatic
microphone, or else the microphone with the automatic speaker, and then the
pending level check is dropped. -/
def chooseAutomatic (platform : AudioPlatform) (manager : AudioManager) :
    AudioManager × ChosenDevices :=
  let (manager, mic) := manager.getAutomaticMic platform true
  let (_, ids, deviceId) :=
    platform.getAudioHardwareIdFromDeviceId .mic mic.id .empty false
  match platform.getMatchingDevice deviceId .speaker manager.audioPlayoutDevices with
  | some spk => (manager, ⟨mic, .auto, spk, .paired⟩)
  | none =>
      let (manager, spk) := manager.getAutomaticSpk platform
      let (found, _, deviceId) :=
        platform.getAudioHardwareIdFromDeviceId .speaker spk.id ids false
      let matching :=
        if found then platform.getMatchingDevice deviceId .mic manager.audioCaptureDevices
        else none
      match matching with
      | some mic => ({ manager with check := manager.check.clear }, ⟨mic, .paired, spk, .auto⟩)
      | none => (manager, ⟨mic, .auto, spk, .auto⟩)

def chooseSpeakerFor (platform : AudioPlatform) (mic : Endpoint) (manager : AudioManager) :
    AudioManager × ChosenDevices :=
  let (_, _, deviceId) := platform.getAudioHardwareIdFromDeviceId .mic mic.id .empty false
  match platform.getMatchingDevice deviceId .speaker manager.audioPlayoutDevices with
  | some spk => (manager, ⟨mic, .manual, spk, .paired⟩)
  | none =>
      let (manager, spk) := manager.getAutomaticSpk platform
      (manager, ⟨mic, .manual, spk, .auto⟩)

def chooseMicFor (platform : AudioPlatform) (spk : Endpoint) (manager : AudioManager) :
    AudioManager × ChosenDevices :=
  let (_, _, deviceId) := platform.getAudioHardwareIdFromDeviceId .speaker spk.id .empty false
  match platform.getMatchingDevice deviceId .mic manager.audioCaptureDevices with
  | some mic => (manager, ⟨mic, .paired, spk, .manual⟩)
  | none =>
      let (manager, mic) := manager.getAutomaticMic platform true
      (manager, ⟨mic, .auto, spk, .manual⟩)

def chooseDevices (platform : AudioPlatform) (selectedDevices : LocalMediaInfo)
    (manager : AudioManager) : AudioManager × ChosenDevices :=
  let mic : Endpoint := ⟨selectedDevices.microphoneId, selectedDevices.microphone⟩
  let spk : Endpoint := ⟨selectedDevices.speakerId, selectedDevices.speaker⟩
  if mic.id = automaticDeviceGuid then
    if spk.id = automaticDeviceGuid then manager.chooseAutomatic platform
    else manager.chooseMicFor platform spk
  else if spk.id = automaticDeviceGuid then manager.chooseSpeakerFor platform mic
  else (manager, ⟨mic, .manual, spk, .manual⟩)

def ChosenDevices.selection (chosen : ChosenDevices) : LocalMediaInfo :=
  ⟨chosen.mic.name, chosen.mic.id, chosen.spk.name, chosen.spk.id, chosen.micSelection,
    chosen.spkrSelection⟩

/-- The microphone's part of `SetLocalDevicesOptions`. -/
def setLocalDevicesOptions (selectedDevices : LocalMediaInfo) (manager : AudioManager) :
    AudioManager :=
  if manager.selectedDeviceOptions.microphoneId ≠ selectedDevices.microphoneId then
    { manager with check := { manager.check with micLvl := defaultSoundLevel } }
  else manager

/-- `MSG_INIT_MEDIA` -/
def handleInitMedia (platform : AudioPlatform) (selectedDevices : LocalMediaInfo)
    (manager : AudioManager) : AudioManager :=
  let manager := { manager with autoSpkMic := .clear }
  let (manager, chosen) := manager.chooseDevices platform selectedDevices
  let manager := manager.setLocalDevicesOptions chosen.selection
  let manager :=
    { manager with
      selectedDeviceOptions :=
        platform.changeDevices manager.selectedDeviceOptions chosen.selection }
  if platform.features.labelAutomaticDevice then
    manager.updateAutomaticDeviceLabel platform chosen.micSelection chosen.spkrSelection
      chosen.mic chosen.spk
  else manager

/-- The selection of the default devices, posted when no level was determined. -/
def fallbackDevices (platform : AudioPlatform) (manager : AudioManager) : LocalMediaInfo :=
  { manager.selectedDeviceOptions with
    microphone := platform.defaultCapDevice.name
    microphoneId := platform.defaultCapDevice.id
    speaker := platform.defaultPlayDevice.name
    speakerId := platform.defaultPlayDevice.id }

/-- `MSG_AUTO_MIC_LEVEL_CHECK`, once it is taken off the queue. -/
def handleAutoMicLevelCheck (platform : AudioPlatform) (manager : AudioManager) :
    AudioManager :=
  if manager.check.autoLevelCheckCount ≠ 0 then
    let micLvl := platform.inputSignalMeter.getD manager.check.micLvl
    { manager with
      check := MicLevelCheck.post
        { manager.check with
          micLvl := micLvl
          autoLevelCheckCount := manager.check.autoLevelCheckCount - 1
          levelDetermined :=
            if micLvl ≠ 0 then manager.check.levelDetermined + 1
            else manager.check.levelDetermined } }
  else if manager.check.levelDetermined ≠ 0 then manager
  else { manager with initMedia := manager.initMedia ++ [manager.fallbackDevices platform] }

end AudioManager

end FiberApp.Devices
