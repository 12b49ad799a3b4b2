import FiberApp.Devices.AutomaticMicProperties
import FiberApp.Devices.MatchingDeviceProperties

/-! The names on the Automatic entries against the devices that would be selected if the
user chose Automatic. The label matches a microphone against the speaker in use, and not
against the automatic one it has just asked for. -/

set_option autoImplicit false

namespace FiberApp.Devices

namespace AudioPlatform

/-- The speaker with the key assembled for a microphone, also when that has none. -/
def matchingSpeaker (platform : AudioPlatform) (playoutDevices : List Device)
    (micId : String) : Option Endpoint :=
  platform.getMatchingDevice
    (platform.getAudioHardwareIdFromDeviceId .mic micId .empty false).2.2 .speaker playoutDevices

def matchingMic (platform : AudioPlatform) (captureDevices : List Device) (spkId : String) :
    Option Endpoint :=
  platform.getMatchingDevice
    (platform.getAudioHardwareIdFromDeviceId .speaker spkId .empty false).2.2 .mic captureDevices

/-- The microphone matching a speaker that is looked up over the ids of another
microphone, which is kept when there is none. -/
def micPairedWith (platform : AudioPlatform) (captureDevices : List Device) (mic : Endpoint)
    (spkId : String) : Endpoint :=
  let (_, ids, _) := platform.getAudioHardwareIdFromDeviceId .mic mic.id .empty false
  let (found, _, deviceId) :=
    platform.getAudioHardwareIdFromDeviceId .speaker spkId ids false
  (if found then platform.getMatchingDevice deviceId .mic captureDevices else none).getD mic

def hardwareIdFound (platform : AudioPlatform) (type : DeviceConfigType) (deviceId : String) :
    Bool :=
  (platform.getAudioHardwareIdFromDeviceId type deviceId .empty false).1

def hardwareKey (platform : AudioPlatform) (type : DeviceConfigType) (deviceId : String) :
    String :=
  (platform.getAudioHardwareIdFromDeviceId type deviceId .empty false).2.2

/-- The key of a speaker, if its hardware id is found by a lookup that starts from the
strings that of the microphone has left. -/
def speakerKey (platform : AudioPlatform) (micId spkId : String) : Option String :=
  let (_, ids, _) := platform.getAudioHardwareIdFromDeviceId .mic micId .empty false
  let (found, _, key) := platform.getAudioHardwareIdFromDeviceId .speaker spkId ids false
  if found then some key else none

end AudioPlatform

namespace AudioManager

def automaticSpk (platform : AudioPlatform) (captureDevices playoutDevices : List Device) :
    Endpoint :=
  let spk := platform.defaultPlayCommDevice.endpoint
  if platform.features.biasedAudioDeviceAutoSelection then
    platform.getPreferredDeviceId false captureDevices playoutDevices spk
  else spk

/-- The manager has these lists, and what it has cached are their automatic devices. -/
structure Recalls (platform : AudioPlatform) (captureDevices playoutDevices : List Device)
    (manager : AudioManager) : Prop where
  capture : manager.audioCaptureDevices = captureDevices
  playout : manager.audioPlayoutDevices = playoutDevices
  mic : manager.autoSpkMic.isMicValid = true →
    manager.autoSpkMic.mic = automaticMic platform captureDevices playoutDevices
  speaker : manager.autoSpkMic.isSpkValid = true →
    manager.autoSpkMic.speaker = automaticSpk platform captureDevices playoutDevices

section Cache

variable {platform : AudioPlatform} {captureDevices playoutDevices : List Device}
  {manager : AudioManager}

theorem recalls_forgetChoices (platform : AudioPlatform) (manager : AudioManager) :
    Recalls platform manager.audioCaptureDevices manager.audioPlayoutDevices
      manager.forgetChoices where
  capture := rfl
  playout := rfl
  mic valid := Bool.noConfusion valid
  speaker valid := Bool.noConfusion valid

theorem Recalls.congr (recalls : Recalls platform captureDevices playoutDevices manager)
    {other : AudioManager} (changes : other.changes = manager.changes)
    (autoSpkMic : other.autoSpkMic = manager.autoSpkMic) :
    Recalls platform captureDevices playoutDevices other := by
  obtain ⟨capture, playout, mic, speaker⟩ := recalls
  refine ⟨?_, ?_, ?_, ?_⟩
  · rw [audioCaptureDevices, changes]
    exact capture
  · rw [audioPlayoutDevices, changes]
    exact playout
  · rw [autoSpkMic]
    exact mic
  · rw [autoSpkMic]
    exact speaker

theorem startLevelCheck_cache (platform : AudioPlatform) (postMicCheck automaticMic : Bool)
    (manager : AudioManager) :
    (manager.startLevelCheck platform postMicCheck automaticMic).autoSpkMic =
      manager.autoSpkMic := by
  cases automaticMic <;> rfl

theorem clearLevelCheck_cache (postMicCheck : Bool) (manager : AudioManager) :
    (manager.clearLevelCheck postMicCheck).autoSpkMic = manager.autoSpkMic := by
  cases postMicCheck <;> rfl

/-- The microphone is cached unless it is the default one kept for its speaker. -/
theorem getAutomaticMic_cache (platform : AudioPlatform) (postMicCheck : Bool)
    (manager : AudioManager) :
    let after := (manager.getAutomaticMic platform postMicCheck).1
    after.autoSpkMic.speaker = manager.autoSpkMic.speaker ∧
      (after.autoSpkMic.mic = (manager.getAutomaticMic platform postMicCheck).2 ∨
        after.autoSpkMic.mic = manager.autoSpkMic.mic) := by
  simp only [getAutomaticMic]
  generalize platform.isDeviceBuiltIn manager.audioCaptureDevices
    platform.defaultCapCommDevice.endpoint.id = automaticMic
  have started := startLevelCheck_cache platform postMicCheck automaticMic manager
  generalize manager.startLevelCheck platform postMicCheck automaticMic = checked at started
  rw [← started]
  cases platform.features.biasedAudioDeviceAutoSelection with
  | true =>
      simp only [getBiasedMic, if_true]
      split_ifs
      · exact ⟨by rw [clearLevelCheck_cache], .inl trivial⟩
      · exact ⟨rfl, .inl trivial⟩
  | false =>
      simp only [getUsbMic, Bool.false_eq_true, if_false]
      split
      · rw [clearLevelCheck_cache]
        exact ⟨rfl, .inr rfl⟩
      · split
        · exact ⟨by rw [clearLevelCheck_cache], .inl rfl⟩
        · exact ⟨rfl, .inl rfl⟩

theorem Recalls.getAutomaticMic (recalls : Recalls platform captureDevices playoutDevices manager)
    (postMicCheck : Bool) :
    Recalls platform captureDevices playoutDevices
        (manager.getAutomaticMic platform postMicCheck).1 ∧
      (manager.getAutomaticMic platform postMicCheck).2 =
        automaticMic platform captureDevices playoutDevices := by
  have result := getAutomaticMic_snd platform postMicCheck manager
  rw [recalls.capture, recalls.playout] at result
  obtain ⟨same, -⟩ := getAutomaticMic_spec platform postMicCheck manager
  obtain ⟨speaker, mic⟩ := getAutomaticMic_cache platform postMicCheck manager
  refine ⟨⟨same.capture.trans recalls.capture, same.playout.trans recalls.playout, ?_, ?_⟩,
    result⟩
  · intro valid
    rcases mic with cached | kept
    · exact cached.trans result
    · rw [SpeakerMicAutoDetails.isMicValid, kept] at valid
      exact kept.trans (recalls.mic valid)
  · intro valid
    rw [SpeakerMicAutoDetails.isSpkValid, speaker] at valid
    exact speaker.trans (recalls.speaker valid)

theorem Recalls.getAutomaticSpk (recalls : Recalls platform captureDevices playoutDevices manager) :
    Recalls platform captureDevices playoutDevices (manager.getAutomaticSpk platform).1 ∧
      (manager.getAutomaticSpk platform).2 =
        automaticSpk platform captureDevices playoutDevices := by
  have result : (manager.getAutomaticSpk platform).2 =
      automaticSpk platform captureDevices playoutDevices := by
    simp only [AudioManager.getAutomaticSpk, automaticSpk, recalls.capture, recalls.playout]
  exact ⟨⟨recalls.capture, recalls.playout, recalls.mic, fun _ => result⟩, result⟩

theorem Recalls.cachedAutomaticMic
    (recalls : Recalls platform captureDevices playoutDevices manager) :
    Recalls platform captureDevices playoutDevices (manager.cachedAutomaticMic platform).1 ∧
      (manager.cachedAutomaticMic platform).2 =
        automaticMic platform captureDevices playoutDevices := by
  unfold AudioManager.cachedAutomaticMic
  cases valid : manager.autoSpkMic.isMicValid with
  | true => exact ⟨recalls, recalls.mic valid⟩
  | false => exact recalls.getAutomaticMic false

theorem Recalls.cachedAutomaticSpk
    (recalls : Recalls platform captureDevices playoutDevices manager) :
    (manager.cachedAutomaticSpk platform).2 =
      automaticSpk platform captureDevices playoutDevices := by
  unfold AudioManager.cachedAutomaticSpk
  cases valid : manager.autoSpkMic.isSpkValid with
  | true => exact recalls.speaker valid
  | false => exact recalls.getAutomaticSpk.2

end Cache

/-- The microphone and the speaker that are chosen when both are Automatic. -/
def pairOfAutomatic (platform : AudioPlatform) (captureDevices playoutDevices : List Device) :
    Endpoint × Endpoint :=
  let mic := automaticMic platform captureDevices playoutDevices
  match platform.matchingSpeaker playoutDevices mic.id with
  | some spk => (mic, spk)
  | none =>
      let spk := automaticSpk platform captureDevices playoutDevices
      (platform.micPairedWith captureDevices mic spk.id, spk)

def speakerFor (platform : AudioPlatform) (captureDevices playoutDevices : List Device)
    (micId : String) : Endpoint :=
  (platform.matchingSpeaker playoutDevices micId).getD
    (automaticSpk platform captureDevices playoutDevices)

def micFor (platform : AudioPlatform) (captureDevices playoutDevices : List Device)
    (spkId : String) : Endpoint :=
  (platform.matchingMic captureDevices spkId).getD
    (automaticMic platform captureDevices playoutDevices)

section Choice

variable {platform : AudioPlatform} {captureDevices playoutDevices : List Device}
  {manager : AudioManager}

theorem Recalls.chooseAutomatic
    (recalls : Recalls platform captureDevices playoutDevices manager) :
    Recalls platform captureDevices playoutDevices (manager.chooseAutomatic platform).1 ∧
      ((manager.chooseAutomatic platform).2.mic, (manager.chooseAutomatic platform).2.spk) =
        pairOfAutomatic platform captureDevices playoutDevices ∧
      (manager.chooseAutomatic platform).2.micSelection ≠ .manual ∧
      (manager.chooseAutomatic platform).2.spkrSelection ≠ .manual := by
  obtain ⟨asked, mic⟩ := recalls.getAutomaticMic true
  obtain ⟨askedBoth, spk⟩ := asked.getAutomaticSpk
  simp only [AudioManager.chooseAutomatic, pairOfAutomatic, mic, asked.playout, spk,
    askedBoth.capture, AudioPlatform.matchingSpeaker, AudioPlatform.micPairedWith]
  cases matched : platform.getMatchingDevice (platform.getAudioHardwareIdFromDeviceId .mic
      (automaticMic platform captureDevices playoutDevices).id .empty false).2.2 .speaker
      playoutDevices with
  | some spk => exact ⟨asked, rfl, by simp, by simp⟩
  | none =>
      simp only
      split
      case h_1 paired found =>
        rw [found]
        exact ⟨askedBoth.congr rfl rfl, rfl, by simp, by simp⟩
      case h_2 unpaired =>
        rw [unpaired]
        exact ⟨askedBoth, rfl, by simp, by simp⟩

theorem Recalls.chooseSpeakerFor
    (recalls : Recalls platform captureDevices playoutDevices manager) (mic : Endpoint) :
    Recalls platform captureDevices playoutDevices (manager.chooseSpeakerFor platform mic).1 ∧
      (manager.chooseSpeakerFor platform mic).2.mic = mic ∧
      (manager.chooseSpeakerFor platform mic).2.spk =
        speakerFor platform captureDevices playoutDevices mic.id ∧
      (manager.chooseSpeakerFor platform mic).2.micSelection = .manual ∧
      (manager.chooseSpeakerFor platform mic).2.spkrSelection ≠ .manual := by
  obtain ⟨asked, spk⟩ := recalls.getAutomaticSpk
  simp only [AudioManager.chooseSpeakerFor, speakerFor, recalls.playout, spk,
    AudioPlatform.matchingSpeaker]
  split
  case h_1 paired found =>
    rw [found]
    exact ⟨recalls, rfl, rfl, rfl, by simp⟩
  case h_2 unpaired =>
    rw [unpaired]
    exact ⟨asked, rfl, rfl, rfl, by simp⟩

theorem Recalls.chooseMicFor
    (recalls : Recalls platform captureDevices playoutDevices manager) (spk : Endpoint) :
    Recalls platform captureDevices playoutDevices (manager.chooseMicFor platform spk).1 ∧
      (manager.chooseMicFor platform spk).2.spk = spk ∧
      (manager.chooseMicFor platform spk).2.mic =
        micFor platform captureDevices playoutDevices spk.id ∧
      (manager.chooseMicFor platform spk).2.micSelection ≠ .manual ∧
      (manager.chooseMicFor platform spk).2.spkrSelection = .manual := by
  obtain ⟨asked, mic⟩ := recalls.getAutomaticMic true
  simp only [AudioManager.chooseMicFor, micFor, recalls.capture, mic, AudioPlatform.matchingMic]
  split
  case h_1 paired found =>
    rw [found]
    exact ⟨recalls, rfl, rfl, by simp, rfl⟩
  case h_2 unpaired =>
    rw [unpaired]
    exact ⟨asked, rfl, rfl, by simp, rfl⟩

theorem Recalls.deviceMatching_mic
    (recalls : Recalls platform captureDevices playoutDevices manager) (micId : String) :
    manager.deviceMatching platform .mic micId =
      if (platform.getAudioHardwareIdFromDeviceId .mic micId .empty false).1 then
        platform.matchingSpeaker playoutDevices micId
      else none := by
  unfold AudioManager.deviceMatching AudioPlatform.matchingSpeaker
  rw [recalls.playout]
  obtain ⟨found, ids, key⟩ := platform.getAudioHardwareIdFromDeviceId .mic micId .empty false
  cases found <;> rfl

theorem Recalls.deviceMatching_speaker
    (recalls : Recalls platform captureDevices playoutDevices manager) (spkId : String) :
    manager.deviceMatching platform .speaker spkId =
      if (platform.getAudioHardwareIdFromDeviceId .speaker spkId .empty false).1 then
        platform.matchingMic captureDevices spkId
      else none := by
  unfold AudioManager.deviceMatching AudioPlatform.matchingMic
  rw [recalls.capture]
  obtain ⟨found, ids, key⟩ := platform.getAudioHardwareIdFromDeviceId .speaker spkId .empty false
  cases found <;> rfl

theorem Recalls.chooseSpeaker {label : LabelState}
    (recalls : Recalls platform captureDevices playoutDevices label.manager) :
    (label.chooseSpeaker platform).autoSpeaker =
      if label.speakerInitType = .auto then
        automaticSpk platform captureDevices playoutDevices
      else label.autoSpeaker := by
  unfold LabelState.chooseSpeaker
  split
  · exact recalls.cachedAutomaticSpk
  · rfl

theorem chooseSpeaker_autoMic (platform : AudioPlatform) (label : LabelState) :
    (label.chooseSpeaker platform).autoMic = label.autoMic := by
  unfold LabelState.chooseSpeaker
  split <;> rfl

theorem Recalls.chooseMic {label : LabelState}
    (recalls : Recalls platform captureDevices playoutDevices label.manager) :
    Recalls platform captureDevices playoutDevices (label.chooseMic platform).manager ∧
      (label.chooseMic platform).autoMic =
        (if label.micInitType = .auto then automaticMic platform captureDevices playoutDevices
        else label.autoMic) ∧
      (label.chooseMic platform).speakerInitType = label.speakerInitType ∧
      (label.chooseMic platform).autoSpeaker = label.autoSpeaker := by
  unfold LabelState.chooseMic
  split
  · exact ⟨recalls.cachedAutomaticMic.1, recalls.cachedAutomaticMic.2, rfl, rfl⟩
  · exact ⟨recalls, rfl, rfl, rfl⟩

/-- The last two steps of the label: a device is automatic where nothing matched. -/
theorem Recalls.choose {label : LabelState}
    (recalls : Recalls platform captureDevices playoutDevices label.manager) :
    ((label.chooseMic platform).chooseSpeaker platform).autoMic =
        (if label.micInitType = .auto then automaticMic platform captureDevices playoutDevices
        else label.autoMic) ∧
      ((label.chooseMic platform).chooseSpeaker platform).autoSpeaker =
        if label.speakerInitType = .auto then
          automaticSpk platform captureDevices playoutDevices
        else label.autoSpeaker := by
  obtain ⟨kept, mic, type, speaker⟩ := recalls.chooseMic
  refine ⟨(chooseSpeaker_autoMic platform _).trans mic, ?_⟩
  rw [kept.chooseSpeaker, type, speaker]

/-- The speaker is matched against the automatic microphone. -/
theorem Recalls.matchSpeakerToAutoMic
    (recalls : Recalls platform captureDevices playoutDevices manager) (mic : Endpoint) :
    let label := LabelState.matchSpeakerToAutoMic platform
      ⟨manager, .default, .speakerMatchingAutoMic, mic, ⟨"", ""⟩⟩
    Recalls platform captureDevices playoutDevices label.manager ∧ label.autoMic = mic ∧
      label.micInitType = .default ∧ label.speakerInitType ≠ .matching ∧
      (if label.speakerInitType = .auto then automaticSpk platform captureDevices playoutDevices
        else label.autoSpeaker) =
        if (platform.getAudioHardwareIdFromDeviceId .mic
            (automaticMic platform captureDevices playoutDevices).id .empty false).1 then
          speakerFor platform captureDevices playoutDevices
            (automaticMic platform captureDevices playoutDevices).id
        else automaticSpk platform captureDevices playoutDevices := by
  obtain ⟨asked, autoMic⟩ := recalls.cachedAutomaticMic
  simp only [LabelState.matchSpeakerToAutoMic, if_true, autoMic, asked.deviceMatching_mic,
    speakerFor]
  generalize (platform.getAudioHardwareIdFromDeviceId .mic
    (automaticMic platform captureDevices playoutDevices).id .empty false).1 = found
  cases found with
  | false => exact ⟨asked, rfl, rfl, by simp, by simp⟩
  | true =>
      cases platform.matchingSpeaker playoutDevices
          (automaticMic platform captureDevices playoutDevices).id with
      | some spk => exact ⟨asked, rfl, rfl, by simp, by simp⟩
      | none => exact ⟨asked, rfl, rfl, by simp, by simp⟩

/-- The microphone is matched against the speaker that is selected. -/
theorem Recalls.matchMicToAutoSpeaker
    (recalls : Recalls platform captureDevices playoutDevices manager) (spk : Endpoint) :
    let label := LabelState.matchMicToAutoSpeaker platform spk
      ⟨manager, .micMatchingAutoSpeaker, .default, ⟨"", ""⟩, spk⟩
    let mic := automaticMic platform captureDevices playoutDevices
    Recalls platform captureDevices playoutDevices label.manager ∧
      label.micInitType = .micMatchingAutoSpeaker ∧ label.speakerInitType = .default ∧
      label.autoSpeaker = spk ∧
      label.autoMic =
        if (platform.getAudioHardwareIdFromDeviceId .mic mic.id .empty false).1 &&
            (platform.matchingSpeaker playoutDevices mic.id).isSome then mic
        else platform.micPairedWith captureDevices mic spk.id := by
  obtain ⟨asked, autoMic⟩ := recalls.cachedAutomaticMic
  obtain ⟨askedBoth, -⟩ := asked.getAutomaticSpk
  simp only [LabelState.matchMicToAutoSpeaker, if_true, autoMic, asked.playout,
    askedBoth.capture, AudioPlatform.matchingSpeaker, AudioPlatform.micPairedWith,
    ← Option.not_isSome, ← Bool.not_and, Bool.not_eq_true']
  split
  case isTrue unpaired =>
    exact ⟨askedBoth, rfl, rfl, rfl, (if_neg (Bool.eq_false_iff.mp unpaired)).symm⟩
  case isFalse paired =>
    exact ⟨asked, rfl, rfl, rfl, (if_pos (Bool.eq_true_of_not_eq_false paired)).symm⟩

theorem matchMic_manual (platform : AudioPlatform) (mic spk : Endpoint) (manager : AudioManager) :
    LabelState.matchMic platform spk (LabelState.start .manual .manual mic spk manager) =
      match manager.deviceMatching platform .speaker spk.id with
      | some autoMic => ⟨manager, .matching, .matching, autoMic, ⟨"", ""⟩⟩
      | none => ⟨manager, .auto, .matching, ⟨"", ""⟩, ⟨"", ""⟩⟩ := rfl

theorem matchSpeaker_matching (platform : AudioPlatform) (mic : Endpoint) {label : LabelState}
    (matching : label.speakerInitType = .matching) :
    (label.matchSpeaker platform mic).manager = label.manager ∧
      (label.matchSpeaker platform mic).micInitType = label.micInitType ∧
      (label.matchSpeaker platform mic).autoMic = label.autoMic ∧
      ∀ automatic, (if (label.matchSpeaker platform mic).speakerInitType = .auto then automatic
          else (label.matchSpeaker platform mic).autoSpeaker) =
        (label.manager.deviceMatching platform .mic mic.id).getD automatic := by
  rw [LabelState.matchSpeaker, if_pos matching]
  cases label.manager.deviceMatching platform .mic mic.id with
  | some autoSpeaker => exact ⟨rfl, rfl, rfl, fun _ => if_neg (by simp [matching])⟩
  | none => exact ⟨rfl, rfl, rfl, fun _ => if_pos rfl⟩

theorem Recalls.choose_matching {label : LabelState}
    (recalls : Recalls platform captureDevices playoutDevices label.manager)
    (other : label.micInitType ≠ .micMatchingAutoSpeaker)
    (matching : label.speakerInitType = .matching) (mic spk : Endpoint) :
    let final := label.matchMicToAutoSpeaker platform spk
      |>.matchSpeakerToAutoMic platform
      |>.matchSpeaker platform mic
      |>.chooseMic platform
      |>.chooseSpeaker platform
    final.autoMic =
        (if label.micInitType = .auto then automaticMic platform captureDevices playoutDevices
        else label.autoMic) ∧
      final.autoSpeaker = (label.manager.deviceMatching platform .mic mic.id).getD
        (automaticSpk platform captureDevices playoutDevices) := by
  rw [LabelState.matchMicToAutoSpeaker_of_ne platform spk other,
    LabelState.matchSpeakerToAutoMic_of_ne platform (by simp [matching])]
  obtain ⟨manager, type, autoMic, speaker⟩ := matchSpeaker_matching platform mic matching
  have matched : Recalls platform captureDevices playoutDevices
      (label.matchSpeaker platform mic).manager := manager ▸ recalls
  obtain ⟨chosenMic, chosenSpeaker⟩ := matched.choose
  rw [type, autoMic] at chosenMic
  exact ⟨chosenMic, chosenSpeaker.trans (speaker _)⟩

theorem ite_none_getD (found : Bool) (matching : Option Endpoint) (automatic : Endpoint) :
    (if found then matching else none).getD automatic =
      if found then matching.getD automatic else automatic := by
  cases found <;> rfl

/-- Each device is matched against the other one that is selected. -/
theorem Recalls.compute_manual
    (recalls : Recalls platform captureDevices playoutDevices manager) (mic spk : Endpoint) :
    let label := LabelState.compute platform .manual .manual mic spk manager
    label.autoMic =
        (if (platform.getAudioHardwareIdFromDeviceId .speaker spk.id .empty false).1 then
          micFor platform captureDevices playoutDevices spk.id
        else automaticMic platform captureDevices playoutDevices) ∧
      label.autoSpeaker =
        if (platform.getAudioHardwareIdFromDeviceId .mic mic.id .empty false).1 then
          speakerFor platform captureDevices playoutDevices mic.id
        else automaticSpk platform captureDevices playoutDevices := by
  have micMatched := recalls.deviceMatching_speaker spk.id
  have speakerMatched := recalls.deviceMatching_mic mic.id
  simp only [micFor, speakerFor, ← ite_none_getD, ← micMatched, ← speakerMatched]
  simp only [LabelState.compute, matchMic_manual]
  cases manager.deviceMatching platform .speaker spk.id with
  | some autoMic => exact Recalls.choose_matching recalls (by simp) rfl mic spk
  | none => exact Recalls.choose_matching recalls (by simp) rfl mic spk

theorem Recalls.compute_micAutomatic
    (recalls : Recalls platform captureDevices playoutDevices manager)
    {micSelection : AudioDeviceSelection} (automatic : micSelection ≠ .manual)
    (mic spk : Endpoint) :
    let label := LabelState.compute platform micSelection .manual mic spk manager
    let autoMic := automaticMic platform captureDevices playoutDevices
    label.autoMic = mic ∧
      label.autoSpeaker =
        if (platform.getAudioHardwareIdFromDeviceId .mic autoMic.id .empty false).1 then
          speakerFor platform captureDevices playoutDevices autoMic.id
        else automaticSpk platform captureDevices playoutDevices := by
  have started : LabelState.start micSelection .manual mic spk manager =
      ⟨manager, .default, .speakerMatchingAutoMic, mic, ⟨"", ""⟩⟩ := by
    cases micSelection with
    | manual => exact absurd rfl automatic
    | auto => rfl
    | paired => rfl
  obtain ⟨matched, autoMic, type, other, speaker⟩ := recalls.matchSpeakerToAutoMic mic
  obtain ⟨chosenMic, chosenSpeaker⟩ := matched.choose
  simp only [LabelState.compute, started]
  rw [LabelState.matchMic_of_ne platform spk (by simp),
    LabelState.matchMicToAutoSpeaker_of_ne platform spk (by simp),
    LabelState.matchSpeaker, if_neg other]
  rw [type, autoMic] at chosenMic
  exact ⟨chosenMic, chosenSpeaker.trans speaker⟩

theorem Recalls.compute_speakerAutomatic
    (recalls : Recalls platform captureDevices playoutDevices manager)
    {spkrSelection : AudioDeviceSelection} (automatic : spkrSelection ≠ .manual)
    (mic spk : Endpoint) :
    let label := LabelState.compute platform .manual spkrSelection mic spk manager
    let autoMic := automaticMic platform captureDevices playoutDevices
    label.autoMic =
        (if (platform.getAudioHardwareIdFromDeviceId .mic autoMic.id .empty false).1 &&
            (platform.matchingSpeaker playoutDevices autoMic.id).isSome then autoMic
        else platform.micPairedWith captureDevices autoMic spk.id) ∧
      label.autoSpeaker = spk := by
  have started : LabelState.start .manual spkrSelection mic spk manager =
      ⟨manager, .micMatchingAutoSpeaker, .default, ⟨"", ""⟩, spk⟩ := by
    cases spkrSelection with
    | manual => exact absurd rfl automatic
    | auto => rfl
    | paired => rfl
  obtain ⟨matched, type, other, speaker, autoMic⟩ := recalls.matchMicToAutoSpeaker spk
  obtain ⟨chosenMic, chosenSpeaker⟩ := matched.choose
  simp only [LabelState.compute, started]
  rw [LabelState.matchMic_of_ne platform spk (by simp),
    LabelState.matchSpeakerToAutoMic_of_ne platform (by simp [other]),
    LabelState.matchSpeaker, if_neg (by simp [other])]
  rw [type, if_neg (by simp)] at chosenMic
  rw [other, if_neg (by simp)] at chosenSpeaker
  exact ⟨chosenMic.trans autoMic, chosenSpeaker.trans speaker⟩

theorem compute_automatic (platform : AudioPlatform) (manager : AudioManager)
    {micSelection spkrSelection : AudioDeviceSelection}
    (micAutomatic : micSelection ≠ .manual) (spkrAutomatic : spkrSelection ≠ .manual)
    (mic spk : Endpoint) :
    let label := LabelState.compute platform micSelection spkrSelection mic spk manager
    label.autoMic = mic ∧ label.autoSpeaker = spk := by
  have started : LabelState.start micSelection spkrSelection mic spk manager =
      ⟨manager, .default, .default, mic, spk⟩ := by
    cases micSelection with
    | manual => exact absurd rfl micAutomatic
    | auto =>
        cases spkrSelection with
        | manual => exact absurd rfl spkrAutomatic
        | auto => rfl
        | paired => rfl
    | paired =>
        cases spkrSelection with
        | manual => exact absurd rfl spkrAutomatic
        | auto => rfl
        | paired => rfl
  simp only [LabelState.compute, started]
  exact ⟨rfl, rfl⟩

theorem pairOfAutomatic_snd (platform : AudioPlatform) (captureDevices playoutDevices) :
    (pairOfAutomatic platform captureDevices playoutDevices).2 =
      speakerFor platform captureDevices playoutDevices
        (automaticMic platform captureDevices playoutDevices).id := by
  simp only [pairOfAutomatic, speakerFor]
  cases platform.matchingSpeaker playoutDevices
      (automaticMic platform captureDevices playoutDevices).id with
  | some spk => rfl
  | none => rfl

end Choice

def selectsMic (selected : LocalMediaInfo) : Bool :=
  selected.microphoneId != automaticDeviceGuid

def selectsSpeaker (selected : LocalMediaInfo) : Bool :=
  selected.speakerId != automaticDeviceGuid

/-- The label is on, and some device is selected once the selection is handled. -/
def writesLabel (platform : AudioPlatform) (selectedDevices : LocalMediaInfo)
    (manager : AudioManager) : Bool :=
  let (resolved, chosen) := manager.resolve platform selectedDevices
  let options := platform.changeDevices resolved.selectedDeviceOptions chosen.selection
  platform.features.labelAutomaticDevice &&
    !(options.microphoneId.isEmpty && options.speakerId.isEmpty)

/-- The names written are those of the devices that would be selected if the user had
chosen Automatic for the one and left the other as it is. -/
structure LabelTrue (platform : AudioPlatform) (selectedDevices : LocalMediaInfo)
    (manager : AudioManager) : Prop where
  mic : ∀ automatic ∈ (manager.handleInitMedia platform selectedDevices).audioCaptureDevices.head?,
    automatic.name = (manager.resolve platform
      { selectedDevices with microphoneId := automaticDeviceGuid }).2.mic.name
  speaker : ∀ automatic ∈
      (manager.handleInitMedia platform selectedDevices).audioPlayoutDevices.head?,
    automatic.name = (manager.resolve platform
      { selectedDevices with speakerId := automaticDeviceGuid }).2.spk.name

section Resolution

variable {platform : AudioPlatform} {captureDevices playoutDevices : List Device}
  {manager : AudioManager}

theorem Recalls.chooseDevices
    (recalls : Recalls platform captureDevices playoutDevices manager)
    (selectedDevices : LocalMediaInfo) :
    let chosen := (manager.chooseDevices platform selectedDevices).2
    Recalls platform captureDevices playoutDevices
        (manager.chooseDevices platform selectedDevices).1 ∧
      (chosen.micSelection = .manual ↔ selectsMic selectedDevices = true) ∧
      (chosen.spkrSelection = .manual ↔ selectsSpeaker selectedDevices = true) ∧
      (selectsMic selectedDevices = false →
        chosen.mic = if selectsSpeaker selectedDevices then
            micFor platform captureDevices playoutDevices selectedDevices.speakerId
          else (pairOfAutomatic platform captureDevices playoutDevices).1) ∧
      (selectsSpeaker selectedDevices = false →
        chosen.spk = if selectsMic selectedDevices then
            speakerFor platform captureDevices playoutDevices selectedDevices.microphoneId
          else (pairOfAutomatic platform captureDevices playoutDevices).2) ∧
      (selectsMic selectedDevices = true → chosen.mic.id = selectedDevices.microphoneId) ∧
      (selectsSpeaker selectedDevices = true → chosen.spk.id = selectedDevices.speakerId) := by
  unfold AudioManager.chooseDevices selectsMic selectsSpeaker
  by_cases micAutomatic : selectedDevices.microphoneId = automaticDeviceGuid
  · by_cases spkAutomatic : selectedDevices.speakerId = automaticDeviceGuid
    · obtain ⟨kept, pair, mic, spk⟩ := recalls.chooseAutomatic
      simp [micAutomatic, spkAutomatic, kept, ← pair, mic, spk]
    · obtain ⟨kept, given, found, mic, spk⟩ :=
        recalls.chooseMicFor ⟨selectedDevices.speakerId, selectedDevices.speaker⟩
      simp [micAutomatic, spkAutomatic, kept, given, found, mic, spk]
  · by_cases spkAutomatic : selectedDevices.speakerId = automaticDeviceGuid
    · obtain ⟨kept, given, found, mic, spk⟩ :=
        recalls.chooseSpeakerFor ⟨selectedDevices.microphoneId, selectedDevices.microphone⟩
      simp [micAutomatic, spkAutomatic, kept, given, found, mic, spk]
    · simp [micAutomatic, spkAutomatic, recalls]

end Resolution

theorem handleInitMedia_labelled (platform : AudioPlatform) (selectedDevices : LocalMediaInfo)
    (manager : AudioManager) (written : manager.writesLabel platform selectedDevices = true) :
    let chosen := (manager.resolve platform selectedDevices).2
    ∃ resolved, Recalls platform manager.audioCaptureDevices manager.audioPlayoutDevices resolved ∧
      let label := LabelState.compute platform chosen.micSelection chosen.spkrSelection
        chosen.mic chosen.spk resolved
      (manager.handleInitMedia platform selectedDevices).audioCaptureDevices =
          DeviceChanges.relabelFirst label.autoMic.name manager.audioCaptureDevices ∧
        (manager.handleInitMedia platform selectedDevices).audioPlayoutDevices =
          DeviceChanges.relabelFirst label.autoSpeaker.name manager.audioPlayoutDevices := by
  obtain ⟨recalls, -⟩ := (recalls_forgetChoices platform manager).chooseDevices selectedDevices
  simp only [writesLabel, resolve, Bool.and_eq_true, Bool.not_eq_true'] at written recalls
  obtain ⟨labels, available⟩ := written
  simp only [resolve]
  generalize resolution : manager.forgetChoices.chooseDevices platform selectedDevices = result
    at recalls available
  obtain ⟨resolved, chosen⟩ := result
  simp only at recalls available
  obtain ⟨micLvl, level⟩ := setLocalDevicesOptions_spec chosen.selection resolved
  refine ⟨{ resolved with
    check := { resolved.check with micLvl := micLvl }
    selectedDeviceOptions :=
      platform.changeDevices resolved.selectedDeviceOptions chosen.selection },
    recalls.congr rfl rfl, ?_⟩
  have resolution : AudioManager.chooseDevices platform selectedDevices
      { manager with autoSpkMic := .clear } = (resolved, chosen) := resolution
  obtain ⟨same, -⟩ := compute_spec platform chosen.micSelection chosen.spkrSelection chosen.mic
    chosen.spk { resolved with
      check := { resolved.check with micLvl := micLvl }
      selectedDeviceOptions :=
        platform.changeDevices resolved.selectedDeviceOptions chosen.selection }
  simp only [handleInitMedia, resolution, labels, level, ↓reduceIte, updateAutomaticDeviceLabel,
    available, Bool.false_eq_true, audioCaptureDevices, audioPlayoutDevices, same.changes,
    DeviceChanges.relabelAutomaticDevices]
  have capture : resolved.changes.saved.audioCapture = manager.changes.saved.audioCapture :=
    recalls.capture
  have playout : resolved.changes.saved.audioPlayout = manager.changes.saved.audioPlayout :=
    recalls.playout
  rw [capture, playout]
  exact ⟨rfl, rfl⟩

/-- The device's hardware id is found, or no listed device has the key its failed lookup
assembles, or the first one that has is called like the automatic device. -/
def HeedsLookup (platform : AudioPlatform) (type : DeviceConfigType) (deviceId : String)
    (other : DeviceConfigType) (devices : List Device) (automatic : Endpoint) : Prop :=
  platform.hardwareIdFound type deviceId = true ∨
    ∀ device, platform.FirstWithKey (platform.hardwareKey type deviceId) other .empty devices
      device → device.name = automatic.name

section Condition

variable (platform : AudioPlatform) (captureDevices playoutDevices : List Device)

def NoMicHas (key : Option String) : Prop :=
  ∀ found ∈ key, platform.NoneHasKey found .mic .empty captureDevices

def FirstMicHas (key : Option String) (device : Device) : Prop :=
  ∃ found ∈ key, platform.FirstWithKey found .mic .empty captureDevices device

/-- The keys of two speakers are one, or they find no microphone, or just one of them finds
one and that is called like the automatic microphone, or they find two of one name. -/
def KeysAgree (mic : Endpoint) (used automatic : Option String) : Prop :=
  used = automatic ∨
  (NoMicHas platform captureDevices used ∧ NoMicHas platform captureDevices automatic) ∨
  (∃ device, FirstMicHas platform captureDevices used device ∧
    NoMicHas platform captureDevices automatic ∧ device.name = mic.name) ∨
  (∃ device, NoMicHas platform captureDevices used ∧
    FirstMicHas platform captureDevices automatic device ∧ device.name = mic.name) ∨
  ∃ first second, FirstMicHas platform captureDevices used first ∧
    FirstMicHas platform captureDevices automatic second ∧ first.name = second.name

/-- The speaker beside a microphone: the first listed one with the key assembled for the
microphone, or else the automatic one. -/
def SpeakerInUse (micId spkId : String) : Prop :=
  (∃ device, platform.FirstWithKey (platform.hardwareKey .mic micId) .speaker .empty
    playoutDevices device ∧ device.id = spkId) ∨
  (platform.NoneHasKey (platform.hardwareKey .mic micId) .speaker .empty playoutDevices ∧
    spkId = (automaticSpk platform captureDevices playoutDevices).id)

/-- Where no listed speaker has the key of the automatic microphone, the keys of the speaker
in use and of the automatic one agree. Where one has, the microphone's hardware id is found,
or the speaker in use finds no microphone but one that is called like the automatic one. -/
def PairsAlike (micId : String) : Prop :=
  let mic := automaticMic platform captureDevices playoutDevices
  let spk := automaticSpk platform captureDevices playoutDevices
  ∀ used, SpeakerInUse platform captureDevices playoutDevices micId used →
    (platform.NoneHasKey (platform.hardwareKey .mic mic.id) .speaker .empty playoutDevices →
      KeysAgree platform captureDevices mic (platform.speakerKey mic.id used)
        (platform.speakerKey mic.id spk.id)) ∧
    (¬ platform.NoneHasKey (platform.hardwareKey .mic mic.id) .speaker .empty playoutDevices →
      platform.hardwareIdFound .mic mic.id = true ∨
        ∀ device, FirstMicHas platform captureDevices (platform.speakerKey mic.id used) device →
          device.name = mic.name)

def MicLabelMatches (selectedDevices : LocalMediaInfo) : Prop :=
  selectsMic selectedDevices = true →
    if selectsSpeaker selectedDevices then
      HeedsLookup platform .speaker selectedDevices.speakerId .mic captureDevices
        (automaticMic platform captureDevices playoutDevices)
    else PairsAlike platform captureDevices playoutDevices selectedDevices.microphoneId

def SpeakerLabelMatches (selectedDevices : LocalMediaInfo) : Prop :=
  selectsSpeaker selectedDevices = true →
    HeedsLookup platform .mic
      (if selectsMic selectedDevices then selectedDevices.microphoneId
        else (automaticMic platform captureDevices playoutDevices).id)
      .speaker playoutDevices (automaticSpk platform captureDevices playoutDevices)

end Condition

/-- A device that is found is taken instead of the automatic one, and has the same name. -/
theorem name_getD_iff {matching : Option Endpoint} {First : Device → Prop}
    (matched : ∀ found, matching = some found ↔ ∃ device, First device ∧ device.endpoint = found)
    (automatic : Endpoint) :
    (matching.getD automatic).name = automatic.name ↔
      ∀ device, First device → device.name = automatic.name := by
  constructor
  · intro same device first
    rw [(matched _).mpr ⟨device, first, rfl⟩] at same
    exact same
  · intro all
    cases found : matching with
    | none => rfl
    | some other =>
        obtain ⟨device, first, rfl⟩ := (matched other).mp found
        exact all device first

theorem heedsLookup_iff (platform : AudioPlatform) (type : DeviceConfigType) (deviceId : String)
    (other : DeviceConfigType) (devices : List Device) (automatic : Endpoint) :
    let matching :=
      platform.getMatchingDevice (platform.hardwareKey type deviceId) other devices
    (if platform.hardwareIdFound type deviceId then matching.getD automatic else automatic).name =
        (matching.getD automatic).name ↔
      HeedsLookup platform type deviceId other devices automatic := by
  unfold HeedsLookup
  rw [← name_getD_iff fun _ => AudioPlatform.getMatchingDevice_eq_some_iff]
  cases platform.hardwareIdFound type deviceId with
  | true => simp
  | false => simp [eq_comm]

section Pairing

variable {platform : AudioPlatform} {captureDevices playoutDevices : List Device}
  {key : Option String}

theorem noMicHas_iff :
    NoMicHas platform captureDevices key ↔
      (key.bind fun key => platform.getMatchingDevice key .mic captureDevices) = none := by
  simp only [NoMicHas, Option.bind_eq_none_iff, Option.mem_def,
    AudioPlatform.getMatchingDevice_eq_none_iff]

theorem bind_matching_eq_some_iff {found : Endpoint} :
    (key.bind fun key => platform.getMatchingDevice key .mic captureDevices) = some found ↔
      ∃ device, FirstMicHas platform captureDevices key device ∧ device.endpoint = found := by
  simp only [FirstMicHas, Option.bind_eq_some_iff, Option.mem_def,
    AudioPlatform.getMatchingDevice_eq_some_iff]
  constructor
  · intro matched
    obtain ⟨key, given, device, first, same⟩ := matched
    exact ⟨device, ⟨key, given, first⟩, same⟩
  · intro matched
    obtain ⟨device, ⟨key, given, first⟩, same⟩ := matched
    exact ⟨key, given, device, first, same⟩

theorem FirstMicHas.matching {device : Device}
    (first : FirstMicHas platform captureDevices key device) :
    (key.bind fun key => platform.getMatchingDevice key .mic captureDevices) =
      some device.endpoint :=
  bind_matching_eq_some_iff.mpr ⟨device, first, rfl⟩

theorem keysAgree_iff (mic : Endpoint) (used automatic : Option String) :
    KeysAgree platform captureDevices mic used automatic ↔
      ((used.bind fun key => platform.getMatchingDevice key .mic captureDevices).getD mic).name =
        ((automatic.bind fun key =>
          platform.getMatchingDevice key .mic captureDevices).getD mic).name := by
  constructor
  · intro agree
    rcases agree with rfl | ⟨none, noneToo⟩ | ⟨device, first, none, same⟩ |
      ⟨device, none, first, same⟩ | ⟨device, other, first, second, same⟩
    · rfl
    · rw [noMicHas_iff.mp none, noMicHas_iff.mp noneToo]
    · rw [first.matching, noMicHas_iff.mp none]
      exact same
    · rw [first.matching, noMicHas_iff.mp none]
      exact same.symm
    · rw [first.matching, second.matching]
      exact same
  · intro same
    cases found : used.bind fun key => platform.getMatchingDevice key .mic captureDevices with
    | none =>
        cases wanted : automatic.bind fun key =>
            platform.getMatchingDevice key .mic captureDevices with
        | none => exact .inr (.inl ⟨noMicHas_iff.mpr found, noMicHas_iff.mpr wanted⟩)
        | some other =>
            rw [found, wanted] at same
            obtain ⟨device, first, rfl⟩ := bind_matching_eq_some_iff.mp wanted
            exact .inr (.inr (.inr (.inl ⟨device, noMicHas_iff.mpr found, first, same.symm⟩)))
    | some one =>
        obtain ⟨device, first, rfl⟩ := bind_matching_eq_some_iff.mp found
        cases wanted : automatic.bind fun key =>
            platform.getMatchingDevice key .mic captureDevices with
        | none =>
            rw [found, wanted] at same
            exact .inr (.inr (.inl ⟨device, first, noMicHas_iff.mpr wanted, same⟩))
        | some other =>
            rw [found, wanted] at same
            obtain ⟨second, firstToo, rfl⟩ := bind_matching_eq_some_iff.mp wanted
            exact .inr (.inr (.inr (.inr ⟨device, second, first, firstToo, same⟩)))

theorem micPairedWith_eq (mic : Endpoint) (spkId : String) :
    platform.micPairedWith captureDevices mic spkId =
      ((platform.speakerKey mic.id spkId).bind fun key =>
        platform.getMatchingDevice key .mic captureDevices).getD mic := by
  simp only [AudioPlatform.micPairedWith, AudioPlatform.speakerKey]
  split_ifs <;> rfl

theorem speakerInUse_iff {micId spkId : String} :
    SpeakerInUse platform captureDevices playoutDevices micId spkId ↔
      spkId = (speakerFor platform captureDevices playoutDevices micId).id := by
  unfold SpeakerInUse speakerFor AudioPlatform.matchingSpeaker
  change _ ↔ spkId = ((platform.getMatchingDevice (platform.hardwareKey .mic micId) .speaker
    playoutDevices).getD _).id
  cases matched : platform.getMatchingDevice (platform.hardwareKey .mic micId) .speaker
      playoutDevices with
  | none =>
      have none := AudioPlatform.getMatchingDevice_eq_none_iff.mp matched
      constructor
      · intro inUse
        rcases inUse with ⟨device, first, -⟩ | ⟨-, same⟩
        · rw [first.matching] at matched
          cases matched
        · exact same
      · intro same
        exact .inr ⟨none, same⟩
  | some found =>
      obtain ⟨device, first, rfl⟩ := AudioPlatform.getMatchingDevice_eq_some_iff.mp matched
      constructor
      · intro inUse
        rcases inUse with ⟨other, second, rfl⟩ | ⟨none, -⟩
        · exact congrArg Endpoint.id (Option.some.inj (second.matching.symm.trans matched))
        · rw [AudioPlatform.getMatchingDevice_eq_none_iff.mpr none] at matched
          cases matched
      · intro same
        exact .inl ⟨device, first, same.symm⟩

end Pairing

theorem pairsAlike_iff (platform : AudioPlatform) (captureDevices playoutDevices : List Device)
    (micId : String) :
    let mic := automaticMic platform captureDevices playoutDevices
    (if (platform.getAudioHardwareIdFromDeviceId .mic mic.id .empty false).1 &&
          (platform.matchingSpeaker playoutDevices mic.id).isSome then mic
        else platform.micPairedWith captureDevices mic
          (speakerFor platform captureDevices playoutDevices micId).id).name =
        (pairOfAutomatic platform captureDevices playoutDevices).1.name ↔
      PairsAlike platform captureDevices playoutDevices micId := by
  have keyed : platform.NoneHasKey
      (platform.hardwareKey .mic (automaticMic platform captureDevices playoutDevices).id)
      .speaker .empty playoutDevices ↔
      platform.matchingSpeaker playoutDevices
        (automaticMic platform captureDevices playoutDevices).id = none :=
    AudioPlatform.getMatchingDevice_eq_none_iff.symm
  simp only [PairsAlike, speakerInUse_iff, forall_eq, pairOfAutomatic, keyed, keysAgree_iff,
    ← micPairedWith_eq, AudioPlatform.hardwareIdFound,
    ← name_getD_iff fun _ => bind_matching_eq_some_iff]
  cases platform.matchingSpeaker playoutDevices
      (automaticMic platform captureDevices playoutDevices).id with
  | none => simp
  | some spk =>
      cases (platform.getAudioHardwareIdFromDeviceId .mic
        (automaticMic platform captureDevices playoutDevices).id .empty false).1 with
      | false => simp
      | true => simp

theorem micLabelMatches_nil (platform : AudioPlatform) (playoutDevices : List Device)
    (selectedDevices : LocalMediaInfo) :
    MicLabelMatches platform [] playoutDevices selectedDevices := by
  intro _
  have none (key : Option String) : NoMicHas platform [] key :=
    fun _ _ => AudioPlatform.noneHasKey_nil
  split_ifs
  · exact .inr fun device first => absurd first AudioPlatform.not_firstWithKey_nil
  · intro used _
    refine ⟨fun _ => .inr (.inl ⟨none _, none _⟩), fun _ => .inr fun device first => ?_⟩
    obtain ⟨key, _, first⟩ := first
    exact absurd first AudioPlatform.not_firstWithKey_nil

theorem speakerLabelMatches_nil (platform : AudioPlatform) (captureDevices : List Device)
    (selectedDevices : LocalMediaInfo) :
    SpeakerLabelMatches platform captureDevices [] selectedDevices :=
  fun _ => .inr fun _ first => absurd first AudioPlatform.not_firstWithKey_nil

theorem head_relabelFirst (name target : String) (devices : List Device) :
    (∀ first ∈ (DeviceChanges.relabelFirst name devices).head?, first.name = target) ↔
      (devices ≠ [] → name = target) := by
  cases devices with
  | nil => simp [DeviceChanges.relabelFirst]
  | cons first rest => simp [DeviceChanges.relabelFirst]

theorem speakerFor_heeds_iff (platform : AudioPlatform)
    (captureDevices playoutDevices : List Device) (micId : String) :
    (if (platform.getAudioHardwareIdFromDeviceId .mic micId .empty false).1 then
        speakerFor platform captureDevices playoutDevices micId
      else automaticSpk platform captureDevices playoutDevices).name =
        (speakerFor platform captureDevices playoutDevices micId).name ↔
      HeedsLookup platform .mic micId .speaker playoutDevices
        (automaticSpk platform captureDevices playoutDevices) :=
  heedsLookup_iff platform .mic micId .speaker playoutDevices _

theorem micFor_heeds_iff (platform : AudioPlatform)
    (captureDevices playoutDevices : List Device) (spkId : String) :
    (if (platform.getAudioHardwareIdFromDeviceId .speaker spkId .empty false).1 then
        micFor platform captureDevices playoutDevices spkId
      else automaticMic platform captureDevices playoutDevices).name =
        (micFor platform captureDevices playoutDevices spkId).name ↔
      HeedsLookup platform .speaker spkId .mic captureDevices
        (automaticMic platform captureDevices playoutDevices) :=
  heedsLookup_iff platform .speaker spkId .mic captureDevices _

section Label

variable (platform : AudioPlatform) (selectedDevices : LocalMediaInfo) (manager : AudioManager)

theorem resolve_micAutomatic :
    (manager.resolve platform { selectedDevices with
        microphoneId := automaticDeviceGuid }).2.mic =
      if selectsSpeaker selectedDevices then
        micFor platform manager.audioCaptureDevices manager.audioPlayoutDevices
          selectedDevices.speakerId
      else (pairOfAutomatic platform manager.audioCaptureDevices
        manager.audioPlayoutDevices).1 := by
  obtain ⟨-, -, -, mic, -⟩ := (recalls_forgetChoices platform manager).chooseDevices
    { selectedDevices with microphoneId := automaticDeviceGuid }
  exact mic (by simp [selectsMic])

theorem resolve_speakerAutomatic :
    (manager.resolve platform { selectedDevices with
        speakerId := automaticDeviceGuid }).2.spk =
      if selectsMic selectedDevices then
        speakerFor platform manager.audioCaptureDevices manager.audioPlayoutDevices
          selectedDevices.microphoneId
      else (pairOfAutomatic platform manager.audioCaptureDevices
        manager.audioPlayoutDevices).2 := by
  obtain ⟨-, -, -, -, spk, -⟩ := (recalls_forgetChoices platform manager).chooseDevices
    { selectedDevices with speakerId := automaticDeviceGuid }
  exact spk (by simp [selectsSpeaker])

/-- The names the label finds against those of the devices that would be selected. -/
theorem compute_names {resolved : AudioManager}
    (recalls : Recalls platform manager.audioCaptureDevices manager.audioPlayoutDevices resolved) :
    let chosen := (manager.resolve platform selectedDevices).2
    let label := LabelState.compute platform chosen.micSelection chosen.spkrSelection
      chosen.mic chosen.spk resolved
    (label.autoMic.name = (manager.resolve platform
          { selectedDevices with microphoneId := automaticDeviceGuid }).2.mic.name ↔
        MicLabelMatches platform manager.audioCaptureDevices manager.audioPlayoutDevices
          selectedDevices) ∧
      (label.autoSpeaker.name = (manager.resolve platform
          { selectedDevices with speakerId := automaticDeviceGuid }).2.spk.name ↔
        SpeakerLabelMatches platform manager.audioCaptureDevices manager.audioPlayoutDevices
          selectedDevices) := by
  rw [resolve_micAutomatic, resolve_speakerAutomatic]
  obtain ⟨-, micSelection, spkrSelection, mic, spk, micId, spkId⟩ :=
    (recalls_forgetChoices platform manager).chooseDevices selectedDevices
  simp only [MicLabelMatches, SpeakerLabelMatches, resolve]
  generalize (manager.forgetChoices.chooseDevices platform selectedDevices).2 = chosen
    at micSelection spkrSelection mic spk micId spkId
  cases micGiven : selectsMic selectedDevices with
  | false =>
      have micAutomatic : chosen.micSelection ≠ .manual := by simp [micSelection, micGiven]
      cases spkGiven : selectsSpeaker selectedDevices with
      | false =>
          have spkrAutomatic : chosen.spkrSelection ≠ .manual := by
            simp [spkrSelection, spkGiven]
          obtain ⟨autoMic, autoSpeaker⟩ := compute_automatic platform resolved micAutomatic
            spkrAutomatic chosen.mic chosen.spk
          rw [autoMic, autoSpeaker, mic micGiven, spk spkGiven, micGiven, spkGiven]
          simp
      | true =>
          obtain ⟨autoMic, autoSpeaker⟩ := recalls.compute_micAutomatic micAutomatic
            chosen.mic chosen.spk
          rw [spkrSelection.mpr spkGiven, autoMic, autoSpeaker, mic micGiven, spkGiven,
            pairOfAutomatic_snd]
          simp [speakerFor_heeds_iff]
  | true =>
      cases spkGiven : selectsSpeaker selectedDevices with
      | false =>
          have spkrAutomatic : chosen.spkrSelection ≠ .manual := by
            simp [spkrSelection, spkGiven]
          obtain ⟨autoMic, autoSpeaker⟩ := recalls.compute_speakerAutomatic spkrAutomatic
            chosen.mic chosen.spk
          have alike := pairsAlike_iff platform manager.audioCaptureDevices
            manager.audioPlayoutDevices selectedDevices.microphoneId
          rw [micSelection.mpr micGiven, autoMic, autoSpeaker, spk spkGiven, micGiven]
          simpa using alike
      | true =>
          obtain ⟨autoMic, autoSpeaker⟩ := recalls.compute_manual chosen.mic chosen.spk
          rw [micSelection.mpr micGiven, spkrSelection.mpr spkGiven, autoMic, autoSpeaker,
            micId micGiven, spkId spkGiven]
          simp [micFor_heeds_iff, speakerFor_heeds_iff]

/-- Each name the label writes is that of the device that would be selected exactly if
no failed lookup has a consequence, and a microphone picked by hand beside an Automatic
speaker leads to the same pairing as the Automatic one would. -/
theorem automaticLabel_true_iff
    (written : manager.writesLabel platform selectedDevices = true) :
    manager.LabelTrue platform selectedDevices ↔
      MicLabelMatches platform manager.audioCaptureDevices manager.audioPlayoutDevices
          selectedDevices ∧
        SpeakerLabelMatches platform manager.audioCaptureDevices manager.audioPlayoutDevices
          selectedDevices := by
  obtain ⟨resolved, recalls, capture, playout⟩ :=
    handleInitMedia_labelled platform selectedDevices manager written
  obtain ⟨mic, speaker⟩ := compute_names platform selectedDevices manager recalls
  constructor
  · intro holds
    obtain ⟨micName, speakerName⟩ := holds
    rw [capture, head_relabelFirst, mic] at micName
    rw [playout, head_relabelFirst, speaker] at speakerName
    refine ⟨?_, ?_⟩
    · by_cases empty : manager.audioCaptureDevices = []
      · rw [empty]
        exact micLabelMatches_nil platform manager.audioPlayoutDevices selectedDevices
      · exact micName empty
    · by_cases empty : manager.audioPlayoutDevices = []
      · rw [empty]
        exact speakerLabelMatches_nil platform manager.audioCaptureDevices selectedDevices
      · exact speakerName empty
  · intro matching
    refine ⟨?_, ?_⟩
    · rw [capture, head_relabelFirst, mic]
      exact fun _ => matching.1
    · rw [playout, head_relabelFirst, speaker]
      exact fun _ => matching.2

end Label

theorem automaticLabel_true_headset :
    headsetManager.LabelTrue AudioPlatform.headsetPlatform
      ⟨"", automaticDeviceGuid, "", automaticDeviceGuid, .auto, .auto⟩ :=
  (automaticLabel_true_iff AudioPlatform.headsetPlatform
    ⟨"", automaticDeviceGuid, "", automaticDeviceGuid, .auto, .auto⟩ headsetManager
    (by decide +kernel)).mpr
    ⟨fun selects => absurd selects (by decide), fun selects => absurd selects (by decide)⟩

/-- A Bluetooth headset beside the built-in devices that are the defaults. -/
def bluetoothPlatform : AudioPlatform :=
  { AudioPlatform.headsetPlatform with
    hardwareIdsWin := fun _ deviceId prior =>
      if deviceId = "headset" then (true, ⟨"046D", "0A38", "BTH"⟩)
      else if deviceId = "array" then (true, ⟨"8086", "9D70", "PCI"⟩)
      else if deviceId = "speakers" then (true, ⟨"8086", "9D71", "PCI"⟩)
      else (false, prior) }

def bluetoothManager : AudioManager :=
  { headsetManager with
    changes := .getPlatformDevices ⟨[automaticDevice, ⟨"Microphone Array", "array", true⟩,
      ⟨"Headset", "headset", false⟩], [automaticDevice, ⟨"Speakers", "speakers", true⟩,
      ⟨"Headset", "headset", false⟩], []⟩ }

/-- With the headset's microphone picked by hand, its speaker is the one in use, and the
label names the headset where Automatic would select the built-in microphone. -/
theorem automaticLabel_true_bluetooth :
    ¬ ∀ (platform : AudioPlatform) (selectedDevices : LocalMediaInfo) (manager : AudioManager),
      manager.writesLabel platform selectedDevices = true →
        manager.LabelTrue platform selectedDevices := by
  intro labels
  have label := (labels bluetoothPlatform
    ⟨"Headset", "headset", "", automaticDeviceGuid, .manual, .auto⟩ bluetoothManager
    (by decide +kernel)).mic ⟨"Headset", automaticDeviceGuid, true⟩ (by decide +kernel)
  revert label
  decide +kernel

end AudioManager

end FiberApp.Devices
