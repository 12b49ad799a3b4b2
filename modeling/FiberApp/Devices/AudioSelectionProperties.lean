import FiberApp.Devices.AudioSelection

/-! What handling a selection does to the level check of the automatic microphone. -/

set_option autoImplicit false

namespace FiberApp.Devices

namespace AudioManager

def defaultMicBuiltIn (platform : AudioPlatform) (manager : AudioManager) : Bool :=
  platform.isDeviceBuiltIn manager.audioCaptureDevices platform.defaultCapCommDevice.id

structure SameSelection (before after : AudioManager) : Prop where
  changes : after.changes = before.changes
  selectedDeviceOptions : after.selectedDeviceOptions = before.selectedDeviceOptions
  initMedia : after.initMedia = before.initMedia

theorem SameSelection.trans {first second third : AudioManager}
    (left : first.SameSelection second) (right : second.SameSelection third) :
    first.SameSelection third :=
  ⟨right.1.trans left.1, right.2.trans left.2, right.3.trans left.3⟩

theorem SameSelection.defaultMicBuiltIn {before after : AudioManager}
    (same : before.SameSelection after) (platform : AudioPlatform) :
    after.defaultMicBuiltIn platform = before.defaultMicBuiltIn platform := by
  simp only [AudioManager.defaultMicBuiltIn, audioCaptureDevices, same.changes]

theorem SameSelection.capture {before after : AudioManager}
    (same : before.SameSelection after) :
    after.audioCaptureDevices = before.audioCaptureDevices := by
  rw [audioCaptureDevices, same.changes, audioCaptureDevices]

theorem SameSelection.playout {before after : AudioManager}
    (same : before.SameSelection after) :
    after.audioPlayoutDevices = before.audioPlayoutDevices := by
  rw [audioPlayoutDevices, same.changes, audioPlayoutDevices]

def startedCheck (platform : AudioPlatform) (postMicCheck : Bool) (manager : AudioManager) :
    MicLevelCheck :=
  (manager.startLevelCheck platform postMicCheck (manager.defaultMicBuiltIn platform)).check

theorem startLevelCheck_spec (platform : AudioPlatform) (postMicCheck automaticMic : Bool)
    (manager : AudioManager) :
    manager.SameSelection (manager.startLevelCheck platform postMicCheck automaticMic) := by
  cases automaticMic <;> exact ⟨rfl, rfl, rfl⟩

theorem getBiasedMic_spec (platform : AudioPlatform) (postMicCheck automaticMic : Bool)
    (mic : Endpoint) (manager : AudioManager) :
    manager.SameSelection (manager.getBiasedMic platform postMicCheck automaticMic mic).1 ∧
      (manager.getBiasedMic platform postMicCheck automaticMic mic).1.check =
        if postMicCheck && (automaticMic &&
            !platform.isDeviceBuiltIn manager.audioCaptureDevices
              (platform.getPreferredDeviceId true manager.audioCaptureDevices
                manager.audioPlayoutDevices mic).id) then manager.check.clear
        else manager.check := by
  simp only [getBiasedMic]
  generalize (automaticMic && !platform.isDeviceBuiltIn manager.audioCaptureDevices
    (platform.getPreferredDeviceId true manager.audioCaptureDevices
      manager.audioPlayoutDevices mic).id) = replaced
  cases replaced <;> cases postMicCheck <;> exact ⟨⟨rfl, rfl, rfl⟩, rfl⟩

def hasUsbMic (platform : AudioPlatform) (manager : AudioManager) (mic : Endpoint) : Bool :=
  match platform.isUsbMicWithSpeaker manager.audioPlayoutDevices mic.id .empty with
  | (true, _) => true
  | (false, ids) =>
      (platform.usbMicWithSpeakerFrom manager.audioPlayoutDevices ids
        manager.audioCaptureDevices).isSome

theorem getUsbMic_spec (platform : AudioPlatform) (postMicCheck automaticMic : Bool)
    (mic : Endpoint) (manager : AudioManager) :
    manager.SameSelection (manager.getUsbMic platform postMicCheck automaticMic mic).1 ∧
      (manager.getUsbMic platform postMicCheck automaticMic mic).1.check =
        if postMicCheck && manager.hasUsbMic platform mic then manager.check.clear
        else manager.check := by
  cases atDefault : platform.isUsbMicWithSpeaker manager.audioPlayoutDevices mic.id .empty with
  | mk paired ids =>
      cases paired with
      | true =>
          simp only [getUsbMic, hasUsbMic, atDefault]
          cases postMicCheck <;> exact ⟨⟨rfl, rfl, rfl⟩, rfl⟩
      | false =>
          cases saved : platform.usbMicWithSpeakerFrom manager.audioPlayoutDevices ids
              manager.audioCaptureDevices with
          | some device =>
              simp only [getUsbMic, hasUsbMic, atDefault, saved]
              cases postMicCheck <;> exact ⟨⟨rfl, rfl, rfl⟩, rfl⟩
          | none =>
              simp only [getUsbMic, hasUsbMic, atDefault, saved]
              cases postMicCheck <;> exact ⟨⟨rfl, rfl, rfl⟩, rfl⟩

def prefersOther (platform : AudioPlatform) (manager : AudioManager) : Bool :=
  if platform.features.biasedAudioDeviceAutoSelection then
    manager.defaultMicBuiltIn platform &&
      !platform.isDeviceBuiltIn manager.audioCaptureDevices
        (platform.getPreferredDeviceId true manager.audioCaptureDevices
          manager.audioPlayoutDevices platform.defaultCapCommDevice.endpoint).id
  else manager.hasUsbMic platform platform.defaultCapCommDevice.endpoint

theorem getAutomaticMic_spec (platform : AudioPlatform) (postMicCheck : Bool)
    (manager : AudioManager) :
    manager.SameSelection (manager.getAutomaticMic platform postMicCheck).1 ∧
      (manager.getAutomaticMic platform postMicCheck).1.check =
        if postMicCheck && manager.prefersOther platform then
          (manager.startedCheck platform postMicCheck).clear
        else manager.startedCheck platform postMicCheck := by
  have started := startLevelCheck_spec platform postMicCheck
    (manager.defaultMicBuiltIn platform) manager
  cases biased : platform.features.biasedAudioDeviceAutoSelection with
  | true =>
      obtain ⟨same, check⟩ := getBiasedMic_spec platform postMicCheck
        (manager.defaultMicBuiltIn platform) platform.defaultCapCommDevice.endpoint
        (manager.startLevelCheck platform postMicCheck (manager.defaultMicBuiltIn platform))
      rw [started.capture, started.playout] at check
      simp only [getAutomaticMic, prefersOther, biased, ↓reduceIte]
      exact ⟨started.trans same, check⟩
  | false =>
      obtain ⟨same, check⟩ := getUsbMic_spec platform postMicCheck
        (manager.defaultMicBuiltIn platform) platform.defaultCapCommDevice.endpoint
        (manager.startLevelCheck platform postMicCheck (manager.defaultMicBuiltIn platform))
      rw [hasUsbMic, started.capture, started.playout] at check
      simp only [getAutomaticMic, prefersOther, biased, Bool.false_eq_true, ↓reduceIte]
      exact ⟨started.trans same, check⟩

/-- The automatic microphone over these lists. -/
def automaticMic (platform : AudioPlatform) (captureDevices playoutDevices : List Device) :
    Endpoint :=
  let mic := platform.defaultCapCommDevice.endpoint
  if platform.features.biasedAudioDeviceAutoSelection then
    platform.getPreferredDeviceId true captureDevices playoutDevices mic
  else
    match platform.isUsbMicWithSpeaker playoutDevices mic.id .empty with
    | (true, _) => mic
    | (false, ids) =>
        ((platform.usbMicWithSpeakerFrom playoutDevices ids captureDevices).map
          Device.endpoint).getD mic

theorem getUsbMic_snd (platform : AudioPlatform) (postMicCheck automaticMic : Bool)
    (mic : Endpoint) (manager : AudioManager) :
    (manager.getUsbMic platform postMicCheck automaticMic mic).2 =
      match platform.isUsbMicWithSpeaker manager.audioPlayoutDevices mic.id .empty with
      | (true, _) => mic
      | (false, ids) =>
          ((platform.usbMicWithSpeakerFrom manager.audioPlayoutDevices ids
            manager.audioCaptureDevices).map Device.endpoint).getD mic := by
  unfold getUsbMic
  cases platform.isUsbMicWithSpeaker manager.audioPlayoutDevices mic.id .empty with
  | mk paired ids =>
      cases paired with
      | true => rfl
      | false =>
          simp only
          cases platform.usbMicWithSpeakerFrom manager.audioPlayoutDevices ids
              manager.audioCaptureDevices with
          | some device => rfl
          | none => rfl

/-- Neither the check nor the cache has a say in which microphone is automatic. -/
theorem getAutomaticMic_snd (platform : AudioPlatform) (postMicCheck : Bool)
    (manager : AudioManager) :
    (manager.getAutomaticMic platform postMicCheck).2 =
      automaticMic platform manager.audioCaptureDevices manager.audioPlayoutDevices := by
  have started (automaticMic : Bool) :=
    startLevelCheck_spec platform postMicCheck automaticMic manager
  simp only [getAutomaticMic, automaticMic]
  split
  · simp only [getBiasedMic]
    rw [(started _).capture, (started _).playout]
  · rw [getUsbMic_snd, (started _).capture, (started _).playout]

theorem getAutomaticSpk_spec (platform : AudioPlatform) (manager : AudioManager) :
    manager.SameSelection (manager.getAutomaticSpk platform).1 ∧
      (manager.getAutomaticSpk platform).1.check = manager.check :=
  ⟨⟨rfl, rfl, rfl⟩, rfl⟩

/-- The check once the automatic microphone is asked for without being checked. -/
def recount (platform : AudioPlatform) (asked : Bool) (manager : AudioManager) : MicLevelCheck :=
  if asked && !manager.autoSpkMic.isMicValid && manager.defaultMicBuiltIn platform then
    manager.check.restart platform.inputSignalMeter
  else manager.check

theorem recount_false (platform : AudioPlatform) (manager : AudioManager) :
    manager.recount platform false = manager.check := rfl

theorem cachedAutomaticMic_spec (platform : AudioPlatform) (manager : AudioManager) :
    manager.SameSelection (manager.cachedAutomaticMic platform).1 ∧
      (manager.cachedAutomaticMic platform).1.check = manager.recount platform true := by
  cases valid : manager.autoSpkMic.isMicValid with
  | true =>
      simp only [cachedAutomaticMic, recount, valid]
      exact ⟨⟨rfl, rfl, rfl⟩, rfl⟩
  | false =>
      obtain ⟨same, check⟩ := getAutomaticMic_spec platform false manager
      simp only [cachedAutomaticMic, recount, valid]
      refine ⟨same, check.trans ?_⟩
      rw [startedCheck]
      cases manager.defaultMicBuiltIn platform <;> rfl

namespace LabelState

theorem matchMicToAutoSpeaker_spec (platform : AudioPlatform) (spk : Endpoint)
    (label : LabelState) (asked : label.micInitType = .micMatchingAutoSpeaker) :
    label.manager.SameSelection (label.matchMicToAutoSpeaker platform spk).manager ∧
      (label.matchMicToAutoSpeaker platform spk).manager.check =
        label.manager.recount platform true ∧
      (label.matchMicToAutoSpeaker platform spk).micInitType = label.micInitType ∧
      (label.matchMicToAutoSpeaker platform spk).speakerInitType = label.speakerInitType := by
  obtain ⟨same, check⟩ := cachedAutomaticMic_spec platform label.manager
  simp only [matchMicToAutoSpeaker, asked, ↓reduceIte]
  split
  · exact ⟨same.trans (getAutomaticSpk_spec platform _).1, check, rfl, rfl⟩
  · exact ⟨same, check, rfl, rfl⟩

theorem matchSpeakerToAutoMic_spec (platform : AudioPlatform) (label : LabelState)
    (asked : label.speakerInitType = .speakerMatchingAutoMic) :
    label.manager.SameSelection (label.matchSpeakerToAutoMic platform).manager ∧
      (label.matchSpeakerToAutoMic platform).manager.check =
        label.manager.recount platform true ∧
      (label.matchSpeakerToAutoMic platform).micInitType = label.micInitType ∧
      (label.matchSpeakerToAutoMic platform).speakerInitType ≠ .matching := by
  obtain ⟨same, check⟩ := cachedAutomaticMic_spec platform label.manager
  simp only [matchSpeakerToAutoMic, asked, ↓reduceIte]
  split
  · exact ⟨same, check, rfl, by simp⟩
  · exact ⟨same, check, rfl, by simp⟩

theorem chooseSpeaker_spec (platform : AudioPlatform) (label : LabelState) :
    label.manager.SameSelection (label.chooseSpeaker platform).manager ∧
      (label.chooseSpeaker platform).manager.check = label.manager.check := by
  simp only [chooseSpeaker, cachedAutomaticSpk]
  split
  · split
    · exact ⟨⟨rfl, rfl, rfl⟩, rfl⟩
    · exact ⟨⟨rfl, rfl, rfl⟩, rfl⟩
  · exact ⟨⟨rfl, rfl, rfl⟩, rfl⟩

theorem matchSpeaker_manager (platform : AudioPlatform) (mic : Endpoint) (label : LabelState) :
    (label.matchSpeaker platform mic).manager = label.manager ∧
      (label.matchSpeaker platform mic).micInitType = label.micInitType := by
  simp only [matchSpeaker]
  split
  · split
    · exact ⟨rfl, rfl⟩
    · exact ⟨rfl, rfl⟩
  · exact ⟨rfl, rfl⟩

end LabelState

def labelAsksMic (platform : AudioPlatform) (micSelection spkrSelection : AudioDeviceSelection)
    (spk : Endpoint) (manager : AudioManager) : Bool :=
  match micSelection != .manual, spkrSelection != .manual with
  | true, true => false
  | true, false => true
  | false, true => true
  | false, false => (manager.deviceMatching platform .speaker spk.id).isNone

section Compute

variable (platform : AudioPlatform) (mic spk : Endpoint)

theorem LabelState.matchMic_of_ne {label : LabelState} (other : label.micInitType ≠ .matching) :
    label.matchMic platform spk = label := if_neg other

theorem LabelState.matchMicToAutoSpeaker_of_ne {label : LabelState}
    (other : label.micInitType ≠ .micMatchingAutoSpeaker) :
    label.matchMicToAutoSpeaker platform spk = label := if_neg other

theorem LabelState.matchSpeakerToAutoMic_of_ne {label : LabelState}
    (other : label.speakerInitType ≠ .speakerMatchingAutoMic) :
    label.matchSpeakerToAutoMic platform = label := if_neg other

theorem LabelState.chooseMic_of_ne {label : LabelState} (other : label.micInitType ≠ .auto) :
    label.chooseMic platform = label := if_neg other

theorem LabelState.choose_spec (label : LabelState) (other : label.micInitType ≠ .auto) :
    label.manager.SameSelection
        (((label.matchSpeaker platform mic).chooseMic platform).chooseSpeaker platform).manager ∧
      (((label.matchSpeaker platform mic).chooseMic platform).chooseSpeaker
        platform).manager.check = label.manager.check := by
  obtain ⟨manager, type⟩ := label.matchSpeaker_manager platform mic
  rw [chooseMic_of_ne platform (type.symm ▸ other), ← manager]
  exact chooseSpeaker_spec platform _

theorem LabelState.choose_auto_spec (label : LabelState) (auto : label.micInitType = .auto) :
    label.manager.SameSelection
        (((label.matchSpeaker platform mic).chooseMic platform).chooseSpeaker platform).manager ∧
      (((label.matchSpeaker platform mic).chooseMic platform).chooseSpeaker
        platform).manager.check = label.manager.recount platform true := by
  obtain ⟨manager, type⟩ := label.matchSpeaker_manager platform mic
  obtain ⟨same, check⟩ := cachedAutomaticMic_spec platform label.manager
  obtain ⟨kept, unchanged⟩ :=
    chooseSpeaker_spec platform ((label.matchSpeaker platform mic).chooseMic platform)
  have chosen : ((label.matchSpeaker platform mic).chooseMic platform).manager =
      (label.manager.cachedAutomaticMic platform).1 := by
    rw [chooseMic, if_pos (type.trans auto), manager]
  rw [chosen] at kept unchanged
  exact ⟨same.trans kept, unchanged.trans check⟩

end Compute

theorem compute_spec (platform : AudioPlatform)
    (micSelection spkrSelection : AudioDeviceSelection) (mic spk : Endpoint)
    (manager : AudioManager) :
    manager.SameSelection
        (LabelState.compute platform micSelection spkrSelection mic spk manager).manager ∧
      (LabelState.compute platform micSelection spkrSelection mic spk manager).manager.check =
        manager.recount platform
          (manager.labelAsksMic platform micSelection spkrSelection spk) := by
  cases micAuto : micSelection != .manual with
  | true =>
      cases spkrAuto : spkrSelection != .manual with
      | true =>
          simp only [LabelState.compute, LabelState.start, labelAsksMic, micAuto, spkrAuto]
          exact ⟨⟨rfl, rfl, rfl⟩, rfl⟩
      | false =>
          simp only [LabelState.compute, LabelState.start, labelAsksMic, micAuto, spkrAuto]
          rw [LabelState.matchMic_of_ne platform spk (by simp),
            LabelState.matchMicToAutoSpeaker_of_ne platform spk (by simp)]
          obtain ⟨same, check, type, -⟩ := LabelState.matchSpeakerToAutoMic_spec platform
            ⟨manager, .default, .speakerMatchingAutoMic, mic, ⟨"", ""⟩⟩ rfl
          obtain ⟨kept, unchanged⟩ := LabelState.choose_spec platform mic _ (by rw [type]; simp)
          exact ⟨same.trans kept, unchanged.trans check⟩
  | false =>
      cases spkrAuto : spkrSelection != .manual with
      | true =>
          simp only [LabelState.compute, LabelState.start, labelAsksMic, micAuto, spkrAuto]
          rw [LabelState.matchMic_of_ne platform spk (by simp)]
          obtain ⟨same, check, type, other⟩ := LabelState.matchMicToAutoSpeaker_spec platform spk
            ⟨manager, .micMatchingAutoSpeaker, .default, ⟨"", ""⟩, spk⟩ rfl
          rw [LabelState.matchSpeakerToAutoMic_of_ne platform (by rw [other]; simp)]
          obtain ⟨kept, unchanged⟩ := LabelState.choose_spec platform mic _ (by rw [type]; simp)
          exact ⟨same.trans kept, unchanged.trans check⟩
      | false =>
          simp only [LabelState.compute, LabelState.start, labelAsksMic, micAuto, spkrAuto]
          cases matching : manager.deviceMatching platform .speaker spk.id with
          | some autoMic =>
              simp only [LabelState.matchMic, ↓reduceIte, matching]
              rw [LabelState.matchMicToAutoSpeaker_of_ne platform spk (by simp),
                LabelState.matchSpeakerToAutoMic_of_ne platform (by simp)]
              exact LabelState.choose_spec platform mic
                ⟨manager, .matching, .matching, autoMic, ⟨"", ""⟩⟩ (by simp)
          | none =>
              simp only [LabelState.matchMic, ↓reduceIte, matching]
              rw [LabelState.matchMicToAutoSpeaker_of_ne platform spk (by simp),
                LabelState.matchSpeakerToAutoMic_of_ne platform (by simp)]
              exact LabelState.choose_auto_spec platform mic
                ⟨manager, .auto, .matching, ⟨"", ""⟩, ⟨"", ""⟩⟩ rfl

/-- The label changes nothing of the selection, and the check only by asking. -/
theorem updateAutomaticDeviceLabel_spec (platform : AudioPlatform)
    (micSelection spkrSelection : AudioDeviceSelection) (mic spk : Endpoint)
    (manager : AudioManager) :
    (manager.updateAutomaticDeviceLabel platform micSelection spkrSelection mic spk).initMedia =
        manager.initMedia ∧
      (manager.updateAutomaticDeviceLabel platform micSelection spkrSelection mic spk).check =
        manager.recount platform
          (!(manager.selectedDeviceOptions.microphoneId.isEmpty &&
              manager.selectedDeviceOptions.speakerId.isEmpty) &&
            manager.labelAsksMic platform micSelection spkrSelection spk) := by
  obtain ⟨same, check⟩ := compute_spec platform micSelection spkrSelection mic spk manager
  cases empty : manager.selectedDeviceOptions.microphoneId.isEmpty &&
      manager.selectedDeviceOptions.speakerId.isEmpty with
  | true =>
      simp only [updateAutomaticDeviceLabel, empty, ↓reduceIte, Bool.not_true, Bool.false_and,
        recount_false, and_self]
  | false =>
      simp only [updateAutomaticDeviceLabel, empty, Bool.false_eq_true, ↓reduceIte,
        Bool.not_false, Bool.true_and]
      exact ⟨same.initMedia, check⟩

def forgetChoices (manager : AudioManager) : AudioManager :=
  { manager with autoSpkMic := .clear }

def resolve (platform : AudioPlatform) (selectedDevices : LocalMediaInfo)
    (manager : AudioManager) : AudioManager × ChosenDevices :=
  manager.forgetChoices.chooseDevices platform selectedDevices

def asksForLabel (platform : AudioPlatform) (chosen : ChosenDevices) (manager : AudioManager) :
    Bool :=
  let options := platform.changeDevices manager.selectedDeviceOptions chosen.selection
  platform.features.labelAutomaticDevice &&
    (!(options.microphoneId.isEmpty && options.speakerId.isEmpty) &&
      manager.labelAsksMic platform chosen.micSelection chosen.spkrSelection chosen.spk)

theorem setLocalDevicesOptions_spec (selectedDevices : LocalMediaInfo) (manager : AudioManager) :
    ∃ micLvl, manager.setLocalDevicesOptions selectedDevices =
      { manager with check := { manager.check with micLvl := micLvl } } := by
  simp only [setLocalDevicesOptions]
  split
  · exact ⟨defaultSoundLevel, rfl⟩
  · exact ⟨manager.check.micLvl, rfl⟩

theorem handleInitMedia_spec (platform : AudioPlatform) (selectedDevices : LocalMediaInfo)
    (manager : AudioManager) :
    (manager.handleInitMedia platform selectedDevices).initMedia =
        (manager.resolve platform selectedDevices).1.initMedia ∧
      (manager.handleInitMedia platform selectedDevices).check.pending =
        (manager.resolve platform selectedDevices).1.check.pending ∧
      (manager.handleInitMedia platform selectedDevices).check.levelDetermined =
        ((manager.resolve platform selectedDevices).1.recount platform
          ((manager.resolve platform selectedDevices).1.asksForLabel platform
            (manager.resolve platform selectedDevices).2)).levelDetermined := by
  generalize resolution : manager.resolve platform selectedDevices = result
  obtain ⟨resolved, chosen⟩ := result
  obtain ⟨micLvl, level⟩ := setLocalDevicesOptions_spec chosen.selection resolved
  have resolution : chooseDevices platform selectedDevices
      { manager with autoSpkMic := .clear } = (resolved, chosen) := resolution
  cases labelled : platform.features.labelAutomaticDevice with
  | false =>
      simp only [handleInitMedia, resolution, labelled, level, asksForLabel, Bool.false_and,
        Bool.false_eq_true, ↓reduceIte, recount_false, and_self]
  | true =>
      simp only [handleInitMedia, resolution, labelled, level, asksForLabel, Bool.true_and,
        ↓reduceIte]
      obtain ⟨initMedia, check⟩ := updateAutomaticDeviceLabel_spec platform chosen.micSelection
        chosen.spkrSelection chosen.mic chosen.spk { resolved with
          check := { resolved.check with micLvl := micLvl }
          selectedDeviceOptions :=
            platform.changeDevices resolved.selectedDeviceOptions chosen.selection }
      refine ⟨initMedia, ?_, ?_⟩
      · rw [check, recount]
        split <;> rfl
      · rw [check, recount, recount, apply_ite MicLevelCheck.levelDetermined,
          apply_ite MicLevelCheck.levelDetermined]
        rfl

/-- Whether handling the selection sets the count to 20 again without a check
of its own: the label asks for the automatic microphone, and that is built in. -/
def restartsCount (platform : AudioPlatform) (selectedDevices : LocalMediaInfo)
    (manager : AudioManager) : Bool :=
  (manager.resolve platform selectedDevices).1.asksForLabel platform
      (manager.resolve platform selectedDevices).2 && manager.defaultMicBuiltIn platform

/-- Whether a selection with the Automatic microphone leaves a new check: no
microphone is paired, the default one is built in, and no other is preferred. -/
def startsCheck (platform : AudioPlatform) (selectedDevices : LocalMediaInfo)
    (manager : AudioManager) : Bool :=
  (manager.resolve platform selectedDevices).2.micSelection == .auto &&
    manager.defaultMicBuiltIn platform && !manager.prefersOther platform

theorem resolve_manual (platform : AudioPlatform) {selectedDevices : LocalMediaInfo}
    (other : selectedDevices.microphoneId ≠ automaticDeviceGuid) (manager : AudioManager) :
    manager.SameSelection (manager.resolve platform selectedDevices).1 ∧
      (manager.resolve platform selectedDevices).1.check = manager.check ∧
      (manager.resolve platform selectedDevices).1.autoSpkMic.isMicValid = false := by
  simp only [resolve, chooseDevices, other, ↓reduceIte]
  split
  · simp only [chooseSpeakerFor]
    split
    · exact ⟨⟨rfl, rfl, rfl⟩, rfl, rfl⟩
    · exact ⟨⟨rfl, rfl, rfl⟩, rfl, rfl⟩
  · exact ⟨⟨rfl, rfl, rfl⟩, rfl, rfl⟩

theorem handleInitMedia_manual (platform : AudioPlatform) {selectedDevices : LocalMediaInfo}
    (other : selectedDevices.microphoneId ≠ automaticDeviceGuid) (manager : AudioManager) :
    (manager.handleInitMedia platform selectedDevices).initMedia = manager.initMedia ∧
      (manager.handleInitMedia platform selectedDevices).check.pending =
        manager.check.pending ∧
      (manager.handleInitMedia platform selectedDevices).check.levelDetermined =
        if manager.restartsCount platform selectedDevices then 0
        else manager.check.levelDetermined := by
  obtain ⟨same, check, invalid⟩ := resolve_manual platform other manager
  obtain ⟨initMedia, pending, level⟩ :=
    handleInitMedia_spec platform selectedDevices manager
  refine ⟨initMedia.trans same.initMedia, by rw [pending, check], level.trans ?_⟩
  rw [recount, invalid, same.defaultMicBuiltIn, check, Bool.not_false, Bool.and_true]
  rw [apply_ite MicLevelCheck.levelDetermined]
  rfl

theorem getAutomaticMic_pending (platform : AudioPlatform) (manager : AudioManager) :
    (manager.defaultMicBuiltIn platform = true → manager.prefersOther platform = false →
      (manager.getAutomaticMic platform true).1.check.pending = manager.check.pending + 1 ∧
        (manager.getAutomaticMic platform true).1.check.levelDetermined = 0) ∧
    (manager.defaultMicBuiltIn platform = false ∨ manager.prefersOther platform = true →
      (manager.getAutomaticMic platform true).1.check.pending = 0 ∨
        (manager.getAutomaticMic platform true).1.check.pending = manager.check.pending) := by
  obtain ⟨-, check⟩ := getAutomaticMic_spec platform true manager
  rw [check, startedCheck]
  cases manager.defaultMicBuiltIn platform with
  | true =>
      cases manager.prefersOther platform with
      | true => exact ⟨fun _ kept => Bool.noConfusion kept, fun _ => .inl rfl⟩
      | false => exact ⟨fun _ _ => ⟨rfl, rfl⟩, fun neither => by simp at neither⟩
  | false =>
      cases manager.prefersOther platform with
      | true => exact ⟨fun builtIn => Bool.noConfusion builtIn, fun _ => .inl rfl⟩
      | false => exact ⟨fun builtIn => Bool.noConfusion builtIn, fun _ => .inr rfl⟩

theorem chooseAutomatic_spec (platform : AudioPlatform) (manager : AudioManager) :
    (manager.chooseAutomatic platform).1.initMedia = manager.initMedia ∧
      ((manager.chooseAutomatic platform).2.micSelection = .auto ∧
          (manager.chooseAutomatic platform).1.check =
            (manager.getAutomaticMic platform true).1.check ∨
        (manager.chooseAutomatic platform).2.micSelection = .paired ∧
          (manager.chooseAutomatic platform).1.check.pending = 0) := by
  obtain ⟨same, -⟩ := getAutomaticMic_spec platform true manager
  simp only [chooseAutomatic]
  split
  · exact ⟨same.initMedia, .inl ⟨rfl, rfl⟩⟩
  · split
    · exact ⟨same.initMedia, .inr ⟨rfl, rfl⟩⟩
    · exact ⟨same.initMedia, .inl ⟨rfl, rfl⟩⟩

theorem chooseMicFor_spec (platform : AudioPlatform) (spk : Endpoint) (manager : AudioManager) :
    (manager.chooseMicFor platform spk).1.initMedia = manager.initMedia ∧
      ((manager.chooseMicFor platform spk).2.micSelection = .auto ∧
          (manager.chooseMicFor platform spk).1.check =
            (manager.getAutomaticMic platform true).1.check ∨
        (manager.chooseMicFor platform spk).2.micSelection = .paired ∧
          (manager.chooseMicFor platform spk).1.check.pending = manager.check.pending) := by
  obtain ⟨same, -⟩ := getAutomaticMic_spec platform true manager
  simp only [chooseMicFor]
  split
  · exact ⟨rfl, .inr ⟨rfl, rfl⟩⟩
  · exact ⟨same.initMedia, .inl ⟨rfl, rfl⟩⟩

theorem resolve_automatic (platform : AudioPlatform) {selectedDevices : LocalMediaInfo}
    (automatic : selectedDevices.microphoneId = automaticDeviceGuid) (manager : AudioManager) :
    (manager.resolve platform selectedDevices).1.initMedia = manager.initMedia ∧
      ((manager.resolve platform selectedDevices).2.micSelection = .auto ∧
          (manager.resolve platform selectedDevices).1.check =
            (manager.forgetChoices.getAutomaticMic platform true).1.check ∨
        (manager.resolve platform selectedDevices).2.micSelection = .paired ∧
          ((manager.resolve platform selectedDevices).1.check.pending = 0 ∨
            (manager.resolve platform selectedDevices).1.check.pending =
              manager.check.pending)) := by
  by_cases both : selectedDevices.speakerId = automaticDeviceGuid
  · have resolution : manager.resolve platform selectedDevices =
        manager.forgetChoices.chooseAutomatic platform := by
      simp only [resolve, chooseDevices, automatic, both, ↓reduceIte]
    rw [resolution]
    obtain ⟨initMedia, auto | ⟨paired, none⟩⟩ :=
      chooseAutomatic_spec platform manager.forgetChoices
    · exact ⟨initMedia, .inl auto⟩
    · exact ⟨initMedia, .inr ⟨paired, .inl none⟩⟩
  · have resolution : manager.resolve platform selectedDevices =
        manager.forgetChoices.chooseMicFor platform
          ⟨selectedDevices.speakerId, selectedDevices.speaker⟩ := by
      simp only [resolve, chooseDevices, automatic, both, ↓reduceIte]
    rw [resolution]
    obtain ⟨initMedia, auto | ⟨paired, kept⟩⟩ :=
      chooseMicFor_spec platform ⟨selectedDevices.speakerId, selectedDevices.speaker⟩
        manager.forgetChoices
    · exact ⟨initMedia, .inl auto⟩
    · exact ⟨initMedia, .inr ⟨paired, .inr kept⟩⟩

theorem recount_levelDetermined_eq_zero (platform : AudioPlatform) (asked : Bool)
    {manager : AudioManager} (none : manager.check.levelDetermined = 0) :
    (manager.recount platform asked).levelDetermined = 0 := by
  rw [recount]
  split
  · rfl
  · exact none

theorem handleInitMedia_automatic (platform : AudioPlatform) {selectedDevices : LocalMediaInfo}
    (automatic : selectedDevices.microphoneId = automaticDeviceGuid) (manager : AudioManager) :
    (manager.handleInitMedia platform selectedDevices).initMedia = manager.initMedia ∧
      (manager.startsCheck platform selectedDevices = true →
        (manager.handleInitMedia platform selectedDevices).check.pending =
            manager.check.pending + 1 ∧
          (manager.handleInitMedia platform selectedDevices).check.levelDetermined = 0) ∧
      (manager.startsCheck platform selectedDevices = false →
        (manager.handleInitMedia platform selectedDevices).check.pending = 0 ∨
          (manager.handleInitMedia platform selectedDevices).check.pending =
            manager.check.pending) := by
  obtain ⟨initMedia, pending, level⟩ := handleInitMedia_spec platform selectedDevices manager
  obtain ⟨same, choice⟩ := resolve_automatic platform automatic manager
  obtain ⟨starts, keeps⟩ := getAutomaticMic_pending platform manager.forgetChoices
  rw [pending, startsCheck]
  refine ⟨initMedia.trans same, fun started => ?_, fun idle => ?_⟩
  · simp only [Bool.and_eq_true, beq_iff_eq, Bool.not_eq_true'] at started
    obtain ⟨⟨auto, builtIn⟩, kept⟩ := started
    rcases choice with ⟨-, check⟩ | ⟨paired, -⟩
    · obtain ⟨posted, none⟩ := starts builtIn kept
      exact ⟨by rw [check, posted]; rfl,
        level.trans (recount_levelDetermined_eq_zero platform _ (by rw [check, none]))⟩
    · rw [paired] at auto
      cases auto
  · rcases choice with ⟨auto, check⟩ | ⟨-, kept⟩
    · rw [check]
      apply keeps
      simp only [auto, beq_self_eq_true, Bool.true_and, Bool.and_eq_false_iff,
        Bool.not_eq_false'] at idle
      exact idle
    · exact kept

end AudioManager

end FiberApp.Devices
