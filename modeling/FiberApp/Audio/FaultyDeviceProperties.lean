import FiberApp.Audio.FaultyDevice
import FiberApp.Audio.LevelMonitorProperties

/-! What a faulty notification says about the levels since the last device operation. A check
hears only the level that was sampled last before it. -/

set_option autoImplicit false

namespace FiberApp.Audio

open Foundation

namespace LevelMonitor

theorem getSettings_lvl (deviceChangeInProgress : Bool) (replies : SettingReplies)
    (monitor : LevelMonitor) :
    (monitor.getSettings deviceChangeInProgress replies).lvl =
      if monitor.decayTimer ≠ 0 ∧ deviceChangeInProgress = false then
        replies.lvl.getD monitor.lvl
      else monitor.lvl := by
  rw [getSettings]
  by_cases stopped : monitor.decayTimer = 0
  · simp [stopped]
  · cases deviceChangeInProgress <;> simp [stopped, post, saveSettings]

theorem restart_lvl (clientThread deviceChangeInProgress : Bool) (replies : SettingReplies)
    (monitor : LevelMonitor) :
    (monitor.restart clientThread deviceChangeInProgress replies).lvl =
      if clientThread && monitor.decayTimer = 0 && !deviceChangeInProgress then
        replies.lvl.getD monitor.lvl
      else monitor.lvl := by
  have running : decayPollInterval ≠ 0 := by decide
  rw [restart]
  split
  case isTrue starts => simp [getSettings_lvl, starts, running]
  case isFalse idle => simp [idle]

theorem restart_mute (clientThread deviceChangeInProgress : Bool) (replies : SettingReplies)
    (monitor : LevelMonitor) :
    (monitor.restart clientThread deviceChangeInProgress replies).mute =
      if clientThread && monitor.decayTimer = 0 && !deviceChangeInProgress then
        replies.mute.getD monitor.mute
      else monitor.mute := by
  have running : decayPollInterval ≠ 0 := by decide
  rw [restart]
  split
  case isTrue starts =>
    cases deviceChangeInProgress <;> simp [getSettings, starts, running, post, saveSettings]
  case isFalse idle => simp [idle]

end LevelMonitor

namespace LevelMonitors

variable (state : LevelMonitors) (device : FaultyDevice)
  (speakerReplies micReplies : SettingReplies)

/-- Whether the device is muted once its settings are read for a decision. -/
def mutedOnRestart (replies : SettingReplies) : Bool :=
  if state.readsOnRestart device then replies.mute.getD (state.monitor device).mute
  else (state.monitor device).mute

theorem monitorSpeakerMic_monitor :
    (monitorSpeakerMic speakerReplies micReplies state).monitor device =
      if state.checkCount = maxTimeLevelDetection then
        (state.monitor device).restart state.clientThread state.deviceChangeInProgress
          (repliesFor speakerReplies micReplies device)
      else state.monitor device := by
  cases device with
  | microphone => exact microphone_monitorSpeakerMic speakerReplies micReplies state
  | speaker => exact speaker_monitorSpeakerMic speakerReplies micReplies state

theorem hearLevels_faulty :
    state.hearLevels.faulty device =
      (state.faulty device && decide ((state.monitor device).lvl = 0)) := by
  cases device with
  | microphone => by_cases silent : state.microphone.lvl = 0 <;>
      simp [hearLevels, faulty, monitor, silent]
  | speaker => by_cases silent : state.speaker.lvl = 0 <;>
      simp [hearLevels, faulty, monitor, silent]

theorem hearLevels_checkCount : state.hearLevels.checkCount = state.checkCount := rfl

theorem monitorSpeakerMic_faulty :
    (monitorSpeakerMic speakerReplies micReplies state).faulty device =
      (state.faulty device && decide ((state.monitor device).lvl = 0)) := by
  rw [← hearLevels_faulty, monitorSpeakerMic]
  split <;> cases device <;> rfl

/-- A check reports the device as faulty, if it is one that decides. -/
def reports : Bool :=
  state.faulty device && decide ((state.monitor device).lvl = 0) &&
    !state.mutedOnRestart device (repliesFor speakerReplies micReplies device)

def reported : List FaultyDevice :=
  if state.checkCount = maxTimeLevelDetection then
    [FaultyDevice.microphone, .speaker].filter fun device =>
      state.reports device speakerReplies micReplies
  else []

theorem monitorSpeakerMic_notified :
    (monitorSpeakerMic speakerReplies micReplies state).notified =
      state.notified ++ state.reported speakerReplies micReplies := by
  rw [monitorSpeakerMic, hearLevels_checkCount, reported]
  split
  case isTrue =>
    have muted (device : FaultyDevice) :
        ((state.monitor device).restart state.clientThread state.deviceChangeInProgress
          (repliesFor speakerReplies micReplies device)).mute =
            state.mutedOnRestart device (repliesFor speakerReplies micReplies device) :=
      LevelMonitor.restart_mute _ _ _ _
    have decision (device : FaultyDevice) :
        (state.hearLevels.faulty device &&
          !((state.monitor device).restart state.clientThread state.deviceChangeInProgress
            (repliesFor speakerReplies micReplies device)).mute) =
          state.reports device speakerReplies micReplies := by
      rw [muted, hearLevels_faulty, reports]
    have microphone := decision .microphone
    have speaker := decision .speaker
    simp only [faulty, monitor, repliesFor, hearLevels] at microphone speaker
    simp only [notifyFaulty, hearLevels, microphone, speaker, List.filter_cons,
      List.filter_nil]
    cases state.reports .microphone speakerReplies micReplies <;>
      cases state.reports .speaker speakerReplies micReplies <;> simp
  case isFalse => exact (List.append_nil _).symm

theorem mem_reported :
    device ∈ state.reported speakerReplies micReplies ↔
      state.checkCount = maxTimeLevelDetection ∧
        state.reports device speakerReplies micReplies = true := by
  have listed : device ∈ [FaultyDevice.microphone, .speaker] := by cases device <;> decide
  unfold reported
  split
  case isTrue due => simp only [List.mem_filter, listed, due, true_and]
  case isFalse early => simp only [early, false_and, List.not_mem_nil]

/-- A device that a check reports is not muted after the check. -/
theorem monitorSpeakerMic_mute (due : state.checkCount = maxTimeLevelDetection)
    (reported : state.reports device speakerReplies micReplies = true) :
    ((monitorSpeakerMic speakerReplies micReplies state).monitor device).mute = false := by
  simp only [reports, Bool.and_eq_true, Bool.not_eq_true'] at reported
  rw [monitorSpeakerMic_monitor, if_pos due, LevelMonitor.restart_mute]
  exact reported.2

theorem monitorSpeakerMic_levelMessages :
    (monitorSpeakerMic speakerReplies micReplies state).levelMessages =
      if state.checkCount = maxTimeLevelDetection then state.levelMessages
      else state.levelMessages + 1 := by
  rw [monitorSpeakerMic, hearLevels_checkCount]
  split <;> rfl

theorem platformPostDeviceOperation_levelMessages :
    (state.platformPostDeviceOperation speakerReplies micReplies).levelMessages =
      state.levelMessages + 1 := by
  rw [platformPostDeviceOperation, monitorSpeakerMic_levelMessages, if_neg fun due => by cases due]

theorem platformPostDeviceOperation_notified :
    (state.platformPostDeviceOperation speakerReplies micReplies).notified = state.notified := by
  rw [platformPostDeviceOperation, monitorSpeakerMic_notified, reported,
    if_neg fun due => by cases due]
  exact List.append_nil _

/-! What the other operations leave to the checks. -/

def checks : FaultyDeviceOperation → Bool
  | .monitor (.monitorLevel _ _) => true
  | .monitor (.platformPostDeviceOperation _ _) => true
  | _ => false

theorem checks_cases (operation : FaultyDeviceOperation) :
    checks operation = false ∨
      (∃ speakerReplies micReplies,
        operation = .monitor (.platformPostDeviceOperation speakerReplies micReplies)) ∨
      ∃ speakerReplies micReplies,
        operation = .monitor (.monitorLevel speakerReplies micReplies) := by
  cases operation with
  | autoMicLevelCheck inputSignalMeter => exact .inl rfl
  | monitor operation =>
      cases operation with
      | platformPostDeviceOperation speakerReplies micReplies => exact .inr (.inl ⟨_, _, rfl⟩)
      | monitorLevel speakerReplies micReplies => exact .inr (.inr ⟨_, _, rfl⟩)
      | _ => exact .inl rfl

structure Unchecked (state next : LevelMonitors) : Prop where
  faulty : ∀ device, next.faulty device = state.faulty device
  notified : next.notified = state.notified
  levelMessages : next.levelMessages ≤ state.levelMessages

theorem performChecked_unchecked {operation : FaultyDeviceOperation}
    (unchecked : checks operation = false) : Unchecked state (state.performChecked operation) := by
  have same (next : LevelMonitors) (microphone : next.faultyMicrophone = state.faultyMicrophone)
      (speaker : next.faultySpeaker = state.faultySpeaker)
      (notified : next.notified = state.notified)
      (levelMessages : next.levelMessages = state.levelMessages) : Unchecked state next :=
    ⟨fun device => by cases device with
      | microphone => exact microphone
      | speaker => exact speaker, notified, Nat.le_of_eq levelMessages⟩
  cases operation with
  | autoMicLevelCheck inputSignalMeter => exact same _ rfl rfl rfl rfl
  | monitor operation =>
      cases operation with
      | postGetSpeakerMute =>
          simp only [performChecked, perform, postGetSpeakerMute]
          split <;> exact same _ rfl rfl rfl rfl
      | postGetMicrophoneMute =>
          simp only [performChecked, perform, postGetMicrophoneMute]
          split <;> exact same _ rfl rfl rfl rfl
      | postGetSpeakerVol =>
          simp only [performChecked, perform, postGetSpeakerVol]
          split <;> exact same _ rfl rfl rfl rfl
      | postGetMicrophoneVol =>
          simp only [performChecked, perform, postGetMicrophoneVol]
          split <;> exact same _ rfl rfl rfl rfl
      | platformPreDeviceOperation =>
          exact ⟨fun device => by cases device <;> rfl, rfl, Nat.zero_le _⟩
      | platformPostDeviceOperation speakerReplies micReplies => cases unchecked
      | monitorLevel speakerReplies micReplies => cases unchecked
      | _ => exact same _ rfl rfl rfl rfl

/-- The level afterwards: the sample if there is one, else the level before or the nonzero
default. -/
def LevelFollows (before : LevelMonitor) (sample : Option UInt32) (after : LevelMonitor) :
    Prop :=
  match sample with
  | some level => after.lvl = level
  | none => after.lvl = before.lvl ∨ after.lvl ≠ 0

theorem levelFollows_getD (before : LevelMonitor) (sample : Option UInt32) {after : LevelMonitor}
    (level : after.lvl = sample.getD before.lvl) : LevelFollows before sample after := by
  cases sample with
  | none => exact .inl level
  | some value => exact level

theorem levelFollows_handleMessage (before : LevelMonitor) (deviceChangeInProgress : Bool)
    (replies : SettingReplies) :
    LevelFollows before
      (if before.decayTimer ≠ 0 ∧ deviceChangeInProgress = false then replies.lvl else none)
      (before.handleMessage deviceChangeInProgress replies) := by
  apply levelFollows_getD
  rw [LevelMonitor.handleMessage, LevelMonitor.getSettings_lvl]
  split <;> simp_all

theorem levelFollows_keepPolling (before : LevelMonitor) :
    LevelFollows before none (before.keepPolling state.clientThread) := by
  unfold LevelMonitor.keepPolling
  split <;> exact .inl rfl

theorem pollSpeaker_level : LevelFollows (state.monitor device) none
    (state.pollSpeaker.monitor device) := by
  cases device with
  | microphone => exact .inl rfl
  | speaker => exact levelFollows_keepPolling state state.speaker

theorem pollMicrophone_level : LevelFollows (state.monitor device) none
    (state.pollMicrophone.monitor device) := by
  cases device with
  | microphone => exact levelFollows_keepPolling state state.microphone
  | speaker => exact .inl rfl

/-- A setting is answered from the notified values, which leaves the level, or by polling. -/
theorem answered_level {Answer : Type} {notified polled : LevelMonitors} {answer last : Answer}
    (same : (notified.monitor device).lvl = (state.monitor device).lvl)
    (polls : LevelFollows (state.monitor device) none (polled.monitor device)) :
    LevelFollows (state.monitor device) none
      ((if state.coreAudioDevNotify then (answer, notified)
        else (last, polled)).2.monitor device) := by
  split
  · exact .inl same
  · exact polls

theorem monitorSpeakerMic_level : LevelFollows (state.monitor device)
    (if state.checkCount = maxTimeLevelDetection ∧ state.readsOnRestart device = true
      then (repliesFor speakerReplies micReplies device).lvl else none)
    ((monitorSpeakerMic speakerReplies micReplies state).monitor device) := by
  apply levelFollows_getD
  rw [monitorSpeakerMic_monitor]
  by_cases due : state.checkCount = maxTimeLevelDetection
  · rw [if_pos due, LevelMonitor.restart_lvl, ← readsOnRestart]
    cases state.readsOnRestart device <;> simp [due]
  · simp [due]

theorem performChecked_level (operation : FaultyDeviceOperation) :
    LevelFollows (state.monitor device) (state.sampled device operation)
      ((state.performChecked operation).monitor device) := by
  cases operation with
  | autoMicLevelCheck inputSignalMeter =>
      cases device with
      | microphone => exact levelFollows_getD _ inputSignalMeter rfl
      | speaker => exact .inl rfl
  | monitor operation =>
      cases operation with
      | postGetSpeakerVolLvl => exact pollSpeaker_level state device
      | postGetMicVolLvl => exact pollMicrophone_level state device
      | postGetSpeakerMute =>
          exact answered_level state device (by cases device <;> rfl)
            (pollSpeaker_level state device)
      | postGetMicrophoneMute =>
          exact answered_level state device (by cases device <;> rfl)
            (pollMicrophone_level state device)
      | postGetSpeakerVol =>
          exact answered_level state device (by cases device <;> rfl)
            (pollSpeaker_level state device)
      | postGetMicrophoneVol =>
          exact answered_level state device (by cases device <;> rfl)
            (pollMicrophone_level state device)
      | postStopSpeakerVolume => cases device <;> exact .inl rfl
      | postStopMicVolume => cases device <;> exact .inl rfl
      | resetSavedSpeakerState =>
          cases device with
          | microphone => exact .inl rfl
          | speaker => exact .inr (by decide : (9 : UInt32) ≠ 0)
      | resetSavedMicrophoneState =>
          cases device with
          | microphone => exact .inr (by decide : (9 : UInt32) ≠ 0)
          | speaker => exact .inl rfl
      | volumeChange stats => exact .inl rfl
      | platformPreDeviceOperation => cases device <;> exact .inl rfl
      | platformPostDeviceOperation speakerReplies micReplies =>
          have started := monitorSpeakerMic_level
            { state with
              faultyMicrophone := true
              faultySpeaker := true
              checkCount := 0
              deviceChangeInProgress := false } device speakerReplies micReplies
          rw [if_neg fun due => by cases due.1] at started
          exact started
      | startSpkMonitor replies =>
          cases device with
          | microphone => exact .inl rfl
          | speaker =>
              simp only [sampled, true_and]
              exact levelFollows_handleMessage state.speaker state.deviceChangeInProgress replies
      | startMicMonitor replies =>
          cases device with
          | microphone =>
              simp only [sampled, true_and]
              exact levelFollows_handleMessage state.microphone state.deviceChangeInProgress
                replies
          | speaker => exact .inl rfl
      | monitorLevel speakerReplies micReplies =>
          exact monitorSpeakerMic_level
            { state with levelMessages := state.levelMessages - 1 } device speakerReplies
            micReplies

end LevelMonitors

/-! The law, and when it holds. -/

structure FaultyLaw (state : CheckedDevices) : Prop where
  single : state.monitors.levelMessages ≤ 1
  once : state.decisions ≤ 1
  sent : state.notices.map FaultyNotice.device = state.monitors.notified
  justified : ∀ notice ∈ state.notices,
    (∀ level ∈ notice.levels, level = 0) ∧ notice.muted = false

/-- A check that reports a device comes after every level that was not zero had its own
check, and does not sample such a level itself. -/
def HeardInTime (state : CheckedDevices) : FaultyDeviceOperation → Prop
  | .monitor (.monitorLevel speakerReplies micReplies) =>
      0 < state.monitors.levelMessages → state.monitors.checkCount = maxTimeLevelDetection →
        ∀ device, state.monitors.reports device speakerReplies micReplies = true →
          (state.history device).overwritten = false ∧
            ∀ level, state.monitors.sampled device
              (.monitor (.monitorLevel speakerReplies micReplies)) = some level → level = 0
  | _ => True

namespace LevelHistory

def HasNonzero (history : LevelHistory) : Prop := ∃ level ∈ history.levels, level ≠ 0

/-- What a history says about the level and the mark of its device. -/
structure Tells (history : LevelHistory) (level : UInt32) (faulty : Bool) : Prop where
  waits : history.waiting = true → level ≠ 0 ∧ history.HasNonzero
  loses : history.overwritten = true → history.HasNonzero
  keeps : history.HasNonzero →
    history.waiting = true ∨ history.overwritten = true ∨ faulty = false

theorem tells_empty (level : UInt32) (faulty : Bool) : Tells .empty level faulty where
  waits := fun waiting => absurd waiting Bool.false_ne_true
  loses := fun overwritten => absurd overwritten Bool.false_ne_true
  keeps := fun ⟨_, member, _⟩ => absurd member List.not_mem_nil

theorem Tells.checked {history : LevelHistory} {level : UInt32} {faulty : Bool}
    (tells : Tells history level faulty) :
    Tells history.checked level (faulty && decide (level = 0)) where
  waits := fun waiting => absurd waiting Bool.false_ne_true
  loses := tells.loses
  keeps := by
    intro nonzero
    rcases tells.keeps nonzero with waiting | overwritten | heard
    · simp [(tells.waits waiting).1]
    · exact .inr (.inl overwritten)
    · simp [heard]

theorem hasNonzero_sample {history : LevelHistory} {level : UInt32} :
    (history.sample (some level)).HasNonzero ↔ history.HasNonzero ∨ level ≠ 0 := by
  simp [HasNonzero, sample, or_and_right, exists_or]

theorem Tells.sample {history : LevelHistory} {before after : LevelMonitor} {faulty : Bool}
    (tells : Tells history before.lvl faulty) {sample : Option UInt32}
    (follows : LevelMonitors.LevelFollows before sample after) :
    Tells (history.sample sample) after.lvl faulty := by
  cases sample with
  | none =>
      refine ⟨fun waiting => ⟨?_, (tells.waits waiting).2⟩, tells.loses, tells.keeps⟩
      rcases follows with same | nonzero
      · rw [same]
        exact (tells.waits waiting).1
      · exact nonzero
  | some level =>
      have same : after.lvl = level := follows
      rw [same]
      refine ⟨fun waiting => ?_, fun overwritten => ?_, fun nonzero => ?_⟩
      · have sounds : level ≠ 0 := of_decide_eq_true waiting
        exact ⟨sounds, hasNonzero_sample.mpr (.inr sounds)⟩
      · rw [hasNonzero_sample]
        simp only [LevelHistory.sample, Bool.or_eq_true, Bool.and_eq_true] at overwritten
        rcases overwritten with before | ⟨waiting, _⟩
        · exact .inl (tells.loses before)
        · exact .inl (tells.waits waiting).2
      · by_cases silent : level = 0
        · have before := (hasNonzero_sample.mp nonzero).resolve_right (not_not.mpr silent)
          rcases tells.keeps before with waiting | overwritten | heard
          · exact .inr (.inl (by simp [LevelHistory.sample, waiting, silent]))
          · exact .inr (.inl (by simp [LevelHistory.sample, overwritten]))
          · exact .inr (.inr heard)
        · exact .inl (decide_eq_true silent)

/-- Of a device that is still marked at a check, with its level zero, only zeros were sampled
unless another level was overwritten. -/
theorem Tells.silent_iff {history : LevelHistory} {level : UInt32} {faulty : Bool}
    (tells : Tells history level faulty) (marked : faulty = true) (zero : level = 0)
    (sample : Option UInt32) :
    (∀ level ∈ (history.checked.sample sample).levels, level = 0) ↔
      history.overwritten = false ∧ ∀ level, sample = some level → level = 0 := by
  have before : (∀ level ∈ history.levels, level = 0) ↔ history.overwritten = false := by
    constructor
    · intro silent
      refine Bool.eq_false_iff.mpr fun overwritten => ?_
      obtain ⟨level, member, sounds⟩ := tells.loses overwritten
      exact sounds (silent level member)
    · intro kept level member
      by_contra sounds
      rcases tells.keeps ⟨level, member, sounds⟩ with waiting | overwritten | heard
      · exact (tells.waits waiting).1 zero
      · rw [kept] at overwritten
        cases overwritten
      · rw [marked] at heard
        cases heard
  cases sample with
  | none => simpa [LevelHistory.sample, LevelHistory.checked] using before
  | some level =>
      simp only [LevelHistory.sample, LevelHistory.checked, List.mem_append, List.mem_singleton,
        Option.some.injEq, or_imp, forall_and, forall_eq, forall_eq', before]

end LevelHistory

namespace CheckedDevices

open LevelMonitors

/-- A finished operation has one pending message or one decision, and what the history tells
is true. -/
structure Watched (state : CheckedDevices) : Prop where
  messages : state.monitors.levelMessages + state.decisions ≤ 1
  cleared : state.prepared = true → state.monitors.levelMessages = 0
  sent : state.notices.map FaultyNotice.device = state.monitors.notified
  tells : ∀ device, (state.history device).Tells (state.monitors.monitor device).lvl
    (state.monitors.faulty device)

def newNotices (state : CheckedDevices) (operation : FaultyDeviceOperation) :
    List FaultyNotice :=
  ((state.monitors.performChecked operation).notified.drop state.monitors.notified.length).map
    fun device => ⟨device, (state.historyAfter operation device).levels,
      ((state.monitors.performChecked operation).monitor device).mute⟩

theorem perform_notices (state : CheckedDevices) (operation : FaultyDeviceOperation) :
    (state.perform operation).notices = state.notices ++ state.newNotices operation := rfl

theorem sent_perform {state : CheckedDevices} {operation : FaultyDeviceOperation}
    {reported : List FaultyDevice}
    (sent : state.notices.map FaultyNotice.device = state.monitors.notified)
    (notified : (state.monitors.performChecked operation).notified =
      state.monitors.notified ++ reported) :
    (state.perform operation).notices.map FaultyNotice.device =
      (state.perform operation).monitors.notified := by
  rw [perform_notices, newNotices, notified, List.drop_left, List.map_append, List.map_map, sent]
  refine Eq.trans ?_ notified.symm
  exact congrArg (state.monitors.notified ++ ·) (List.map_id reported)

theorem newNotices_nil {state : CheckedDevices} {operation : FaultyDeviceOperation}
    (same : (state.monitors.performChecked operation).notified = state.monitors.notified) :
    state.newNotices operation = [] := by
  rw [newNotices, same, List.drop_length, List.map_nil]

variable {state : CheckedDevices}

section Unchecked

variable {operation : FaultyDeviceOperation} (unchecked : checks operation = false)
include unchecked

theorem historyAfter_unchecked (device : FaultyDevice) :
    state.historyAfter operation device =
      (state.history device).sample (state.monitors.sampled device operation) := by
  cases operation with
  | autoMicLevelCheck inputSignalMeter => rfl
  | monitor operation =>
      cases operation with
      | platformPostDeviceOperation speakerReplies micReplies => cases unchecked
      | monitorLevel speakerReplies micReplies => cases unchecked
      | _ => rfl

theorem decisionsAfter_unchecked : state.decisionsAfter operation = state.decisions := by
  cases operation with
  | autoMicLevelCheck inputSignalMeter => rfl
  | monitor operation =>
      cases operation with
      | platformPostDeviceOperation speakerReplies micReplies => cases unchecked
      | monitorLevel speakerReplies micReplies => cases unchecked
      | _ => rfl

theorem preparedAfter_unchecked (watched : Watched state)
    (prepared : state.preparedAfter operation = true) :
    (state.monitors.performChecked operation).levelMessages = 0 := by
  have before (prepared : state.prepared = true) :
      (state.monitors.performChecked operation).levelMessages = 0 :=
    Nat.le_zero.mp ((watched.cleared prepared) ▸
      (performChecked_unchecked state.monitors unchecked).levelMessages)
  cases operation with
  | autoMicLevelCheck inputSignalMeter => exact before prepared
  | monitor operation =>
      cases operation with
      | platformPreDeviceOperation => rfl
      | platformPostDeviceOperation speakerReplies micReplies => cases unchecked
      | monitorLevel speakerReplies micReplies => cases unchecked
      | _ => exact before prepared

theorem watched_unchecked (watched : Watched state) : Watched (state.perform operation) := by
  have frame := performChecked_unchecked state.monitors unchecked
  refine ⟨?_, preparedAfter_unchecked unchecked watched,
    sent_perform watched.sent (frame.notified.trans (List.append_nil _).symm), fun device => ?_⟩
  · have before := watched.messages
    have fewer := frame.levelMessages
    simp only [perform, decisionsAfter_unchecked unchecked]
    omega
  · simp only [perform, historyAfter_unchecked unchecked, frame.faulty]
    exact (watched.tells device).sample (performChecked_level state.monitors device operation)

theorem heardInTime_unchecked : HeardInTime state operation := by
  cases operation with
  | autoMicLevelCheck inputSignalMeter => trivial
  | monitor operation =>
      cases operation with
      | monitorLevel speakerReplies micReplies => cases unchecked
      | _ => trivial

theorem newNotices_unchecked : state.newNotices operation = [] :=
  newNotices_nil (performChecked_unchecked state.monitors unchecked).notified

end Unchecked

section Post

variable (speakerReplies micReplies : SettingReplies)

theorem watched_post (watched : Watched state) (prepared : state.prepared = true) :
    Watched (state.perform
      (.monitor (.platformPostDeviceOperation speakerReplies micReplies))) := by
  have cleared := watched.cleared prepared
  have posted := platformPostDeviceOperation_levelMessages state.monitors speakerReplies micReplies
  have notified := platformPostDeviceOperation_notified state.monitors speakerReplies micReplies
  refine ⟨?_, fun after => absurd after Bool.false_ne_true,
    sent_perform watched.sent (notified.trans (List.append_nil _).symm),
    fun device => LevelHistory.tells_empty _ _⟩
  simp only [perform, performChecked, LevelMonitors.perform, posted, cleared, decisionsAfter,
    Nat.zero_add, Nat.add_zero, Nat.le_refl]

theorem newNotices_post : state.newNotices
    (.monitor (.platformPostDeviceOperation speakerReplies micReplies)) = [] :=
  newNotices_nil
    (platformPostDeviceOperation_notified state.monitors speakerReplies micReplies)

end Post

section Level

variable (speakerReplies micReplies : SettingReplies)

theorem watched_level (watched : Watched state) (pending : 0 < state.monitors.levelMessages) :
    Watched (state.perform (.monitor (.monitorLevel speakerReplies micReplies))) := by
  have messages := watched.messages
  refine ⟨?_, fun prepared => ?_,
    sent_perform watched.sent (monitorSpeakerMic_notified _ speakerReplies micReplies),
    fun device => ?_⟩
  · simp only [perform, performChecked, LevelMonitors.perform, monitorSpeakerMic_levelMessages,
      decisionsAfter, decides, decide_eq_true_eq]
    split <;> omega
  · have cleared := watched.cleared prepared
    omega
  · have level := performChecked_level state.monitors device
      (.monitor (.monitorLevel speakerReplies micReplies))
    have told := (watched.tells device).checked.sample level
    simp only [perform, performChecked, LevelMonitors.perform, monitorSpeakerMic_faulty]
    exact told

/-- A notice of the check says what the history tells then. -/
theorem mem_newNotices_level {notice : FaultyNotice} :
    notice ∈ state.newNotices (.monitor (.monitorLevel speakerReplies micReplies)) ↔
      state.monitors.checkCount = maxTimeLevelDetection ∧ ∃ device,
        state.monitors.reports device speakerReplies micReplies = true ∧
          notice = ⟨device, ((state.history device).checked.sample
            (state.monitors.sampled device
              (.monitor (.monitorLevel speakerReplies micReplies)))).levels, false⟩ := by
  have notified : (state.monitors.performChecked
      (.monitor (.monitorLevel speakerReplies micReplies))).notified =
        state.monitors.notified ++ state.monitors.reported speakerReplies micReplies :=
    monitorSpeakerMic_notified _ speakerReplies micReplies
  rw [newNotices, notified, List.drop_left, List.mem_map]
  simp only [mem_reported]
  have unmuted (device : FaultyDevice)
      (due : state.monitors.checkCount = maxTimeLevelDetection)
      (reported : state.monitors.reports device speakerReplies micReplies = true) :
      ((state.monitors.performChecked
        (.monitor (.monitorLevel speakerReplies micReplies))).monitor device).mute = false :=
    monitorSpeakerMic_mute { state.monitors with levelMessages := state.monitors.levelMessages - 1 }
      device speakerReplies micReplies due reported
  constructor
  · intro told
    obtain ⟨device, ⟨due, reported⟩, rfl⟩ := told
    refine ⟨due, device, reported, ?_⟩
    rw [unmuted device due reported]
    rfl
  · intro told
    obtain ⟨due, device, reported, rfl⟩ := told
    refine ⟨device, ⟨due, reported⟩, ?_⟩
    rw [unmuted device due reported]
    rfl

/-- The notices of a check are justified exactly when all levels were heard in time. -/
theorem justified_level_iff (watched : Watched state)
    (pending : 0 < state.monitors.levelMessages) :
    (∀ notice ∈ state.newNotices (.monitor (.monitorLevel speakerReplies micReplies)),
      (∀ level ∈ notice.levels, level = 0) ∧ notice.muted = false) ↔
        HeardInTime state (.monitor (.monitorLevel speakerReplies micReplies)) := by
  have silent (device : FaultyDevice)
      (reported : state.monitors.reports device speakerReplies micReplies = true) :=
    (watched.tells device).silent_iff (by simp [reports] at reported; exact reported.1.1)
      (by simp [reports] at reported; exact reported.1.2)
      (state.monitors.sampled device (.monitor (.monitorLevel speakerReplies micReplies)))
  constructor
  · intro justified _ due device reported
    have member := (mem_newNotices_level speakerReplies micReplies).mpr
      ⟨due, device, reported, rfl⟩
    exact (silent device reported).mp (justified _ member).1
  · intro heard notice member
    obtain ⟨due, device, reported, rfl⟩ :=
      (mem_newNotices_level speakerReplies micReplies).mp member
    exact ⟨(silent device reported).mpr (heard pending due device reported), rfl⟩

end Level

theorem step_eq_some {operation : FaultyDeviceOperation} {next : CheckedDevices} :
    state.step operation = some next ↔ state.enabled operation = true ∧
      state.perform operation = next := by
  simp only [step, Option.ite_none_right_eq_some, Option.some.injEq]

theorem step_watched {operation : FaultyDeviceOperation} {next : CheckedDevices}
    (watched : Watched state) (taken : state.step operation = some next) : Watched next := by
  obtain ⟨enabled, rfl⟩ := step_eq_some.mp taken
  rcases checks_cases operation with unchecked | ⟨speakerReplies, micReplies, rfl⟩ |
    ⟨speakerReplies, micReplies, rfl⟩
  · exact watched_unchecked unchecked watched
  · exact watched_post speakerReplies micReplies watched enabled
  · exact watched_level speakerReplies micReplies watched (of_decide_eq_true enabled)

theorem justified_iff {operation : FaultyDeviceOperation} (watched : Watched state)
    (enabled : state.enabled operation = true) :
    (∀ notice ∈ state.newNotices operation,
      (∀ level ∈ notice.levels, level = 0) ∧ notice.muted = false) ↔
        HeardInTime state operation := by
  rcases checks_cases operation with unchecked | ⟨speakerReplies, micReplies, rfl⟩ |
    ⟨speakerReplies, micReplies, rfl⟩
  · refine iff_of_true ?_ (heardInTime_unchecked unchecked)
    rw [newNotices_unchecked unchecked]
    exact fun _ member => absurd member List.not_mem_nil
  · refine iff_of_true ?_ trivial
    rw [newNotices_post]
    exact fun _ member => absurd member List.not_mem_nil
  · exact justified_level_iff speakerReplies micReplies watched (of_decide_eq_true enabled)

/-- Only a check that is taken can come too late. -/
theorem enabled_of_late {operation : FaultyDeviceOperation} (late : ¬ HeardInTime state operation) :
    state.enabled operation = true := by
  rcases checks_cases operation with unchecked | ⟨speakerReplies, micReplies, rfl⟩ |
    ⟨speakerReplies, micReplies, rfl⟩
  · exact absurd (heardInTime_unchecked unchecked) late
  · exact absurd trivial late
  · obtain ⟨pending, _⟩ := Classical.not_imp.mp late
    exact decide_eq_true pending

theorem law_perform_iff {operation : FaultyDeviceOperation} (watched : Watched state)
    (law : FaultyLaw state) (enabled : state.enabled operation = true) :
    FaultyLaw (state.perform operation) ↔ HeardInTime state operation := by
  rw [← justified_iff watched enabled]
  constructor
  · intro next notice member
    exact next.justified notice (List.mem_append_right _ member)
  · intro new
    have next := step_watched watched (step_eq_some.mpr ⟨enabled, rfl⟩)
    have messages := next.messages
    refine ⟨by omega, by omega, next.sent, fun notice member => ?_⟩
    rcases List.mem_append.mp member with old | fresh
    · exact law.justified notice old
    · exact new notice fresh

theorem watched_start {monitors : LevelMonitors} (noMessage : monitors.levelMessages = 0)
    (unsent : monitors.notified = []) : Watched (start monitors) where
  messages := by simp [start, noMessage]
  cleared := fun _ => noMessage
  sent := unsent.symm
  tells := fun _ => LevelHistory.tells_empty _ _

/-- In a run with paired device operations the law of the faulty notifications holds
throughout exactly where every check that reports a device has heard all its levels. -/
theorem faultyLaw_iff (clientThread coreAudioDevNotify : Bool) (volStats : CoreAudio.VolumeStats)
    (deviceChangeInProgress faultyMicrophone faultySpeaker : Bool) (checkCount : Nat)
    (operations : List FaultyDeviceOperation) :
    let monitors := LevelMonitors.initial clientThread coreAudioDevNotify volStats
      deviceChangeInProgress faultyMicrophone faultySpeaker checkCount
    Throughout step FaultyLaw (start monitors) operations ↔
      Guarded step HeardInTime (start monitors) operations := by
  refine throughout_iff_guarded (fun state => Watched state ∧ FaultyLaw state)
    (fun _ both => both.2) ?_ ?_ ⟨watched_start rfl rfl, ?_⟩
  · intro state operation next ⟨watched, law⟩ heard taken
    refine ⟨step_watched watched taken, ?_⟩
    obtain ⟨enabled, rfl⟩ := step_eq_some.mp taken
    exact (law_perform_iff watched law enabled).mpr heard
  · intro state operation ⟨watched, law⟩ late
    have enabled := enabled_of_late late
    exact ⟨_, step_eq_some.mpr ⟨enabled, rfl⟩, mt (law_perform_iff watched law enabled).mp late⟩
  · exact ⟨Nat.zero_le 1, Nat.zero_le 1, rfl, fun _ member => absurd member List.not_mem_nil⟩

/-- The microphone is heard between two checks and is silent again at the second. -/
def soundBetweenChecks : List FaultyDeviceOperation :=
  [.autoMicLevelCheck (some 0), .monitor .platformPreDeviceOperation,
    .monitor (.platformPostDeviceOperation ⟨none, none, none⟩ ⟨none, none, none⟩),
    .autoMicLevelCheck (some 500), .autoMicLevelCheck (some 0)] ++
    List.replicate 15 (.monitor (.monitorLevel ⟨none, none, none⟩ ⟨none, none, none⟩))

theorem faultyLaw_soundBetweenChecks :
    ¬ Throughout step FaultyLaw
      (start (.initial true false ⟨⟨0, false⟩, ⟨0, false⟩, ⟨0, false⟩⟩ false false false 0))
      soundBetweenChecks := by
  intro holds
  have held := holds.reached rfl
  have heard := (held.justified ⟨.microphone, [500, 0], false⟩ (by decide)).1 500 (by decide)
  exact absurd heard (by decide)

end CheckedDevices

end FiberApp.Audio
