import FiberApp.Foundation.Execution
import FiberApp.Audio.LevelMonitor

/-! A monitor is started when its timer is zero, which does not say that its last
message has left the queue. -/

set_option autoImplicit false

namespace FiberApp.Audio

open Foundation

namespace LevelMonitor

structure Law (monitor : LevelMonitor) : Prop where
  single : monitor.pending ≤ 1
  running : monitor.decayTimer ≠ 0 → 0 < monitor.pending

theorem law_initial : Law initial := ⟨Nat.zero_le 1, fun running => absurd rfl running⟩

/-- The law speaks of the timer and the queue only. -/
theorem Law.congr {monitor other : LevelMonitor} (law : Law monitor)
    (timer : other.decayTimer = monitor.decayTimer) (pending : other.pending = monitor.pending) :
    Law other := by
  obtain ⟨single, running⟩ := law
  exact ⟨pending ▸ single, by rwa [timer, pending]⟩

theorem Law.stop {monitor : LevelMonitor} (law : Law monitor) : Law monitor.stop :=
  ⟨law.single, fun running => absurd rfl running⟩

theorem Law.resetSavedState {monitor : LevelMonitor} (law : Law monitor) :
    Law monitor.resetSavedState :=
  ⟨law.single, fun running => absurd rfl running⟩

theorem law_clear (monitor : LevelMonitor) : Law monitor.clear :=
  ⟨Nat.zero_le 1, fun running => absurd rfl running⟩

theorem pending_getSettings (deviceChangeInProgress : Bool) (replies : SettingReplies)
    (monitor : LevelMonitor) :
    (monitor.getSettings deviceChangeInProgress replies).pending =
      if monitor.decayTimer = 0 then monitor.pending else monitor.pending + 1 := by
  rw [getSettings]
  by_cases stopped : monitor.decayTimer = 0
  · simp [stopped]
  · cases deviceChangeInProgress <;> simp [stopped, post, saveSettings]

theorem decayTimer_getSettings (deviceChangeInProgress : Bool) (replies : SettingReplies)
    {monitor : LevelMonitor} (stopped : monitor.decayTimer = 0) :
    (monitor.getSettings deviceChangeInProgress replies).decayTimer = 0 := by
  simp [getSettings, stopped]

/-- With one message at most there is none once that one is taken out. -/
theorem Law.handleMessage {monitor : LevelMonitor} (law : Law monitor)
    (deviceChangeInProgress : Bool) (replies : SettingReplies) :
    Law (monitor.handleMessage deviceChangeInProgress replies) := by
  have single := law.single
  rw [LevelMonitor.handleMessage]
  constructor
  · rw [pending_getSettings]
    split <;> simp only <;> omega
  · intro running
    rw [pending_getSettings]
    split
    · rename_i stopped
      exact absurd (decayTimer_getSettings deviceChangeInProgress replies stopped) running
    · exact Nat.succ_pos _

/-- The monitor is started by the next query or check. -/
def Starts (clientThread : Bool) (monitor : LevelMonitor) : Prop :=
  clientThread = true ∧ monitor.decayTimer = 0

instance (clientThread : Bool) (monitor : LevelMonitor) :
    Decidable (Starts clientThread monitor) :=
  inferInstanceAs (Decidable (_ ∧ _))

theorem pending_keepPolling (clientThread : Bool) (monitor : LevelMonitor) :
    (monitor.keepPolling clientThread).pending =
      if Starts clientThread monitor then monitor.pending + 1 else monitor.pending := by
  by_cases starts : Starts clientThread monitor
  · rw [if_pos starts, keepPolling, if_pos (by simpa [Starts] using starts)]
    rfl
  · rw [if_neg starts, keepPolling, if_neg (by simpa [Starts] using starts)]

theorem pending_restart (clientThread deviceChangeInProgress : Bool) (replies : SettingReplies)
    (monitor : LevelMonitor) :
    (monitor.restart clientThread deviceChangeInProgress replies).pending =
      if Starts clientThread monitor then monitor.pending + 1 else monitor.pending := by
  have running : decayPollInterval ≠ 0 := by decide
  by_cases starts : Starts clientThread monitor
  · rw [if_pos starts, restart, if_pos (by simpa [Starts] using starts), pending_getSettings,
      if_neg running]
  · rw [if_neg starts, restart, if_neg (by simpa [Starts] using starts)]

theorem law_of_started {monitor next : LevelMonitor} {clientThread : Bool} (law : Law monitor)
    (same : ¬ Starts clientThread monitor → next = monitor)
    (pending : next.pending =
      if Starts clientThread monitor then monitor.pending + 1 else monitor.pending) :
    Law next ↔ (Starts clientThread monitor → monitor.pending = 0) := by
  by_cases starts : Starts clientThread monitor
  · rw [if_pos starts] at pending
    constructor
    · intro nextLaw _
      have single := nextLaw.single
      omega
    · intro empty
      have none := empty starts
      exact ⟨by omega, fun _ => by omega⟩
  · rw [same starts]
    exact ⟨fun _ started => absurd started starts, fun _ => law⟩

theorem law_keepPolling_iff {monitor : LevelMonitor} (law : Law monitor) (clientThread : Bool) :
    Law (monitor.keepPolling clientThread) ↔
      (Starts clientThread monitor → monitor.pending = 0) := by
  refine law_of_started law ?_ (pending_keepPolling clientThread monitor)
  intro idle
  simp only [Starts] at idle
  simp only [keepPolling, Bool.and_eq_true, decide_eq_true_eq, if_neg idle]

theorem law_restart_iff {monitor : LevelMonitor} (law : Law monitor)
    (clientThread deviceChangeInProgress : Bool) (replies : SettingReplies) :
    Law (monitor.restart clientThread deviceChangeInProgress replies) ↔
      (Starts clientThread monitor → monitor.pending = 0) := by
  refine law_of_started law ?_ (pending_restart clientThread deviceChangeInProgress replies _)
  intro idle
  simp only [Starts] at idle
  simp only [restart, Bool.and_eq_true, decide_eq_true_eq, if_neg idle]

end LevelMonitor

namespace LevelMonitors

open LevelMonitor

structure Law (state : LevelMonitors) : Prop where
  speaker : state.speaker.Law
  microphone : state.microphone.Law

/-- The operation starts the monitor of the speaker if its timer is zero. -/
def queriesSpeaker (state : LevelMonitors) : MonitorOperation → Bool
  | .postGetSpeakerVolLvl => true
  | .postGetSpeakerMute | .postGetSpeakerVol => !state.coreAudioDevNotify
  | .monitorLevel _ _ => state.checkCount = maxTimeLevelDetection
  | _ => false

def queriesMicrophone (state : LevelMonitors) : MonitorOperation → Bool
  | .postGetMicVolLvl => true
  | .postGetMicrophoneMute | .postGetMicrophoneVol => !state.coreAudioDevNotify
  | .monitorLevel _ _ => state.checkCount = maxTimeLevelDetection
  | _ => false

/-- A monitor is started only when none of its messages is in the queue. -/
def StartsAfterLast (state : LevelMonitors) (operation : MonitorOperation) : Prop :=
  state.enabled operation = true →
    (state.queriesSpeaker operation = true → Starts state.clientThread state.speaker →
      state.speaker.pending = 0) ∧
    (state.queriesMicrophone operation = true → Starts state.clientThread state.microphone →
      state.microphone.pending = 0)

theorem speaker_monitorSpeakerMic (speakerReplies micReplies : SettingReplies)
    (state : LevelMonitors) :
    (monitorSpeakerMic speakerReplies micReplies state).speaker =
      if state.checkCount = maxTimeLevelDetection then
        state.speaker.restart state.clientThread state.deviceChangeInProgress speakerReplies
      else state.speaker := by
  by_cases due : state.checkCount = maxTimeLevelDetection
  · simp [monitorSpeakerMic, hearLevels, notifyFaulty, due]
  · simp [monitorSpeakerMic, hearLevels, due]

theorem microphone_monitorSpeakerMic (speakerReplies micReplies : SettingReplies)
    (state : LevelMonitors) :
    (monitorSpeakerMic speakerReplies micReplies state).microphone =
      if state.checkCount = maxTimeLevelDetection then
        state.microphone.restart state.clientThread state.deviceChangeInProgress micReplies
      else state.microphone := by
  by_cases due : state.checkCount = maxTimeLevelDetection
  · simp [monitorSpeakerMic, hearLevels, notifyFaulty, due]
  · simp [monitorSpeakerMic, hearLevels, due]

theorem law_monitorSpeakerMic_iff {state : LevelMonitors} (law : Law state)
    (speakerReplies micReplies : SettingReplies) :
    Law (monitorSpeakerMic speakerReplies micReplies state) ↔
      (state.checkCount = maxTimeLevelDetection →
        (Starts state.clientThread state.speaker → state.speaker.pending = 0) ∧
        (Starts state.clientThread state.microphone → state.microphone.pending = 0)) := by
  have sides : Law (monitorSpeakerMic speakerReplies micReplies state) ↔
      (monitorSpeakerMic speakerReplies micReplies state).speaker.Law ∧
      (monitorSpeakerMic speakerReplies micReplies state).microphone.Law :=
    ⟨fun both => ⟨both.speaker, both.microphone⟩, fun both => ⟨both.1, both.2⟩⟩
  rw [sides, speaker_monitorSpeakerMic, microphone_monitorSpeakerMic]
  by_cases due : state.checkCount = maxTimeLevelDetection
  · rw [if_pos due, if_pos due, law_restart_iff law.speaker, law_restart_iff law.microphone]
    exact ⟨fun both _ => both, fun both => both due⟩
  · rw [if_neg due, if_neg due]
    exact ⟨fun _ reached => absurd reached due, fun _ => ⟨law.speaker, law.microphone⟩⟩

theorem law_pollSpeaker_iff {state : LevelMonitors} (law : Law state) :
    Law state.pollSpeaker ↔
      (Starts state.clientThread state.speaker → state.speaker.pending = 0) := by
  rw [← law_keepPolling_iff law.speaker]
  exact ⟨Law.speaker, fun speaker => ⟨speaker, law.microphone⟩⟩

theorem law_pollMicrophone_iff {state : LevelMonitors} (law : Law state) :
    Law state.pollMicrophone ↔
      (Starts state.clientThread state.microphone → state.microphone.pending = 0) := by
  rw [← law_keepPolling_iff law.microphone]
  exact ⟨Law.microphone, fun microphone => ⟨law.speaker, microphone⟩⟩

/-- With the notifications of Core Audio a query reads the stats and starts nothing. -/
theorem law_query_iff {Answer : Type} {state : LevelMonitors}
    {unpolled polled : Answer × LevelMonitors} {condition : Prop} (unpolledLaw : Law unpolled.2)
    (polledLaw : Law polled.2 ↔ condition) :
    Law (if state.coreAudioDevNotify then unpolled else polled).2 ↔
      ((!state.coreAudioDevNotify) = true → condition) := by
  cases state.coreAudioDevNotify with
  | true => simpa using unpolledLaw
  | false => simpa using polledLaw

theorem law_perform_iff {state : LevelMonitors} (law : Law state)
    (operation : MonitorOperation) (enabled : state.enabled operation = true) :
    Law (state.perform operation) ↔ StartsAfterLast state operation := by
  have idle {next : LevelMonitors} (nextLaw : Law next)
      (speaker : state.queriesSpeaker operation = false)
      (microphone : state.queriesMicrophone operation = false) :
      Law next ↔ StartsAfterLast state operation := by
    simp [StartsAfterLast, nextLaw, speaker, microphone]
  cases operation with
  | postGetSpeakerVolLvl =>
      rw [perform, postGetSpeakerVolLvl, law_pollSpeaker_iff law]
      simp [StartsAfterLast, enabled, queriesSpeaker, queriesMicrophone]
  | postGetMicVolLvl =>
      rw [perform, postGetMicVolLvl, law_pollMicrophone_iff law]
      simp [StartsAfterLast, enabled, queriesSpeaker, queriesMicrophone]
  | postGetSpeakerMute =>
      refine (law_query_iff ⟨law.speaker.congr rfl rfl, law.microphone⟩
        (law_pollSpeaker_iff law)).trans ?_
      simp [StartsAfterLast, enabled, queriesSpeaker, queriesMicrophone]
  | postGetMicrophoneMute =>
      refine (law_query_iff ⟨law.speaker, law.microphone.congr rfl rfl⟩
        (law_pollMicrophone_iff law)).trans ?_
      simp [StartsAfterLast, enabled, queriesSpeaker, queriesMicrophone]
  | postGetSpeakerVol =>
      refine (law_query_iff ⟨law.speaker.congr rfl rfl, law.microphone⟩
        (law_pollSpeaker_iff law)).trans ?_
      simp [StartsAfterLast, enabled, queriesSpeaker, queriesMicrophone]
  | postGetMicrophoneVol =>
      refine (law_query_iff ⟨law.speaker, law.microphone.congr rfl rfl⟩
        (law_pollMicrophone_iff law)).trans ?_
      simp [StartsAfterLast, enabled, queriesSpeaker, queriesMicrophone]
  | postStopSpeakerVolume => exact idle ⟨law.speaker.stop, law.microphone⟩ rfl rfl
  | postStopMicVolume => exact idle ⟨law.speaker, law.microphone.stop⟩ rfl rfl
  | resetSavedSpeakerState => exact idle ⟨law.speaker.resetSavedState, law.microphone⟩ rfl rfl
  | resetSavedMicrophoneState =>
      exact idle ⟨law.speaker, law.microphone.resetSavedState⟩ rfl rfl
  | volumeChange stats => exact idle ⟨law.speaker, law.microphone⟩ rfl rfl
  | platformPreDeviceOperation => exact idle ⟨law_clear _, law_clear _⟩ rfl rfl
  | platformPostDeviceOperation speakerReplies micReplies =>
      have restarted : Law
          { state with
            faultyMicrophone := true
            faultySpeaker := true
            checkCount := 0
            deviceChangeInProgress := false } := ⟨law.speaker, law.microphone⟩
      refine idle ((law_monitorSpeakerMic_iff restarted speakerReplies micReplies).mpr ?_) rfl rfl
      intro due
      cases due
  | startSpkMonitor replies =>
      exact idle ⟨law.speaker.handleMessage _ replies, law.microphone⟩ rfl rfl
  | startMicMonitor replies =>
      exact idle ⟨law.speaker, law.microphone.handleMessage _ replies⟩ rfl rfl
  | monitorLevel speakerReplies micReplies =>
      have taken : Law { state with levelMessages := state.levelMessages - 1 } :=
        ⟨law.speaker, law.microphone⟩
      rw [perform, law_monitorSpeakerMic_iff taken]
      simp only [StartsAfterLast, enabled, queriesSpeaker, queriesMicrophone, decide_eq_true_eq,
        true_implies]
      exact forall_and

/-- At most one message of each monitor is pending, and one while its timer runs, exactly
in the runs that start a monitor only after its last message was handled. -/
theorem monitorMessages_iff (clientThread coreAudioDevNotify : Bool)
    (volStats : CoreAudio.VolumeStats)
    (deviceChangeInProgress faultyMicrophone faultySpeaker : Bool) (checkCount : Nat)
    (operations : List MonitorOperation) :
    let start := initial clientThread coreAudioDevNotify volStats deviceChangeInProgress
      faultyMicrophone faultySpeaker checkCount
    Throughout step Law start operations ↔ Guarded step StartsAfterLast start operations := by
  refine throughout_iff_guarded Law (fun _ law => law) ?_ ?_ ⟨law_initial, law_initial⟩
  · intro state operation next law startsAfterLast taken
    simp only [step, Option.ite_none_right_eq_some, Option.some.injEq] at taken
    obtain ⟨enabled, rfl⟩ := taken
    exact (law_perform_iff law operation enabled).mpr startsAfterLast
  · intro state operation law outside
    have enabled : state.enabled operation = true := by
      by_contra disabled
      exact outside fun enabled => absurd enabled disabled
    refine ⟨state.perform operation, by rw [step, if_pos enabled], ?_⟩
    exact mt (law_perform_iff law operation enabled).mp outside

/-- The UI asks for the speaker's level, stops and asks again before the first message
is handled. -/
theorem monitorMessages_twice :
    ¬ ∀ (clientThread coreAudioDevNotify : Bool) (volStats : CoreAudio.VolumeStats)
      (deviceChangeInProgress faultyMicrophone faultySpeaker : Bool) (checkCount : Nat)
      (operations : List MonitorOperation),
      Throughout step Law
        (initial clientThread coreAudioDevNotify volStats deviceChangeInProgress
          faultyMicrophone faultySpeaker checkCount) operations := by
  intro law
  have held := (law true false ⟨⟨0, false⟩, ⟨0, false⟩, ⟨0, false⟩⟩ false false false 0
    [.postGetSpeakerVolLvl, .postStopSpeakerVolume, .postGetSpeakerVolLvl]).reached rfl
  exact absurd held.speaker.single (by decide)

end LevelMonitors

end FiberApp.Audio
