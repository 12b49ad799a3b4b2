import FiberApp.CoreAudio.ListenerPointersProperties

/-! The listener with its interface pointers simulates the one that only has flags for
them: the same attempts succeed, and the flags say what is registered. -/

set_option autoImplicit false

namespace FiberApp.CoreAudio

open Foundation RegistrationEvent

namespace VolumeNotification

/-- The flags say which pointers are set. -/
structure Represents (notification : VolumeNotification) (flags : VolumeEndpoint) : Prop where
  endpoint : notification.endpoint.isSome = flags.endpoint.isSome
  endPointVolume : notification.endPointVolume.isSome = flags.endPointVolume
  audioDevListener : notification.audioDevListener = flags.audioDevListener

theorem represents_terminate (notification : VolumeNotification) (flags : VolumeEndpoint) :
    notification.terminate.1.Represents flags.terminate :=
  ⟨rfl, rfl, rfl⟩

theorem Represents.getAudioEndPoint {notification : VolumeNotification} {flags : VolumeEndpoint}
    (represents : notification.Represents flags) (calls : EndpointCalls) (endpoint : ObjectId)
    (guid : String) :
    (notification.getAudioEndPoint calls endpoint guid).2 =
        (flags.getAudioEndPoint calls guid).2 ∧
      (notification.getAudioEndPoint calls endpoint guid).1.Represents
        (flags.getAudioEndPoint calls guid).1 := by
  have kept : notification.Represents { flags with guid := guid } :=
    ⟨represents.endpoint, represents.endPointVolume, represents.audioDevListener⟩
  unfold VolumeNotification.getAudioEndPoint VolumeEndpoint.getAudioEndPoint
  by_cases default : guid = ""
  · rw [if_pos default, if_pos default]
    cases calls.getDefaultAudioEndpoint with
    | none => exact ⟨rfl, kept⟩
    | some deviceGUID =>
        cases calls.getId with
        | false => exact ⟨rfl, rfl, kept.endPointVolume, kept.audioDevListener⟩
        | true => exact ⟨rfl, rfl, kept.endPointVolume, kept.audioDevListener⟩
  · rw [if_neg default, if_neg default]
    cases calls.getDevice with
    | false => exact ⟨rfl, kept⟩
    | true => exact ⟨rfl, rfl, kept.endPointVolume, kept.audioDevListener⟩

theorem Represents.attachAudioEndpoint {notification : VolumeNotification}
    {flags : VolumeEndpoint} (represents : notification.Represents flags)
    (null : notification.endPointVolume = none) (own : NotificationKind) (calls : EndpointCalls)
    (endPointVolume : ObjectId) :
    let after := notification.attachAudioEndpoint own calls endPointVolume
    let changed := flags.attachAudioEndpoint calls
    after.2.2 = changed.2 ∧ after.1.Represents changed.1 ∧
      (changed.1.controlChange = true ↔
        flags.controlChange = true ∨ RegistrationLog.of own after.2.1 ≠ []) := by
  have nothing : RegistrationLog.of own [] = [] := rfl
  unfold VolumeNotification.attachAudioEndpoint VolumeEndpoint.attachAudioEndpoint
  have same := represents.endpoint
  cases held : flags.endpoint with
  | none =>
      rw [held, Option.isSome_none, Option.isSome_eq_false_iff, Option.isNone_iff_eq_none] at same
      rw [if_pos same, if_pos rfl]
      exact ⟨rfl, represents, by simp [nothing]⟩
  | some target =>
      rw [held] at same
      obtain ⟨endpoint, found⟩ := Option.isSome_iff_exists.mp same
      simp only [found, reduceCtorEq, if_false]
      cases calls.activateVolume with
      | false => exact ⟨rfl, represents, by simp [nothing]⟩
      | true =>
          cases calls.registerControlChange with
          | false =>
              refine ⟨rfl, ⟨rfl, rfl, represents.audioDevListener⟩, ?_⟩
              simp [null, dropPointer, nothing]
          | true =>
              refine ⟨rfl, ⟨rfl, rfl, represents.audioDevListener⟩, ?_⟩
              simp [null, dropPointer, RegistrationLog.of_singleton]

/-- Looking the endpoint up and attaching to its volume, as both kinds of notification do. -/
theorem Represents.activated {notification : VolumeNotification} {flags : VolumeEndpoint}
    (represents : notification.Represents flags) (null : notification.endPointVolume = none)
    (own : NotificationKind) (calls : EndpointCalls)
    (enumerator endpoint endPointVolume : ObjectId) (guid : String) :
    let located := VolumeNotification.getAudioEndPoint calls endpoint guid
      { notification with enumerator := some enumerator }
    let found := flags.getAudioEndPoint calls guid
    let after := located.1.attachAudioEndpoint own calls endPointVolume
    let changed := found.1.attachAudioEndpoint calls
    (located.2 = found.2 ∧ located.1.Represents found.1 ∧
        found.1.controlChange = flags.controlChange) ∧
      after.2.2 = changed.2 ∧ after.1.Represents changed.1 ∧
        (changed.1.controlChange = true ↔
          flags.controlChange = true ∨ RegistrationLog.of own after.2.1 ≠ []) ∧
        ∀ kind ≠ own, RegistrationLog.of kind after.2.1 = [] := by
  intro located found after changed
  have opened : Represents { notification with enumerator := some enumerator } flags :=
    ⟨represents.endpoint, represents.endPointVolume, represents.audioDevListener⟩
  obtain ⟨sameFound, kept⟩ := opened.getAudioEndPoint calls endpoint guid
  have cleared : located.1.endPointVolume = none :=
    (getAudioEndPoint_volume calls endpoint guid
      { notification with enumerator := some enumerator }).trans null
  have registered : found.1.controlChange = flags.controlChange :=
    (VolumeEndpoint.getAudioEndPoint_frame calls guid flags).2
  obtain ⟨sameAttached, attached, events⟩ :=
    kept.attachAudioEndpoint cleared own calls endPointVolume
  have tries := attachAudioEndpoint_tries own calls endPointVolume cleared
  exact ⟨⟨sameFound, kept, registered⟩, sameAttached, attached, registered ▸ events, tries.only⟩

theorem Represents.attachDevListener {notification : VolumeNotification}
    {listener : AudioDeviceListener} (represents : notification.Represents listener.mic)
    (null : notification.endPointVolume = none) (calls : AttachCalls) (objects : AttachObjects)
    (micGUID : String) :
    let after := notification.attachDevListener calls objects micGUID
    let changed := listener.attachMic calls micGUID
    after.2.2 = changed.2 ∧ after.1.Represents changed.1.mic ∧
      (changed.1.mic.controlChange = true ↔
        listener.mic.controlChange = true ∨ RegistrationLog.of .micVolume after.2.1 ≠ []) := by
  obtain ⟨⟨sameFound, located, registered⟩, sameAttached, after, events, -⟩ :=
    represents.activated null .micVolume calls.mic objects.enumerator objects.micEndpoint
      objects.micEndPointVolume micGUID
  simp only [VolumeNotification.attachDevListener, AudioDeviceListener.attachMic]
  rw [sameFound]
  cases (listener.mic.getAudioEndPoint calls.mic micGUID).2 with
  | false => exact ⟨rfl, located, by simp [registered, RegistrationLog.of_nil]⟩
  | true =>
      simp only [Bool.not_true, Bool.false_eq_true, if_false]
      rw [sameAttached]
      cases (VolumeEndpoint.attachAudioEndpoint calls.mic
        (listener.mic.getAudioEndPoint calls.mic micGUID).1).2 with
      | false => exact ⟨rfl, after, events⟩
      | true => exact ⟨rfl, ⟨after.endpoint, after.endPointVolume, rfl⟩, events⟩

end VolumeNotification

namespace SpeakerNotification

structure Represents (notification : SpeakerNotification) (flags : VolumeEndpoint)
    (session : AudioSession) : Prop where
  volume : notification.volume.Represents flags
  sessionManager : notification.audioSessionManager.isSome = session.sessionManager
  sessionControl : notification.audioSessionControl.isSome = session.sessionControl

theorem represents_terminate (notification : SpeakerNotification) (flags : VolumeEndpoint)
    (session : AudioSession) :
    notification.terminate.1.Represents flags.terminate session.terminate :=
  ⟨⟨rfl, rfl, rfl⟩, rfl, rfl⟩

theorem Represents.registerForAudioSession {notification : SpeakerNotification}
    {flags : VolumeEndpoint} {session : AudioSession}
    (represents : notification.Represents flags session)
    (null : notification.audioSessionControl = none) (calls : SessionCalls)
    (objects : AttachObjects) :
    let after := notification.registerForAudioSession calls objects
    let changed := session.registerForAudioSession calls flags.endpoint
    after.2.2 = changed.2 ∧ after.1.Represents flags changed.1 ∧
      (changed.1.sessionNotification = true ↔
        session.sessionNotification = true ∨
          RegistrationLog.of .speakerSession after.2.1 ≠ []) := by
  obtain ⟨volume, manager, control⟩ := represents
  have nothing : RegistrationLog.of .speakerSession [] = [] := rfl
  unfold SpeakerNotification.registerForAudioSession AudioSession.registerForAudioSession
  have same := volume.endpoint
  cases held : flags.endpoint with
  | none =>
      rw [held, Option.isSome_none, Option.isSome_eq_false_iff, Option.isNone_iff_eq_none] at same
      rw [if_pos same, if_pos rfl]
      exact ⟨rfl, ⟨volume, manager, control⟩, by simp [nothing]⟩
  | some target =>
      rw [held] at same
      obtain ⟨endpoint, found⟩ := Option.isSome_iff_exists.mp same
      simp only [found, reduceCtorEq, if_false]
      cases calls.activateSessionManager with
      | false => exact ⟨rfl, ⟨volume, manager, control⟩, by simp [nothing]⟩
      | true =>
          cases calls.getAudioSessionControl with
          | false => exact ⟨rfl, ⟨volume, rfl, control⟩, by simp [nothing]⟩
          | true =>
              cases calls.queryInterface with
              | false => exact ⟨rfl, ⟨volume, rfl, control⟩, by simp [nothing]⟩
              | true =>
                  cases calls.registerAudioSession with
                  | false =>
                      refine ⟨rfl, ⟨volume, rfl, rfl⟩, ?_⟩
                      simp [null, dropPointer, nothing]
                  | true =>
                      refine ⟨rfl, ⟨volume, rfl, rfl⟩, ?_⟩
                      simp [null, dropPointer, RegistrationLog.of_singleton]

/-- The session is registered behind the volume, which has logged already. -/
theorem Represents.registerBehindVolume {notification : SpeakerNotification}
    {flags : VolumeEndpoint} {session : AudioSession}
    (represents : notification.Represents flags session)
    (null : notification.audioSessionControl = none) (calls : SessionCalls)
    (objects : AttachObjects) {volumeLog : RegistrationLog}
    (only : RegistrationLog.of .speakerSession volumeLog = []) :
    let opened := notification.registerForAudioSession calls objects
    let changed := session.registerForAudioSession calls flags.endpoint
    opened.2.2 = changed.2 ∧ opened.1.Represents flags changed.1 ∧
      RegistrationLog.of .speakerVolume (volumeLog ++ opened.2.1) =
        RegistrationLog.of .speakerVolume volumeLog ∧
      (changed.1.sessionNotification = true ↔ session.sessionNotification = true ∨
        RegistrationLog.of .speakerSession (volumeLog ++ opened.2.1) ≠ []) := by
  obtain ⟨sameRegistered, after, events⟩ := represents.registerForAudioSession null calls objects
  obtain ⟨tries, -⟩ := registerForAudioSession_tries calls objects null
  refine ⟨sameRegistered, after, ?_, ?_⟩
  · rw [RegistrationLog.of_append, tries.only .speakerVolume (by decide), List.append_nil]
  · rw [RegistrationLog.of_append, only, List.nil_append]
    exact events

theorem Represents.attachDevListener {notification : SpeakerNotification}
    {listener : AudioDeviceListener}
    (represents : notification.Represents listener.speaker listener.session)
    (nullVolume : notification.volume.endPointVolume = none)
    (nullSession : notification.audioSessionControl = none) (calls : AttachCalls)
    (objects : AttachObjects) (speakerGUID : String) :
    let after := notification.attachDevListener calls objects speakerGUID
    let changed := listener.attachSpeaker calls speakerGUID
    after.2.2 = changed.2 ∧ after.1.Represents changed.1.speaker changed.1.session ∧
      (changed.1.speaker.controlChange = true ↔ listener.speaker.controlChange = true ∨
        RegistrationLog.of .speakerVolume after.2.1 ≠ []) ∧
      (changed.1.session.sessionNotification = true ↔
        listener.session.sessionNotification = true ∨
          RegistrationLog.of .speakerSession after.2.1 ≠ []) := by
  obtain ⟨volume, manager, control⟩ := represents
  obtain ⟨⟨sameFound, located, registered⟩, sameAttached, attached, volumeEvents, others⟩ :=
    volume.activated nullVolume .speakerVolume calls.speaker objects.enumerator
      objects.speakerEndpoint objects.speakerEndPointVolume speakerGUID
  have only := others .speakerSession (by decide)
  simp only [SpeakerNotification.attachDevListener, AudioDeviceListener.attachSpeaker]
  rw [sameFound]
  cases (listener.speaker.getAudioEndPoint calls.speaker speakerGUID).2 with
  | false =>
      exact ⟨rfl, ⟨located, manager, control⟩, by simp [registered, RegistrationLog.of_nil],
        by simp [RegistrationLog.of_nil]⟩
  | true =>
      simp only [Bool.not_true, Bool.false_eq_true, if_false]
      rw [sameAttached]
      cases (VolumeEndpoint.attachAudioEndpoint calls.speaker
        (listener.speaker.getAudioEndPoint calls.speaker speakerGUID).1).2 with
      | false =>
          exact ⟨rfl, ⟨attached, manager, control⟩, volumeEvents, by simp [only]⟩
      | true =>
          simp only [Bool.not_true, Bool.false_eq_true, if_false]
          generalize VolumeNotification.attachAudioEndpoint .speakerVolume calls.speaker
            objects.speakerEndPointVolume _ = activated at attached volumeEvents only ⊢
          generalize VolumeEndpoint.attachAudioEndpoint calls.speaker _ = flags
            at attached volumeEvents ⊢
          obtain ⟨volume, volumeLog, answer⟩ := activated
          have held : SpeakerNotification.Represents { notification with volume := volume }
              flags.1 listener.session := ⟨attached, manager, control⟩
          obtain ⟨sameRegistered, after, sameVolume, sessionEvents⟩ :=
            held.registerBehindVolume nullSession calls.session objects only
          simp only
          generalize SpeakerNotification.registerForAudioSession calls.session objects _ = opened
            at sameRegistered after sameVolume sessionEvents ⊢
          generalize AudioSession.registerForAudioSession calls.session _ listener.session =
            session at sameRegistered after sessionEvents ⊢
          simp only [← sameVolume] at volumeEvents
          rw [sameRegistered]
          cases session.2 with
          | false => exact ⟨rfl, after, volumeEvents, sessionEvents⟩
          | true =>
              refine ⟨rfl, ⟨⟨?_, ?_, rfl⟩, after.sessionManager, after.sessionControl⟩,
                volumeEvents, sessionEvents⟩
              · exact after.volume.endpoint
              · exact after.volume.endPointVolume

end SpeakerNotification

namespace AudioDeviceListener

/-- The flag for the registration of one kind. -/
def registered (listener : AudioDeviceListener) : NotificationKind → Bool
  | .endPoint => listener.endPointNotification
  | .speakerVolume => listener.speaker.controlChange
  | .speakerSession => listener.session.sessionNotification
  | .micVolume => listener.mic.controlChange

theorem Silent.registered {listener : AudioDeviceListener} (silent : listener.Silent)
    (kind : NotificationKind) : listener.registered kind = false := by
  cases kind with
  | endPoint => exact silent.endPoint
  | speakerVolume => exact silent.speaker
  | speakerSession => exact silent.session
  | micVolume => exact silent.mic

end AudioDeviceListener

namespace ListenerPointers

/-- All notifications are allocated, the flags say which of their pointers are set, and
which kinds the system has registered. -/
structure Represents (pointers : ListenerPointers) (listener : AudioDeviceListener) : Prop where
  endPoint : pointers.endPoint ≠ none
  speaker : ∃ notification, pointers.speaker = some notification ∧
    notification.Represents listener.speaker listener.session
  mic : ∃ notification, pointers.mic = some notification ∧
    notification.Represents listener.mic
  errorState : pointers.errorState = listener.errorState
  live : ∀ kind, pointers.live kind ≠ [] ↔ listener.registered kind = true

theorem represents_constructed : (constructed true true true).Represents .initial where
  endPoint := Option.some_ne_none _
  speaker := ⟨_, rfl, ⟨rfl, rfl, rfl⟩, rfl, rfl⟩
  mic := ⟨_, rfl, rfl, rfl, rfl⟩
  errorState := rfl
  live kind := by cases kind <;> decide

theorem Represents.terminate {pointers : ListenerPointers} {listener : AudioDeviceListener}
    (represents : pointers.Represents listener) (balanced : pointers.Balanced)
    (tracked : listener.Tracked) : pointers.terminate.Represents listener.terminate := by
  obtain ⟨endPoint, ⟨speaker, heldSpeaker, -⟩, ⟨mic, heldMic, -⟩, -, -⟩ := represents
  refine ⟨?_, ⟨speaker.terminate.1, ?_, speaker.represents_terminate _ _⟩,
    ⟨mic.terminate.1, ?_, mic.represents_terminate _⟩, rfl, fun kind => ?_⟩
  · exact fun none => endPoint (Option.map_eq_none_iff.mp none)
  · rw [ListenerPointers.terminate, heldSpeaker, Option.map_some]
  · rw [ListenerPointers.terminate, heldMic, Option.map_some]
  · rw [balanced.terminate.live_cleared (terminate_pointer _ kind),
      tracked.terminate.registered kind]
    simp

section Stages

variable {pointers : ListenerPointers} {listener : AudioDeviceListener}

/-- What the tries of a stage add to the registrations the system has. -/
theorem Attaches.live_made {own : List NotificationKind} {before : ListenerPointers}
    {after : ListenerPointers × Bool} (attaches : Attaches own before after)
    {log : RegistrationLog} (logged : after.1.log = before.log ++ log) {kind : NotificationKind}
    (member : kind ∈ own) :
    after.1.live kind ≠ [] ↔ before.live kind ≠ [] ∨ RegistrationLog.of kind log ≠ [] := by
  obtain ⟨new, events, attempt, -⟩ := attaches.attempt kind member
  have same : RegistrationLog.of kind log = new :=
    List.append_cancel_left ((events_append logged kind).symm.trans events)
  rw [same, live, live, events]
  generalize after.1.pointer kind = pointer at attempt
  cases attempt with
  | failed => simp
  | held object => simp
  | registered object => simp [live_concat, RegistrationEvent.apply]

/-- A stage keeps the flags true to the registrations if its own flags are set exactly by
the registrations it makes. -/
theorem Attaches.live_iff {own : List NotificationKind} {before : ListenerPointers}
    {after : ListenerPointers × Bool} (attaches : Attaches own before after)
    {log : RegistrationLog} (logged : after.1.log = before.log ++ log)
    {changed : AudioDeviceListener}
    (live : ∀ kind, before.live kind ≠ [] ↔ listener.registered kind = true)
    (others : ∀ kind ∉ own, changed.registered kind = listener.registered kind)
    (made : ∀ kind ∈ own, changed.registered kind = true ↔
      listener.registered kind = true ∨ RegistrationLog.of kind log ≠ [])
    (kind : NotificationKind) : after.1.live kind ≠ [] ↔ changed.registered kind = true := by
  by_cases member : kind ∈ own
  · rw [attaches.live_made logged member, made kind member, live kind]
  · have kept : after.1.live kind = before.live kind := by
      rw [ListenerPointers.live, (attaches.kept kind member).2, ListenerPointers.live]
    rw [kept, others kind member]
    exact live kind

theorem Represents.attachEndPoint (represents : pointers.Represents listener)
    (null : pointers.pointer .endPoint = none) (calls : AttachCalls) (objects : AttachObjects) :
    (pointers.attachEndPoint calls objects).2 = calls.registerEndpointNotification ∧
      (pointers.attachEndPoint calls objects).1.Represents (if calls.registerEndpointNotification
        then { listener with endPointNotification := true } else listener) := by
  have attaches := attachEndPoint_attaches calls objects null
  obtain ⟨endPoint, speaker, mic, errorState, live⟩ := represents
  obtain ⟨notification, held⟩ := Option.ne_none_iff_exists'.mp endPoint
  have cleared : notification.enumerator = none := by simpa [pointer, held] using null
  simp only [ListenerPointers.attachEndPoint, held, EndPointNotification.attachDevListener,
    cleared, dropPointer, Option.toList_none, List.map_nil, List.nil_append] at attaches ⊢
  generalize calls.registerEndpointNotification = registers at attaches ⊢
  cases registers with
  | false =>
      refine ⟨rfl, Option.some_ne_none _, speaker, mic, errorState, ?_⟩
      refine attaches.live_iff rfl live (fun kind _ => rfl) fun kind _ => ?_
      simp [RegistrationLog.of_nil]
  | true =>
      refine ⟨rfl, Option.some_ne_none _, speaker, mic, errorState, ?_⟩
      refine attaches.live_iff rfl live (fun kind other => ?_) fun kind member => ?_
      · cases kind with
        | endPoint => exact absurd (List.mem_singleton_self _) other
        | speakerVolume => rfl
        | speakerSession => rfl
        | micVolume => rfl
      · obtain rfl := List.mem_singleton.mp member
        simp [RegistrationLog.of_singleton, AudioDeviceListener.registered]

theorem Represents.attachMic (represents : pointers.Represents listener)
    (null : pointers.pointer .micVolume = none) (calls : AttachCalls) (objects : AttachObjects)
    (micGUID : String) :
    (pointers.attachMic calls objects micGUID).2 = (listener.attachMic calls micGUID).2 ∧
      (pointers.attachMic calls objects micGUID).1.Represents
        (listener.attachMic calls micGUID).1 := by
  have attaches := attachMic_attaches calls objects micGUID null
  obtain ⟨endPoint, speaker, ⟨mic, held, same⟩, errorState, live⟩ := represents
  obtain ⟨speakerKept, sessionKept, endPointKept, errorKept, -⟩ :=
    AudioDeviceListener.attachMic_frame calls micGUID listener
  have cleared : mic.endPointVolume = none := by simpa [pointer, held] using null
  obtain ⟨attached, after, events⟩ := same.attachDevListener cleared calls objects micGUID
  simp only [ListenerPointers.attachMic, held] at attaches ⊢
  refine ⟨attached, endPoint, ?_, ⟨_, rfl, after⟩, errorState.trans errorKept.symm, ?_⟩
  · rw [speakerKept, sessionKept]
    exact speaker
  refine attaches.live_iff rfl live (fun kind other => ?_) fun kind member => ?_
  · cases kind with
    | micVolume => exact absurd (List.mem_singleton_self _) other
    | endPoint => exact endPointKept
    | speakerVolume => exact congrArg VolumeEndpoint.controlChange speakerKept
    | speakerSession => exact congrArg AudioSession.sessionNotification sessionKept
  · obtain rfl := List.mem_singleton.mp member
    exact events

theorem Represents.attachSpeaker (represents : pointers.Represents listener)
    (nullVolume : pointers.pointer .speakerVolume = none)
    (nullSession : pointers.pointer .speakerSession = none) (calls : AttachCalls)
    (objects : AttachObjects) (speakerGUID : String) :
    (pointers.attachSpeaker calls objects speakerGUID).2 =
        (listener.attachSpeaker calls speakerGUID).2 ∧
      (pointers.attachSpeaker calls objects speakerGUID).1.Represents
        (listener.attachSpeaker calls speakerGUID).1 := by
  have attaches := attachSpeaker_attaches calls objects speakerGUID nullVolume nullSession
  obtain ⟨endPoint, ⟨speaker, held, same⟩, mic, errorState, live⟩ := represents
  obtain ⟨micKept, endPointKept, errorKept, -⟩ :=
    AudioDeviceListener.attachSpeaker_frame calls speakerGUID listener
  have clearedVolume : speaker.volume.endPointVolume = none := by
    simpa [pointer, held] using nullVolume
  have clearedSession : speaker.audioSessionControl = none := by
    simpa [pointer, held] using nullSession
  obtain ⟨attached, after, volumeEvents, sessionEvents⟩ :=
    same.attachDevListener clearedVolume clearedSession calls objects speakerGUID
  simp only [ListenerPointers.attachSpeaker, held] at attaches ⊢
  refine ⟨attached, endPoint, ⟨_, rfl, after⟩, ?_, errorState.trans errorKept.symm, ?_⟩
  · rw [micKept]
    exact mic
  refine attaches.live_iff rfl live (fun kind other => ?_) fun kind member => ?_
  · cases kind with
    | micVolume => exact congrArg VolumeEndpoint.controlChange micKept
    | endPoint => exact endPointKept
    | speakerVolume => exact absurd (by decide) other
    | speakerSession => exact absurd (by decide) other
  · cases kind with
    | micVolume => exact absurd member (by decide)
    | endPoint => exact absurd member (by decide)
    | speakerVolume => exact volumeEvents
    | speakerSession => exact sessionEvents

end Stages

/-- An attach of the pointers succeeds exactly when the one of the flags does, and the
flags still represent the pointers after it. -/
theorem Represents.attachWatcher {pointers : ListenerPointers} {listener : AudioDeviceListener}
    (represents : pointers.Represents listener) (balanced : pointers.Balanced)
    (tracked : listener.Tracked) (calls : AttachCalls) (objects : AttachObjects)
    (speakerGUID micGUID : String) :
    (pointers.attachWatcher calls objects speakerGUID micGUID).2 =
        (listener.attachWatcher calls speakerGUID micGUID).2 ∧
      (pointers.attachWatcher calls objects speakerGUID micGUID).1.Represents
        (listener.attachWatcher calls speakerGUID micGUID).1 := by
  have terminated := represents.terminate balanced tracked
  obtain ⟨clearedSpeaker, clearedMic⟩ := @stages_cleared { pointers.terminate with
    errorState := true
    enumerator := some objects.enumerator } pointers.terminate_pointer calls objects speakerGUID
  unfold ListenerPointers.attachWatcher AudioDeviceListener.attachWatcher
  cases calls.coCreateInstance with
  | false => exact ⟨rfl, terminated.endPoint, terminated.speaker, terminated.mic, rfl,
      terminated.live⟩
  | true =>
      have opened : Represents { pointers.terminate with
          errorState := true, enumerator := some objects.enumerator }
          { listener.terminate with errorState := true } :=
        ⟨terminated.endPoint, terminated.speaker, terminated.mic, rfl, terminated.live⟩
      obtain ⟨sameEndPoint, first⟩ :=
        opened.attachEndPoint (pointers.terminate_pointer .endPoint) calls objects
      simp only [Bool.not_true, Bool.false_eq_true, if_false]
      generalize ListenerPointers.attachEndPoint calls objects _ = endPoint
        at sameEndPoint first clearedSpeaker clearedMic ⊢
      obtain ⟨afterEndPoint, attached⟩ := endPoint
      obtain rfl : attached = calls.registerEndpointNotification := sameEndPoint
      cases registers : calls.registerEndpointNotification with
      | false =>
          rw [registers] at first
          exact ⟨rfl, first⟩
      | true =>
          rw [registers] at first
          simp only [Bool.not_true, Bool.false_eq_true, if_false]
          obtain ⟨sameSpeaker, second⟩ := first.attachSpeaker
            (clearedSpeaker .speakerVolume (by decide))
            (clearedSpeaker .speakerSession (by decide)) calls objects speakerGUID
          simp only [if_true] at first sameSpeaker second ⊢
          generalize ListenerPointers.attachSpeaker calls objects speakerGUID afterEndPoint =
            speaker at sameSpeaker second clearedMic ⊢
          generalize AudioDeviceListener.attachSpeaker calls speakerGUID _ = changed
            at sameSpeaker second ⊢
          obtain ⟨afterSpeaker, attached⟩ := speaker
          obtain ⟨changed, _⟩ := changed
          obtain rfl : attached = _ := sameSpeaker
          cases attached with
          | false => exact ⟨rfl, second⟩
          | true =>
              obtain ⟨sameMic, third⟩ := second.attachMic clearedMic calls objects micGUID
              simp only [Bool.not_true, Bool.false_eq_true, if_false] at third ⊢
              rw [sameMic]
              cases (changed.attachMic calls micGUID).2 with
              | false => exact ⟨rfl, third⟩
              | true => exact ⟨rfl, third.endPoint, third.speaker, third.mic, rfl, third.live⟩

end ListenerPointers

namespace AudioDeviceListener

def perform (listener : AudioDeviceListener) :
    ListenerPointers.PointerStep → AudioDeviceListener
  | .attachWatcher calls _ speakerGUID micGUID =>
      (listener.attachWatcher calls speakerGUID micGUID).1
  | .terminate => listener.terminate

theorem Tracked.perform {listener : AudioDeviceListener} (tracked : listener.Tracked)
    (step : ListenerPointers.PointerStep) : (listener.perform step).Tracked := by
  cases step with
  | attachWatcher calls objects speakerGUID micGUID =>
      exact tracked.attachWatcher calls speakerGUID micGUID
  | terminate => exact tracked.terminate.tracked

end AudioDeviceListener

namespace ListenerPointers

/-- What a run keeps of the two listeners. -/
structure Simulates (pointers : ListenerPointers) (listener : AudioDeviceListener) : Prop where
  represents : pointers.Represents listener
  balanced : pointers.Balanced
  tracked : listener.Tracked

theorem Simulates.perform {pointers : ListenerPointers} {listener : AudioDeviceListener}
    (simulates : pointers.Simulates listener) (step : PointerStep) :
    (pointers.perform step).Simulates (listener.perform step) := by
  obtain ⟨represents, balanced, tracked⟩ := simulates
  refine ⟨?_, balanced.perform step, tracked.perform step⟩
  cases step with
  | attachWatcher calls objects speakerGUID micGUID =>
      exact (represents.attachWatcher balanced tracked calls objects speakerGUID micGUID).2
  | terminate => exact represents.terminate balanced tracked

theorem Simulates.foldl {pointers : ListenerPointers} {listener : AudioDeviceListener}
    (simulates : pointers.Simulates listener) (steps : List PointerStep) :
    (steps.foldl ListenerPointers.perform pointers).Simulates
      (steps.foldl AudioDeviceListener.perform listener) := by
  induction steps generalizing pointers listener with
  | nil => exact simulates
  | cons step rest ih => exact ih (simulates.perform step)

theorem simulates_afterSteps (steps : List PointerStep) :
    (afterSteps true true true steps).Simulates
      (steps.foldl AudioDeviceListener.perform .initial) :=
  Simulates.foldl ⟨represents_constructed, balanced_constructed true true true,
    AudioDeviceListener.initial_tracked⟩ steps

end ListenerPointers

end FiberApp.CoreAudio
