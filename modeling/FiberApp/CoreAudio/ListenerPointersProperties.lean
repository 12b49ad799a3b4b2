import FiberApp.CoreAudio.ListenerPointers
import FiberApp.CoreAudio.ListenerRegistrationProperties

/-! The registrations of the audio listener against the pointers it holds, over all
sequences of attaching and terminating. -/

set_option autoImplicit false

namespace FiberApp.CoreAudio

open Foundation RegistrationEvent

/-- The events of one kind, in order. -/
def RegistrationLog.of (kind : NotificationKind) (log : RegistrationLog) :
    List (RegistrationEvent ObjectId) :=
  (log.filter fun entry => entry.1 = kind).map Prod.snd

theorem RegistrationLog.of_append (kind : NotificationKind) (first second : RegistrationLog) :
    RegistrationLog.of kind (first ++ second) =
      RegistrationLog.of kind first ++ RegistrationLog.of kind second := by
  simp [RegistrationLog.of]

theorem RegistrationLog.of_nil (kind : NotificationKind) : RegistrationLog.of kind [] = [] := rfl

theorem RegistrationLog.of_singleton (kind other : NotificationKind)
    (event : RegistrationEvent ObjectId) :
    RegistrationLog.of kind [(other, event)] = if other = kind then [event] else [] := by
  by_cases same : other = kind <;> simp [RegistrationLog.of, same]

theorem RegistrationLog.of_unregister (kind other : NotificationKind)
    (pointer : Option ObjectId) :
    RegistrationLog.of kind (unregister other pointer) =
      if other = kind then pointer.toList.map .unregistered else [] := by
  cases pointer <;> by_cases same : other = kind <;>
    simp [RegistrationLog.of, unregister, same]

theorem RegistrationLog.of_dropPointer (kind other : NotificationKind)
    (pointer : Option ObjectId) :
    RegistrationLog.of kind (dropPointer other pointer) =
      if other = kind then pointer.toList.map .dropped else [] := by
  cases pointer <;> by_cases same : other = kind <;>
    simp [RegistrationLog.of, dropPointer, same]

/-- A call tries once to register for notifications of one kind, and registers if it
succeeds. -/
structure Tries (own : NotificationKind) (pointer : Option ObjectId) (log : RegistrationLog)
    (attached : Bool) : Prop where
  attempt : Attempt pointer (RegistrationLog.of own log)
  only : ∀ kind ≠ own, RegistrationLog.of kind log = []
  registers : attached = true → RegistrationLog.of own log ≠ []

theorem Tries.weaken {own : NotificationKind} {pointer : Option ObjectId}
    {log : RegistrationLog} {attached : Bool} (tries : Tries own pointer log attached) :
    Tries own pointer log false :=
  ⟨tries.attempt, tries.only, fun failed => Bool.noConfusion failed⟩

theorem tries_failed (own : NotificationKind) : Tries own none [] false :=
  ⟨.failed, fun _ _ => rfl, fun attached => Bool.noConfusion attached⟩

theorem tries_held (own : NotificationKind) (object : ObjectId) :
    Tries own (some object) [] false :=
  ⟨.held object, fun _ _ => rfl, fun attached => Bool.noConfusion attached⟩

theorem tries_registered (own : NotificationKind) (object : ObjectId) (attached : Bool) :
    Tries own (some object) [(own, .registered object)] attached := by
  have made : RegistrationLog.of own [(own, .registered object)] = [.registered object] :=
    (RegistrationLog.of_singleton own own _).trans (if_pos rfl)
  refine ⟨made ▸ .registered object, fun kind other => ?_, fun _ => made ▸ List.cons_ne_nil _ _⟩
  exact (RegistrationLog.of_singleton kind own _).trans (if_neg other.symm)

theorem EndPointNotification.attachDevListener_tries (registers : Bool) (enumerator : ObjectId)
    {notification : EndPointNotification} (null : notification.enumerator = none) :
    let after := notification.attachDevListener registers enumerator
    Tries .endPoint after.1.enumerator after.2.1 after.2.2 := by
  simp only [attachDevListener, null]
  cases registers with
  | false => exact tries_held .endPoint enumerator
  | true => exact tries_registered .endPoint enumerator true

namespace VolumeNotification

theorem getAudioEndPoint_volume (calls : EndpointCalls) (endpoint : ObjectId) (guid : String)
    (notification : VolumeNotification) :
    (notification.getAudioEndPoint calls endpoint guid).1.endPointVolume =
      notification.endPointVolume := by
  unfold getAudioEndPoint
  split
  · split
    · rfl
    · rfl
  · split
    · rfl
    · rfl

theorem attachAudioEndpoint_tries (own : NotificationKind) (calls : EndpointCalls)
    (endPointVolume : ObjectId) {notification : VolumeNotification}
    (null : notification.endPointVolume = none) :
    let after := notification.attachAudioEndpoint own calls endPointVolume
    Tries own after.1.endPointVolume after.2.1 after.2.2 := by
  have failed : Tries own notification.endPointVolume [] false := null ▸ tries_failed own
  unfold attachAudioEndpoint
  split
  · exact failed
  split
  · simp only [null]
    split
    · exact tries_registered own endPointVolume true
    · exact tries_held own endPointVolume
  · exact failed

theorem attachDevListener_tries (calls : AttachCalls) (objects : AttachObjects)
    (micGUID : String) {notification : VolumeNotification}
    (null : notification.endPointVolume = none) :
    let after := notification.attachDevListener calls objects micGUID
    Tries .micVolume after.1.endPointVolume after.2.1 after.2.2 := by
  have kept := (getAudioEndPoint_volume calls.mic objects.micEndpoint micGUID
    { notification with enumerator := some objects.enumerator }).trans null
  simp only [attachDevListener]
  generalize getAudioEndPoint calls.mic objects.micEndpoint micGUID _ = located at kept
  have tries := attachAudioEndpoint_tries .micVolume calls.mic objects.micEndPointVolume kept
  generalize located.1.attachAudioEndpoint .micVolume calls.mic objects.micEndPointVolume =
    activated at tries
  obtain ⟨notification, log, attached⟩ := activated
  obtain ⟨located, found⟩ := located
  cases found with
  | false => exact kept ▸ tries_failed .micVolume
  | true =>
      cases attached with
      | false => exact tries
      | true => exact tries

end VolumeNotification

namespace SpeakerNotification

theorem registerForAudioSession_tries (calls : SessionCalls) (objects : AttachObjects)
    {notification : SpeakerNotification} (null : notification.audioSessionControl = none) :
    let after := notification.registerForAudioSession calls objects
    Tries .speakerSession after.1.audioSessionControl after.2.1 after.2.2 ∧
      after.1.volume = notification.volume := by
  have failed : Tries .speakerSession notification.audioSessionControl [] false :=
    null ▸ tries_failed .speakerSession
  unfold registerForAudioSession
  simp only [null] at failed ⊢
  split
  · exact ⟨null ▸ failed, rfl⟩
  split
  · split
    · split
      · split
        · exact ⟨tries_registered .speakerSession objects.audioSessionControl true, rfl⟩
        · exact ⟨tries_held .speakerSession objects.audioSessionControl, rfl⟩
      · exact ⟨null ▸ failed, rfl⟩
    · exact ⟨null ▸ failed, rfl⟩
  · exact ⟨null ▸ failed, rfl⟩

/-- Both of the speaker's registrations are tried, the second one only behind the first. -/
theorem attachDevListener_tries (calls : AttachCalls) (objects : AttachObjects)
    (speakerGUID : String) {notification : SpeakerNotification}
    (nullVolume : notification.volume.endPointVolume = none)
    (nullSession : notification.audioSessionControl = none) :
    ∃ volumeLog sessionLog,
      let after := notification.attachDevListener calls objects speakerGUID
      after.2.1 = volumeLog ++ sessionLog ∧
        Tries .speakerVolume after.1.volume.endPointVolume volumeLog after.2.2 ∧
        Tries .speakerSession after.1.audioSessionControl sessionLog after.2.2 := by
  have kept := (VolumeNotification.getAudioEndPoint_volume calls.speaker objects.speakerEndpoint
    speakerGUID { notification.volume with enumerator := some objects.enumerator }).trans nullVolume
  simp only [attachDevListener]
  generalize VolumeNotification.getAudioEndPoint calls.speaker objects.speakerEndpoint
    speakerGUID _ = located at kept
  have tries := VolumeNotification.attachAudioEndpoint_tries .speakerVolume calls.speaker
    objects.speakerEndPointVolume kept
  generalize located.1.attachAudioEndpoint .speakerVolume calls.speaker
    objects.speakerEndPointVolume = activated at tries
  obtain ⟨volume, log, attached⟩ := activated
  obtain ⟨located, found⟩ := located
  cases found with
  | false =>
      exact ⟨[], [], rfl, kept ▸ tries_failed .speakerVolume,
        nullSession ▸ tries_failed .speakerSession⟩
  | true =>
      cases attached with
      | false =>
          exact ⟨log, [], (List.append_nil log).symm, tries,
            nullSession ▸ tries_failed .speakerSession⟩
      | true =>
          obtain ⟨session, same⟩ := @registerForAudioSession_tries calls.session objects
            { notification with volume := volume } nullSession
          simp only
          generalize registerForAudioSession calls.session objects
            { notification with volume := volume } = opened at session same
          obtain ⟨notification, sessionLog, registered⟩ := opened
          obtain rfl : notification.volume = volume := same
          cases registered with
          | false => exact ⟨log, sessionLog, rfl, tries.weaken, session⟩
          | true => exact ⟨log, sessionLog, rfl, tries, session⟩

end SpeakerNotification

namespace ListenerPointers

/-- The pointer a notification undoes its registration through. -/
def pointer (listener : ListenerPointers) : NotificationKind → Option ObjectId
  | .endPoint => listener.endPoint.bind EndPointNotification.enumerator
  | .speakerVolume =>
      listener.speaker.bind fun notification => notification.volume.endPointVolume
  | .speakerSession => listener.speaker.bind SpeakerNotification.audioSessionControl
  | .micVolume => listener.mic.bind VolumeNotification.endPointVolume

def events (listener : ListenerPointers) (kind : NotificationKind) :
    List (RegistrationEvent ObjectId) :=
  RegistrationLog.of kind listener.log

/-- The registrations the system has of this kind. -/
def live (listener : ListenerPointers) (kind : NotificationKind) : List ObjectId :=
  RegistrationEvent.live (listener.events kind)

def Balanced (listener : ListenerPointers) : Prop :=
  ∀ kind, Settled (listener.pointer kind) (listener.events kind)

/-- What an attach that succeeds leaves for one kind. -/
def Registered (listener : ListenerPointers) (kind : NotificationKind) : Prop :=
  ∃ object, listener.pointer kind = some object ∧
    (listener.events kind).getLast? = some (.registered object)

theorem balanced_constructed (endPoint speaker mic : Bool) :
    (constructed endPoint speaker mic).Balanced :=
  fun _ => settled_nil _

theorem of_terminate_endPoint (kind : NotificationKind)
    (endPoint : Option EndPointNotification) :
    RegistrationLog.of kind (endPoint.elim [] fun notification => notification.terminate.2) =
      if kind = .endPoint then releaseEvents (endPoint.bind EndPointNotification.enumerator)
      else [] := by
  cases endPoint with
  | none => simp [RegistrationLog.of_nil, releaseEvents]
  | some notification =>
      simp only [Option.elim_some, EndPointNotification.terminate, RegistrationLog.of_append,
        RegistrationLog.of_unregister, RegistrationLog.of_dropPointer, releaseEvents]
      cases kind <;> simp

theorem of_terminate_speaker (kind : NotificationKind) (speaker : Option SpeakerNotification) :
    RegistrationLog.of kind (speaker.elim [] fun notification => notification.terminate.2) =
      match kind with
      | .speakerVolume =>
          releaseEvents (speaker.bind fun notification => notification.volume.endPointVolume)
      | .speakerSession => releaseEvents (speaker.bind SpeakerNotification.audioSessionControl)
      | _ => [] := by
  cases speaker with
  | none => cases kind <;> rfl
  | some notification =>
      simp only [Option.elim_some, SpeakerNotification.terminate, RegistrationLog.of_append,
        RegistrationLog.of_unregister, RegistrationLog.of_dropPointer, releaseEvents]
      cases kind <;> simp

theorem of_terminate_mic (kind : NotificationKind) (mic : Option VolumeNotification) :
    RegistrationLog.of kind (mic.elim [] fun notification => notification.terminate.2) =
      if kind = .micVolume then releaseEvents (mic.bind VolumeNotification.endPointVolume)
      else [] := by
  cases mic with
  | none => simp [RegistrationLog.of_nil, releaseEvents]
  | some notification =>
      simp only [Option.elim_some, VolumeNotification.terminate, RegistrationLog.of_append,
        RegistrationLog.of_unregister, RegistrationLog.of_dropPointer, releaseEvents]
      cases kind <;> simp

theorem terminate_events (listener : ListenerPointers) (kind : NotificationKind) :
    listener.terminate.events kind =
      listener.events kind ++ releaseEvents (listener.pointer kind) := by
  simp only [events, terminate, RegistrationLog.of_append, of_terminate_endPoint,
    of_terminate_speaker, of_terminate_mic]
  cases kind <;> simp [pointer]

theorem terminate_pointer (listener : ListenerPointers) (kind : NotificationKind) :
    listener.terminate.pointer kind = none := by
  cases kind with
  | endPoint =>
      simp [pointer, terminate, Option.bind_map, Function.comp_def,
        EndPointNotification.terminate, EndPointNotification.initial]
  | speakerVolume =>
      simp [pointer, terminate, Option.bind_map, Function.comp_def,
        SpeakerNotification.terminate, SpeakerNotification.initial, VolumeNotification.initial]
  | speakerSession =>
      simp [pointer, terminate, Option.bind_map, Function.comp_def,
        SpeakerNotification.terminate, SpeakerNotification.initial]
  | micVolume =>
      simp [pointer, terminate, Option.bind_map, Function.comp_def,
        VolumeNotification.terminate, VolumeNotification.initial]

theorem Balanced.terminate {listener : ListenerPointers} (balanced : listener.Balanced) :
    listener.terminate.Balanced := by
  intro kind
  rw [terminate_events, terminate_pointer]
  exact (balanced kind).release

/-- What a stage of the attach does to the pointers and events of its own kinds, which
starts from null pointers. -/
structure Attaches (own : List NotificationKind) (before : ListenerPointers)
    (after : ListenerPointers × Bool) : Prop where
  kept : ∀ kind ∉ own, after.1.pointer kind = before.pointer kind ∧
    after.1.events kind = before.events kind
  attempt : ∀ kind ∈ own, ∃ new, after.1.events kind = before.events kind ++ new ∧
    Attempt (after.1.pointer kind) new ∧ (after.2 = true → new ≠ [])

section Attaches

variable {own : List NotificationKind} {before : ListenerPointers}
  {after : ListenerPointers × Bool}

theorem Attaches.balanced (attaches : Attaches own before after) (balanced : before.Balanced)
    (null : ∀ kind ∈ own, before.pointer kind = none) : after.1.Balanced := by
  intro kind
  by_cases member : kind ∈ own
  · obtain ⟨new, events, attempt, -⟩ := attaches.attempt kind member
    have settled := balanced kind
    rw [null kind member] at settled
    rw [events]
    exact settled.attempt attempt
  · obtain ⟨pointer, events⟩ := attaches.kept kind member
    rw [pointer, events]
    exact balanced kind

theorem Attaches.registered (attaches : Attaches own before after) (attached : after.2 = true)
    {kind : NotificationKind} (member : kind ∈ own) : after.1.Registered kind := by
  obtain ⟨new, events, attempt, made⟩ := attaches.attempt kind member
  have made := made attached
  generalize pointed : after.1.pointer kind = pointer at attempt
  cases attempt with
  | failed => exact absurd rfl made
  | held object => exact absurd rfl made
  | registered object => exact ⟨object, pointed, by rw [events, List.getLast?_concat]⟩

theorem Attaches.registered_kept (attaches : Attaches own before after)
    {kind : NotificationKind} (other : kind ∉ own) (registered : before.Registered kind) :
    after.1.Registered kind := by
  obtain ⟨pointer, events⟩ := attaches.kept kind other
  rw [Registered, pointer, events]
  exact registered

end Attaches

theorem events_append {listener after : ListenerPointers} {log : RegistrationLog}
    (logged : after.log = listener.log ++ log) (kind : NotificationKind) :
    after.events kind = listener.events kind ++ RegistrationLog.of kind log := by
  rw [events, events, logged, RegistrationLog.of_append]

/-- A stage that tries to register one kind only, and leaves the other pointers alone. -/
theorem attaches_of_tries {own : NotificationKind} {before : ListenerPointers}
    {after : ListenerPointers × Bool} {log : RegistrationLog}
    (logged : after.1.log = before.log ++ log)
    (tries : Tries own (after.1.pointer own) log after.2)
    (others : ∀ kind ≠ own, after.1.pointer kind = before.pointer kind) :
    Attaches [own] before after := by
  refine ⟨fun kind other => ?_, fun kind member => ?_⟩
  · rw [List.mem_singleton] at other
    rw [events_append logged, tries.only kind other, List.append_nil]
    exact ⟨others kind other, rfl⟩
  · rw [List.mem_singleton] at member
    subst member
    exact ⟨_, events_append logged kind, tries.attempt, tries.registers⟩

/-- A stage whose notification could not be allocated. -/
theorem attaches_unallocated {own : List NotificationKind} {listener : ListenerPointers}
    (null : ∀ kind ∈ own, listener.pointer kind = none) :
    Attaches own listener (listener, false) := by
  refine ⟨fun kind _ => ⟨rfl, rfl⟩, fun kind member => ?_⟩
  refine ⟨[], (List.append_nil _).symm, ?_, fun attached => Bool.noConfusion attached⟩
  rw [null kind member]
  exact .failed

section Stages

variable (calls : AttachCalls) (objects : AttachObjects) {listener : ListenerPointers}

theorem attachEndPoint_attaches (null : listener.pointer .endPoint = none) :
    Attaches [.endPoint] listener (listener.attachEndPoint calls objects) := by
  unfold attachEndPoint
  cases held : listener.endPoint with
  | none => exact attaches_unallocated (by simpa using null)
  | some notification =>
      have cleared : notification.enumerator = none := by simpa [pointer, held] using null
      have tries := EndPointNotification.attachDevListener_tries
        calls.registerEndpointNotification objects.enumerator cleared
      refine attaches_of_tries rfl tries fun kind other => ?_
      cases kind with
      | endPoint => exact absurd rfl other
      | speakerVolume => rfl
      | speakerSession => rfl
      | micVolume => rfl

theorem attachMic_attaches (micGUID : String) (null : listener.pointer .micVolume = none) :
    Attaches [.micVolume] listener (listener.attachMic calls objects micGUID) := by
  unfold attachMic
  cases held : listener.mic with
  | none => exact attaches_unallocated (by simpa using null)
  | some notification =>
      have cleared : notification.endPointVolume = none := by simpa [pointer, held] using null
      have tries := VolumeNotification.attachDevListener_tries calls objects micGUID cleared
      refine attaches_of_tries rfl tries fun kind other => ?_
      cases kind with
      | micVolume => exact absurd rfl other
      | speakerVolume => rfl
      | speakerSession => rfl
      | endPoint => rfl

theorem attachSpeaker_attaches (speakerGUID : String)
    (nullVolume : listener.pointer .speakerVolume = none)
    (nullSession : listener.pointer .speakerSession = none) :
    Attaches [.speakerVolume, .speakerSession] listener
      (listener.attachSpeaker calls objects speakerGUID) := by
  unfold attachSpeaker
  cases held : listener.speaker with
  | none => exact attaches_unallocated (by simpa using ⟨nullVolume, nullSession⟩)
  | some notification =>
      have clearedVolume : notification.volume.endPointVolume = none := by
        simpa [pointer, held] using nullVolume
      have clearedSession : notification.audioSessionControl = none := by
        simpa [pointer, held] using nullSession
      obtain ⟨volumeLog, sessionLog, logged, volume, session⟩ :=
        SpeakerNotification.attachDevListener_tries calls objects speakerGUID clearedVolume
          clearedSession
      simp only
      generalize notification.attachDevListener calls objects speakerGUID = answer
        at logged volume session
      obtain ⟨notification, log, attached⟩ := answer
      obtain rfl : log = volumeLog ++ sessionLog := logged
      have events (kind : NotificationKind) := events_append
        (rfl : (ListenerPointers.mk listener.enumerator listener.endPoint (some notification)
          listener.mic listener.errorState
          (listener.log ++ (volumeLog ++ sessionLog))).log = _) kind
      simp only [RegistrationLog.of_append] at events
      refine ⟨fun kind other => ?_, fun kind member => ?_⟩
      · simp only [List.mem_cons, List.not_mem_nil, or_false, not_or] at other
        rw [events, volume.only kind other.1, session.only kind other.2]
        refine ⟨?_, by simp⟩
        cases kind with
        | speakerVolume => exact absurd rfl other.1
        | speakerSession => exact absurd rfl other.2
        | endPoint => rfl
        | micVolume => rfl
      · simp only [List.mem_cons, List.not_mem_nil, or_false] at member
        rcases member with rfl | rfl
        · rw [events, session.only .speakerVolume (by decide), List.append_nil]
          exact ⟨_, rfl, volume.attempt, volume.registers⟩
        · rw [events, volume.only .speakerSession (by decide), List.nil_append]
          exact ⟨_, rfl, session.attempt, session.registers⟩

end Stages

/-- A stage starts from null pointers if the attach does. -/
theorem stages_cleared {listener : ListenerPointers}
    (cleared : ∀ kind, listener.pointer kind = none) (calls : AttachCalls)
    (objects : AttachObjects) (speakerGUID : String) :
    let first := listener.attachEndPoint calls objects
    let second := first.1.attachSpeaker calls objects speakerGUID
    (∀ kind ≠ .endPoint, first.1.pointer kind = none) ∧ second.1.pointer .micVolume = none := by
  intro first second
  have endPoint := attachEndPoint_attaches calls objects (cleared .endPoint)
  have clearedSpeaker (kind : NotificationKind) (other : kind ≠ .endPoint) :
      first.1.pointer kind = none :=
    (endPoint.kept kind (mt List.mem_singleton.mp other)).1.trans (cleared kind)
  have speaker := attachSpeaker_attaches calls objects speakerGUID
    (clearedSpeaker .speakerVolume (by decide)) (clearedSpeaker .speakerSession (by decide))
  exact ⟨clearedSpeaker,
    (speaker.kept .micVolume (by decide)).1.trans (clearedSpeaker .micVolume (by decide))⟩

/-- The three stages, from a listener that holds no pointer. -/
theorem Balanced.stages {listener : ListenerPointers} (balanced : listener.Balanced)
    (cleared : ∀ kind, listener.pointer kind = none) (calls : AttachCalls)
    (objects : AttachObjects) (speakerGUID micGUID : String) :
    let first := listener.attachEndPoint calls objects
    let second := first.1.attachSpeaker calls objects speakerGUID
    let third := second.1.attachMic calls objects micGUID
    first.1.Balanced ∧ second.1.Balanced ∧ third.1.Balanced ∧
      (first.2 = true → second.2 = true → third.2 = true →
        ∀ kind, third.1.Registered kind) := by
  intro first second third
  obtain ⟨clearedSpeaker, clearedMic⟩ := stages_cleared cleared calls objects speakerGUID
  have endPoint := attachEndPoint_attaches calls objects (cleared .endPoint)
  have speaker := attachSpeaker_attaches calls objects speakerGUID
    (clearedSpeaker .speakerVolume (by decide)) (clearedSpeaker .speakerSession (by decide))
  have mic := attachMic_attaches calls objects micGUID clearedMic
  have balancedFirst := endPoint.balanced balanced fun kind _ => cleared kind
  have balancedSecond : second.1.Balanced := by
    refine speaker.balanced balancedFirst fun kind member => clearedSpeaker kind ?_
    rintro rfl
    exact absurd member (by decide)
  have balancedThird : third.1.Balanced := by
    refine mic.balanced balancedSecond fun kind member => ?_
    rw [List.mem_singleton.mp member]
    exact clearedMic
  refine ⟨balancedFirst, balancedSecond, balancedThird, fun firstAttached secondAttached
    thirdAttached kind => ?_⟩
  cases kind with
  | endPoint =>
      have made := endPoint.registered firstAttached (List.mem_singleton.mpr rfl)
      exact mic.registered_kept (by decide) (speaker.registered_kept (by decide) made)
  | speakerVolume =>
      exact mic.registered_kept (by decide) (speaker.registered secondAttached (by decide))
  | speakerSession =>
      exact mic.registered_kept (by decide) (speaker.registered secondAttached (by decide))
  | micVolume => exact mic.registered thirdAttached (by decide)

theorem Balanced.attachWatcher {listener : ListenerPointers} (balanced : listener.Balanced)
    (calls : AttachCalls) (objects : AttachObjects) (speakerGUID micGUID : String) :
    (listener.attachWatcher calls objects speakerGUID micGUID).1.Balanced ∧
      ((listener.attachWatcher calls objects speakerGUID micGUID).2 = true →
        ∀ kind, (listener.attachWatcher calls objects speakerGUID micGUID).1.Registered kind) := by
  have terminated := balanced.terminate
  unfold ListenerPointers.attachWatcher
  cases calls.coCreateInstance with
  | false => exact ⟨terminated, fun failed => Bool.noConfusion failed⟩
  | true =>
      obtain ⟨first, second, third, all⟩ := @Balanced.stages { listener.terminate with
        errorState := true
        enumerator := some objects.enumerator } terminated listener.terminate_pointer calls
        objects speakerGUID micGUID
      simp only [Bool.not_true, Bool.false_eq_true, if_false]
      generalize attachEndPoint calls objects _ = endPoint at first second third all ⊢
      obtain ⟨afterEndPoint, attached⟩ := endPoint
      cases attached with
      | false => exact ⟨first, fun failed => Bool.noConfusion failed⟩
      | true =>
          simp only [Bool.not_true, Bool.false_eq_true, if_false]
          generalize afterEndPoint.attachSpeaker calls objects speakerGUID = speaker
            at second third all ⊢
          obtain ⟨afterSpeaker, attached⟩ := speaker
          cases attached with
          | false => exact ⟨second, fun failed => Bool.noConfusion failed⟩
          | true =>
              simp only [Bool.not_true, Bool.false_eq_true, if_false]
              generalize afterSpeaker.attachMic calls objects micGUID = mic at third all ⊢
              obtain ⟨afterMic, attached⟩ := mic
              cases attached with
              | false => exact ⟨third, fun failed => Bool.noConfusion failed⟩
              | true => exact ⟨third, fun _ kind => all rfl rfl rfl kind⟩

inductive PointerStep
  | attachWatcher (calls : AttachCalls) (objects : AttachObjects) (speakerGUID micGUID : String)
  | terminate
  deriving DecidableEq

def perform (listener : ListenerPointers) : PointerStep → ListenerPointers
  | .attachWatcher calls objects speakerGUID micGUID =>
      (listener.attachWatcher calls objects speakerGUID micGUID).1
  | .terminate => listener.terminate

def afterSteps (endPoint speaker mic : Bool) (steps : List PointerStep) : ListenerPointers :=
  steps.foldl perform (constructed endPoint speaker mic)

theorem Balanced.perform {listener : ListenerPointers} (balanced : listener.Balanced)
    (step : PointerStep) : (listener.perform step).Balanced := by
  cases step with
  | attachWatcher calls objects speakerGUID micGUID =>
      exact (balanced.attachWatcher calls objects speakerGUID micGUID).1
  | terminate => exact balanced.terminate

theorem Balanced.foldl {listener : ListenerPointers} (balanced : listener.Balanced)
    (steps : List PointerStep) : (steps.foldl ListenerPointers.perform listener).Balanced := by
  induction steps generalizing listener with
  | nil => exact balanced
  | cons step rest ih => exact ih (balanced.perform step)

theorem balanced_afterSteps (endPoint speaker mic : Bool) (steps : List PointerStep) :
    (afterSteps endPoint speaker mic steps).Balanced :=
  (balanced_constructed endPoint speaker mic).foldl steps

theorem Balanced.live_registered {listener : ListenerPointers} (balanced : listener.Balanced)
    {kind : NotificationKind} (registered : listener.Registered kind) :
    ∃ object, listener.live kind = [object] ∧ listener.pointer kind = some object := by
  obtain ⟨object, held, last⟩ := registered
  refine ⟨object, ?_, held⟩
  rw [live, (balanced kind).inOrder.live_eq, lastRegistered, last]
  rfl

theorem Balanced.live_cleared {listener : ListenerPointers} (balanced : listener.Balanced)
    {kind : NotificationKind} (cleared : listener.pointer kind = none) :
    listener.live kind = [] := by
  have settled := balanced kind
  rw [cleared] at settled
  rw [live, settled.inOrder.live_eq, settled.lastRegistered_none]
  rfl

/-- After all sequences of attaching and terminating, whatever the calls answer: a
registration is still live on the object the stored pointer points to, or the next call
undoes it on its object and the pointer is dropped after that; there was never more than
one registration of a kind; a last attach that succeeded leaves one of each kind, and a
last terminate none. -/
theorem registrations_balance (endPoint speaker mic : Bool) (steps : List PointerStep) :
    let listener := afterSteps endPoint speaker mic steps
    (∀ kind before object after,
      listener.events kind = before ++ .registered object :: after →
        after = [] ∧ listener.pointer kind = some object ∨
          ∃ rest, after = .unregistered object :: .dropped object :: rest) ∧
    (∀ kind before, before <+: listener.events kind →
      (RegistrationEvent.live before).length ≤ 1) ∧
    (∀ calls objects speakerGUID micGUID,
      (listener.attachWatcher calls objects speakerGUID micGUID).2 = true →
        ∀ kind, ∃ object,
          (listener.attachWatcher calls objects speakerGUID micGUID).1.live kind = [object] ∧
          (listener.attachWatcher calls objects speakerGUID micGUID).1.pointer kind =
            some object) ∧
    ∀ kind, listener.terminate.live kind = [] := by
  have balanced := balanced_afterSteps endPoint speaker mic steps
  refine ⟨fun kind before object after logged => ?_, fun kind before earlier => ?_,
    fun calls objects speakerGUID micGUID attached kind => ?_, fun kind => ?_⟩
  · have settled := balanced kind
    rw [logged] at settled
    exact settled.undone
  · exact ((balanced kind).inOrder.of_isPrefix earlier).live_le_one
  · obtain ⟨kept, registered⟩ := balanced.attachWatcher calls objects speakerGUID micGUID
    exact kept.live_registered (registered attached kind)
  · exact balanced.terminate.live_cleared (terminate_pointer _ kind)

def sevenObjects : AttachObjects := ⟨1, 2, 3, 4, 5, 6, 7⟩

/-- Behind a first attach whose session registration fails, a second one succeeds. -/
theorem registrations_balance_attached :
    let failing : AttachCalls := { AudioDeviceListener.workingCalls with
      session := ⟨true, true, true, false⟩ }
    let listener := afterSteps true true true [.attachWatcher failing sevenObjects "" ""]
    ∀ kind, ∃ object,
      (listener.attachWatcher AudioDeviceListener.workingCalls sevenObjects "" "").1.live kind =
          [object] ∧
        (listener.attachWatcher AudioDeviceListener.workingCalls sevenObjects "" "").1.pointer
          kind = some object :=
  (registrations_balance true true true _).2.2.1 _ _ _ _ (by decide)

end ListenerPointers

end FiberApp.CoreAudio
