import FiberApp.Foundation.Execution
import FiberApp.CoreAudio.AudioDeviceListener

/-! What a change request that reports success leaves attached, over runs of
requests with arbitrary outcomes of the attach calls. -/

set_option autoImplicit false

namespace FiberApp.CoreAudio

open Foundation

/-- The endpoint a guid stands for: the empty one is the default endpoint. -/
def EndpointCalls.resolve (calls : EndpointCalls) (guid : String) : Option String :=
  if guid = "" then calls.getDefaultAudioEndpoint.map (·.val) else some guid

namespace VolumeEndpoint

structure AttachedTo (notification : VolumeEndpoint) (guid : String) : Prop where
  remembered : notification.guid = guid
  endpoint : notification.endpoint = some guid
  volume : notification.endPointVolume = true
  registered : notification.controlChange = true
  listener : notification.audioDevListener = true

def Named (notification : VolumeEndpoint) : Prop :=
  ∀ guid, notification.endpoint = some guid → guid ≠ ""

instance (notification : VolumeEndpoint) (guid : String) :
    Decidable (notification.AttachedTo guid) :=
  decidable_of_iff (notification.guid = guid ∧ notification.endpoint = some guid ∧
      notification.endPointVolume = true ∧ notification.controlChange = true ∧
      notification.audioDevListener = true)
    ⟨fun ⟨remembered, endpoint, volume, registered, listener⟩ =>
      ⟨remembered, endpoint, volume, registered, listener⟩,
      fun attached => ⟨attached.remembered, attached.endpoint, attached.volume,
        attached.registered, attached.listener⟩⟩

theorem terminate_named (notification : VolumeEndpoint) : notification.terminate.Named := by
  intro guid held
  cases held

theorem AttachedTo.unique {notification : VolumeEndpoint} {left right : String}
    (first : notification.AttachedTo left) (second : notification.AttachedTo right) :
    left = right := first.remembered.symm.trans second.remembered

theorem getAudioEndPoint_named {calls : EndpointCalls} {guid : String}
    {notification : VolumeEndpoint} (named : notification.Named) :
    (notification.getAudioEndPoint calls guid).1.Named := by
  unfold getAudioEndPoint
  by_cases empty : guid = ""
  · cases default : calls.getDefaultAudioEndpoint with
    | none =>
        simp only [empty, ↓reduceIte]
        exact named
    | some deviceGUID =>
        simp only [empty, ↓reduceIte]
        split_ifs
        all_goals
          intro held same
          cases same
          exact deviceGUID.property
  · simp only [empty, ↓reduceIte]
    split_ifs
    · intro held same
      cases same
      exact empty
    · exact named

theorem getAudioEndPoint_found {calls : EndpointCalls} {guid : String}
    {notification : VolumeEndpoint}
    (found : (notification.getAudioEndPoint calls guid).2 = true) :
    ∃ target, calls.resolve guid = some target ∧
      (notification.getAudioEndPoint calls guid).1 =
        { notification with guid := target, endpoint := some target } := by
  unfold getAudioEndPoint at found ⊢
  by_cases empty : guid = ""
  · cases default : calls.getDefaultAudioEndpoint with
    | none => simp [empty, default] at found
    | some deviceGUID =>
        simp only [empty, default, ↓reduceIte] at found ⊢
        split_ifs at found ⊢
        exact ⟨deviceGUID.val, by simp [EndpointCalls.resolve, default], rfl⟩
  · simp only [empty, ↓reduceIte] at found ⊢
    split_ifs at found ⊢
    exact ⟨guid, by simp [EndpointCalls.resolve, empty], rfl⟩

theorem attachAudioEndpoint_endpoint (calls : EndpointCalls) (notification : VolumeEndpoint) :
    (notification.attachAudioEndpoint calls).1.endpoint = notification.endpoint := by
  unfold attachAudioEndpoint
  split_ifs <;> rfl

theorem attachAudioEndpoint_attached {calls : EndpointCalls} {notification : VolumeEndpoint}
    (attached : (notification.attachAudioEndpoint calls).2 = true) :
    (notification.attachAudioEndpoint calls).1 =
      { notification with endPointVolume := true, controlChange := true } := by
  unfold attachAudioEndpoint at attached ⊢
  split_ifs at attached ⊢
  rfl

end VolumeEndpoint

namespace AudioSession

structure Registered (session : AudioSession) : Prop where
  manager : session.sessionManager = true
  control : session.sessionControl = true
  notification : session.sessionNotification = true

theorem registerForAudioSession_registered {calls : SessionCalls} {endpoint : Option String}
    {session : AudioSession}
    (registered : (session.registerForAudioSession calls endpoint).2 = true) :
    (session.registerForAudioSession calls endpoint).1.Registered := by
  unfold registerForAudioSession at registered ⊢
  split_ifs at registered ⊢
  exact ⟨rfl, rfl, rfl⟩

end AudioSession

namespace AudioDeviceListener

/-- The listener is attached: the three notifications are registered, and each
endpoint is attached to the guid it remembers. -/
structure Listening (listener : AudioDeviceListener) : Prop where
  noError : listener.errorState = false
  endPointNotification : listener.endPointNotification = true
  session : listener.session.Registered
  speaker : listener.speaker.AttachedTo listener.speaker.guid
  mic : listener.mic.AttachedTo listener.mic.guid

structure Named (listener : AudioDeviceListener) : Prop where
  speaker : listener.speaker.Named
  mic : listener.mic.Named

theorem attachMic_frame (calls : AttachCalls) (guid : String) (listener : AudioDeviceListener) :
    (listener.attachMic calls guid).1.speaker = listener.speaker ∧
      (listener.attachMic calls guid).1.session = listener.session ∧
      (listener.attachMic calls guid).1.endPointNotification = listener.endPointNotification ∧
      (listener.attachMic calls guid).1.errorState = listener.errorState ∧
      (listener.attachMic calls guid).1.mic.endpoint =
        (listener.mic.getAudioEndPoint calls.mic guid).1.endpoint := by
  unfold attachMic
  split
  rename_i mic found looked
  split_ifs
  · simp [looked]
  · have kept := VolumeEndpoint.attachAudioEndpoint_endpoint calls.mic mic
    split
    rename_i after attached activated
    rw [activated] at kept
    change after.endpoint = mic.endpoint at kept
    split_ifs <;> simp [looked, kept]

theorem attachMic_attached {calls : AttachCalls} {guid : String} {listener : AudioDeviceListener}
    (attached : (listener.attachMic calls guid).2 = true) :
    ∃ target, calls.mic.resolve guid = some target ∧
      (listener.attachMic calls guid).1.mic.AttachedTo target := by
  unfold attachMic at attached ⊢
  cases found : (listener.mic.getAudioEndPoint calls.mic guid).2 with
  | false => simp [found] at attached
  | true =>
      obtain ⟨target, resolved, looked⟩ := VolumeEndpoint.getAudioEndPoint_found found
      simp only [found, Bool.not_true, Bool.false_eq_true, ↓reduceIte] at attached ⊢
      cases activated : ((listener.mic.getAudioEndPoint calls.mic guid).1.attachAudioEndpoint
          calls.mic).2 with
      | false => simp [activated] at attached
      | true =>
          have volume := VolumeEndpoint.attachAudioEndpoint_attached activated
          simp only [Bool.not_true, Bool.false_eq_true, ↓reduceIte]
          refine ⟨target, resolved, ?_⟩
          rw [volume, looked]
          exact ⟨rfl, rfl, rfl, rfl, rfl⟩

theorem attachSpeaker_frame (calls : AttachCalls) (guid : String)
    (listener : AudioDeviceListener) :
    (listener.attachSpeaker calls guid).1.mic = listener.mic ∧
      (listener.attachSpeaker calls guid).1.endPointNotification =
        listener.endPointNotification ∧
      (listener.attachSpeaker calls guid).1.errorState = listener.errorState ∧
      (listener.attachSpeaker calls guid).1.speaker.endpoint =
        (listener.speaker.getAudioEndPoint calls.speaker guid).1.endpoint := by
  unfold attachSpeaker
  split
  rename_i speaker found looked
  split_ifs
  · simp [looked]
  · have kept := VolumeEndpoint.attachAudioEndpoint_endpoint calls.speaker speaker
    split
    rename_i after attached activated
    rw [activated] at kept
    change after.endpoint = speaker.endpoint at kept
    split_ifs
    · simp [looked, kept]
    · split
      split_ifs <;> simp [looked, kept]

theorem attachSpeaker_attached {calls : AttachCalls} {guid : String}
    {listener : AudioDeviceListener}
    (attached : (listener.attachSpeaker calls guid).2 = true) :
    (listener.attachSpeaker calls guid).1.session.Registered ∧
      ∃ target, calls.speaker.resolve guid = some target ∧
        (listener.attachSpeaker calls guid).1.speaker.AttachedTo target := by
  unfold attachSpeaker at attached ⊢
  cases found : (listener.speaker.getAudioEndPoint calls.speaker guid).2 with
  | false => simp [found] at attached
  | true =>
      obtain ⟨target, resolved, looked⟩ := VolumeEndpoint.getAudioEndPoint_found found
      simp only [found, Bool.not_true, Bool.false_eq_true, ↓reduceIte] at attached ⊢
      cases activated : ((listener.speaker.getAudioEndPoint calls.speaker
          guid).1.attachAudioEndpoint calls.speaker).2 with
      | false => simp [activated] at attached
      | true =>
          have volume := VolumeEndpoint.attachAudioEndpoint_attached activated
          simp only [activated, Bool.not_true, Bool.false_eq_true, ↓reduceIte] at attached ⊢
          cases registered : (listener.session.registerForAudioSession calls.session
              ((listener.speaker.getAudioEndPoint calls.speaker guid).1.attachAudioEndpoint
                calls.speaker).1.endpoint).2 with
          | false => simp [registered] at attached
          | true =>
              have session := AudioSession.registerForAudioSession_registered registered
              simp only [Bool.not_true, Bool.false_eq_true, ↓reduceIte]
              refine ⟨session, target, resolved, ?_⟩
              rw [volume, looked]
              exact ⟨rfl, rfl, rfl, rfl, rfl⟩

theorem attachMic_named (calls : AttachCalls) (guid : String) {listener : AudioDeviceListener}
    (named : listener.Named) : (listener.attachMic calls guid).1.Named := by
  obtain ⟨speaker, _, _, _, endpoint⟩ := attachMic_frame calls guid listener
  refine ⟨?_, ?_⟩
  · rw [speaker]
    exact named.speaker
  · intro target held
    rw [endpoint] at held
    exact VolumeEndpoint.getAudioEndPoint_named named.mic target held

theorem attachSpeaker_named (calls : AttachCalls) (guid : String)
    {listener : AudioDeviceListener} (named : listener.Named) :
    (listener.attachSpeaker calls guid).1.Named := by
  obtain ⟨mic, _, _, endpoint⟩ := attachSpeaker_frame calls guid listener
  refine ⟨?_, ?_⟩
  · intro target held
    rw [endpoint] at held
    exact VolumeEndpoint.getAudioEndPoint_named named.speaker target held
  · rw [mic]
    exact named.mic

theorem attachWatcher_named (calls : AttachCalls) (speakerGUID micGUID : String)
    (listener : AudioDeviceListener) :
    (listener.attachWatcher calls speakerGUID micGUID).1.Named := by
  have torn : Named { listener.terminate with errorState := true } :=
    ⟨listener.speaker.terminate_named, listener.mic.terminate_named⟩
  have notified : Named { listener.terminate with
      errorState := true, endPointNotification := true } := ⟨torn.speaker, torn.mic⟩
  have speaker := attachSpeaker_named calls speakerGUID notified
  have mic := attachMic_named calls micGUID speaker
  unfold attachWatcher
  simp only
  split_ifs
  · exact torn
  · exact torn
  · exact speaker
  · exact mic
  · exact ⟨mic.speaker, mic.mic⟩

theorem attachWatcher_failed {calls : AttachCalls} {speakerGUID micGUID : String}
    {listener : AudioDeviceListener}
    (failed : (listener.attachWatcher calls speakerGUID micGUID).2 = false) :
    (listener.attachWatcher calls speakerGUID micGUID).1.errorState = true := by
  unfold attachWatcher at failed ⊢
  simp only at failed ⊢
  split_ifs at failed ⊢
  · rfl
  · rfl
  · exact (attachSpeaker_frame _ _ _).2.2.1
  · rw [(attachMic_frame _ _ _).2.2.2.1]
    exact (attachSpeaker_frame _ _ _).2.2.1

theorem attachWatcher_attached {calls : AttachCalls} {speakerGUID micGUID : String}
    {listener : AudioDeviceListener}
    (attached : (listener.attachWatcher calls speakerGUID micGUID).2 = true) :
    (listener.attachWatcher calls speakerGUID micGUID).1.Listening ∧
      (∃ target, calls.speaker.resolve speakerGUID = some target ∧
        (listener.attachWatcher calls speakerGUID micGUID).1.speaker.AttachedTo target) ∧
      ∃ target, calls.mic.resolve micGUID = some target ∧
        (listener.attachWatcher calls speakerGUID micGUID).1.mic.AttachedTo target := by
  unfold attachWatcher at attached ⊢
  simp only at attached ⊢
  split_ifs at attached ⊢ with _ _ speakerFailed micFailed
  simp only [Bool.not_eq_true', Bool.not_eq_false] at speakerFailed micFailed
  obtain ⟨session, speakerTarget, speakerResolved, speaker⟩ := attachSpeaker_attached speakerFailed
  obtain ⟨micTarget, micResolved, mic⟩ := attachMic_attached micFailed
  obtain ⟨_, notified, _, _⟩ := attachSpeaker_frame calls speakerGUID
    { listener.terminate with errorState := true, endPointNotification := true }
  obtain ⟨sameSpeaker, sameSession, sameNotification, _, _⟩ := attachMic_frame calls micGUID
    ({ listener.terminate with errorState := true, endPointNotification := true
      : AudioDeviceListener }.attachSpeaker calls speakerGUID).1
  refine ⟨⟨rfl, ?_, ?_, ?_, ?_⟩, ⟨speakerTarget, speakerResolved, ?_⟩, micTarget, micResolved, mic⟩
  · exact sameNotification.trans notified
  · exact sameSession ▸ session
  · rw [sameSpeaker, speaker.remembered]
    exact speaker
  · rw [mic.remembered]
    exact mic
  · rw [sameSpeaker]
    exact speaker

end AudioDeviceListener

inductive EndpointKind
  | mic
  | speaker
  deriving DecidableEq

structure ChangeRequest where
  kind : EndpointKind
  guid : String
  calls : AttachCalls
  deriving DecidableEq

def EndpointKind.other : EndpointKind → EndpointKind
  | .mic => .speaker
  | .speaker => .mic

def ChangeRequest.endpointCalls (request : ChangeRequest) : EndpointCalls :=
  match request.kind with
  | .mic => request.calls.mic
  | .speaker => request.calls.speaker

namespace AudioDeviceListener

def endpointOf (listener : AudioDeviceListener) : EndpointKind → VolumeEndpoint
  | .mic => listener.mic
  | .speaker => listener.speaker

def process (listener : AudioDeviceListener) (request : ChangeRequest) :
    AudioDeviceListener × Bool :=
  match request.kind with
  | .mic => listener.processMicChange request.calls request.guid
  | .speaker => listener.processSpeakerChange request.calls request.guid

def afterRequests (calls : AttachCalls) (requests : List ChangeRequest) : AudioDeviceListener :=
  requests.foldl (fun listener request => (listener.process request).1)
    (initial.attachWatcher calls "" "").1

structure SuccessAttaches (listener : AudioDeviceListener) (request : ChangeRequest) :
    Prop where
  requested : request.guid ≠ "" → listener.errorState = false →
    ((listener.process request).1.endpointOf request.kind).AttachedTo request.guid
  fallback : listener.errorState = true → ∃ deviceGUID,
    request.endpointCalls.getDefaultAudioEndpoint = some deviceGUID ∧
      ((listener.process request).1.endpointOf request.kind).AttachedTo deviceGUID.val
  other : ∀ guid, (listener.endpointOf request.kind.other).AttachedTo guid →
    ((listener.process request).1.endpointOf request.kind.other).AttachedTo guid
  listening : (listener.process request).1.Listening

structure Consistent (listener : AudioDeviceListener) : Prop where
  named : listener.Named
  listening : listener.errorState = false → listener.Listening

theorem consistent_attachWatcher (calls : AttachCalls) (speakerGUID micGUID : String)
    (listener : AudioDeviceListener) :
    (listener.attachWatcher calls speakerGUID micGUID).1.Consistent := by
  refine ⟨attachWatcher_named calls speakerGUID micGUID listener, fun noError => ?_⟩
  cases outcome : (listener.attachWatcher calls speakerGUID micGUID).2 with
  | true => exact (attachWatcher_attached outcome).1
  | false =>
      rw [attachWatcher_failed outcome] at noError
      cases noError

theorem resolve_of_ne (calls : EndpointCalls) {guid : String} (named : guid ≠ "") :
    calls.resolve guid = some guid := by
  simp [EndpointCalls.resolve, named]

theorem resolve_empty {calls : EndpointCalls} {target : String}
    (resolved : calls.resolve "" = some target) :
    ∃ deviceGUID, calls.getDefaultAudioEndpoint = some deviceGUID ∧ deviceGUID.val = target := by
  rw [EndpointCalls.resolve, if_pos rfl, Option.map_eq_some_iff] at resolved
  exact resolved

theorem reattached {notification after : VolumeEndpoint} {calls : EndpointCalls}
    {guid target : String} (named : notification.Named) (before : notification.AttachedTo guid)
    (resolved : calls.resolve notification.guid = some target)
    (attached : after.AttachedTo target) : after.AttachedTo guid := by
  rw [before.remembered, resolve_of_ne calls (named guid before.endpoint)] at resolved
  cases resolved
  exact attached

/-- A request that changes endpoints attaches its own with this guid and the other
one with the guid remembered for it. -/
def reattach (listener : AudioDeviceListener) (request : ChangeRequest) (own : String) :
    AudioDeviceListener × Bool :=
  match request.kind with
  | .mic => listener.attachWatcher request.calls listener.speaker.guid own
  | .speaker => listener.attachWatcher request.calls own listener.mic.guid

theorem process_eq (listener : AudioDeviceListener) (request : ChangeRequest) :
    listener.process request =
      if listener.errorState then listener.reattach request ""
      else if request.guid ≠ "" ∧ request.guid ≠ (listener.endpointOf request.kind).guid then
        listener.reattach request request.guid
      else (listener, true) := by
  obtain ⟨kind, guid, calls⟩ := request
  cases kind <;> rfl

theorem consistent_reattach (listener : AudioDeviceListener) (request : ChangeRequest)
    (own : String) : (listener.reattach request own).1.Consistent := by
  obtain ⟨kind, guid, calls⟩ := request
  cases kind <;> exact consistent_attachWatcher _ _ _ _

theorem reattach_attached {listener : AudioDeviceListener} (named : listener.Named)
    {request : ChangeRequest} {own : String}
    (attached : (listener.reattach request own).2 = true) :
    (listener.reattach request own).1.Listening ∧
      (∃ target, request.endpointCalls.resolve own = some target ∧
        ((listener.reattach request own).1.endpointOf request.kind).AttachedTo target) ∧
      ∀ guid, (listener.endpointOf request.kind.other).AttachedTo guid →
        ((listener.reattach request own).1.endpointOf request.kind.other).AttachedTo guid := by
  obtain ⟨kind, guid, calls⟩ := request
  cases kind with
  | mic =>
      obtain ⟨listening, ⟨_, resolved, speaker⟩, mic⟩ := attachWatcher_attached attached
      exact ⟨listening, mic, fun _ before => reattached named.speaker before resolved speaker⟩
  | speaker =>
      obtain ⟨listening, speaker, ⟨_, resolved, mic⟩⟩ := attachWatcher_attached attached
      exact ⟨listening, speaker, fun _ before => reattached named.mic before resolved mic⟩

theorem Listening.attachedTo {listener : AudioDeviceListener} (listening : listener.Listening)
    (kind : EndpointKind) :
    (listener.endpointOf kind).AttachedTo (listener.endpointOf kind).guid := by
  cases kind with
  | mic => exact listening.mic
  | speaker => exact listening.speaker

theorem Consistent.process {listener : AudioDeviceListener} (consistent : listener.Consistent)
    (request : ChangeRequest) : (listener.process request).1.Consistent := by
  rw [process_eq]
  split_ifs
  · exact consistent_reattach listener request ""
  · exact consistent_reattach listener request request.guid
  · exact consistent

theorem Consistent.successAttaches {listener : AudioDeviceListener}
    (consistent : listener.Consistent) {request : ChangeRequest}
    (success : (listener.process request).2 = true) : listener.SuccessAttaches request := by
  have chosen := process_eq listener request
  split_ifs at chosen with error changed
  · rw [chosen] at success
    obtain ⟨listening, ⟨target, resolved, own⟩, other⟩ :=
      reattach_attached consistent.named success
    obtain ⟨deviceGUID, default, rfl⟩ := resolve_empty resolved
    rw [← chosen] at listening own other
    refine ⟨fun _ noError => ?_, fun _ => ⟨deviceGUID, default, own⟩, other, listening⟩
    simp [error] at noError
  · rw [chosen] at success
    obtain ⟨listening, ⟨target, resolved, own⟩, other⟩ :=
      reattach_attached consistent.named success
    rw [resolve_of_ne _ changed.1] at resolved
    cases resolved
    rw [← chosen] at listening own other
    exact ⟨fun _ _ => own, fun inError => absurd inError error, other, listening⟩
  · -- The endpoint already is the requested one, or none was requested.
    have listening := consistent.listening (Bool.eq_false_iff.mpr error)
    refine ⟨fun requested _ => ?_, fun inError => absurd inError error, ?_, ?_⟩
    · rw [chosen, not_not.mp fun differs => changed ⟨requested, differs⟩]
      exact listening.attachedTo request.kind
    · rw [chosen]
      exact fun _ before => before
    · rw [chosen]
      exact listening

theorem consistent_afterRequests (calls : AttachCalls) (requests : List ChangeRequest) :
    (afterRequests calls requests).Consistent := by
  have kept : ∀ listener : AudioDeviceListener, listener.Consistent →
      (requests.foldl (fun listener request => (listener.process request).1)
        listener).Consistent := by
    induction requests with
    | nil => exact fun _ consistent => consistent
    | cons request rest ih => exact fun _ consistent => ih _ (consistent.process request)
  exact kept _ (consistent_attachWatcher calls "" "" initial)

theorem process_successAttaches (calls : AttachCalls) (requests : List ChangeRequest)
    (request : ChangeRequest)
    (success : ((afterRequests calls requests).process request).2 = true) :
    (afterRequests calls requests).SuccessAttaches request :=
  (consistent_afterRequests calls requests).successAttaches success

def working (default : EndpointId) : EndpointCalls := ⟨some default, true, true, true, true⟩

def workingCalls : AttachCalls :=
  ⟨true, true, working ⟨"speakers", by decide⟩, ⟨true, true, true, true⟩,
    working ⟨"array", by decide⟩⟩

def micRequest : ChangeRequest := ⟨.mic, "headset", workingCalls⟩

theorem process_successAttaches_headset :
    (afterRequests workingCalls [micRequest]).SuccessAttaches micRequest :=
  process_successAttaches workingCalls [micRequest] micRequest (by decide)

def AttachesRequested (listener : AudioDeviceListener) (request : ChangeRequest) : Prop :=
  (listener.process request).2 = true → request.guid ≠ "" →
    ((listener.process request).1.endpointOf request.kind).AttachedTo request.guid

theorem process_attaches_default :
    ¬ ∀ calls requests request, AttachesRequested (afterRequests calls requests) request := by
  intro attaches
  have attached := attaches { workingCalls with coCreateInstance := false } [] micRequest
    (by decide) (by decide)
  revert attached
  decide

end AudioDeviceListener

end FiberApp.CoreAudio
