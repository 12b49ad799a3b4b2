import FiberApp.CoreAudio.AudioDeviceListenerProperties

/-! Which outcomes of the attach calls attach an audio listener, and what it has
registered with the system after an attempt. -/

set_option autoImplicit false

namespace FiberApp.CoreAudio

/-- `GetAudioEndPoint` succeeds. -/
def EndpointCalls.finds (calls : EndpointCalls) (guid : String) : Bool :=
  if guid = "" then calls.getDefaultAudioEndpoint.isSome && calls.getId else calls.getDevice

/-- `AttachAudioEndpoint` succeeds on the endpoint. -/
def EndpointCalls.activates (calls : EndpointCalls) : Bool :=
  calls.activateVolume && calls.registerControlChange

def SessionCalls.registers (calls : SessionCalls) : Bool :=
  calls.activateSessionManager && calls.getAudioSessionControl && calls.queryInterface &&
    calls.registerAudioSession

namespace AttachCalls

/-- The calls before the first registration with the system fail. -/
def registersNothing (calls : AttachCalls) : Bool :=
  !calls.coCreateInstance || !calls.registerEndpointNotification

/-- None of the calls that attaching with these guids makes fails. -/
def attaches (calls : AttachCalls) (speakerGUID micGUID : String) : Bool :=
  calls.coCreateInstance && calls.registerEndpointNotification &&
    (calls.speaker.finds speakerGUID && calls.speaker.activates && calls.session.registers) &&
    (calls.mic.finds micGUID && calls.mic.activates)

end AttachCalls

namespace VolumeEndpoint

theorem getAudioEndPoint_snd (calls : EndpointCalls) (guid : String)
    (notification : VolumeEndpoint) :
    (notification.getAudioEndPoint calls guid).2 = calls.finds guid := by
  unfold getAudioEndPoint EndpointCalls.finds
  by_cases default : guid = ""
  · cases calls.getDefaultAudioEndpoint with
    | none => simp [default]
    | some deviceGUID => cases calls.getId <;> simp [default]
  · cases calls.getDevice <;> simp [default]

theorem attachAudioEndpoint_snd (calls : EndpointCalls) {notification : VolumeEndpoint}
    {endpoint : String} (held : notification.endpoint = some endpoint) :
    (notification.attachAudioEndpoint calls).2 = calls.activates := by
  unfold attachAudioEndpoint EndpointCalls.activates
  cases calls.activateVolume <;> cases calls.registerControlChange <;> simp [held]

/-- The callback is only registered on a volume interface that is held. -/
def Tracked (notification : VolumeEndpoint) : Prop :=
  notification.controlChange = true → notification.endPointVolume = true

theorem Tracked.terminate {notification : VolumeEndpoint} (tracked : notification.Tracked) :
    notification.terminate.controlChange = false := by
  simp only [VolumeEndpoint.terminate]
  split_ifs with held
  · rfl
  · exact Bool.eq_false_iff.mpr fun registered => held (tracked registered)

theorem getAudioEndPoint_frame (calls : EndpointCalls) (guid : String)
    (notification : VolumeEndpoint) :
    (notification.getAudioEndPoint calls guid).1.endPointVolume = notification.endPointVolume ∧
      (notification.getAudioEndPoint calls guid).1.controlChange =
        notification.controlChange := by
  unfold getAudioEndPoint
  by_cases default : guid = ""
  · cases calls.getDefaultAudioEndpoint with
    | none => simp [default]
    | some deviceGUID => cases calls.getId <;> simp [default]
  · cases calls.getDevice <;> simp [default]

theorem Tracked.getAudioEndPoint {notification : VolumeEndpoint}
    (tracked : notification.Tracked) (calls : EndpointCalls) (guid : String) :
    (notification.getAudioEndPoint calls guid).1.Tracked := by
  obtain ⟨volume, registered⟩ := getAudioEndPoint_frame calls guid notification
  intro held
  rw [volume]
  exact tracked (registered.symm.trans held)

theorem Tracked.attachAudioEndpoint {notification : VolumeEndpoint}
    (tracked : notification.Tracked) (calls : EndpointCalls) :
    (notification.attachAudioEndpoint calls).1.Tracked := by
  unfold VolumeEndpoint.attachAudioEndpoint
  split_ifs
  · exact tracked
  · exact fun _ => rfl
  · exact fun _ => rfl
  · exact tracked

end VolumeEndpoint

namespace AudioSession

theorem registerForAudioSession_snd (calls : SessionCalls) {held : Option String}
    {endpoint : String} (named : held = some endpoint) (session : AudioSession) :
    (session.registerForAudioSession calls held).2 = calls.registers := by
  unfold registerForAudioSession SessionCalls.registers
  cases calls.activateSessionManager <;> cases calls.getAudioSessionControl <;>
    cases calls.queryInterface <;> cases calls.registerAudioSession <;> simp [named]

def Tracked (session : AudioSession) : Prop :=
  session.sessionNotification = true → session.sessionControl = true

theorem Tracked.terminate {session : AudioSession} (tracked : session.Tracked) :
    session.terminate.sessionNotification = false := by
  simp only [AudioSession.terminate]
  split_ifs with held
  · rfl
  · exact Bool.eq_false_iff.mpr fun registered => held (tracked registered)

theorem Tracked.registerForAudioSession {session : AudioSession} (tracked : session.Tracked)
    (calls : SessionCalls) (endpoint : Option String) :
    (session.registerForAudioSession calls endpoint).1.Tracked := by
  unfold AudioSession.registerForAudioSession
  dsimp only
  split_ifs
  · exact tracked
  · exact fun _ => rfl
  · exact fun _ => rfl
  · exact tracked
  · exact tracked
  · exact tracked

end AudioSession

namespace AudioDeviceListener

/-- None of the listener's notifications is registered with the system. -/
structure Silent (listener : AudioDeviceListener) : Prop where
  endPoint : listener.endPointNotification = false
  speaker : listener.speaker.controlChange = false
  session : listener.session.sessionNotification = false
  mic : listener.mic.controlChange = false

instance (listener : AudioDeviceListener) : Decidable listener.Silent :=
  decidable_of_iff (listener.endPointNotification = false ∧
      listener.speaker.controlChange = false ∧ listener.session.sessionNotification = false ∧
      listener.mic.controlChange = false)
    ⟨fun ⟨endPoint, speaker, session, mic⟩ => ⟨endPoint, speaker, session, mic⟩,
      fun silent => ⟨silent.endPoint, silent.speaker, silent.session, silent.mic⟩⟩

structure Tracked (listener : AudioDeviceListener) : Prop where
  speaker : listener.speaker.Tracked
  session : listener.session.Tracked
  mic : listener.mic.Tracked

theorem initial_tracked : initial.Tracked where
  speaker := by simp [VolumeEndpoint.Tracked, initial, VolumeEndpoint.initial]
  session := by simp [AudioSession.Tracked, initial, AudioSession.initial]
  mic := by simp [VolumeEndpoint.Tracked, initial, VolumeEndpoint.initial]

theorem Silent.tracked {listener : AudioDeviceListener} (silent : listener.Silent) :
    listener.Tracked where
  speaker registered := by simp [silent.speaker] at registered
  session registered := by simp [silent.session] at registered
  mic registered := by simp [silent.mic] at registered

theorem Tracked.terminate {listener : AudioDeviceListener} (tracked : listener.Tracked) :
    listener.terminate.Silent :=
  ⟨rfl, tracked.speaker.terminate, tracked.session.terminate, tracked.mic.terminate⟩

theorem Tracked.attachSpeaker {listener : AudioDeviceListener} (tracked : listener.Tracked)
    (calls : AttachCalls) (guid : String) : (listener.attachSpeaker calls guid).1.Tracked := by
  have speaker := tracked.speaker.getAudioEndPoint calls.speaker guid
  have activated := speaker.attachAudioEndpoint calls.speaker
  have session := tracked.session.registerForAudioSession calls.session
    ((listener.speaker.getAudioEndPoint calls.speaker guid).1.attachAudioEndpoint
      calls.speaker).1.endpoint
  unfold AudioDeviceListener.attachSpeaker
  simp only
  split_ifs
  · exact ⟨speaker, tracked.session, tracked.mic⟩
  · exact ⟨activated, tracked.session, tracked.mic⟩
  · exact ⟨activated, session, tracked.mic⟩
  · exact ⟨activated, session, tracked.mic⟩

theorem Tracked.attachMic {listener : AudioDeviceListener} (tracked : listener.Tracked)
    (calls : AttachCalls) (guid : String) : (listener.attachMic calls guid).1.Tracked := by
  have mic := tracked.mic.getAudioEndPoint calls.mic guid
  have activated := mic.attachAudioEndpoint calls.mic
  unfold AudioDeviceListener.attachMic
  simp only
  split_ifs
  · exact ⟨tracked.speaker, tracked.session, mic⟩
  · exact ⟨tracked.speaker, tracked.session, activated⟩
  · exact ⟨tracked.speaker, tracked.session, activated⟩

theorem Tracked.attachWatcher {listener : AudioDeviceListener} (tracked : listener.Tracked)
    (calls : AttachCalls) (speakerGUID micGUID : String) :
    (listener.attachWatcher calls speakerGUID micGUID).1.Tracked := by
  have torn := tracked.terminate.tracked
  have notified : Tracked { listener.terminate with
      errorState := true, endPointNotification := true } := ⟨torn.speaker, torn.session, torn.mic⟩
  have speaker := notified.attachSpeaker calls speakerGUID
  have mic := speaker.attachMic calls micGUID
  unfold AudioDeviceListener.attachWatcher
  simp only
  split_ifs
  · exact ⟨torn.speaker, torn.session, torn.mic⟩
  · exact ⟨torn.speaker, torn.session, torn.mic⟩
  · exact speaker
  · exact mic
  · exact ⟨mic.speaker, mic.session, mic.mic⟩

theorem attachSpeaker_snd (calls : AttachCalls) (guid : String)
    (listener : AudioDeviceListener) :
    (listener.attachSpeaker calls guid).2 =
      (calls.speaker.finds guid && calls.speaker.activates && calls.session.registers) := by
  have looked := VolumeEndpoint.getAudioEndPoint_snd calls.speaker guid listener.speaker
  unfold attachSpeaker
  cases finds : calls.speaker.finds guid with
  | false => simp [looked, finds]
  | true =>
      obtain ⟨target, _, held⟩ := VolumeEndpoint.getAudioEndPoint_found (looked.trans finds)
      have named : (listener.speaker.getAudioEndPoint calls.speaker guid).1.endpoint =
          some target := by rw [held]
      have activated := VolumeEndpoint.attachAudioEndpoint_snd calls.speaker named
      have kept := VolumeEndpoint.attachAudioEndpoint_endpoint calls.speaker
        (listener.speaker.getAudioEndPoint calls.speaker guid).1
      have registered := AudioSession.registerForAudioSession_snd calls.session
        (kept.trans named) listener.session
      simp only [looked, finds, activated]
      cases calls.speaker.activates <;> cases registers : calls.session.registers <;>
        simp [registered, registers]

theorem attachMic_snd (calls : AttachCalls) (guid : String) (listener : AudioDeviceListener) :
    (listener.attachMic calls guid).2 = (calls.mic.finds guid && calls.mic.activates) := by
  have looked := VolumeEndpoint.getAudioEndPoint_snd calls.mic guid listener.mic
  unfold attachMic
  cases finds : calls.mic.finds guid with
  | false => simp [looked, finds]
  | true =>
      obtain ⟨target, _, held⟩ := VolumeEndpoint.getAudioEndPoint_found (looked.trans finds)
      have named : (listener.mic.getAudioEndPoint calls.mic guid).1.endpoint =
          some target := by rw [held]
      have activated := VolumeEndpoint.attachAudioEndpoint_snd calls.mic named
      simp only [looked, finds, activated]
      cases calls.mic.activates <;> simp

theorem attachWatcher_snd (calls : AttachCalls) (speakerGUID micGUID : String)
    (listener : AudioDeviceListener) :
    (listener.attachWatcher calls speakerGUID micGUID).2 =
      calls.attaches speakerGUID micGUID := by
  unfold attachWatcher AttachCalls.attaches
  simp only [attachSpeaker_snd, attachMic_snd]
  cases calls.coCreateInstance <;> cases calls.registerEndpointNotification <;>
    cases calls.speaker.finds speakerGUID && calls.speaker.activates &&
      calls.session.registers <;>
    cases calls.mic.finds micGUID && calls.mic.activates <;> simp

/-- An attempt registers the device-change notification first, and a later failure leaves it. -/
theorem attachWatcher_endPointNotification (calls : AttachCalls) (speakerGUID micGUID : String)
    (listener : AudioDeviceListener) :
    (listener.attachWatcher calls speakerGUID micGUID).1.endPointNotification =
      !calls.registersNothing := by
  obtain ⟨_, speaker, _, _⟩ := attachSpeaker_frame calls speakerGUID
    { listener.terminate with errorState := true, endPointNotification := true }
  have mic := (attachMic_frame calls micGUID
    ({ listener.terminate with errorState := true, endPointNotification := true
      : AudioDeviceListener }.attachSpeaker calls speakerGUID).1).2.2.1
  unfold attachWatcher AttachCalls.registersNothing
  simp only
  split_ifs with created registered
  · simpa [AudioDeviceListener.terminate] using fun isCreated : calls.coCreateInstance = true =>
      absurd isCreated (by simpa using created)
  · simp_all [AudioDeviceListener.terminate]
  · simp_all
  · simp_all
  · simp_all

theorem attachWatcher_listening_iff (calls : AttachCalls) (speakerGUID micGUID : String)
    (listener : AudioDeviceListener) :
    (listener.attachWatcher calls speakerGUID micGUID).1.Listening ↔
      calls.attaches speakerGUID micGUID = true := by
  rw [← attachWatcher_snd calls speakerGUID micGUID listener]
  refine ⟨fun listening => ?_, fun attached => (attachWatcher_attached attached).1⟩
  by_contra failed
  have error := attachWatcher_failed (Bool.eq_false_iff.mpr failed)
  simp [listening.noError] at error

theorem Tracked.attachWatcher_silent_iff {listener : AudioDeviceListener}
    (tracked : listener.Tracked) (calls : AttachCalls) (speakerGUID micGUID : String) :
    (listener.attachWatcher calls speakerGUID micGUID).1.Silent ↔
      calls.registersNothing = true := by
  constructor
  · intro silent
    have registered := attachWatcher_endPointNotification calls speakerGUID micGUID listener
    rw [silent.endPoint] at registered
    simpa using registered.symm
  · intro nothing
    have torn := tracked.terminate
    unfold AudioDeviceListener.attachWatcher
    simp only
    unfold AttachCalls.registersNothing at nothing
    split_ifs with created registered
    · exact ⟨torn.endPoint, torn.speaker, torn.session, torn.mic⟩
    · exact ⟨torn.endPoint, torn.speaker, torn.session, torn.mic⟩
    all_goals simp_all

end AudioDeviceListener

end FiberApp.CoreAudio
