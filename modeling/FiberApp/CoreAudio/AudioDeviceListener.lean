import Mathlib.Data.List.Basic

/-! The endpoint side of `audiodevlistener.cc`: attaching the microphone and the
speaker endpoint, and the requests that change one of them. -/

set_option autoImplicit false

namespace FiberApp.CoreAudio

abbrev EndpointId := { id : String // id ≠ "" }

/-- The outcomes of the calls that look an endpoint up and attach to its volume.
`none` is a failed `GetDefaultAudioEndpoint`. -/
structure EndpointCalls where
  getDefaultAudioEndpoint : Option EndpointId
  getId : Bool
  getDevice : Bool
  activateVolume : Bool
  registerControlChange : Bool
  deriving DecidableEq

structure SessionCalls where
  activateSessionManager : Bool
  getAudioSessionControl : Bool
  queryInterface : Bool
  registerAudioSession : Bool
  deriving DecidableEq

structure AttachCalls where
  coCreateInstance : Bool
  registerEndpointNotification : Bool
  speaker : EndpointCalls
  session : SessionCalls
  mic : EndpointCalls
  deriving DecidableEq

/-- What `MicVolumeNotification` and `SpeakerVolumeNotification` share: the
remembered guid, the endpoint with its volume interface, whether the volume
callback is registered, and whether the listener pointer is set. -/
structure VolumeEndpoint where
  guid : String
  endpoint : Option String
  endPointVolume : Bool
  controlChange : Bool
  audioDevListener : Bool
  deriving DecidableEq

structure AudioSession where
  sessionManager : Bool
  sessionControl : Bool
  sessionNotification : Bool
  deriving DecidableEq

namespace VolumeEndpoint

def initial : VolumeEndpoint := ⟨"", none, false, false, false⟩

def getAudioEndPoint (calls : EndpointCalls) (guid : String) (notification : VolumeEndpoint) :
    VolumeEndpoint × Bool :=
  let notification := { notification with guid := guid }
  if guid = "" then
    match calls.getDefaultAudioEndpoint with
    | none => (notification, false)
    | some deviceGUID =>
        let notification := { notification with endpoint := some deviceGUID.val }
        if calls.getId then ({ notification with guid := deviceGUID.val }, true)
        else (notification, false)
  else if calls.getDevice then ({ notification with endpoint := some guid }, true)
  else (notification, false)

def attachAudioEndpoint (calls : EndpointCalls) (notification : VolumeEndpoint) :
    VolumeEndpoint × Bool :=
  if notification.endpoint = none then (notification, false)
  else if calls.activateVolume then
    let notification := { notification with endPointVolume := true }
    if calls.registerControlChange then ({ notification with controlChange := true }, true)
    else (notification, false)
  else (notification, false)

def terminate (notification : VolumeEndpoint) : VolumeEndpoint where
  guid := notification.guid
  endpoint := none
  endPointVolume := false
  controlChange := if notification.endPointVolume then false else notification.controlChange
  audioDevListener := false

end VolumeEndpoint

namespace AudioSession

def initial : AudioSession := ⟨false, false, false⟩

def registerForAudioSession (calls : SessionCalls) (endpoint : Option String)
    (session : AudioSession) : AudioSession × Bool :=
  if endpoint = none then (session, false)
  else if calls.activateSessionManager then
    let session := { session with sessionManager := true }
    if calls.getAudioSessionControl then
      if calls.queryInterface then
        let session := { session with sessionControl := true }
        if calls.registerAudioSession then ({ session with sessionNotification := true }, true)
        else (session, false)
      else (session, false)
    else (session, false)
  else (session, false)

def terminate (session : AudioSession) : AudioSession where
  sessionManager := false
  sessionControl := false
  sessionNotification := if session.sessionControl then false else session.sessionNotification

end AudioSession

/-- `endPointNotification` is the registration for device changes, `errorState`
is `m_bErrorState`. -/
structure AudioDeviceListener where
  endPointNotification : Bool
  speaker : VolumeEndpoint
  session : AudioSession
  mic : VolumeEndpoint
  errorState : Bool
  deriving DecidableEq

namespace AudioDeviceListener

def initial : AudioDeviceListener := ⟨false, .initial, .initial, .initial, true⟩

def terminate (listener : AudioDeviceListener) : AudioDeviceListener where
  endPointNotification := false
  speaker := listener.speaker.terminate
  session := listener.session.terminate
  mic := listener.mic.terminate
  errorState := false

/-- `MicVolumeNotification::AttachDevListener`. -/
def attachMic (calls : AttachCalls) (micGUID : String) (listener : AudioDeviceListener) :
    AudioDeviceListener × Bool :=
  let (mic, found) := listener.mic.getAudioEndPoint calls.mic micGUID
  if !found then ({ listener with mic := mic }, false)
  else
    let (mic, attached) := mic.attachAudioEndpoint calls.mic
    if !attached then ({ listener with mic := mic }, false)
    else ({ listener with mic := { mic with audioDevListener := true } }, true)

/-- `SpeakerVolumeNotification::AttachDevListener`. -/
def attachSpeaker (calls : AttachCalls) (speakerGUID : String)
    (listener : AudioDeviceListener) : AudioDeviceListener × Bool :=
  let (speaker, found) := listener.speaker.getAudioEndPoint calls.speaker speakerGUID
  if !found then ({ listener with speaker := speaker }, false)
  else
    let (speaker, attached) := speaker.attachAudioEndpoint calls.speaker
    if !attached then ({ listener with speaker := speaker }, false)
    else
      let (session, registered) :=
        listener.session.registerForAudioSession calls.session speaker.endpoint
      if !registered then ({ listener with speaker := speaker, session := session }, false)
      else ({ listener with
        speaker := { speaker with audioDevListener := true }
        session := session }, true)

def attachWatcher (calls : AttachCalls) (speakerGUID micGUID : String)
    (listener : AudioDeviceListener) : AudioDeviceListener × Bool :=
  let listener := { listener.terminate with errorState := true }
  if !calls.coCreateInstance then (listener, false)
  else if !calls.registerEndpointNotification then (listener, false)
  else
    let listener := { listener with endPointNotification := true }
    let (listener, speakerAttached) := listener.attachSpeaker calls speakerGUID
    if !speakerAttached then (listener, false)
    else
      let (listener, micAttached) := listener.attachMic calls micGUID
      if !micAttached then (listener, false)
      else ({ listener with errorState := false }, true)

def processMicChange (calls : AttachCalls) (micGUID : String)
    (listener : AudioDeviceListener) : AudioDeviceListener × Bool :=
  if listener.errorState then listener.attachWatcher calls listener.speaker.guid ""
  else if micGUID ≠ "" ∧ micGUID ≠ listener.mic.guid then
    listener.attachWatcher calls listener.speaker.guid micGUID
  else (listener, true)

def processSpeakerChange (calls : AttachCalls) (spkGuid : String)
    (listener : AudioDeviceListener) : AudioDeviceListener × Bool :=
  if listener.errorState then listener.attachWatcher calls "" listener.mic.guid
  else if spkGuid ≠ "" ∧ spkGuid ≠ listener.speaker.guid then
    listener.attachWatcher calls spkGuid listener.mic.guid
  else (listener, true)

end AudioDeviceListener

end FiberApp.CoreAudio
