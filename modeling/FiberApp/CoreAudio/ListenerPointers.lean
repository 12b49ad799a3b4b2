import FiberApp.CoreAudio.AudioDeviceListener
import FiberApp.Foundation.Registrations

/-! The interface pointers behind `AudioDeviceListenerWin`, with a log of the
registrations that succeed, the calls that undo them, and the pointers that are dropped. -/

set_option autoImplicit false

namespace FiberApp.CoreAudio

open Foundation

abbrev ObjectId := Nat

inductive NotificationKind
  | endPoint
  | speakerVolume
  | speakerSession
  | micVolume
  deriving DecidableEq, Repr

abbrev RegistrationLog := List (NotificationKind × RegistrationEvent ObjectId)

/-- The objects that the calls of an attach return where they succeed. -/
structure AttachObjects where
  enumerator : ObjectId
  speakerEndpoint : ObjectId
  speakerEndPointVolume : ObjectId
  audioSessionManager : ObjectId
  audioSessionControl : ObjectId
  micEndpoint : ObjectId
  micEndPointVolume : ObjectId
  deriving DecidableEq, Repr

def unregister (kind : NotificationKind) (pointer : Option ObjectId) : RegistrationLog :=
  pointer.toList.map fun object => (kind, .unregistered object)

/-- The pointer is set to null or written over. -/
def dropPointer (kind : NotificationKind) (pointer : Option ObjectId) : RegistrationLog :=
  pointer.toList.map fun object => (kind, .dropped object)

structure EndPointNotification where
  enumerator : Option ObjectId
  audioDevListener : Bool
  deriving DecidableEq, Repr

namespace EndPointNotification

def initial : EndPointNotification := ⟨none, false⟩

def attachDevListener (registerEndpointNotification : Bool) (enumerator : ObjectId)
    (notification : EndPointNotification) : EndPointNotification × RegistrationLog × Bool :=
  let log := dropPointer .endPoint notification.enumerator
  let notification := { notification with enumerator := some enumerator }
  if !registerEndpointNotification then (notification, log, false)
  else
    ({ notification with audioDevListener := true },
      log ++ [(.endPoint, .registered enumerator)], true)

def terminate (notification : EndPointNotification) : EndPointNotification × RegistrationLog :=
  (initial, unregister .endPoint notification.enumerator ++
    dropPointer .endPoint notification.enumerator)

end EndPointNotification

/-- What `MicVolumeNotification` and `SpeakerVolumeNotification` share. -/
structure VolumeNotification where
  enumerator : Option ObjectId
  endpoint : Option ObjectId
  endPointVolume : Option ObjectId
  audioDevListener : Bool
  deriving DecidableEq, Repr

namespace VolumeNotification

def initial : VolumeNotification := ⟨none, none, none, false⟩

/-- The default endpoint is kept also when its id cannot be read. -/
def getAudioEndPoint (calls : EndpointCalls) (endpoint : ObjectId) (guid : String)
    (notification : VolumeNotification) : VolumeNotification × Bool :=
  if guid = "" then
    match calls.getDefaultAudioEndpoint with
    | none => (notification, false)
    | some _ => ({ notification with endpoint := some endpoint }, calls.getId)
  else if calls.getDevice then ({ notification with endpoint := some endpoint }, true)
  else (notification, false)

def attachAudioEndpoint (kind : NotificationKind) (calls : EndpointCalls)
    (endPointVolume : ObjectId) (notification : VolumeNotification) :
    VolumeNotification × RegistrationLog × Bool :=
  if notification.endpoint = none then (notification, [], false)
  else if calls.activateVolume then
    let log := dropPointer kind notification.endPointVolume
    let notification := { notification with endPointVolume := some endPointVolume }
    if calls.registerControlChange then
      (notification, log ++ [(kind, .registered endPointVolume)], true)
    else (notification, log, false)
  else (notification, [], false)

/-- `MicVolumeNotification::AttachDevListener` -/
def attachDevListener (calls : AttachCalls) (objects : AttachObjects) (micGUID : String)
    (notification : VolumeNotification) : VolumeNotification × RegistrationLog × Bool :=
  let notification := { notification with enumerator := some objects.enumerator }
  let (notification, found) :=
    notification.getAudioEndPoint calls.mic objects.micEndpoint micGUID
  if !found then (notification, [], false)
  else
    let (notification, log, attached) :=
      notification.attachAudioEndpoint .micVolume calls.mic objects.micEndPointVolume
    if !attached then (notification, log, false)
    else ({ notification with audioDevListener := true }, log, true)

/-- `MicVolumeNotification::Terminate` -/
def terminate (notification : VolumeNotification) : VolumeNotification × RegistrationLog :=
  (initial, unregister .micVolume notification.endPointVolume ++
    dropPointer .micVolume notification.endPointVolume)

end VolumeNotification

structure SpeakerNotification where
  volume : VolumeNotification
  audioSessionManager : Option ObjectId
  audioSessionControl : Option ObjectId
  deriving DecidableEq, Repr

namespace SpeakerNotification

def initial : SpeakerNotification := ⟨.initial, none, none⟩

def registerForAudioSession (calls : SessionCalls) (objects : AttachObjects)
    (notification : SpeakerNotification) : SpeakerNotification × RegistrationLog × Bool :=
  if notification.volume.endpoint = none then (notification, [], false)
  else if calls.activateSessionManager then
    let notification :=
      { notification with audioSessionManager := some objects.audioSessionManager }
    if calls.getAudioSessionControl then
      if calls.queryInterface then
        let log := dropPointer .speakerSession notification.audioSessionControl
        let notification :=
          { notification with audioSessionControl := some objects.audioSessionControl }
        if calls.registerAudioSession then
          (notification, log ++ [(.speakerSession, .registered objects.audioSessionControl)],
            true)
        else (notification, log, false)
      else (notification, [], false)
    else (notification, [], false)
  else (notification, [], false)

def attachDevListener (calls : AttachCalls) (objects : AttachObjects) (speakerGUID : String)
    (notification : SpeakerNotification) : SpeakerNotification × RegistrationLog × Bool :=
  let volume := { notification.volume with enumerator := some objects.enumerator }
  let (volume, found) :=
    volume.getAudioEndPoint calls.speaker objects.speakerEndpoint speakerGUID
  if !found then ({ notification with volume := volume }, [], false)
  else
    let (volume, log, attached) :=
      volume.attachAudioEndpoint .speakerVolume calls.speaker objects.speakerEndPointVolume
    let notification := { notification with volume := volume }
    if !attached then (notification, log, false)
    else
      let (notification, sessionLog, registered) :=
        notification.registerForAudioSession calls.session objects
      if !registered then (notification, log ++ sessionLog, false)
      else
        ({ notification with volume := { notification.volume with audioDevListener := true } },
          log ++ sessionLog, true)

def terminate (notification : SpeakerNotification) : SpeakerNotification × RegistrationLog :=
  (initial, unregister .speakerVolume notification.volume.endPointVolume ++
    unregister .speakerSession notification.audioSessionControl ++
    dropPointer .speakerVolume notification.volume.endPointVolume ++
    dropPointer .speakerSession notification.audioSessionControl)

end SpeakerNotification

/-- A notification is `none` when it could not be allocated. -/
structure ListenerPointers where
  enumerator : Option ObjectId
  endPoint : Option EndPointNotification
  speaker : Option SpeakerNotification
  mic : Option VolumeNotification
  errorState : Bool
  log : RegistrationLog
  deriving DecidableEq, Repr

namespace ListenerPointers

/-- The listener as constructed, with the notifications that could be allocated. -/
def constructed (endPoint speaker mic : Bool) : ListenerPointers where
  enumerator := none
  endPoint := if endPoint then some .initial else none
  speaker := if speaker then some .initial else none
  mic := if mic then some .initial else none
  errorState := true
  log := []

def terminate (listener : ListenerPointers) : ListenerPointers where
  enumerator := none
  endPoint := listener.endPoint.map fun notification => notification.terminate.1
  speaker := listener.speaker.map fun notification => notification.terminate.1
  mic := listener.mic.map fun notification => notification.terminate.1
  errorState := false
  log := listener.log ++
    (listener.endPoint.elim [] fun notification => notification.terminate.2) ++
    (listener.speaker.elim [] fun notification => notification.terminate.2) ++
    (listener.mic.elim [] fun notification => notification.terminate.2)

/-- The enumerator that is passed has just been created. -/
def attachEndPoint (calls : AttachCalls) (objects : AttachObjects)
    (listener : ListenerPointers) : ListenerPointers × Bool :=
  match listener.endPoint with
  | none => (listener, false)
  | some notification =>
      let (notification, log, attached) := notification.attachDevListener
        calls.registerEndpointNotification objects.enumerator
      ({ listener with endPoint := some notification, log := listener.log ++ log }, attached)

def attachSpeaker (calls : AttachCalls) (objects : AttachObjects) (speakerGUID : String)
    (listener : ListenerPointers) : ListenerPointers × Bool :=
  match listener.speaker with
  | none => (listener, false)
  | some notification =>
      let (notification, log, attached) :=
        notification.attachDevListener calls objects speakerGUID
      ({ listener with speaker := some notification, log := listener.log ++ log }, attached)

def attachMic (calls : AttachCalls) (objects : AttachObjects) (micGUID : String)
    (listener : ListenerPointers) : ListenerPointers × Bool :=
  match listener.mic with
  | none => (listener, false)
  | some notification =>
      let (notification, log, attached) := notification.attachDevListener calls objects micGUID
      ({ listener with mic := some notification, log := listener.log ++ log }, attached)

def attachWatcher (calls : AttachCalls) (objects : AttachObjects) (speakerGUID micGUID : String)
    (listener : ListenerPointers) : ListenerPointers × Bool :=
  let listener := { listener.terminate with errorState := true }
  if !calls.coCreateInstance then (listener, false)
  else
    let listener := { listener with enumerator := some objects.enumerator }
    let (listener, attached) := listener.attachEndPoint calls objects
    if !attached then (listener, false)
    else
      let (listener, attached) := listener.attachSpeaker calls objects speakerGUID
      if !attached then (listener, false)
      else
        let (listener, attached) := listener.attachMic calls objects micGUID
        if !attached then (listener, false)
        else ({ listener with errorState := false }, true)

end ListenerPointers

end FiberApp.CoreAudio
