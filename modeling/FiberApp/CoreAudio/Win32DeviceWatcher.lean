import FiberApp.CoreAudio.AudioDeviceListener

/-! `Win32DeviceWatcher` of `win32devicemanager.cc`: its window, its two device
notifications, and the audio listener it attaches in place of one of them. -/

set_option autoImplicit false

namespace FiberApp.CoreAudio

structure WindowsVersion where
  major : Nat
  minor : Nat
  deriving DecidableEq, Repr

/-- Windows 7 is version 6.1; Vista has the same major version. -/
def WindowsVersion.hasDeviceEnumerator (version : WindowsVersion) : Bool :=
  decide (6 ≤ version.major) &&
    (decide (version.major = 6 ∧ 1 ≤ version.minor) || decide (version.major ≠ 6))

/-- A message of `PostSetSpeakerGUID` or `PostSetMicGUID`. -/
inductive GuidRequest
  | speaker (guid : String)
  | mic (guid : String)
  deriving DecidableEq, Repr

/-- A listener object with the requests in the queue of its dispatcher thread. -/
structure ListenerObject where
  id : Nat
  listener : AudioDeviceListener
  requests : List GuidRequest
  deriving DecidableEq

namespace ListenerObject

def processRequest (calls : AttachCalls) (listener : AudioDeviceListener) :
    GuidRequest → AudioDeviceListener × Bool
  | .speaker guid => listener.processSpeakerChange calls guid
  | .mic guid => listener.processMicChange calls guid

/-- The dispatcher thread takes the oldest request. -/
def handleRequest (calls : AttachCalls) (object : ListenerObject) : Option ListenerObject :=
  match object.requests with
  | [] => none
  | request :: rest =>
      some { object with
        listener := (processRequest calls object.listener request).1
        requests := rest }

/-- As many requests as the list has outcomes for, unless the queue is empty before. -/
def handleRequests : List AttachCalls → ListenerObject → ListenerObject
  | [], object => object
  | calls :: rest, object =>
      match object.handleRequest calls with
      | none => object
      | some object => object.handleRequests rest

def terminate (object : ListenerObject) : ListenerObject :=
  { object with listener := object.listener.terminate }

/-- `Terminate` and `delete`. The destructor tells the dispatcher thread to quit and
terminates again, and the thread goes on with its queue: `early` between the two, `late`
until the members are `NULL`. What it handles then registers nothing, and the system's
references keep what is registered. -/
def terminateAndDelete (early late : List AttachCalls) (object : ListenerObject) :
    ListenerObject :=
  let object := object.terminate.handleRequests early
  { object.terminate.handleRequests late with requests := [] }

end ListenerObject

/-- The watcher, the device notifications that are registered with the system for its
window, and the listener objects: the one it points to, those still alive that it no
longer points to, and the deleted ones as `delete` left them. `active` is ghost state: the
last `Start` succeeded and no `Stop` followed. -/
structure Win32DeviceWatcher where
  version : WindowsVersion
  window : Bool
  audioNotify : Bool
  videoNotify : Bool
  deviceEnumeratorSupported : Bool
  audioListenerEnabled : Bool
  audioListener : Option ListenerObject
  audioRegistrations : Nat
  videoRegistrations : Nat
  leaked : List ListenerObject
  allocated : Nat
  deleted : List ListenerObject
  active : Bool
  deriving DecidableEq

structure StartOutcomes where
  createWindow : Bool
  allocateListener : Bool
  attach : AttachCalls
  registerAudio : Bool
  registerVideo : Bool
  deriving DecidableEq

namespace Win32DeviceWatcher

def initial (version : WindowsVersion) : Win32DeviceWatcher where
  version := version
  window := false
  audioNotify := false
  videoNotify := false
  deviceEnumeratorSupported := false
  audioListenerEnabled := false
  audioListener := none
  audioRegistrations := 0
  videoRegistrations := 0
  leaked := []
  allocated := 0
  deleted := []
  active := false

def registerAudio (succeeds : Bool) (watcher : Win32DeviceWatcher) : Win32DeviceWatcher :=
  { watcher with
    audioNotify := succeeds
    audioRegistrations := watcher.audioRegistrations + succeeds.toNat }

def registerVideo (succeeds : Bool) (watcher : Win32DeviceWatcher) : Win32DeviceWatcher :=
  { watcher with
    videoNotify := succeeds
    videoRegistrations := watcher.videoRegistrations + succeeds.toNat }

/-- A null handle is refused by the system. -/
def unregisterVideo (watcher : Win32DeviceWatcher) : Win32DeviceWatcher :=
  { watcher with
    videoNotify := false
    videoRegistrations := watcher.videoRegistrations - watcher.videoNotify.toNat }

def unregisterAudio (watcher : Win32DeviceWatcher) : Win32DeviceWatcher :=
  { watcher with
    audioRegistrations := watcher.audioRegistrations - watcher.audioNotify.toNat }

def deleteListener (early late : List AttachCalls) (watcher : Win32DeviceWatcher) :
    Win32DeviceWatcher :=
  match watcher.audioListener with
  | none => watcher
  | some object =>
      { watcher with
        audioListener := none
        deleted := object.terminateAndDelete early late :: watcher.deleted }

/-- A pointer that is overwritten leaves its object behind. -/
def pointTo (object : Option ListenerObject) (watcher : Win32DeviceWatcher) :
    Win32DeviceWatcher :=
  { watcher with
    audioListener := object
    leaked := watcher.audioListener.toList ++ watcher.leaked }

def stop (early late : List AttachCalls) (watcher : Win32DeviceWatcher) :
    Win32DeviceWatcher :=
  let watcher := watcher.unregisterVideo
  let watcher :=
    if !watcher.deviceEnumeratorSupported then watcher.unregisterAudio
    else watcher.deleteListener early late
  { watcher.pointTo none with
    audioNotify := false
    window := false
    active := false }

/-- The part of `Start` under `audio_listener_enabled_`. -/
def attachListener (outcomes : StartOutcomes) (watcher : Win32DeviceWatcher) :
    Win32DeviceWatcher :=
  let watcher :=
    if watcher.version.hasDeviceEnumerator then
      { watcher with deviceEnumeratorSupported := true }
    else watcher
  if watcher.deviceEnumeratorSupported then
    if outcomes.allocateListener then
      let (listener, attached) := AudioDeviceListener.initial.attachWatcher outcomes.attach "" ""
      let watcher :=
        { watcher.pointTo (some ⟨watcher.allocated, listener, []⟩) with
          allocated := watcher.allocated + 1 }
      if attached then watcher else { watcher with deviceEnumeratorSupported := false }
    else { watcher.pointTo none with deviceEnumeratorSupported := false }
  else watcher

/-- The registrations at the end of `Start`, whose listener has no requests yet. -/
def registerNotifications (outcomes : StartOutcomes) (watcher : Win32DeviceWatcher) :
    Bool × Win32DeviceWatcher :=
  let watcher :=
    if !watcher.deviceEnumeratorSupported then watcher.registerAudio outcomes.registerAudio
    else watcher
  if !watcher.deviceEnumeratorSupported && !watcher.audioNotify then (false, watcher.stop [] [])
  else
    let watcher := watcher.registerVideo outcomes.registerVideo
    if !watcher.videoNotify then (false, watcher.stop [] []) else (true, watcher)

/-- `Create` refuses a second window. -/
def start (outcomes : StartOutcomes) (watcher : Win32DeviceWatcher) :
    Bool × Win32DeviceWatcher :=
  if watcher.window || !outcomes.createWindow then (false, watcher)
  else
    let watcher := { watcher with window := true }
    let watcher :=
      if watcher.audioListenerEnabled then watcher.attachListener outcomes else watcher
    watcher.registerNotifications outcomes

def post (request : GuidRequest) (watcher : Win32DeviceWatcher) : Bool × Win32DeviceWatcher :=
  match watcher.audioListener with
  | none => (false, watcher)
  | some object =>
      (true, { watcher with
        audioListener := some { object with requests := object.requests ++ [request] } })

end Win32DeviceWatcher

/-- `handleRequest` and `handleLeaked` are steps of the dispatcher threads; `stop` has the
outcomes of the requests that the thread handles meanwhile. -/
inductive WatcherOperation
  | enableAudioNotifyMechanism (enable : Bool)
  | start (outcomes : StartOutcomes)
  | stop (early late : List AttachCalls)
  | post (request : GuidRequest)
  | handleRequest (calls : AttachCalls)
  | handleLeaked (index : Nat) (calls : AttachCalls)

namespace Win32DeviceWatcher

def step (watcher : Win32DeviceWatcher) : WatcherOperation → Option Win32DeviceWatcher
  | .enableAudioNotifyMechanism enable => some { watcher with audioListenerEnabled := enable }
  | .start outcomes =>
      let (started, watcher) := watcher.start outcomes
      some { watcher with active := started }
  | .stop early late => some (watcher.stop early late)
  | .post request => some (watcher.post request).2
  | .handleRequest calls => do
      let object ← watcher.audioListener
      let object ← object.handleRequest calls
      some { watcher with audioListener := some object }
  | .handleLeaked index calls => do
      let object ← watcher.leaked[index]?
      let object ← object.handleRequest calls
      some { watcher with leaked := watcher.leaked.set index object }

end Win32DeviceWatcher

end FiberApp.CoreAudio
