import FiberApp.Devices.HardwareId

/-! The default devices kept by `win32devicemanager.cc` and how a refresh updates them,
with the answers of the operating system as arguments. -/

set_option autoImplicit false

namespace FiberApp.CoreAudio

open Devices

/-- A `Device` with the field the default devices also use. -/
structure DefaultDevice extends Device where
  isJackAvailable : Bool
  deriving DecidableEq, Repr

/-- Whether each step from the endpoint to its jack description succeeds. -/
@[ext] structure JackAnswers where
  deviceTopology : Bool
  connector : Bool
  connectedTo : Bool
  part : Bool
  jackDescription : Bool
  deriving DecidableEq, Repr

/-- The answers for the default endpoint of one role. A text or number is `none` when its
query fails or gives a null pointer. -/
structure EndpointAnswers where
  defaultEndpoint : Bool
  propertyStore : Bool
  friendlyName : Option String
  id : Option String
  enumeratorName : Option String
  formFactor : Option Nat
  jack : JackAnswers
  deriving DecidableEq, Repr

namespace EndpointAnswers

def isBuiltInDevice (answers : EndpointAnswers) : Bool :=
  let ifaceName := answers.enumeratorName.getD ""
  if ifaceName = "USB" ∨ ifaceName = "usb" then false
  else if answers.formFactor.getD 0 = digitalAudioDisplayDevice then false
  else true

def getJackAvailability (answers : EndpointAnswers) : Bool :=
  answers.jack.deviceTopology && answers.jack.connector && answers.jack.connectedTo &&
    answers.jack.part && answers.jack.jackDescription

/-- The flag is the result code. `none` is a string assigned from the null pointer that a
failed `GetId` leaves. -/
def cricketDeviceFromImmDevice (answers : EndpointAnswers) (out : DefaultDevice) :
    Option (Bool × DefaultDevice) :=
  if !answers.propertyStore then some (false, out)
  else
    match answers.friendlyName with
    | none => some (false, { out with isJackAvailable := answers.getJackAvailability })
    | some name =>
        match answers.id with
        | none => none
        | some guid =>
            some (true, ⟨⟨name, guid, answers.isBuiltInDevice⟩, answers.getJackAvailability⟩)

/-- What the calls returned is dropped. -/
def getDefaultDevice (answers : EndpointAnswers) (out : DefaultDevice) :
    Option (Bool × DefaultDevice) :=
  if answers.defaultEndpoint then
    match answers.cricketDeviceFromImmDevice out with
    | none => none
    | some (_, out) => some (true, out)
  else some (true, out)

end EndpointAnswers

structure DefaultDevices where
  defaultCapDevice : DefaultDevice
  defaultCapCommDevice : DefaultDevice
  defaultPlayDevice : DefaultDevice
  defaultPlayCommDevice : DefaultDevice
  deriving DecidableEq, Repr

structure RefreshAnswers where
  createInstance : Bool
  enumAudioEndpoints : Bool
  communications : EndpointAnswers
  console : EndpointAnswers
  deriving DecidableEq, Repr

namespace DefaultDevices

def commDevice (devices : DefaultDevices) (input : Bool) : DefaultDevice :=
  if input then devices.defaultCapCommDevice else devices.defaultPlayCommDevice

def consoleDevice (devices : DefaultDevices) (input : Bool) : DefaultDevice :=
  if input then devices.defaultCapDevice else devices.defaultPlayDevice

def store (devices : DefaultDevices) (input : Bool) (comm console : DefaultDevice) :
    DefaultDevices :=
  if input then { devices with defaultCapCommDevice := comm, defaultCapDevice := console }
  else { devices with defaultPlayCommDevice := comm, defaultPlayDevice := console }

def getCoreAudioDefaultDevices (input : Bool) (answers : RefreshAnswers)
    (devices : DefaultDevices) : Option (Bool × DefaultDevices) :=
  if answers.createInstance && answers.enumAudioEndpoints then do
    let (_, comm) ← answers.communications.getDefaultDevice (devices.commDevice input)
    let (_, console) ← answers.console.getDefaultDevice (devices.consoleDevice input)
    some (true, devices.store input comm console)
  else some (false, devices)

/-- `GetDefaultAudioInputDevices` and `GetDefaultAudioOutputDevices`, from Vista on. -/
def getDefaultAudioDevices (input : Bool) (answers : RefreshAnswers)
    (devices : DefaultDevices) : Option (Bool × DefaultDevices) :=
  match devices.getCoreAudioDefaultDevices input answers with
  | none => none
  | some (_, devices) => some (true, devices)

/-- How `getAutomaticMic` and `getAutomaticSpk` start: a refresh and the communications
device of the direction, whatever the refresh returned. -/
def automaticDevice (input : Bool) (answers : RefreshAnswers) (devices : DefaultDevices) :
    Option (DefaultDevices × DefaultDevice) :=
  match devices.getDefaultAudioDevices input answers with
  | none => none
  | some (_, devices) => some (devices, devices.commDevice input)

/-- A refresh, or an automatic selection with the refresh it makes. -/
inductive Call
  | refresh (input : Bool) (answers : RefreshAnswers)
  | automatic (input : Bool) (answers : RefreshAnswers)
  deriving DecidableEq, Repr

def Call.input : Call → Bool
  | .refresh input _ => input
  | .automatic input _ => input

def Call.answers : Call → RefreshAnswers
  | .refresh _ answers => answers
  | .automatic _ answers => answers

def step (devices : DefaultDevices) (call : Call) : Option DefaultDevices :=
  match devices.getCoreAudioDefaultDevices call.input call.answers with
  | none => none
  | some (_, devices) => some devices

end DefaultDevices

end FiberApp.CoreAudio
