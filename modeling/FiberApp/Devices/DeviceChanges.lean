import Mathlib.Data.List.Basic

/-! The device lists `skinnysipmanager.cpp` saves, the passes that bring them in
line with the platform's lists, and the delayed `MSG_DEVICES_CHANGED` messages. -/

set_option autoImplicit false

namespace FiberApp.Devices

structure Device where
  name : String
  id : String
  builtIn : Bool
  deriving DecidableEq, Repr

def automaticDeviceName : String := "Automatic Device"

def automaticDeviceGuid : String := "-1"

def automaticDevice : Device := ⟨automaticDeviceName, automaticDeviceGuid, true⟩

inductive DevType
  | devNone
  | audioIn
  | audioOut
  | video
  deriving DecidableEq, Repr

inductive DevAction
  | actNone
  | added
  | removed
  | updated
  deriving DecidableEq, Repr

structure ChangeDevInfo where
  devType : DevType
  devAction : DevAction
  devGuid : String
  devName : String
  deriving DecidableEq, Repr

structure DeviceLists where
  audioCapture : List Device
  audioPlayout : List Device
  videoCapture : List Device
  deriving DecidableEq, Repr

def DeviceLists.list (lists : DeviceLists) : DevType → List Device
  | .devNone => []
  | .audioIn => lists.audioCapture
  | .audioOut => lists.audioPlayout
  | .video => lists.videoCapture

def DeviceLists.withList (lists : DeviceLists) (devices : List Device) : DevType → DeviceLists
  | .devNone => lists
  | .audioIn => { lists with audioCapture := devices }
  | .audioOut => { lists with audioPlayout := devices }
  | .video => { lists with videoCapture := devices }

/-- `GetAudioInputDevices` and `GetAudioOutputDevices` over what the operating
system lists. -/
def getAudioDevices (devices : List Device) : List Device :=
  if devices.isEmpty then [] else automaticDevice :: devices

/-- The lists the device manager returns while the operating system has these
devices. -/
def platformLists (system : DeviceLists) : DeviceLists where
  audioCapture := getAudioDevices system.audioCapture
  audioPlayout := getAudioDevices system.audioPlayout
  videoCapture := system.videoCapture

/-- The saved lists, `dev_`, the data of the delayed `MSG_DEVICES_CHANGED`
messages and the change lists posted to the browser thread. -/
structure DeviceChanges where
  saved : DeviceLists
  dev : ChangeDevInfo
  delayed : List Bool
  notified : List (List ChangeDevInfo)
  deriving DecidableEq, Repr

namespace DeviceChanges

def getPlatformDevices (platform : DeviceLists) : DeviceChanges :=
  ⟨platform, ⟨.devNone, .actNone, "", ""⟩, [], []⟩

def isDeviceSame (savedDevice newDevice : Device) : Bool := savedDevice.id == newDevice.id

def isNew (saved : List Device) (device : Device) : Bool :=
  !saved.any fun savedDevice => isDeviceSame savedDevice device

def isGone (platform : List Device) (device : Device) : Bool :=
  !platform.any fun newDevice => isDeviceSame device newDevice

def addDeviceOf (type : DevType) (platform : DeviceLists) (changes : DeviceChanges) :
    Option DeviceChanges :=
  match (platform.list type).find? (isNew (changes.saved.list type)) with
  | none => none
  | some device => some { changes with
      dev := ⟨type, .added, device.id, device.name⟩
      saved := changes.saved.withList (changes.saved.list type ++ [device]) type }

/-- At most one device is added; `none` when there is nothing to add. -/
def findAndSetAddedDevice (platform : DeviceLists) (changes : DeviceChanges) :
    Option DeviceChanges :=
  (changes.addDeviceOf .audioIn platform) <|> (changes.addDeviceOf .audioOut platform) <|>
    (changes.addDeviceOf .video platform)

def removeDeviceOf (type : DevType) (platform : DeviceLists) (changes : DeviceChanges) :
    Option DeviceChanges :=
  match (changes.saved.list type).find? (isGone (platform.list type)) with
  | none => none
  | some device => some { changes with
      dev := ⟨type, .removed, device.id, device.name⟩
      saved := changes.saved.withList
        ((changes.saved.list type).eraseP (isGone (platform.list type))) type }

def findAndSetRemovedDevice (platform : DeviceLists) (changes : DeviceChanges) :
    Option DeviceChanges :=
  (changes.removeDeviceOf .audioIn platform) <|> (changes.removeDeviceOf .audioOut platform) <|>
    (changes.removeDeviceOf .video platform)

def postDevicesChanged (changes : DeviceChanges) (retry : Bool) : DeviceChanges :=
  { changes with delayed := changes.delayed ++ [retry] }

def onDevicesChange (changes : DeviceChanges) (dAction : Bool) : DeviceChanges :=
  { changes with
    dev := { changes.dev with devAction := if dAction then .added else .removed } }
  |>.postDevicesChanged true

def notifyLocalDevicesChange (changes : DeviceChanges) : DeviceChanges :=
  { changes with notified := changes.notified ++ [[changes.dev]] }

/-- The pass found nothing: the message is posted once more, without its retry. -/
def retryOnce (changes : DeviceChanges) (retry : Bool) : DeviceChanges :=
  if retry then changes.postDevicesChanged false else changes

def takeDevicesChanged (changes : DeviceChanges) (retry : Bool) : DeviceChanges :=
  { changes with delayed := changes.delayed.erase retry }

/-- `MSG_DEVICES_CHANGED`, once it is taken off the queue. -/
def handleDevicesChanged (platform : DeviceLists) (changes : DeviceChanges) (retry : Bool) :
    DeviceChanges :=
  if changes.dev.devAction = .added then
    match changes.findAndSetAddedDevice platform with
    | none => changes.retryOnce retry
    | some found => (found.onDevicesChange true).notifyLocalDevicesChange
  else
    match changes.findAndSetRemovedDevice platform with
    | none => changes.retryOnce retry
    | some found => (found.onDevicesChange false).notifyLocalDevicesChange

def relabelFirst (name : String) : List Device → List Device
  | [] => []
  | first :: rest => { first with name := name } :: rest

def relabelInfo (type : DevType) (name : String) : List Device → List ChangeDevInfo
  | [] => []
  | first :: _ => if first.name ≠ name then [⟨type, .updated, first.id, name⟩] else []

/-- The end of `updateAutomaticDeviceLabel`, for the two names it has found. -/
def relabelAutomaticDevices (changes : DeviceChanges) (sAutoMicName sAutoSpeakerName : String) :
    DeviceChanges :=
  let updatedDevicesList := relabelInfo .audioIn sAutoMicName changes.saved.audioCapture ++
    relabelInfo .audioOut sAutoSpeakerName changes.saved.audioPlayout
  { changes with
    saved := { changes.saved with
      audioCapture := relabelFirst sAutoMicName changes.saved.audioCapture
      audioPlayout := relabelFirst sAutoSpeakerName changes.saved.audioPlayout }
    notified :=
      if updatedDevicesList.isEmpty then changes.notified
      else changes.notified ++ [updatedDevicesList] }

end DeviceChanges

end FiberApp.Devices
