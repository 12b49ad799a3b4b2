import Mathlib.Logic.Function.Basic
import FiberApp.Devices.AudioHardware
import FiberApp.Devices.HexDeviceId

/-! The map of `skinnysipmanager.cpp` that says which audio devices are USB devices on
Thunderbolt, next to the saved device lists of both directions. -/

set_option autoImplicit false

namespace FiberApp.Devices

/-- The part that the preprocessor decides, with the function that only a Mac has. -/
structure ThunderboltBuild where
  macOSX : Bool
  fixDefaultDeviceId : String → String

/-- What the system answers about its devices while one message is handled. -/
structure ThunderboltHardware where
  getAudioHardwareIdFromDeviceId : DeviceConfigType → String → String → Option HardwareIds
  isUSBDeviceOnThunderboltMac : Int32 → Int32 → Bool

/-- The two numbers are read into variables that hold nothing yet, 0 here. -/
def isUSBDeviceOnThunderbolt (build : ThunderboltBuild) (hardware : ThunderboltHardware)
    (ids : HardwareIds) : Bool :=
  if build.macOSX && ids.classId == "USB" then
    let (vendorRead, vendorId) := getIntDeviceIdFromHex 0 ids.vendorId.toList 0
    let (productRead, productId) := getIntDeviceIdFromHex 0 ids.productId.toList 0
    vendorRead && productRead && hardware.isUSBDeviceOnThunderboltMac vendorId productId
  else false

abbrev UsbOnThnMap : Type := String → Option Bool

section Update

variable (build : ThunderboltBuild) (hardware : ThunderboltHardware)

/-- The value with which a device enters the map. -/
def isOnThn (devName devGuid : String) (capture : Bool) : Bool :=
  let devConfigType := if capture then .mic else .speaker
  match hardware.getAudioHardwareIdFromDeviceId devConfigType devName devGuid with
  | some ids => isUSBDeviceOnThunderbolt build hardware ids
  | none => false

def updateUsbOnThunderboltMap (usbOnThnMap : UsbOnThnMap) (devName devGuid : String)
    (added capture : Bool) : UsbOnThnMap :=
  match added, usbOnThnMap devGuid with
  | true, none =>
      Function.update usbOnThnMap devGuid (some (isOnThn build hardware devName devGuid capture))
  | true, some _ => usbOnThnMap
  | false, some _ => Function.update usbOnThnMap devGuid none
  | false, none => usbOnThnMap

def updateUsbOnThunderboltMapAll (devList : List Device) (added capture : Bool)
    (usbOnThnMap : UsbOnThnMap) : UsbOnThnMap :=
  devList.foldl (fun usbOnThnMap dev =>
    updateUsbOnThunderboltMap build hardware usbOnThnMap dev.name dev.id added capture) usbOnThnMap

end Update

def fixedDevGuid (build : ThunderboltBuild) (devGuid : String) : String :=
  if build.macOSX then build.fixDefaultDeviceId devGuid else devGuid

def isUsbDeviceInThnMap (build : ThunderboltBuild) (usbOnThnMap : UsbOnThnMap)
    (devGuid : String) : Bool :=
  (usbOnThnMap (fixedDevGuid build devGuid)).getD false

/-- The build and the feature, which stay as they are during a run. -/
structure ThunderboltOptions where
  build : ThunderboltBuild
  depreferUsbOnThunderbolt : Bool

structure ThunderboltDevices where
  changes : DeviceChanges
  usbOnThnMap : UsbOnThnMap

def deviceCpy (locDev cricDev : List Device) : List Device := locDev ++ cricDev

/-- The copies at the start of `GetPlatformDevices`, which add to the lists that are there. -/
def DeviceChanges.copyPlatformDevices (changes : DeviceChanges) (platform : DeviceLists) :
    DeviceChanges :=
  { changes with saved :=
      ⟨deviceCpy changes.saved.audioCapture platform.audioCapture,
        deviceCpy changes.saved.audioPlayout platform.audioPlayout,
        deviceCpy changes.saved.videoCapture platform.videoCapture⟩ }

namespace ThunderboltDevices

def initial : ThunderboltDevices :=
  ⟨⟨⟨[], [], []⟩, ⟨.devNone, .actNone, "", ""⟩, [], []⟩, fun _ => none⟩

def getPlatformDevices (options : ThunderboltOptions) (hardware : ThunderboltHardware)
    (platform : DeviceLists) (devices : ThunderboltDevices) : ThunderboltDevices :=
  let changes := devices.changes.copyPlatformDevices platform
  if options.depreferUsbOnThunderbolt then
    ⟨changes, updateUsbOnThunderboltMapAll options.build hardware changes.saved.audioPlayout true
      false (updateUsbOnThunderboltMapAll options.build hardware changes.saved.audioCapture true
        true devices.usbOnThnMap)⟩
  else ⟨changes, devices.usbOnThnMap⟩

/-- The pass over the lists that `dev_` asks for. -/
def findAndSetDevice (platform : DeviceLists) (changes : DeviceChanges) : Option DeviceChanges :=
  if changes.dev.devAction = .added then changes.findAndSetAddedDevice platform
  else changes.findAndSetRemovedDevice platform

/-- `MSG_DEVICES_CHANGED`, once it is taken off the queue. -/
def handleDevicesChanged (options : ThunderboltOptions) (hardware : ThunderboltHardware)
    (platform : DeviceLists) (retry : Bool) (devices : ThunderboltDevices) : ThunderboltDevices :=
  match findAndSetDevice platform devices.changes with
  | none => ⟨devices.changes.retryOnce retry, devices.usbOnThnMap⟩
  | some found =>
      let found := found.onDevicesChange (decide (devices.changes.dev.devAction = .added))
      let usbOnThnMap :=
        if found.dev.devType ≠ .video ∧ options.depreferUsbOnThunderbolt = true then
          updateUsbOnThunderboltMap options.build hardware devices.usbOnThnMap found.dev.devName
            found.dev.devGuid (decide (found.dev.devAction = .added))
            (decide (found.dev.devType = .audioIn))
        else devices.usbOnThnMap
      ⟨found.notifyLocalDevicesChange, usbOnThnMap⟩

end ThunderboltDevices

/-- A message meets the platform's lists and the hardware of its moment. -/
inductive ThunderboltStep
  | getPlatformDevices (hardware : ThunderboltHardware) (platform : DeviceLists)
  | onDevicesChange (dAction : Bool)
  | devicesChanged (hardware : ThunderboltHardware) (platform : DeviceLists) (retry : Bool)
  | relabelAutomaticDevices (sAutoMicName sAutoSpeakerName : String)

def ThunderboltDevices.step (options : ThunderboltOptions) (devices : ThunderboltDevices) :
    ThunderboltStep → Option ThunderboltDevices
  | .getPlatformDevices hardware platform =>
      some (devices.getPlatformDevices options hardware platform)
  | .onDevicesChange dAction =>
      some { devices with changes := devices.changes.onDevicesChange dAction }
  | .devicesChanged hardware platform retry =>
      if retry ∈ devices.changes.delayed then
        some ({ devices with changes := devices.changes.takeDevicesChanged retry }
          |>.handleDevicesChanged options hardware platform retry)
      else none
  | .relabelAutomaticDevices sAutoMicName sAutoSpeakerName =>
      some { devices with
        changes := devices.changes.relabelAutomaticDevices sAutoMicName sAutoSpeakerName }

end FiberApp.Devices
