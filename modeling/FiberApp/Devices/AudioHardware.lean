import FiberApp.Devices.DeviceChanges

/-! Hardware ids of audio devices, the devices that match them, and the device
preferred for an automatic selection. -/

set_option autoImplicit false

namespace FiberApp.Devices

inductive DeviceConfigType
  | mic
  | speaker
  deriving DecidableEq, Repr

def deviceTypeString : DeviceConfigType → String
  | .mic => "MIC"
  | .speaker => "SPK"

structure HardwareIds where
  vendorId : String
  productId : String
  classId : String
  deriving DecidableEq, Repr

def HardwareIds.empty : HardwareIds := ⟨"", "", ""⟩

inductive AudioDeviceSelection
  | auto
  | paired
  | manual
  deriving DecidableEq, Repr

structure LocalMediaInfo where
  microphone : String
  microphoneId : String
  speaker : String
  speakerId : String
  audioCaptureSelection : AudioDeviceSelection
  audioPlaybackSelection : AudioDeviceSelection
  deriving DecidableEq, Repr

structure MeetingFeatures where
  biasedAudioDeviceAutoSelection : Bool
  depreferUsbOnThunderbolt : Bool
  labelAutomaticDevice : Bool
  deriving DecidableEq, Repr

/-- What a message handler asks of the features, of the operating system, of the
audio device, of the device configuration and of the base class: the hardware
ids extracted from a device id over what the output strings held before, the
blacklist, the USB devices known to be on Thunderbolt, the built-in devices, the
default devices, the signal meter (`none` when it cannot be read), and the
selection `ChangeDevices` leaves. A default device is none of the saved lists'
placeholders. -/
structure AudioPlatform where
  features : MeetingFeatures
  hardwareIdsWin : DeviceConfigType → String → HardwareIds → Bool × HardwareIds
  isBlacklisted : DeviceConfigType → HardwareIds → String → Bool
  isUsbDeviceInThnMap : String → Bool
  isDeviceBuiltIn : List Device → String → Bool
  defaultCapDevice : Device
  defaultCapCommDevice : Device
  defaultPlayDevice : Device
  defaultPlayCommDevice : Device
  inputSignalMeter : Option Nat
  changeDevices : LocalMediaInfo → LocalMediaInfo → LocalMediaInfo
  defaultCapDevice_ne_automatic : defaultCapDevice.id ≠ automaticDeviceGuid

/-- The id and the name of a device, which the source passes as two strings. -/
structure Endpoint where
  id : String
  name : String
  deriving DecidableEq, Repr

def Device.endpoint (device : Device) : Endpoint := ⟨device.id, device.name⟩

namespace AudioPlatform

def getAudioHardwareIdFromDeviceId (platform : AudioPlatform) (type : DeviceConfigType)
    (deviceId : String) (ids : HardwareIds) (idKeyWithType : Bool) :
    Bool × HardwareIds × String :=
  let (ok, ids) := platform.hardwareIdsWin type deviceId ids
  let ids : HardwareIds := ⟨ids.vendorId.toUpper, ids.productId.toUpper, ids.classId.toUpper⟩
  let deviceKey := if idKeyWithType then deviceTypeString type ++ ":" else ""
  (ok, ids, deviceKey ++ ids.classId ++ ":" ++ ids.vendorId ++ ":" ++ ids.productId)

def matchingDeviceFrom (platform : AudioPlatform) (deviceId : String)
    (devType : DeviceConfigType) : HardwareIds → List Device → Option Device
  | _, [] => none
  | ids, device :: rest =>
      if device.builtIn then matchingDeviceFrom platform deviceId devType ids rest
      else
        let (ok, ids, matchDeviceId) :=
          platform.getAudioHardwareIdFromDeviceId devType device.id ids false
        if ok && matchDeviceId == deviceId then some device
        else matchingDeviceFrom platform deviceId devType ids rest

def getMatchingDevice (platform : AudioPlatform) (deviceId : String)
    (devType : DeviceConfigType) (fromDevices : List Device) : Option Endpoint :=
  (platform.matchingDeviceFrom deviceId devType .empty fromDevices).map Device.endpoint

def withoutTypePrefix (type : DeviceConfigType) (deviceId : String) : String :=
  let deviceTypePrefix := (deviceTypeString type ++ ":").toList
  if deviceTypePrefix.isPrefixOf deviceId.toList then
    String.ofList (deviceId.toList.drop deviceTypePrefix.length)
  else deviceId

def isMicUSBPair (platform : AudioPlatform) (playoutDevices : List Device)
    (deviceId classId : String) : Bool :=
  classId == "USB" &&
    (platform.getMatchingDevice (withoutTypePrefix .mic deviceId) .speaker
      playoutDevices).isSome

structure Preference where
  isBlacklisted : Bool
  isUSBPair : Bool
  deriving DecidableEq, Repr

/-- The hardware id, the blacklist and the pairing of one device; `none` when it
has no hardware id. Only microphones are paired. -/
def preferenceOf (platform : AudioPlatform) (capture : Bool) (playoutDevices : List Device)
    (deviceId : String) (ids : HardwareIds) : Option Preference × HardwareIds :=
  let deviceConfigType := if capture then .mic else .speaker
  let (ok, ids, deviceIdKey) :=
    platform.getAudioHardwareIdFromDeviceId deviceConfigType deviceId ids true
  if ok then
    let isUSBPair :=
      if !capture then false
      else if platform.features.depreferUsbOnThunderbolt &&
          platform.isUsbDeviceInThnMap deviceId then false
      else platform.isMicUSBPair playoutDevices deviceIdKey ids.classId
    (some ⟨platform.isBlacklisted deviceConfigType ids deviceIdKey, isUSBPair⟩, ids)
  else (none, ids)

def preferredDeviceFrom (platform : AudioPlatform) (capture : Bool)
    (playoutDevices : List Device) :
    HardwareIds → Preference → Option Device → List Device → Option Device
  | _, _, selectedDevice, [] => selectedDevice
  | ids, selected, selectedDevice, device :: rest =>
      if device.id = automaticDeviceGuid then
        preferredDeviceFrom platform capture playoutDevices ids selected selectedDevice rest
      else if (!capture || selected.isUSBPair) && !selected.isBlacklisted then selectedDevice
      else
        match platform.preferenceOf capture playoutDevices device.id ids with
        | (none, ids) =>
            preferredDeviceFrom platform capture playoutDevices ids selected selectedDevice rest
        | (some candidate, ids) =>
            if !selected.isBlacklisted && candidate.isBlacklisted then
              preferredDeviceFrom platform capture playoutDevices ids selected selectedDevice
                rest
            else if (selected.isBlacklisted && !candidate.isBlacklisted) ||
                (capture && !selected.isUSBPair && candidate.isUSBPair) then
              preferredDeviceFrom platform capture playoutDevices ids candidate (some device)
                rest
            else
              preferredDeviceFrom platform capture playoutDevices ids selected selectedDevice
                rest

/-- The device given is replaced when the loop finds a better one. A device
without hardware id counts as blacklisted and unpaired. -/
def getPreferredDeviceId (platform : AudioPlatform) (capture : Bool)
    (captureDevices playoutDevices : List Device) (given : Endpoint) : Endpoint :=
  let deviceList := if capture then captureDevices else playoutDevices
  if deviceList.isEmpty then given
  else
    let (found, ids) := platform.preferenceOf capture playoutDevices given.id .empty
    let selectedDevice := platform.preferredDeviceFrom capture playoutDevices ids
      (found.getD ⟨true, false⟩) none deviceList
    (selectedDevice.map Device.endpoint).getD given

/-- A USB microphone with a matching speaker, unless it is to be avoided as one
on Thunderbolt. -/
def isUsbMicWithSpeaker (platform : AudioPlatform) (playoutDevices : List Device)
    (micId : String) (ids : HardwareIds) : Bool × HardwareIds :=
  let (ok, ids, deviceId) := platform.getAudioHardwareIdFromDeviceId .mic micId ids false
  (ok && ids.classId == "USB" &&
    !(platform.features.depreferUsbOnThunderbolt && platform.isUsbDeviceInThnMap micId) &&
    (platform.getMatchingDevice deviceId .speaker playoutDevices).isSome, ids)

def usbMicWithSpeakerFrom (platform : AudioPlatform) (playoutDevices : List Device) :
    HardwareIds → List Device → Option Device
  | _, [] => none
  | ids, device :: rest =>
      match platform.isUsbMicWithSpeaker playoutDevices device.id ids with
      | (true, _) => some device
      | (false, ids) => usbMicWithSpeakerFrom platform playoutDevices ids rest

end AudioPlatform

end FiberApp.Devices
