import FiberApp.Devices.AudioHardware
import FiberApp.Foundation.TextSearch

/-! The extraction of a hardware id on Windows, `winaudiodevconfig.cpp`, with the
output strings as they were before the call. -/

set_option autoImplicit false

namespace FiberApp.Devices

open Foundation

abbrev Chars := List Char

/-- `EndpointFormFactor::DigitalAudioDisplayDevice`. -/
def digitalAudioDisplayDevice : Nat := 9

/-- The answers for one audio endpoint. The GUID and the hardware id are `none` when they
cannot be read or are empty, the form factor when it cannot be read: an empty one is 0. -/
structure CoreEndpoint where
  item : Bool
  propertyStore : Bool
  guid : Option Chars
  formFactor : Option Nat
  hardwareId : Option Chars
  deriving DecidableEq, Repr

/-- The answers for one wave device: its name, and whether the size and the text of its
device interface can be queried. -/
structure WaveDevice where
  name : Option Chars
  interfaceSize : Bool
  interfaceName : Option Chars
  deriving DecidableEq, Repr

/-- The operating system and its active devices of either type. The endpoints are `none`
when the enumerator, the enumeration or the count fails. -/
structure WindowsAudio where
  majorVersion : Nat
  endpoints : DeviceConfigType → Option (List CoreEndpoint)
  waveDevices : DeviceConfigType → List WaveDevice

/-- What lies in memory behind the terminator of a hardware id. -/
abbrev PastEnd := Vector Char 3

/-- `assign(start, 4)`. The copy runs into the terminator and beyond when fewer than four
characters are left. -/
def assignFour (rest : Chars) (pastEnd : PastEnd) : String :=
  String.ofList ((rest ++ '\x00' :: pastEnd.toList).take 4)

/-- The four characters after the key; without the key the output keeps its contents. -/
def keyedValue (key hardwareId : Chars) (pastEnd : PastEnd) (prior : String) : String :=
  match findFrom key hardwareId with
  | some found => assignFour (found.drop 4) pastEnd
  | none => prior

def vendorKey (classId : String) : Chars :=
  if classId = "USB" then "VID_".toList else "VEN_".toList

def productKey (classId : String) : Chars :=
  if classId = "USB" then "PID_".toList else "DEV_".toList

/-- The end that `HardwareKeyFromHardwareId` and `HardwareKeyFromHardwareIdWave` share. -/
def vendorAndProduct (hardwareId : Chars) (pastEnd : PastEnd) (prior : HardwareIds)
    (classId : String) : HardwareIds where
  vendorId := keyedValue (vendorKey classId) hardwareId pastEnd prior.vendorId
  productId := keyedValue (productKey classId) hardwareId pastEnd prior.productId
  classId := classId

/-- `assign` of the characters between two places of the text. A negative length is a huge
unsigned one, for which `assign` throws. -/
def assignBetween (text : Chars) (first last : Nat) : Option String :=
  if first ≤ last then some (String.ofList ((text.drop first).take (last - first))) else none

/-- The class in a Core Audio id, between the first dot and the first backslash; the
outer `none` is the exception, the inner one leaves the output as it is. -/
def coreClass (hardwareId : Chars) : Option (Option String) :=
  match hardwareId.idxOf? '.', hardwareId.idxOf? '\\' with
  | some startChar, some endChar => (assignBetween hardwareId (startChar + 1) endChar).map some
  | _, _ => some none

/-- The class in a wave id, between the leading `\\?\` and the first `#`. -/
def waveClass (hardwareId : Chars) : Option (Option String) :=
  match hardwareId.idxOf? '#' with
  | some endChar => (assignBetween hardwareId 4 endChar).map some
  | none => some none

def hardwareKeyFromHardwareId (hardwareId : Chars) (endpointType : Nat) (pastEnd : PastEnd)
    (prior : HardwareIds) : Option HardwareIds := do
  let assigned ← coreClass hardwareId
  let classId := assigned.getD prior.classId
  -- we change the type here so we can identify HDMI devices
  let classId := if endpointType = digitalAudioDisplayDevice then "HDMI" else classId
  some (vendorAndProduct hardwareId pastEnd prior classId)

def hardwareKeyFromHardwareIdWave (hardwareId : Chars) (pastEnd : PastEnd)
    (prior : HardwareIds) : Option HardwareIds := do
  let assigned ← waveClass hardwareId
  some (vendorAndProduct hardwareId pastEnd prior (assigned.getD prior.classId))

def extractGUIDFromDeviceID (deviceId : Chars) : Chars := (fromLast '{' deviceId).getD []

/-- `stricmp`. -/
def guidStringsAreEqual (guid1 guid2 : Chars) : Bool :=
  guid1.map Char.toLower = guid2.map Char.toLower

/-- The hardware id and the form factor of the endpoint the loop stops at. An endpoint
that cannot be opened ends the loop. -/
def findCoreEndpoint (deviceGUID : Chars) : List CoreEndpoint → Option (Chars × Nat)
  | [] => none
  | endpoint :: rest =>
      if !endpoint.item || !endpoint.propertyStore then none
      else if endpoint.guid.any (guidStringsAreEqual deviceGUID) then
        match endpoint.hardwareId with
        | some hardwareId => some (hardwareId, endpoint.formFactor.getD 0)
        | none => findCoreEndpoint deviceGUID rest
      else findCoreEndpoint deviceGUID rest

/-- The device interface of the wave device the loop stops at, in upper case. -/
def findWaveDevice (deviceId : Chars) : List WaveDevice → Option Chars
  | [] => none
  | device :: rest =>
      if device.name = some deviceId && device.interfaceSize then
        match device.interfaceName with
        | some interfaceName => some (interfaceName.map Char.toUpper)
        | none => findWaveDevice deviceId rest
      else findWaveDevice deviceId rest

namespace WindowsAudio

def getAudioHardwareIdFromDeviceIdCore (os : WindowsAudio) (pastEnd : PastEnd)
    (type : DeviceConfigType) (deviceId : Chars) (prior : HardwareIds) :
    Option (Bool × HardwareIds) :=
  match (os.endpoints type).bind (findCoreEndpoint (extractGUIDFromDeviceID deviceId)) with
  | some (hardwareId, endpointType) =>
      (hardwareKeyFromHardwareId hardwareId endpointType pastEnd prior).map (true, ·)
  | none => some (false, prior)

def getAudioHardwareIdFromDeviceIdWave (os : WindowsAudio) (pastEnd : PastEnd)
    (type : DeviceConfigType) (deviceId : Chars) (prior : HardwareIds) :
    Option (Bool × HardwareIds) :=
  match findWaveDevice deviceId (os.waveDevices type) with
  | some hardwareId => (hardwareKeyFromHardwareIdWave hardwareId pastEnd prior).map (true, ·)
  | none => some (false, prior)

/-- Vista is major version 6. `none` is an exception. -/
def getAudioHardwareIdFromDeviceIdWin (os : WindowsAudio) (pastEnd : PastEnd)
    (type : DeviceConfigType) (deviceId : Chars) (prior : HardwareIds) :
    Option (Bool × HardwareIds) :=
  if 6 ≤ os.majorVersion then os.getAudioHardwareIdFromDeviceIdCore pastEnd type deviceId prior
  else os.getAudioHardwareIdFromDeviceIdWave pastEnd type deviceId prior

def getAudioHardwareIdFromDeviceId (os : WindowsAudio) (pastEnd : PastEnd)
    (type : DeviceConfigType) (deviceId : Chars) (prior : HardwareIds) (idKeyWithType : Bool) :
    Option (Bool × HardwareIds × String) := do
  let (ok, ids) ← os.getAudioHardwareIdFromDeviceIdWin pastEnd type deviceId prior
  let ids : HardwareIds := ⟨ids.vendorId.toUpper, ids.productId.toUpper, ids.classId.toUpper⟩
  let deviceKey := if idKeyWithType then deviceTypeString type ++ ":" else ""
  some (ok, ids, deviceKey ++ ids.classId ++ ":" ++ ids.vendorId ++ ":" ++ ids.productId)

end WindowsAudio

end FiberApp.Devices
