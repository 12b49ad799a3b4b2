import FiberApp.Devices.HardwareId

/-! The lookup of hardware ids in `audiodevlistener.cc`, a copy of the one for the device
configuration that skips each endpoint of which something cannot be read. -/

set_option autoImplicit false

namespace FiberApp.Devices

/-- The hardware id and the form factor of the endpoint the loop stops at. -/
def findDetailsEndpoint (deviceGUID : Chars) : List CoreEndpoint → Option (Chars × Nat)
  | [] => none
  | endpoint :: rest =>
      if !endpoint.item || !endpoint.propertyStore then findDetailsEndpoint deviceGUID rest
      else if endpoint.guid.any (guidStringsAreEqual deviceGUID) then
        match endpoint.formFactor with
        | none => findDetailsEndpoint deviceGUID rest
        | some endpointType =>
            match endpoint.hardwareId with
            | some hardwareId => some (hardwareId, endpointType)
            | none => findDetailsEndpoint deviceGUID rest
      else findDetailsEndpoint deviceGUID rest

/-- The listener's copy, which takes the same steps. -/
def AudioDeviceListenerWin.hardwareKeyFromHardwareId (hardwareId : Chars) (endpointType : Nat)
    (pastEnd : PastEnd) (prior : HardwareIds) : Option HardwareIds :=
  Devices.hardwareKeyFromHardwareId hardwareId endpointType pastEnd prior

namespace WindowsAudio

/-- `none` is an exception. -/
def getAudioHardwareDetailsFromDeviceId (os : WindowsAudio) (pastEnd : PastEnd)
    (typeDev : DeviceConfigType) (deviceId : Chars) (prior : HardwareIds)
    (idKeyWithType : Bool) : Option (Bool × HardwareIds × String) := do
  let deviceGUID := extractGUIDFromDeviceID deviceId
  let (found, ids) ←
    match (os.endpoints typeDev).bind (findDetailsEndpoint deviceGUID) with
    | some (hwKey, endpointType) =>
        (AudioDeviceListenerWin.hardwareKeyFromHardwareId hwKey endpointType pastEnd prior).map
          (true, ·)
    | none => some (false, prior)
  let ids : HardwareIds := ⟨ids.vendorId.toUpper, ids.productId.toUpper, ids.classId.toUpper⟩
  let deviceKey := if idKeyWithType then deviceTypeString typeDev ++ ":" else ""
  some (found, ids, deviceKey ++ ids.classId ++ ":" ++ ids.vendorId ++ ":" ++ ids.productId)

end WindowsAudio

end FiberApp.Devices
