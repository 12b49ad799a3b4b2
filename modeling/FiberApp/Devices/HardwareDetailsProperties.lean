import FiberApp.Devices.HardwareDetails
import FiberApp.Devices.HardwareIdProperties

/-! The two lookups of hardware ids against each other: one ends at an endpoint that
cannot be opened and does without a form factor, the other goes on to the next endpoint. -/

set_option autoImplicit false

namespace FiberApp.Devices

open Foundation

/-- The same found flag and, when found, the same ids and key. `none` is an exception. -/
def SameDetails : Option (Bool × HardwareIds × String) → Option (Bool × HardwareIds × String) →
    Prop
  | none, none => True
  | some left, some right => left.1 = right.1 ∧ (left.1 = true → left.2 = right.2)
  | _, _ => False

/-- The key is missing, or at least three characters stand behind it. -/
def Uncut (key hardwareId : Chars) : Prop :=
  ∀ found ∈ findFrom key hardwareId, 3 ≤ (found.drop 4).length

instance (key hardwareId : Chars) : Decidable (Uncut key hardwareId) :=
  inferInstanceAs (Decidable (∀ found ∈ findFrom key hardwareId, _))

/-- Neither key is cut off by the end of the hardware id, unless that throws. -/
def SelfContained (hardwareId : Chars) (endpointType : Nat) : Prop :=
  ∀ assigned ∈ (Located.core hardwareId endpointType).classOf,
    Uncut (vendorKey (assigned.getD "")) hardwareId ∧
      Uncut (productKey (assigned.getD "")) hardwareId

instance (hardwareId : Chars) (endpointType : Nat) :
    Decidable (SelfContained hardwareId endpointType) :=
  inferInstanceAs (Decidable (∀ assigned ∈ (Located.core hardwareId endpointType).classOf, _))

def CoreEndpoint.opens (endpoint : CoreEndpoint) : Bool := endpoint.item && endpoint.propertyStore

def CoreEndpoint.wanted (endpoint : CoreEndpoint) (deviceGUID : Chars) : Bool :=
  endpoint.guid.any (guidStringsAreEqual deviceGUID)

/-- The ids that an extraction from empty strings leaves, in upper case. -/
def upperKeys (pastEnd : PastEnd) (found : Chars × Nat) : Option HardwareIds :=
  (hardwareKeyFromHardwareId found.1 found.2 pastEnd .empty).map Located.upper

def SameKeys (first second : Chars × Nat) : Prop :=
  ∀ pastEnd other, upperKeys pastEnd first = upperKeys other second

/-- What is to hold at the first endpoint that cannot be opened, or that has the wanted
GUID and a hardware id: with nothing complete behind an endpoint that cannot be opened,
an id with whole keys, or the next complete endpoint in place of one without form factor. -/
def AgreeAlong (deviceGUID : Chars) : List CoreEndpoint → Prop
  | [] => True
  | endpoint :: rest =>
      if !endpoint.opens then
        ∀ other ∈ rest, other.opens = true → other.wanted deviceGUID = true →
          other.formFactor = none ∨ other.hardwareId = none
      else if endpoint.wanted deviceGUID then
        match endpoint.hardwareId, endpoint.formFactor with
        | none, _ => AgreeAlong deviceGUID rest
        | some hardwareId, some endpointType => SelfContained hardwareId endpointType
        | some hardwareId, none =>
            ∃ next ∈ findDetailsEndpoint deviceGUID rest, SameKeys (hardwareId, 0) next
      else AgreeAlong deviceGUID rest

theorem uncut_iff (key hardwareId : Chars) :
    Uncut key hardwareId ↔ ∀ pastEnd other : PastEnd,
      (keyedValue key hardwareId pastEnd "").toUpper =
        (keyedValue key hardwareId other "").toUpper := by
  constructor
  · intro uncut pastEnd other
    cases starts : findFrom key hardwareId with
    | none => simp only [keyedValue, starts]
    | some found =>
        have keyed : Keyed key hardwareId := ⟨found, starts, uncut found starts⟩
        rw [keyed.keyedValue_eq pastEnd other "" ""]
  · intro same found starts
    have same := same allA allB
    simp only [keyedValue, Option.mem_def.mp starts] at same
    exact three_le_of_same same

theorem upperKeys_eq (pastEnd : PastEnd) (hardwareId : Chars) (endpointType : Nat) :
    upperKeys pastEnd (hardwareId, endpointType) =
      (Located.core hardwareId endpointType).classOf.map fun assigned =>
        Located.upper (vendorAndProduct hardwareId pastEnd .empty (assigned.getD "")) := by
  simp only [upperKeys, hardwareKeyFromHardwareId, Located.classOf, Option.bind_eq_bind,
    Option.map_map]
  cases coreClass hardwareId with
  | none => rfl
  | some assigned =>
      by_cases hdmi : endpointType = digitalAudioDisplayDevice
      · simp [hdmi]
      · simp [hdmi, HardwareIds.empty]

theorem sameKeys_self (hardwareId : Chars) (endpointType : Nat) :
    SameKeys (hardwareId, endpointType) (hardwareId, endpointType) ↔
      SelfContained hardwareId endpointType := by
  simp only [SameKeys, upperKeys_eq, SelfContained, uncut_iff]
  cases (Located.core hardwareId endpointType).classOf with
  | none => simp
  | some assigned =>
      simp only [Option.map_some, Option.some.injEq, Option.mem_def, forall_eq', Located.upper,
        vendorAndProduct, HardwareIds.mk.injEq, and_true, HardwareIds.empty]
      constructor
      · intro same
        exact ⟨fun pastEnd other => (same pastEnd other).1,
          fun pastEnd other => (same pastEnd other).2⟩
      · intro same pastEnd other
        exact ⟨same.1 pastEnd other, same.2 pastEnd other⟩

/-- The endpoints the two loops stop at agree. -/
def SameStop : Option (Chars × Nat) → Option (Chars × Nat) → Prop
  | none, none => True
  | some left, some right => SameKeys left right
  | _, _ => False

theorem sameStop_none_left (stop : Option (Chars × Nat)) :
    SameStop none stop ↔ stop = none := by
  cases stop <;> simp [SameStop]

theorem sameStop_some_left (left : Chars × Nat) (stop : Option (Chars × Nat)) :
    SameStop (some left) stop ↔ ∃ right ∈ stop, SameKeys left right := by
  cases stop <;> simp [SameStop]

theorem findCoreEndpoint_cons (deviceGUID : Chars) (endpoint : CoreEndpoint)
    (rest : List CoreEndpoint) :
    findCoreEndpoint deviceGUID (endpoint :: rest) =
      if !endpoint.opens then none
      else if endpoint.wanted deviceGUID then
        match endpoint.hardwareId with
        | some hardwareId => some (hardwareId, endpoint.formFactor.getD 0)
        | none => findCoreEndpoint deviceGUID rest
      else findCoreEndpoint deviceGUID rest := by
  rw [findCoreEndpoint, ← Bool.not_and]
  rfl

theorem findDetailsEndpoint_cons (deviceGUID : Chars) (endpoint : CoreEndpoint)
    (rest : List CoreEndpoint) :
    findDetailsEndpoint deviceGUID (endpoint :: rest) =
      if !endpoint.opens then findDetailsEndpoint deviceGUID rest
      else if endpoint.wanted deviceGUID then
        match endpoint.formFactor with
        | none => findDetailsEndpoint deviceGUID rest
        | some endpointType =>
            match endpoint.hardwareId with
            | some hardwareId => some (hardwareId, endpointType)
            | none => findDetailsEndpoint deviceGUID rest
      else findDetailsEndpoint deviceGUID rest := by
  rw [findDetailsEndpoint, ← Bool.not_and]
  rfl

theorem findDetailsEndpoint_eq_none (deviceGUID : Chars) (endpoints : List CoreEndpoint) :
    findDetailsEndpoint deviceGUID endpoints = none ↔
      ∀ endpoint ∈ endpoints, endpoint.opens = true → endpoint.wanted deviceGUID = true →
        endpoint.formFactor = none ∨ endpoint.hardwareId = none := by
  induction endpoints with
  | nil => simp [findDetailsEndpoint]
  | cons endpoint rest ih =>
      rw [List.forall_mem_cons, ← ih, findDetailsEndpoint_cons]
      cases endpoint.opens with
      | false => simp
      | true =>
          cases endpoint.wanted deviceGUID with
          | false => simp
          | true =>
              cases endpoint.formFactor with
              | none => simp
              | some endpointType => cases endpoint.hardwareId <;> simp

theorem sameStop_iff (deviceGUID : Chars) (endpoints : List CoreEndpoint) :
    SameStop (findCoreEndpoint deviceGUID endpoints) (findDetailsEndpoint deviceGUID endpoints) ↔
      AgreeAlong deviceGUID endpoints := by
  induction endpoints with
  | nil => simp [findCoreEndpoint, findDetailsEndpoint, AgreeAlong, SameStop]
  | cons endpoint rest ih =>
      rw [findCoreEndpoint_cons, findDetailsEndpoint_cons, AgreeAlong]
      cases endpoint.opens with
      | false =>
          simp only [Bool.not_false, if_true]
          rw [sameStop_none_left, findDetailsEndpoint_eq_none]
      | true =>
          cases endpoint.wanted deviceGUID with
          | false =>
              simp only [Bool.not_true, Bool.false_eq_true, if_false]
              exact ih
          | true =>
              simp only [Bool.not_true, Bool.false_eq_true, if_false, if_true]
              cases endpoint.hardwareId with
              | none => cases endpoint.formFactor <;> exact ih
              | some hardwareId =>
                  cases endpoint.formFactor with
                  | none => exact sameStop_some_left (hardwareId, 0) _
                  | some endpointType => exact sameKeys_self hardwareId endpointType

namespace WindowsAudio

/-- What a lookup from empty strings returns, for the endpoint it stops at. -/
def returned (type : DeviceConfigType) (idKeyWithType : Bool) (pastEnd : PastEnd) :
    Option (Chars × Nat) → Option (Bool × HardwareIds × String)
  | none => some (false, Located.upper .empty, keyOf type (Located.upper .empty) idKeyWithType)
  | some found => (upperKeys pastEnd found).map fun ids =>
      (true, ids, keyOf type ids idKeyWithType)

section Lookups

variable (os : WindowsAudio) (pastEnd : PastEnd) (type : DeviceConfigType) (deviceId : Chars)
  (idKeyWithType : Bool)

theorem getAudioHardwareIdFromDeviceId_returned (vista : 6 ≤ os.majorVersion) :
    os.getAudioHardwareIdFromDeviceId pastEnd type deviceId .empty idKeyWithType =
      returned type idKeyWithType pastEnd ((os.endpoints type).bind
        (findCoreEndpoint (extractGUIDFromDeviceID deviceId))) := by
  rw [getAudioHardwareIdFromDeviceId, getAudioHardwareIdFromDeviceIdWin, if_pos vista,
    getAudioHardwareIdFromDeviceIdCore]
  cases (os.endpoints type).bind (findCoreEndpoint (extractGUIDFromDeviceID deviceId)) with
  | none => rfl
  | some found =>
      simp only [returned, upperKeys]
      cases hardwareKeyFromHardwareId found.1 found.2 pastEnd .empty with
      | none => rfl
      | some ids => rfl

theorem getAudioHardwareDetailsFromDeviceId_returned :
    os.getAudioHardwareDetailsFromDeviceId pastEnd type deviceId .empty idKeyWithType =
      returned type idKeyWithType pastEnd ((os.endpoints type).bind
        (findDetailsEndpoint (extractGUIDFromDeviceID deviceId))) := by
  rw [getAudioHardwareDetailsFromDeviceId]
  cases (os.endpoints type).bind (findDetailsEndpoint (extractGUIDFromDeviceID deviceId)) with
  | none => rfl
  | some found =>
      simp only [returned, upperKeys, AudioDeviceListenerWin.hardwareKeyFromHardwareId]
      cases hardwareKeyFromHardwareId found.1 found.2 pastEnd .empty with
      | none => rfl
      | some ids => rfl

end Lookups

theorem sameDetails_some (type : DeviceConfigType) (idKeyWithType : Bool)
    (left right : Option HardwareIds) :
    SameDetails (left.map fun ids => (true, ids, keyOf type ids idKeyWithType))
        (right.map fun ids => (true, ids, keyOf type ids idKeyWithType)) ↔ left = right := by
  cases left with
  | none => cases right <;> simp [SameDetails]
  | some ids =>
      cases right with
      | none => simp [SameDetails]
      | some other =>
          simp only [SameDetails, Option.map_some, Option.some.injEq, true_and, forall_const,
            Prod.mk.injEq]
          constructor
          · exact And.left
          · rintro rfl
            exact ⟨rfl, rfl⟩

theorem sameDetails_returned (type : DeviceConfigType) (idKeyWithType : Bool)
    (core details : Option (Chars × Nat)) :
    (∀ pastEnd other, SameDetails (returned type idKeyWithType pastEnd core)
        (returned type idKeyWithType other details)) ↔ SameStop core details := by
  cases core with
  | none =>
      cases details with
      | none => simp [returned, SameDetails, SameStop]
      | some right =>
          simp only [returned, SameStop, iff_false, not_forall]
          refine ⟨allA, allA, ?_⟩
          cases upperKeys allA right with
          | none => exact id
          | some ids => exact fun same => Bool.noConfusion same.1
  | some left =>
      cases details with
      | none =>
          simp only [returned, SameStop, iff_false, not_forall]
          refine ⟨allA, allA, ?_⟩
          cases upperKeys allA left with
          | none => exact id
          | some ids => exact fun same => Bool.noConfusion same.1
      | some right =>
          simp only [returned, sameDetails_some]
          exact Iff.rfl

/-- The lookups agree exactly if, at the first endpoint that cannot be opened or that has
the wanted GUID and a hardware id, nothing is left for the second one to find behind it,
or both take the same whole keys. -/
theorem hardwareDetails_agree_iff (os : WindowsAudio) (vista : 6 ≤ os.majorVersion)
    (type : DeviceConfigType) (endpoints : List CoreEndpoint)
    (enumerated : os.endpoints type = some endpoints) (deviceId : Chars)
    (idKeyWithType : Bool) :
    (∀ pastEnd other, SameDetails
        (os.getAudioHardwareIdFromDeviceId pastEnd type deviceId .empty idKeyWithType)
        (os.getAudioHardwareDetailsFromDeviceId other type deviceId .empty idKeyWithType)) ↔
      AgreeAlong (extractGUIDFromDeviceID deviceId) endpoints := by
  simp only [getAudioHardwareIdFromDeviceId_returned os _ type deviceId idKeyWithType vista,
    getAudioHardwareDetailsFromDeviceId_returned, enumerated, Option.bind_some]
  rw [sameDetails_returned, sameStop_iff]

def usbMicrophone : CoreEndpoint :=
  ⟨true, true, some "{58e7a8dc}".toList, some 4, some "{1}.USB\\VID_046D&PID_0821&MI_00".toList⟩

/-- A system with Core Audio and these microphones. -/
def withMicrophones (endpoints : List CoreEndpoint) : WindowsAudio where
  majorVersion := 6
  endpoints _ := some endpoints
  waveDevices _ := []

theorem hardwareDetails_agree_usb :
    SameDetails
      ((withMicrophones [usbMicrophone]).getAudioHardwareIdFromDeviceId allA .mic
        "{0.0.1.00000000}.{58e7a8dc}".toList .empty false)
      ((withMicrophones [usbMicrophone]).getAudioHardwareDetailsFromDeviceId allB .mic
        "{0.0.1.00000000}.{58e7a8dc}".toList .empty false) :=
  (hardwareDetails_agree_iff (withMicrophones [usbMicrophone]) (by decide) .mic [usbMicrophone]
    rfl "{0.0.1.00000000}.{58e7a8dc}".toList false).mpr
    (show SelfContained "{1}.USB\\VID_046D&PID_0821&MI_00".toList 4 by decide +kernel) allA allB

/-- An endpoint that has just gone hides the microphone behind it from one lookup. -/
theorem hardwareDetails_agree_gone :
    ¬ ∀ (os : WindowsAudio) (type : DeviceConfigType) (endpoints : List CoreEndpoint)
        (deviceId : Chars) (idKeyWithType : Bool) (pastEnd other : PastEnd),
      6 ≤ os.majorVersion → os.endpoints type = some endpoints → SameDetails
        (os.getAudioHardwareIdFromDeviceId pastEnd type deviceId .empty idKeyWithType)
        (os.getAudioHardwareDetailsFromDeviceId other type deviceId .empty idKeyWithType) := by
  intro same
  have details := same (withMicrophones [{ usbMicrophone with item := false }, usbMicrophone])
    .mic _ "{0.0.1.00000000}.{58e7a8dc}".toList false allA allA (by decide) rfl
  exact Bool.noConfusion details.1

end WindowsAudio

end FiberApp.Devices
