import FiberApp.Devices.HardwareId

/-! A successful extraction is a function of the device exactly where the hardware id
has a class and both keys; every other output is what the caller passed in. -/

set_option autoImplicit false

namespace FiberApp.Devices

open Foundation

/-- The hardware id found for a device, by either route. -/
inductive Located
  | core (hardwareId : Chars) (endpointType : Nat)
  | wave (hardwareId : Chars)
  deriving DecidableEq, Repr

namespace Located

def hardwareId : Located → Chars
  | .core hardwareId _ => hardwareId
  | .wave hardwareId => hardwareId

/-- The class an extraction assigns: `none` for the exception, `some none` when it leaves
the output as it is. -/
def classOf : Located → Option (Option String)
  | .core hardwareId endpointType =>
      (coreClass hardwareId).map fun assigned =>
        if endpointType = digitalAudioDisplayDevice then some "HDMI" else assigned
  | .wave hardwareId => waveClass hardwareId

end Located

namespace WindowsAudio

def locate (os : WindowsAudio) (type : DeviceConfigType) (deviceId : Chars) : Option Located :=
  if 6 ≤ os.majorVersion then
    ((os.endpoints type).bind (findCoreEndpoint (extractGUIDFromDeviceID deviceId))).map
      fun found => .core found.1 found.2
  else (findWaveDevice deviceId (os.waveDevices type)).map .wave

end WindowsAudio

/-- The key stands in the hardware id with at least three characters behind it, so that
only the terminator is copied beyond them. -/
def Keyed (key hardwareId : Chars) : Prop :=
  ∃ found, findFrom key hardwareId = some found ∧ 3 ≤ (found.drop 4).length

/-- Every output is taken from the hardware id. -/
structure Complete (located : Located) (assigned : Option String) : Prop where
  hasClass : assigned ≠ none
  hasVendor : Keyed (vendorKey (assigned.getD "")) located.hardwareId
  hasProduct : Keyed (productKey (assigned.getD "")) located.hardwareId

theorem Keyed.keyedValue_eq {key hardwareId : Chars} (keyed : Keyed key hardwareId)
    (pastEnd other : PastEnd) (prior otherPrior : String) :
    keyedValue key hardwareId pastEnd prior = keyedValue key hardwareId other otherPrior := by
  obtain ⟨found, starts, long⟩ := keyed
  have copied (beyond : PastEnd) : assignFour (found.drop 4) beyond =
      String.ofList ((found.drop 4 ++ ['\x00']).take 4) := by
    rw [assignFour, List.append_cons, List.take_append_of_le_length]
    rw [List.length_append, List.length_singleton]
    omega
  simp only [keyedValue, starts, copied]

def allA : PastEnd := Vector.replicate 3 'A'
def allB : PastEnd := Vector.replicate 3 'B'

theorem toList_toUpper (text : String) : text.toUpper.toList = text.toList.map Char.toUpper :=
  String.toList_map

theorem toUpper_a_ne_b : "A".toUpper ≠ "B".toUpper := by
  intro same
  have same := congrArg String.toList same
  rw [toList_toUpper, toList_toUpper] at same
  exact absurd same (by decide)

/-- A copy that runs beyond the terminator tells what lies there. -/
theorem three_le_of_same {rest : Chars}
    (same : (assignFour rest allA).toUpper = (assignFour rest allB).toUpper) :
    3 ≤ rest.length := by
  have same := congrArg String.toList same
  simp only [assignFour, toList_toUpper, String.toList_ofList] at same
  match rest with
  | [] => exact absurd same (by decide)
  | [first] =>
      have last := congrArg (List.getLast? ·) same
      exact absurd last (by simp [allA, allB])
  | [first, second] =>
      have last := congrArg (List.getLast? ·) same
      exact absurd last (by simp [allA, allB])
  | _ :: _ :: _ :: rest => simp

/-- Two calls that start from different contents tell a copied value from a kept one. -/
theorem keyed_of_same {key hardwareId : Chars}
    (same : (keyedValue key hardwareId allA "A").toUpper =
      (keyedValue key hardwareId allB "B").toUpper) : Keyed key hardwareId := by
  cases starts : findFrom key hardwareId with
  | none =>
      simp only [keyedValue, starts] at same
      exact absurd same toUpper_a_ne_b
  | some found =>
      simp only [keyedValue, starts] at same
      exact ⟨found, starts, three_le_of_same same⟩

namespace Located

def outputs (located : Located) (pastEnd : PastEnd) (prior : HardwareIds)
    (assigned : Option String) : HardwareIds :=
  vendorAndProduct located.hardwareId pastEnd prior (assigned.getD prior.classId)

def upper (ids : HardwareIds) : HardwareIds :=
  ⟨ids.vendorId.toUpper, ids.productId.toUpper, ids.classId.toUpper⟩

theorem outputs_eq_of_complete {located : Located} {assigned : Option String}
    (complete : Complete located assigned) (pastEnd other : PastEnd)
    (prior otherPrior : HardwareIds) :
    located.outputs pastEnd prior assigned = located.outputs other otherPrior assigned := by
  obtain ⟨hasClass, hasVendor, hasProduct⟩ := complete
  obtain ⟨classId, rfl⟩ := Option.ne_none_iff_exists'.mp hasClass
  have vendor := hasVendor.keyedValue_eq pastEnd other prior.vendorId otherPrior.vendorId
  have product := hasProduct.keyedValue_eq pastEnd other prior.productId otherPrior.productId
  simp only [Option.getD_some] at vendor product
  simp only [outputs, vendorAndProduct, Option.getD_some, vendor, product]

/-- Two contents that differ in every output, also in upper case. -/
theorem complete_of_same {located : Located} {assigned : Option String}
    (same : upper (located.outputs allA ⟨"A", "A", "A"⟩ assigned) =
      upper (located.outputs allB ⟨"B", "B", "B"⟩ assigned)) : Complete located assigned := by
  have sameVendor := congrArg HardwareIds.vendorId same
  have sameProduct := congrArg HardwareIds.productId same
  have sameClass := congrArg HardwareIds.classId same
  cases assigned with
  | none => exact absurd sameClass toUpper_a_ne_b
  | some classId => exact ⟨by simp, keyed_of_same sameVendor, keyed_of_same sameProduct⟩

end Located

namespace WindowsAudio

theorem getAudioHardwareIdFromDeviceIdWin_eq (os : WindowsAudio) (pastEnd : PastEnd)
    (type : DeviceConfigType) (deviceId : Chars) (prior : HardwareIds) :
    os.getAudioHardwareIdFromDeviceIdWin pastEnd type deviceId prior =
      match os.locate type deviceId with
      | some located => located.classOf.map fun assigned =>
          (true, located.outputs pastEnd prior assigned)
      | none => some (false, prior) := by
  rw [getAudioHardwareIdFromDeviceIdWin, locate]
  by_cases vista : 6 ≤ os.majorVersion
  · rw [if_pos vista, if_pos vista, getAudioHardwareIdFromDeviceIdCore]
    cases (os.endpoints type).bind
        (findCoreEndpoint (extractGUIDFromDeviceID deviceId)) with
    | none => rfl
    | some found =>
        obtain ⟨hardwareId, endpointType⟩ := found
        simp only [Option.map_some, Located.classOf, hardwareKeyFromHardwareId,
          Option.bind_eq_bind, Option.map_map]
        cases coreClass hardwareId with
        | none => rfl
        | some assigned =>
            by_cases hdmi : endpointType = digitalAudioDisplayDevice
            · simp [hdmi, Located.outputs, Located.hardwareId]
            · simp [hdmi, Located.outputs, Located.hardwareId]
  · rw [if_neg vista, if_neg vista, getAudioHardwareIdFromDeviceIdWave]
    cases findWaveDevice deviceId (os.waveDevices type) with
    | none => rfl
    | some hardwareId =>
        simp only [Option.map_some, Located.classOf, hardwareKeyFromHardwareIdWave]
        cases waveClass hardwareId with
        | none => rfl
        | some assigned => rfl

def keyOf (type : DeviceConfigType) (ids : HardwareIds) (idKeyWithType : Bool) : String :=
  (if idKeyWithType then deviceTypeString type ++ ":" else "") ++ ids.classId ++ ":" ++
    ids.vendorId ++ ":" ++ ids.productId

/-- What a successful call returns. -/
theorem getAudioHardwareIdFromDeviceId_eq_some (os : WindowsAudio) (pastEnd : PastEnd)
    (type : DeviceConfigType) (deviceId : Chars) (prior : HardwareIds) (idKeyWithType : Bool)
    (ids : HardwareIds) (deviceIdKey : String) :
    os.getAudioHardwareIdFromDeviceId pastEnd type deviceId prior idKeyWithType =
        some (true, ids, deviceIdKey) ↔
      ∃ located assigned, os.locate type deviceId = some located ∧
        located.classOf = some assigned ∧
        ids = Located.upper (located.outputs pastEnd prior assigned) ∧
        deviceIdKey = keyOf type ids idKeyWithType := by
  rw [getAudioHardwareIdFromDeviceId, getAudioHardwareIdFromDeviceIdWin_eq]
  cases os.locate type deviceId with
  | none => simp
  | some located =>
      cases found : located.classOf with
      | none =>
          simp only [found, Option.map_none]
          constructor
          · intro returned
            cases returned
          · rintro ⟨_, _, ⟨⟩, other, -⟩
            cases found.symm.trans other
      | some assigned =>
          simp only [found, Option.map_some]
          constructor
          · rintro ⟨⟩
            exact ⟨located, assigned, rfl, found, rfl, rfl⟩
          · rintro ⟨_, _, ⟨⟩, other, rfl, rfl⟩
            cases found.symm.trans other
            rfl

/-- Two successful calls leave the same outputs, whatever was in the strings and behind
the hardware id. -/
def DependsOnDeviceOnly (os : WindowsAudio) (type : DeviceConfigType) (deviceId : Chars)
    (idKeyWithType : Bool) : Prop :=
  ∀ (pastEnd other : PastEnd) (prior otherPrior ids otherIds : HardwareIds)
    (deviceIdKey otherKey : String),
    os.getAudioHardwareIdFromDeviceId pastEnd type deviceId prior idKeyWithType =
      some (true, ids, deviceIdKey) →
    os.getAudioHardwareIdFromDeviceId other type deviceId otherPrior idKeyWithType =
      some (true, otherIds, otherKey) →
    ids = otherIds ∧ deviceIdKey = otherKey

/-- The outputs depend on the device alone exactly if the hardware id that is found, and
that can be split without an exception, is complete. -/
theorem dependsOnDeviceOnly_iff (os : WindowsAudio) (type : DeviceConfigType)
    (deviceId : Chars) (idKeyWithType : Bool) :
    DependsOnDeviceOnly os type deviceId idKeyWithType ↔
      ∀ located assigned, os.locate type deviceId = some located →
        located.classOf = some assigned → Complete located assigned := by
  constructor
  · intro same located assigned found split
    have succeeds (pastEnd : PastEnd) (prior : HardwareIds) :=
      (getAudioHardwareIdFromDeviceId_eq_some os pastEnd type deviceId prior idKeyWithType _
        _).mpr ⟨located, assigned, found, split, rfl, rfl⟩
    exact Located.complete_of_same
      (same _ _ _ _ _ _ _ _ (succeeds allA ⟨"A", "A", "A"⟩) (succeeds allB ⟨"B", "B", "B"⟩)).1
  · intro complete pastEnd other prior otherPrior ids otherIds deviceIdKey otherKey first second
    obtain ⟨located, assigned, found, split, rfl, rfl⟩ :=
      (getAudioHardwareIdFromDeviceId_eq_some os pastEnd type deviceId prior idKeyWithType _
        _).mp first
    obtain ⟨_, _, sameFound, sameSplit, rfl, rfl⟩ :=
      (getAudioHardwareIdFromDeviceId_eq_some os other type deviceId otherPrior idKeyWithType _
        _).mp second
    cases found.symm.trans sameFound
    cases split.symm.trans sameSplit
    have same := Located.outputs_eq_of_complete (complete located assigned found split) pastEnd
      other prior otherPrior
    rw [same]
    exact ⟨rfl, rfl⟩

/-- An endpoint of a virtual device, whose hardware id names no vendor. -/
def virtualMicrophone : WindowsAudio where
  majorVersion := 6
  endpoints _ := some [⟨true, true, some "{58e7a8dc}".toList, none,
    some "{1}.ROOT\\MEDIA\\0000".toList⟩]
  waveDevices _ := []

/-- The vendor of the virtual microphone is what the caller's string held. -/
theorem dependsOnDeviceOnly_virtualMicrophone :
    ¬ ∀ (os : WindowsAudio) (type : DeviceConfigType) (deviceId : Chars)
      (idKeyWithType : Bool) (pastEnd : PastEnd) (prior otherPrior ids otherIds : HardwareIds)
      (deviceIdKey otherKey : String),
      os.getAudioHardwareIdFromDeviceId pastEnd type deviceId prior idKeyWithType =
        some (true, ids, deviceIdKey) →
      os.getAudioHardwareIdFromDeviceId pastEnd type deviceId otherPrior idKeyWithType =
        some (true, otherIds, otherKey) →
      ids = otherIds ∧ deviceIdKey = otherKey := by
  intro same
  have outputs := same virtualMicrophone .mic "{0.0.1.00000000}.{58e7a8dc}".toList false allA
    ⟨"A", "A", "A"⟩ ⟨"B", "B", "B"⟩ _ _ _ _ rfl rfl
  exact toUpper_a_ne_b (congrArg HardwareIds.vendorId outputs.1)

end WindowsAudio

end FiberApp.Devices
