import FiberApp.Devices.AudioHardware

/-! Which listed device a hardware key finds: the first one that is not built in and whose
own lookup succeeds with that key, where each lookup starts from the strings the one
before it has left. -/

set_option autoImplicit false

namespace FiberApp.Devices

namespace AudioPlatform

theorem withoutTypePrefix_append (type : DeviceConfigType) (key : String) :
    withoutTypePrefix type (deviceTypeString type ++ ":" ++ key) = key := by
  have split : (deviceTypeString type ++ ":" ++ key).toList =
      (deviceTypeString type ++ ":").toList ++ key.toList := String.toList_append
  simp [withoutTypePrefix, split]

/-- A key with the type in front is the key without it behind the type. -/
theorem getAudioHardwareIdFromDeviceId_typed (platform : AudioPlatform)
    (type : DeviceConfigType) (deviceId : String) (prior : HardwareIds) :
    platform.getAudioHardwareIdFromDeviceId type deviceId prior true =
      ((platform.getAudioHardwareIdFromDeviceId type deviceId prior false).1,
        (platform.getAudioHardwareIdFromDeviceId type deviceId prior false).2.1,
        deviceTypeString type ++ ":" ++
          (platform.getAudioHardwareIdFromDeviceId type deviceId prior false).2.2) := by
  simp [getAudioHardwareIdFromDeviceId, String.append_assoc]

def HasKey (platform : AudioPlatform) (key : String) (type : DeviceConfigType)
    (ids : HardwareIds) (device : Device) : Prop :=
  device.builtIn = false ∧
    (platform.getAudioHardwareIdFromDeviceId type device.id ids false).1 = true ∧
    (platform.getAudioHardwareIdFromDeviceId type device.id ids false).2.2 = key

instance (platform : AudioPlatform) (key : String) (type : DeviceConfigType)
    (ids : HardwareIds) (device : Device) : Decidable (platform.HasKey key type ids device) :=
  inferInstanceAs (Decidable (_ ∧ _ ∧ _))

/-- What the strings hold after a device: a built-in one is not looked up. -/
def lookUp (platform : AudioPlatform) (type : DeviceConfigType) (ids : HardwareIds)
    (device : Device) : HardwareIds :=
  if device.builtIn then ids
  else (platform.getAudioHardwareIdFromDeviceId type device.id ids false).2.1

def NoneHasKey (platform : AudioPlatform) (key : String) (type : DeviceConfigType)
    (ids : HardwareIds) (devices : List Device) : Prop :=
  ∀ earlier device later, devices = earlier ++ device :: later →
    ¬ platform.HasKey key type (earlier.foldl (platform.lookUp type) ids) device

def FirstWithKey (platform : AudioPlatform) (key : String) (type : DeviceConfigType)
    (ids : HardwareIds) (devices : List Device) (device : Device) : Prop :=
  ∃ earlier later, devices = earlier ++ device :: later ∧
    platform.NoneHasKey key type ids earlier ∧
    platform.HasKey key type (earlier.foldl (platform.lookUp type) ids) device

variable {platform : AudioPlatform} {key : String} {type : DeviceConfigType}
  {ids : HardwareIds} {first : Device} {rest : List Device}

theorem noneHasKey_nil : platform.NoneHasKey key type ids [] := by
  intro earlier device later split
  simp at split

theorem noneHasKey_cons :
    platform.NoneHasKey key type ids (first :: rest) ↔
      ¬ platform.HasKey key type ids first ∧
        platform.NoneHasKey key type (platform.lookUp type ids first) rest := by
  constructor
  · intro none
    refine ⟨none [] first rest rfl, ?_⟩
    intro earlier device later split
    exact none (first :: earlier) device later (by rw [split]; rfl)
  · intro none earlier device later split
    cases earlier with
    | nil =>
        obtain ⟨rfl, rfl⟩ := List.cons.inj split
        exact none.1
    | cons head earlier =>
        obtain ⟨rfl, same⟩ := List.cons.inj split
        exact none.2 earlier device later same

theorem not_firstWithKey_nil {device : Device} :
    ¬ platform.FirstWithKey key type ids [] device := by
  intro found
  obtain ⟨earlier, later, split, -⟩ := found
  simp at split

theorem firstWithKey_cons {device : Device} :
    platform.FirstWithKey key type ids (first :: rest) device ↔
      platform.HasKey key type ids first ∧ device = first ∨
        ¬ platform.HasKey key type ids first ∧
          platform.FirstWithKey key type (platform.lookUp type ids first) rest device := by
  constructor
  · intro found
    obtain ⟨earlier, later, split, none, has⟩ := found
    cases earlier with
    | nil =>
        obtain ⟨rfl, rfl⟩ := List.cons.inj split
        exact .inl ⟨has, rfl⟩
    | cons head earlier =>
        obtain ⟨rfl, same⟩ := List.cons.inj split
        have none := noneHasKey_cons.mp none
        exact .inr ⟨none.1, earlier, later, same, none.2, has⟩
  · intro found
    rcases found with ⟨has, rfl⟩ | ⟨skipped, earlier, later, split, none, has⟩
    · exact ⟨[], rest, rfl, noneHasKey_nil, has⟩
    · exact ⟨first :: earlier, later, by rw [split]; rfl, noneHasKey_cons.mpr ⟨skipped, none⟩,
        has⟩

theorem matchingDeviceFrom_cons :
    platform.matchingDeviceFrom key type ids (first :: rest) =
      if platform.HasKey key type ids first then some first
      else platform.matchingDeviceFrom key type (platform.lookUp type ids first) rest := by
  cases builtIn : first.builtIn with
  | true => simp [matchingDeviceFrom, lookUp, HasKey, builtIn]
  | false => simp [matchingDeviceFrom, lookUp, HasKey, builtIn]

theorem matchingDeviceFrom_eq_none_iff {devices : List Device} :
    platform.matchingDeviceFrom key type ids devices = none ↔
      platform.NoneHasKey key type ids devices := by
  induction devices generalizing ids with
  | nil => exact iff_of_true rfl noneHasKey_nil
  | cons first rest ih =>
      rw [matchingDeviceFrom_cons, noneHasKey_cons]
      split_ifs with has
      · simp [has]
      · simp [has, ih]

theorem matchingDeviceFrom_eq_some_iff {devices : List Device} {device : Device} :
    platform.matchingDeviceFrom key type ids devices = some device ↔
      platform.FirstWithKey key type ids devices device := by
  induction devices generalizing ids with
  | nil => simp [matchingDeviceFrom, not_firstWithKey_nil]
  | cons first rest ih =>
      rw [matchingDeviceFrom_cons, firstWithKey_cons]
      split_ifs with has
      · simp [has, eq_comm]
      · simp [has, ih]

theorem getMatchingDevice_eq_none_iff {devices : List Device} :
    platform.getMatchingDevice key type devices = none ↔
      platform.NoneHasKey key type .empty devices :=
  Option.map_eq_none_iff.trans matchingDeviceFrom_eq_none_iff

theorem getMatchingDevice_eq_some_iff {devices : List Device} {found : Endpoint} :
    platform.getMatchingDevice key type devices = some found ↔
      ∃ device, platform.FirstWithKey key type .empty devices device ∧
        device.endpoint = found := by
  simp only [getMatchingDevice, Option.map_eq_some_iff, matchingDeviceFrom_eq_some_iff]

theorem FirstWithKey.matching {devices : List Device} {device : Device}
    (found : platform.FirstWithKey key type .empty devices device) :
    platform.getMatchingDevice key type devices = some device.endpoint :=
  getMatchingDevice_eq_some_iff.mpr ⟨device, found, rfl⟩

end AudioPlatform

end FiberApp.Devices
