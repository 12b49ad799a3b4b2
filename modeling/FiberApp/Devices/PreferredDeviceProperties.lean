import FiberApp.Devices.MatchingDeviceProperties
import Mathlib.Data.List.MinMax
import Mathlib.Data.Prod.Lex

/-! The device preferred for an automatic selection is the first maximum of the default
device and the listed devices, in the order of their preferences. -/

set_option autoImplicit false

namespace FiberApp.Devices

namespace AudioPlatform

/-- Not blacklisted first, then, for microphones, a USB device with a matching speaker. -/
def rank (capture : Bool) (preference : Preference) : Bool ×ₗ Bool :=
  toLex (!preference.isBlacklisted, capture && preference.isUSBPair)

def Preference.worst : Preference := ⟨true, false⟩

/-- The devices whose hardware id resolves, the Automatic placeholder apart, with their
preferences. Every lookup finds in its output strings what the one before it has left. -/
def candidatesFrom (platform : AudioPlatform) (capture : Bool) (playoutDevices : List Device) :
    HardwareIds → List Device → List (Endpoint × Preference)
  | _, [] => []
  | ids, device :: rest =>
      if device.id = automaticDeviceGuid then
        candidatesFrom platform capture playoutDevices ids rest
      else
        match platform.preferenceOf capture playoutDevices device.id ids with
        | (none, ids) => candidatesFrom platform capture playoutDevices ids rest
        | (some preference, ids) =>
            (device.endpoint, preference) ::
              candidatesFrom platform capture playoutDevices ids rest

/-- The default device, which ranks worst when its hardware id does not resolve, and then
the candidates of the list. -/
def rankedDevices (platform : AudioPlatform) (capture : Bool)
    (captureDevices playoutDevices : List Device) (given : Endpoint) :
    List (Endpoint × Preference) :=
  let (found, ids) := platform.preferenceOf capture playoutDevices given.id .empty
  (given, found.getD .worst) ::
    platform.candidatesFrom capture playoutDevices ids
      (if capture then captureDevices else playoutDevices)

/-- The maximum so far is kept until a greater value comes. -/
theorem argmax_cons_cons {α β : Type} [LinearOrder β] (rank : α → β) (first second : α)
    (rest : List α) :
    (first :: second :: rest).argmax rank =
      if rank first < rank second then (second :: rest).argmax rank
      else (first :: rest).argmax rank := by
  unfold List.argmax
  simp only [List.foldl_cons, List.argAux]
  split <;> rfl

theorem argmax_cons_of_forall_le {α β : Type} [LinearOrder β] {rank : α → β} {first : α}
    {rest : List α} (greatest : ∀ other ∈ rest, rank other ≤ rank first) :
    (first :: rest).argmax rank = some first := by
  induction rest with
  | nil => rfl
  | cons second rest ih =>
      have notLess := not_lt.mpr (greatest second (by simp))
      rw [argmax_cons_cons, if_neg notLess]
      exact ih fun other member => greatest other (List.mem_cons_of_mem _ member)

/-- Nothing ranks above a device at which the loop stops. -/
theorem rank_le_of_best {capture : Bool} {selected : Preference}
    (best : ((!capture || selected.isUSBPair) && !selected.isBlacklisted) = true)
    (other : Preference) : rank capture other ≤ rank capture selected := by
  obtain ⟨blacklisted, pair⟩ := selected
  obtain ⟨otherBlacklisted, otherPair⟩ := other
  revert best
  cases capture <;> cases blacklisted <;> cases pair <;> cases otherBlacklisted <;>
    cases otherPair <;> decide

/-- The two conditions of the loop, the one to go on and the one to switch. -/
theorem rank_lt_iff (capture : Bool) (selected candidate : Preference) :
    rank capture selected < rank capture candidate ↔
      ¬ (!selected.isBlacklisted && candidate.isBlacklisted) = true ∧
        ((selected.isBlacklisted && !candidate.isBlacklisted) ||
          (capture && !selected.isUSBPair && candidate.isUSBPair)) = true := by
  obtain ⟨blacklisted, pair⟩ := selected
  obtain ⟨otherBlacklisted, otherPair⟩ := candidate
  cases capture <;> cases blacklisted <;> cases pair <;> cases otherBlacklisted <;>
    cases otherPair <;> decide

/-- From any point on, the loop ends with the first maximum of the device selected so far
and the candidates still to come. -/
theorem preferredDeviceFrom_argmax (platform : AudioPlatform) (capture : Bool)
    (playoutDevices : List Device) (given : Endpoint) (devices : List Device)
    (ids : HardwareIds) (selected : Preference) (selectedDevice : Option Device) :
    ((((selectedDevice.map Device.endpoint).getD given, selected) ::
        platform.candidatesFrom capture playoutDevices ids devices).argmax
          fun candidate => rank capture candidate.2).map Prod.fst =
      some (((platform.preferredDeviceFrom capture playoutDevices ids selected selectedDevice
        devices).map Device.endpoint).getD given) := by
  induction devices generalizing ids selected selectedDevice with
  | nil => rfl
  | cons device rest ih =>
      by_cases placeholder : device.id = automaticDeviceGuid
      · simp only [candidatesFrom, preferredDeviceFrom, if_pos placeholder]
        exact ih ids selected selectedDevice
      by_cases best : ((!capture || selected.isUSBPair) && !selected.isBlacklisted) = true
      · rw [argmax_cons_of_forall_le fun other _ => rank_le_of_best best other.2]
        simp only [preferredDeviceFrom, if_neg placeholder, if_pos best, Option.map_some]
      simp only [candidatesFrom, preferredDeviceFrom, if_neg placeholder, if_neg best]
      cases platform.preferenceOf capture playoutDevices device.id ids with
      | mk preference ids =>
          cases preference with
          | none => exact ih ids selected selectedDevice
          | some candidate =>
              have switches := rank_lt_iff capture selected candidate
              simp only [argmax_cons_cons]
              by_cases worse : (!selected.isBlacklisted && candidate.isBlacklisted) = true
              · rw [if_neg fun less => (switches.mp less).1 worse, if_pos worse]
                exact ih ids selected selectedDevice
              · rw [if_neg worse]
                by_cases better : ((selected.isBlacklisted && !candidate.isBlacklisted) ||
                    (capture && !selected.isUSBPair && candidate.isUSBPair)) = true
                · rw [if_pos (switches.mpr ⟨worse, better⟩), if_pos better]
                  exact ih ids candidate (some device)
                · rw [if_neg fun less => better (switches.mp less).2, if_neg better]
                  exact ih ids selected selectedDevice

/-- Whether a device has a hardware id, and which, does not depend on what the output
strings hold. -/
structure LookupOfDevice (platform : AudioPlatform) : Prop where
  found : ∀ type deviceId prior other, (platform.hardwareIdsWin type deviceId prior).1 =
    (platform.hardwareIdsWin type deviceId other).1
  outputs : ∀ type deviceId prior other,
    (platform.hardwareIdsWin type deviceId prior).1 = true →
      (platform.hardwareIdsWin type deviceId prior).2 =
        (platform.hardwareIdsWin type deviceId other).2

theorem LookupOfDevice.hasKey_iff {platform : AudioPlatform} (lookup : platform.LookupOfDevice)
    {key : String} {type : DeviceConfigType} (prior other : HardwareIds) (device : Device) :
    platform.HasKey key type prior device ↔ platform.HasKey key type other device := by
  have found := lookup.found type device.id prior other
  have outputs := lookup.outputs type device.id prior other
  simp only [HasKey, getAudioHardwareIdFromDeviceId]
  cases resolved : (platform.hardwareIdsWin type device.id prior).1 with
  | false =>
      rw [resolved] at found
      simp [← found]
  | true => rw [outputs resolved, ← found, resolved]

theorem LookupOfDevice.getMatchingDevice_isSome_iff {platform : AudioPlatform}
    (lookup : platform.LookupOfDevice) {key : String} {type : DeviceConfigType}
    {devices : List Device} :
    (platform.getMatchingDevice key type devices).isSome ↔
      ∃ device ∈ devices, platform.HasKey key type .empty device := by
  rw [← not_iff_not, Bool.not_eq_true, Option.isSome_eq_false_iff, Option.isNone_iff_eq_none,
    getMatchingDevice_eq_none_iff]
  constructor
  · intro none some
    obtain ⟨device, member, has⟩ := some
    obtain ⟨earlier, later, split⟩ := List.append_of_mem member
    exact none earlier device later split ((lookup.hasKey_iff _ _ device).mp has)
  · intro none earlier device later split has
    exact none ⟨device, split ▸ List.mem_append_right _ List.mem_cons_self,
      (lookup.hasKey_iff _ _ device).mp has⟩

/-- What a device's preference says: whether its hardware is on the blacklist, and for a
microphone whether it is a USB device with a speaker of the same hardware that is not to be
avoided as one on Thunderbolt. -/
theorem preferenceOf_eq_some_iff (platform : AudioPlatform) (capture : Bool)
    (playoutDevices : List Device) (deviceId : String) (prior : HardwareIds)
    (preference : Preference) :
    let type : DeviceConfigType := if capture then .mic else .speaker
    let details := platform.getAudioHardwareIdFromDeviceId type deviceId prior false
    (platform.preferenceOf capture playoutDevices deviceId prior).1 = some preference ↔
      details.1 = true ∧
        preference.isBlacklisted = platform.isBlacklisted type details.2.1
          (deviceTypeString type ++ ":" ++ details.2.2) ∧
        (preference.isUSBPair = true ↔ capture = true ∧ details.2.1.classId = "USB" ∧
          ¬ (platform.features.depreferUsbOnThunderbolt = true ∧
              platform.isUsbDeviceInThnMap deviceId = true) ∧
            (platform.getMatchingDevice details.2.2 .speaker playoutDevices).isSome) := by
  obtain ⟨blacklisted, pair⟩ := preference
  simp only [preferenceOf, getAudioHardwareIdFromDeviceId_typed]
  generalize platform.getAudioHardwareIdFromDeviceId (if capture then .mic else .speaker)
    deviceId prior false = details
  obtain ⟨ok, ids, key⟩ := details
  cases ok with
  | false => simp
  | true =>
      simp only [if_true, Option.some.injEq, Preference.mk.injEq, true_and]
      refine and_congr eq_comm ?_
      cases capture with
      | false => cases pair <;> simp
      | true =>
          simp only [if_true, isMicUSBPair, withoutTypePrefix_append, Bool.not_true,
            Bool.false_eq_true, if_false, true_and]
          cases platform.features.depreferUsbOnThunderbolt with
          | false => cases pair <;> simp
          | true =>
              cases platform.isUsbDeviceInThnMap deviceId with
              | false => cases pair <;> simp
              | true => cases pair <;> simp

theorem LookupOfDevice.preferenceOf_eq {platform : AudioPlatform}
    (lookup : platform.LookupOfDevice) (capture : Bool) (playoutDevices : List Device)
    (deviceId : String) (prior other : HardwareIds) :
    (platform.preferenceOf capture playoutDevices deviceId prior).1 =
      (platform.preferenceOf capture playoutDevices deviceId other).1 := by
  have found := lookup.found (if capture then .mic else .speaker) deviceId prior other
  have outputs := lookup.outputs (if capture then .mic else .speaker) deviceId prior other
  simp only [preferenceOf, getAudioHardwareIdFromDeviceId]
  cases resolved : (platform.hardwareIdsWin (if capture then .mic else .speaker) deviceId
      prior).1 with
  | false =>
      rw [resolved] at found
      simp only [← found, Bool.false_eq_true, if_false]
  | true =>
      rw [outputs resolved, ← found, resolved]

/-- Where the lookup is a function of the device, so is the preference, and every listed
device is ranked by its own. -/
theorem LookupOfDevice.rankedDevices_eq {platform : AudioPlatform}
    (lookup : platform.LookupOfDevice) (capture : Bool)
    (captureDevices playoutDevices : List Device) (given : Endpoint) :
    platform.rankedDevices capture captureDevices playoutDevices given =
      (given, (platform.preferenceOf capture playoutDevices given.id .empty).1.getD .worst) ::
        ((if capture then captureDevices else playoutDevices).filter
            (·.id ≠ automaticDeviceGuid)).filterMap fun device =>
          (platform.preferenceOf capture playoutDevices device.id .empty).1.map
            (device.endpoint, ·) := by
  have candidates (ids : HardwareIds) (devices : List Device) :
      platform.candidatesFrom capture playoutDevices ids devices =
        (devices.filter (·.id ≠ automaticDeviceGuid)).filterMap fun device =>
          (platform.preferenceOf capture playoutDevices device.id .empty).1.map
            (device.endpoint, ·) := by
    induction devices generalizing ids with
    | nil => rfl
    | cons device rest ih =>
        by_cases placeholder : device.id = automaticDeviceGuid
        · simp only [candidatesFrom, placeholder, if_true]
          rw [ih, List.filter_cons_of_neg (by simpa using placeholder)]
        · have same := lookup.preferenceOf_eq capture playoutDevices device.id ids .empty
          rw [List.filter_cons_of_pos (by simpa using placeholder), List.filterMap_cons, ← same]
          simp only [candidatesFrom, placeholder, if_false]
          cases platform.preferenceOf capture playoutDevices device.id ids with
          | mk preference ids =>
              cases preference with
              | none => exact ih ids
              | some preference =>
                  simp only [Option.map_some]
                  rw [ih]
  simp only [rankedDevices, candidates]

/-- The preferred device is the first maximum over the default device and the whole list,
so the early end of the loop loses nothing; and where the lookup is a function of the
device, this is the order of the devices' own preferences. -/
theorem getPreferredDeviceId_maximal (platform : AudioPlatform) (capture : Bool)
    (captureDevices playoutDevices : List Device) (given : Endpoint) :
    ((platform.rankedDevices capture captureDevices playoutDevices given).argmax
        fun candidate => rank capture candidate.2).map Prod.fst =
      some (platform.getPreferredDeviceId capture captureDevices playoutDevices given) ∧
    (platform.LookupOfDevice →
      platform.rankedDevices capture captureDevices playoutDevices given =
        (given, (platform.preferenceOf capture playoutDevices given.id .empty).1.getD .worst) ::
          ((if capture then captureDevices else playoutDevices).filter
              (·.id ≠ automaticDeviceGuid)).filterMap fun device =>
            (platform.preferenceOf capture playoutDevices device.id .empty).1.map
              (device.endpoint, ·)) := by
  refine ⟨?_, fun lookup => lookup.rankedDevices_eq capture captureDevices playoutDevices given⟩
  simp only [getPreferredDeviceId, rankedDevices]
  generalize (if capture then captureDevices else playoutDevices) = deviceList
  cases deviceList with
  | nil => rfl
  | cons first rest =>
      simp only [List.isEmpty_cons, Bool.false_eq_true, if_false]
      exact preferredDeviceFrom_argmax platform capture playoutDevices given (first :: rest) _ _
        none

/-- A USB headset that is neither the default microphone nor built in. -/
def headsetPlatform : AudioPlatform where
  features := ⟨false, false, true⟩
  hardwareIdsWin _ deviceId prior :=
    if deviceId = "headset" then (true, ⟨"046D", "0A38", "USB"⟩)
    else if deviceId = "array" then (true, ⟨"8086", "9D70", "PCI"⟩)
    else (false, prior)
  isBlacklisted _ _ _ := false
  isUsbDeviceInThnMap _ := false
  isDeviceBuiltIn _ deviceId := deviceId == "array"
  defaultCapDevice := ⟨"Microphone Array", "array", true⟩
  defaultCapCommDevice := ⟨"Microphone Array", "array", true⟩
  defaultPlayDevice := ⟨"Speakers", "speakers", true⟩
  defaultPlayCommDevice := ⟨"Speakers", "speakers", true⟩
  inputSignalMeter := none
  changeDevices _ selected := selected
  defaultCapDevice_ne_automatic := by decide

theorem headsetPlatform_lookup : headsetPlatform.LookupOfDevice where
  found type deviceId prior other := by
    simp only [headsetPlatform]
    split_ifs <;> rfl
  outputs type deviceId prior other := by
    simp only [headsetPlatform]
    split_ifs <;> simp

/-- On these lists the headset is the first microphone with a matching speaker. -/
theorem getPreferredDeviceId_maximal_headset :
    headsetPlatform.rankedDevices true [⟨"Headset", "headset", false⟩]
        [⟨"Headset", "headset", false⟩] ⟨"array", "Microphone Array"⟩ =
      [(⟨"array", "Microphone Array"⟩, ⟨false, false⟩), (⟨"headset", "Headset"⟩, ⟨false, true⟩)] :=
  ((getPreferredDeviceId_maximal headsetPlatform true [⟨"Headset", "headset", false⟩]
    [⟨"Headset", "headset", false⟩] ⟨"array", "Microphone Array"⟩).2
      headsetPlatform_lookup).trans (by decide +kernel)

end AudioPlatform

end FiberApp.Devices
