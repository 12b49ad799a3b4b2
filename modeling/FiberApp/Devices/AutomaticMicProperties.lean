import FiberApp.Devices.AudioSelectionProperties
import FiberApp.Devices.DeviceChangesProperties
import FiberApp.Devices.PreferredDeviceProperties

/-! With nothing blacklisted, either procedure for the automatic microphone keeps the
default one if it is paired, and otherwise takes the first paired one of the list. -/

set_option autoImplicit false

namespace FiberApp.Devices

namespace AudioPlatform

/-- The platform with `mBiasedAudioDeviceAutoSelection` on or off. -/
def withBias (platform : AudioPlatform) (biased : Bool) : AudioPlatform :=
  { platform with
    features := { platform.features with biasedAudioDeviceAutoSelection := biased } }

def hasHardwareId (platform : AudioPlatform) (type : DeviceConfigType) (deviceId : String) :
    Bool :=
  (platform.hardwareIdsWin type deviceId .empty).1

/-- A USB microphone with a matching speaker that is not to be avoided. -/
def isPairedMic (platform : AudioPlatform) (playoutDevices : List Device) (micId : String) :
    Bool :=
  (platform.isUsbMicWithSpeaker playoutDevices micId .empty).1

/-- The given microphone if it is paired, and else the first paired one of the list. -/
def firstPairedMic (platform : AudioPlatform) (captureDevices playoutDevices : List Device)
    (given : Endpoint) : Endpoint :=
  if platform.isPairedMic playoutDevices given.id then given
  else ((captureDevices.find? fun device =>
    platform.isPairedMic playoutDevices device.id).map Device.endpoint).getD given

/-- No lookup of the device resolves to blacklisted hardware. -/
def NotBlacklisted (platform : AudioPlatform) (type : DeviceConfigType) (deviceId : String) :
    Prop :=
  ∀ prior, (platform.hardwareIdsWin type deviceId prior).1 = true →
    platform.isBlacklisted type
      (platform.getAudioHardwareIdFromDeviceId type deviceId prior true).2.1
      (platform.getAudioHardwareIdFromDeviceId type deviceId prior true).2.2 = false

theorem NotBlacklisted.preferenceOf {platform : AudioPlatform} {deviceId : String}
    (unlisted : platform.NotBlacklisted .mic deviceId) {playoutDevices : List Device}
    {prior : HardwareIds} {candidate : Preference}
    (found : (platform.preferenceOf true playoutDevices deviceId prior).1 = some candidate) :
    candidate.isBlacklisted = false := by
  simp only [AudioPlatform.preferenceOf, if_true] at found
  split at found
  case isTrue resolves =>
    rw [← Option.some.inj found]
    exact unlisted prior resolves
  case isFalse => cases found

theorem isPairedMic_of_missing {platform : AudioPlatform} (playoutDevices : List Device)
    {micId : String} (missing : platform.hasHardwareId .mic micId = false) :
    platform.isPairedMic playoutDevices micId = false := by
  unfold hasHardwareId at missing
  simp only [isPairedMic, isUsbMicWithSpeaker, getAudioHardwareIdFromDeviceId, missing,
    Bool.false_and]

section Lookup

variable {platform : AudioPlatform} (lookup : platform.LookupOfDevice)
include lookup

theorem LookupOfDevice.getAudioHardwareIdFromDeviceId_eq (type : DeviceConfigType)
    (deviceId : String) (prior other : HardwareIds) (idKeyWithType : Bool)
    (resolves : (platform.hardwareIdsWin type deviceId other).1 = true) :
    platform.getAudioHardwareIdFromDeviceId type deviceId prior idKeyWithType =
      platform.getAudioHardwareIdFromDeviceId type deviceId other idKeyWithType := by
  have found := lookup.found type deviceId prior other
  have outputs := lookup.outputs type deviceId prior other (found.trans resolves)
  simp only [getAudioHardwareIdFromDeviceId, found, outputs]

theorem LookupOfDevice.isUsbMicWithSpeaker_eq (playoutDevices : List Device) (micId : String)
    (prior : HardwareIds) :
    (platform.isUsbMicWithSpeaker playoutDevices micId prior).1 =
      platform.isPairedMic playoutDevices micId := by
  simp only [isPairedMic, isUsbMicWithSpeaker]
  cases resolves : (platform.hardwareIdsWin .mic micId .empty).1 with
  | true => rw [lookup.getAudioHardwareIdFromDeviceId_eq .mic micId prior .empty false resolves]
  | false =>
      have found := (lookup.found .mic micId prior .empty).trans resolves
      simp only [getAudioHardwareIdFromDeviceId, found, resolves, Bool.false_and]

/-- What the loop over the list learns about a microphone. -/
theorem LookupOfDevice.preferenceOf_mic (playoutDevices : List Device) (micId : String)
    (prior : HardwareIds) :
    (platform.preferenceOf true playoutDevices micId prior).1.elim false Preference.isUSBPair =
      platform.isPairedMic playoutDevices micId := by
  rw [← lookup.isUsbMicWithSpeaker_eq playoutDevices micId prior]
  simp only [preferenceOf, isUsbMicWithSpeaker, getAudioHardwareIdFromDeviceId_typed, if_true,
    isMicUSBPair, withoutTypePrefix_append]
  cases (platform.getAudioHardwareIdFromDeviceId .mic micId prior false).1 with
  | false => simp
  | true =>
      cases platform.features.depreferUsbOnThunderbolt && platform.isUsbDeviceInThnMap micId with
      | false => simp
      | true => simp

theorem LookupOfDevice.usbMicWithSpeakerFrom_eq (playoutDevices : List Device)
    (prior : HardwareIds) (devices : List Device) :
    platform.usbMicWithSpeakerFrom playoutDevices prior devices =
      devices.find? fun device => platform.isPairedMic playoutDevices device.id := by
  induction devices generalizing prior with
  | nil => rfl
  | cons device rest ih =>
      have paired := lookup.isUsbMicWithSpeaker_eq playoutDevices device.id prior
      cases scanned : platform.isUsbMicWithSpeaker playoutDevices device.id prior with
      | mk found ids =>
          rw [scanned] at paired
          cases found with
          | true => simp only [usbMicWithSpeakerFrom, scanned, List.find?_cons, ← paired]
          | false =>
              simp only [usbMicWithSpeakerFrom, scanned, List.find?_cons, ← paired]
              exact ih ids

/-- Once a device that is not blacklisted is selected, only a paired one replaces it. -/
theorem LookupOfDevice.preferredDeviceFrom_eq (playoutDevices devices : List Device)
    (placeholder : platform.hasHardwareId .mic automaticDeviceGuid = false)
    (unlisted : ∀ device ∈ devices, platform.NotBlacklisted .mic device.id)
    (ids : HardwareIds) (pair : Bool) (selectedDevice : Option Device) :
    platform.preferredDeviceFrom true playoutDevices ids ⟨false, pair⟩ selectedDevice devices =
      if pair then selectedDevice
      else (devices.find? fun device => platform.isPairedMic playoutDevices device.id).or
        selectedDevice := by
  induction devices generalizing ids pair selectedDevice with
  | nil => cases pair <;> rfl
  | cons device rest ih =>
      have later := ih fun other member => unlisted other (List.mem_cons_of_mem _ member)
      have own := unlisted device (by simp)
      have learned := lookup.preferenceOf_mic playoutDevices device.id ids
      by_cases automatic : device.id = automaticDeviceGuid
      · have unpaired := isPairedMic_of_missing playoutDevices (automatic ▸ placeholder)
        simp only [preferredDeviceFrom, if_pos automatic, List.find?_cons, unpaired]
        exact later ids pair selectedDevice
      cases pair with
      | true => simp [preferredDeviceFrom, automatic]
      | false =>
          simp only [preferredDeviceFrom, if_neg automatic, Bool.not_true, Bool.or_self,
            Bool.false_and, Bool.false_eq_true, if_false, Bool.not_false, Bool.true_and,
            List.find?_cons]
          cases resolved : platform.preferenceOf true playoutDevices device.id ids with
          | mk preference nextIds =>
              rw [resolved] at learned
              cases preference with
              | none =>
                  simp only [← learned, Option.elim_none]
                  exact later nextIds false selectedDevice
              | some candidate =>
                  obtain ⟨blacklisted, isUSBPair⟩ := candidate
                  obtain rfl : blacklisted = false :=
                    own.preferenceOf (congrArg Prod.fst resolved)
                  simp only [Option.elim_some] at learned
                  simp only [← learned]
                  cases isUSBPair with
                  | true =>
                      simp only [Bool.false_eq_true, if_false, Bool.or_true, if_true]
                      exact later nextIds true (some device)
                  | false =>
                      simp only [Bool.false_eq_true, if_false, Bool.or_self]
                      exact later nextIds false selectedDevice

/-- The procedure with the preferences, when nothing is blacklisted. -/
theorem LookupOfDevice.getPreferredDeviceId_eq (captureDevices playoutDevices : List Device)
    (given : Endpoint)
    (placeholder : platform.hasHardwareId .mic automaticDeviceGuid = false)
    (resolves : platform.hasHardwareId .mic given.id = true)
    (unlisted : ∀ deviceId ∈ given.id :: ids captureDevices,
      platform.NotBlacklisted .mic deviceId) :
    platform.getPreferredDeviceId true captureDevices playoutDevices given =
      platform.firstPairedMic captureDevices playoutDevices given := by
  have learned := lookup.preferenceOf_mic playoutDevices given.id .empty
  have scanned := fun ids pair => lookup.preferredDeviceFrom_eq playoutDevices captureDevices
    placeholder (fun device member => unlisted device.id (by simp [mem_ids member])) ids pair none
  have own := unlisted given.id (by simp)
  simp only [getPreferredDeviceId, firstPairedMic, if_true]
  cases captureDevices with
  | nil => simp
  | cons first rest =>
      simp only [List.isEmpty_cons, Bool.false_eq_true, if_false]
      cases found : platform.preferenceOf true playoutDevices given.id .empty with
      | mk preference nextIds =>
          rw [found] at learned
          cases preference with
          | none =>
              simp only [preferenceOf, if_true] at found
              split at found
              case isTrue => cases found
              case isFalse missing => exact absurd resolves missing
          | some default =>
              obtain ⟨blacklisted, isUSBPair⟩ := default
              obtain rfl : blacklisted = false := own.preferenceOf (congrArg Prod.fst found)
              simp only [Option.elim_some] at learned
              rw [Option.getD_some, scanned, ← learned]
              cases isUSBPair with
              | true => rfl
              | false => simp

end Lookup

theorem matchingDeviceFrom_withBias (platform : AudioPlatform) (biased : Bool) (key : String)
    (type : DeviceConfigType) (ids : HardwareIds) (devices : List Device) :
    (platform.withBias biased).matchingDeviceFrom key type ids devices =
      platform.matchingDeviceFrom key type ids devices := by
  induction devices generalizing ids with
  | nil => rfl
  | cons device rest ih =>
      simp only [matchingDeviceFrom, ih]
      rfl

theorem firstPairedMic_withBias (platform : AudioPlatform) (biased : Bool)
    (captureDevices playoutDevices : List Device) (given : Endpoint) :
    (platform.withBias biased).firstPairedMic captureDevices playoutDevices given =
      platform.firstPairedMic captureDevices playoutDevices given := by
  have paired (micId : String) : (platform.withBias biased).isPairedMic playoutDevices micId =
      platform.isPairedMic playoutDevices micId := by
    simp only [isPairedMic, isUsbMicWithSpeaker, getMatchingDevice, matchingDeviceFrom_withBias]
    rfl
  simp only [firstPairedMic, paired]

end AudioPlatform

namespace AudioManager

open AudioPlatform

theorem automaticMic_unbiased {platform : AudioPlatform} (lookup : platform.LookupOfDevice)
    (unbiased : platform.features.biasedAudioDeviceAutoSelection = false)
    (captureDevices playoutDevices : List Device) :
    automaticMic platform captureDevices playoutDevices =
      platform.firstPairedMic captureDevices playoutDevices
        platform.defaultCapCommDevice.endpoint := by
  have atDefault := lookup.isUsbMicWithSpeaker_eq playoutDevices
    platform.defaultCapCommDevice.endpoint.id .empty
  simp only [automaticMic, unbiased, Bool.false_eq_true, if_false, firstPairedMic, ← atDefault]
  cases platform.isUsbMicWithSpeaker playoutDevices platform.defaultCapCommDevice.endpoint.id
      .empty with
  | mk paired ids =>
      cases paired with
      | true => rfl
      | false => simp only [lookup.usbMicWithSpeakerFrom_eq, Bool.false_eq_true, if_false]

/-- With nothing blacklisted, the automatic microphone is the same with
`mBiasedAudioDeviceAutoSelection` on and off. -/
theorem getAutomaticMic_same {platform : AudioPlatform} (lookup : platform.LookupOfDevice)
    (placeholder : platform.hasHardwareId .mic automaticDeviceGuid = false)
    (resolves : platform.hasHardwareId .mic platform.defaultCapCommDevice.id = true)
    (manager : AudioManager)
    (unlisted : ∀ deviceId ∈ platform.defaultCapCommDevice.id :: ids manager.audioCaptureDevices,
      platform.NotBlacklisted .mic deviceId) (postMicCheck : Bool) :
    (manager.getAutomaticMic (platform.withBias true) postMicCheck).2 =
      (manager.getAutomaticMic (platform.withBias false) postMicCheck).2 := by
  have sameLookup (biased : Bool) : (platform.withBias biased).LookupOfDevice :=
    ⟨lookup.found, lookup.outputs⟩
  have preferred := (sameLookup true).getPreferredDeviceId_eq manager.audioCaptureDevices
    manager.audioPlayoutDevices platform.defaultCapCommDevice.endpoint placeholder resolves
    unlisted
  rw [getAutomaticMic_snd, getAutomaticMic_snd, automaticMic_unbiased (sameLookup false) rfl,
    firstPairedMic_withBias]
  rw [firstPairedMic_withBias] at preferred
  exact preferred

def headsetManager : AudioManager where
  changes := .getPlatformDevices ⟨[automaticDevice, ⟨"Microphone Array", "array", true⟩,
    ⟨"Headset", "headset", false⟩], [automaticDevice, ⟨"Headset", "headset", false⟩], []⟩
  autoSpkMic := .clear
  check := ⟨0, 0, 0, 0⟩
  selectedDeviceOptions := ⟨"", "", "", "", .auto, .auto⟩
  initMedia := []

theorem getAutomaticMic_same_headset :
    (headsetManager.getAutomaticMic (AudioPlatform.headsetPlatform.withBias true) true).2 =
      (headsetManager.getAutomaticMic (AudioPlatform.headsetPlatform.withBias false) true).2 :=
  getAutomaticMic_same AudioPlatform.headsetPlatform_lookup (by decide) (by decide) headsetManager
    (fun _ _ _ _ => rfl) true

end AudioManager

end FiberApp.Devices
