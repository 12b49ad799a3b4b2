import FiberApp.Capture.SupportedCapabilityProperties

/-! The format tables after a refresh. Every way to add a format moves the format count by
at most one, and only the device database has no limit of its own. -/

set_option autoImplicit false

namespace FiberApp.Capture

open Foundation

namespace WebrtcCapDevInfo

variable (ddi : WebrtcCapDevInfo) {index : Nat}

theorem storeCapability_of_lt (inside : index < formatCapacity)
    (capability : VideoCaptureCapability) :
    ∃ next, ddi.storeCapability index capability = some next ∧ next.fmtCnt = ddi.fmtCnt := by
  simp [storeCapability, inside]

theorem readCapability_of_lt (inside : index < formatCapacity) :
    ∃ capability, ddi.readCapability index = some capability := by
  simp [readCapability, inside]

theorem storeFormat_of_lt (inside : index < formatCapacity) (format : PjmediaFormat) :
    ∃ next, ddi.storeFormat index format = some next ∧ next.fmtCnt = ddi.fmtCnt := by
  simp [storeFormat, inside]

theorem initVideo_of_lt (inside : ddi.fmtCnt < formatCapacity) (width height fps : Int32) :
    ∃ next, ddi.initVideo width height fps = some next ∧ next.fmtCnt = ddi.fmtCnt :=
  storeFormat_of_lt ddi inside _

theorem modifyCapability_of_lt (inside : ddi.fmtCnt < formatCapacity)
    (update : VideoCaptureCapability → VideoCaptureCapability) :
    ∃ next, ddi.modifyCapability update = some next ∧ next.fmtCnt = ddi.fmtCnt := by
  obtain ⟨capability, read⟩ := readCapability_of_lt ddi inside
  obtain ⟨next, stored, same⟩ := storeCapability_of_lt ddi inside (update capability)
  exact ⟨next, by simp [modifyCapability, read, stored], same⟩

theorem modifyCapability_of_full (full : formatCapacity ≤ ddi.fmtCnt)
    (update : VideoCaptureCapability → VideoCaptureCapability) :
    ddi.modifyCapability update = none := by
  simp [modifyCapability, readCapability, Nat.not_lt.mpr full]

@[simp] theorem advance_fmtCnt (ddi : WebrtcCapDevInfo) :
    ddi.advance.fmtCnt = ddi.fmtCnt + 1 := rfl

end WebrtcCapDevInfo

namespace WebrtcCapFactory

variable (cf : WebrtcCapFactory)

theorem getDesireWH_some (width height : Int32) (ddi : WebrtcCapDevInfo) :
    ∃ next, cf.getDesireWH width height ddi = some next ∧ next.fmtCnt = ddi.fmtCnt := by
  obtain ⟨first, read⟩ := WebrtcCapDevInfo.readCapability_of_lt ddi
    (by decide : 0 < formatCapacity)
  obtain ⟨next, stored, same⟩ := WebrtcCapDevInfo.storeCapability_of_lt ddi
    (by decide : 0 < formatCapacity) { first with
      width := (cf.calculateDesiredWH width height).1
      height := (cf.calculateDesiredWH width height).2 }
  exact ⟨next, by simp [getDesireWH, read, stored], same⟩

theorem keepsSlot_some (ddi : WebrtcCapDevInfo) {slot : Nat} (inside : slot < formatCapacity)
    (capAdded : Bool) (tmpCap : VideoCaptureCapability) :
    ∃ kept, keepsSlot ddi slot capAdded tmpCap = some kept := by
  cases capAdded with
  | false => exact ⟨false, rfl⟩
  | true =>
      obtain ⟨best, read⟩ := WebrtcCapDevInfo.readCapability_of_lt ddi inside
      exact ⟨isYUV best && !isYUV tmpCap, by simp [keepsSlot, read]⟩

theorem scanCapabilities_some {slot : Nat} (inside : slot < formatCapacity)
    (request : CapabilitySupported) (capabilities : List VideoCaptureCapability)
    (capAdded : Bool) (ddi : WebrtcCapDevInfo) :
    ∃ added next,
      cf.scanCapabilities request slot capabilities capAdded ddi = some (added, next) ∧
        next.fmtCnt = ddi.fmtCnt := by
  induction capabilities generalizing capAdded ddi with
  | nil => exact ⟨capAdded, ddi, rfl, rfl⟩
  | cons tmpCap rest ih =>
      obtain ⟨stored, storedIn, sameCount⟩ :=
        WebrtcCapDevInfo.storeCapability_of_lt ddi inside tmpCap
      rw [scanCapabilities]
      split
      · exact ih capAdded ddi
      split
      · exact ih capAdded ddi
      split
      · split
        · exact ⟨false, ddi, rfl, rfl⟩
        · obtain ⟨next, desired, same⟩ := cf.getDesireWH_some tmpCap.width tmpCap.height stored
          exact ⟨true, next, by simp [storedIn, desired], same.trans sameCount⟩
      split
      · obtain ⟨kept, keeps⟩ := keepsSlot_some ddi inside capAdded tmpCap
        simp only [keeps, storedIn, Option.bind_eq_bind, Option.bind_some]
        split
        · exact ih capAdded ddi
        split
        · exact ⟨true, stored, rfl, sameCount⟩
        · obtain ⟨added, next, scanned, same⟩ := ih true stored
          exact ⟨added, next, scanned, same.trans sameCount⟩
      · exact ih capAdded ddi

theorem addFormat_some (ddi : WebrtcCapDevInfo) {slot : Nat} (inside : slot < formatCapacity) :
    ∃ next, addFormat ddi slot = some next ∧ next.fmtCnt = ddi.fmtCnt := by
  obtain ⟨capability, read⟩ := WebrtcCapDevInfo.readCapability_of_lt ddi inside
  simp only [addFormat, read, Option.bind_eq_bind, Option.bind_some]
  split
  · exact WebrtcCapDevInfo.storeFormat_of_lt ddi inside _
  · exact ⟨ddi, rfl, rfl⟩

theorem populateSupportedCapability_some {slot : Nat} (inside : slot < formatCapacity)
    (capabilities : List VideoCaptureCapability) (ddi : WebrtcCapDevInfo)
    (request : CapabilitySupported) :
    ∃ added next, cf.populateSupportedCapability capabilities ddi slot request =
        some (added, next) ∧ next.fmtCnt = ddi.fmtCnt := by
  obtain ⟨added, scanned, scans, same⟩ :=
    cf.scanCapabilities_some inside request capabilities false ddi
  simp only [populateSupportedCapability, scans, Option.bind_eq_bind, Option.bind_some]
  cases added with
  | false => exact ⟨false, scanned, rfl, same⟩
  | true =>
      obtain ⟨next, formatted, sameCount⟩ := addFormat_some scanned inside
      exact ⟨true, next, by simp [formatted], sameCount.trans same⟩

theorem addSupportedOnce_some (ddi : WebrtcCapDevInfo) (inside : ddi.fmtCnt < formatCapacity)
    (capabilities : List VideoCaptureCapability) (entry : CapabilitySupported) :
    ∃ next, cf.addSupportedOnce capabilities entry ddi = some next ∧
      next.fmtCnt ≤ ddi.fmtCnt + 1 := by
  obtain ⟨added, next, populated, same⟩ :=
    cf.populateSupportedCapability_some inside capabilities ddi entry
  simp only [addSupportedOnce, populated, Option.bind_eq_bind, Option.bind_some]
  cases added with
  | false => exact ⟨next, rfl, by omega⟩
  | true => exact ⟨next.advance, rfl, by simp [same]⟩

/-- Each entry of the supported list adds two formats at most. -/
theorem addSupported_some (capabilities : List VideoCaptureCapability)
    (entries : List CapabilitySupported) (ddi : WebrtcCapDevInfo)
    (room : ddi.fmtCnt + 2 * entries.length ≤ formatCapacity) :
    ∃ next, cf.addSupported capabilities entries ddi = some next ∧
      next.fmtCnt ≤ ddi.fmtCnt + 2 * entries.length := by
  induction entries generalizing ddi with
  | nil => exact ⟨ddi, rfl, by simp⟩
  | cons entry rest ih =>
      simp only [List.length_cons] at room ⊢
      obtain ⟨first, addedFirst, firstCount⟩ :=
        cf.addSupportedOnce_some ddi (by omega) capabilities entry
      obtain ⟨second, addedSecond, secondCount⟩ :=
        cf.addSupportedOnce_some first (by omega) capabilities entry
      simp only [addSupported, addedFirst, addedSecond, Option.bind_eq_bind, Option.bind_some]
      split
      case isTrue screen =>
        obtain ⟨next, added, count⟩ := ih second (by omega)
        exact ⟨next, by simp [added], by omega⟩
      case isFalse camera =>
        obtain ⟨next, added, count⟩ := ih first (by omega)
        exact ⟨next, by simp [added], by omega⟩

theorem addBestMatched_some (device : CaptureDevice) (ddi : WebrtcCapDevInfo)
    (inside : ddi.fmtCnt < formatCapacity) :
    ∃ next, cf.addBestMatched device ddi = some next ∧ next.fmtCnt = ddi.fmtCnt + 1 := by
  simp only [addBestMatched]
  generalize (device.getBestMatchedCapability (requestedCapability cf.hdCapable)).getD
    device.getFirstCapability = capability
  obtain ⟨stored, stores, same⟩ :=
    WebrtcCapDevInfo.storeCapability_of_lt ddi inside capability
  simp only [stores, Option.bind_eq_bind, Option.bind_some]
  split
  · obtain ⟨formatted, formats, sameCount⟩ := WebrtcCapDevInfo.initVideo_of_lt stored
      (by omega) capability.width capability.height (atMostMaxFps capability.maxFPS)
    exact ⟨formatted.advance, by simp [formats], by simp [sameCount, same]⟩
  · exact ⟨stored.advance, rfl, by simp [same]⟩

theorem addDefault_some (width height : Int32) (ddi : WebrtcCapDevInfo)
    (inside : ddi.fmtCnt < formatCapacity) :
    ∃ next, addDefault width height ddi = some next ∧ next.fmtCnt = ddi.fmtCnt + 1 := by
  obtain ⟨stored, stores, same⟩ := WebrtcCapDevInfo.modifyCapability_of_lt ddi inside
    fun capability => { capability with width := width, height := height, maxFPS := 30 }
  obtain ⟨formatted, formats, sameCount⟩ :=
    WebrtcCapDevInfo.initVideo_of_lt stored (by omega) width height 30
  exact ⟨formatted.advance, by simp [addDefault, stores, formats], by simp [sameCount, same]⟩

theorem addDefaults_some (ddi : WebrtcCapDevInfo) (empty : ddi.fmtCnt = 0) :
    ∃ next, cf.addDefaults ddi = some next ∧ 0 < next.fmtCnt ∧ next.fmtCnt ≤ formatCapacity := by
  obtain ⟨typed, types, same⟩ := WebrtcCapDevInfo.modifyCapability_of_lt ddi
    (by simp [empty]) fun capability =>
      { capability with rawType := .i420, codecType := .unknown, maxFPS := 30 }
  have rest : ∀ hd : WebrtcCapDevInfo, hd.fmtCnt ≤ 1 →
      ∃ next, (addDefault 640 480 hd).bind (addDefault 320 240) = some next ∧
        0 < next.fmtCnt ∧ next.fmtCnt ≤ formatCapacity := by
    intro hd small
    obtain ⟨vga, adds, vgaCount⟩ := addDefault_some 640 480 hd
      (by simp only [formatCapacity]; omega)
    obtain ⟨next, addsLast, count⟩ := addDefault_some 320 240 vga
      (by simp only [formatCapacity]; omega)
    exact ⟨next, by simp [adds, addsLast], by omega, by simp only [formatCapacity]; omega⟩
  simp only [addDefaults, types, Option.bind_eq_bind, Option.bind_some]
  split
  · obtain ⟨hd, adds, count⟩ := addDefault_some 1280 720 typed (by simp [same, empty])
    simp only [adds, Option.bind_some]
    exact rest hd (by omega)
  · exact rest typed (by omega)

theorem addProperties_some (properties : VideoDeviceProperties) (ddi : WebrtcCapDevInfo)
    (inside : ddi.fmtCnt < formatCapacity) :
    ∃ next, addProperties ddi properties = some next ∧ next.fmtCnt = ddi.fmtCnt + 1 := by
  obtain ⟨stored, stores, same⟩ := WebrtcCapDevInfo.modifyCapability_of_lt ddi inside
    fun capability =>
      { capability with
        width := properties.width
        height := properties.height
        maxFPS := properties.fps
        rawType := .i420
        codecType := .unknown }
  obtain ⟨formatted, formats, sameCount⟩ := WebrtcCapDevInfo.initVideo_of_lt stored
    (by omega) properties.width properties.height (atMostMaxFps properties.fps)
  exact ⟨formatted.advance, by simp [addProperties, stores, formats], by simp [sameCount, same]⟩

theorem addProperties_full (properties : VideoDeviceProperties) {ddi : WebrtcCapDevInfo}
    (full : formatCapacity ≤ ddi.fmtCnt) : addProperties ddi properties = none := by
  simp [addProperties, WebrtcCapDevInfo.modifyCapability_of_full ddi full]

/-- While there is room, each valid entry of the database adds a format. -/
theorem addDatabaseEntries_some (entries : List VideoDeviceProperties) (success : Bool)
    (ddi : WebrtcCapDevInfo)
    (room : ddi.fmtCnt + entries.countP VideoDeviceProperties.isValid ≤ formatCapacity) :
    ∃ next, addDatabaseEntries entries success ddi =
        some (success || entries.any VideoDeviceProperties.isValid, next) ∧
      next.fmtCnt = ddi.fmtCnt + entries.countP VideoDeviceProperties.isValid ∧
      (entries.any VideoDeviceProperties.isValid = false → next = ddi) := by
  induction entries generalizing success ddi with
  | nil => exact ⟨ddi, by simp [addDatabaseEntries], rfl, fun _ => rfl⟩
  | cons properties rest ih =>
      cases valid : properties.isValid with
      | false =>
          simp only [List.countP_cons_of_neg (Bool.not_eq_true _ ▸ valid), List.any_cons, valid,
            Bool.false_or, addDatabaseEntries, Bool.false_eq_true, ↓reduceIte] at room ⊢
          exact ih success ddi room
      | true =>
          rw [List.countP_cons_of_pos valid] at room ⊢
          obtain ⟨added, adds, count⟩ := addProperties_some properties ddi (by omega)
          obtain ⟨next, rest, total, -⟩ := ih true added (by omega)
          refine ⟨next, ?_, by omega, by simp [valid]⟩
          simp [addDatabaseEntries, valid, adds, rest]

theorem addDatabaseEntries_overflow (entries : List VideoDeviceProperties) (success : Bool)
    (ddi : WebrtcCapDevInfo) (inside : ddi.fmtCnt ≤ formatCapacity)
    (overflow : formatCapacity < ddi.fmtCnt + entries.countP VideoDeviceProperties.isValid) :
    addDatabaseEntries entries success ddi = none := by
  induction entries generalizing success ddi with
  | nil => exact absurd overflow (by simpa using inside)
  | cons properties rest ih =>
      cases valid : properties.isValid with
      | false =>
          rw [List.countP_cons_of_neg (by simp [valid])] at overflow
          simpa [addDatabaseEntries, valid] using ih success ddi inside overflow
      | true =>
          rw [List.countP_cons_of_pos valid] at overflow
          rcases Nat.lt_or_ge ddi.fmtCnt formatCapacity with room | full
          · obtain ⟨added, adds, count⟩ := addProperties_some properties ddi room
            simpa [addDatabaseEntries, valid, adds] using ih true added (by omega) (by omega)
          · simp [addDatabaseEntries, valid, addProperties_full properties full]

end WebrtcCapFactory

/-- The device has no capabilities and more valid entries in the database than a table
holds. -/
def DatabaseOverflows (cf : WebrtcCapFactory) (device : CaptureDevice) : Prop :=
  cf.build = .macosx ∧ device.capabilities = [] ∧
    ∃ entries, cf.videoDevicePropertiesMap device.productId = some entries ∧
      formatCapacity < entries.countP VideoDeviceProperties.isValid

/-- The formats of a device are within its tables, and there is one. -/
structure FormatsInTable (ddi : WebrtcCapDevInfo) : Prop where
  positive : 0 < ddi.fmtCnt
  inside : ddi.fmtCnt ≤ formatCapacity

namespace WebrtcCapFactory

variable (cf : WebrtcCapFactory)

theorem populateCapabilityFromDatabase_cases (device : CaptureDevice)
    (empty : device.capabilities = []) (fits : ¬ DatabaseOverflows cf device) :
    (∃ ddi, cf.populateCapabilityFromDatabase device.named = some (true, ddi) ∧
        FormatsInTable ddi) ∨
      cf.populateCapabilityFromDatabase device.named = some (false, device.named) := by
  unfold populateCapabilityFromDatabase
  split
  case isFalse other => exact .inr rfl
  case isTrue mac =>
    rw [show device.named.productId = device.productId from rfl]
    cases found : cf.videoDevicePropertiesMap device.productId with
    | none => exact .inr rfl
    | some entries =>
        have room :
            device.named.fmtCnt + entries.countP VideoDeviceProperties.isValid ≤
              formatCapacity := by
          change 0 + _ ≤ _
          by_contra tooMany
          exact fits ⟨mac, empty, entries, found, by omega⟩
        obtain ⟨next, added, count, unchanged⟩ := addDatabaseEntries_some entries false _ room
        rw [Bool.false_or] at added
        cases some : entries.any VideoDeviceProperties.isValid with
        | true =>
            rw [some] at added
            have positive : 0 < entries.countP VideoDeviceProperties.isValid := by
              rw [List.countP_pos_iff]
              simpa using some
            exact .inl ⟨next, added, by omega, by omega⟩
        | false =>
            rw [some, unchanged some] at added
            exact .inr added

theorem refreshDevice_some (device : CaptureDevice) (fits : ¬ DatabaseOverflows cf device) :
    ∃ ddi, cf.refreshDevice device = some ddi ∧ FormatsInTable ddi := by
  unfold refreshDevice
  split
  case isTrue empty =>
    rcases cf.populateCapabilityFromDatabase_cases device empty fits with
      ⟨ddi, fromDatabase, formats⟩ | notFound
    · exact ⟨ddi, by simp [fromDatabase], formats⟩
    · obtain ⟨next, added, positive, inside⟩ := cf.addDefaults_some device.named rfl
      exact ⟨next, by simp [notFound, added], positive, inside⟩
  case isFalse reported =>
    have short : (if cf.hdCapable then capabilitySupported else capabilitySupported.tail).length
        ≤ 5 := by
      split <;> decide
    obtain ⟨ddi, added, count⟩ := cf.addSupported_some device.capabilities
      (if cf.hdCapable then capabilitySupported else capabilitySupported.tail) device.named
      (by change 0 + _ ≤ 16; omega)
    have bounded : ddi.fmtCnt ≤ 10 := by
      change ddi.fmtCnt ≤ 0 + _ at count
      omega
    simp only [added, Option.bind_eq_bind, Option.bind_some]
    split
    case isTrue none =>
      obtain ⟨next, adds, single⟩ := cf.addBestMatched_some device ddi
        (by simp only [formatCapacity]; omega)
      exact ⟨next, adds, by omega, by simp only [formatCapacity]; omega⟩
    case isFalse some => exact ⟨ddi, rfl, by omega, by simp only [formatCapacity]; omega⟩

theorem refreshDevice_overflow (device : CaptureDevice)
    (overflows : DatabaseOverflows cf device) : cf.refreshDevice device = none := by
  obtain ⟨mac, empty, entries, found, tooMany⟩ := overflows
  have stuck : cf.populateCapabilityFromDatabase device.named = none := by
    have entriesOf : cf.videoDevicePropertiesMap device.named.productId = some entries := found
    rw [populateCapabilityFromDatabase, if_pos mac, entriesOf]
    exact addDatabaseEntries_overflow entries false device.named (Nat.zero_le _)
      (by change _ < 0 + _; omega)
  simp [refreshDevice, empty, stuck]

end WebrtcCapFactory

namespace WebrtcCapDevInfo

def formatWidth (ddi : WebrtcCapDevInfo) (index : Nat) : UInt32 :=
  if inside : index < formatCapacity then (ddi.fmt ⟨index, inside⟩).width else 0

theorem readFormatWidth_of_lt {ddi : WebrtcCapDevInfo} {index : Nat}
    (inside : index < formatCapacity) :
    ddi.readFormatWidth index = some (ddi.formatWidth index) := by
  simp [readFormatWidth, formatWidth, inside]

/-- The loop stops where the widths fall below the encoder's, or it reaches the last format;
there the last one is wide enough, or none was. -/
theorem capturerIndexFrom_cases {readWidth : Nat → Option UInt32} {width : Nat → UInt32}
    (encWidth : UInt32) {last : Nat} (reads : ∀ i ≤ last, readWidth i = some (width i))
    (remaining index : Nat) (ends : index + remaining = last) :
    ∃ found, capturerIndexFrom readWidth encWidth remaining index = some found ∧
      ((found < last ∧ encWidth ≤ width found ∧ width (found + 1) < encWidth) ∨
        (found = last ∧ encWidth ≤ width last) ∨
        (found = 0 ∧ ∀ i, index ≤ i → i ≤ last → width i < encWidth)) := by
  induction remaining generalizing index with
  | zero =>
      obtain rfl : index = last := ends
      simp only [capturerIndexFrom, reads index (Nat.le_refl _), Option.bind_eq_bind,
        Option.bind_some]
      by_cases wide : encWidth ≤ width index
      · exact ⟨index, by rw [if_pos wide], .inr (.inl ⟨rfl, wide⟩)⟩
      · refine ⟨0, by rw [if_neg wide], .inr (.inr ⟨rfl, ?_⟩)⟩
        intro i above below
        rw [Nat.le_antisymm below above]
        exact UInt32.not_le.mp wide
  | succ remaining ih =>
      simp only [capturerIndexFrom, reads index (by omega), reads (index + 1) (by omega),
        Option.bind_eq_bind, Option.bind_some]
      split
      case isTrue falls => exact ⟨index, rfl, .inl ⟨by omega, falls⟩⟩
      case isFalse goesOn =>
        obtain ⟨found, loop, stops | wide | ⟨none, narrow⟩⟩ := ih (index + 1) (by omega)
        · exact ⟨found, loop, .inl stops⟩
        · exact ⟨found, loop, .inr (.inl wide)⟩
        · refine ⟨found, loop, .inr (.inr ⟨none, ?_⟩)⟩
          intro i above below
          rcases Nat.lt_or_ge index i with later | here
          · exact narrow i later below
          · obtain rfl : i = index := by omega
            by_contra wide
            exact goesOn ⟨UInt32.not_lt.mp wide, narrow (i + 1) (by omega) (by omega)⟩

def NonIncreasing (ddi : WebrtcCapDevInfo) : Prop :=
  ∀ i j, i ≤ j → j < ddi.fmtCnt → ddi.formatWidth j ≤ ddi.formatWidth i

/-- The index is that of a format, and for non-increasing widths that of the last format at
least as wide as the encoder, or zero. -/
structure IsCapturerIndex (ddi : WebrtcCapDevInfo) (encWidth : UInt32) (index : Nat) : Prop where
  inside : index < ddi.fmtCnt
  lastWide : ddi.NonIncreasing → (∃ i < ddi.fmtCnt, encWidth ≤ ddi.formatWidth i) →
    encWidth ≤ ddi.formatWidth index ∧
      ∀ later, index < later → later < ddi.fmtCnt → ddi.formatWidth later < encWidth
  noneWide : (∀ i < ddi.fmtCnt, ddi.formatWidth i < encWidth) → index = 0

theorem getCapturerIndex_some {ddi : WebrtcCapDevInfo} (formats : FormatsInTable ddi)
    (encWidth : Int32) :
    ∃ index, ddi.getCapturerIndex encWidth = some index ∧
      ddi.IsCapturerIndex encWidth.toUInt32 index := by
  obtain ⟨positive, inside⟩ := formats
  simp only [formatCapacity] at inside
  have rounds : (ddi.fmtCnt + (2 ^ 32 - 1)) % 2 ^ 32 = ddi.fmtCnt - 1 := by omega
  rw [getCapturerIndex, rounds]
  have reads : ∀ i ≤ ddi.fmtCnt - 1, ddi.readFormatWidth i = some (ddi.formatWidth i) :=
    fun i below => readFormatWidth_of_lt (by simp only [formatCapacity]; omega)
  obtain ⟨found, loop, stops⟩ :=
    capturerIndexFrom_cases encWidth.toUInt32 reads (ddi.fmtCnt - 1) 0 (by omega)
  refine ⟨found, loop, ?_⟩
  rcases stops with ⟨early, wide, falls⟩ | ⟨rfl, wide⟩ | ⟨rfl, narrow⟩
  · refine ⟨by omega, fun sorted _ => ⟨wide, ?_⟩, ?_⟩
    · intro later after below
      exact UInt32.lt_of_le_of_lt (sorted (found + 1) later after below) falls
    · intro narrow
      exact absurd (narrow found (by omega)) (UInt32.not_lt.mpr wide)
  · refine ⟨by omega, fun _ _ => ⟨wide, ?_⟩, ?_⟩
    · intro later after below
      omega
    · intro narrow
      exact absurd (narrow _ (by omega)) (UInt32.not_lt.mpr wide)
  · refine ⟨positive, ?_, fun _ => rfl⟩
    rintro - ⟨i, below, wide⟩
    exact absurd (narrow i (Nat.zero_le _) (by omega)) (UInt32.not_lt.mpr wide)

end WebrtcCapDevInfo

namespace WebrtcCapFactory

variable (cf : WebrtcCapFactory)

/-- The refresh makes every write within the tables, and leaves every device with a format
and with a capturer index for every encoder width. -/
def RefreshInTables (devices : List CaptureDevice) : Prop :=
  ∃ infos, cf.refresh devices = some infos ∧ infos.length = devices.length ∧
    ∀ ddi ∈ infos, FormatsInTable ddi ∧ ∀ encWidth : Int32, ∃ index,
      ddi.getCapturerIndex encWidth = some index ∧
        ddi.IsCapturerIndex encWidth.toUInt32 index

theorem refresh_cons (device : CaptureDevice) (rest : List CaptureDevice) :
    cf.refresh (device :: rest) =
      (cf.refreshDevice device).bind fun ddi => (cf.refresh rest).map (ddi :: ·) := by
  cases first : cf.refreshDevice device with
  | none => simp [refresh, first]
  | some ddi => cases others : List.mapM cf.refreshDevice rest <;> simp [refresh, first, others]

/-- A refresh stays in the tables exactly when no device has more valid entries in the
database than its tables hold. -/
theorem refresh_inTables_iff (devices : List CaptureDevice) :
    cf.RefreshInTables devices ↔ ∀ device ∈ devices, ¬ DatabaseOverflows cf device := by
  induction devices with
  | nil => simp [RefreshInTables, refresh]
  | cons device rest ih =>
      rw [List.forall_mem_cons, ← ih]
      constructor
      · intro filled
        obtain ⟨infos, refreshed, length, each⟩ := filled
        rw [refresh_cons] at refreshed
        obtain ⟨ddi, first, others⟩ := Option.bind_eq_some_iff.mp refreshed
        obtain ⟨tail, restInfos, rfl⟩ := Option.map_eq_some_iff.mp others
        refine ⟨?_, tail, restInfos, Nat.succ.inj length, fun info member => ?_⟩
        · intro overflows
          rw [cf.refreshDevice_overflow device overflows] at first
          cases first
        · exact each info (List.mem_cons_of_mem _ member)
      · intro filled
        obtain ⟨fits, tail, restInfos, length, each⟩ := filled
        obtain ⟨ddi, first, formats⟩ := cf.refreshDevice_some device fits
        refine ⟨ddi :: tail, by simp [refresh_cons, first, restInfos], by simp [length], ?_⟩
        intro info member
        rcases List.mem_cons.mp member with rfl | member
        · exact ⟨formats, WebrtcCapDevInfo.getCapturerIndex_some formats⟩
        · exact each info member

/-- The built-in camera of a Mac, with seventeen entries in the device database. -/
def macCamera : CaptureDevice where
  name := "FaceTime".toList
  webrtcId := "0x1".toList
  productId := "0x8509".toList
  capabilities := []
  getBestMatchedCapability := fun _ => none

def macFactory : WebrtcCapFactory where
  build := .macosx
  mjpegLinux := false
  encWidth := 1280
  encHeight := 720
  videoDevicePropertiesMap := fun _ => some (List.replicate 17 ⟨640, 480, 30⟩)
  calculateDesiredWH := fun width height => (width, height)

theorem refresh_overflows : ¬ macFactory.RefreshInTables [macCamera] := by
  intro filled
  obtain ⟨infos, refreshed, -⟩ := filled
  have stuck : macFactory.refresh [macCamera] = none := by
    rw [refresh_cons, macFactory.refreshDevice_overflow macCamera
      ⟨rfl, rfl, _, rfl, by decide⟩]
    rfl
  rw [stuck] at refreshed
  cases refreshed

end WebrtcCapFactory

end FiberApp.Capture
