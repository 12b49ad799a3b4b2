import Mathlib.Algebra.Group.Nat.Defs
import FiberApp.Devices.ScreenSharing
import FiberApp.Video.RawVideoType

/-! The capture devices of `webrtc_capture_dev.cpp` and their format tables. A store at or
beyond the capacity of a table has no result. -/

set_option autoImplicit false

namespace FiberApp.Capture

open Foundation
open Devices.ScreenSharing (Text isScreenSharingDevice)

def isRawTypeYUV : RawVideoType → Bool
  | .i420 | .yv12 | .yuy2 | .uyvy | .iyuv | .nv12 | .nv21 => true
  | _ => false

inductive VideoCodecType
  | vp8
  | i420
  | red
  | ulpfec
  | generic
  | unknown
  deriving DecidableEq, Repr

structure VideoCaptureCapability where
  width : Int32
  height : Int32
  maxFPS : Int32
  expectedCaptureDelay : Int32
  rawType : RawVideoType
  codecType : VideoCodecType
  interlaced : Bool
  deriving DecidableEq, Repr

inductive PjmediaFormatId
  | none
  | i420
  | rgb32
  deriving DecidableEq, Repr

/-- The fields that `pjmedia_format_init_video` takes. -/
structure PjmediaFormat where
  id : PjmediaFormatId
  width : UInt32
  height : UInt32
  fpsNum : UInt32
  fpsDenum : UInt32
  deriving DecidableEq, Repr

structure FilterCam where
  vendId : Text
  prodId : Text
  deviceName : Text
  deriving DecidableEq, Repr

def filterList : List FilterCam :=
  [⟨"vid_046d".toList, "pid_0828".toList, "logitech B990".toList⟩]

def strstr (text needle : Text) : Bool := (findFrom needle text).isSome

def FilterCam.names (entry : FilterCam) (id : Text) : Bool :=
  strstr id entry.vendId && strstr id entry.prodId

def anyFps : Int32 := -1

def maxFps : Int32 := 30

structure CapabilitySupported where
  width : Int32
  height : Int32
  maxFPS : Int32
  deriving DecidableEq, Repr

def capabilitySupported : List CapabilitySupported :=
  [⟨1280, 720, maxFps⟩, ⟨640, 480, anyFps⟩, ⟨640, 360, anyFps⟩, ⟨320, 240, anyFps⟩,
    ⟨320, 180, anyFps⟩]

def nonHdCapIdx : Fin capabilitySupported.length := ⟨1, by decide⟩

/-- `PJMEDIA_VID_DEV_INFO_FMT_CNT`. -/
abbrev formatCapacity : Nat := 16

abbrev Table (α : Type) : Type := Fin formatCapacity → α

structure WebrtcCapDevInfo where
  name : Text
  webrtcId : Text
  productId : Text
  capability : Table VideoCaptureCapability
  fmt : Table PjmediaFormat
  fmtCnt : Nat

namespace WebrtcCapDevInfo

def storeCapability (ddi : WebrtcCapDevInfo) (index : Nat) (capability : VideoCaptureCapability) :
    Option WebrtcCapDevInfo :=
  if inside : index < formatCapacity then
    some { ddi with capability := Function.update ddi.capability ⟨index, inside⟩ capability }
  else none

def readCapability (ddi : WebrtcCapDevInfo) (index : Nat) : Option VideoCaptureCapability :=
  if inside : index < formatCapacity then some (ddi.capability ⟨index, inside⟩) else none

def storeFormat (ddi : WebrtcCapDevInfo) (index : Nat) (format : PjmediaFormat) :
    Option WebrtcCapDevInfo :=
  if inside : index < formatCapacity then
    some { ddi with fmt := Function.update ddi.fmt ⟨index, inside⟩ format }
  else none

def isScreen (ddi : WebrtcCapDevInfo) : Bool := isScreenSharingDevice ddi.webrtcId

end WebrtcCapDevInfo

inductive Build
  | windows
  | macosx
  | x11
  deriving DecidableEq, Repr

structure VideoDeviceProperties where
  width : Int32
  height : Int32
  fps : Int32
  deriving DecidableEq, Repr

def VideoDeviceProperties.isValid (properties : VideoDeviceProperties) : Bool :=
  properties.width ≠ 0 && properties.height ≠ 0 && properties.fps ≠ 0

/-- What the factory asks of its build, of the meeting features, of the encoder parameters
and of the device database; `calculateDesiredWH` computes with doubles. -/
structure WebrtcCapFactory where
  build : Build
  mjpegLinux : Bool
  encWidth : Int32
  encHeight : Int32
  videoDevicePropertiesMap : Text → Option (List VideoDeviceProperties)
  calculateDesiredWH : Int32 → Int32 → Int32 × Int32

namespace WebrtcCapFactory

def getDesireWH (cf : WebrtcCapFactory) (capturedWidth capturedHeight : Int32)
    (ddi : WebrtcCapDevInfo) : Option WebrtcCapDevInfo := do
  let first ← ddi.readCapability 0
  let (width, height) := cf.calculateDesiredWH capturedWidth capturedHeight
  ddi.storeCapability 0 { first with width := width, height := height }

def ignoresMjpeg (cf : WebrtcCapFactory) : Bool :=
  cf.build = .x11 && !cf.mjpegLinux

end WebrtcCapFactory

/-- Whether a capability is still looked at after the loop over `filter_list`: its
`continue` goes on with the next entry of that list. -/
def afterFilterList (id : Text) : List FilterCam → Bool
  | [] => true
  | entry :: rest =>
      if entry.names id then afterFilterList id rest else afterFilterList id rest

def CapabilitySupported.matchedBy (request : CapabilitySupported)
    (capability : VideoCaptureCapability) : Bool :=
  capability.width = request.width && capability.height = request.height &&
    (capability.maxFPS = request.maxFPS || request.maxFPS = anyFps)

def isFavored (capability : VideoCaptureCapability) : Bool :=
  capability.rawType = .i420 || capability.rawType = .yv12

def isYUV (capability : VideoCaptureCapability) : Bool := isRawTypeYUV capability.rawType

namespace WebrtcCapFactory

/-- Whether the YUV capability in the slot is kept against this one. -/
def keepsSlot (ddi : WebrtcCapDevInfo) (slot : Nat) (capAdded : Bool)
    (tmpCap : VideoCaptureCapability) : Option Bool :=
  if capAdded then do
    let best ← ddi.readCapability slot
    some (isYUV best && !isYUV tmpCap)
  else some false

/-- The loop over the capabilities: `capAdded` and the device where it ends, or the device
where it returns false from the function. -/
def scanCapabilities (cf : WebrtcCapFactory) (request : CapabilitySupported) (slot : Nat) :
    List VideoCaptureCapability → Bool → WebrtcCapDevInfo → Option (Bool × WebrtcCapDevInfo)
  | [], capAdded, ddi => some (capAdded, ddi)
  | tmpCap :: rest, capAdded, ddi =>
      if tmpCap.rawType = .mjpeg && cf.ignoresMjpeg then
        cf.scanCapabilities request slot rest capAdded ddi
      else if tmpCap.rawType = .mjpeg && !afterFilterList ddi.webrtcId filterList then
        cf.scanCapabilities request slot rest capAdded ddi
      else if ddi.isScreen then
        -- The screen returns on its first capability, so nothing was added before it.
        if slot > 1 then some (false, ddi)
        else do
          let added ← ddi.storeCapability slot tmpCap
          let desired ← cf.getDesireWH tmpCap.width tmpCap.height added
          some (true, desired)
      else if request.matchedBy tmpCap then do
        if ← keepsSlot ddi slot capAdded tmpCap then
          cf.scanCapabilities request slot rest capAdded ddi
        else
          let added ← ddi.storeCapability slot tmpCap
          if isFavored tmpCap then some (true, added)
          else cf.scanCapabilities request slot rest true added
      else cf.scanCapabilities request slot rest capAdded ddi

/-- The format of the slot, which is left alone for a capability with a codec. -/
def addFormat (ddi : WebrtcCapDevInfo) (slot : Nat) : Option WebrtcCapDevInfo := do
  let capability ← ddi.readCapability slot
  if capability.codecType = .unknown then
    let id := if ddi.isScreen && slot ≠ 0 then .rgb32 else .i420
    ddi.storeFormat slot ⟨id, capability.width.toUInt32, capability.height.toUInt32,
      capability.maxFPS.toUInt32, 1⟩
  else some ddi

def populateSupportedCapability (cf : WebrtcCapFactory)
    (capabilities : List VideoCaptureCapability) (ddi : WebrtcCapDevInfo) (slot : Nat)
    (request : CapabilitySupported) : Option (Bool × WebrtcCapDevInfo) := do
  let (capAdded, scanned) ← cf.scanCapabilities request slot capabilities false ddi
  if capAdded then
    let formatted ← addFormat scanned slot
    some (true, formatted)
  else some (false, scanned)

end WebrtcCapFactory

/-- What the capture module reports on one device. `getBestMatchedCapability` is `none` where
the module returns a negative index. -/
structure CaptureDevice where
  name : Text
  webrtcId : Text
  productId : Text
  capabilities : List VideoCaptureCapability
  getBestMatchedCapability : VideoCaptureCapability → Option VideoCaptureCapability

def VideoCaptureCapability.create : VideoCaptureCapability :=
  ⟨0, 0, 0, 0, .unknown, .unknown, false⟩

def CaptureDevice.getFirstCapability (device : CaptureDevice) : VideoCaptureCapability :=
  device.capabilities.head?.getD .create

/-- The device after `pj_bzero`, with its names; both enumerations have a value for zero. -/
def CaptureDevice.named (device : CaptureDevice) : WebrtcCapDevInfo where
  name := device.name
  webrtcId := device.webrtcId
  productId := device.productId
  capability := fun _ => ⟨0, 0, 0, 0, .i420, .vp8, false⟩
  fmt := fun _ => ⟨.none, 0, 0, 0, 0⟩
  fmtCnt := 0

namespace WebrtcCapDevInfo

def initVideo (ddi : WebrtcCapDevInfo) (width height fps : Int32) : Option WebrtcCapDevInfo :=
  ddi.storeFormat ddi.fmtCnt ⟨.i420, width.toUInt32, height.toUInt32, fps.toUInt32, 1⟩

def advance (ddi : WebrtcCapDevInfo) : WebrtcCapDevInfo := { ddi with fmtCnt := ddi.fmtCnt + 1 }

/-- The update of single members of the next capability. -/
def modifyCapability (ddi : WebrtcCapDevInfo)
    (update : VideoCaptureCapability → VideoCaptureCapability) : Option WebrtcCapDevInfo := do
  let capability ← ddi.readCapability ddi.fmtCnt
  ddi.storeCapability ddi.fmtCnt (update capability)

end WebrtcCapDevInfo

def atMostMaxFps (fps : Int32) : Int32 := if fps > maxFps then maxFps else fps

namespace WebrtcCapFactory

def hdCapable (cf : WebrtcCapFactory) : Bool :=
  cf.encWidth > (capabilitySupported.get nonHdCapIdx).width ||
    cf.encHeight > (capabilitySupported.get nonHdCapIdx).height

def addSupportedOnce (cf : WebrtcCapFactory) (capabilities : List VideoCaptureCapability)
    (entry : CapabilitySupported) (ddi : WebrtcCapDevInfo) : Option WebrtcCapDevInfo := do
  let (added, next) ← cf.populateSupportedCapability capabilities ddi ddi.fmtCnt entry
  some (if added then next.advance else next)

def addSupported (cf : WebrtcCapFactory) (capabilities : List VideoCaptureCapability) :
    List CapabilitySupported → WebrtcCapDevInfo → Option WebrtcCapDevInfo
  | [], ddi => some ddi
  | entry :: rest, ddi => do
      let next ← cf.addSupportedOnce capabilities entry ddi
      -- A screen gets a second capability, for RGB.
      let both ← if next.isScreen then cf.addSupportedOnce capabilities entry next else some next
      cf.addSupported capabilities rest both

def requestedCapability (hdCapable : Bool) : VideoCaptureCapability :=
  if hdCapable then ⟨1280, 720, 30, 0, .i420, .unknown, false⟩
  else ⟨640, 360, 30, 0, .i420, .unknown, false⟩

def addBestMatched (cf : WebrtcCapFactory) (device : CaptureDevice) (ddi : WebrtcCapDevInfo) :
    Option WebrtcCapDevInfo := do
  let capability :=
    (device.getBestMatchedCapability (requestedCapability cf.hdCapable)).getD
      device.getFirstCapability
  let stored ← ddi.storeCapability ddi.fmtCnt capability
  let formatted ←
    if capability.codecType = .unknown then
      stored.initVideo capability.width capability.height (atMostMaxFps capability.maxFPS)
    else some stored
  some formatted.advance

def addProperties (ddi : WebrtcCapDevInfo) (properties : VideoDeviceProperties) :
    Option WebrtcCapDevInfo := do
  let stored ← ddi.modifyCapability fun capability =>
    { capability with
      width := properties.width
      height := properties.height
      maxFPS := properties.fps
      rawType := .i420
      codecType := .unknown }
  let formatted ← stored.initVideo properties.width properties.height (atMostMaxFps properties.fps)
  some formatted.advance

def addDatabaseEntries : List VideoDeviceProperties → Bool → WebrtcCapDevInfo →
    Option (Bool × WebrtcCapDevInfo)
  | [], success, ddi => some (success, ddi)
  | properties :: rest, success, ddi =>
      if properties.isValid then do
        let next ← addProperties ddi properties
        addDatabaseEntries rest true next
      else addDatabaseEntries rest success ddi

def populateCapabilityFromDatabase (cf : WebrtcCapFactory) (ddi : WebrtcCapDevInfo) :
    Option (Bool × WebrtcCapDevInfo) :=
  if cf.build = .macosx then
    match cf.videoDevicePropertiesMap ddi.productId with
    | none => some (false, ddi)
    | some entries => addDatabaseEntries entries false ddi
  else some (false, ddi)

def addDefault (width height : Int32) (ddi : WebrtcCapDevInfo) : Option WebrtcCapDevInfo := do
  let stored ← ddi.modifyCapability fun capability =>
    { capability with width := width, height := height, maxFPS := 30 }
  let formatted ← stored.initVideo width height 30
  some formatted.advance

def addDefaults (cf : WebrtcCapFactory) (ddi : WebrtcCapDevInfo) : Option WebrtcCapDevInfo := do
  let typed ← ddi.modifyCapability fun capability =>
    { capability with rawType := .i420, codecType := .unknown, maxFPS := 30 }
  let hd ← if cf.hdCapable && strstr ddi.name " HD".toList then addDefault 1280 720 typed
    else some typed
  let vga ← addDefault 640 480 hd
  addDefault 320 240 vga

def refreshDevice (cf : WebrtcCapFactory) (device : CaptureDevice) : Option WebrtcCapDevInfo :=
  if device.capabilities = [] then do
    let (fromDatabase, ddi) ← cf.populateCapabilityFromDatabase device.named
    if fromDatabase then some ddi else cf.addDefaults ddi
  else do
    let supported := if cf.hdCapable then capabilitySupported else capabilitySupported.tail
    let ddi ← cf.addSupported device.capabilities supported device.named
    if ddi.fmtCnt = 0 then cf.addBestMatched device ddi else some ddi

/-- `webrtc_cap_factory_refresh`. -/
def refresh (cf : WebrtcCapFactory) (devices : List CaptureDevice) :
    Option (List WebrtcCapDevInfo) :=
  devices.mapM cf.refreshDevice

end WebrtcCapFactory

namespace WebrtcCapDevInfo

def readFormatWidth (ddi : WebrtcCapDevInfo) (index : Nat) : Option UInt32 :=
  if inside : index < formatCapacity then some (ddi.fmt ⟨index, inside⟩).width else none

/-- The loop of `webrtc_get_capturer_index` from one index on, with the number of its rounds
that are left; after the last one the index is that of the last format. -/
def capturerIndexFrom (readWidth : Nat → Option UInt32) (encWidth : UInt32) :
    Nat → Nat → Option Nat
  | 0, index => do
      let width ← readWidth index
      some (if width ≥ encWidth then index else 0)
  | remaining + 1, index => do
      let width ← readWidth index
      let next ← readWidth (index + 1)
      if width ≥ encWidth ∧ next < encWidth then some index
      else capturerIndexFrom readWidth encWidth remaining (index + 1)

/-- `webrtc_get_capturer_index`, which compares the widths as unsigned numbers and counts
with an unsigned `fmt_cnt - 1`. -/
def getCapturerIndex (ddi : WebrtcCapDevInfo) (encWidth : Int32) : Option Nat :=
  capturerIndexFrom ddi.readFormatWidth encWidth.toUInt32
    ((ddi.fmtCnt + (2 ^ 32 - 1)) % 2 ^ 32) 0

end WebrtcCapDevInfo

end FiberApp.Capture
