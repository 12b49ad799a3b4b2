import Mathlib.Algebra.Group.Int.Defs
import Mathlib.Algebra.Group.Nat.Defs
import Mathlib.Data.List.Basic

/-! The volume side of the Windows audio listener: the stats cached for the
speaker and the microphone endpoint, the listener's merged stats, and the
messages of its dispatcher thread. -/

set_option autoImplicit false

namespace FiberApp.CoreAudio

/-- A volume with its mute state. The volume is counted in units of `2 ^ (-149)`,
of which every finite `float` is a whole multiple. -/
structure Level where
  volume : Int
  muteState : Bool
  deriving DecidableEq

inductive VolumeGroup
  | session
  | system
  | mic
  deriving DecidableEq

structure ByGroup (α : Type) where
  session : α
  system : α
  mic : α
  deriving DecidableEq

namespace ByGroup

variable {α : Type}

def get (values : ByGroup α) : VolumeGroup → α
  | .session => values.session
  | .system => values.system
  | .mic => values.mic

def set (values : ByGroup α) (value : α) : VolumeGroup → ByGroup α
  | .session => { values with session := value }
  | .system => { values with system := value }
  | .mic => { values with mic := value }

end ByGroup

abbrev VolumeStats := ByGroup Level

/-- The constructor of `VolumeStats` sets each volume to -1. -/
def unreadLevel : Level := ⟨-2 ^ 149, false⟩

def unreadStats : VolumeStats := ⟨unreadLevel, unreadLevel, unreadLevel⟩

/-- The nearest value with a `float`'s 24 significant bits, and of two the even one. -/
def roundToFloat (value : Int) : Int :=
  let unit := 2 ^ (value.natAbs.log2 - 23)
  let quotient := value.natAbs / unit
  let remainder := value.natAbs % unit
  let rounded :=
    if 2 * remainder > unit ∨ 2 * remainder = unit ∧ quotient % 2 = 1 then quotient + 1
    else quotient
  value.sign * (rounded * unit : Nat)

/-- `DBL_EPSILON`, which is `2 ^ (-52)`. -/
def dblEpsilon : Nat := 2 ^ 97

/-- The two volumes are subtracted as `float`s. -/
def levelChanged (cached reported : Level) : Bool :=
  decide ((roundToFloat (cached.volume - reported.volume)).natAbs > dblEpsilon) ||
    cached.muteState != reported.muteState

/-- The difference lies above `DBL_EPSILON` and is rounded to it. -/
example : levelChanged ⟨2 ^ 98, false⟩ ⟨2 ^ 97 - 2 ^ 73, false⟩ = false := by decide +kernel

structure VolumeReads where
  getSimpleAudioVolume : Bool
  sessionVolume : Bool
  sessionMute : Bool
  systemVolume : Bool
  systemMute : Bool
  micVolume : Bool
  micMute : Bool
  deriving DecidableEq

/-- `speakerStats` and `micStats` belong to the two endpoint notifications, of
which each fills its own fields; `volStat` is the listener's `m_volStat`, and
`dispatched` are the pending `MSG_ENDPOINT_VOLUME_CHANGED` messages. -/
structure VolumeListener where
  speakerStats : VolumeStats
  micStats : VolumeStats
  volStat : VolumeStats
  dispatched : List VolumeStats
  deriving DecidableEq

namespace VolumeListener

/-- Attaching reads no volume. -/
def attached : VolumeListener := ⟨unreadStats, unreadStats, unreadStats, []⟩

def postVolumeChanged (listener : VolumeListener) : VolumeListener :=
  { listener with dispatched := listener.dispatched ++ [listener.volStat] }

/-- `SpeakerVolumeNotification::OnNotify` and the listener's `OnNotifySpeakerVolume`. -/
def onNotifySpeaker (level : Level) (listener : VolumeListener) : VolumeListener :=
  if levelChanged listener.speakerStats.system level then
    { listener with
      speakerStats := { listener.speakerStats with system := level }
      volStat := { listener.volStat with system := level } }.postVolumeChanged
  else listener

def onSimpleVolumeChanged (level : Level) (listener : VolumeListener) : VolumeListener :=
  if levelChanged listener.speakerStats.session level then
    { listener with
      speakerStats := { listener.speakerStats with session := level }
      volStat := { listener.volStat with session := level } }.postVolumeChanged
  else listener

/-- `MicVolumeNotification::OnNotify` and the listener's `OnNotifyMicVolume`. -/
def onNotifyMic (level : Level) (listener : VolumeListener) : VolumeListener :=
  if levelChanged listener.micStats.mic level then
    { listener with
      micStats := { listener.micStats with mic := level }
      volStat := { listener.volStat with mic := level } }.postVolumeChanged
  else listener

def readLevel (volumeRead muteRead : Bool) (current cached : Level) : Level × Bool :=
  if volumeRead then
    let cached := { cached with volume := current.volume }
    if muteRead then ({ cached with muteState := current.muteState }, true) else (cached, false)
  else (cached, false)

def getSpeakerVolStats (current : VolumeStats) (reads : VolumeReads)
    (listener : VolumeListener) : VolumeListener × Bool :=
  if !reads.getSimpleAudioVolume then (listener, false)
  else
    let (session, sessionRead) := readLevel reads.sessionVolume reads.sessionMute
      current.session listener.speakerStats.session
    let listener :=
      { listener with speakerStats := { listener.speakerStats with session := session } }
    if !sessionRead then (listener, false)
    else
      let listener := { listener with volStat := { listener.volStat with session := session } }
      let (system, systemRead) := readLevel reads.systemVolume reads.systemMute
        current.system listener.speakerStats.system
      let listener :=
        { listener with speakerStats := { listener.speakerStats with system := system } }
      if !systemRead then (listener, false)
      else ({ listener with volStat := { listener.volStat with system := system } }, true)

def getMicVolumeStats (current : VolumeStats) (reads : VolumeReads)
    (listener : VolumeListener) : VolumeListener × Bool :=
  let (mic, micRead) := readLevel reads.micVolume reads.micMute
    current.mic listener.micStats.mic
  let listener := { listener with micStats := { listener.micStats with mic := mic } }
  if !micRead then (listener, false)
  else ({ listener with volStat := { listener.volStat with mic := mic } }, true)

/-- The result of the speaker's part is overwritten by that of the microphone. -/
def getCurrentVolStats (current : VolumeStats) (reads : VolumeReads)
    (listener : VolumeListener) : VolumeListener × VolumeStats × Bool :=
  let (listener, _) := listener.getSpeakerVolStats current reads
  let (listener, succeeded) := listener.getMicVolumeStats current reads
  (listener, listener.volStat, succeeded)

end VolumeListener

end FiberApp.CoreAudio
