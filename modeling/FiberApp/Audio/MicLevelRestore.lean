import Mathlib.Data.List.Basic

/-! The microphone level of a stream of `webrtc_voe_dev.cc`: read at a start, written
back at a stop, and set by the user in between. -/

set_option autoImplicit false

namespace FiberApp.Audio

/-- What happens to the microphone level. `stopped` is the end of a stop. -/
inductive MicEvent
  | read (level : UInt8)
  | set (level : UInt32)
  | restored (level : UInt32)
  | stopped
  deriving DecidableEq, Repr

/-- The value `-1` of the unsigned field `original_mic_level`. -/
def uninitializedLevel : UInt32 := 0xffffffff

/-- `capture` is `param.dir & PJMEDIA_DIR_CAPTURE`; the events are ghost state, the
newest first. -/
structure MicStream where
  capture : Bool
  originalMicLevel : UInt32
  destroyed : Bool
  events : List MicEvent
  deriving DecidableEq, Repr

/-- What a start finds: whether there is a configuration parser, without which it
returns before the reading, and the answer of `GetMicVolume`, whose range is 0 to 255. -/
structure StartReplies where
  cphInstance : Bool
  micVolume : Option UInt8
  deriving DecidableEq, Repr

namespace MicStream

def create (capture : Bool) : MicStream := ⟨capture, uninitializedLevel, false, []⟩

/-- The set-up of the signal processing follows the reading and leaves the level alone
in the Windows build, also where it fails. -/
def start (replies : StartReplies) (stream : MicStream) : MicStream :=
  if stream.capture && replies.cphInstance then
    match replies.micVolume with
    | some level =>
        { stream with
          originalMicLevel := level.toUInt32
          events := .read level :: stream.events }
    | none => stream
  else stream

def setMicVolume (level : UInt32) (stream : MicStream) : MicStream :=
  { stream with events := .set level :: stream.events }

def stop (stream : MicStream) : MicStream :=
  let events :=
    if stream.originalMicLevel ≠ uninitializedLevel then
      .restored stream.originalMicLevel :: stream.events
    else stream.events
  { stream with events := .stopped :: events }

def fastChangeDevices (capture : Bool) (replies : StartReplies) (stream : MicStream) :
    MicStream :=
  start replies { stream.stop with capture := capture }

def destroy (stream : MicStream) : MicStream := { stream.stop with destroyed := true }

end MicStream

inductive MicOperation
  | start (replies : StartReplies)
  | fastChangeDevices (capture : Bool) (replies : StartReplies)
  | setMicVolume (level : UInt32)
  | stop
  | destroy
  deriving DecidableEq, Repr

namespace MicStream

def perform (stream : MicStream) : MicOperation → MicStream
  | .start replies => stream.start replies
  | .fastChangeDevices capture replies => stream.fastChangeDevices capture replies
  | .setMicVolume level => stream.setMicVolume level
  | .stop => stream.stop
  | .destroy => stream.destroy

/-- A destroyed stream takes no more operations. -/
def step (stream : MicStream) (operation : MicOperation) : Option MicStream :=
  if stream.destroyed then none else some (stream.perform operation)

end MicStream

end FiberApp.Audio
