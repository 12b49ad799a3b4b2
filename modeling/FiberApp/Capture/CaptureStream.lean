import FiberApp.Foundation.Ownership

/-! The life of the capture streams of `webrtc_capture_dev.cpp`: what each call allocates, what
it deletes, and which pointers the stream and its capture module keep. -/

set_option autoImplicit false

namespace FiberApp.Capture

open FiberApp.Foundation

/-- The `VideoCaptureModule` of a stream. The capture may begin or end by itself. -/
structure CaptureModule where
  object : Nat
  captureStarted : Bool
  dataCallback : Option Nat
  deriving DecidableEq, Repr

/-- `webrtc_cap_stream`. A pointer is the number of its object. -/
structure CaptureStream where
  pool : Nat
  videoCapture : CaptureModule
  captureDataCb : Option Nat
  frameScaler : Option Nat
  windowAvailable : Bool
  capturing : Bool
  deriving DecidableEq, Repr

structure CaptureStreams where
  ledger : Ledger
  streams : List CaptureStream
  deriving DecidableEq, Repr

/-- A call on the stream at a position of the list, with the answers of the capture module. -/
inductive StreamCall
  | create (screenSharing created : Bool)
  | start (position : Nat) (succeeded : Bool)
  | stop (position : Nat) (stopped : Bool)
  | destroy (position : Nat) (stopped : Bool)
  | setOutputWindow (position : Nat) (succeeded : Bool)
  /-- The answer of `CaptureStarted` changes without a call. -/
  | reports (position : Nat) (captureStarted : Bool)
  deriving DecidableEq, Repr

namespace CaptureStreams

def initial : CaptureStreams := ⟨.opened, []⟩

/-- `start_capturer`, with its status. -/
def startCapturer (ledger : Ledger) (stream : CaptureStream) (succeeded : Bool) :
    Ledger × CaptureStream × Bool :=
  if stream.videoCapture.captureStarted then (ledger, stream, true)
  else
    (ledger.allocate.2,
      { stream with
        captureDataCb := some ledger.allocate.1
        videoCapture := { stream.videoCapture with
          dataCallback := some ledger.allocate.1
          captureStarted := succeeded } },
      succeeded)

def webrtcCapStreamStart (ledger : Ledger) (stream : CaptureStream) (succeeded : Bool) :
    Ledger × CaptureStream :=
  if stream.windowAvailable then
    let (ledger, stream, status) := startCapturer ledger stream succeeded
    (ledger, { stream with capturing := status })
  else (ledger, { stream with capturing := true })

/-- `stop_capturer`; the status of `StopCapture` is only logged. -/
def stopCapturer (ledger : Ledger) (stream : CaptureStream) (stopped : Bool) :
    Ledger × CaptureStream :=
  if stream.videoCapture.captureStarted then
    (stream.captureDataCb.elim ledger ledger.delete,
      { stream with
        captureDataCb := none
        videoCapture := { stream.videoCapture with
          dataCallback := none
          captureStarted := !stopped } })
  else (ledger, stream)

def webrtcCapStreamStop (ledger : Ledger) (stream : CaptureStream) (stopped : Bool) :
    Ledger × CaptureStream :=
  let (ledger, stream) := stopCapturer ledger stream stopped
  (ledger, { stream with capturing := false })

/-- The pool, which holds the stream, comes first; it is kept when no module can be created. -/
def webrtcCapFactoryCreateStream (system : CaptureStreams) (screenSharing created : Bool) :
    CaptureStreams :=
  let pool := system.ledger.allocate.1
  let pooled := system.ledger.allocate.2
  let frameScaler := if screenSharing then some pooled.allocate.1 else none
  let scaled := if screenSharing then pooled.allocate.2 else pooled
  if created then
    { ledger := scaled.allocate.2
      streams := system.streams ++
        [{ pool := pool, videoCapture := ⟨scaled.allocate.1, false, none⟩, captureDataCb := none,
           frameScaler := frameScaler, windowAvailable := true, capturing := false }] }
  else { system with ledger := scaled }

/-- The frame scaler is not deleted. -/
def webrtcCapStreamDestroy (ledger : Ledger) (stream : CaptureStream) (stopped : Bool) : Ledger :=
  let (ledger, stream) :=
    if stream.capturing then webrtcCapStreamStop ledger stream stopped else (ledger, stream)
  (ledger.delete stream.videoCapture.object).delete stream.pool

/-- `webrtc_cap_stream_set_cap` with the output window. -/
def setOutputWindow (ledger : Ledger) (stream : CaptureStream) (succeeded : Bool) :
    Ledger × CaptureStream :=
  if stream.windowAvailable then (ledger, stream)
  else
    let stream := { stream with windowAvailable := true }
    if stream.capturing then webrtcCapStreamStart ledger stream succeeded else (ledger, stream)

def replace (system : CaptureStreams) (position : Nat) (changed : Ledger × CaptureStream) :
    CaptureStreams :=
  ⟨changed.1, system.streams.set position changed.2⟩

def step (system : CaptureStreams) : StreamCall → Option CaptureStreams
  | .create screenSharing created =>
      some (system.webrtcCapFactoryCreateStream screenSharing created)
  | .start position succeeded => system.streams[position]?.map fun stream =>
      system.replace position (webrtcCapStreamStart system.ledger stream succeeded)
  | .stop position stopped => system.streams[position]?.map fun stream =>
      system.replace position (webrtcCapStreamStop system.ledger stream stopped)
  | .destroy position stopped => system.streams[position]?.map fun stream =>
      ⟨webrtcCapStreamDestroy system.ledger stream stopped, system.streams.eraseIdx position⟩
  | .setOutputWindow position succeeded => system.streams[position]?.map fun stream =>
      system.replace position (setOutputWindow system.ledger stream succeeded)
  | .reports position captureStarted => system.streams[position]?.map fun stream =>
      system.replace position (system.ledger, { stream with
        videoCapture := { stream.videoCapture with captureStarted := captureStarted } })

end CaptureStreams

end FiberApp.Capture
