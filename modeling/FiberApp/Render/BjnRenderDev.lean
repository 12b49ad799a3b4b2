import Mathlib.Data.List.Basic

/-! The renderer stream of `bjn_render_dev.cpp`: which video frames it allocates,
borrows and deletes. Pixel contents are left out; the heap is a ledger of the
frames the stream created with `new` and of the pointers it passed to `delete`. -/

set_option autoImplicit false

namespace FiberApp.Render.BjnRenderDev

inductive FormatId where
  | i420
  | rgb32
  deriving DecidableEq, Repr

/-- A pointer to a `BASEVideoFrame`. An allocated frame is named by its position
among the stream's allocations; a borrowed one is owned by a `pjmedia_ref_frame`. -/
inductive VideoFrame where
  | allocated (serial : Nat) (isRGB : Bool)
  | borrowed (obj : Nat) (isRGB : Bool)
  deriving DecidableEq, Repr

def VideoFrame.isRGBFrame : VideoFrame → Bool
  | .allocated _ isRGB => isRGB
  | .borrowed _ isRGB => isRGB

def VideoFrame.isBorrowed : VideoFrame → Bool
  | .allocated _ _ => false
  | .borrowed _ _ => true

/-- `dynamic_cast<webrtc::I420VideoFrame*>`, null for a frame of the other class. -/
def VideoFrame.asI420 (frame : VideoFrame) : Option VideoFrame :=
  if frame.isRGBFrame then none else some frame

def VideoFrame.asRGB (frame : VideoFrame) : Option VideoFrame :=
  if frame.isRGBFrame then some frame else none

structure RefObject where
  address : Nat
  isRGB : Bool
  deriving DecidableEq, Repr

/-- `pjmedia_ref_frame`; `obj` is null for a frame from the decode branch. -/
structure RefFrame where
  timestamp : Nat
  obj : Option RefObject
  deriving DecidableEq, Repr

structure VideoFormat where
  id : FormatId
  width : Nat
  height : Nat
  deriving DecidableEq, Repr

inductive RendererCall where
  | frameSizeChange (width height rendId : Nat) (fmt : FormatId)
  | deliverFrame (frame : Option VideoFrame)
  deriving DecidableEq, Repr

inductive PjStatus where
  | success
  | einval
  | einvalidop
  | eexists
  deriving DecidableEq, Repr

/-- `bjn_ren_stream`, with the ledger of its heap and of its renderer calls. -/
structure Stream where
  rendId : Nat
  fmt : VideoFormat
  isRunning : Bool
  lastTs : Nat
  renderWindow : Option Nat
  externalRendererWidth : Nat
  externalRendererHeight : Nat
  externalRendererFmtId : Option FormatId
  destFrame : Option VideoFrame
  srcFrame : Option VideoFrame
  allocated : List VideoFrame
  deleted : List VideoFrame
  rendererCalls : List RendererCall
  deriving DecidableEq, Repr

def Stream.newFrame (stream : Stream) (isRGB : Bool) : Stream × VideoFrame :=
  let frame := VideoFrame.allocated stream.allocated.length isRGB
  ({ stream with allocated := stream.allocated ++ [frame] }, frame)

/-- `delete`; deleting a null pointer does nothing. -/
def Stream.deleteFrame (stream : Stream) (frame : Option VideoFrame) : Stream :=
  { stream with deleted := stream.deleted ++ frame.toList }

def Stream.call (stream : Stream) (call : RendererCall) : Stream :=
  { stream with rendererCalls := stream.rendererCalls ++ [call] }

/-- `bjn_ren_factory_create_stream`: a zeroed stream with the given parameters. -/
def bjnRenFactoryCreateStream (rendId : Nat) (fmt : VideoFormat) : Stream where
  rendId := rendId
  fmt := fmt
  isRunning := false
  lastTs := 0
  renderWindow := none
  externalRendererWidth := 0
  externalRendererHeight := 0
  externalRendererFmtId := none
  destFrame := none
  srcFrame := none
  allocated := []
  deleted := []
  rendererCalls := []

/-- The renderer is told when the size or the format differs from the last one. -/
def notifyFrameSize (stream : Stream) : Stream :=
  if stream.externalRendererWidth ≠ stream.fmt.width ∨
      stream.externalRendererHeight ≠ stream.fmt.height ∨
      stream.externalRendererFmtId ≠ some stream.fmt.id then
    { stream with
      externalRendererWidth := stream.fmt.width
      externalRendererHeight := stream.fmt.height
      externalRendererFmtId := some stream.fmt.id }.call
      (.frameSizeChange stream.fmt.width stream.fmt.height stream.rendId stream.fmt.id)
  else stream

/-- The RGB branch first drops a frame of the other class. Its `delete` stands
under `if(!pI420Frame)`, the inverse of the test it needs. -/
def dropI420Frame (stream : Stream) : Stream :=
  match stream.srcFrame with
  | none => stream
  | some frame =>
      if frame.isRGBFrame then stream
      else
        let pI420Frame := frame.asI420
        let stream := if pI420Frame.isNone then stream.deleteFrame pI420Frame else stream
        { stream with srcFrame := none }

def dropRGBFrame (stream : Stream) : Stream :=
  match stream.srcFrame with
  | none => stream
  | some frame =>
      if frame.isRGBFrame then
        { stream.deleteFrame frame.asRGB with srcFrame := none }
      else stream

def createSrcFrame (stream : Stream) (isRGB : Bool) : Stream :=
  match stream.srcFrame with
  | some _ => stream
  | none =>
      let (stream, frame) := stream.newFrame isRGB
      { stream with srcFrame := some frame }

/-- The source frame of this call: the stream's own frame, filled from the
buffer, when there is no object, and the borrowed object otherwise. -/
def prepareSrcFrame (stream : Stream) (frame : RefFrame) : Stream :=
  match frame.obj with
  | none =>
      if stream.fmt.id = .rgb32 then createSrcFrame (dropI420Frame stream) true
      else createSrcFrame (dropRGBFrame stream) false
  | some object => { stream with srcFrame := some (.borrowed object.address object.isRGB) }

def createDestFrame (stream : Stream) : Stream :=
  match stream.destFrame with
  | some _ => stream
  | none =>
      let (stream, frame) := stream.newFrame false
      { stream with destFrame := some frame }

/-- A borrowed source frame is forgotten, so that tearing the stream down will
not delete it. -/
def forgetBorrowed (stream : Stream) (frame : RefFrame) : Stream :=
  if frame.obj.isSome then { stream with srcFrame := none } else stream

/-- Delivery: the self view is mirrored into `dest_frame` unless it is RGB, every
other renderer gets the source frame itself. -/
def deliverSrcFrame (stream : Stream) (frame : RefFrame) : Stream :=
  if stream.rendId = 0 then
    if stream.fmt.id ≠ .rgb32 then
      let stream := createDestFrame stream
      forgetBorrowed (stream.call (.deliverFrame stream.destFrame)) frame
    else stream
  else
    forgetBorrowed (stream.call (.deliverFrame stream.srcFrame)) frame

def bjnRenStreamPutFrame (stream : Stream) (frame : Option RefFrame) : Stream × PjStatus :=
  match frame with
  | none => (stream, .einval)
  | some frame =>
      let stream := { stream with lastTs := frame.timestamp }
      if !stream.isRunning then (stream, .einvalidop)
      else if stream.renderWindow = none then (stream, .success)
      else
        let stream := prepareSrcFrame (notifyFrameSize stream) frame
        (deliverSrcFrame stream frame, .success)

inductive Capability where
  | outputWindow (window : Option Nat)
  | format (fmt : VideoFormat)
  deriving DecidableEq, Repr

def bjnRenStreamSetCap (stream : Stream) : Capability → Stream × PjStatus
  | .outputWindow window =>
      let stream := { stream with externalRendererWidth := 0, externalRendererHeight := 0 }
      if stream.renderWindow.isNone || window.isNone then
        ({ stream with renderWindow := window }, .success)
      else (stream, .eexists)
  | .format fmt => ({ stream with fmt := fmt }, .success)

def bjnRenStreamStart (stream : Stream) : Stream := { stream with isRunning := true }

def bjnRenStreamStop (stream : Stream) : Stream := { stream with isRunning := false }

/-- Both branches of the destructor delete the frame after a cast to its class. -/
def deleteByClass (stream : Stream) (frame : VideoFrame) : Stream :=
  if !frame.isRGBFrame then stream.deleteFrame frame.asI420
  else stream.deleteFrame frame.asRGB

def bjnRenStreamDestroy (stream : Stream) : Stream :=
  let stream := match stream.srcFrame with
    | none => stream
    | some frame => { deleteByClass stream frame with srcFrame := none }
  let stream := match stream.destFrame with
    | none => stream
    | some frame => { deleteByClass stream frame with destFrame := none }
  { stream with isRunning := false }

inductive Operation where
  | putFrame (frame : Option RefFrame)
  | setCap (capability : Capability)
  | start
  | stop
  deriving DecidableEq, Repr

def perform (stream : Stream) : Operation → Stream
  | .putFrame frame => (bjnRenStreamPutFrame stream frame).1
  | .setCap capability => (bjnRenStreamSetCap stream capability).1
  | .start => bjnRenStreamStart stream
  | .stop => bjnRenStreamStop stream

end FiberApp.Render.BjnRenderDev
