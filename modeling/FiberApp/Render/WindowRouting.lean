import Mathlib.Data.List.Basic

/-! The windows of the video streams in `callapi.cpp`. The handler of the stream
messages posts renderer requests to the sip manager, whose part in them is a
parameter: `sipmanagerbase.cpp` is not in the repository. -/

set_option autoImplicit false

namespace FiberApp.Render

/-- Window 0 and window 1. -/
inductive Window
  | pip
  | main
  deriving DecidableEq, Repr

/-- The media index of a stream in the messages; other indices are not handled. -/
def remoteIndex : Nat := 1
def contentIndex : Nat := 2

/-- The renderer requests of the sip manager and what can be seen of the result. The
window of a renderer pointer that was never set is `none`. -/
structure RendererService (Service : Type) where
  addLocalRenderer : Option Window → Service → Service
  removeLocalRenderer : Service → Service
  addRemoteRenderer : Nat → Service → Service
  removeRemoteRenderer : Nat → Service → Service
  updateRemoteRenderer : Option Window → Nat → Service → Service
  localWindow : Service → Option Window
  chosenWindow : Service → Nat → Option Window
  remoteWindow : Service → Nat → Option Window

/-- The fields of `CallApi` behind the windows. `mWnd1` is `mWnd[1]`, which has no value
before the first remote stream; `remoteOn` and `contentOn` are ghost state, the streams
as the messages tell of them. -/
structure CallApi (Service : Type) where
  service : Service
  mWnd1 : Option Window
  shown : List Window
  callbacks : List String
  remoteOn : Bool
  contentOn : Bool

inductive StreamMessage
  | createRemoteStream (medIdx : Nat)
  | removeRemoteStream (medIdx : Nat)
  deriving DecidableEq, Repr

namespace CallApi

variable {Service : Type} (ops : RendererService Service)

/-- `mWnd[0]`, the renderer of window 0, is created by `Init`. -/
def mWnd0 : Option Window := some .pip

/-- The state after the local stream was created. -/
def start (service : Service) : CallApi Service where
  service := ops.addLocalRenderer mWnd0 service
  mWnd1 := none
  shown := [.pip]
  callbacks := []
  remoteOn := false
  contentOn := false

def showRemoteVideo (api : CallApi Service) : CallApi Service :=
  let mWnd1 := some Window.main
  let service := ops.updateRemoteRenderer mWnd1 remoteIndex api.service
  { api with
    mWnd1 := mWnd1
    shown := api.shown ++ [.main]
    service := ops.addRemoteRenderer remoteIndex service }

def contentStarted (api : CallApi Service) : CallApi Service :=
  -- Show content in main window
  let service := ops.removeRemoteRenderer remoteIndex api.service
  let service := ops.updateRemoteRenderer api.mWnd1 contentIndex service
  let service := ops.addRemoteRenderer contentIndex service
  -- Show remote in pip
  let service := ops.removeLocalRenderer service
  let service := ops.updateRemoteRenderer mWnd0 remoteIndex service
  let service := ops.addRemoteRenderer remoteIndex service
  { api with
    service := service
    callbacks := api.callbacks ++ ["CONTENT_STARTED"]
    contentOn := true }

def contentStopped (api : CallApi Service) : CallApi Service :=
  -- Show self in pip
  let service := ops.removeRemoteRenderer remoteIndex api.service
  let service := ops.addLocalRenderer mWnd0 service
  -- Show remote in main window
  let service := ops.removeRemoteRenderer contentIndex service
  let service := ops.updateRemoteRenderer api.mWnd1 remoteIndex service
  let service := ops.addRemoteRenderer remoteIndex service
  { api with
    service := service
    callbacks := api.callbacks ++ ["CONTENT_STOPPED"]
    contentOn := false }

def onMessage (api : CallApi Service) : StreamMessage → CallApi Service
  | .createRemoteStream medIdx =>
      if medIdx = contentIndex then api.contentStarted ops
      else if medIdx = remoteIndex then
        let api := api.showRemoteVideo ops
        { api with callbacks := api.callbacks ++ ["SHOWREMOTE"], remoteOn := true }
      else api
  | .removeRemoteStream medIdx =>
      if medIdx = contentIndex then api.contentStopped ops
      else if medIdx = remoteIndex then { api with remoteOn := false }
      else api

end CallApi

end FiberApp.Render
