import Mathlib.Logic.Function.Basic
import FiberApp.Foundation.Execution

/-! Signals and slots, after `talk/base/sigslot.h` with one thread: a signal holds a list of
connections to objects, an object holds the set of the signals connected to it, and an
emission walks the list while the slots it calls change it. -/

set_option autoImplicit false

namespace FiberApp.Sigslot

open FiberApp.Foundation

variable {Signal Slots Method : Type}

/-- A connection, with the node of the list that holds it. -/
structure Connection (Slots Method : Type) where
  node : Nat
  pobject : Slots
  pmemfun : Method
  deriving DecidableEq, Repr

/-- An `emit` under way: the node its iterator stands at, `none` for the end. What the emission
has done is kept too: how many nodes had been made when it began, and the nodes it has called. -/
structure Emission (Signal : Type) where
  signal : Signal
  it : Option Nat
  since : Nat
  called : List Nat
  deriving DecidableEq, Repr

/-- The signals and the objects with slots that exist. -/
structure Objects (Signal Slots Method : Type) where
  connectedSlots : Signal → Option (List (Connection Slots Method))
  senders : Slots → Option (List Signal)
  /-- The innermost emission first. -/
  emissions : List (Emission Signal)
  nextNode : Nat

inductive Operation (Signal Slots Method : Type)
  | newSignal (signal : Signal)
  | newSlots (slots : Slots)
  | connect (signal : Signal) (pclass : Slots) (pmemfun : Method)
  | disconnect (signal : Signal) (pclass : Slots)
  | disconnectAll (signal : Signal)
  | deleteSignal (signal : Signal)
  | disconnectSlots (slots : Slots)
  | deleteSlots (slots : Slots)
  | copySignal (signal copy : Signal)
  | copySlots (slots copy : Slots)
  | emit (signal : Signal)
  /-- The innermost emission tests its iterator, and calls a slot or returns. -/
  | proceed
  deriving DecidableEq, Repr

namespace Objects

def initial : Objects Signal Slots Method :=
  { connectedSlots := fun _ => none, senders := fun _ => none, emissions := [], nextNode := 0 }

variable [DecidableEq Signal] [DecidableEq Slots]

def setConnections (objects : Objects Signal Slots Method) (signal : Signal)
    (connections : Option (List (Connection Slots Method))) : Objects Signal Slots Method :=
  { objects with connectedSlots := Function.update objects.connectedSlots signal connections }

def setSenders (objects : Objects Signal Slots Method) (slots : Slots)
    (senders : Option (List Signal)) : Objects Signal Slots Method :=
  { objects with senders := Function.update objects.senders slots senders }

/-! A call on an object that does not exist has no result. -/

/-- `m_senders.insert(sender)`. -/
def signalConnect (objects : Objects Signal Slots Method) (slots : Slots) (sender : Signal) :
    Option (Objects Signal Slots Method) :=
  (objects.senders slots).map fun senders =>
    objects.setSenders slots (some (senders.insert sender))

/-- `m_senders.erase(sender)`. -/
def signalDisconnect (objects : Objects Signal Slots Method) (slots : Slots) (sender : Signal) :
    Option (Objects Signal Slots Method) :=
  (objects.senders slots).map fun senders =>
    objects.setSenders slots (some (senders.filter fun other => other ≠ sender))

/-- `m_connected_slots.push_back(...)`, with a new node. -/
def pushBack (objects : Objects Signal Slots Method) (signal : Signal) (pobject : Slots)
    (pmemfun : Method) : Option (Objects Signal Slots Method) :=
  (objects.connectedSlots signal).map fun connections =>
    { objects.setConnections signal
        (some (connections ++ [⟨objects.nextNode, pobject, pmemfun⟩])) with
      nextNode := objects.nextNode + 1 }

def connect (objects : Objects Signal Slots Method) (signal : Signal) (pclass : Slots)
    (pmemfun : Method) : Option (Objects Signal Slots Method) := do
  let objects ← objects.pushBack signal pclass pmemfun
  objects.signalConnect pclass signal

/-- Only the first connection to the object goes. -/
def disconnect (objects : Objects Signal Slots Method) (signal : Signal) (pclass : Slots) :
    Option (Objects Signal Slots Method) := do
  let connections ← objects.connectedSlots signal
  if connections.any fun connection => connection.pobject = pclass then
    let objects := objects.setConnections signal
      (some (connections.eraseP fun connection => connection.pobject = pclass))
    objects.signalDisconnect pclass signal
  else some objects

def disconnectAll (objects : Objects Signal Slots Method) (signal : Signal) :
    Option (Objects Signal Slots Method) := do
  let connections ← objects.connectedSlots signal
  let objects ← execute (fun objects connection =>
    objects.signalDisconnect connection.pobject signal) objects connections
  some (objects.setConnections signal (some []))

/-- `slot_disconnect(pslot)` of the signal. -/
def slotDisconnect (pslot : Slots) (objects : Objects Signal Slots Method) (signal : Signal) :
    Option (Objects Signal Slots Method) :=
  (objects.connectedSlots signal).map fun connections =>
    objects.setConnections signal
      (some (connections.filter fun connection => connection.pobject ≠ pslot))

/-- `slot_duplicate(oldtarget, newtarget)` of the signal. -/
def slotDuplicate (oldtarget newtarget : Slots) (objects : Objects Signal Slots Method)
    (signal : Signal) : Option (Objects Signal Slots Method) := do
  let connections ← objects.connectedSlots signal
  execute (fun objects connection => objects.pushBack signal newtarget connection.pmemfun) objects
    (connections.filter fun connection => connection.pobject = oldtarget)

/-- `disconnect_all` of an object with slots. -/
def disconnectSlots (objects : Objects Signal Slots Method) (slots : Slots) :
    Option (Objects Signal Slots Method) := do
  let senders ← objects.senders slots
  let objects ← execute (slotDisconnect slots) objects senders
  some (objects.setSenders slots (some []))

def copySignal (objects : Objects Signal Slots Method) (signal copy : Signal) :
    Option (Objects Signal Slots Method) := do
  let connections ← objects.connectedSlots signal
  execute (fun objects connection => objects.connect copy connection.pobject connection.pmemfun)
    (objects.setConnections copy (some [])) connections

def copySlots (objects : Objects Signal Slots Method) (slots copy : Slots) :
    Option (Objects Signal Slots Method) := do
  let senders ← objects.senders slots
  execute (fun objects sender => do
      let objects ← slotDuplicate slots copy objects sender
      objects.signalConnect copy sender)
    (objects.setSenders copy (some [])) senders

def emit (objects : Objects Signal Slots Method) (signal : Signal) :
    Option (Objects Signal Slots Method) :=
  (objects.connectedSlots signal).map fun connections =>
    { objects with
      emissions := ⟨signal, connections.head?.map Connection.node, objects.nextNode, []⟩ ::
        objects.emissions }

/-- `itNext` is read before the slot is called. -/
def proceed (objects : Objects Signal Slots Method) : Option (Objects Signal Slots Method) :=
  match objects.emissions with
  | [] => none
  | emission :: outer => do
      let connections ← objects.connectedSlots emission.signal
      match emission.it with
      | none => some { objects with emissions := outer }
      | some node =>
          match connections.dropWhile fun connection => connection.node ≠ node with
          | [] => none
          | connection :: following => do
              let _ ← objects.senders connection.pobject
              some { objects with
                emissions := { emission with
                  it := following.head?.map Connection.node
                  called := emission.called ++ [node] } :: outer }

def step (objects : Objects Signal Slots Method) :
    Operation Signal Slots Method → Option (Objects Signal Slots Method)
  | .newSignal signal =>
      if objects.connectedSlots signal = none then some (objects.setConnections signal (some []))
      else none
  | .newSlots slots =>
      if objects.senders slots = none then some (objects.setSenders slots (some [])) else none
  | .connect signal pclass pmemfun => objects.connect signal pclass pmemfun
  | .disconnect signal pclass => objects.disconnect signal pclass
  | .disconnectAll signal => objects.disconnectAll signal
  | .deleteSignal signal => do
      let objects ← objects.disconnectAll signal
      some (objects.setConnections signal none)
  | .disconnectSlots slots => objects.disconnectSlots slots
  | .deleteSlots slots => do
      let objects ← objects.disconnectSlots slots
      some (objects.setSenders slots none)
  | .copySignal signal copy =>
      if objects.connectedSlots copy = none then objects.copySignal signal copy else none
  | .copySlots slots copy =>
      if objects.senders copy = none then objects.copySlots slots copy else none
  | .emit signal => objects.emit signal
  | .proceed => objects.proceed

end Objects

end FiberApp.Sigslot
