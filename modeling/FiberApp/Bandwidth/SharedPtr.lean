import Mathlib.Data.List.Basic
import Mathlib.Logic.Function.Basic

/-! The shared pointer of `smartpointer.h` as a machine over its live handles and
the memory they share. -/

set_option autoImplicit false

namespace FiberApp.Bandwidth

/-- The address of one base of an object. A conversion between handle types moves
the pointer within the object. -/
structure Pointer where
  object : Nat
  base : Nat
  deriving DecidableEq, Repr

structure SharedPtr where
  mPtr : Option Pointer
  mRef : Option Nat
  deriving DecidableEq, Repr

/-- What handles reach through their pointers: the `AtomicLong`s by address, the
raw pointers given to a handle so far and the objects deleted so far. A count is
unbounded; there is never one larger than the number of live handles. `fault` is set by
an access to a deleted count and by a failed assertion. -/
structure Memory where
  counts : Nat → Option Int
  nextRef : Nat
  adopted : List Nat
  released : List Nat
  fault : Bool

namespace Memory

def initial : Memory := ⟨fun _ => none, 0, [], [], false⟩

def fail (memory : Memory) : Memory := { memory with fault := true }

def assert (condition : Bool) (memory : Memory) : Memory :=
  if condition then memory else memory.fail

def write (ref : Nat) (count : Option Int) (memory : Memory) : Memory :=
  { memory with counts := Function.update memory.counts ref count }

def delete (ptr : Option Pointer) (memory : Memory) : Memory :=
  match ptr with
  | none => memory
  | some ptr => { memory with released := ptr.object :: memory.released }

end Memory

namespace SharedPtr

def object (handle : SharedPtr) : Option Nat := handle.mPtr.map Pointer.object

def null : SharedPtr := ⟨none, none⟩

def increment (handle : SharedPtr) (memory : Memory) : Memory :=
  match handle.mRef with
  | none => memory
  | some ref =>
      match memory.counts ref with
      | none => memory.fail
      | some count => memory.write ref (some (count + 1))

/-- The destructors of the object's own handles run inside `delete mPtr`; they are
later destructions of the run. -/
def destroy (handle : SharedPtr) (ref : Nat) (memory : Memory) : Memory :=
  (memory.delete handle.mPtr).write ref none

def decrement (handle : SharedPtr) (memory : Memory) : Memory :=
  match handle.mRef with
  | none => memory
  | some ref =>
      match memory.counts ref with
      | none => memory.fail
      | some count =>
          let newCount := count - 1
          let memory := memory.write ref (some newCount)
          if newCount = 0 then handle.destroy ref memory else memory

def ofRaw (ptr : Option Pointer) (memory : Memory) : SharedPtr × Memory :=
  match ptr with
  | none => (null, memory)
  | some ptr =>
      (⟨some ptr, some memory.nextRef⟩,
        { memory.write memory.nextRef (some 1) with
          nextRef := memory.nextRef + 1
          adopted := ptr.object :: memory.adopted })

def ofCopy (rhs : SharedPtr) (memory : Memory) : SharedPtr × Memory :=
  (rhs, rhs.increment memory)

/-- The pointer is converted to the base that the new handle's type names. -/
def ofConvertingCopy (rhs : SharedPtr) (base : Nat) (memory : Memory) : SharedPtr × Memory :=
  let handle := { rhs with mPtr := rhs.mPtr.map fun ptr => { ptr with base := base } }
  (handle, handle.increment memory)

/-- `SharedPtr<T>(…).swap(*this)`: the temporary leaves with the old contents. -/
def takeOver (handle : SharedPtr) (temporary : SharedPtr × Memory) : SharedPtr × Memory :=
  (temporary.1, handle.decrement temporary.2)

def assign (handle rhs : SharedPtr) (memory : Memory) : SharedPtr × Memory :=
  if handle.mPtr = rhs.mPtr then (handle, memory.assert (handle.mRef = rhs.mRef))
  else handle.takeOver (rhs.ofCopy memory)

def convertingAssign (handle rhs : SharedPtr) (base : Nat) (memory : Memory) :
    SharedPtr × Memory :=
  handle.takeOver (rhs.ofConvertingCopy base memory)

def reset (handle : SharedPtr) (memory : Memory) : SharedPtr × Memory :=
  handle.takeOver (null, memory)

def resetTo (handle : SharedPtr) (ptr : Option Pointer) (memory : Memory) :
    SharedPtr × Memory :=
  handle.takeOver (ofRaw ptr memory)

end SharedPtr

/-- The live handles, the youngest first, and the memory. -/
structure SharedPtrs where
  handles : List SharedPtr
  memory : Memory

/-- Handles are named by their place among the live ones. -/
inductive SharedPtrOperation
  | constructDefault
  | construct (ptr : Option Pointer)
  | copy (source : Nat)
  | convertingCopy (source base : Nat)
  | assign (target source : Nat)
  | convertingAssign (target source base : Nat)
  | reset (target : Nat)
  | resetTo (target : Nat) (ptr : Option Pointer)
  | swap (target other : Nat)
  | destruct (target : Nat)
  deriving DecidableEq, Repr

namespace SharedPtrs

def initial : SharedPtrs := ⟨[], .initial⟩

/-- A raw pointer is given to one handle only. -/
def isFresh (ptr : Option Pointer) (memory : Memory) : Bool :=
  match ptr with
  | none => true
  | some ptr => ptr.object ∉ memory.adopted

def add (handles : List SharedPtr) (result : SharedPtr × Memory) : SharedPtrs :=
  ⟨result.1 :: handles, result.2⟩

def put (handles : List SharedPtr) (target : Nat) (result : SharedPtr × Memory) : SharedPtrs :=
  ⟨handles.set target result.1, result.2⟩

/-- An operation on a handle that is not live, and the adoption of a raw pointer
for a second time, are not steps of a run. -/
def step (state : SharedPtrs) (operation : SharedPtrOperation) : Option SharedPtrs :=
  let ⟨handles, memory⟩ := state
  match operation with
  | .constructDefault => some (add handles (.null, memory))
  | .construct ptr =>
      if isFresh ptr memory then some (add handles (SharedPtr.ofRaw ptr memory)) else none
  | .copy source => do
      let rhs ← handles[source]?
      some (add handles (rhs.ofCopy memory))
  | .convertingCopy source base => do
      let rhs ← handles[source]?
      some (add handles (rhs.ofConvertingCopy base memory))
  | .assign target source => do
      let handle ← handles[target]?
      let rhs ← handles[source]?
      some (put handles target (handle.assign rhs memory))
  | .convertingAssign target source base => do
      let handle ← handles[target]?
      let rhs ← handles[source]?
      some (put handles target (handle.convertingAssign rhs base memory))
  | .reset target => do
      let handle ← handles[target]?
      some (put handles target (handle.reset memory))
  | .resetTo target ptr => do
      let handle ← handles[target]?
      if isFresh ptr memory then some (put handles target (handle.resetTo ptr memory)) else none
  | .swap target other => do
      let handle ← handles[target]?
      let rhs ← handles[other]?
      some ⟨(handles.set target rhs).set other handle, memory⟩
  | .destruct target => do
      let handle ← handles[target]?
      some ⟨handles.eraseIdx target, handle.decrement memory⟩

end SharedPtrs

end FiberApp.Bandwidth
