import Mathlib.Algebra.Group.Nat.Defs
import Mathlib.Data.List.Basic

/-! The push-only circular buffer of `circularbuffer.h`. -/

set_option autoImplicit false

namespace FiberApp.Bandwidth

structure CircularBuffer (T : Type) where
  mBuffer : List T
  mCapacity : Nat
  mTail : Nat
  deriving DecidableEq, Repr

namespace CircularBuffer

variable {T : Type}

/-- The constructor with the capacity; the default constructor has capacity zero. -/
def create (capacity : Nat) : CircularBuffer T := ⟨[], capacity, 0⟩

def clear (buffer : CircularBuffer T) : CircularBuffer T :=
  { buffer with mBuffer := [], mTail := 0 }

/-- `none` is an index out of bounds. -/
def pushBack (elem : T) (buffer : CircularBuffer T) : Option (CircularBuffer T) :=
  if buffer.mCapacity = 0 then some buffer
  else if buffer.mBuffer.length < buffer.mCapacity then
    some { buffer with mBuffer := buffer.mBuffer ++ [elem] }
  else if buffer.mTail < buffer.mBuffer.length then
    some { buffer with
      mBuffer := buffer.mBuffer.set buffer.mTail elem
      mTail := if buffer.mTail + 1 = buffer.mCapacity then 0 else buffer.mTail + 1 }
  else none

/-- The index the vector is read at; `none` is the failed assertion. Both summands are
below a capacity that could be reserved, so the sum does not wrap. -/
def convertIndex (idx : Nat) (buffer : CircularBuffer T) : Option Nat :=
  if idx < buffer.mCapacity then
    let realIdx := idx + buffer.mTail
    some (if realIdx ≥ buffer.mCapacity then realIdx - buffer.mCapacity else realIdx)
  else none

def size (buffer : CircularBuffer T) : Nat := buffer.mBuffer.length

/-- The reads answer `none` when an assertion fails or the index is out of bounds. -/
def front (buffer : CircularBuffer T) : Option T :=
  if buffer.mCapacity = 0 then none else buffer.mBuffer[buffer.mTail]?

def elementAt (idx : Nat) (buffer : CircularBuffer T) : Option T :=
  match buffer.convertIndex idx with
  | none => none
  | some realIdx => buffer.mBuffer[realIdx]?

/-- `convertIndex` with its assertion compiled out: the sum is one of `size_type`. -/
def convertIndexUnasserted (sizeBits idx : Nat) (buffer : CircularBuffer T) : Nat :=
  let realIdx := (idx + buffer.mTail) % 2 ^ sizeBits
  if realIdx ≥ buffer.mCapacity then realIdx - buffer.mCapacity else realIdx

/-- `at` in a build without assertions; `none` is the exception of the vector. -/
def atUnasserted (sizeBits idx : Nat) (buffer : CircularBuffer T) : Option T :=
  buffer.mBuffer[buffer.convertIndexUnasserted sizeBits idx]?

def operatorIndex (idx : Nat) (buffer : CircularBuffer T) : Option T :=
  if buffer.mCapacity = 0 then none else buffer.elementAt idx

/-- For an empty vector the index `size() - 1` is past every capacity. -/
def back (buffer : CircularBuffer T) : Option T :=
  if buffer.mBuffer.length = 0 then none else buffer.operatorIndex (buffer.mBuffer.length - 1)

def clearAndSetCapacity (capacity : Nat) (buffer : CircularBuffer T) : CircularBuffer T :=
  { buffer.clear with mCapacity := capacity }

inductive Operation (T : Type)
  | pushBack (elem : T)
  | clear
  | clearAndSetCapacity (capacity : Nat)
  deriving DecidableEq, Repr

def step (buffer : CircularBuffer T) : Operation T → Option (CircularBuffer T)
  | .pushBack elem => buffer.pushBack elem
  | .clear => some buffer.clear
  | .clearAndSetCapacity capacity => some (buffer.clearAndSetCapacity capacity)

end CircularBuffer

end FiberApp.Bandwidth
