import FiberApp.Foundation.CircularBuffer
import Mathlib.Algebra.Group.Basic

/-! The moving average of `moving_average.h`. The samples are of a type with exact
addition, as the integer types have, whose overflow wraps. -/

set_option autoImplicit false

namespace FiberApp.Helpers

/-- A `size_type` value; its largest one is a parameter. -/
abbrev SizeType (sizeMax : Nat) := { size : Nat // size ≤ sizeMax }

structure MovingAverage (sizeMax : Nat) (T : Type) where
  circBuffer : List T
  next : Nat
  total : T
  maxSize : SizeType sizeMax
  curSize : Nat

/-- `++` and `--` of a `size_type`. -/
def increment (sizeMax size : Nat) : Nat := if size = sizeMax then 0 else size + 1

def decrement (sizeMax size : Nat) : Nat := if size = 0 then sizeMax else size - 1

namespace MovingAverage

variable {sizeMax : Nat} {T : Type} [AddCommGroup T]

/-- The constructor with the maximum size. -/
def create (maxSize : SizeType sizeMax) : MovingAverage sizeMax T := ⟨[], 0, 0, maxSize, 0⟩

def size (average : MovingAverage sizeMax T) : Nat := average.curSize

/-- `divide` is the type's division by a size. -/
def computeMean (divide : T → Nat → T) (average : MovingAverage sizeMax T) : T :=
  if average.curSize ≠ 0 then divide average.total average.curSize else 0

/-- Make room for the sample and insert it; `none` is an index out of bounds. -/
def insertSample (sample : T) (average : MovingAverage sizeMax T) :
    Option (MovingAverage sizeMax T) :=
  if average.circBuffer.length = average.maxSize then
    match average.circBuffer[average.next]? with
    | none => none
    | some oldest => some { average with
        total := average.total - oldest
        curSize :=
          if average.curSize < average.maxSize then increment sizeMax average.curSize
          else average.curSize
        circBuffer := average.circBuffer.set average.next sample }
  else some { average with
    circBuffer := average.circBuffer ++ [sample]
    curSize := increment sizeMax average.curSize }

/-- Count the sample at the index and move on. -/
def countSample (average : MovingAverage sizeMax T) : Option (MovingAverage sizeMax T) :=
  match average.circBuffer[average.next]? with
  | none => none
  | some newest =>
      let next := increment sizeMax average.next
      some { average with
        total := average.total + newest
        next := if next = average.maxSize then 0 else next }

def addSample (divide : T → Nat → T) (sample : T) (average : MovingAverage sizeMax T) :
    Option (MovingAverage sizeMax T × T) := do
  let average ← average.insertSample sample
  let average ← average.countSample
  some (average, average.computeMean divide)

/-- Zero is returned when there is nothing to remove. -/
def removeSample (average : MovingAverage sizeMax T) : Option (MovingAverage sizeMax T × T) :=
  if average.curSize = 0 then some (average, 0)
  else
    let next := decrement sizeMax average.next
    let next := if next ≥ average.maxSize then average.maxSize.val - 1 else next
    match average.circBuffer[next]? with
    | none => none
    | some oldSample =>
        some ({ average with
          next := next
          total := average.total - oldSample
          curSize := decrement sizeMax average.curSize
          circBuffer :=
            if average.circBuffer.length = average.maxSize then average.circBuffer.set next 0
            else average.circBuffer.dropLast }, oldSample)

def clear (average : MovingAverage sizeMax T) : MovingAverage sizeMax T :=
  { average with circBuffer := [], next := 0, total := 0, curSize := 0 }

/-- `MaxSize` with a new maximum size, and whether it was set. `reserves` tells for which
sizes the vector can be given room; `none` is the exception of `reserve`. -/
def setMaxSize (reserves : Nat → Bool) (maxSize : SizeType sizeMax)
    (average : MovingAverage sizeMax T) : Option (MovingAverage sizeMax T × Bool) :=
  if average.circBuffer.length = 0 then
    if reserves maxSize then some ({ average with maxSize := maxSize }, true) else none
  else some (average, false)

inductive Operation (T : Type)
  | addSample (sample : T)
  | removeSample
  | clear
  deriving DecidableEq, Repr

def step (divide : T → Nat → T) (average : MovingAverage sizeMax T) :
    Operation T → Option (MovingAverage sizeMax T)
  | .addSample sample => (average.addSample divide sample).map Prod.fst
  | .removeSample => average.removeSample.map Prod.fst
  | .clear => some average.clear

end MovingAverage

end FiberApp.Helpers
