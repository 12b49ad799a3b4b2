import Mathlib.Data.BitVec

/-! The duplicate-packet filter of `duplicatepacketchecker.h` and the sequence
difference of `rtputil.h` it is built on. -/

set_option autoImplicit false

namespace FiberApp.Bandwidth

def seqDelta (cur prev : BitVec 16) : Int := (cur - prev).toInt

def windowSize : Nat := 256

def negDeltaToTreatAsNewStream : Int := -4096

/-- The class members; `mDupeWindow` is a `std::bitset` with bit 0 the newest. -/
structure DuplicatePacketChecker where
  mDupeWindow : BitVec windowSize
  mHighestSeqNo : BitVec 16
  mFirstPacket : Bool
  deriving DecidableEq, Repr

namespace DuplicatePacketChecker

def initial : DuplicatePacketChecker := ⟨0, 0, true⟩

/-- `mDupeWindow[index] = true`. -/
def markWindow (bits : BitVec windowSize) (index : Nat) : BitVec windowSize :=
  bits ||| BitVec.twoPow windowSize index

/-- The window is cleared; `mHighestSeqNo` keeps its value. -/
def reset (checker : DuplicatePacketChecker) : DuplicatePacketChecker :=
  { checker with mDupeWindow := 0, mFirstPacket := true }

def insertFirst (checker : DuplicatePacketChecker) (seqNo : BitVec 16) :
    DuplicatePacketChecker × Bool :=
  ({ mDupeWindow := markWindow checker.mDupeWindow 0
     mHighestSeqNo := seqNo
     mFirstPacket := false }, true)

def isNewStream (delta : Int) : Bool :=
  decide (delta ≥ windowSize) || decide (delta ≤ negDeltaToTreatAsNewStream)

/-- The returned flag is false for a duplicate, and for a packet too old to tell. -/
def insertAndTest (checker : DuplicatePacketChecker) (seqNo : BitVec 16) :
    DuplicatePacketChecker × Bool :=
  if checker.mFirstPacket then insertFirst checker seqNo
  else
    let delta := seqDelta seqNo checker.mHighestSeqNo
    -- The recursive call of the source finds `mFirstPacket` set by `reset`.
    if isNewStream delta then insertFirst (reset checker) seqNo
    else if 0 < delta then
      ({ checker with
          mDupeWindow := markWindow (checker.mDupeWindow <<< delta.toNat) 0
          mHighestSeqNo := seqNo }, true)
    else
      let age := (-delta).toNat
      if age < windowSize then
        if checker.mDupeWindow.getLsbD age then (checker, false)
        else ({ checker with mDupeWindow := markWindow checker.mDupeWindow age }, true)
      else (checker, false)

def triggersReset (checker : DuplicatePacketChecker) (seqNo : BitVec 16) : Bool :=
  !checker.mFirstPacket && isNewStream (seqDelta seqNo checker.mHighestSeqNo)

def insideWindow (checker : DuplicatePacketChecker) (seqNo : BitVec 16) : Bool :=
  checker.mFirstPacket || decide (-(windowSize : Int) < seqDelta seqNo checker.mHighestSeqNo)

end DuplicatePacketChecker

end FiberApp.Bandwidth
