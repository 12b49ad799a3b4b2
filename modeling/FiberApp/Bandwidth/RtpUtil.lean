import FiberApp.Bandwidth.DuplicatePacketChecker

/-! The comparison functions of `rtputil.h` for sequence numbers and timestamps, at every
unsigned width, beside the 16-bit difference. -/

set_option autoImplicit false

namespace FiberApp.Bandwidth

variable {w : Nat}

/-- `std::numeric_limits<T>::max()/2`. -/
def halfOfMax (w : Nat) : Nat := (BitVec.allOnes w).toNat / 2

def rtpLess (lhs rhs : BitVec w) : Bool :=
  let delta := lhs - rhs
  decide (halfOfMax w ≤ delta.toNat)

def rtpGreater (lhs rhs : BitVec w) : Bool :=
  let delta := rhs - lhs
  decide (halfOfMax w ≤ delta.toNat)

def rtpLtEq (lhs rhs : BitVec w) : Bool := !rtpGreater lhs rhs

def rtpGtEq (lhs rhs : BitVec w) : Bool := !rtpLess lhs rhs

end FiberApp.Bandwidth
