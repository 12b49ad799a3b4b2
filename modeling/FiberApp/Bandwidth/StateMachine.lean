import Mathlib.Data.List.Basic

/-! The state machine of `stateMachine.h`. A state object is named by its address, and
the actions it runs are recorded in the order of their calls. -/

set_option autoImplicit false

namespace FiberApp.Bandwidth

/-- A null pointer is `none`; `Context` is what a `void*` points to. -/
structure Transition (Address Action Context : Type) where
  mNextState : Option Address
  mAction : Option Action
  mContext : Option Context
  deriving DecidableEq, Repr

/-- The calls of `postEvent`, with what they are passed. -/
inductive ActionCall (Address Action Context : Type)
  | onExit (state : Address) (context : Option Context) (event : UInt32)
  | action (action : Action) (context : Option Context)
  | onEntry (state : Address) (context : Option Context) (event : UInt32)
  deriving DecidableEq, Repr

structure State (Address Action Context : Type) where
  mTransitions : List (Transition Address Action Context)
  deriving DecidableEq, Repr

variable {Address Action Context : Type}

namespace State

def create (numTransitions : UInt32) : State Address Action Context :=
  ⟨.replicate numTransitions.toNat ⟨none, none, none⟩⟩

def addTransition (event : UInt32) (next : Option Address) (action : Option Action)
    (context : Option Context) (state : State Address Action Context) :
    State Address Action Context :=
  if event.toNat < state.mTransitions.length then
    ⟨state.mTransitions.set event.toNat ⟨next, action, context⟩⟩
  else state

/-- `none` is the null pointer that `operator[]` returns. -/
def operatorIndex (index : UInt32) (state : State Address Action Context) :
    Option (Transition Address Action Context) :=
  if inside : index.toNat < state.mTransitions.length then
    some (state.mTransitions[index.toNat])
  else none

end State

def invalidEvent : UInt32 := 0xffffffff

structure StateMachine (Address Context : Type) where
  mCurrentState : Option Address
  mContext : Option Context
  mLastEvent : UInt32
  deriving DecidableEq, Repr

namespace StateMachine

def create (data : Option Context) : StateMachine Address Context := ⟨none, data, invalidEvent⟩

def setCurrentState (state : Option Address) (machine : StateMachine Address Context) :
    StateMachine Address Context :=
  { machine with mCurrentState := state }

/-- The machine after an event and the calls made for it; `none` is a dereferenced null
pointer. `states` are the objects at the addresses. -/
def postEvent (states : Address → State Address Action Context) (event : UInt32)
    (machine : StateMachine Address Context) :
    Option (StateMachine Address Context × List (ActionCall Address Action Context)) :=
  match machine.mCurrentState with
  | none => some (machine, [])
  | some current =>
      let machine := { machine with mLastEvent := event }
      match (states current).operatorIndex event with
      | none => none
      | some transition =>
          match transition.mNextState with
          | none => some (machine, [])
          | some next =>
              let action :=
                match transition.mAction with
                | none => []
                | some action => [.action action transition.mContext]
              some ({ machine with mCurrentState := some next },
                .onExit current machine.mContext event :: action ++
                  [.onEntry next machine.mContext event])

end StateMachine

end FiberApp.Bandwidth
