import Mathlib.Logic.Function.Basic
import FiberApp.Messaging.MessageQueue

/-! `Thread::Send` of `talk/base/thread.cc`: the calling thread queues its message on the
other thread, wakes it and waits, receiving sent messages itself, until the other thread has
run the handler and set the flag. -/

set_option autoImplicit false

namespace FiberApp.Messaging

variable {ThreadId Handler Data : Type}

/-- A `_SendMessage`. The `ready` flag on the stack of the sender has a number of its own. -/
structure SendMessage (ThreadId Handler Data : Type) where
  thread : ThreadId
  msg : Message Handler Data
  ready : Nat
  deriving DecidableEq, Repr

/-- Where a call on the stack of a thread has got to. -/
inductive Frame (ThreadId Handler Data : Type)
  /-- The loop of `Get`, about to call `ReceiveSends`. -/
  | get
  /-- `Get` after `ReceiveSends`, about to look at the queue. -/
  | scan
  /-- `Get` inside `Wait`. -/
  | asleep
  /-- The handler of a posted message. -/
  | dispatch
  /-- `ReceiveSends`, at the head of its loop over `sendlist_`. -/
  | receive
  /-- `ReceiveSends`, inside the handler of a sent message. -/
  | handle (smsg : SendMessage ThreadId Handler Data)
  /-- `ReceiveSends`, the flag set and the sender not woken yet. -/
  | wake (smsg : SendMessage ThreadId Handler Data)
  /-- `Send`, past its tests and before the lock. -/
  | call (target : ThreadId) (msg : Message Handler Data)
  /-- `Send`, the message queued and the other thread not woken yet. -/
  | posted (target : ThreadId) (ready : Nat)
  /-- `Send`, at the test of the flag. -/
  | await (ready : Nat) (waited : Bool)
  /-- `Send` after `ReceiveSends`, inside `Wait`. -/
  | nap (ready : Nat)
  deriving DecidableEq, Repr

structure ThreadState (ThreadId Handler Data : Type) where
  sendlist : List (SendMessage ThreadId Handler Data)
  hasSends : Bool
  fStop : Bool
  /-- The wake-up that the socket server of the thread keeps. -/
  fSignaled : Bool
  /-- The innermost call comes first. -/
  stack : List (Frame ThreadId Handler Data)
  deriving DecidableEq, Repr

structure Threads (ThreadId Handler Data : Type) where
  thread : ThreadId → ThreadState ThreadId Handler Data
  /-- The threads on whose stacks the flags are, in the order of their numbers. -/
  flags : List ThreadId
  /-- The flags set by `ReceiveSends`, by `Clear`, and those whose `Send` has returned. -/
  handled : List Nat
  cleared : List Nat
  returned : List Nat

namespace ThreadState

/-- A thread about to run `ProcessMessages`. -/
def started : ThreadState ThreadId Handler Data :=
  { sendlist := [], hasSends := false, fStop := false, fSignaled := false, stack := [.get] }

def wakeUp (state : ThreadState ThreadId Handler Data) : ThreadState ThreadId Handler Data :=
  { state with fSignaled := true }

def setStack (state : ThreadState ThreadId Handler Data)
    (stack : List (Frame ThreadId Handler Data)) : ThreadState ThreadId Handler Data :=
  { state with stack := stack }

/-- `ReceiveSends` tests `has_sends_` before it takes the lock. -/
def receiveSends (state : ThreadState ThreadId Handler Data)
    (caller : List (Frame ThreadId Handler Data)) : ThreadState ThreadId Handler Data :=
  state.setStack (if state.hasSends then .receive :: caller else caller)

/-- `Wait` returns and has taken the wake-up. -/
def wait (state : ThreadState ThreadId Handler Data)
    (stack : List (Frame ThreadId Handler Data)) : ThreadState ThreadId Handler Data :=
  { state with fSignaled := false, stack := stack }

/-- `sendlist_.push_back(smsg); has_sends_ = true;` -/
def push (state : ThreadState ThreadId Handler Data)
    (smsg : SendMessage ThreadId Handler Data) : ThreadState ThreadId Handler Data :=
  { state with sendlist := state.sendlist ++ [smsg], hasSends := true }

/-- One turn of the loop in `ReceiveSends`, under the lock. -/
def lock (state : ThreadState ThreadId Handler Data)
    (caller : List (Frame ThreadId Handler Data)) : ThreadState ThreadId Handler Data :=
  match state.sendlist with
  | [] => { state with hasSends := false, stack := caller }
  | smsg :: rest => { state with sendlist := rest, stack := .handle smsg :: caller }

/-- The messages on `sendlist_` that `Clear` takes. -/
def matched [DecidableEq Handler] (state : ThreadState ThreadId Handler Data)
    (phandler : Option Handler) (id : BitVec 32) : List (SendMessage ThreadId Handler Data) :=
  state.sendlist.filter fun smsg => smsg.msg.isMatch phandler id

def clear [DecidableEq Handler] (state : ThreadState ThreadId Handler Data)
    (phandler : Option Handler) (id : BitVec 32) : ThreadState ThreadId Handler Data :=
  { state with sendlist := state.sendlist.filter fun smsg => !smsg.msg.isMatch phandler id }

def quit (state : ThreadState ThreadId Handler Data) : ThreadState ThreadId Handler Data :=
  { state with fStop := true }

end ThreadState

namespace Threads

def started : Threads ThreadId Handler Data :=
  { thread := fun _ => ThreadState.started, flags := [], handled := [], cleared := [],
    returned := [] }

/-- The number of the next flag. -/
def nextReady (threads : Threads ThreadId Handler Data) : Nat := threads.flags.length

/-- The flags that are set. -/
def ready (threads : Threads ThreadId Handler Data) : List Nat :=
  threads.handled ++ threads.cleared

variable [DecidableEq ThreadId]

def set (threads : Threads ThreadId Handler Data) (thread : ThreadId)
    (state : ThreadState ThreadId Handler Data) : Threads ThreadId Handler Data :=
  { threads with thread := Function.update threads.thread thread state }

def setStack (threads : Threads ThreadId Handler Data) (thread : ThreadId)
    (stack : List (Frame ThreadId Handler Data)) : Threads ThreadId Handler Data :=
  threads.set thread ((threads.thread thread).setStack stack)

/-- The socket servers of some threads are woken. -/
def wake (threads : Threads ThreadId Handler Data) (woken : List ThreadId) :
    Threads ThreadId Handler Data :=
  { threads with
    thread := fun thread =>
      if thread ∈ woken then (threads.thread thread).wakeUp else threads.thread thread }

/-- `Send` past its tests: the call is made unless the other thread is stopped. -/
def send (threads : Threads ThreadId Handler Data) (thread target : ThreadId)
    (msg : Message Handler Data) (caller : List (Frame ThreadId Handler Data)) :
    Threads ThreadId Handler Data :=
  if (threads.thread target).fStop then threads
  else threads.setStack thread (.call target msg :: caller)

/-- `Send` under the lock of the other thread. -/
def push (threads : Threads ThreadId Handler Data) (thread target : ThreadId)
    (msg : Message Handler Data) (caller : List (Frame ThreadId Handler Data)) :
    Threads ThreadId Handler Data :=
  let queued := threads.set target
    ((threads.thread target).push ⟨thread, msg, threads.nextReady⟩)
  { queued.setStack thread (.posted target threads.nextReady :: caller) with
    flags := threads.flags ++ [thread] }

/-- The end of `Send`: when it has waited it may have taken a wake-up meant for others. -/
def leave (threads : Threads ThreadId Handler Data) (thread : ThreadId) (ready : Nat)
    (waited : Bool) (caller : List (Frame ThreadId Handler Data)) :
    Threads ThreadId Handler Data :=
  { (threads.setStack thread caller).wake (if waited then [thread] else []) with
    returned := threads.returned ++ [ready] }

/-- The handler of a sent message has returned, and the flag is set. -/
def handle (threads : Threads ThreadId Handler Data) (thread : ThreadId)
    (smsg : SendMessage ThreadId Handler Data) (caller : List (Frame ThreadId Handler Data)) :
    Threads ThreadId Handler Data :=
  { threads.setStack thread (.wake smsg :: caller) with
    handled := threads.handled ++ [smsg.ready] }

/-- `Thread::Clear` sets the flag of every message it takes and wakes its sender. -/
def clear [DecidableEq Handler] (threads : Threads ThreadId Handler Data) (target : ThreadId)
    (phandler : Option Handler) (id : BitVec 32) : Threads ThreadId Handler Data :=
  let taken := (threads.thread target).matched phandler id
  { (threads.set target ((threads.thread target).clear phandler id)).wake
      (taken.map SendMessage.thread) with
    cleared := threads.cleared ++ taken.map SendMessage.ready }

/-- A handler is running on the thread, so it may call `Send`. -/
def runsHandler : List (Frame ThreadId Handler Data) → Bool
  | .dispatch :: _ => true
  | .handle _ :: _ => true
  | _ => false

/-- What one step of one thread does. The loop of `Get` looks at its queue in `scan`: it
dispatches a message, stops or waits. Which message it finds, and whether a `Wait` without a
wake-up returns for another reason, is left open. -/
inductive Took [DecidableEq Handler] (threads : Threads ThreadId Handler Data) :
    Threads ThreadId Handler Data → Prop
  | receiveSends (thread : ThreadId) (caller : List (Frame ThreadId Handler Data))
      (top : (threads.thread thread).stack = .get :: caller) :
      Took threads
        (threads.set thread ((threads.thread thread).receiveSends (.scan :: caller)))
  | dispatch (thread : ThreadId) (caller : List (Frame ThreadId Handler Data))
      (top : (threads.thread thread).stack = .scan :: caller) :
      Took threads (threads.setStack thread (.dispatch :: .get :: caller))
  | sleep (thread : ThreadId) (caller : List (Frame ThreadId Handler Data))
      (top : (threads.thread thread).stack = .scan :: caller)
      (running : (threads.thread thread).fStop = false) :
      Took threads (threads.setStack thread (.asleep :: caller))
  | stop (thread : ThreadId) (caller : List (Frame ThreadId Handler Data))
      (top : (threads.thread thread).stack = .scan :: caller)
      (stopped : (threads.thread thread).fStop = true) :
      Took threads (threads.setStack thread [])
  | wait (thread : ThreadId) (caller : List (Frame ThreadId Handler Data))
      (top : (threads.thread thread).stack = .asleep :: caller) :
      Took threads (threads.set thread ((threads.thread thread).wait (.get :: caller)))
  | waitFailed (thread : ThreadId) (caller : List (Frame ThreadId Handler Data))
      (top : (threads.thread thread).stack = .asleep :: caller) :
      Took threads (threads.set thread ((threads.thread thread).wait []))
  | waitInSend (thread : ThreadId) (ready : Nat) (caller : List (Frame ThreadId Handler Data))
      (top : (threads.thread thread).stack = .nap ready :: caller) :
      Took threads
        (threads.set thread ((threads.thread thread).wait (.await ready true :: caller)))
  | send (thread target : ThreadId) (msg : Message Handler Data)
      (caller : List (Frame ThreadId Handler Data))
      (top : (threads.thread thread).stack = caller) (calls : runsHandler caller = true)
      (other : thread ≠ target) : Took threads (threads.send thread target msg caller)
  | push (thread target : ThreadId) (msg : Message Handler Data)
      (caller : List (Frame ThreadId Handler Data))
      (top : (threads.thread thread).stack = .call target msg :: caller) :
      Took threads (threads.push thread target msg caller)
  | wakeTarget (thread target : ThreadId) (ready : Nat)
      (caller : List (Frame ThreadId Handler Data))
      (top : (threads.thread thread).stack = .posted target ready :: caller) :
      Took threads ((threads.setStack thread (.await ready false :: caller)).wake [target])
  | notReady (thread : ThreadId) (ready : Nat) (waited : Bool)
      (caller : List (Frame ThreadId Handler Data))
      (top : (threads.thread thread).stack = .await ready waited :: caller)
      (unset : ready ∉ threads.ready) :
      Took threads
        (threads.set thread ((threads.thread thread).receiveSends (.nap ready :: caller)))
  | leave (thread : ThreadId) (ready : Nat) (waited : Bool)
      (caller : List (Frame ThreadId Handler Data))
      (top : (threads.thread thread).stack = .await ready waited :: caller)
      (isSet : ready ∈ threads.ready) : Took threads (threads.leave thread ready waited caller)
  | lock (thread : ThreadId) (caller : List (Frame ThreadId Handler Data))
      (top : (threads.thread thread).stack = .receive :: caller) :
      Took threads (threads.set thread ((threads.thread thread).lock caller))
  | finish (thread : ThreadId) (caller : List (Frame ThreadId Handler Data))
      (top : (threads.thread thread).stack = .dispatch :: caller) :
      Took threads (threads.setStack thread caller)
  | handle (thread : ThreadId) (smsg : SendMessage ThreadId Handler Data)
      (caller : List (Frame ThreadId Handler Data))
      (top : (threads.thread thread).stack = .handle smsg :: caller) :
      Took threads (threads.handle thread smsg caller)
  | wakeSender (thread : ThreadId) (smsg : SendMessage ThreadId Handler Data)
      (caller : List (Frame ThreadId Handler Data))
      (top : (threads.thread thread).stack = .wake smsg :: caller) :
      Took threads ((threads.setStack thread (.receive :: caller)).wake [smsg.thread])
  | clear (target : ThreadId) (phandler : Option Handler) (id : BitVec 32) :
      Took threads (threads.clear target phandler id)
  | quit (target : ThreadId) :
      Took threads ((threads.set target (threads.thread target).quit).wake [target])
  | signal (target : ThreadId) : Took threads (threads.wake [target])

inductive Reachable [DecidableEq Handler] : Threads ThreadId Handler Data → Prop
  | started : Reachable started
  | next {threads after : Threads ThreadId Handler Data} (reached : Reachable threads)
      (took : threads.Took after) : Reachable after

end Threads

end FiberApp.Messaging
