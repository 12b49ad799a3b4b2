import FiberApp.Foundation.Execution

/-! `SignalThread` of libjingle: an object that a worker thread and its main thread share, with
its reference count, its lock and the message that ends a run. Each step is one stretch of a
thread under the lock. -/

set_option autoImplicit false

namespace FiberApp.Messaging

open FiberApp.Foundation

namespace SignalThread

inductive State
  | init | running | releasing | complete | stopping
  deriving DecidableEq, Repr

/-- The OS thread of a run, `idle` also when it could not be created. It is `finished` once it
left the lock for the last time, until `Thread::Stop` joins it. -/
inductive Worker
  | idle | working | finished
  deriving DecidableEq, Repr

/-- A call of the main thread that is under way. -/
inductive Frame
  /-- `Destroy(true)` in `worker_.Stop()`, with its level of the lock left. -/
  | destroying
  /-- `OnMessage` in `worker_.Stop()`. -/
  | finishing (doDelete : Bool)
  /-- `OnMessage` in `SignalWorkDone`, whose slots may call the object again. -/
  | signalling (doDelete : Bool)
  deriving DecidableEq, Repr

inductive Call
  /-- `Start`, and whether the operating system creates the thread of the worker. -/
  | start (created : Bool)
  | destroy (wait : Bool)
  | release
  /-- The main thread dispatches `ST_MSG_WORKER_DONE`. -/
  | onMessage
  /-- `worker_.Stop()` returns. -/
  | stopped
  /-- `SignalWorkDone` returns. -/
  | signalled
  /-- `DoWork` returns, and `Run` posts its message. -/
  | workDone
  | mainThreadDestroyed
  /-- Any thread tells the main thread to quit, or takes that back. -/
  | quit
  | restart
  deriving DecidableEq, Repr

end SignalThread

open SignalThread in
/-- The innermost call of the main thread stands first. -/
structure SignalThread where
  state : State
  refcount : Int
  /-- Whether `main_` is set. -/
  main : Bool
  /-- The `fStop_` of the main thread's queue. -/
  fStop : Bool
  worker : Worker
  /-- The messages of the object in the queue of the main thread. -/
  messages : Nat
  calls : List Frame
  deletes : Nat
  deriving DecidableEq, Repr

namespace SignalThread

def initial : SignalThread := ⟨.init, 1, true, false, .idle, 0, [], 0⟩

def enter (thread : SignalThread) : SignalThread :=
  { thread with refcount := thread.refcount + 1 }

def unref (thread : SignalThread) : SignalThread :=
  { thread with refcount := thread.refcount - 1 }

/-- `~EnterExit`. Deleting the object takes its messages from the queue. -/
def exit (thread : SignalThread) : SignalThread :=
  if thread.refcount - 1 = 0 then
    { thread.unref with deletes := thread.deletes + 1, messages := 0 }
  else thread.unref

def Frame.waits : Frame → Bool
  | .destroying | .finishing _ => true
  | .signalling _ => false

/-- `OnMessage` keeps the lock while it waits and while it signals. -/
def Frame.locks : Frame → Bool
  | .destroying => false
  | .finishing _ | .signalling _ => true

/-- The main thread runs and can call the object. -/
def mainReady (thread : SignalThread) : Bool :=
  thread.main && (thread.calls.head?.map Frame.waits).getD false == false

def lockedByMain (thread : SignalThread) : Bool := thread.calls.any Frame.locks

/-- `worker_.Start()` leaves a thread alone that was not joined yet. Nobody looks at what it
returns. -/
def startBody (thread : SignalThread) (created : Bool) : SignalThread :=
  if thread.state = .init ∨ thread.state = .complete then
    { thread with
      state := .running
      worker := if created ∧ thread.worker = Worker.idle then .working else thread.worker }.exit
  else thread.exit

def destroyBody (thread : SignalThread) (wait : Bool) : SignalThread :=
  if thread.state = .init ∨ thread.state = .complete then thread.unref.exit
  else if thread.state = .running ∨ thread.state = .releasing then
    if wait then { thread with state := .stopping, calls := .destroying :: thread.calls }
    else { thread with state := .stopping }.exit
  else thread.exit

def releaseBody (thread : SignalThread) : SignalThread :=
  if thread.state = .complete then thread.unref.exit
  else if thread.state = .running then { thread with state := .releasing }.exit
  else thread.exit

def onMessageBody (thread : SignalThread) : SignalThread :=
  if thread.state = .running then
    { thread with state := .complete, calls := .finishing false :: thread.calls }
  else if thread.state = .stopping then thread.unref.exit
  else { thread with calls := .finishing true :: thread.calls }

/-- The end of `Destroy(true)` and the middle of `OnMessage`. -/
def stopped (thread : SignalThread) : Option SignalThread :=
  if thread.worker = .working then none
  else match thread.calls with
    | .destroying :: rest => some { thread with worker := .idle, calls := rest }.unref.exit
    | .finishing doDelete :: rest =>
        some { thread with worker := .idle, calls := .signalling doDelete :: rest }
    | _ => none

def signalled (thread : SignalThread) : Option SignalThread :=
  match thread.calls with
  | .signalling true :: rest => some { thread with calls := rest }.unref.exit
  | .signalling false :: rest => some { thread with calls := rest }.exit
  | _ => none

/-- `Run` after `DoWork`. `Post` drops the message when its queue was told to stop. -/
def workDone (thread : SignalThread) : SignalThread :=
  { thread.enter with
    worker := .finished
    messages :=
      if thread.main && !thread.fStop then thread.messages + 1 else thread.messages }.exit

def step (thread : SignalThread) : Call → Option SignalThread
  | .start created => if thread.mainReady then some (thread.enter.startBody created) else none
  | .destroy wait => if thread.mainReady then some (thread.enter.destroyBody wait) else none
  | .release => if thread.mainReady then some thread.enter.releaseBody else none
  | .onMessage =>
      if thread.mainReady ∧ 0 < thread.messages then
        some { thread.enter with messages := thread.messages - 1 }.onMessageBody
      else none
  | .stopped => thread.stopped
  | .signalled => thread.signalled
  | .workDone =>
      if thread.worker = .working ∧ thread.lockedByMain = false then some thread.workDone
      else none
  | .mainThreadDestroyed =>
      if thread.main ∧ thread.calls = [] then some { thread with main := false, messages := 0 }
      else none
  | .quit => if thread.main then some { thread with fStop := true } else none
  | .restart => if thread.main then some { thread with fStop := false } else none

end SignalThread

end FiberApp.Messaging
