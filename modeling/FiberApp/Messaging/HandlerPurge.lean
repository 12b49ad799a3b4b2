import Mathlib.Logic.Function.Basic
import FiberApp.Messaging.MessageQueue

/-! The message queues of a program and their manager: the first post to a queue registers
it, and the destructor of a handler clears every registered queue. Each step of a thread is
what it does between taking a lock and leaving one.

The data of a message own nothing here. `Get` and `Clear` delete data under the lock of a queue;
data that destroyed a handler there would take the manager's lock under that one. -/

set_option autoImplicit false

namespace FiberApp.Messaging

variable {Thread Queue Handler : Type}

/-- What a thread does once it has the lock of a queue: the part of `Post` or `DoDelayPost`,
of `Get`, and of `MessageQueueManager::Clear`, which goes on with the rest of the queues.
`since` is the number of messages accepted when that call got the manager's lock. -/
inductive QueueTask (Queue Handler : Type)
  | post (now : TimeStamp) (request : Request Handler Nat)
  | get (msCurrent : TimeStamp)
  | clear (handler : Handler) (rest : List Queue) (since : Nat)
  deriving DecidableEq, Repr

/-- What follows when the lock of the queue is left. -/
inductive AfterQueue (Queue Handler : Type)
  | done
  | dispatch (message : Message Handler Nat)
  | clear (handler : Handler) (rest : List Queue) (since : Nat)
  deriving DecidableEq, Repr

inductive Activity (Queue Handler : Type)
  | idle
  | lockingQueue (queue : Queue) (task : QueueTask Queue Handler)
  | inQueue (queue : Queue) (task : QueueTask Queue Handler)
  /-- In `EnsureActive`, before the manager's lock. -/
  | adding (queue : Queue) (now : TimeStamp) (request : Request Handler Nat)
  | inAdd (queue : Queue) (now : TimeStamp) (request : Request Handler Nat)
  | enqueuing (queue : Queue) (now : TimeStamp) (request : Request Handler Nat)
  | leavingQueue (queue : Queue) (after : AfterQueue Queue Handler)
  | lockingManager (handler : Handler)
  | clearing (handler : Handler) (rest : List Queue) (since : Nat)
  | dispatching (message : Message Handler Nat)
  deriving DecidableEq, Repr

def AfterQueue.activity : AfterQueue Queue Handler → Activity Queue Handler
  | .done => .idle
  | .dispatch message => .dispatching message
  | .clear handler rest since => .clearing handler rest since

structure MessageQueues (Thread Queue Handler : Type) where
  managerOwner : Option Thread
  messageQueues : List Queue
  queueOwner : Queue → Option Thread
  queues : Queue → MessageQueue Handler Nat
  activity : Thread → Activity Queue Handler
  /-- How many messages the queues have accepted. A message has its number as its data. -/
  accepted : Nat
  dispatched : List (Message Handler Nat)

inductive ThreadStep (Queue Handler : Type)
  | post (queue : Queue) (now : TimeStamp) (request : Request Handler Nat)
  | get (queue : Queue) (msCurrent : TimeStamp)
  | destroyHandler (handler : Handler)
  | go
  deriving DecidableEq, Repr

def Request.withData (number : Nat) : Request Handler Nat → Request Handler Nat
  | .post phandler id _ timeSensitive => .post phandler id (some number) timeSensitive
  | .delayed cmsDelay tstamp phandler id _ posted =>
      .delayed cmsDelay tstamp phandler id (some number) posted

namespace MessageQueues

def initial : MessageQueues Thread Queue Handler :=
  { managerOwner := none, messageQueues := [], queueOwner := fun _ => none,
    queues := fun _ => MessageQueue.initial, activity := fun _ => .idle, accepted := 0,
    dispatched := [] }

variable [DecidableEq Thread] [DecidableEq Queue] [DecidableEq Handler]

def goes (system : MessageQueues Thread Queue Handler) (thread : Thread)
    (activity : Activity Queue Handler) : MessageQueues Thread Queue Handler :=
  { system with activity := Function.update system.activity thread activity }

def changeQueue (system : MessageQueues Thread Queue Handler) (queue : Queue)
    (changed : MessageQueue Handler Nat) : MessageQueues Thread Queue Handler :=
  { system with queues := Function.update system.queues queue changed }

def lockQueue (system : MessageQueues Thread Queue Handler) (queue : Queue)
    (owner : Option Thread) : MessageQueues Thread Queue Handler :=
  { system with queueOwner := Function.update system.queueOwner queue owner }

def lockManager (system : MessageQueues Thread Queue Handler) (owner : Option Thread) :
    MessageQueues Thread Queue Handler :=
  { system with managerOwner := owner }

/-- The task of a thread that holds the lock of the queue. -/
def perform (system : MessageQueues Thread Queue Handler) (thread : Thread) (queue : Queue) :
    QueueTask Queue Handler → MessageQueues Thread Queue Handler
  | .post now request =>
      if (system.queues queue).active then system.goes thread (.enqueuing queue now request)
      else
        (system.changeQueue queue { system.queues queue with active := true }).goes thread
          (.adding queue now request)
  | .get msCurrent =>
      -- The data of disposed messages are deleted here, which takes no lock.
      let scan := (system.queues queue).scan msCurrent
      (system.changeQueue queue scan.queue).goes thread
        (.leavingQueue queue
          (match scan.found with
          | none => .done
          | some message => .dispatch message))
  | .clear handler rest since =>
      (system.changeQueue queue ((system.queues queue).clear (some handler) mqidAny).1).goes thread
        (.leavingQueue queue (.clear handler rest since))

/-- `Add`: the manager's lock is left again. -/
def add (system : MessageQueues Thread Queue Handler) (thread : Thread) (queue : Queue)
    (now : TimeStamp) (request : Request Handler Nat) : MessageQueues Thread Queue Handler :=
  ({ system with messageQueues := system.messageQueues ++ [queue] }.lockManager none).goes thread
    (.enqueuing queue now request)

def enqueue (system : MessageQueues Thread Queue Handler) (thread : Thread) (queue : Queue)
    (now : TimeStamp) (request : Request Handler Nat) : MessageQueues Thread Queue Handler :=
  { (system.changeQueue queue
      ((system.queues queue).enqueue now (request.withData system.accepted))).goes thread
        (.leavingQueue queue .done) with
    accepted := system.accepted + 1 }

/-- A thread goes on from where it stands, unless a lock it needs is taken. -/
def advance (system : MessageQueues Thread Queue Handler) (thread : Thread) :
    Option (MessageQueues Thread Queue Handler) :=
  match system.activity thread with
  | .idle => none
  | .lockingQueue queue task =>
      if system.queueOwner queue = none then
        some ((system.lockQueue queue (some thread)).goes thread (.inQueue queue task))
      else none
  | .inQueue queue task => some (system.perform thread queue task)
  | .adding queue now request =>
      if system.managerOwner = none then
        some ((system.lockManager (some thread)).goes thread (.inAdd queue now request))
      else none
  | .inAdd queue now request => some (system.add thread queue now request)
  | .enqueuing queue now request => some (system.enqueue thread queue now request)
  | .leavingQueue queue after =>
      some ((system.lockQueue queue none).goes thread after.activity)
  | .lockingManager handler =>
      if system.managerOwner = none then
        some ((system.lockManager (some thread)).goes thread
          (.clearing handler system.messageQueues system.accepted))
      else none
  | .clearing _ [] _ => some ((system.lockManager none).goes thread .idle)
  | .clearing handler (queue :: rest) since =>
      some (system.goes thread (.lockingQueue queue (.clear handler rest since)))
  | .dispatching message =>
      some { system.goes thread .idle with dispatched := system.dispatched ++ [message] }

/-- A call that a thread makes when it is not in one. -/
def start (system : MessageQueues Thread Queue Handler) (thread : Thread)
    (activity : Activity Queue Handler) : Option (MessageQueues Thread Queue Handler) :=
  match system.activity thread with
  | .idle => some (system.goes thread activity)
  | _ => none

def step (system : MessageQueues Thread Queue Handler) :
    Thread × ThreadStep Queue Handler → Option (MessageQueues Thread Queue Handler)
  | (thread, .post queue now request) =>
      system.start thread (.lockingQueue queue (.post now request))
  | (thread, .get queue msCurrent) => system.start thread (.lockingQueue queue (.get msCurrent))
  | (thread, .destroyHandler handler) => system.start thread (.lockingManager handler)
  | (thread, .go) => system.advance thread

end MessageQueues

end FiberApp.Messaging
