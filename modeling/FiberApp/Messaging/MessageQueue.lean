import Mathlib.Data.Prod.Lex
import FiberApp.Foundation.PriorityQueue
import FiberApp.Messaging.TimeUtils

/-! The message queue of `talk/base/messagequeue.cc`: messages posted for now, messages
posted for later, and one that was peeked at. -/

set_option autoImplicit false

namespace FiberApp.Messaging

open FiberApp.Foundation

def mqidAny : BitVec 32 := 0xFFFFFFFF

def mqidDispose : BitVec 32 := 0xFFFFFFFE

def kMaxMsgLatency : TimeStamp := 150

structure Message (Handler Data : Type) where
  phandler : Option Handler
  messageId : BitVec 32
  pdata : Option Data
  tsSensitive : TimeStamp
  deriving DecidableEq, Repr

/-- `Match(handler, id)`; without a handler, or with `MQID_ANY`, every message matches. -/
def Message.isMatch {Handler Data : Type} [DecidableEq Handler] (message : Message Handler Data)
    (handler : Option Handler) (id : BitVec 32) : Bool :=
  (handler.isNone || decide (handler = message.phandler)) &&
    (id == mqidAny || id == message.messageId)

structure DelayedMessage (Handler Data : Type) where
  cmsDelay : Int
  msTrigger : TimeStamp
  num : BitVec 32
  msg : Message Handler Data
  /-- The clock at the call that posted the message. No operation reads it. -/
  posted : Nat
  deriving DecidableEq, Repr

namespace DelayedMessage

variable {Handler Data : Type}

/-- `operator<`: the greatest message leaves the priority queue first. -/
def less (left right : DelayedMessage Handler Data) : Bool :=
  right.msTrigger < left.msTrigger ||
    (right.msTrigger == left.msTrigger && right.num < left.num)

def key (delayed : DelayedMessage Handler Data) : Nat ×ₗ Nat :=
  toLex (delayed.msTrigger.toNat, delayed.num.toNat)

theorem less_iff (left right : DelayedMessage Handler Data) :
    left.less right = true ↔ right.key < left.key := by
  simp only [less, key, Prod.Lex.toLex_lt_toLex, Bool.or_eq_true, Bool.and_eq_true,
    decide_eq_true_eq, beq_iff_eq, BitVec.lt_def, BitVec.toNat_eq]

/-- When the message was meant to be handed out, on a clock that does not wrap. -/
def due (delayed : DelayedMessage Handler Data) : Int := delayed.posted + delayed.cmsDelay

end DelayedMessage

abbrev DelayedQueue (Handler Data : Type) : Type :=
  PriorityQueue (DelayedMessage Handler Data) DelayedMessage.key

/-- A call of `Post` or `DoDelayPost` that has passed the test of `fStop_`. -/
inductive Request (Handler Data : Type)
  | post (phandler : Option Handler) (id : BitVec 32) (pdata : Option Data)
      (timeSensitive : Bool)
  | delayed (cmsDelay : Int) (tstamp : TimeStamp) (phandler : Option Handler)
      (id : BitVec 32) (pdata : Option Data) (posted : Nat)
  deriving DecidableEq, Repr

namespace Request

variable {Handler Data : Type}

/-- `PostDelayed(cmsDelay, ...)`, called when the clock stands at `clock`. -/
def postDelayed (clock : Nat) (cmsDelay : Int) (phandler : Option Handler) (id : BitVec 32)
    (pdata : Option Data) : Request Handler Data :=
  .delayed cmsDelay (timeAfter clock cmsDelay) phandler id pdata clock

def postAt (clock : Nat) (tstamp : TimeStamp) (phandler : Option Handler) (id : BitVec 32)
    (pdata : Option Data) : Request Handler Data :=
  .delayed (timeUntil (time clock) tstamp) tstamp phandler id pdata clock

/-- The message as it is queued at the given time. -/
def message (now : TimeStamp) : Request Handler Data → Message Handler Data
  | .post phandler id pdata timeSensitive =>
      ⟨phandler, id, pdata, if timeSensitive then now + kMaxMsgLatency else 0⟩
  | .delayed _ _ phandler id pdata _ => ⟨phandler, id, pdata, 0⟩

end Request

structure MessageQueue (Handler Data : Type) where
  fStop : Bool
  msgPeek : Option (Message Handler Data)
  active : Bool
  msgq : List (Message Handler Data)
  dmsgq : DelayedQueue Handler Data
  dmsgqNextNum : BitVec 32
  /-- The wake-up that the socket server keeps until the next `Wait` takes it. -/
  fSignaled : Bool

/-- What one pass of `Get` through its critical section finds. -/
structure Scan (Handler Data : Type) where
  queue : MessageQueue Handler Data
  disposed : List (Message Handler Data)
  found : Option (Message Handler Data)
  cmsDelayNext : Option Int

/-- The loop over the posted messages: the data of an `MQID_DISPOSE` message is deleted, and
the first other message is handed out. -/
def takeReady {Handler Data : Type} :
    List (Message Handler Data) →
      List (Message Handler Data) × Option (Message Handler Data) × List (Message Handler Data)
  | [] => ([], none, [])
  | message :: rest =>
      if message.messageId = mqidDispose then
        let (disposed, found, left) := takeReady rest
        (message :: disposed, found, left)
      else ([], some message, rest)

namespace MessageQueue

variable {Handler Data : Type}

def initial : MessageQueue Handler Data :=
  { fStop := false, msgPeek := none, active := false, msgq := [], dmsgq := PriorityQueue.empty,
    dmsgqNextNum := 0, fSignaled := false }

def wakeUp (queue : MessageQueue Handler Data) : MessageQueue Handler Data :=
  { queue with fSignaled := true }

/-- The part of `Post` and of `DoDelayPost` under the lock. -/
def enqueue (queue : MessageQueue Handler Data) (now : TimeStamp)
    (request : Request Handler Data) : MessageQueue Handler Data :=
  match request with
  | .post .. =>
      { queue with active := true, msgq := queue.msgq ++ [request.message now] }.wakeUp
  | .delayed cmsDelay tstamp _ _ _ posted =>
      { queue with
        active := true
        dmsgq := queue.dmsgq.push
          ⟨cmsDelay, tstamp, queue.dmsgqNextNum, request.message now, posted⟩
        dmsgqNextNum := queue.dmsgqNextNum + 1 }.wakeUp

/-- `Clear(phandler, id, removed)`, with the messages that leave the queue. -/
def clear [DecidableEq Handler] (queue : MessageQueue Handler Data) (phandler : Option Handler)
    (id : BitVec 32) : MessageQueue Handler Data × List (Message Handler Data) :=
  ({ queue with
      msgPeek := queue.msgPeek.filter fun message => !message.isMatch phandler id
      msgq := queue.msgq.filter fun message => !message.isMatch phandler id
      dmsgq := queue.dmsgq.keep fun delayed => !delayed.msg.isMatch phandler id },
    (queue.msgPeek.toList.filter fun message => message.isMatch phandler id) ++
      (queue.msgq.filter fun message => message.isMatch phandler id) ++
      (queue.dmsgq.entries.map DelayedMessage.msg).filter fun message =>
        message.isMatch phandler id)

/-- A delayed message is triggered unless its trigger is later than the time read. -/
def triggered (msCurrent : TimeStamp) (delayed : DelayedMessage Handler Data) : Bool :=
  !timeIsLater msCurrent delayed.msTrigger

/-- The posted messages, once the triggered ones have been moved behind them. -/
def ready (queue : MessageQueue Handler Data) (msCurrent : TimeStamp) :
    List (Message Handler Data) :=
  queue.msgq ++ (queue.dmsgq.taken (triggered msCurrent)).map DelayedMessage.msg

/-- `Get` between its taking the lock and its leaving it. -/
def scan (queue : MessageQueue Handler Data) (msCurrent : TimeStamp) : Scan Handler Data :=
  let later := queue.dmsgq.remaining (triggered msCurrent)
  let (disposed, found, left) := takeReady (queue.ready msCurrent)
  { queue := { queue with msgq := left, dmsgq := later }
    disposed := disposed
    found := found
    cmsDelayNext := later.top.map fun delayed => timeDiff delayed.msTrigger msCurrent }

def getDelay (queue : MessageQueue Handler Data) (now : TimeStamp) : Option Int :=
  if queue.msgq ≠ [] then some 0
  else queue.dmsgq.top.map fun delayed => max 0 (timeUntil now delayed.msTrigger)

/-- The messages the queue holds. -/
def pending (queue : MessageQueue Handler Data) : List (Message Handler Data) :=
  queue.msgPeek.toList ++ queue.msgq ++ queue.dmsgq.entries.map DelayedMessage.msg

def size (queue : MessageQueue Handler Data) : Nat :=
  queue.msgq.length + queue.dmsgq.entries.length + queue.msgPeek.toList.length

end MessageQueue

/-- A call of `Get`, or of `Peek` when the message is kept; `none` for `kForever`. -/
structure GetCall where
  cmsWait : Option Int
  msStart : TimeStamp
  keep : Bool
  deriving DecidableEq, Repr

/-- How far the thread that owns the queue is in `Get`. -/
inductive Consumer
  | idle
  | receiving (call : GetCall) (msCurrent : TimeStamp)
  | testing (call : GetCall) (msCurrent : TimeStamp) (cmsDelayNext : Option Int)
  | waiting (call : GetCall) (msCurrent : TimeStamp) (cmsNext : Option Int)
  deriving DecidableEq, Repr

/-- The shorter of the delay wait and the asked wait. -/
def GetCall.cmsNext (call : GetCall) (msCurrent : TimeStamp) (cmsDelayNext : Option Int) :
    Option Int :=
  match call.cmsWait, cmsDelayNext with
  | none, _ => cmsDelayNext
  | some cmsTotal, none => some (max 0 (cmsTotal - timeDiff msCurrent call.msStart))
  | some cmsTotal, some cmsDelayNext =>
      some (min cmsDelayNext (max 0 (cmsTotal - timeDiff msCurrent call.msStart)))

def GetCall.expired (call : GetCall) (msCurrent : TimeStamp) : Bool :=
  match call.cmsWait with
  | none => false
  | some cmsWait => decide (cmsWait ≤ timeDiff msCurrent call.msStart)

/-- The messages that went in and came out, in the order in which they did. -/
structure History (Handler Data : Type) where
  accepted : List (Message Handler Data)
  delivered : List (Message Handler Data)
  disposed : List (Message Handler Data)
  cleared : List (Message Handler Data)
  deriving DecidableEq, Repr

/-- The queue, its owner, and the other threads that are inside one of its operations. -/
structure System (Handler Data : Type) where
  queue : MessageQueue Handler Data
  clock : Nat
  consumer : Consumer
  posting : List (Request Handler Data)
  /-- Calls of `Quit` that have set `fStop_` and have not woken the socket server yet. -/
  quitting : Nat
  history : History Handler Data

inductive Step (Handler Data : Type)
  | elapse (milliseconds : Nat)
  | post (phandler : Option Handler) (id : BitVec 32) (pdata : Option Data)
      (timeSensitive : Bool)
  | postDelayed (cmsDelay : Int) (phandler : Option Handler) (id : BitVec 32)
      (pdata : Option Data)
  | postAt (tstamp : TimeStamp) (phandler : Option Handler) (id : BitVec 32)
      (pdata : Option Data)
  | enqueue (position : Nat)
  | clear (phandler : Option Handler) (id : BitVec 32)
  | quit
  | wakeUp
  | restart
  | get (cmsWait : Option Int) (keep : Bool)
  | scan
  | testStop
  | wait (succeeded : Bool)
  deriving DecidableEq, Repr

namespace System

variable {Handler Data : Type}

def initial (clock : Nat) : System Handler Data :=
  { queue := MessageQueue.initial, clock := clock, consumer := .idle, posting := [],
    quitting := 0, history := ⟨[], [], [], []⟩ }

/-- The test of `fStop_` at the head of `Post` and of `DoDelayPost`. -/
def call (system : System Handler Data) (request : Request Handler Data) :
    System Handler Data :=
  if system.queue.fStop then system
  else { system with posting := system.posting ++ [request] }

/-- `Get` hands a message to its caller; `Peek` keeps it as well. -/
def handOut (system : System Handler Data) (getCall : GetCall)
    (message : Message Handler Data) : System Handler Data :=
  if getCall.keep then
    { system with
      queue := { system.queue with msgPeek := some message }
      consumer := .idle }
  else
    { system with
      consumer := .idle
      history := { system.history with delivered := system.history.delivered ++ [message] } }

/-- The peek is cleared. -/
def takePeek (system : System Handler Data) : System Handler Data :=
  { system with queue := { system.queue with msgPeek := none } }

/-- The head of `Get` and of `Peek`: a message that was peeked at is returned first. -/
def get (system : System Handler Data) (cmsWait : Option Int) (keep : Bool) :
    System Handler Data :=
  let getCall : GetCall := ⟨cmsWait, time system.clock, keep⟩
  match system.queue.msgPeek with
  | none => { system with consumer := .receiving getCall getCall.msStart }
  | some message => system.takePeek.handOut getCall message

/-- The queue is left as the pass leaves it. -/
def scanned (system : System Handler Data) (msCurrent : TimeStamp) : System Handler Data :=
  { system with
    queue := (system.queue.scan msCurrent).queue
    history :=
      { system.history with
        disposed := system.history.disposed ++ (system.queue.scan msCurrent).disposed } }

def scan (system : System Handler Data) (getCall : GetCall) (msCurrent : TimeStamp) :
    System Handler Data :=
  match (system.queue.scan msCurrent).found with
  | some message => (system.scanned msCurrent).handOut getCall message
  | none =>
      { system.scanned msCurrent with
        consumer := .testing getCall msCurrent (system.queue.scan msCurrent).cmsDelayNext }

/-- `Wait` takes the wake-up that is pending. -/
def woken (system : System Handler Data) : System Handler Data :=
  { system with queue := { system.queue with fSignaled := false } }

/-- `Wait` returns, woken up or for another reason, and the loop of `Get` goes on unless the
wait failed or the asked time is over. -/
def wait (system : System Handler Data) (getCall : GetCall) (succeeded : Bool) :
    System Handler Data :=
  if !succeeded || getCall.expired (time system.clock) then
    { system.woken with consumer := .idle }
  else { system.woken with consumer := .receiving getCall (time system.clock) }

/-- A request that passed the test of `fStop_` gets the lock. -/
def enqueue (system : System Handler Data) (position : Nat) (request : Request Handler Data) :
    System Handler Data :=
  { system with
    queue := system.queue.enqueue (time system.clock) request
    posting := system.posting.eraseIdx position
    history :=
      { system.history with
        accepted := system.history.accepted ++ [request.message (time system.clock)] } }

def clear [DecidableEq Handler] (system : System Handler Data) (phandler : Option Handler)
    (id : BitVec 32) : System Handler Data :=
  { system with
    queue := (system.queue.clear phandler id).1
    history :=
      { system.history with
        cleared := system.history.cleared ++ (system.queue.clear phandler id).2 } }

/-- `Quit` sets the flag and wakes the socket server after that. -/
def quit (system : System Handler Data) : System Handler Data :=
  { system with
    queue := { system.queue with fStop := true }
    quitting := system.quitting + 1 }

def restart (system : System Handler Data) : System Handler Data :=
  { system with queue := { system.queue with fStop := false } }

/-- One step of one thread. A step that its thread cannot make now has no successor. -/
def step [DecidableEq Handler] (system : System Handler Data) :
    Step Handler Data → Option (System Handler Data)
  | .elapse milliseconds => some { system with clock := system.clock + milliseconds }
  | .post phandler id pdata timeSensitive =>
      some (system.call (.post phandler id pdata timeSensitive))
  | .postDelayed cmsDelay phandler id pdata =>
      some (system.call (.postDelayed system.clock cmsDelay phandler id pdata))
  | .postAt tstamp phandler id pdata =>
      some (system.call (.postAt system.clock tstamp phandler id pdata))
  | .enqueue position =>
      match system.posting[position]? with
      | none => none
      | some request => some (system.enqueue position request)
  | .clear phandler id => some (system.clear phandler id)
  | .quit => some system.quit
  | .wakeUp =>
      match system.quitting with
      | 0 => none
      | quitting + 1 => some { system with queue := system.queue.wakeUp, quitting := quitting }
  | .restart => some system.restart
  | .get cmsWait keep =>
      match system.consumer with
      | .idle => some (system.get cmsWait keep)
      | _ => none
  | .scan =>
      match system.consumer with
      | .receiving getCall msCurrent => some (system.scan getCall msCurrent)
      | _ => none
  | .testStop =>
      match system.consumer with
      | .testing getCall msCurrent cmsDelayNext =>
          if system.queue.fStop then some { system with consumer := .idle }
          else
            some
              { system with
                consumer :=
                  .waiting getCall msCurrent (getCall.cmsNext msCurrent cmsDelayNext) }
      | _ => none
  | .wait succeeded =>
      match system.consumer with
      | .waiting getCall _ _ => some (system.wait getCall succeeded)
      | _ => none

/-- What a step can have been. -/
inductive Took [DecidableEq Handler] (system : System Handler Data) :
    System Handler Data → Prop
  | elapse (milliseconds : Nat) : Took system { system with clock := system.clock + milliseconds }
  | post (phandler : Option Handler) (id : BitVec 32) (pdata : Option Data)
      (timeSensitive : Bool) : Took system (system.call (.post phandler id pdata timeSensitive))
  | postDelayed (cmsDelay : Int) (phandler : Option Handler) (id : BitVec 32)
      (pdata : Option Data) :
      Took system (system.call (.postDelayed system.clock cmsDelay phandler id pdata))
  | postAt (tstamp : TimeStamp) (phandler : Option Handler) (id : BitVec 32)
      (pdata : Option Data) :
      Took system (system.call (.postAt system.clock tstamp phandler id pdata))
  | enqueue (position : Nat) (request : Request Handler Data)
      (inFlight : system.posting[position]? = some request) :
      Took system (system.enqueue position request)
  | clear (phandler : Option Handler) (id : BitVec 32) : Took system (system.clear phandler id)
  | quit : Took system system.quit
  | wakeUp (quitting : Nat) (calls : system.quitting = quitting + 1) :
      Took system { system with queue := system.queue.wakeUp, quitting := quitting }
  | restart : Took system system.restart
  | get (cmsWait : Option Int) (keep : Bool) (idle : system.consumer = .idle) :
      Took system (system.get cmsWait keep)
  | scan (getCall : GetCall) (msCurrent : TimeStamp)
      (receiving : system.consumer = .receiving getCall msCurrent) :
      Took system (system.scan getCall msCurrent)
  | stopped (getCall : GetCall) (msCurrent : TimeStamp) (cmsDelayNext : Option Int)
      (testing : system.consumer = .testing getCall msCurrent cmsDelayNext)
      (stop : system.queue.fStop = true) : Took system { system with consumer := .idle }
  | sleep (getCall : GetCall) (msCurrent : TimeStamp) (cmsDelayNext : Option Int)
      (testing : system.consumer = .testing getCall msCurrent cmsDelayNext)
      (running : system.queue.fStop = false) :
      Took system
        { system with
          consumer := .waiting getCall msCurrent (getCall.cmsNext msCurrent cmsDelayNext) }
  | wait (getCall : GetCall) (msCurrent : TimeStamp) (cmsNext : Option Int) (succeeded : Bool)
      (waiting : system.consumer = .waiting getCall msCurrent cmsNext) :
      Took system (system.wait getCall succeeded)

theorem took_of_step [DecidableEq Handler] {system next : System Handler Data}
    {label : Step Handler Data} (taken : system.step label = some next) :
    system.Took next := by
  cases label with
  | elapse milliseconds =>
      cases taken
      exact .elapse milliseconds
  | post phandler id pdata timeSensitive =>
      cases taken
      exact .post phandler id pdata timeSensitive
  | postDelayed cmsDelay phandler id pdata =>
      cases taken
      exact .postDelayed cmsDelay phandler id pdata
  | postAt tstamp phandler id pdata =>
      cases taken
      exact .postAt tstamp phandler id pdata
  | enqueue position =>
      simp only [step] at taken
      cases inFlight : system.posting[position]? with
      | none => simp [inFlight] at taken
      | some request =>
          simp only [inFlight, Option.some.injEq] at taken
          exact taken ▸ .enqueue position request inFlight
  | clear phandler id =>
      cases taken
      exact .clear phandler id
  | quit =>
      cases taken
      exact .quit
  | wakeUp =>
      simp only [step] at taken
      cases calls : system.quitting with
      | zero => simp [calls] at taken
      | succ quitting =>
          simp only [calls, Option.some.injEq] at taken
          exact taken ▸ .wakeUp quitting calls
  | restart =>
      cases taken
      exact .restart
  | get cmsWait keep =>
      simp only [step] at taken
      cases idle : system.consumer with
      | idle =>
          simp only [idle, Option.some.injEq] at taken
          exact taken ▸ .get cmsWait keep idle
      | receiving getCall msCurrent => simp [idle] at taken
      | testing getCall msCurrent cmsDelayNext => simp [idle] at taken
      | waiting getCall msCurrent cmsNext => simp [idle] at taken
  | scan =>
      simp only [step] at taken
      cases receiving : system.consumer with
      | idle => simp [receiving] at taken
      | receiving getCall msCurrent =>
          simp only [receiving, Option.some.injEq] at taken
          exact taken ▸ .scan getCall msCurrent receiving
      | testing getCall msCurrent cmsDelayNext => simp [receiving] at taken
      | waiting getCall msCurrent cmsNext => simp [receiving] at taken
  | testStop =>
      simp only [step] at taken
      cases testing : system.consumer with
      | idle => simp [testing] at taken
      | receiving getCall msCurrent => simp [testing] at taken
      | testing getCall msCurrent cmsDelayNext =>
          cases stop : system.queue.fStop with
          | true =>
              simp only [testing, stop, if_true, Option.some.injEq] at taken
              exact taken ▸ .stopped getCall msCurrent cmsDelayNext testing stop
          | false =>
              simp only [testing, stop, Bool.false_eq_true, if_false, Option.some.injEq] at taken
              exact taken ▸ .sleep getCall msCurrent cmsDelayNext testing stop
      | waiting getCall msCurrent cmsNext => simp [testing] at taken
  | wait succeeded =>
      simp only [step] at taken
      cases waiting : system.consumer with
      | idle => simp [waiting] at taken
      | receiving getCall msCurrent => simp [waiting] at taken
      | testing getCall msCurrent cmsDelayNext => simp [waiting] at taken
      | waiting getCall msCurrent cmsNext =>
          simp only [waiting, Option.some.injEq] at taken
          exact taken ▸ .wait getCall msCurrent cmsNext succeeded waiting

end System

end FiberApp.Messaging
