import FiberApp.Messaging.MessageQueueProperties

/-! When a message queue hands out what was posted for later, and when its owner may sleep.
The 32-bit triggers are compared with the time read on the circle, and with each other as
numbers. -/

set_option autoImplicit false

namespace FiberApp.Messaging

open FiberApp.Foundation

variable {Handler Data : Type}

/-- The trigger is the time the message is due, on the clock that wraps. -/
def DelayedMessage.Stamped (delayed : DelayedMessage Handler Data) : Prop :=
  delayed.msTrigger = BitVec.ofInt 32 delayed.due

def Request.Stamped : Request Handler Data → Prop
  | .post .. => True
  | .delayed cmsDelay tstamp _ _ _ posted => tstamp = BitVec.ofInt 32 (posted + cmsDelay)

theorem time_eq_ofInt (clock : Nat) : time clock = BitVec.ofInt 32 clock := by
  rw [time, BitVec.ofInt_natCast]

theorem stamped_postDelayed (clock : Nat) (cmsDelay : Int) (phandler : Option Handler)
    (id : BitVec 32) (pdata : Option Data) :
    (Request.postDelayed clock cmsDelay phandler id pdata).Stamped := by
  simp only [Request.postDelayed, Request.Stamped, timeAfter, time_eq_ofInt, BitVec.ofInt_add]

theorem stamped_postAt (clock : Nat) (tstamp : TimeStamp) (phandler : Option Handler)
    (id : BitVec 32) (pdata : Option Data) :
    (Request.postAt clock tstamp phandler id pdata).Stamped := by
  simp only [Request.postAt, Request.Stamped, timeUntil, timeDiff, BitVec.ofInt_add,
    BitVec.ofInt_toInt, ← time_eq_ofInt]
  bv_omega

theorem stamped_toNat {delayed : DelayedMessage Handler Data} (stamped : delayed.Stamped) :
    (delayed.msTrigger.toNat : Int) = delayed.due % 4294967296 := by
  rw [stamped, BitVec.toNat_ofInt]
  exact Int.toNat_of_nonneg (Int.emod_nonneg _ (by decide))

namespace MessageQueue

/-- Within half a circle of the time read, the comparison on the circle is the right one. -/
theorem triggered_iff {delayed : DelayedMessage Handler Data} (stamped : delayed.Stamped)
    {reading : Nat} (early : delayed.due - reading < 2147483648)
    (late : reading - delayed.due ≤ 2147483648) :
    triggered (time reading) delayed = true ↔ delayed.due ≤ reading := by
  have trigger := stamped_toNat stamped
  have read : (time reading).toNat = reading % 4294967296 := BitVec.toNat_ofNat reading 32
  have apart : (delayed.msTrigger - time reading).toNat =
      (4294967296 - (time reading).toNat + delayed.msTrigger.toNat) % 4294967296 :=
    BitVec.toNat_sub _ _
  rw [triggered, Bool.not_eq_true', ← Bool.not_eq_true, timeIsLater_iff]
  omega

theorem triggered_congr {first second : DelayedMessage Handler Data} (msCurrent : TimeStamp)
    (same : first.msTrigger = second.msTrigger) :
    triggered msCurrent first = triggered msCurrent second := by
  rw [triggered, triggered, same]

theorem triggered_of_key (msCurrent : TimeStamp) (first second : DelayedMessage Handler Data)
    (same : first.key = second.key) :
    triggered msCurrent first = triggered msCurrent second :=
  triggered_congr msCurrent (BitVec.eq_of_toNat_eq (Prod.ext_iff.mp (toLex.injective same)).1)

end MessageQueue

namespace System

/-- Every delayed message carries its trigger, and so does every call that waits for the
lock. -/
structure Stamped (system : System Handler Data) : Prop where
  queued : ∀ delayed ∈ system.queue.dmsgq.entries, delayed.Stamped
  called : ∀ request ∈ system.posting, request.Stamped

theorem Stamped.of_same {before after : System Handler Data} (stamped : before.Stamped)
    (queued : after.queue.dmsgq = before.queue.dmsgq)
    (called : after.posting = before.posting) : after.Stamped :=
  ⟨queued ▸ stamped.queued, called ▸ stamped.called⟩

theorem Stamped.call {system : System Handler Data} (stamped : system.Stamped)
    {request : Request Handler Data} (timed : request.Stamped) :
    (system.call request).Stamped := by
  unfold System.call
  split
  · exact stamped
  · refine ⟨stamped.queued, fun other member => ?_⟩
    rcases List.mem_append.mp member with earlier | new
    · exact stamped.called other earlier
    · exact List.mem_singleton.mp new ▸ timed

theorem Stamped.handOut {system : System Handler Data} (stamped : system.Stamped)
    (getCall : GetCall) (message : Message Handler Data) :
    (system.handOut getCall message).Stamped := by
  unfold System.handOut
  split <;> exact stamped.of_same rfl rfl

theorem Stamped.enqueue {system : System Handler Data} (stamped : system.Stamped)
    {position : Nat} {request : Request Handler Data}
    (inFlight : system.posting[position]? = some request) :
    (system.enqueue position request).Stamped := by
  have timed := stamped.called request (List.mem_of_getElem? inFlight)
  refine ⟨?_, fun other member => stamped.called other (List.mem_of_mem_eraseIdx member)⟩
  cases request with
  | post phandler id pdata timeSensitive => exact stamped.queued
  | delayed cmsDelay tstamp phandler id pdata posted =>
      intro delayed member
      rcases PriorityQueue.mem_push.mp member with rfl | earlier
      · exact timed
      · exact stamped.queued delayed earlier

theorem took_stamped [DecidableEq Handler] {system next : System Handler Data}
    (stamped : system.Stamped) (took : system.Took next) : next.Stamped := by
  cases took with
  | elapse milliseconds => exact stamped.of_same rfl rfl
  | post phandler id pdata timeSensitive => exact stamped.call trivial
  | postDelayed cmsDelay phandler id pdata => exact stamped.call (stamped_postDelayed ..)
  | postAt tstamp phandler id pdata => exact stamped.call (stamped_postAt ..)
  | enqueue position request inFlight => exact stamped.enqueue inFlight
  | clear phandler id =>
      exact ⟨fun delayed member => stamped.queued delayed (PriorityQueue.mem_keep.mp member).1,
        stamped.called⟩
  | quit => exact stamped.of_same rfl rfl
  | wakeUp quitting calls => exact stamped.of_same rfl rfl
  | restart => exact stamped.of_same rfl rfl
  | get cmsWait keep idle =>
      unfold System.get
      cases system.queue.msgPeek with
      | none => exact stamped.of_same rfl rfl
      | some message =>
          have taken : system.takePeek.Stamped := stamped.of_same rfl rfl
          exact taken.handOut _ message
  | scan getCall msCurrent receiving =>
      have scanned : (system.scanned msCurrent).Stamped :=
        ⟨fun delayed member => stamped.queued delayed (PriorityQueue.mem_of_mem_remaining member),
          stamped.called⟩
      unfold System.scan
      cases (system.queue.scan msCurrent).found with
      | none => exact scanned.of_same rfl rfl
      | some message => exact scanned.handOut getCall message
  | stopped getCall msCurrent cmsDelayNext testing stop => exact stamped.of_same rfl rfl
  | sleep getCall msCurrent cmsDelayNext testing running => exact stamped.of_same rfl rfl
  | wait getCall msCurrent cmsNext succeeded waiting =>
      obtain ⟨consumer, same⟩ := system.wait_eq getCall succeeded
      rw [same]
      exact stamped.of_same rfl rfl

theorem execute_stamped [DecidableEq Handler] (clock : Nat) {final : System Handler Data}
    {labels : List (Step Handler Data)}
    (executed : execute step (initial clock) labels = some final) : final.Stamped := by
  have start : (initial clock : System Handler Data).Stamped :=
    ⟨by simp [initial, MessageQueue.initial, PriorityQueue.empty], by simp [initial]⟩
  have always : Throughout step Stamped (initial clock) labels :=
    throughout_of_preserved Stamped (fun _ stamped => stamped)
      (fun _ _ _ stamped taken => took_stamped stamped (took_of_step taken)) start
  exact always.reached executed

/-- The delayed messages that a pass of `Get` leaves behind are those not due yet and, when the
clock wraps between the two, a due one with a later one whose trigger is the smaller number. -/
theorem delayed_left_behind_iff [DecidableEq Handler] (clock : Nat) {system : System Handler Data}
    {labels : List (Step Handler Data)}
    (reached : execute step (initial clock) labels = some system) (reading : Nat)
    (near : ∀ delayed ∈ system.queue.dmsgq.entries,
      delayed.due - reading < 2147483648 ∧ reading - delayed.due ≤ 2147483648)
    {delayed : DelayedMessage Handler Data} (queued : delayed ∈ system.queue.dmsgq.entries) :
    delayed ∈ (system.queue.scan (time reading)).queue.dmsgq.entries ↔
      reading < delayed.due ∨ ∃ other ∈ system.queue.dmsgq.entries,
        reading < other.due ∧ other.due % 4294967296 < delayed.due % 4294967296 := by
  have stamped := (execute_stamped clock reached).queued
  have notDue : ∀ other ∈ system.queue.dmsgq.entries,
      MessageQueue.triggered (time reading) other = false ↔ reading < other.due := by
    intro other member
    obtain ⟨early, late⟩ := near other member
    rw [← Bool.not_eq_true, MessageQueue.triggered_iff (stamped other member) early late, not_le]
  show delayed ∈ (system.queue.dmsgq.remaining (MessageQueue.triggered (time reading))).entries ↔ _
  rw [PriorityQueue.mem_remaining_iff (MessageQueue.triggered_of_key (time reading)),
    notDue delayed queued]
  simp only [queued, true_and]
  constructor
  · rintro (late | ⟨other, member, blocked, before⟩)
    · exact .inl late
    · have later := (notDue other member).mp blocked
      rcases Prod.Lex.toLex_lt_toLex.mp before with smaller | ⟨same, -⟩
      · refine .inr ⟨other, member, later, ?_⟩
        have mine := stamped_toNat (stamped delayed queued)
        have theirs := stamped_toNat (stamped other member)
        omega
      · have together := MessageQueue.triggered_congr (time reading) (BitVec.eq_of_toNat_eq same)
        exact .inl ((notDue delayed queued).mp (together ▸ blocked))
  · rintro (late | ⟨other, member, later, smaller⟩)
    · exact .inl late
    · refine .inr ⟨other, member, (notDue other member).mpr later,
        Prod.Lex.toLex_lt_toLex.mpr (.inl ?_)⟩
      have mine := stamped_toNat (stamped delayed queued)
      have theirs := stamped_toNat (stamped other member)
      omega

/-- A message due 50 milliseconds before the clock wraps, and one due 100 after. -/
def aroundTheWrap : List (Step Unit Unit) :=
  [.postDelayed 50 none 1 none, .enqueue 0, .postDelayed 200 none 2 none, .enqueue 0, .elapse 60]

theorem due_message_left_behind :
    ∃ (system : System Unit Unit) (delayed : DelayedMessage Unit Unit),
      execute step (initial 4294967196) aroundTheWrap = some system ∧
        delayed.due ≤ 4294967256 ∧
        delayed ∈ (system.queue.scan (time 4294967256)).queue.dmsgq.entries := by
  have ran : execute step (initial 4294967196) aroundTheWrap = some _ := rfl
  refine ⟨_, ⟨50, 4294967246, 0, ⟨none, 1, none, 0⟩, 4294967196⟩, ran, by decide, ?_⟩
  refine (delayed_left_behind_iff 4294967196 ran 4294967256 ?_ ?_).mpr (.inr ?_)
  · decide
  · decide
  · decide

/-- The delayed message is in the queue, or was cleared. -/
def HasSeen (system : System Handler Data) (delayed : DelayedMessage Handler Data) : Prop :=
  delayed ∈ system.queue.dmsgq.entries ∨ delayed.msg ∈ system.history.cleared

/-- For each pending message the wait ends no later than the trigger of a message, seen by
`Get` and not due then, whose trigger is no greater as a number. -/
def Covered (system : System Handler Data) (msCurrent : TimeStamp) (bound : Option Int) : Prop :=
  ∀ delayed ∈ system.queue.dmsgq.entries, ∃ first milliseconds,
    bound = some milliseconds ∧ system.HasSeen first ∧ first.msTrigger ≤ delayed.msTrigger ∧
      timeIsLater msCurrent first.msTrigger = true ∧
      milliseconds ≤ timeDiff first.msTrigger msCurrent

/-- Past its look at the queue, the owner has a wake-up pending or has missed nothing. -/
structure MissedNothing (system : System Handler Data) : Prop where
  testing : ∀ getCall msCurrent cmsDelayNext,
    system.consumer = .testing getCall msCurrent cmsDelayNext →
      system.queue.msgq = [] ∧ system.Covered msCurrent cmsDelayNext
  waiting : ∀ getCall msCurrent cmsNext,
    system.consumer = .waiting getCall msCurrent cmsNext →
      system.queue.msgq = [] ∧ (system.queue.fStop = true → 0 < system.quitting) ∧
        system.Covered msCurrent cmsNext

def Attentive (system : System Handler Data) : Prop :=
  system.queue.fSignaled = true ∨ system.MissedNothing

theorem missedNothing_of_idle {system : System Handler Data} (idle : system.consumer = .idle) :
    system.MissedNothing := by
  refine ⟨?_, ?_⟩
  · intro getCall msCurrent cmsDelayNext testing
    rw [idle] at testing
    cases testing
  · intro getCall msCurrent cmsNext waiting
    rw [idle] at waiting
    cases waiting

theorem missedNothing_of_receiving {system : System Handler Data} {getCall : GetCall}
    {msCurrent : TimeStamp} (receiving : system.consumer = .receiving getCall msCurrent) :
    system.MissedNothing := by
  refine ⟨?_, ?_⟩
  · intro getCall msCurrent cmsDelayNext testing
    rw [receiving] at testing
    cases testing
  · intro getCall msCurrent cmsNext waiting
    rw [receiving] at waiting
    cases waiting

/-- A step of another thread that adds no message and stops nothing. -/
theorem Attentive.of_fewer {before after : System Handler Data} (attentive : before.Attentive)
    (consumer : after.consumer = before.consumer)
    (signaled : before.queue.fSignaled = true → after.queue.fSignaled = true)
    (msgq : before.queue.msgq = [] → after.queue.msgq = [])
    (stops : (before.queue.fStop = true → 0 < before.quitting) →
      after.queue.fStop = true → 0 < after.quitting)
    (fewer : after.queue.dmsgq.entries ⊆ before.queue.dmsgq.entries)
    (seen : ∀ delayed, before.HasSeen delayed → after.HasSeen delayed) : after.Attentive := by
  rcases attentive with pending | ⟨testing, waiting⟩
  · exact .inl (signaled pending)
  · have covered : ∀ msCurrent bound, before.Covered msCurrent bound →
        after.Covered msCurrent bound := by
      intro msCurrent bound covered delayed member
      obtain ⟨first, milliseconds, same, known, below⟩ := covered delayed (fewer member)
      exact ⟨first, milliseconds, same, seen first known, below⟩
    refine .inr ⟨?_, ?_⟩
    · intro getCall msCurrent cmsDelayNext still
      obtain ⟨empty, bounded⟩ := testing getCall msCurrent cmsDelayNext (consumer ▸ still)
      exact ⟨msgq empty, covered _ _ bounded⟩
    · intro getCall msCurrent cmsNext still
      obtain ⟨empty, stopping, bounded⟩ := waiting getCall msCurrent cmsNext (consumer ▸ still)
      exact ⟨msgq empty, stops stopping, covered _ _ bounded⟩

theorem handOut_missedNothing (system : System Handler Data) (getCall : GetCall)
    (message : Message Handler Data) : (system.handOut getCall message).MissedNothing :=
  missedNothing_of_idle (handOut_books system getCall message).2.2

theorem scan_missedNothing (system : System Handler Data) (getCall : GetCall)
    (msCurrent : TimeStamp) : (system.scan getCall msCurrent).MissedNothing := by
  cases found : (system.queue.scan msCurrent).found with
  | some message =>
      rw [scan_of_some found]
      exact handOut_missedNothing _ getCall message
  | none =>
      rw [scan_of_none found]
      refine ⟨?_, ?_⟩
      · intro call current cmsDelayNext testing
        simp only [Consumer.testing.injEq] at testing
        obtain ⟨rfl, rfl, rfl⟩ := testing
        refine ⟨MessageQueue.scan_msgq_of_none found, fun delayed member => ?_⟩
        obtain ⟨first, atTop, notDue, before⟩ := PriorityQueue.top_remaining member
        refine ⟨first, timeDiff first.msTrigger msCurrent, ?_, ?_, ?_, ?_, le_rfl⟩
        · show ((system.queue.dmsgq.remaining (MessageQueue.triggered msCurrent)).top.map
            fun delayed => timeDiff delayed.msTrigger msCurrent) = _
          rw [atTop, Option.map_some]
        · exact .inl (List.mem_of_mem_head? (Option.mem_def.mpr atTop))
        · rcases Prod.Lex.toLex_le_toLex.mp before with smaller | ⟨same, -⟩
          · exact BitVec.le_def.mpr smaller.le
          · exact BitVec.le_def.mpr same.le
        · simpa [MessageQueue.triggered] using notDue
      · intro call current cmsNext waiting
        cases waiting

/-- The wait is no longer than the delay wait. -/
theorem cmsNext_le (getCall : GetCall) (msCurrent : TimeStamp) (milliseconds : Int) :
    ∃ shorter, getCall.cmsNext msCurrent (some milliseconds) = some shorter ∧
      shorter ≤ milliseconds := by
  unfold GetCall.cmsNext
  cases getCall.cmsWait with
  | none => exact ⟨milliseconds, rfl, le_rfl⟩
  | some cmsTotal => exact ⟨_, rfl, min_le_left _ _⟩

theorem sleep_missedNothing {system : System Handler Data} {getCall : GetCall}
    {msCurrent : TimeStamp} {cmsDelayNext : Option Int} (missedNothing : system.MissedNothing)
    (testing : system.consumer = .testing getCall msCurrent cmsDelayNext)
    (running : system.queue.fStop = false) :
    MissedNothing
      { system with
        consumer := .waiting getCall msCurrent (getCall.cmsNext msCurrent cmsDelayNext) } := by
  obtain ⟨empty, covered⟩ := missedNothing.testing getCall msCurrent cmsDelayNext testing
  refine ⟨?_, ?_⟩
  · intro call current delayNext isTesting
    cases isTesting
  · intro call current cmsNext waiting
    simp only [Consumer.waiting.injEq] at waiting
    obtain ⟨rfl, rfl, rfl⟩ := waiting
    refine ⟨empty, fun stop => ?_, fun delayed member => ?_⟩
    · rw [running] at stop
      cases stop
    · obtain ⟨first, milliseconds, rfl, known, below, later, within⟩ := covered delayed member
      obtain ⟨shorter, next, le⟩ := cmsNext_le getCall msCurrent milliseconds
      exact ⟨first, shorter, next, known, below, later, le.trans within⟩

theorem enqueue_attentive (system : System Handler Data) (position : Nat)
    (request : Request Handler Data) : (system.enqueue position request).Attentive := by
  refine .inl ?_
  cases request <;> rfl

theorem call_attentive {system : System Handler Data} (attentive : system.Attentive)
    (request : Request Handler Data) : (system.call request).Attentive := by
  unfold call
  split
  · exact attentive
  · exact attentive.of_fewer rfl id id id (fun _ member => member) (fun _ seen => seen)

theorem clear_hasSeen [DecidableEq Handler] (system : System Handler Data)
    (phandler : Option Handler) (id : BitVec 32) (delayed : DelayedMessage Handler Data)
    (seen : system.HasSeen delayed) : (system.clear phandler id).HasSeen delayed := by
  rcases seen with member | cleared
  · by_cases matched : delayed.msg.isMatch phandler id = true
    · refine .inr (List.mem_append_right _ (List.mem_append_right _ ?_))
      exact List.mem_filter.mpr ⟨List.mem_map_of_mem member, matched⟩
    · exact .inl (PriorityQueue.mem_keep.mpr ⟨member, by simpa using matched⟩)
  · exact .inr (List.mem_append_left _ cleared)

theorem took_attentive [DecidableEq Handler] {system next : System Handler Data}
    (attentive : system.Attentive) (took : system.Took next) : next.Attentive := by
  cases took with
  | elapse milliseconds =>
      exact attentive.of_fewer rfl id id id (fun _ member => member) (fun _ seen => seen)
  | post phandler id pdata timeSensitive => exact call_attentive attentive _
  | postDelayed cmsDelay phandler id pdata => exact call_attentive attentive _
  | postAt tstamp phandler id pdata => exact call_attentive attentive _
  | enqueue position request inFlight => exact system.enqueue_attentive position request
  | clear phandler id =>
      refine attentive.of_fewer rfl (fun pending => pending) ?_ (fun stopping => stopping) ?_
        (system.clear_hasSeen phandler id)
      · intro empty
        simp [clear, MessageQueue.clear, empty]
      · intro delayed member
        exact (PriorityQueue.mem_keep.mp member).1
  | quit =>
      exact attentive.of_fewer rfl id id (fun _ _ => Nat.succ_pos _) (fun _ member => member)
        (fun _ seen => seen)
  | wakeUp quitting calls => exact .inl rfl
  | restart =>
      refine attentive.of_fewer rfl id id ?_ (fun _ member => member) (fun _ seen => seen)
      intro _ stop
      cases stop
  | get cmsWait keep idle =>
      unfold get
      cases system.queue.msgPeek with
      | none => exact .inr (missedNothing_of_receiving rfl)
      | some message => exact .inr (handOut_missedNothing _ _ message)
  | scan getCall msCurrent receiving => exact .inr (system.scan_missedNothing getCall msCurrent)
  | stopped getCall msCurrent cmsDelayNext testing stop => exact .inr (missedNothing_of_idle rfl)
  | sleep getCall msCurrent cmsDelayNext testing running =>
      rcases attentive with pending | missedNothing
      · exact .inl pending
      · exact .inr (sleep_missedNothing missedNothing testing running)
  | wait getCall msCurrent cmsNext succeeded waiting =>
      unfold wait
      split
      · exact .inr (missedNothing_of_idle rfl)
      · exact .inr (missedNothing_of_receiving rfl)

/-- A trigger that is later on the circle and no greater as a number lies behind the time
the message is due only if the clock wraps between them. -/
theorem trigger_smaller {delayed first : DelayedMessage Handler Data}
    (stamped : delayed.Stamped) {reading : Nat} (late : reading - delayed.due ≤ 2147483648)
    (below : first.msTrigger ≤ delayed.msTrigger)
    (later : timeIsLater (time reading) first.msTrigger = true)
    (behind : delayed.due < reading + timeDiff first.msTrigger (time reading)) :
    first.msTrigger < delayed.msTrigger := by
  have trigger := stamped_toNat stamped
  have read : (time reading).toNat = reading % 4294967296 := BitVec.toNat_ofNat reading 32
  have apart : (first.msTrigger - time reading).toNat =
      (4294967296 - (time reading).toNat + first.msTrigger.toNat) % 4294967296 :=
    BitVec.toNat_sub _ _
  have bound := first.msTrigger.isLt
  obtain ⟨-, near⟩ := (timeIsLater_iff _ _).mp later
  rw [timeDiff, BitVec.toInt_eq_toNat_of_lt (by omega)] at behind
  rw [BitVec.le_def] at below
  rw [BitVec.lt_def]
  omega

/-- The owner looks at a queue with one delayed message and goes to sleep. -/
def sleepsUntilDue : List (Step Unit Unit) :=
  [.postDelayed 50 none 1 none, .enqueue 0, .get (some 80) false, .scan, .testStop, .wait true,
    .scan, .testStop]

/-- The owner looks at a message due 16 milliseconds before the clock wraps and at one due
256 after, and sleeps until the second. -/
example : (execute step (initial 4294967040 : System Unit Unit)
    [.postDelayed 240 none 1 none, .enqueue 0, .postDelayed 512 none 2 none, .enqueue 0,
      .get none false, .scan, .testStop, .wait true, .scan, .testStop]).map
      (fun system => (system.consumer, system.queue.fSignaled)) =
    some (.waiting ⟨none, 4294967040, false⟩ 4294967040 (some 512), false) := by
  decide +kernel

/-- What holds from a stop on, for as long as it is not taken back. -/
structure Stopped (accepted : List (Message Handler Data)) (system : System Handler Data) :
    Prop where
  noCaller : system.posting = []
  accepted : system.history.accepted = accepted
  awake : ∀ getCall msCurrent cmsNext, system.consumer ≠ .waiting getCall msCurrent cmsNext
  drained : ∀ getCall msCurrent cmsDelayNext,
    system.consumer = .testing getCall msCurrent cmsDelayNext → system.queue.msgq = []

theorem Stopped.of_missedNothing {accepted : List (Message Handler Data)}
    {before after : System Handler Data} (stopped : before.Stopped accepted)
    (posting : after.posting = before.posting)
    (history : after.history.accepted = before.history.accepted)
    (awake : ∀ getCall msCurrent cmsNext, after.consumer ≠ .waiting getCall msCurrent cmsNext)
    (missedNothing : after.MissedNothing) : after.Stopped accepted where
  noCaller := posting ▸ stopped.noCaller
  accepted := history ▸ stopped.accepted
  awake := awake
  drained := fun getCall msCurrent cmsDelayNext testing =>
    (missedNothing.testing getCall msCurrent cmsDelayNext testing).1

theorem Stopped.of_same {accepted : List (Message Handler Data)}
    {before after : System Handler Data} (stopped : before.Stopped accepted)
    (posting : after.posting = before.posting)
    (history : after.history.accepted = before.history.accepted)
    (consumer : after.consumer = before.consumer)
    (msgq : before.queue.msgq = [] → after.queue.msgq = []) : after.Stopped accepted where
  noCaller := posting ▸ stopped.noCaller
  accepted := history ▸ stopped.accepted
  awake := consumer ▸ stopped.awake
  drained := fun getCall msCurrent cmsDelayNext testing =>
    msgq (stopped.drained getCall msCurrent cmsDelayNext (consumer ▸ testing))

theorem handOut_posting (system : System Handler Data) (getCall : GetCall)
    (message : Message Handler Data) :
    (system.handOut getCall message).posting = system.posting := by
  unfold handOut
  split <;> rfl

theorem call_of_stop {system : System Handler Data} (stop : system.queue.fStop = true)
    (request : Request Handler Data) : system.call request = system := by
  simp [call, stop]

theorem took_stopped [DecidableEq Handler] {accepted : List (Message Handler Data)}
    {system next : System Handler Data} (stop : system.queue.fStop = true)
    (stopped : system.Stopped accepted) (took : system.Took next)
    (stillStop : next.queue.fStop = true) : next.Stopped accepted := by
  cases took with
  | elapse milliseconds => exact stopped.of_same rfl rfl rfl id
  | post phandler id pdata timeSensitive => rwa [call_of_stop stop]
  | postDelayed cmsDelay phandler id pdata => rwa [call_of_stop stop]
  | postAt tstamp phandler id pdata => rwa [call_of_stop stop]
  | enqueue position request inFlight =>
      rw [stopped.noCaller] at inFlight
      cases inFlight
  | clear phandler id =>
      refine stopped.of_same rfl rfl rfl fun empty => ?_
      simp [clear, MessageQueue.clear, empty]
  | quit => exact stopped.of_same rfl rfl rfl id
  | wakeUp quitting calls => exact stopped.of_same rfl rfl rfl id
  | restart => cases stillStop
  | get cmsWait keep idle =>
      unfold get
      cases system.queue.msgPeek with
      | none =>
          exact stopped.of_missedNothing rfl rfl (fun _ _ _ => Consumer.noConfusion)
            (missedNothing_of_receiving rfl)
      | some message =>
          obtain ⟨history, -, isIdle⟩ := handOut_books system.takePeek
            ⟨cmsWait, time system.clock, keep⟩ message
          exact stopped.of_missedNothing (handOut_posting ..) history (by simp [isIdle])
            (handOut_missedNothing _ _ message)
  | scan getCall msCurrent receiving =>
      have missedNothing := system.scan_missedNothing getCall msCurrent
      cases found : (system.queue.scan msCurrent).found with
      | none =>
          rw [scan_of_none found] at missedNothing ⊢
          exact stopped.of_missedNothing rfl rfl (fun _ _ _ => Consumer.noConfusion) missedNothing
      | some message =>
          rw [scan_of_some found] at missedNothing ⊢
          obtain ⟨history, -, isIdle⟩ := handOut_books (system.scanned msCurrent) getCall message
          exact stopped.of_missedNothing (handOut_posting ..) history (by simp [isIdle])
            missedNothing
  | stopped getCall msCurrent cmsDelayNext testing stop =>
      exact stopped.of_missedNothing rfl rfl (fun _ _ _ => Consumer.noConfusion)
        (missedNothing_of_idle rfl)
  | sleep getCall msCurrent cmsDelayNext testing running =>
      rw [stop] at running
      cases running
  | wait getCall msCurrent cmsNext succeeded waiting =>
      exact absurd waiting (stopped.awake getCall msCurrent cmsNext)

/-- Once the queue is stopped and no call is between its test of the flag and the lock, no
message is accepted, the owner does not sleep, and a pass that finds nothing to hand out
leaves nothing that is ready. -/
theorem stopped_queue_drains [DecidableEq Handler] {start final : System Handler Data}
    {labels : List (Step Handler Data)} (atRest : start.consumer = .idle)
    (noCaller : start.posting = [])
    (stops : Throughout step (fun system => system.queue.fStop = true) start labels)
    (executed : execute step start labels = some final) :
    final.history.accepted = start.history.accepted ∧
      (∀ getCall msCurrent cmsNext, final.consumer ≠ .waiting getCall msCurrent cmsNext) ∧
      ∀ getCall msCurrent cmsDelayNext,
        final.consumer = .testing getCall msCurrent cmsDelayNext → final.queue.msgq = [] := by
  have initially : start.Stopped start.history.accepted :=
    { noCaller := noCaller
      accepted := rfl
      awake := by simp [atRest]
      drained := by simp [atRest] }
  suffices stopped : final.Stopped start.history.accepted from
    ⟨stopped.accepted, stopped.awake, stopped.drained⟩
  generalize start.history.accepted = accepted at initially
  clear atRest noCaller
  induction labels generalizing start with
  | nil =>
      cases executed
      exact initially
  | cons label rest ih =>
      obtain ⟨next, taken, finished⟩ := execute_cons_eq_some.mp executed
      have continues := stops.2 next taken
      exact ih continues finished
        (took_stopped stops.1 initially (took_of_step taken) continues.start)

def postThenQuit : List (Step Unit Unit) := [.post none 1 none false, .enqueue 0, .quit]

def getTwice : List (Step Unit Unit) := [.get none false, .scan, .get none false, .scan]

theorem stopped_queue_drains_once :
    ∃ start final : System Unit Unit,
      execute step (initial 0) postThenQuit = some start ∧
        execute step start getTwice = some final ∧ final.queue.msgq = [] := by
  have ran : execute step (initial 0) (postThenQuit ++ getTwice) = some _ := rfl
  obtain ⟨start, stopped, drained⟩ := execute_append.mp ran
  refine ⟨start, _, stopped, drained, ?_⟩
  cases stopped
  refine (stopped_queue_drains rfl rfl ?_ drained).2.2 ⟨none, 0, false⟩ 0 none rfl
  iterate 4
    refine ⟨rfl, fun next taken => ?_⟩
    cases taken
  exact rfl

end System

end FiberApp.Messaging
