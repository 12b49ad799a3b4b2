import Mathlib.Data.List.Nodup
import Mathlib.Data.List.Perm.Lattice
import FiberApp.Messaging.ThreadSend

/-! Every sent message is handled or cleared once, and its `Send` returns after that. -/

set_option autoImplicit false

namespace FiberApp.Messaging

variable {ThreadId Handler Data : Type}

def Frame.handles : Frame ThreadId Handler Data → Option Nat
  | .handle smsg => some smsg.ready
  | _ => none

/-- The flags of the messages that a thread has been sent and has not finished with. -/
def ThreadState.held (state : ThreadState ThreadId Handler Data) : List Nat :=
  state.sendlist.map SendMessage.ready ++ state.stack.filterMap Frame.handles

mutual

/-- The stacks of a thread that runs a handler. -/
inductive Runs : List (Frame ThreadId Handler Data) → Prop
  | dispatch : Runs [.dispatch, .get]
  | handle (smsg : SendMessage ThreadId Handler Data)
      {caller : List (Frame ThreadId Handler Data)} (waits : Waits caller) :
      Runs (.handle smsg :: caller)

/-- The stacks of a thread that has called `ReceiveSends` and is going to wait. -/
inductive Waits : List (Frame ThreadId Handler Data) → Prop
  | scan : Waits [.scan]
  | nap (ready : Nat) {caller : List (Frame ThreadId Handler Data)} (runs : Runs caller) :
      Waits (.nap ready :: caller)

end

/-- The stacks a thread can have. -/
inductive Formed : List (Frame ThreadId Handler Data) → Prop
  | done : Formed []
  | get : Formed [.get]
  | asleep : Formed [.asleep]
  | runs {stack : List (Frame ThreadId Handler Data)} (runs : Runs stack) : Formed stack
  | waits {stack : List (Frame ThreadId Handler Data)} (waits : Waits stack) : Formed stack
  | receive {caller : List (Frame ThreadId Handler Data)} (waits : Waits caller) :
      Formed (.receive :: caller)
  | wake (smsg : SendMessage ThreadId Handler Data)
      {caller : List (Frame ThreadId Handler Data)} (waits : Waits caller) :
      Formed (.wake smsg :: caller)
  | call (target : ThreadId) (msg : Message Handler Data)
      {caller : List (Frame ThreadId Handler Data)} (runs : Runs caller) :
      Formed (.call target msg :: caller)
  | posted (target : ThreadId) (ready : Nat) {caller : List (Frame ThreadId Handler Data)}
      (runs : Runs caller) : Formed (.posted target ready :: caller)
  | await (ready : Nat) (waited : Bool) {caller : List (Frame ThreadId Handler Data)}
      (runs : Runs caller) : Formed (.await ready waited :: caller)

theorem formed_get {caller : List (Frame ThreadId Handler Data)}
    (formed : Formed (.get :: caller)) : caller = [] := by
  cases formed with
  | get => rfl
  | runs runs => cases runs
  | waits waits => cases waits

theorem formed_scan {caller : List (Frame ThreadId Handler Data)}
    (formed : Formed (.scan :: caller)) : caller = [] := by
  cases formed with
  | runs runs => cases runs
  | waits waits =>
      cases waits
      rfl

theorem formed_asleep {caller : List (Frame ThreadId Handler Data)}
    (formed : Formed (.asleep :: caller)) : caller = [] := by
  cases formed with
  | asleep => rfl
  | runs runs => cases runs
  | waits waits => cases waits

theorem formed_dispatch {caller : List (Frame ThreadId Handler Data)}
    (formed : Formed (.dispatch :: caller)) : caller = [.get] := by
  cases formed with
  | runs runs =>
      cases runs
      rfl
  | waits waits => cases waits

theorem formed_handle {smsg : SendMessage ThreadId Handler Data}
    {caller : List (Frame ThreadId Handler Data)} (formed : Formed (.handle smsg :: caller)) :
    Waits caller := by
  cases formed with
  | runs runs =>
      cases runs with
      | handle _ waits => exact waits
  | waits waits => cases waits

theorem formed_nap {ready : Nat} {caller : List (Frame ThreadId Handler Data)}
    (formed : Formed (.nap ready :: caller)) : Runs caller := by
  cases formed with
  | runs runs => cases runs
  | waits waits =>
      cases waits with
      | nap _ runs => exact runs

theorem formed_await {ready : Nat} {waited : Bool}
    {caller : List (Frame ThreadId Handler Data)}
    (formed : Formed (.await ready waited :: caller)) : Runs caller := by
  cases formed with
  | runs runs => cases runs
  | waits waits => cases waits
  | await _ _ runs => exact runs

theorem formed_receive {caller : List (Frame ThreadId Handler Data)}
    (formed : Formed (.receive :: caller)) : Waits caller := by
  cases formed with
  | runs runs => cases runs
  | waits waits => cases waits
  | receive waits => exact waits

theorem formed_wake {smsg : SendMessage ThreadId Handler Data}
    {caller : List (Frame ThreadId Handler Data)} (formed : Formed (.wake smsg :: caller)) :
    Waits caller := by
  cases formed with
  | runs runs => cases runs
  | waits waits => cases waits
  | wake _ waits => exact waits

theorem formed_call {target : ThreadId} {msg : Message Handler Data}
    {caller : List (Frame ThreadId Handler Data)}
    (formed : Formed (.call target msg :: caller)) : Runs caller := by
  cases formed with
  | runs runs => cases runs
  | waits waits => cases waits
  | call _ _ runs => exact runs

theorem formed_posted {target : ThreadId} {ready : Nat}
    {caller : List (Frame ThreadId Handler Data)}
    (formed : Formed (.posted target ready :: caller)) : Runs caller := by
  cases formed with
  | runs runs => cases runs
  | waits waits => cases waits
  | posted _ _ runs => exact runs

theorem runs_of_runsHandler {stack : List (Frame ThreadId Handler Data)} (formed : Formed stack)
    (calls : Threads.runsHandler stack = true) : Runs stack := by
  cases formed with
  | runs runs => exact runs
  | waits waits => cases waits <;> cases calls
  | done => cases calls
  | get => cases calls
  | asleep => cases calls
  | receive waits => cases calls
  | wake smsg waits => cases calls
  | call target msg runs => cases calls
  | posted target ready runs => cases calls
  | await ready waited runs => cases calls

theorem formed_receiveSends {state : ThreadState ThreadId Handler Data}
    {caller : List (Frame ThreadId Handler Data)} (waits : Waits caller) :
    Formed (state.receiveSends caller).stack := by
  unfold ThreadState.receiveSends ThreadState.setStack
  split
  · exact .receive waits
  · exact .waits waits

theorem formed_lock {state : ThreadState ThreadId Handler Data}
    {caller : List (Frame ThreadId Handler Data)} (waits : Waits caller) :
    Formed (state.lock caller).stack := by
  unfold ThreadState.lock
  cases state.sendlist with
  | nil => exact .waits waits
  | cons smsg rest => exact .runs (.handle smsg waits)

namespace Threads

/-- Every flag given out is set, or belongs to a message that one thread holds once. -/
structure Accounted (threads : Threads ThreadId Handler Data) : Prop where
  heldOnce : ∀ thread, (threads.thread thread).held.Nodup
  heldByOne : ∀ first second, first ≠ second →
    List.Disjoint (threads.thread first).held (threads.thread second).held
  heldUnset : ∀ thread, List.Disjoint (threads.thread thread).held threads.ready
  setOnce : threads.ready.Nodup
  all : ∀ ready, ready < threads.nextReady ↔
    ready ∈ threads.ready ∨ ∃ thread, ready ∈ (threads.thread thread).held
  returnedSet : threads.returned ⊆ threads.ready

variable [DecidableEq ThreadId]

theorem set_thread (threads : Threads ThreadId Handler Data) (thread other : ThreadId)
    (state : ThreadState ThreadId Handler Data) :
    (threads.set thread state).thread other =
      if other = thread then state else threads.thread other :=
  Function.update_apply _ _ _ _

theorem set_thread_self (threads : Threads ThreadId Handler Data) (thread : ThreadId)
    (state : ThreadState ThreadId Handler Data) :
    (threads.set thread state).thread thread = state :=
  Function.update_self _ _ _

theorem set_thread_of_ne (threads : Threads ThreadId Handler Data) {thread other : ThreadId}
    (different : other ≠ thread) (state : ThreadState ThreadId Handler Data) :
    (threads.set thread state).thread other = threads.thread other :=
  Function.update_of_ne different _ _

theorem wake_thread (threads : Threads ThreadId Handler Data) (woken : List ThreadId)
    (thread : ThreadId) :
    (threads.wake woken).thread thread =
      if thread ∈ woken then (threads.thread thread).wakeUp else threads.thread thread := rfl

theorem wake_sendlist (threads : Threads ThreadId Handler Data) (woken : List ThreadId)
    (thread : ThreadId) :
    ((threads.wake woken).thread thread).sendlist = (threads.thread thread).sendlist := by
  rw [wake_thread]
  split <;> rfl

theorem wake_stack (threads : Threads ThreadId Handler Data) (woken : List ThreadId)
    (thread : ThreadId) :
    ((threads.wake woken).thread thread).stack = (threads.thread thread).stack := by
  rw [wake_thread]
  split <;> rfl

theorem wake_held (threads : Threads ThreadId Handler Data) (woken : List ThreadId)
    (thread : ThreadId) :
    ((threads.wake woken).thread thread).held = (threads.thread thread).held := by
  rw [ThreadState.held, ThreadState.held, wake_sendlist, wake_stack]

/-- One thread finishes with the messages whose flags are set. -/
theorem Accounted.of_finished {before after : Threads ThreadId Handler Data}
    (accounted : before.Accounted) (thread : ThreadId) (gone : List Nat)
    (mine : (gone ++ (after.thread thread).held).Perm (before.thread thread).held)
    (others : ∀ other, other ≠ thread →
      (after.thread other).held = (before.thread other).held)
    (ready : after.ready.Perm (before.ready ++ gone))
    (nextReady : after.nextReady = before.nextReady)
    (returned : after.returned ⊆ before.ready) : after.Accounted := by
  have subset : ∀ other, (after.thread other).held ⊆ (before.thread other).held := by
    intro other flag member
    by_cases same : other = thread
    · subst same
      exact mine.mem_iff.mp (List.mem_append_right _ member)
    · exact others other same ▸ member
  have parts := List.nodup_append'.mp (mine.nodup_iff.mpr (accounted.heldOnce thread))
  have goneUnset : List.Disjoint before.ready gone := fun flag isSet isGone =>
    accounted.heldUnset thread (mine.mem_iff.mp (List.mem_append_left _ isGone)) isSet
  refine ⟨?_, ?_, ?_, ?_, ?_, ?_⟩
  · intro other
    by_cases same : other = thread
    · subst same
      exact parts.2.1
    · exact others other same ▸ accounted.heldOnce other
  · intro first second different flag atFirst atSecond
    exact accounted.heldByOne first second different (subset first atFirst)
      (subset second atSecond)
  · intro other flag isHeld isSet
    rcases List.mem_append.mp (ready.mem_iff.mp isSet) with earlier | now
    · exact accounted.heldUnset other (subset other isHeld) earlier
    · by_cases same : other = thread
      · subst same
        exact parts.2.2 now isHeld
      · exact accounted.heldByOne other thread same (subset other isHeld)
          (mine.mem_iff.mp (List.mem_append_left _ now))
  · exact ready.nodup_iff.mpr
      (List.nodup_append'.mpr ⟨accounted.setOnce, parts.1, goneUnset⟩)
  · intro flag
    rw [nextReady, accounted.all flag, ready.mem_iff, List.mem_append]
    constructor
    · rintro (isSet | ⟨other, isHeld⟩)
      · exact .inl (.inl isSet)
      · by_cases same : other = thread
        · subst same
          rcases List.mem_append.mp (mine.mem_iff.mpr isHeld) with now | still
          · exact .inl (.inr now)
          · exact .inr ⟨other, still⟩
        · exact .inr ⟨other, (others other same).symm ▸ isHeld⟩
    · rintro ((isSet | now) | ⟨other, still⟩)
      · exact .inl isSet
      · exact .inr ⟨thread, mine.mem_iff.mp (List.mem_append_left _ now)⟩
      · exact .inr ⟨other, subset other still⟩
  · intro flag member
    exact ready.mem_iff.mpr (List.mem_append_left _ (returned member))

omit [DecidableEq ThreadId] in
/-- No message changes hands. -/
theorem Accounted.of_same {before after : Threads ThreadId Handler Data}
    (accounted : before.Accounted)
    (held : ∀ thread, (after.thread thread).held.Perm (before.thread thread).held)
    (ready : after.ready = before.ready) (nextReady : after.nextReady = before.nextReady)
    (returned : after.returned ⊆ before.ready) : after.Accounted := by
  refine ⟨?_, ?_, ?_, ready ▸ accounted.setOnce, ?_, ready ▸ returned⟩
  · intro thread
    exact (held thread).nodup_iff.mpr (accounted.heldOnce thread)
  · intro first second different flag atFirst atSecond
    exact accounted.heldByOne first second different ((held first).mem_iff.mp atFirst)
      ((held second).mem_iff.mp atSecond)
  · intro thread flag isHeld isSet
    exact accounted.heldUnset thread ((held thread).mem_iff.mp isHeld) (ready ▸ isSet)
  · intro flag
    rw [nextReady, ready, accounted.all flag]
    simp only [(held _).mem_iff]

/-- A thread is sent a message with a new flag. -/
theorem Accounted.of_new {before after : Threads ThreadId Handler Data}
    (accounted : before.Accounted) (thread : ThreadId)
    (mine : (after.thread thread).held.Perm (before.nextReady :: (before.thread thread).held))
    (others : ∀ other, other ≠ thread →
      (after.thread other).held = (before.thread other).held)
    (ready : after.ready = before.ready) (nextReady : after.nextReady = before.nextReady + 1)
    (returned : after.returned = before.returned) : after.Accounted := by
  have unused : ∀ other, before.nextReady ∉ (before.thread other).held := fun other isHeld =>
    absurd ((accounted.all _).mpr (.inr ⟨other, isHeld⟩)) (lt_irrefl _)
  have notSet : before.nextReady ∉ before.ready := fun isSet =>
    absurd ((accounted.all _).mpr (.inl isSet)) (lt_irrefl _)
  have cases_held : ∀ other flag, flag ∈ (after.thread other).held →
      (other = thread ∧ flag = before.nextReady) ∨ flag ∈ (before.thread other).held := by
    intro other flag member
    by_cases same : other = thread
    · subst same
      rcases List.mem_cons.mp (mine.mem_iff.mp member) with new | earlier
      · exact .inl ⟨rfl, new⟩
      · exact .inr earlier
    · exact .inr (others other same ▸ member)
  refine ⟨?_, ?_, ?_, ready ▸ accounted.setOnce, ?_, ?_⟩
  · intro other
    by_cases same : other = thread
    · subst same
      exact mine.nodup_iff.mpr (List.nodup_cons.mpr ⟨unused other, accounted.heldOnce other⟩)
    · exact others other same ▸ accounted.heldOnce other
  · intro first second different flag atFirst atSecond
    rcases cases_held first flag atFirst with ⟨rfl, rfl⟩ | earlier
    · rcases cases_held second _ atSecond with ⟨rfl, -⟩ | held
      · exact different rfl
      · exact unused second held
    · rcases cases_held second flag atSecond with ⟨rfl, rfl⟩ | held
      · exact unused first earlier
      · exact accounted.heldByOne first second different earlier held
  · intro other flag isHeld isSet
    rw [ready] at isSet
    rcases cases_held other flag isHeld with ⟨-, rfl⟩ | earlier
    · exact notSet isSet
    · exact accounted.heldUnset other earlier isSet
  · intro flag
    rw [nextReady, ready, Nat.lt_succ_iff_lt_or_eq, accounted.all flag]
    constructor
    · rintro ((isSet | ⟨other, isHeld⟩) | rfl)
      · exact .inl isSet
      · by_cases same : other = thread
        · subst same
          exact .inr ⟨other, mine.mem_iff.mpr (List.mem_cons_of_mem _ isHeld)⟩
        · exact .inr ⟨other, (others other same).symm ▸ isHeld⟩
      · exact .inr ⟨thread, mine.mem_iff.mpr List.mem_cons_self⟩
    · rintro (isSet | ⟨other, isHeld⟩)
      · exact .inl (.inl isSet)
      · rcases cases_held other flag isHeld with ⟨-, rfl⟩ | earlier
        · exact .inr rfl
        · exact .inl (.inr ⟨other, earlier⟩)
  · rw [ready, returned]
    exact accounted.returnedSet

/-- Every thread has a stack it can have. -/
def AllFormed (threads : Threads ThreadId Handler Data) : Prop :=
  ∀ thread, Formed (threads.thread thread).stack

omit [DecidableEq ThreadId] in
theorem AllFormed.top {threads : Threads ThreadId Handler Data} (formed : threads.AllFormed)
    {thread : ThreadId} {stack : List (Frame ThreadId Handler Data)}
    (top : (threads.thread thread).stack = stack) : Formed stack :=
  top ▸ formed thread

theorem AllFormed.set {threads : Threads ThreadId Handler Data} (formed : threads.AllFormed)
    (thread : ThreadId) {state : ThreadState ThreadId Handler Data}
    (mine : Formed state.stack) : (threads.set thread state).AllFormed := by
  intro other
  rw [set_thread]
  split
  · exact mine
  · exact formed other

theorem AllFormed.wake {threads : Threads ThreadId Handler Data} (formed : threads.AllFormed)
    (woken : List ThreadId) : (threads.wake woken).AllFormed := by
  intro other
  rw [wake_stack]
  exact formed other

theorem took_formed [DecidableEq Handler] {threads after : Threads ThreadId Handler Data}
    (formed : threads.AllFormed) (took : threads.Took after) : after.AllFormed := by
  cases took with
  | receiveSends thread caller top =>
      obtain rfl := formed_get (formed.top top)
      exact formed.set thread (formed_receiveSends .scan)
  | dispatch thread caller top =>
      obtain rfl := formed_scan (formed.top top)
      exact formed.set thread (.runs .dispatch)
  | sleep thread caller top running =>
      obtain rfl := formed_scan (formed.top top)
      exact formed.set thread .asleep
  | stop thread caller top stopped => exact formed.set thread .done
  | wait thread caller top =>
      obtain rfl := formed_asleep (formed.top top)
      exact formed.set thread .get
  | waitFailed thread caller top => exact formed.set thread .done
  | waitInSend thread ready caller top =>
      exact formed.set thread (.await ready true (formed_nap (formed.top top)))
  | send thread target msg caller top calls other =>
      unfold send
      split
      · exact formed
      · exact formed.set thread
          (.call target msg (runs_of_runsHandler (formed.top top) calls))
  | push thread target msg caller top =>
      have queued : (threads.set target
          ((threads.thread target).push ⟨thread, msg, threads.nextReady⟩)).AllFormed :=
        formed.set target (formed target)
      exact queued.set thread (.posted target _ (formed_call (formed.top top)))
  | wakeTarget thread target ready caller top =>
      exact (formed.set thread (.await ready false (formed_posted (formed.top top)))).wake _
  | notReady thread ready waited caller top unset =>
      exact formed.set thread (formed_receiveSends (.nap ready (formed_await (formed.top top))))
  | leave thread ready waited caller top isSet =>
      exact (formed.set thread (.runs (formed_await (formed.top top)))).wake _
  | lock thread caller top =>
      exact formed.set thread (formed_lock (formed_receive (formed.top top)))
  | finish thread caller top =>
      obtain rfl := formed_dispatch (formed.top top)
      exact formed.set thread .get
  | handle thread smsg caller top =>
      exact formed.set thread (.wake smsg (formed_handle (formed.top top)))
  | wakeSender thread smsg caller top =>
      exact (formed.set thread (.receive (formed_wake (formed.top top)))).wake _
  | clear target phandler id =>
      have rest : (threads.set target
          ((threads.thread target).clear phandler id)).AllFormed :=
        formed.set target (formed target)
      exact rest.wake _
  | quit target =>
      have stopped : (threads.set target (threads.thread target).quit).AllFormed :=
        formed.set target (formed target)
      exact stopped.wake _
  | signal target => exact formed.wake _

/-- One thread changes and holds the same messages. -/
theorem Accounted.set {threads : Threads ThreadId Handler Data} (accounted : threads.Accounted)
    (thread : ThreadId) {state : ThreadState ThreadId Handler Data}
    (held : state.held.Perm (threads.thread thread).held) :
    (threads.set thread state).Accounted := by
  refine accounted.of_same (fun other => ?_) rfl rfl accounted.returnedSet
  rw [set_thread]
  split
  · rename_i same
    exact same ▸ held
  · exact List.Perm.refl _

theorem Accounted.wake {threads : Threads ThreadId Handler Data} (accounted : threads.Accounted)
    (woken : List ThreadId) : (threads.wake woken).Accounted :=
  accounted.of_same (fun _ => wake_held threads woken _ ▸ List.Perm.refl _) rfl rfl
    accounted.returnedSet

/-- One thread replaces the top of its stack by a call that handles no message. -/
theorem Accounted.setStack {threads : Threads ThreadId Handler Data}
    (accounted : threads.Accounted) (thread : ThreadId)
    {stack : List (Frame ThreadId Handler Data)}
    (same : stack.filterMap Frame.handles =
      (threads.thread thread).stack.filterMap Frame.handles) :
    (threads.setStack thread stack).Accounted := by
  refine accounted.set thread ?_
  simp only [ThreadState.held, ThreadState.setStack, same]
  exact List.Perm.refl _

omit [DecidableEq ThreadId] in
/-- A call on top that handles no message holds none. -/
theorem handles_of_top {stack caller : List (Frame ThreadId Handler Data)}
    {frame : Frame ThreadId Handler Data} (top : stack = frame :: caller)
    (none : frame.handles = none) :
    stack.filterMap Frame.handles = caller.filterMap Frame.handles := by
  rw [top, List.filterMap_cons_none none]

omit [DecidableEq ThreadId] in
theorem receiveSends_held (state : ThreadState ThreadId Handler Data)
    {caller : List (Frame ThreadId Handler Data)}
    (same : caller.filterMap Frame.handles = state.stack.filterMap Frame.handles) :
    (state.receiveSends caller).held = state.held := by
  unfold ThreadState.receiveSends ThreadState.setStack
  split
  · exact congrArg (_ ++ ·) ((handles_of_top rfl rfl).trans same)
  · exact congrArg (_ ++ ·) same

omit [DecidableEq ThreadId] in
/-- A message that is taken off the list is held by the call that handles it. -/
theorem lock_held (state : ThreadState ThreadId Handler Data)
    {caller : List (Frame ThreadId Handler Data)} (top : state.stack = .receive :: caller) :
    (state.lock caller).held.Perm state.held := by
  have stack : state.stack.filterMap Frame.handles = caller.filterMap Frame.handles :=
    handles_of_top top rfl
  unfold ThreadState.lock
  cases queued : state.sendlist with
  | nil =>
      simp only [ThreadState.held, queued, stack]
      exact List.Perm.refl _
  | cons smsg rest =>
      simp only [ThreadState.held, queued, stack, List.map_cons, List.cons_append,
        List.filterMap_cons, Frame.handles]
      exact List.perm_middle

omit [DecidableEq ThreadId] in
theorem clear_held [DecidableEq Handler] (state : ThreadState ThreadId Handler Data)
    (phandler : Option Handler) (id : BitVec 32) :
    ((state.matched phandler id).map SendMessage.ready ++ (state.clear phandler id).held).Perm
      state.held := by
  simp only [ThreadState.held, ThreadState.clear, ThreadState.matched]
  rw [← List.append_assoc, ← List.map_append]
  exact ((List.filter_append_perm _ state.sendlist).map _).append_right _

theorem accounted_push {threads : Threads ThreadId Handler Data} (accounted : threads.Accounted)
    {thread target : ThreadId} {msg : Message Handler Data}
    {caller : List (Frame ThreadId Handler Data)}
    (top : (threads.thread thread).stack = .call target msg :: caller) :
    (threads.push thread target msg caller).Accounted := by
  have held : ∀ other, ((threads.push thread target msg caller).thread other).held =
      ((threads.set target
        ((threads.thread target).push ⟨thread, msg, threads.nextReady⟩)).thread other).held := by
    intro other
    show ((Threads.setStack _ thread _).thread other).held = _
    rw [Threads.setStack, set_thread]
    split
    · rename_i same
      subst same
      simp only [ThreadState.held, ThreadState.setStack, set_thread]
      split
      · rename_i same
        subst same
        exact congrArg (_ ++ ·) (handles_of_top top rfl).symm
      · exact congrArg (_ ++ ·) (handles_of_top top rfl).symm
    · rfl
  refine accounted.of_new target ?_ ?_ rfl List.length_append rfl
  · rw [held, set_thread_self]
    simp only [ThreadState.held, ThreadState.push, List.map_append, List.map_cons, List.map_nil,
      List.append_assoc]
    exact List.perm_middle
  · intro other different
    rw [held, set_thread_of_ne _ different]

theorem accounted_handle {threads : Threads ThreadId Handler Data} (accounted : threads.Accounted)
    {thread : ThreadId} {smsg : SendMessage ThreadId Handler Data}
    {caller : List (Frame ThreadId Handler Data)}
    (top : (threads.thread thread).stack = .handle smsg :: caller) :
    (threads.handle thread smsg caller).Accounted := by
  refine accounted.of_finished thread [smsg.ready] ?_ ?_ ?_ rfl accounted.returnedSet
  · show ([smsg.ready] ++
      ((threads.setStack thread (.wake smsg :: caller)).thread thread).held).Perm _
    rw [Threads.setStack, set_thread_self]
    simp only [ThreadState.held, ThreadState.setStack, top, List.filterMap_cons, Frame.handles,
      List.singleton_append]
    exact List.perm_middle.symm
  · intro other different
    show ((threads.setStack thread (.wake smsg :: caller)).thread other).held = _
    rw [Threads.setStack, set_thread_of_ne _ different]
  · simp only [ready, Threads.handle, List.append_assoc]
    exact List.perm_append_comm.append_left _

theorem accounted_clear [DecidableEq Handler] {threads : Threads ThreadId Handler Data}
    (accounted : threads.Accounted) (target : ThreadId) (phandler : Option Handler)
    (id : BitVec 32) : (threads.clear target phandler id).Accounted := by
  have held : ∀ other, ((threads.clear target phandler id).thread other).held =
      ((threads.set target ((threads.thread target).clear phandler id)).thread other).held :=
    fun other => wake_held _ _ other
  refine accounted.of_finished target
    (((threads.thread target).matched phandler id).map SendMessage.ready) ?_ ?_ ?_ rfl
    accounted.returnedSet
  · rw [held, set_thread_self]
    exact clear_held _ phandler id
  · intro other different
    rw [held, set_thread_of_ne _ different]
  · simp only [ready, Threads.clear, ← List.append_assoc]
    exact List.Perm.refl _

theorem took_accounted [DecidableEq Handler] {threads after : Threads ThreadId Handler Data}
    (formed : threads.AllFormed) (accounted : threads.Accounted) (took : threads.Took after) :
    after.Accounted := by
  cases took with
  | receiveSends thread caller top =>
      exact accounted.set thread
        (List.Perm.of_eq (receiveSends_held _ (handles_of_top top rfl).symm))
  | dispatch thread caller top =>
      exact accounted.setStack thread (handles_of_top top rfl).symm
  | sleep thread caller top running =>
      exact accounted.setStack thread (handles_of_top top rfl).symm
  | stop thread caller top stopped =>
      obtain rfl := formed_scan (formed.top top)
      exact accounted.setStack thread (handles_of_top top rfl).symm
  | wait thread caller top =>
      exact accounted.set thread
        (List.Perm.of_eq (congrArg (_ ++ ·) (handles_of_top top rfl).symm))
  | waitFailed thread caller top =>
      obtain rfl := formed_asleep (formed.top top)
      exact accounted.set thread
        (List.Perm.of_eq (congrArg (_ ++ ·) (handles_of_top top rfl).symm))
  | waitInSend thread ready caller top =>
      exact accounted.set thread
        (List.Perm.of_eq (congrArg (_ ++ ·) (handles_of_top top rfl).symm))
  | send thread target msg caller top calls other =>
      unfold send
      split
      · exact accounted
      · exact accounted.setStack thread (by rw [top]; rfl)
  | push thread target msg caller top => exact accounted_push accounted top
  | wakeTarget thread target ready caller top =>
      have back : (threads.setStack thread (.await ready false :: caller)).Accounted :=
        accounted.setStack thread (handles_of_top top rfl).symm
      exact back.wake _
  | notReady thread ready waited caller top unset =>
      exact accounted.set thread
        (List.Perm.of_eq (receiveSends_held _ (handles_of_top top rfl).symm))
  | leave thread ready waited caller top isSet =>
      have back : (threads.setStack thread caller).Accounted :=
        accounted.setStack thread (handles_of_top top rfl).symm
      refine (back.wake (if waited then [thread] else [])).of_same (fun _ => List.Perm.refl _)
        rfl rfl ?_
      exact List.append_subset.mpr
        ⟨accounted.returnedSet, List.cons_subset.mpr ⟨isSet, List.nil_subset _⟩⟩
  | lock thread caller top => exact accounted.set thread (lock_held _ top)
  | finish thread caller top => exact accounted.setStack thread (handles_of_top top rfl).symm
  | handle thread smsg caller top => exact accounted_handle accounted top
  | wakeSender thread smsg caller top =>
      have back : (threads.setStack thread (.receive :: caller)).Accounted :=
        accounted.setStack thread (handles_of_top top rfl).symm
      exact back.wake _
  | clear target phandler id => exact accounted_clear accounted target phandler id
  | quit target =>
      have stopped : (threads.set target (threads.thread target).quit).Accounted :=
        accounted.set target (List.Perm.refl _)
      exact stopped.wake _
  | signal target => exact accounted.wake _

theorem reachable_formed [DecidableEq Handler] {threads : Threads ThreadId Handler Data}
    (reached : Reachable threads) : threads.AllFormed := by
  induction reached with
  | started => exact fun _ => .get
  | next reached took ih => exact took_formed ih took

theorem reachable_accounted [DecidableEq Handler] {threads : Threads ThreadId Handler Data}
    (reached : Reachable threads) : threads.Accounted := by
  induction reached with
  | started =>
      refine ⟨fun _ => ?_, fun _ _ _ => ?_, fun _ => ?_, ?_, fun flag => ?_, ?_⟩ <;>
        simp [started, ThreadState.started, ThreadState.held, List.filterMap_cons, Frame.handles,
          ready, nextReady]
  | next reached took ih => exact took_accounted (reachable_formed reached) ih took

/-- Every sent message is handled or cleared once and its `Send` returns only after that; until
then exactly one thread has it, in its list or in a handler. -/
theorem sends_finish_once [DecidableEq Handler] {threads : Threads ThreadId Handler Data}
    (reached : Reachable threads) :
    (threads.handled ++ threads.cleared).Nodup ∧
      threads.returned ⊆ threads.handled ++ threads.cleared ∧
        ∀ flag, flag < threads.flags.length ∧ flag ∉ threads.handled ++ threads.cleared ↔
          ∃ thread, (threads.thread thread).held.count flag = 1 ∧
            ∀ other, flag ∈ (threads.thread other).held → other = thread := by
  have accounted := reachable_accounted reached
  refine ⟨accounted.setOnce, accounted.returnedSet, fun flag => ?_⟩
  constructor
  · rintro ⟨given, unset⟩
    rcases (accounted.all flag).mp given with isSet | ⟨thread, isHeld⟩
    · exact absurd isSet unset
    · refine ⟨thread, List.count_eq_one_of_mem (accounted.heldOnce thread) isHeld, ?_⟩
      intro other alsoHeld
      by_contra different
      exact accounted.heldByOne other thread different alsoHeld isHeld
  · rintro ⟨thread, counted, -⟩
    have isHeld : flag ∈ (threads.thread thread).held :=
      List.count_pos_iff.mp (by rw [counted]; exact Nat.one_pos)
    exact ⟨(accounted.all flag).mpr (.inr ⟨thread, isHeld⟩), accounted.heldUnset thread isHeld⟩

/-- The message of one `Send` while the other thread handles it. -/
theorem one_send_held :
    ∃ threads : Threads Bool Unit Unit, Reachable threads ∧ threads.returned = [] ∧
      ∃ thread, (threads.thread thread).held.count 0 = 1 ∧
        ∀ other, 0 ∈ (threads.thread other).held → other = thread := by
  have started : Reachable (started : Threads Bool Unit Unit) := .started
  have dispatched := (started.next (.receiveSends false [] rfl)).next (.dispatch false [] rfl)
  have sent := (dispatched.next (.send false true ⟨none, 1, none, 0⟩ _ rfl rfl (by decide))).next
    (.push false true ⟨none, 1, none, 0⟩ [.dispatch, .get] rfl)
  have taken := (sent.next (.receiveSends true [] rfl)).next (.lock true [.scan] rfl)
  exact ⟨_, taken, rfl, ((sends_finish_once taken).2.2 0).mp (by decide)⟩

end Threads

end FiberApp.Messaging
