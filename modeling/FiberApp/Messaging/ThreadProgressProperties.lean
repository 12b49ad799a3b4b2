import FiberApp.Messaging.ThreadSendProperties

/-! Threads that send to each other do not come to a standstill: no wake-up is lost for good,
and of the sends that are nested the one made last is the one to end first. -/

set_option autoImplicit false

namespace FiberApp.Messaging

variable {ThreadId Handler Data : Type}

namespace Frame

/-- The flag a call of `Send` waits for, once it has queued its message. -/
def waitsFor : Frame ThreadId Handler Data → Option Nat
  | .posted _ ready => some ready
  | .await ready _ => some ready
  | .nap ready => some ready
  | _ => none

/-- The message that `ReceiveSends` has taken from the list. -/
def received : Frame ThreadId Handler Data → Option (SendMessage ThreadId Handler Data)
  | .handle smsg => some smsg
  | .wake smsg => some smsg
  | _ => none

/-- The call is in `Wait`, or goes there without calling `ReceiveSends` again. -/
def waits : Frame ThreadId Handler Data → Bool
  | .scan => true
  | .asleep => true
  | .nap _ => true
  | _ => false

/-- The thread that a call of `Send` is about to wake. -/
def wakes : Frame ThreadId Handler Data → Option ThreadId
  | .posted target _ => some target
  | _ => none

/-- The flag whose owner a call of `ReceiveSends` is about to wake. -/
def wakesFor : Frame ThreadId Handler Data → Option Nat
  | .wake smsg => some smsg.ready
  | _ => none

/-- A `Send` that may take wake-ups and wakes its own thread at the end. -/
def hasWaited : Frame ThreadId Handler Data → Bool
  | .await _ waited => waited
  | .nap _ => true
  | _ => false

/-- A flag is waited for that is newer than the message handled below. -/
def Newer (upper lower : Frame ThreadId Handler Data) : Prop :=
  ∀ ready, upper.waitsFor = some ready → ∀ flag, lower.handles = some flag → flag < ready

end Frame

open Frame

theorem newer_of_waitsFor {upper upper' : Frame ThreadId Handler Data}
    (same : upper'.waitsFor = upper.waitsFor ∨ upper'.waitsFor = none)
    {lower : List (Frame ThreadId Handler Data)} (newer : ∀ frame ∈ lower, upper.Newer frame) :
    ∀ frame ∈ lower, upper'.Newer frame := by
  intro frame member ready waitsFor
  rcases same with same | absent
  · exact newer frame member ready (same ▸ waitsFor)
  · rw [absent] at waitsFor
    cases waitsFor

/-- A stack whose top is replaced by a call that waits for the same flag, or for none. -/
theorem rising_of_top {upper upper' : Frame ThreadId Handler Data}
    {caller : List (Frame ThreadId Handler Data)}
    (rising : (upper :: caller).Pairwise Newer)
    (same : upper'.waitsFor = upper.waitsFor ∨ upper'.waitsFor = none) :
    (upper' :: caller).Pairwise Newer := by
  obtain ⟨newer, rest⟩ := List.pairwise_cons.mp rising
  exact List.pairwise_cons.mpr ⟨newer_of_waitsFor same newer, rest⟩

theorem rising_of_none {upper : Frame ThreadId Handler Data}
    {caller : List (Frame ThreadId Handler Data)} (rising : caller.Pairwise Newer)
    (absent : upper.waitsFor = none) : (upper :: caller).Pairwise Newer := by
  refine List.pairwise_cons.mpr ⟨fun frame _ ready waitsFor => ?_, rising⟩
  rw [absent] at waitsFor
  cases waitsFor

theorem rising_receiveSends {state : ThreadState ThreadId Handler Data}
    {caller : List (Frame ThreadId Handler Data)} (rising : caller.Pairwise Newer) :
    (state.receiveSends caller).stack.Pairwise Newer := by
  unfold ThreadState.receiveSends ThreadState.setStack
  split
  · exact rising_of_none rising rfl
  · exact rising

theorem rising_lock {state : ThreadState ThreadId Handler Data}
    {caller : List (Frame ThreadId Handler Data)} (rising : caller.Pairwise Newer) :
    (state.lock caller).stack.Pairwise Newer := by
  unfold ThreadState.lock
  cases state.sendlist with
  | nil => exact rising
  | cons smsg rest => exact rising_of_none rising rfl

namespace Threads

/-- Whichever call waits for a flag, the messages handled further down are older. -/
def AllRising (threads : Threads ThreadId Handler Data) : Prop :=
  ∀ thread, (threads.thread thread).stack.Pairwise Newer

/-- `has_sends_` is set while there are messages on the list. -/
def Flagged (threads : Threads ThreadId Handler Data) : Prop :=
  ∀ thread, (threads.thread thread).sendlist ≠ [] → (threads.thread thread).hasSends = true

/-- A call of `Send` is about to wake the thread. -/
def Posting (threads : Threads ThreadId Handler Data) (target : ThreadId) : Prop :=
  ∃ thread ready caller, (threads.thread thread).stack = .posted target ready :: caller

/-- A call of `ReceiveSends` has set the flag and is about to wake its owner. -/
def Waking (threads : Threads ThreadId Handler Data) (ready : Nat) : Prop :=
  ∃ thread smsg caller, (threads.thread thread).stack = .wake smsg :: caller ∧
    smsg.ready = ready

/-- A thread that waits, or is going to, has no message on its list, or a wake-up pending. -/
def Attended (threads : Threads ThreadId Handler Data) : Prop :=
  ∀ thread upper caller, (threads.thread thread).stack = upper :: caller →
    upper.waits = true → (threads.thread thread).sendlist = [] ∨
      (threads.thread thread).fSignaled = true ∨ threads.Posting thread

/-- When the flag that the innermost waiting `Send` waits for is set, a wake-up is pending. -/
def Heeded (threads : Threads ThreadId Handler Data) : Prop :=
  ∀ thread ready, (threads.thread thread).stack.find? hasWaited = some (.nap ready) →
    ready ∈ threads.ready → (threads.thread thread).fSignaled = true ∨ threads.Waking ready

/-- The owner of a flag is the thread that waits for it and the one its message names. -/
structure Owned (threads : Threads ThreadId Handler Data) : Prop where
  waiting : ∀ thread, ∀ frame ∈ (threads.thread thread).stack, ∀ ready,
    frame.waitsFor = some ready → threads.flags[ready]? = some thread
  queued : ∀ thread, ∀ smsg ∈ (threads.thread thread).sendlist,
    threads.flags[smsg.ready]? = some smsg.thread
  received : ∀ thread, ∀ frame ∈ (threads.thread thread).stack, ∀ smsg,
    frame.received = some smsg → threads.flags[smsg.ready]? = some smsg.thread

variable [DecidableEq ThreadId]

theorem AllRising.set {threads : Threads ThreadId Handler Data} (rising : threads.AllRising)
    (thread : ThreadId) {state : ThreadState ThreadId Handler Data}
    (mine : state.stack.Pairwise Newer) : (threads.set thread state).AllRising := by
  intro other
  rw [set_thread]
  split
  · exact mine
  · exact rising other

theorem AllRising.wake {threads : Threads ThreadId Handler Data} (rising : threads.AllRising)
    (woken : List ThreadId) : (threads.wake woken).AllRising := by
  intro other
  rw [wake_stack]
  exact rising other

omit [DecidableEq ThreadId] in
theorem AllRising.top {threads : Threads ThreadId Handler Data} (rising : threads.AllRising)
    {thread : ThreadId} {stack : List (Frame ThreadId Handler Data)}
    (top : (threads.thread thread).stack = stack) : stack.Pairwise Newer :=
  top ▸ rising thread

theorem took_rising [DecidableEq Handler] {threads after : Threads ThreadId Handler Data}
    (accounted : threads.Accounted) (rising : threads.AllRising) (took : threads.Took after) :
    after.AllRising := by
  cases took with
  | receiveSends thread caller top =>
      exact rising.set thread (rising_receiveSends (rising_of_top (rising.top top) (.inl rfl)))
  | dispatch thread caller top =>
      exact rising.set thread
        (rising_of_none (rising_of_top (rising.top top) (.inl rfl)) rfl)
  | sleep thread caller top running =>
      exact rising.set thread (rising_of_top (rising.top top) (.inl rfl))
  | stop thread caller top stopped => exact rising.set thread List.Pairwise.nil
  | wait thread caller top =>
      exact rising.set thread (rising_of_top (rising.top top) (.inl rfl))
  | waitFailed thread caller top => exact rising.set thread List.Pairwise.nil
  | waitInSend thread ready caller top =>
      exact rising.set thread (rising_of_top (rising.top top) (.inl rfl))
  | send thread target msg caller top calls other =>
      unfold send
      split
      · exact rising
      · exact rising.set thread (rising_of_none (rising.top top) rfl)
  | push thread target msg caller top =>
      have queued : (threads.set target
          ((threads.thread target).push ⟨thread, msg, threads.nextReady⟩)).AllRising :=
        rising.set target (rising target)
      refine queued.set thread (List.pairwise_cons.mpr ⟨fun frame member ready awaited flag
        handles => ?_, (List.pairwise_cons.mp (rising.top top)).2⟩)
      have isHeld : flag ∈ (threads.thread thread).held := by
        refine List.mem_append_right _ (List.mem_filterMap.mpr ⟨frame, ?_, handles⟩)
        rw [top]
        exact List.mem_cons_of_mem _ member
      have given := (accounted.all flag).mpr (.inr ⟨thread, isHeld⟩)
      cases awaited
      exact given
  | wakeTarget thread target ready caller top =>
      have back : (threads.setStack thread (.await ready false :: caller)).AllRising :=
        rising.set thread (rising_of_top (rising.top top) (.inl rfl))
      exact back.wake _
  | notReady thread ready waited caller top unset =>
      exact rising.set thread (rising_receiveSends (rising_of_top (rising.top top) (.inl rfl)))
  | leave thread ready waited caller top isSet =>
      have back : (threads.setStack thread caller).AllRising :=
        rising.set thread (List.pairwise_cons.mp (rising.top top)).2
      exact back.wake _
  | lock thread caller top =>
      exact rising.set thread (rising_lock (List.pairwise_cons.mp (rising.top top)).2)
  | finish thread caller top =>
      exact rising.set thread (List.pairwise_cons.mp (rising.top top)).2
  | handle thread smsg caller top =>
      exact rising.set thread (rising_of_top (rising.top top) (.inr rfl))
  | wakeSender thread smsg caller top =>
      have back : (threads.setStack thread (.receive :: caller)).AllRising :=
        rising.set thread (rising_of_top (rising.top top) (.inr rfl))
      exact back.wake _
  | clear target phandler id =>
      have rest : (threads.set target ((threads.thread target).clear phandler id)).AllRising :=
        rising.set target (rising target)
      exact rest.wake _
  | quit target =>
      have stopped : (threads.set target (threads.thread target).quit).AllRising :=
        rising.set target (rising target)
      exact stopped.wake _
  | signal target => exact rising.wake _

theorem Flagged.set {threads : Threads ThreadId Handler Data} (flagged : threads.Flagged)
    (thread : ThreadId) {state : ThreadState ThreadId Handler Data}
    (mine : state.sendlist ≠ [] → state.hasSends = true) : (threads.set thread state).Flagged := by
  intro other
  rw [set_thread]
  split
  · exact mine
  · exact flagged other

theorem Flagged.wake {threads : Threads ThreadId Handler Data} (flagged : threads.Flagged)
    (woken : List ThreadId) : (threads.wake woken).Flagged := by
  intro other
  rw [wake_thread]
  split <;> exact flagged other

omit [DecidableEq ThreadId] in
theorem Flagged.receiveSends {threads : Threads ThreadId Handler Data} (flagged : threads.Flagged)
    (thread : ThreadId) (caller : List (Frame ThreadId Handler Data)) :
    ((threads.thread thread).receiveSends caller).sendlist ≠ [] →
      ((threads.thread thread).receiveSends caller).hasSends = true := by
  unfold ThreadState.receiveSends ThreadState.setStack
  split <;> exact flagged thread

omit [DecidableEq ThreadId] in
theorem Flagged.lock {threads : Threads ThreadId Handler Data} (flagged : threads.Flagged)
    (thread : ThreadId) (caller : List (Frame ThreadId Handler Data)) :
    ((threads.thread thread).lock caller).sendlist ≠ [] →
      ((threads.thread thread).lock caller).hasSends = true := by
  unfold ThreadState.lock
  cases queued : (threads.thread thread).sendlist with
  | nil => exact fun more => absurd rfl more
  | cons smsg rest =>
      exact fun _ => flagged thread (by rw [queued]; exact List.cons_ne_nil smsg rest)

theorem took_flagged [DecidableEq Handler] {threads after : Threads ThreadId Handler Data}
    (flagged : threads.Flagged) (took : threads.Took after) : after.Flagged := by
  cases took with
  | receiveSends thread caller top => exact flagged.set thread (flagged.receiveSends thread _)
  | dispatch thread caller top => exact flagged.set thread (flagged thread)
  | sleep thread caller top running => exact flagged.set thread (flagged thread)
  | stop thread caller top stopped => exact flagged.set thread (flagged thread)
  | wait thread caller top => exact flagged.set thread (flagged thread)
  | waitFailed thread caller top => exact flagged.set thread (flagged thread)
  | waitInSend thread ready caller top => exact flagged.set thread (flagged thread)
  | send thread target msg caller top calls other =>
      unfold send
      split
      · exact flagged
      · exact flagged.set thread (flagged thread)
  | push thread target msg caller top =>
      have queued : (threads.set target
          ((threads.thread target).push ⟨thread, msg, threads.nextReady⟩)).Flagged :=
        flagged.set target (fun _ => rfl)
      exact queued.set thread (queued thread)
  | wakeTarget thread target ready caller top =>
      have back : (threads.setStack thread (.await ready false :: caller)).Flagged :=
        flagged.set thread (flagged thread)
      exact back.wake _
  | notReady thread ready waited caller top unset =>
      exact flagged.set thread (flagged.receiveSends thread _)
  | leave thread ready waited caller top isSet =>
      have back : (threads.setStack thread caller).Flagged :=
        flagged.set thread (flagged thread)
      exact back.wake _
  | lock thread caller top => exact flagged.set thread (flagged.lock thread caller)
  | finish thread caller top => exact flagged.set thread (flagged thread)
  | handle thread smsg caller top => exact flagged.set thread (flagged thread)
  | wakeSender thread smsg caller top =>
      have back : (threads.setStack thread (.receive :: caller)).Flagged :=
        flagged.set thread (flagged thread)
      exact back.wake _
  | clear target phandler id =>
      have rest : (threads.set target ((threads.thread target).clear phandler id)).Flagged := by
        refine flagged.set target fun more => flagged target fun empty => more ?_
        simp [ThreadState.clear, empty]
      exact rest.wake _
  | quit target =>
      have stopped : (threads.set target (threads.thread target).quit).Flagged :=
        flagged.set target (flagged target)
      exact stopped.wake _
  | signal target => exact flagged.wake _

omit [DecidableEq ThreadId] in
/-- A call that is about to wake a thread still is, when another thread takes a step. -/
theorem Posting.of_other {before after : Threads ThreadId Handler Data} {target : ThreadId}
    (posting : before.Posting target) (thread : ThreadId)
    {upper : Frame ThreadId Handler Data} {caller : List (Frame ThreadId Handler Data)}
    (top : (before.thread thread).stack = upper :: caller)
    (silent : upper.wakes ≠ some target)
    (others : ∀ other, other ≠ thread →
      (after.thread other).stack = (before.thread other).stack) : after.Posting target := by
  obtain ⟨poster, ready, below, posted⟩ := posting
  have notMine : poster ≠ thread := by
    rintro rfl
    rw [top, List.cons.injEq] at posted
    exact silent (posted.1 ▸ rfl)
  exact ⟨poster, ready, below, by rw [others poster notMine, posted]⟩

/-- One thread changes, and it was not about to wake another. -/
theorem Attended.set {threads : Threads ThreadId Handler Data} (attended : threads.Attended)
    {thread : ThreadId} {state : ThreadState ThreadId Handler Data}
    {upper : Frame ThreadId Handler Data} {caller : List (Frame ThreadId Handler Data)}
    (top : (threads.thread thread).stack = upper :: caller)
    (silent : upper.wakes = none)
    (mine : ∀ upper caller, state.stack = upper :: caller → upper.waits = true →
      state.sendlist = [] ∨ state.fSignaled = true ∨ threads.Posting thread) :
    (threads.set thread state).Attended := by
  have posts : ∀ target, threads.Posting target → (threads.set thread state).Posting target :=
    fun target posting => posting.of_other thread top (by simp [silent])
      fun other different => by rw [set_thread_of_ne _ different]
  intro other upper' caller' top' waits
  rw [set_thread] at top' ⊢
  split at top'
  · rename_i same
    subst same
    rw [if_pos rfl]
    rcases mine upper' caller' top' waits with empty | pending | posting
    · exact .inl empty
    · exact .inr (.inl pending)
    · exact .inr (.inr (posts other posting))
  · rename_i different
    rw [if_neg different]
    rcases attended other upper' caller' top' waits with empty | pending | posting
    · exact .inl empty
    · exact .inr (.inl pending)
    · exact .inr (.inr (posts other posting))

theorem Attended.wake {threads : Threads ThreadId Handler Data} (attended : threads.Attended)
    (woken : List ThreadId) : (threads.wake woken).Attended := by
  intro other upper caller top waits
  rw [wake_stack] at top
  rw [wake_sendlist]
  rcases attended other upper caller top waits with empty | pending | ⟨poster, ready, below, posted⟩
  · exact .inl empty
  · refine .inr (.inl ?_)
    rw [wake_thread]
    split
    · rfl
    · exact pending
  · exact .inr (.inr ⟨poster, ready, below, by rw [wake_stack, posted]⟩)

omit [DecidableEq ThreadId] in
/-- The thread is not going to wait. -/
theorem not_waits {state : ThreadState ThreadId Handler Data} {goal : Prop}
    {upper : Frame ThreadId Handler Data} {caller : List (Frame ThreadId Handler Data)}
    (stack : state.stack = upper :: caller) (busy : upper.waits = false) :
    ∀ upper caller, state.stack = upper :: caller → upper.waits = true → goal := by
  intro other below top waits
  rw [stack, List.cons.injEq] at top
  rw [← top.1, busy] at waits
  cases waits

omit [DecidableEq ThreadId] in
theorem runs_not_waits {state : ThreadState ThreadId Handler Data} {goal : Prop}
    (runs : Runs state.stack) :
    ∀ upper caller, state.stack = upper :: caller → upper.waits = true → goal := by
  intro upper caller top waits
  rw [top] at runs
  cases runs with
  | dispatch => cases waits
  | handle smsg below => cases waits

omit [DecidableEq ThreadId] in
theorem Flagged.waits_receiveSends {threads : Threads ThreadId Handler Data}
    (flagged : threads.Flagged) (thread : ThreadId)
    (caller : List (Frame ThreadId Handler Data)) {goal : Prop} :
    ∀ upper below, ((threads.thread thread).receiveSends caller).stack = upper :: below →
      upper.waits = true → ((threads.thread thread).receiveSends caller).sendlist = [] ∨ goal := by
  unfold ThreadState.receiveSends ThreadState.setStack
  split
  · intro upper below top waits
    simp only [List.cons.injEq] at top
    rw [← top.1] at waits
    cases waits
  · rename_i unset
    intro upper below top waits
    by_contra more
    exact unset (flagged thread fun empty => more (.inl empty))

omit [DecidableEq ThreadId] in
theorem waits_lock (state : ThreadState ThreadId Handler Data)
    (caller : List (Frame ThreadId Handler Data)) {goal : Prop} :
    ∀ upper below, (state.lock caller).stack = upper :: below →
      upper.waits = true → (state.lock caller).sendlist = [] ∨ goal := by
  unfold ThreadState.lock
  cases queued : state.sendlist with
  | nil => exact fun _ _ _ _ => .inl rfl
  | cons smsg rest =>
      intro upper below top waits
      simp only [List.cons.injEq] at top
      rw [← top.1] at waits
      cases waits

theorem push_attended {threads : Threads ThreadId Handler Data} (attended : threads.Attended)
    {thread target : ThreadId} {msg : Message Handler Data}
    {caller : List (Frame ThreadId Handler Data)}
    (top : (threads.thread thread).stack = .call target msg :: caller) :
    (threads.push thread target msg caller).Attended := by
  have mine : ((threads.push thread target msg caller).thread thread).stack =
      .posted target threads.nextReady :: caller := by
    show ((Threads.setStack _ thread _).thread thread).stack = _
    rw [Threads.setStack, set_thread_self]
    rfl
  have others : ∀ other, other ≠ thread →
      (threads.push thread target msg caller).thread other = (threads.set target
        ((threads.thread target).push ⟨thread, msg, threads.nextReady⟩)).thread other := by
    intro other different
    show (Threads.setStack _ thread _).thread other = _
    rw [Threads.setStack, set_thread_of_ne _ different]
  intro other upper below top' waits
  by_cases same : other = thread
  · subst same
    exact not_waits mine rfl upper below top' waits
  · rw [others other same] at top' ⊢
    by_cases isTarget : other = target
    · exact .inr (.inr ⟨thread, threads.nextReady, caller, by rw [mine, isTarget]⟩)
    · rw [set_thread_of_ne _ isTarget] at top' ⊢
      rcases attended other upper below top' waits with empty | pending | posting
      · exact .inl empty
      · exact .inr (.inl pending)
      · refine .inr (.inr (posting.of_other thread top (by simp [Frame.wakes]) ?_))
        intro third different
        rw [others third different, set_thread]
        split
        · rename_i same
          rw [same]
          rfl
        · rfl

theorem wakeTarget_attended {threads : Threads ThreadId Handler Data}
    (attended : threads.Attended) {thread target : ThreadId} {ready : Nat}
    {caller : List (Frame ThreadId Handler Data)}
    (top : (threads.thread thread).stack = .posted target ready :: caller) :
    ((threads.setStack thread (.await ready false :: caller)).wake [target]).Attended := by
  intro other upper below top' waits
  rw [wake_stack, Threads.setStack, set_thread] at top'
  rw [wake_sendlist, wake_thread, Threads.setStack, set_thread]
  split at top'
  · have awaits : ((threads.thread other).setStack (.await ready false :: caller)).stack =
        .await ready false :: caller := rfl
    exact not_waits awaits rfl upper below top' waits
  · rename_i different
    rw [if_neg different]
    by_cases isTarget : other ∈ [target]
    · rw [if_pos isTarget]
      exact .inr (.inl rfl)
    · rw [if_neg isTarget]
      rcases attended other upper below top' waits with empty | pending | posting
      · exact .inl empty
      · exact .inr (.inl pending)
      · refine .inr (.inr (posting.of_other thread top ?_ ?_))
        · intro same
          exact isTarget (by simpa [Frame.wakes] using same.symm)
        · intro third apart
          rw [wake_stack, set_thread_of_ne _ apart]

omit [DecidableEq ThreadId] in
/-- The calls stay where they are, and no message is queued. -/
theorem Attended.of_fewer {before after : Threads ThreadId Handler Data}
    (attended : before.Attended)
    (callers : ∀ thread, (after.thread thread).stack = (before.thread thread).stack)
    (lists : ∀ thread, (before.thread thread).sendlist = [] → (after.thread thread).sendlist = [])
    (signals : ∀ thread, (before.thread thread).fSignaled = true →
      (after.thread thread).fSignaled = true) : after.Attended := by
  intro thread upper below top waits
  rcases attended thread upper below (callers thread ▸ top) waits with
    empty | pending | ⟨poster, ready, caller, posted⟩
  · exact .inl (lists thread empty)
  · exact .inr (.inl (signals thread pending))
  · exact .inr (.inr ⟨poster, ready, caller, callers poster ▸ posted⟩)

theorem took_attended [DecidableEq Handler] {threads after : Threads ThreadId Handler Data}
    (formed : threads.AllFormed) (flagged : threads.Flagged) (attended : threads.Attended)
    (took : threads.Took after) : after.Attended := by
  cases took with
  | receiveSends thread caller top =>
      exact attended.set top rfl
        (flagged.waits_receiveSends thread _)
  | dispatch thread caller top =>
      exact attended.set top rfl (not_waits rfl rfl)
  | sleep thread caller top running =>
      exact attended.set top rfl
        fun _ _ _ _ => attended thread .scan caller top rfl
  | stop thread caller top stopped =>
      refine attended.set top rfl fun upper below none_left => ?_
      cases none_left
  | wait thread caller top =>
      exact attended.set top rfl (not_waits rfl rfl)
  | waitFailed thread caller top =>
      refine attended.set top rfl fun upper below none_left => ?_
      cases none_left
  | waitInSend thread ready caller top =>
      exact attended.set top rfl (not_waits rfl rfl)
  | send thread target msg caller top calls other =>
      unfold send
      split
      · exact attended
      · have runs := runs_of_runsHandler (formed.top top) calls
        cases runs with
        | dispatch =>
            exact attended.set top rfl (not_waits rfl rfl)
        | handle smsg waits =>
            exact attended.set top rfl (not_waits rfl rfl)
  | push thread target msg caller top => exact push_attended attended top
  | wakeTarget thread target ready caller top => exact wakeTarget_attended attended top
  | notReady thread ready waited caller top unset =>
      exact attended.set top rfl
        (flagged.waits_receiveSends thread _)
  | leave thread ready waited caller top isSet =>
      have back : (threads.setStack thread caller).Attended :=
        attended.set top rfl
          (runs_not_waits (formed_await (formed.top top)))
      exact back.wake _
  | lock thread caller top =>
      exact attended.set top rfl (waits_lock _ caller)
  | finish thread caller top =>
      obtain rfl := formed_dispatch (formed.top top)
      exact attended.set top rfl (not_waits rfl rfl)
  | handle thread smsg caller top =>
      exact attended.set top rfl (not_waits rfl rfl)
  | wakeSender thread smsg caller top =>
      have back : (threads.setStack thread (.receive :: caller)).Attended :=
        attended.set top rfl (not_waits rfl rfl)
      exact back.wake _
  | clear target phandler id =>
      have rest : (threads.set target ((threads.thread target).clear phandler id)).Attended := by
        refine attended.of_fewer (fun thread => ?_) (fun thread empty => ?_) (fun thread => ?_)
        · rw [set_thread]
          split
          · rename_i same
            rw [same]
            rfl
          · rfl
        · rw [set_thread]
          split
          · rename_i same
            simp [ThreadState.clear, ← same, empty]
          · exact empty
        · rw [set_thread]
          split
          · rename_i same
            rw [same]
            exact fun pending => pending
          · exact fun pending => pending
      exact rest.wake _
  | quit target =>
      have stopped : (threads.set target (threads.thread target).quit).Attended := by
        refine attended.of_fewer (fun thread => ?_) (fun thread => ?_) (fun thread => ?_)
        all_goals
          rw [set_thread]
          split
          · rename_i same
            rw [same]
            first | rfl | exact id
          · first | rfl | exact id
      exact stopped.wake _
  | signal target => exact attended.wake _

omit [DecidableEq ThreadId] in
/-- Flags are only added, and every call and message is one there was, or its flag is owned. -/
theorem Owned.of_step {before after : Threads ThreadId Handler Data} (owned : before.Owned)
    (flags : ∃ more, after.flags = before.flags ++ more)
    (waiting : ∀ thread, ∀ frame ∈ (after.thread thread).stack, ∀ ready,
      frame.waitsFor = some ready → (∃ other ∈ (before.thread thread).stack,
        other.waitsFor = some ready) ∨ after.flags[ready]? = some thread)
    (messages : ∀ thread smsg, (smsg ∈ (after.thread thread).sendlist ∨
        ∃ frame ∈ (after.thread thread).stack, frame.received = some smsg) →
      (smsg ∈ (before.thread thread).sendlist ∨
        ∃ frame ∈ (before.thread thread).stack, frame.received = some smsg) ∨
          after.flags[smsg.ready]? = some smsg.thread) : after.Owned := by
  obtain ⟨more, extended⟩ := flags
  have kept : ∀ (ready : Nat) (thread : ThreadId), before.flags[ready]? = some thread →
      after.flags[ready]? = some thread := by
    intro ready thread found
    rw [extended, List.getElem?_append_left (List.getElem?_eq_some_iff.mp found).1, found]
  have known : ∀ thread smsg, (smsg ∈ (after.thread thread).sendlist ∨
      ∃ frame ∈ (after.thread thread).stack, frame.received = some smsg) →
      after.flags[smsg.ready]? = some smsg.thread := by
    intro thread smsg there
    rcases messages thread smsg there with (queued | ⟨frame, member, received⟩) | new
    · exact kept _ _ (owned.queued thread smsg queued)
    · exact kept _ _ (owned.received thread frame member smsg received)
    · exact new
  refine ⟨?_, fun thread smsg member => known thread smsg (.inl member),
    fun thread frame member smsg received => known thread smsg (.inr ⟨frame, member, received⟩)⟩
  intro thread frame member ready waitsFor
  rcases waiting thread frame member ready waitsFor with ⟨other, there, same⟩ | new
  · exact kept ready thread (owned.waiting thread other there ready same)
  · exact new

/-- A call that waits for no flag, and has received no message, but what some call on the stack
did. -/
def Known (stack : List (Frame ThreadId Handler Data)) (frame : Frame ThreadId Handler Data) :
    Prop :=
  (∀ ready, frame.waitsFor = some ready → ∃ other ∈ stack, other.waitsFor = some ready) ∧
    ∀ smsg, frame.received = some smsg → ∃ other ∈ stack, other.received = some smsg

omit [DecidableEq ThreadId] in
theorem known_of_mem {stack : List (Frame ThreadId Handler Data)}
    {frame : Frame ThreadId Handler Data} (member : frame ∈ stack) : Known stack frame :=
  ⟨fun _ waitsFor => ⟨frame, member, waitsFor⟩, fun _ received => ⟨frame, member, received⟩⟩

omit [DecidableEq ThreadId] in
theorem known_of_none {stack : List (Frame ThreadId Handler Data)}
    {frame : Frame ThreadId Handler Data} (waiting : frame.waitsFor = none)
    (received : frame.received = none) : Known stack frame := by
  refine ⟨fun ready waitsFor => ?_, fun smsg isReceived => ?_⟩
  · rw [waiting] at waitsFor
    cases waitsFor
  · rw [received] at isReceived
    cases isReceived

omit [DecidableEq ThreadId] in
theorem known_of_top {stack caller : List (Frame ThreadId Handler Data)}
    {upper frame : Frame ThreadId Handler Data} (top : stack = upper :: caller)
    (waiting : frame.waitsFor = upper.waitsFor) (received : frame.received = upper.received) :
    Known stack frame := by
  subst top
  exact ⟨fun _ waitsFor => ⟨upper, List.mem_cons_self, waiting ▸ waitsFor⟩,
    fun _ isReceived => ⟨upper, List.mem_cons_self, received ▸ isReceived⟩⟩

omit [DecidableEq ThreadId] in
theorem known_callers {stack caller : List (Frame ThreadId Handler Data)}
    {upper : Frame ThreadId Handler Data} (top : stack = upper :: caller) :
    ∀ frame ∈ caller, Known stack frame :=
  fun _ member => known_of_mem (top ▸ List.mem_cons_of_mem _ member)

omit [DecidableEq ThreadId] in
theorem known_receiveSends {stack caller : List (Frame ThreadId Handler Data)}
    (state : ThreadState ThreadId Handler Data) (known : ∀ frame ∈ caller, Known stack frame) :
    ∀ frame ∈ (state.receiveSends caller).stack, Known stack frame := by
  unfold ThreadState.receiveSends ThreadState.setStack
  split
  · exact List.forall_mem_cons.mpr ⟨known_of_none rfl rfl, known⟩
  · exact known

/-- One thread changes its stack and takes messages off its list. -/
theorem Owned.set {threads : Threads ThreadId Handler Data} (owned : threads.Owned)
    {thread : ThreadId} {state : ThreadState ThreadId Handler Data}
    (known : ∀ frame ∈ state.stack, Known (threads.thread thread).stack frame)
    (sendlist : state.sendlist ⊆ (threads.thread thread).sendlist) :
    (threads.set thread state).Owned := by
  refine owned.of_step ⟨[], (List.append_nil _).symm⟩ ?_ ?_
  · intro other frame member ready waitsFor
    rw [set_thread] at member
    split at member
    · rename_i same
      exact .inl (same ▸ (known frame member).1 ready waitsFor)
    · exact .inl ⟨frame, member, waitsFor⟩
  · intro other smsg there
    rw [set_thread] at there
    split at there
    · rename_i same
      subst same
      rcases there with queued | ⟨frame, member, received⟩
      · exact .inl (.inl (sendlist queued))
      · exact .inl (.inr ((known frame member).2 smsg received))
    · exact .inl there

theorem Owned.wake {threads : Threads ThreadId Handler Data} (owned : threads.Owned)
    (woken : List ThreadId) : (threads.wake woken).Owned := by
  refine owned.of_step ⟨[], (List.append_nil _).symm⟩ ?_ ?_
  · intro other frame member ready waitsFor
    rw [wake_stack] at member
    exact .inl ⟨frame, member, waitsFor⟩
  · intro other smsg there
    rw [wake_stack, wake_sendlist] at there
    exact .inl there

omit [DecidableEq ThreadId] in
theorem receiveSends_sendlist (state : ThreadState ThreadId Handler Data)
    (caller : List (Frame ThreadId Handler Data)) :
    (state.receiveSends caller).sendlist ⊆ state.sendlist := by
  unfold ThreadState.receiveSends ThreadState.setStack
  split <;> exact List.Subset.refl _

theorem lock_owned {threads : Threads ThreadId Handler Data} (owned : threads.Owned)
    {thread : ThreadId} {caller : List (Frame ThreadId Handler Data)}
    (top : (threads.thread thread).stack = .receive :: caller) :
    (threads.set thread ((threads.thread thread).lock caller)).Owned := by
  unfold ThreadState.lock
  cases queued : (threads.thread thread).sendlist with
  | nil => exact owned.set (known_callers top) (by simp)
  | cons smsg rest =>
      refine owned.of_step ⟨[], (List.append_nil _).symm⟩ ?_ ?_
      · intro other frame member ready waitsFor
        rw [set_thread] at member
        split at member
        · rename_i same
          subst same
          rcases List.mem_cons.mp member with rfl | below
          · cases waitsFor
          · exact .inl ⟨frame, top ▸ List.mem_cons_of_mem _ below, waitsFor⟩
        · exact .inl ⟨frame, member, waitsFor⟩
      · intro other sent there
        rw [set_thread] at there
        split at there
        · rename_i same
          subst same
          rcases there with later | ⟨frame, member, received⟩
          · exact .inl (.inl (queued ▸ List.mem_cons_of_mem _ later))
          · rcases List.mem_cons.mp member with rfl | below
            · cases received
              exact .inl (.inl (queued ▸ List.mem_cons_self))
            · exact .inl (.inr ⟨frame, top ▸ List.mem_cons_of_mem _ below, received⟩)
        · exact .inl there

theorem push_owned {threads : Threads ThreadId Handler Data} (owned : threads.Owned)
    {thread target : ThreadId} {msg : Message Handler Data}
    {caller : List (Frame ThreadId Handler Data)}
    (top : (threads.thread thread).stack = .call target msg :: caller) :
    (threads.push thread target msg caller).Owned := by
  have new : (threads.push thread target msg caller).flags[threads.nextReady]? = some thread :=
    List.getElem?_concat_length
  have callers : ∀ other, ((threads.push thread target msg caller).thread other).stack =
      if other = thread then .posted target threads.nextReady :: caller
      else (threads.thread other).stack := by
    intro other
    show ((Threads.setStack _ thread _).thread other).stack = _
    rw [Threads.setStack, set_thread]
    split
    · rfl
    · rw [set_thread]
      split
      · rename_i same
        rw [same]
        rfl
      · rfl
  have lists : ∀ other, ((threads.push thread target msg caller).thread other).sendlist =
      if other = target then
        (threads.thread target).sendlist ++ [⟨thread, msg, threads.nextReady⟩]
      else (threads.thread other).sendlist := by
    intro other
    show ((Threads.setStack _ thread _).thread other).sendlist = _
    rw [Threads.setStack, set_thread]
    split
    · rename_i same
      subst same
      show ((threads.set target _).thread other).sendlist = _
      rw [set_thread]
      split <;> rfl
    · rw [set_thread]
      split <;> rfl
  refine owned.of_step ⟨[thread], rfl⟩ ?_ ?_
  · intro other frame member ready waitsFor
    rw [callers] at member
    split at member
    · rename_i same
      subst same
      rcases List.mem_cons.mp member with rfl | below
      · cases waitsFor
        exact .inr new
      · exact .inl ⟨frame, top ▸ List.mem_cons_of_mem _ below, waitsFor⟩
    · exact .inl ⟨frame, member, waitsFor⟩
  · rintro other smsg (queued | ⟨frame, member, received⟩)
    · rw [lists] at queued
      split at queued
      · rename_i same
        subst same
        rcases List.mem_append.mp queued with earlier | added
        · exact .inl (.inl earlier)
        · cases List.mem_singleton.mp added
          exact .inr new
      · exact .inl (.inl queued)
    · rw [callers] at member
      split at member
      · rename_i same
        subst same
        rcases List.mem_cons.mp member with rfl | below
        · cases received
        · exact .inl (.inr ⟨frame, top ▸ List.mem_cons_of_mem _ below, received⟩)
      · exact .inl (.inr ⟨frame, member, received⟩)

omit [DecidableEq ThreadId] in
/-- Nothing but flags and wake-ups has changed. -/
theorem Owned.of_same {before after : Threads ThreadId Handler Data} (owned : before.Owned)
    (thread : after.thread = before.thread) (flags : after.flags = before.flags) :
    after.Owned := by
  refine owned.of_step ⟨[], by rw [flags, List.append_nil]⟩ ?_ ?_
  · intro other frame member ready waitsFor
    exact .inl ⟨frame, thread ▸ member, waitsFor⟩
  · intro other smsg there
    exact .inl (thread ▸ there)

theorem took_owned [DecidableEq Handler] {threads after : Threads ThreadId Handler Data}
    (owned : threads.Owned) (took : threads.Took after) : after.Owned := by
  cases took with
  | receiveSends thread caller top =>
      refine owned.set (known_receiveSends _ ?_) (receiveSends_sendlist _ _)
      exact List.forall_mem_cons.mpr ⟨known_of_none rfl rfl, known_callers top⟩
  | dispatch thread caller top =>
      refine owned.set ?_ (List.Subset.refl _)
      exact List.forall_mem_cons.mpr ⟨known_of_none rfl rfl,
        List.forall_mem_cons.mpr ⟨known_of_none rfl rfl, known_callers top⟩⟩
  | sleep thread caller top running =>
      refine owned.set ?_ (List.Subset.refl _)
      exact List.forall_mem_cons.mpr ⟨known_of_none rfl rfl, known_callers top⟩
  | stop thread caller top stopped =>
      refine owned.set (fun frame member => ?_) (List.Subset.refl _)
      cases member
  | wait thread caller top =>
      refine owned.set ?_ (List.Subset.refl _)
      exact List.forall_mem_cons.mpr ⟨known_of_none rfl rfl, known_callers top⟩
  | waitFailed thread caller top =>
      refine owned.set (fun frame member => ?_) (List.Subset.refl _)
      cases member
  | waitInSend thread ready caller top =>
      refine owned.set ?_ (List.Subset.refl _)
      exact List.forall_mem_cons.mpr ⟨known_of_top top rfl rfl, known_callers top⟩
  | send thread target msg caller top calls other =>
      unfold send
      split
      · exact owned
      · refine owned.set ?_ (List.Subset.refl _)
        exact List.forall_mem_cons.mpr ⟨known_of_none rfl rfl,
          fun frame member => known_of_mem (top ▸ member)⟩
  | push thread target msg caller top => exact push_owned owned top
  | wakeTarget thread target ready caller top =>
      have back : (threads.setStack thread (.await ready false :: caller)).Owned := by
        refine owned.set ?_ (List.Subset.refl _)
        exact List.forall_mem_cons.mpr ⟨known_of_top top rfl rfl, known_callers top⟩
      exact back.wake _
  | notReady thread ready waited caller top unset =>
      refine owned.set (known_receiveSends _ ?_) (receiveSends_sendlist _ _)
      exact List.forall_mem_cons.mpr ⟨known_of_top top rfl rfl, known_callers top⟩
  | leave thread ready waited caller top isSet =>
      have back : (threads.setStack thread caller).Owned :=
        owned.set (known_callers top) (List.Subset.refl _)
      exact (back.wake (if waited then [thread] else [])).of_same rfl rfl
  | lock thread caller top => exact lock_owned owned top
  | finish thread caller top => exact owned.set (known_callers top) (List.Subset.refl _)
  | handle thread smsg caller top =>
      have back : (threads.setStack thread (.wake smsg :: caller)).Owned := by
        refine owned.set ?_ (List.Subset.refl _)
        exact List.forall_mem_cons.mpr ⟨known_of_top top rfl rfl, known_callers top⟩
      exact back.of_same rfl rfl
  | wakeSender thread smsg caller top =>
      have back : (threads.setStack thread (.receive :: caller)).Owned := by
        refine owned.set ?_ (List.Subset.refl _)
        exact List.forall_mem_cons.mpr ⟨known_of_none rfl rfl, known_callers top⟩
      exact back.wake _
  | clear target phandler id =>
      have rest : (threads.set target ((threads.thread target).clear phandler id)).Owned :=
        owned.set (fun frame member => known_of_mem member) (List.filter_subset_self _)
      exact (rest.wake _).of_same rfl rfl
  | quit target =>
      have stopped : (threads.set target (threads.thread target).quit).Owned :=
        owned.set (fun frame member => known_of_mem member) (List.Subset.refl _)
      exact stopped.wake _
  | signal target => exact owned.wake _

omit [DecidableEq ThreadId] in
/-- A call that is about to wake the owner of a flag still is, when another thread takes a
step. -/
theorem Waking.of_other {before after : Threads ThreadId Handler Data} {ready : Nat}
    (waking : before.Waking ready) (thread : ThreadId)
    {upper : Frame ThreadId Handler Data} {caller : List (Frame ThreadId Handler Data)}
    (top : (before.thread thread).stack = upper :: caller)
    (silent : upper.wakesFor ≠ some ready)
    (others : ∀ other, other ≠ thread →
      (after.thread other).stack = (before.thread other).stack) : after.Waking ready := by
  obtain ⟨waker, smsg, below, wakes, same⟩ := waking
  have notMine : waker ≠ thread := by
    rintro rfl
    rw [top, List.cons.injEq] at wakes
    exact silent (by rw [wakes.1, ← same]; rfl)
  exact ⟨waker, smsg, below, by rw [others waker notMine, wakes], same⟩

/-- One thread changes and sets no flag. Its innermost waiting call is the one it was, or waits
for a flag that is not set, or a wake-up is pending. -/
theorem Heeded.set {threads : Threads ThreadId Handler Data} (heeded : threads.Heeded)
    {thread : ThreadId} {state : ThreadState ThreadId Handler Data}
    {upper : Frame ThreadId Handler Data} {caller : List (Frame ThreadId Handler Data)}
    (top : (threads.thread thread).stack = upper :: caller)
    (silent : upper.wakesFor = none)
    (mine : ∀ ready, state.stack.find? hasWaited = some (.nap ready) → ready ∈ threads.ready →
      state.fSignaled = true ∨ threads.Waking ready) : (threads.set thread state).Heeded := by
  have wakes : ∀ ready, threads.Waking ready → (threads.set thread state).Waking ready :=
    fun ready waking => waking.of_other thread top (by simp [silent])
      fun other different => by rw [set_thread_of_ne _ different]
  intro other ready found isSet
  rw [set_thread] at found ⊢
  split at found
  · rename_i same
    subst same
    rw [if_pos rfl]
    exact (mine ready found isSet).imp_right (wakes ready)
  · rename_i different
    rw [if_neg different]
    exact (heeded other ready found isSet).imp_right (wakes ready)

theorem Heeded.wake {threads : Threads ThreadId Handler Data} (heeded : threads.Heeded)
    (woken : List ThreadId) : (threads.wake woken).Heeded := by
  intro other ready found isSet
  rw [wake_stack] at found
  rcases heeded other ready found isSet with pending | ⟨waker, smsg, below, wakes, same⟩
  · refine .inl ?_
    rw [wake_thread]
    split
    · rfl
    · exact pending
  · exact .inr ⟨waker, smsg, below, by rw [wake_stack, wakes], same⟩

omit [DecidableEq ThreadId] in
/-- The innermost waiting call is below the top. -/
theorem Heeded.below {threads : Threads ThreadId Handler Data} (heeded : threads.Heeded)
    {thread : ThreadId} {stack : List (Frame ThreadId Handler Data)}
    (same : stack.find? hasWaited = (threads.thread thread).stack.find? hasWaited) :
    ∀ ready, stack.find? hasWaited = some (.nap ready) → ready ∈ threads.ready →
      (threads.thread thread).fSignaled = true ∨ threads.Waking ready :=
  fun ready found => heeded thread ready (same ▸ found)

omit [DecidableEq ThreadId] in
theorem receiveSends_find (state : ThreadState ThreadId Handler Data)
    (caller : List (Frame ThreadId Handler Data)) :
    (state.receiveSends caller).stack.find? hasWaited = caller.find? hasWaited := by
  unfold ThreadState.receiveSends ThreadState.setStack
  split <;> rfl

omit [DecidableEq ThreadId] in
theorem receiveSends_fSignaled (state : ThreadState ThreadId Handler Data)
    (caller : List (Frame ThreadId Handler Data)) :
    (state.receiveSends caller).fSignaled = state.fSignaled := by
  unfold ThreadState.receiveSends ThreadState.setStack
  split <;> rfl

omit [DecidableEq ThreadId] in
theorem lock_find (state : ThreadState ThreadId Handler Data)
    (caller : List (Frame ThreadId Handler Data)) :
    (state.lock caller).stack.find? hasWaited = caller.find? hasWaited ∧
      (state.lock caller).fSignaled = state.fSignaled := by
  unfold ThreadState.lock
  cases state.sendlist <;> exact ⟨rfl, rfl⟩

omit [DecidableEq ThreadId] in
/-- The thread that waits for a flag is the one its message names. -/
theorem Owned.sender {threads : Threads ThreadId Handler Data} (owned : threads.Owned)
    {thread : ThreadId} {ready : Nat}
    (found : (threads.thread thread).stack.find? hasWaited = some (.nap ready))
    {smsg : SendMessage ThreadId Handler Data}
    (named : threads.flags[smsg.ready]? = some smsg.thread) (same : smsg.ready = ready) :
    smsg.thread = thread := by
  have mine := owned.waiting thread _ (List.mem_of_find?_eq_some found) ready rfl
  rw [← same, named, Option.some.injEq] at mine
  exact mine

omit [DecidableEq ThreadId] in
/-- The calls stay where they are, and no flag is set. -/
theorem Heeded.of_callers {before after : Threads ThreadId Handler Data}
    (heeded : before.Heeded)
    (callers : ∀ thread, (after.thread thread).stack = (before.thread thread).stack)
    (signals : ∀ thread, (before.thread thread).fSignaled = true →
      (after.thread thread).fSignaled = true)
    (ready : after.ready = before.ready) : after.Heeded := by
  intro thread flag found isSet
  rw [callers] at found
  rcases heeded thread flag found (ready ▸ isSet) with pending | ⟨waker, smsg, below, wakes, same⟩
  · exact .inl (signals thread pending)
  · exact .inr ⟨waker, smsg, below, callers waker ▸ wakes, same⟩

theorem leave_heeded {threads : Threads ThreadId Handler Data} (heeded : threads.Heeded)
    {thread : ThreadId} {ready : Nat} {waited : Bool}
    {caller : List (Frame ThreadId Handler Data)}
    (top : (threads.thread thread).stack = .await ready waited :: caller) :
    (threads.leave thread ready waited caller).Heeded := by
  cases waited with
  | false =>
      have back : (threads.setStack thread caller).Heeded :=
        heeded.set top rfl (heeded.below (by rw [top]; rfl))
      exact (back.wake []).of_callers (fun _ => rfl) (fun _ => id) rfl
  | true =>
      -- The wake-ups it has taken are made good to the calls below.
      intro other flag found isSet
      have changed : ∀ third, third ≠ thread →
          ((threads.leave thread ready true caller).thread third) = threads.thread third := by
        intro third different
        show ((threads.setStack thread caller).wake [thread]).thread third = _
        rw [wake_thread, if_neg (by simpa using different), Threads.setStack,
          set_thread_of_ne _ different]
      by_cases same : other = thread
      · subst same
        refine .inl ?_
        show (((threads.setStack other caller).wake [other]).thread other).fSignaled = true
        rw [wake_thread, if_pos List.mem_cons_self]
        rfl
      · rw [changed other same] at found ⊢
        refine (heeded other flag found isSet).imp_right fun waking => ?_
        exact waking.of_other thread top (by simp [Frame.wakesFor])
          fun third different => by rw [changed third different]

theorem handle_heeded {threads : Threads ThreadId Handler Data} (heeded : threads.Heeded)
    {thread : ThreadId} {smsg : SendMessage ThreadId Handler Data}
    {caller : List (Frame ThreadId Handler Data)}
    (top : (threads.thread thread).stack = .handle smsg :: caller) :
    (threads.handle thread smsg caller).Heeded := by
  have mine : ((threads.handle thread smsg caller).thread thread).stack = .wake smsg :: caller := by
    show ((threads.setStack thread (.wake smsg :: caller)).thread thread).stack = _
    rw [Threads.setStack, set_thread_self]
    rfl
  have back : (threads.setStack thread (.wake smsg :: caller)).Heeded :=
    heeded.set top rfl (heeded.below (by rw [top]; rfl))
  intro other ready found isSet
  by_cases now : smsg.ready = ready
  · exact .inr ⟨thread, smsg, caller, mine, now⟩
  · refine back other ready found ?_
    simp only [Threads.ready, Threads.handle, List.append_assoc, List.mem_append,
      List.mem_singleton] at isSet
    rcases isSet with earlier | (same | cleared)
    · exact List.mem_append_left _ earlier
    · exact absurd same.symm now
    · exact List.mem_append_right _ cleared

theorem wakeSender_heeded {threads : Threads ThreadId Handler Data} (owned : threads.Owned)
    (heeded : threads.Heeded) {thread : ThreadId} {smsg : SendMessage ThreadId Handler Data}
    {caller : List (Frame ThreadId Handler Data)}
    (top : (threads.thread thread).stack = .wake smsg :: caller) :
    ((threads.setStack thread (.receive :: caller)).wake [smsg.thread]).Heeded := by
  intro other ready found isSet
  have before : (threads.thread other).stack.find? hasWaited = some (.nap ready) := by
    rw [wake_stack, Threads.setStack, set_thread] at found
    split at found
    · rename_i same
      rw [same, top]
      exact found
    · exact found
  have signals : (threads.thread other).fSignaled = true →
      (((threads.setStack thread (.receive :: caller)).wake [smsg.thread]).thread
        other).fSignaled = true := by
    intro pending
    rw [wake_thread]
    split
    · rfl
    · rw [Threads.setStack, set_thread]
      split
      · rename_i same
        exact same ▸ pending
      · exact pending
  rcases heeded other ready before isSet with pending | waking
  · exact .inl (signals pending)
  · by_cases now : smsg.ready = ready
    · have named := owned.received thread (.wake smsg) (by rw [top]; exact List.mem_cons_self)
        smsg rfl
      have isSender := owned.sender before named now
      refine .inl ?_
      rw [wake_thread, if_pos (by rw [isSender]; exact List.mem_cons_self)]
      rfl
    · refine .inr (waking.of_other thread top ?_ ?_)
      · simpa [Frame.wakesFor] using now
      · intro third different
        rw [wake_stack, Threads.setStack, set_thread_of_ne _ different]

theorem clear_heeded [DecidableEq Handler] {threads : Threads ThreadId Handler Data}
    (owned : threads.Owned) (heeded : threads.Heeded) (target : ThreadId)
    (phandler : Option Handler) (id : BitVec 32) :
    (threads.clear target phandler id).Heeded := by
  have callers : ∀ other, ((threads.clear target phandler id).thread other).stack =
      (threads.thread other).stack := by
    intro other
    show ((Threads.wake _ _).thread other).stack = _
    rw [wake_stack, set_thread]
    split
    · rename_i same
      rw [same]
      rfl
    · rfl
  have signals : ∀ other, (threads.thread other).fSignaled = true →
      ((threads.clear target phandler id).thread other).fSignaled = true := by
    intro other pending
    show ((Threads.wake _ _).thread other).fSignaled = true
    rw [wake_thread]
    split
    · rfl
    · rw [set_thread]
      split
      · rename_i same
        exact same ▸ pending
      · exact pending
  intro other ready found isSet
  rw [callers] at found
  simp only [Threads.ready, Threads.clear, List.mem_append, List.mem_map] at isSet
  have earlier : ready ∈ threads.ready → ((threads.clear target phandler id).thread
      other).fSignaled = true ∨ (threads.clear target phandler id).Waking ready := by
    intro wasSet
    rcases heeded other ready found wasSet with pending | ⟨waker, smsg, below, wakes, same⟩
    · exact .inl (signals other pending)
    · exact .inr ⟨waker, smsg, below, by rw [callers, wakes], same⟩
  rcases isSet with handled | (cleared | ⟨smsg, taken, same⟩)
  · exact earlier (List.mem_append_left _ handled)
  · exact earlier (List.mem_append_right _ cleared)
  · have named := owned.queued target smsg (List.mem_of_mem_filter taken)
    have isSender := owned.sender found named same
    refine .inl ?_
    show ((Threads.wake _ _).thread other).fSignaled = true
    rw [wake_thread, if_pos (List.mem_map.mpr ⟨smsg, taken, isSender⟩)]
    rfl

theorem push_heeded {threads : Threads ThreadId Handler Data} (heeded : threads.Heeded)
    {thread target : ThreadId} {msg : Message Handler Data}
    {caller : List (Frame ThreadId Handler Data)}
    (top : (threads.thread thread).stack = .call target msg :: caller) :
    (threads.push thread target msg caller).Heeded := by
  let queued := threads.set target
    ((threads.thread target).push ⟨thread, msg, threads.nextReady⟩)
  have callers : ∀ other, (queued.thread other).stack = (threads.thread other).stack := by
    intro other
    show ((threads.set target _).thread other).stack = _
    rw [set_thread]
    split
    · rename_i same
      rw [same]
      rfl
    · rfl
  have stillHeeded : queued.Heeded := by
    refine heeded.of_callers callers (fun other => ?_) rfl
    show _ → ((threads.set target _).thread other).fSignaled = true
    rw [set_thread]
    split
    · rename_i same
      rw [same]
      exact id
    · exact id
  have back : (queued.setStack thread (.posted target threads.nextReady :: caller)).Heeded :=
    stillHeeded.set ((callers thread).trans top) rfl
      (stillHeeded.below (by rw [callers, top]; rfl))
  exact back.of_callers (fun _ => rfl) (fun _ => id) rfl

theorem took_heeded [DecidableEq Handler] {threads after : Threads ThreadId Handler Data}
    (formed : threads.AllFormed) (owned : threads.Owned) (heeded : threads.Heeded)
    (took : threads.Took after) : after.Heeded := by
  cases took with
  | receiveSends thread caller top =>
      refine heeded.set top rfl ?_
      rw [receiveSends_find, receiveSends_fSignaled]
      exact heeded.below (by rw [top]; rfl)
  | dispatch thread caller top =>
      exact heeded.set top rfl (heeded.below (by rw [top]; rfl))
  | sleep thread caller top running =>
      exact heeded.set top rfl (heeded.below (by rw [top]; rfl))
  | stop thread caller top stopped =>
      refine heeded.set top rfl fun ready found => ?_
      cases found
  | wait thread caller top =>
      obtain rfl := formed_asleep (formed.top top)
      refine heeded.set top rfl fun ready found => ?_
      cases found
  | waitFailed thread caller top =>
      refine heeded.set top rfl fun ready found => ?_
      cases found
  | waitInSend thread ready caller top =>
      refine heeded.set top rfl fun flag found => ?_
      cases found
  | send thread target msg caller top calls other =>
      unfold send
      split
      · exact heeded
      · have runs := runs_of_runsHandler (formed.top top) calls
        cases runs with
        | dispatch =>
            exact heeded.set top rfl (heeded.below (by rw [top]; rfl))
        | handle smsg waits =>
            exact heeded.set top rfl (heeded.below (by rw [top]; rfl))
  | push thread target msg caller top =>
      exact push_heeded heeded top
  | wakeTarget thread target ready caller top =>
      have back : (threads.setStack thread (.await ready false :: caller)).Heeded :=
        heeded.set top rfl (heeded.below (by rw [top]; rfl))
      exact back.wake _
  | notReady thread ready waited caller top unset =>
      refine heeded.set top rfl fun flag found isSet => ?_
      rw [receiveSends_find] at found
      cases found
      exact absurd isSet unset
  | leave thread ready waited caller top isSet => exact leave_heeded heeded top
  | lock thread caller top =>
      refine heeded.set top rfl ?_
      rw [(lock_find _ caller).1, (lock_find _ caller).2]
      exact heeded.below (by rw [top]; rfl)
  | finish thread caller top =>
      exact heeded.set top rfl (heeded.below (by rw [top]; rfl))
  | handle thread smsg caller top => exact handle_heeded heeded top
  | wakeSender thread smsg caller top => exact wakeSender_heeded owned heeded top
  | clear target phandler id => exact clear_heeded owned heeded target phandler id
  | quit target =>
      have stopped : (threads.set target (threads.thread target).quit).Heeded := by
        refine heeded.of_callers (fun thread => ?_) (fun thread => ?_) rfl
        all_goals
          rw [set_thread]
          split
          · rename_i same
            rw [same]
            first | rfl | exact id
          · first | rfl | exact id
      exact stopped.wake _
  | signal target => exact heeded.wake _

/-- What every reachable state satisfies. -/
structure Coherent (threads : Threads ThreadId Handler Data) : Prop where
  formed : threads.AllFormed
  accounted : threads.Accounted
  rising : threads.AllRising
  flagged : threads.Flagged
  attended : threads.Attended
  owned : threads.Owned
  heeded : threads.Heeded

theorem reachable_coherent [DecidableEq Handler] {threads : Threads ThreadId Handler Data}
    (reached : Reachable threads) : threads.Coherent := by
  induction reached with
  | started =>
      exact
        { formed := reachable_formed .started
          accounted := reachable_accounted .started
          rising := fun _ => List.pairwise_singleton _ _
          flagged := fun _ more => absurd rfl more
          attended := fun _ _ _ _ _ => .inl rfl
          owned :=
            { waiting := fun _ frame member ready waitsFor => by
                cases List.mem_singleton.mp member
                cases waitsFor
              queued := fun _ smsg member => by cases member
              received := fun _ frame member smsg received => by
                cases List.mem_singleton.mp member
                cases received }
          heeded := fun _ _ found => by cases found }
  | next reached took ih =>
      exact
        { formed := took_formed ih.formed took
          accounted := took_accounted ih.formed ih.accounted took
          rising := took_rising ih.accounted ih.rising took
          flagged := took_flagged ih.flagged took
          attended := took_attended ih.formed ih.flagged ih.attended took
          owned := took_owned ih.owned took
          heeded := took_heeded ih.formed ih.owned ih.heeded took }

/-- The thread is in `Wait`, of `Get` or of `Send`, and no wake-up is pending. -/
def Blocked (threads : Threads ThreadId Handler Data) (thread : ThreadId) : Prop :=
  (threads.thread thread).fSignaled = false ∧ ∃ upper caller,
    (threads.thread thread).stack = upper :: caller ∧
      (upper = .asleep ∨ ∃ ready, upper = .nap ready)

/-- The thread has left its loop, and nothing was sent to it that it has not handled. -/
def Finished (threads : Threads ThreadId Handler Data) (thread : ThreadId) : Prop :=
  (threads.thread thread).stack = [] ∧ (threads.thread thread).sendlist = []

section Standstill

variable {threads : Threads ThreadId Handler Data}

omit [DecidableEq ThreadId] in
theorem not_posting (still : ∀ thread, threads.Blocked thread ∨ threads.Finished thread)
    (target : ThreadId) : ¬ threads.Posting target := by
  rintro ⟨thread, ready, caller, posted⟩
  rcases still thread with ⟨-, upper, below, top, waits⟩ | ⟨finished, -⟩
  · rw [posted, List.cons.injEq] at top
    rcases waits with rfl | ⟨flag, rfl⟩ <;> cases top.1
  · rw [posted] at finished
    cases finished

omit [DecidableEq ThreadId] in
theorem not_waking (still : ∀ thread, threads.Blocked thread ∨ threads.Finished thread)
    (ready : Nat) : ¬ threads.Waking ready := by
  rintro ⟨thread, smsg, caller, wakes, -⟩
  rcases still thread with ⟨-, upper, below, top, waits⟩ | ⟨finished, -⟩
  · rw [wakes, List.cons.injEq] at top
    rcases waits with rfl | ⟨flag, rfl⟩ <;> cases top.1
  · rw [wakes] at finished
    cases finished

omit [DecidableEq ThreadId] in
theorem sendlist_empty (attended : threads.Attended)
    (still : ∀ thread, threads.Blocked thread ∨ threads.Finished thread) (thread : ThreadId) :
    (threads.thread thread).sendlist = [] := by
  rcases still thread with ⟨quiet, upper, below, top, waits⟩ | ⟨-, empty⟩
  · have isWaiting : upper.waits = true := by rcases waits with rfl | ⟨flag, rfl⟩ <;> rfl
    rcases attended thread upper below top isWaiting with empty | pending | posting
    · exact empty
    · rw [quiet] at pending
      cases pending
    · exact absurd posting (not_posting still thread)
  · exact empty

omit [DecidableEq ThreadId] in
/-- A `Send` that waits in a standstill waits for a message handled by a thread that waits
itself, for a message sent later. -/
theorem not_napping (coherent : threads.Coherent)
    (still : ∀ thread, threads.Blocked thread ∨ threads.Finished thread) {thread : ThreadId}
    {ready : Nat} {caller : List (Frame ThreadId Handler Data)}
    (top : (threads.thread thread).stack = .nap ready :: caller) : False := by
  induction remaining : threads.flags.length - ready using Nat.strong_induction_on
    generalizing thread ready caller with
  | _ remaining ih =>
      have mine := coherent.owned.waiting thread (.nap ready)
        (by rw [top]; exact List.mem_cons_self) ready rfl
      have given : ready < threads.flags.length := (List.getElem?_eq_some_iff.mp mine).1
      rcases (coherent.accounted.all ready).mp given with isSet | ⟨holder, isHeld⟩
      · have found : (threads.thread thread).stack.find? hasWaited = some (.nap ready) := by
          rw [top]
          rfl
        rcases coherent.heeded thread ready found isSet with pending | waking
        · rcases still thread with ⟨quiet, -⟩ | ⟨finished, -⟩
          · rw [quiet] at pending
            cases pending
          · rw [top] at finished
            cases finished
        · exact not_waking still ready waking
      · rw [ThreadState.held, sendlist_empty coherent.attended still holder, List.map_nil,
          List.nil_append] at isHeld
        obtain ⟨frame, member, handles⟩ := List.mem_filterMap.mp isHeld
        rcases still holder with ⟨-, upper, below, holderTop, waits⟩ | ⟨finished, -⟩
        · rcases waits with rfl | ⟨later, rfl⟩
          · obtain rfl := formed_asleep (coherent.formed.top holderTop)
            rw [holderTop] at member
            cases List.mem_singleton.mp member
            cases handles
          · rw [holderTop] at member
            rcases List.mem_cons.mp member with rfl | underneath
            · cases handles
            · have newer := (List.pairwise_cons.mp (coherent.rising.top holderTop)).1 frame
                underneath later rfl ready handles
              exact ih (threads.flags.length - later) (by omega) holderTop rfl
        · rw [finished] at member
          cases member

end Standstill

/-- Threads may send to each other in a circle and from within handlers: when every thread
waits without a wake-up pending, or has left its loop, then every `Send` has returned and
every message was handled or cleared, unless one stands in the list of a thread that has
left. -/
theorem sends_return_iff [DecidableEq Handler] {threads : Threads ThreadId Handler Data}
    (reached : Reachable threads)
    (still : ∀ thread, threads.Blocked thread ∨ (threads.thread thread).stack = []) :
    ((∀ thread, (threads.thread thread).stack = [.asleep] ∨ (threads.thread thread).stack = []) ∧
        ∀ flag < threads.flags.length, flag ∈ threads.handled ++ threads.cleared) ↔
      ∀ thread, (threads.thread thread).stack = [] → (threads.thread thread).sendlist = [] := by
  have coherent := reachable_coherent reached
  constructor
  · intro returned thread _
    rw [List.eq_nil_iff_forall_not_mem]
    intro smsg queued
    have isHeld : smsg.ready ∈ (threads.thread thread).held :=
      List.mem_append_left _ (List.mem_map_of_mem queued)
    have given := (coherent.accounted.all smsg.ready).mpr (.inr ⟨thread, isHeld⟩)
    exact coherent.accounted.heldUnset thread isHeld (returned.2 smsg.ready given)
  · intro empty
    have finished : ∀ thread, threads.Blocked thread ∨ threads.Finished thread := fun thread =>
      (still thread).imp_right fun left => ⟨left, empty thread left⟩
    have asleep : ∀ thread, (threads.thread thread).stack = [.asleep] ∨
        (threads.thread thread).stack = [] := by
      intro thread
      rcases still thread with ⟨-, upper, caller, top, waits⟩ | left
      · rcases waits with rfl | ⟨ready, rfl⟩
        · obtain rfl := formed_asleep (coherent.formed.top top)
          exact .inl top
        · exact (not_napping coherent finished top).elim
      · exact .inr left
    refine ⟨asleep, fun flag given => ?_⟩
    rcases (coherent.accounted.all flag).mp given with isSet | ⟨holder, isHeld⟩
    · exact isSet
    · rw [ThreadState.held, sendlist_empty coherent.attended finished holder, List.map_nil,
        List.nil_append] at isHeld
      rcases asleep holder with sleeps | left
      · rw [handles_of_top sleeps rfl] at isHeld
        cases isHeld
      · rw [left] at isHeld
        cases isHeld

/-- The thread `false` sends one message to the thread `true` while it dispatches another. -/
theorem one_send_returns :
    ∃ threads : Threads Bool Unit Unit, Reachable threads ∧ threads.flags = [false] ∧
      0 ∈ threads.handled ++ threads.cleared := by
  have started : Reachable (started : Threads Bool Unit Unit) := .started
  have dispatched := (started.next (.receiveSends false [] rfl)).next (.dispatch false [] rfl)
  have sent := (dispatched.next (.send false true ⟨none, 1, none, 0⟩ _ rfl rfl (by decide))).next
    (.push false true ⟨none, 1, none, 0⟩ [.dispatch, .get] rfl)
  have napping := (sent.next (.wakeTarget false true 0 [.dispatch, .get] rfl)).next
    (.notReady false 0 false [.dispatch, .get] rfl (by decide))
  have taken := (napping.next (.receiveSends true [] rfl)).next (.lock true [.scan] rfl)
  have handled := (taken.next (.handle true ⟨false, ⟨none, 1, none, 0⟩, 0⟩ [.scan] rfl)).next
    (.wakeSender true ⟨false, ⟨none, 1, none, 0⟩, 0⟩ [.scan] rfl)
  have drained := (handled.next (.lock true [.scan] rfl)).next (.sleep true [] rfl rfl)
  have awake := drained.next (.waitInSend false 0 [.dispatch, .get] rfl)
  have returned := (awake.next (.leave false 0 true [.dispatch, .get] rfl (by decide))).next
    (.finish false [.get] rfl)
  have asleep := (returned.next (.receiveSends false [] rfl)).next (.sleep false [] rfl rfl)
  have cleaned := ((asleep.next (.wait false [] rfl)).next (.receiveSends false [] rfl)).next
    (.sleep false [] rfl rfl)
  have still := ((cleaned.next (.wait true [] rfl)).next (.receiveSends true [] rfl)).next
    (.sleep true [] rfl rfl)
  refine ⟨_, still, rfl, ((sends_return_iff still ?_).mpr ?_).2 0 (by decide)⟩
  · intro thread
    cases thread
    · exact .inl ⟨rfl, .asleep, [], rfl, .inl rfl⟩
    · exact .inl ⟨rfl, .asleep, [], rfl, .inl rfl⟩
  · intro thread left
    cases thread <;> cases left

/-- The thread `true` is told to quit and leaves its loop before the message of a `Send`
that had found it running is queued: the thread `false` waits, and nothing wakes it. -/
theorem late_send_waits :
    ∃ threads : Threads Bool Unit Unit, Reachable threads ∧ threads.Blocked false ∧
      (threads.thread true).stack = [] ∧ 0 ∉ threads.handled ++ threads.cleared := by
  have started : Reachable (started : Threads Bool Unit Unit) := .started
  have dispatched := (started.next (.receiveSends false [] rfl)).next (.dispatch false [] rfl)
  have called := dispatched.next (.send false true ⟨none, 1, none, 0⟩ _ rfl rfl (by decide))
  have left := ((called.next (.quit true)).next (.receiveSends true [] rfl)).next
    (.stop true [] rfl rfl)
  have sent := (left.next (.push false true ⟨none, 1, none, 0⟩ [.dispatch, .get] rfl)).next
    (.wakeTarget false true 0 [.dispatch, .get] rfl)
  have napping := sent.next (.notReady false 0 false [.dispatch, .get] rfl (by decide))
  exact ⟨_, napping, ⟨rfl, .nap 0, [.dispatch, .get], rfl, .inr ⟨0, rfl⟩⟩, rfl, by decide⟩

end Threads

end FiberApp.Messaging
