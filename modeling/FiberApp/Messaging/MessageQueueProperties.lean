import FiberApp.Foundation.Execution
import FiberApp.Messaging.MessageQueue

/-! What a message queue does with the messages it accepts, whatever the interleaving of its
owner with the threads that post, clear and quit: none is lost, none is handed out twice, and
none overtakes one that is in line before it. -/

set_option autoImplicit false

namespace FiberApp.Messaging

open FiberApp.Foundation

variable {Handler Data : Type}

theorem pair_sublist_left {Entry : Type} {first second : Entry} {left right : List Entry}
    (both : [first, second].Sublist (left ++ right)) (notRight : second ∉ right) :
    [first, second].Sublist left := by
  obtain ⟨fromLeft, fromRight, split, inLeft, inRight⟩ := List.sublist_append_iff.mp both
  have none_right : fromRight = [] := by
    rcases List.eq_nil_or_concat fromRight with empty | ⟨initial, last, rfl⟩
    · exact empty
    · have lastIs : last = second := by
        have lasts := congrArg List.getLast? split
        simpa using lasts.symm
      exact absurd (inRight.mem (by simp [lastIs])) notRight
  rw [split, none_right, List.append_nil]
  exact inLeft

theorem takeReady_eq {ready disposed left : List (Message Handler Data)}
    {found : Option (Message Handler Data)} (taken : takeReady ready = (disposed, found, left)) :
    ready = disposed ++ found.toList ++ left := by
  induction ready generalizing disposed with
  | nil =>
      simp only [takeReady, Prod.mk.injEq] at taken
      obtain ⟨rfl, rfl, rfl⟩ := taken
      rfl
  | cons message rest ih =>
      rw [takeReady] at taken
      split at taken
      · simp only [Prod.mk.injEq] at taken
        obtain ⟨rfl, rfl, rfl⟩ := taken
        rw [List.cons_append, List.cons_append, ← ih rfl]
      · simp only [Prod.mk.injEq] at taken
        obtain ⟨rfl, rfl, rfl⟩ := taken
        rfl

theorem takeReady_disposed {ready disposed left : List (Message Handler Data)}
    {found : Option (Message Handler Data)} (taken : takeReady ready = (disposed, found, left)) :
    ∀ message ∈ disposed, message.messageId = mqidDispose := by
  induction ready generalizing disposed with
  | nil =>
      simp only [takeReady, Prod.mk.injEq] at taken
      simp [← taken.1]
  | cons message rest ih =>
      rw [takeReady] at taken
      split at taken
      · rename_i disposable
        simp only [Prod.mk.injEq] at taken
        obtain ⟨rfl, rfl, rfl⟩ := taken
        exact List.forall_mem_cons.mpr ⟨disposable, ih rfl⟩
      · simp only [Prod.mk.injEq] at taken
        simp [← taken.1]

theorem takeReady_left_of_none {ready disposed left : List (Message Handler Data)}
    (taken : takeReady ready = (disposed, none, left)) : left = [] := by
  induction ready generalizing disposed with
  | nil =>
      simp only [takeReady, Prod.mk.injEq] at taken
      exact taken.2.2.symm
  | cons message rest ih =>
      rw [takeReady] at taken
      split at taken
      · simp only [Prod.mk.injEq] at taken
        obtain ⟨rfl, notFound, rfl⟩ := taken
        exact ih (Prod.ext rfl (Prod.ext notFound rfl))
      · simp at taken

namespace MessageQueue

/-- The messages in the order in which they are to be handed out. -/
def line (queue : MessageQueue Handler Data) : List (Message Handler Data) :=
  queue.msgPeek.toList ++ (queue.msgq ++ queue.dmsgq.entries.map DelayedMessage.msg)

theorem pending_eq_line (queue : MessageQueue Handler Data) : queue.pending = queue.line := by
  rw [pending, line, List.append_assoc]

theorem size_eq (queue : MessageQueue Handler Data) : queue.size = queue.pending.length := by
  simp only [size, pending, List.length_append, List.length_map]
  omega

theorem enqueue_line (queue : MessageQueue Handler Data) (now : TimeStamp)
    (request : Request Handler Data) :
    (queue.enqueue now request).line.Perm (request.message now :: queue.line) ∧
      queue.line.Sublist (queue.enqueue now request).line := by
  cases request with
  | post phandler id pdata timeSensitive =>
      simp only [enqueue, wakeUp, line, List.append_assoc, List.cons_append, List.nil_append]
      refine ⟨?_, (List.Sublist.refl _).append
        ((List.Sublist.refl _).append (List.sublist_cons_self _ _))⟩
      rw [← List.append_assoc, ← List.append_assoc]
      exact List.perm_middle
  | delayed cmsDelay tstamp phandler id pdata posted =>
      simp only [enqueue, wakeUp, line, ← List.append_assoc]
      constructor
      · have placed := (queue.dmsgq.push_perm
          ⟨cmsDelay, tstamp, queue.dmsgqNextNum,
            (Request.delayed cmsDelay tstamp phandler id pdata posted).message now,
            posted⟩).map DelayedMessage.msg
        exact (placed.append_left _).trans List.perm_middle
      · refine (List.Sublist.refl _).append (List.Sublist.map _ ?_)
        exact List.sublist_orderedInsert _ _

theorem clear_line [DecidableEq Handler] (queue : MessageQueue Handler Data)
    (phandler : Option Handler) (id : BitVec 32) :
    (queue.clear phandler id).1.line =
        queue.line.filter (fun message => !message.isMatch phandler id) ∧
      (queue.clear phandler id).2 =
        queue.line.filter (fun message => message.isMatch phandler id) := by
  simp only [clear, line, List.filter_append, Option.toList_filter, PriorityQueue.keep,
    List.filter_map, List.append_assoc, Function.comp_def, and_self]

/-- The head of the line goes: what is disposed of, and the message found. -/
theorem scan_line (queue : MessageQueue Handler Data) (msCurrent : TimeStamp)
    (noPeek : queue.msgPeek = none) :
    queue.line = (queue.scan msCurrent).disposed ++
      ((queue.scan msCurrent).found.toList ++ (queue.scan msCurrent).queue.line) := by
  have split := queue.dmsgq.taken_append_remaining (triggered msCurrent)
  have ready : queue.ready msCurrent = (takeReady (queue.ready msCurrent)).1 ++
      (takeReady (queue.ready msCurrent)).2.1.toList ++
        (takeReady (queue.ready msCurrent)).2.2 := takeReady_eq rfl
  simp only [line, noPeek, Option.toList_none, List.nil_append, scan]
  rw [← split, List.map_append, ← List.append_assoc, ← MessageQueue.ready]
  conv_lhs => rw [ready]
  simp only [List.append_assoc]

theorem scan_disposed (queue : MessageQueue Handler Data) (msCurrent : TimeStamp) :
    ∀ message ∈ (queue.scan msCurrent).disposed, message.messageId = mqidDispose :=
  takeReady_disposed rfl

theorem scan_msgq_of_none {queue : MessageQueue Handler Data} {msCurrent : TimeStamp}
    (notFound : (queue.scan msCurrent).found = none) :
    (queue.scan msCurrent).queue.msgq = [] :=
  takeReady_left_of_none (Prod.ext rfl (Prod.ext notFound rfl))

end MessageQueue

namespace System

/-- The messages handed out, and those in line after them. -/
def line (system : System Handler Data) : List (Message Handler Data) :=
  system.history.delivered ++ system.queue.line

/-- The messages that left the queue without being handed out. -/
def removed (system : System Handler Data) : List (Message Handler Data) :=
  system.history.disposed ++ system.history.cleared

/-- A step adds `news` to the books and takes `gone` out of the line. Whatever else is in
line stays there, in its order. -/
structure Accounts (before after : System Handler Data)
    (news gone : List (Message Handler Data)) : Prop where
  accepted : after.history.accepted.Perm (news ++ before.history.accepted)
  removed : after.removed.Perm (gone ++ before.removed)
  line : (gone ++ after.line).Perm (news ++ before.line)
  order : ∀ kept : List (Message Handler Data), kept.Sublist before.line →
    (∀ message ∈ kept, message ∉ gone) → kept.Sublist after.line

/-- While a call of `Get` is under way, nothing is peeked at. -/
def Unpeeked (system : System Handler Data) : Prop :=
  system.consumer ≠ .idle → system.queue.msgPeek = none

theorem Accounts.of_same_line {before after : System Handler Data}
    (accepted : after.history.accepted = before.history.accepted)
    (removed : after.removed = before.removed) (line : after.line = before.line) :
    Accounts before after [] [] :=
  { accepted := by rw [accepted, List.nil_append]
    removed := by rw [removed, List.nil_append]
    line := by rw [line]
    order := fun kept sublist _ => by rwa [line] }

/-- `gone` leaves from the middle of the line. -/
theorem Accounts.of_left {before after : System Handler Data}
    {front gone rest : List (Message Handler Data)}
    (accepted : after.history.accepted = before.history.accepted)
    (removed : after.removed.Perm (gone ++ before.removed))
    (lineBefore : before.line = front ++ (gone ++ rest)) (lineAfter : after.line = front ++ rest) :
    Accounts before after [] gone where
  accepted := by rw [accepted, List.nil_append]
  removed := removed
  line := by
    rw [lineBefore, lineAfter, List.nil_append, ← List.append_assoc, ← List.append_assoc]
    exact List.perm_append_comm.append_right _
  order := by
    intro kept sublist avoids
    rw [lineBefore] at sublist
    rw [lineAfter]
    obtain ⟨first, other, rfl, inFront, inOther⟩ := List.sublist_append_iff.mp sublist
    obtain ⟨middle, last, rfl, inGone, inRest⟩ := List.sublist_append_iff.mp inOther
    have absent : middle = [] := by
      refine List.eq_nil_iff_forall_not_mem.mpr fun message member => ?_
      exact avoids message (by simp [member]) (inGone.mem member)
    subst absent
    exact inFront.append inRest

theorem call_eq (system : System Handler Data) (request : Request Handler Data) :
    (system.call request).queue = system.queue ∧
      (system.call request).history = system.history ∧
      (system.call request).consumer = system.consumer := by
  unfold call
  split <;> exact ⟨rfl, rfl, rfl⟩

theorem call_accounts (system : System Handler Data) (request : Request Handler Data) :
    Accounts system (system.call request) [] [] := by
  obtain ⟨queue, history, -⟩ := system.call_eq request
  exact .of_same_line (by rw [history]) (by rw [removed, history, removed])
    (by rw [line, queue, history, line])

theorem handOut_line (system : System Handler Data) (getCall : GetCall)
    (message : Message Handler Data) (noPeek : system.queue.msgPeek = none) :
    (system.handOut getCall message).line =
      system.history.delivered ++ (message :: system.queue.line) := by
  unfold handOut
  split
  · simp [line, MessageQueue.line, noPeek]
  · simp [line]

theorem handOut_books (system : System Handler Data) (getCall : GetCall)
    (message : Message Handler Data) :
    (system.handOut getCall message).history.accepted = system.history.accepted ∧
      (system.handOut getCall message).removed = system.removed ∧
      (system.handOut getCall message).consumer = .idle := by
  unfold handOut
  split <;> exact ⟨rfl, rfl, rfl⟩

theorem takePeek_msgPeek (system : System Handler Data) :
    system.takePeek.queue.msgPeek = none := rfl

theorem get_accounts (system : System Handler Data) (cmsWait : Option Int) (keep : Bool) :
    Accounts system (system.get cmsWait keep) [] [] := by
  unfold get
  cases peeked : system.queue.msgPeek with
  | none => exact .of_same_line rfl rfl rfl
  | some message =>
      obtain ⟨accepted, removed, -⟩ :=
        handOut_books system.takePeek ⟨cmsWait, time system.clock, keep⟩ message
      refine .of_same_line accepted removed ?_
      rw [handOut_line _ _ _ system.takePeek_msgPeek]
      simp [line, MessageQueue.line, takePeek, peeked]

theorem scanned_removed (system : System Handler Data) (msCurrent : TimeStamp) :
    (system.scanned msCurrent).removed.Perm
      ((system.queue.scan msCurrent).disposed ++ system.removed) := by
  simp only [removed, scanned]
  rw [← List.append_assoc]
  exact List.perm_append_comm.append_right _

theorem scan_of_none {system : System Handler Data} {msCurrent : TimeStamp}
    (notFound : (system.queue.scan msCurrent).found = none) (getCall : GetCall) :
    system.scan getCall msCurrent =
      { system.scanned msCurrent with
        consumer := .testing getCall msCurrent (system.queue.scan msCurrent).cmsDelayNext } := by
  simp only [scan, notFound]

theorem scan_of_some {system : System Handler Data} {msCurrent : TimeStamp}
    {message : Message Handler Data}
    (found : (system.queue.scan msCurrent).found = some message) (getCall : GetCall) :
    system.scan getCall msCurrent = (system.scanned msCurrent).handOut getCall message := by
  simp only [scan, found]

theorem scan_accounts (system : System Handler Data) (getCall : GetCall) (msCurrent : TimeStamp)
    (noPeek : system.queue.msgPeek = none) :
    Accounts system (system.scan getCall msCurrent) []
      (system.queue.scan msCurrent).disposed := by
  have lineBefore : system.line = system.history.delivered ++
      ((system.queue.scan msCurrent).disposed ++ ((system.queue.scan msCurrent).found.toList ++
        (system.queue.scan msCurrent).queue.line)) := by
    rw [line, system.queue.scan_line msCurrent noPeek]
  cases found : (system.queue.scan msCurrent).found with
  | none =>
      rw [found] at lineBefore
      rw [scan_of_none found]
      exact .of_left rfl (system.scanned_removed msCurrent) lineBefore rfl
  | some message =>
      rw [found] at lineBefore
      rw [scan_of_some found]
      obtain ⟨accepted, removedSame, -⟩ :=
        handOut_books (system.scanned msCurrent) getCall message
      exact .of_left accepted (removedSame ▸ system.scanned_removed msCurrent) lineBefore
        (handOut_line _ getCall message noPeek)

theorem enqueue_accounts (system : System Handler Data) (position : Nat)
    (request : Request Handler Data) :
    Accounts system (system.enqueue position request) [request.message (time system.clock)] [] where
  accepted := List.perm_append_comm
  removed := List.Perm.refl _
  line := ((system.queue.enqueue_line _ request).1.append_left _).trans List.perm_middle
  order := fun _ sublist _ =>
    sublist.trans ((List.Sublist.refl _).append (system.queue.enqueue_line _ request).2)

/-- The messages that `Clear` takes out, wherever they are in line. -/
theorem clear_accounts [DecidableEq Handler] (system : System Handler Data)
    (phandler : Option Handler) (id : BitVec 32) :
    Accounts system (system.clear phandler id) [] (system.queue.clear phandler id).2 := by
  obtain ⟨lineAfter, gone⟩ := system.queue.clear_line phandler id
  have lineEq : (system.clear phandler id).line = system.history.delivered ++
      system.queue.line.filter fun message => !message.isMatch phandler id := by
    rw [← lineAfter]
    rfl
  refine
    { accepted := List.Perm.refl _
      removed := ?_
      line := ?_
      order := ?_ }
  · simp only [removed, clear]
    rw [← List.append_assoc]
    exact List.perm_append_comm
  · rw [lineEq, gone, line, List.nil_append, ← List.append_assoc]
    refine (List.perm_append_comm.append_right _).trans ?_
    rw [List.append_assoc]
    exact (List.filter_append_perm _ system.queue.line).append_left _
  · intro kept sublist avoids
    rw [lineEq]
    obtain ⟨first, rest, rfl, inDelivered, inLine⟩ := List.sublist_append_iff.mp sublist
    have stays : rest.filter (fun message => !message.isMatch phandler id) = rest := by
      refine List.filter_eq_self.mpr fun message member => ?_
      have notGone := avoids message (List.mem_append_right _ member)
      rw [gone, List.mem_filter] at notGone
      simpa [inLine.mem member] using notGone
    exact inDelivered.append (stays ▸ inLine.filter _)

theorem wait_eq (system : System Handler Data) (getCall : GetCall) (succeeded : Bool) :
    ∃ consumer, system.wait getCall succeeded = { system.woken with consumer := consumer } := by
  unfold wait
  split
  · exact ⟨_, rfl⟩
  · exact ⟨_, rfl⟩

/-- What each step adds and removes. -/
theorem took_accounts [DecidableEq Handler] {system next : System Handler Data}
    (unpeeked : system.Unpeeked) (took : system.Took next) :
    ∃ news gone, Accounts system next news gone := by
  cases took with
  | elapse milliseconds => exact ⟨[], [], .of_same_line rfl rfl rfl⟩
  | post phandler id pdata timeSensitive => exact ⟨[], [], system.call_accounts _⟩
  | postDelayed cmsDelay phandler id pdata => exact ⟨[], [], system.call_accounts _⟩
  | postAt tstamp phandler id pdata => exact ⟨[], [], system.call_accounts _⟩
  | enqueue position request inFlight => exact ⟨_, [], system.enqueue_accounts position request⟩
  | clear phandler id => exact ⟨[], _, system.clear_accounts phandler id⟩
  | quit => exact ⟨[], [], .of_same_line rfl rfl rfl⟩
  | wakeUp quitting calls => exact ⟨[], [], .of_same_line rfl rfl rfl⟩
  | restart => exact ⟨[], [], .of_same_line rfl rfl rfl⟩
  | get cmsWait keep idle => exact ⟨[], [], system.get_accounts cmsWait keep⟩
  | scan getCall msCurrent receiving =>
      have noPeek := unpeeked (by rw [receiving]; exact Consumer.noConfusion)
      exact ⟨[], _, system.scan_accounts getCall msCurrent noPeek⟩
  | stopped getCall msCurrent cmsDelayNext testing stop =>
      exact ⟨[], [], .of_same_line rfl rfl rfl⟩
  | sleep getCall msCurrent cmsDelayNext testing running =>
      exact ⟨[], [], .of_same_line rfl rfl rfl⟩
  | wait getCall msCurrent cmsNext succeeded waiting =>
      obtain ⟨consumer, same⟩ := system.wait_eq getCall succeeded
      rw [same]
      exact ⟨[], [], .of_same_line rfl rfl rfl⟩

theorem handOut_unpeeked (system : System Handler Data) (getCall : GetCall)
    (message : Message Handler Data) : (system.handOut getCall message).Unpeeked := by
  intro busy
  exact absurd (handOut_books system getCall message).2.2 busy

theorem call_unpeeked {system : System Handler Data} (unpeeked : system.Unpeeked)
    (request : Request Handler Data) : (system.call request).Unpeeked := by
  obtain ⟨queue, -, consumer⟩ := system.call_eq request
  intro busy
  rw [queue]
  exact unpeeked (consumer ▸ busy)

theorem took_unpeeked [DecidableEq Handler] {system next : System Handler Data}
    (unpeeked : system.Unpeeked) (took : system.Took next) : next.Unpeeked := by
  cases took with
  | elapse milliseconds => exact unpeeked
  | post phandler id pdata timeSensitive => exact call_unpeeked unpeeked _
  | postDelayed cmsDelay phandler id pdata => exact call_unpeeked unpeeked _
  | postAt tstamp phandler id pdata => exact call_unpeeked unpeeked _
  | enqueue position request inFlight => cases request <;> exact unpeeked
  | clear phandler id =>
      intro busy
      have noPeek := unpeeked busy
      simp [clear, MessageQueue.clear, noPeek]
  | quit => exact unpeeked
  | wakeUp quitting calls => exact unpeeked
  | restart => exact unpeeked
  | get cmsWait keep idle =>
      unfold get
      cases peeked : system.queue.msgPeek with
      | none => exact fun _ => peeked
      | some message => exact handOut_unpeeked _ _ message
  | scan getCall msCurrent receiving =>
      cases found : (system.queue.scan msCurrent).found with
      | none =>
          rw [scan_of_none found]
          exact fun _ => unpeeked (by rw [receiving]; exact Consumer.noConfusion)
      | some message =>
          rw [scan_of_some found]
          exact handOut_unpeeked _ _ message
  | stopped getCall msCurrent cmsDelayNext testing stop =>
      exact fun _ => unpeeked (by rw [testing]; exact Consumer.noConfusion)
  | sleep getCall msCurrent cmsDelayNext testing running =>
      exact fun _ => unpeeked (by rw [testing]; exact Consumer.noConfusion)
  | wait getCall msCurrent cmsNext succeeded waiting =>
      obtain ⟨consumer, same⟩ := system.wait_eq getCall succeeded
      rw [same]
      exact fun _ => unpeeked (by rw [waiting]; exact Consumer.noConfusion)

theorem initial_unpeeked (clock : Nat) : (initial clock : System Handler Data).Unpeeked :=
  fun _ => rfl

theorem Accounts.trans {before middle after : System Handler Data}
    {news gone moreNews moreGone : List (Message Handler Data)}
    (first : Accounts before middle news gone) (second : Accounts middle after moreNews moreGone) :
    Accounts before after (moreNews ++ news) (moreGone ++ gone) where
  accepted := by
    rw [List.append_assoc]
    exact second.accepted.trans (first.accepted.append_left _)
  removed := by
    rw [List.append_assoc]
    exact second.removed.trans (first.removed.append_left _)
  line := by
    calc moreGone ++ gone ++ after.line
      _ = moreGone ++ (gone ++ after.line) := List.append_assoc _ _ _
      List.Perm _ (gone ++ (moreGone ++ after.line)) := by
        rw [← List.append_assoc, ← List.append_assoc]
        exact List.perm_append_comm.append_right _
      List.Perm _ (gone ++ (moreNews ++ middle.line)) := second.line.append_left gone
      List.Perm _ (moreNews ++ (gone ++ middle.line)) := by
        rw [← List.append_assoc, ← List.append_assoc]
        exact List.perm_append_comm.append_right _
      List.Perm _ (moreNews ++ (news ++ before.line)) := first.line.append_left moreNews
      _ = moreNews ++ news ++ before.line := (List.append_assoc _ _ _).symm
  order := by
    intro kept sublist avoids
    have stillThere := first.order kept sublist fun message member isGone =>
      avoids message member (List.mem_append_right _ isGone)
    exact second.order kept stillThere fun message member isGone =>
      avoids message member (List.mem_append_left _ isGone)

variable [DecidableEq Handler]

theorem execute_unpeeked {system final : System Handler Data} {labels : List (Step Handler Data)}
    (unpeeked : system.Unpeeked) (executed : execute step system labels = some final) :
    final.Unpeeked := by
  induction labels generalizing system with
  | nil =>
      cases executed
      exact unpeeked
  | cons label rest ih =>
      obtain ⟨next, taken, finished⟩ := execute_cons_eq_some.mp executed
      exact ih (took_unpeeked unpeeked (took_of_step taken)) finished

/-- Between two states of a run, the line only loses what was removed and gains what was
accepted. -/
theorem execute_accounts {system final : System Handler Data} {labels : List (Step Handler Data)}
    (unpeeked : system.Unpeeked) (executed : execute step system labels = some final) :
    ∃ news gone, Accounts system final news gone := by
  induction labels generalizing system with
  | nil =>
      cases executed
      exact ⟨[], [], .of_same_line rfl rfl rfl⟩
  | cons label rest ih =>
      obtain ⟨next, taken, finished⟩ := execute_cons_eq_some.mp executed
      have took := took_of_step taken
      obtain ⟨news, gone, first⟩ := took_accounts unpeeked took
      obtain ⟨moreNews, moreGone, second⟩ := ih (took_unpeeked unpeeked took) finished
      exact ⟨_, _, first.trans second⟩

theorem accepted_perm (clock : Nat) {final : System Handler Data}
    {labels : List (Step Handler Data)}
    (executed : execute step (initial clock) labels = some final) :
    final.history.accepted.Perm
      (final.history.delivered ++ (final.removed ++ final.queue.line)) := by
  obtain ⟨news, gone, accounts⟩ := execute_accounts (initial_unpeeked clock) executed
  have accepted : final.history.accepted.Perm news := by
    simpa [initial] using accounts.accepted
  have removedAll : final.removed.Perm gone := by
    simpa [initial, removed] using accounts.removed
  have line : (gone ++ final.line).Perm news := by
    simpa [initial, System.line, MessageQueue.line, MessageQueue.initial,
      PriorityQueue.empty] using accounts.line
  refine accepted.trans (line.symm.trans ((removedAll.symm.append_right _).trans ?_))
  exact List.perm_append_comm_assoc _ _ _

/-- Every message the queue ever accepted was handed out once, or was disposed of or cleared,
or is still pending. -/
theorem messages_conserved (clock : Nat) {final : System Handler Data}
    {labels : List (Step Handler Data)}
    (executed : execute step (initial clock) labels = some final) :
    final.history.accepted.Perm
      (final.history.delivered ++ final.history.disposed ++ final.history.cleared ++
        final.queue.pending) := by
  rw [MessageQueue.pending_eq_line, List.append_assoc final.history.delivered, List.append_assoc]
  exact accepted_perm clock executed

/-- Two posts by different threads, and a pass of `Get` for each. -/
def twoPosts : List (Step Unit Nat) :=
  [.post none 1 (some 1) false, .post none 2 (some 2) false, .enqueue 1, .enqueue 0]

def twoGets : List (Step Unit Nat) := [.get none false, .scan, .get none false, .scan]

theorem messages_conserved_twoPosts :
    ∃ final, execute step (initial 0) (twoPosts ++ twoGets) = some final ∧
      final.history.accepted.Perm
        (final.history.delivered ++ final.history.disposed ++ final.history.cleared ++
          final.queue.pending) := by
  have ran : execute step (initial 0) (twoPosts ++ twoGets) = some _ := rfl
  exact ⟨_, ran, messages_conserved 0 ran⟩

/-- Messages that stand in line in some order are handed out in that order, unless one of
them is disposed of or cleared: posts in the order of posting, delayed messages in the order
of their triggers. -/
theorem line_order_kept (clock : Nat) {middle final : System Handler Data}
    {before after : List (Step Handler Data)}
    (reached : execute step (initial clock) before = some middle)
    (executed : execute step middle after = some final)
    (kept : List (Message Handler Data)) (inLine : kept.Sublist middle.line)
    (notRemoved : ∀ message ∈ kept, message ∉ final.removed) : kept.Sublist final.line := by
  have unpeeked := execute_unpeeked (initial_unpeeked clock) reached
  obtain ⟨news, gone, accounts⟩ := execute_accounts unpeeked executed
  refine accounts.order kept inLine fun message member isGone => ?_
  exact notRemoved message member
    (accounts.removed.mem_iff.mpr (List.mem_append_left _ isGone))

/-- Of two messages in line, the second is not handed out unless the first was, before it, or
was disposed of or cleared. -/
theorem handed_out_in_order (clock : Nat) {middle final : System Handler Data}
    {before after : List (Step Handler Data)}
    (reached : execute step (initial clock) before = some middle)
    (executed : execute step middle after = some final)
    (distinct : final.history.accepted.Nodup) {first second : Message Handler Data}
    (inLine : [first, second].Sublist middle.line) (firstStays : first ∉ final.removed)
    (handedOut : second ∈ final.history.delivered) :
    [first, second].Sublist final.history.delivered := by
  have whole := execute_append.mpr ⟨middle, reached, executed⟩
  have separate := (accepted_perm clock whole).nodup_iff.mp distinct
  have apart := (List.nodup_append'.mp separate).2.2
  have secondStays : second ∉ final.removed := fun gone =>
    apart handedOut (List.mem_append_left _ gone)
  have kept := line_order_kept clock reached executed [first, second] inLine
    (by simp [firstStays, secondStays])
  exact pair_sublist_left kept fun queued => apart handedOut (List.mem_append_right _ queued)

theorem handed_out_in_order_twoPosts :
    ∃ final : System Unit Nat, execute step (initial 0) (twoPosts ++ twoGets) = some final ∧
      [⟨none, 2, some 2, 0⟩, ⟨none, 1, some 1, 0⟩].Sublist final.history.delivered := by
  have ran : execute step (initial 0) (twoPosts ++ twoGets) = some _ := rfl
  obtain ⟨middle, posted, fetched⟩ := execute_append.mp ran
  have line : [⟨none, 2, some 2, 0⟩, ⟨none, 1, some 1, 0⟩].Sublist middle.line := by
    cases posted
    decide
  exact ⟨_, ran, handed_out_in_order 0 posted fetched (by decide) line (by decide) (by decide)⟩

end System

end FiberApp.Messaging
