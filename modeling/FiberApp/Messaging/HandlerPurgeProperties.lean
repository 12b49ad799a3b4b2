import FiberApp.Foundation.Execution
import FiberApp.Foundation.Locks
import FiberApp.Messaging.HandlerPurge
import FiberApp.Messaging.MessageQueueProperties

/-! The destructor of a handler clears the queues of every thread while all of them go on.
What it leaves behind, and why its two kinds of locks cannot deadlock. -/

set_option autoImplicit false

namespace FiberApp.Messaging

open FiberApp.Foundation

variable {Thread Queue Handler : Type}

namespace Activity

/-- The activities under the manager's lock. -/
def HoldsManager : Activity Queue Handler → Prop
  | .inAdd .. | .clearing .. | .lockingQueue _ (.clear ..) | .inQueue _ (.clear ..)
  | .leavingQueue _ (.clear ..) => True
  | _ => False

/-- The activities under the lock of the queue. -/
def HoldsQueue (queue : Queue) : Activity Queue Handler → Prop
  | .inQueue held _ | .adding held .. | .inAdd held .. | .enqueuing held ..
  | .leavingQueue held _ => held = queue
  | _ => False

/-- The activities of a thread that has marked the queue active and not yet registered it. -/
def Registers (queue : Queue) : Activity Queue Handler → Prop
  | .adding held .. | .inAdd held .. => held = queue
  | _ => False

/-- The message has left its queue and has not been dispatched yet. -/
def HandsOut (message : Message Handler Nat) : Activity Queue Handler → Prop
  | .leavingQueue _ (.dispatch taken) | .dispatching taken => taken = message
  | _ => False

theorem Registers.holdsQueue {queue : Queue} {activity : Activity Queue Handler}
    (registers : activity.Registers queue) : activity.HoldsQueue queue := by
  cases activity <;> first | exact registers | exact registers.elim

theorem HoldsQueue.busy {queue : Queue} {activity : Activity Queue Handler}
    (holds : activity.HoldsQueue queue) : activity ≠ .idle :=
  fun idle => (idle ▸ holds : Activity.idle.HoldsQueue queue)

theorem HoldsManager.busy {activity : Activity Queue Handler} (holds : activity.HoldsManager) :
    activity ≠ .idle :=
  fun idle => (idle ▸ holds : Activity.idle.HoldsManager)

end Activity

/-- Every message for the handler in the queue is among those accepted since. -/
def AcceptedSince (handler : Handler) (since : Nat) (queue : MessageQueue Handler Nat) : Prop :=
  ∀ message ∈ queue.line, message.phandler = some handler →
    ∃ number, message.pdata = some number ∧ since ≤ number

namespace MessageQueue

theorem enqueue_msgPeek (queue : MessageQueue Handler Nat) (now : TimeStamp)
    (request : Request Handler Nat) : (queue.enqueue now request).msgPeek = queue.msgPeek := by
  cases request <;> rfl

theorem enqueue_active (queue : MessageQueue Handler Nat) (now : TimeStamp)
    (request : Request Handler Nat) : (queue.enqueue now request).active = true := by
  cases request <;> rfl

theorem clear_line_subset [DecidableEq Handler] (queue : MessageQueue Handler Nat)
    (handler : Handler) : (queue.clear (some handler) mqidAny).1.line ⊆ queue.line := by
  rw [(queue.clear_line (some handler) mqidAny).1]
  exact List.filter_subset_self _

theorem scan_line_subset {queue : MessageQueue Handler Nat} (unpeeked : queue.msgPeek = none)
    (msCurrent : TimeStamp) :
    (queue.scan msCurrent).queue.line ⊆ queue.line ∧
      ∀ message, (queue.scan msCurrent).found = some message → message ∈ queue.line := by
  rw [queue.scan_line msCurrent unpeeked]
  constructor
  · intro message member
    exact List.mem_append_right _ (List.mem_append_right _ member)
  · intro message found
    rw [found]
    exact List.mem_append_right _ (List.mem_append_left _ (List.mem_singleton_self _))

end MessageQueue

namespace AcceptedSince

variable {handler : Handler} {since : Nat}

theorem subset {before after : MessageQueue Handler Nat}
    (newer : AcceptedSince handler since before) (fewer : after.line ⊆ before.line) :
    AcceptedSince handler since after :=
  fun message member => newer message (fewer member)

theorem cleared [DecidableEq Handler] (queue : MessageQueue Handler Nat) :
    AcceptedSince handler since (queue.clear (some handler) mqidAny).1 := by
  intro message member same
  rw [(queue.clear_line (some handler) mqidAny).1, List.mem_filter] at member
  simp [Message.isMatch, same] at member

theorem enqueued {number : Nat} {queue : MessageQueue Handler Nat}
    (newer : AcceptedSince handler since queue) (late : since ≤ number) (now : TimeStamp)
    (request : Request Handler Nat) :
    AcceptedSince handler since (queue.enqueue now (request.withData number)) := by
  intro message member same
  have placed := (queue.enqueue_line now (request.withData number)).1.mem_iff.mp member
  rcases List.mem_cons.mp placed with rfl | earlier
  · exact ⟨number, by cases request <;> rfl, late⟩
  · exact newer message earlier same

end AcceptedSince

namespace MessageQueues

/-- A clear with these queues still before it has left behind only messages accepted since. -/
structure Cleared (system : MessageQueues Thread Queue Handler) (handler : Handler)
    (rest : List Queue) (since : Nat) : Prop where
  late : since ≤ system.accepted
  registered : rest ⊆ system.messageQueues
  newer : ∀ queue ∈ system.messageQueues, queue ∉ rest →
    AcceptedSince handler since (system.queues queue)

/-- What the activity of a thread says about the queues. -/
def Fits (system : MessageQueues Thread Queue Handler) : Activity Queue Handler → Prop
  | .adding queue .. | .inAdd queue .. =>
      queue ∉ system.messageQueues ∧ (system.queues queue).active = true
  | .enqueuing queue .. => queue ∈ system.messageQueues
  | .clearing handler rest since | .leavingQueue _ (.clear handler rest since) =>
      system.Cleared handler rest since
  | .lockingQueue queue (.clear handler rest since)
  | .inQueue queue (.clear handler rest since) => system.Cleared handler (queue :: rest) since
  | _ => True

/-- What holds of the locks, of the registered queues, and of what the threads do. -/
structure Sound (system : MessageQueues Thread Queue Handler) : Prop where
  manager : HeldBy system.managerOwner Activity.HoldsManager system.activity
  lock : ∀ queue, HeldBy (system.queueOwner queue) (Activity.HoldsQueue queue) system.activity
  unpeeked : ∀ queue, (system.queues queue).msgPeek = none
  registered : ∀ queue ∈ system.messageQueues, (system.queues queue).active = true
  active : ∀ queue, (system.queues queue).active = true →
    queue ∈ system.messageQueues ∨ ∃ thread, (system.activity thread).Registers queue
  held : ∀ queue, (system.queues queue).line ≠ [] → queue ∈ system.messageQueues
  fits : ∀ thread, system.Fits (system.activity thread)

theorem initial_sound : Sound (initial : MessageQueues Thread Queue Handler) where
  manager := HeldBy.free id
  lock _ := HeldBy.free id
  unpeeked _ := rfl
  registered := nofun
  active := nofun
  held _ line := absurd rfl line
  fits _ := trivial

variable [DecidableEq Thread]

theorem registers_kept {queue : Queue} {activity : Thread → Activity Queue Handler}
    {thread : Thread} {next : Activity Queue Handler}
    (kept : (activity thread).Registers queue → next.Registers queue)
    (some : ∃ thread, (activity thread).Registers queue) :
    ∃ other, (Function.update activity thread next other).Registers queue := by
  obtain ⟨other, registers⟩ := some
  refine ⟨other, ?_⟩
  by_cases it : other = thread
  · rw [it, Function.update_self]
    exact kept (it ▸ registers)
  · rwa [Function.update_of_ne it]

/-- What a step that leaves the registered queues alone may do to the queues. -/
structure Keeps (system after : MessageQueues Thread Queue Handler) : Prop where
  messageQueues : after.messageQueues = system.messageQueues
  accepted : system.accepted ≤ after.accepted
  unpeeked : ∀ queue, (after.queues queue).msgPeek = none
  active : ∀ queue, (after.queues queue).active = (system.queues queue).active
  held : ∀ queue, (after.queues queue).line ≠ [] → queue ∈ system.messageQueues
  newer : ∀ queue handler since, since ≤ system.accepted →
    AcceptedSince handler since (system.queues queue) →
      AcceptedSince handler since (after.queues queue)

omit [DecidableEq Thread] in
/-- What a step does to queues that are not registered is nothing to the other threads. -/
theorem Fits.kept {system after : MessageQueues Thread Queue Handler}
    {activity : Activity Queue Handler} (fits : system.Fits activity)
    (known : after.messageQueues = system.messageQueues)
    (accepted : system.accepted ≤ after.accepted)
    (active : ∀ queue, (system.queues queue).active = true → (after.queues queue).active = true)
    (newer : ∀ queue ∈ system.messageQueues, ∀ handler since, since ≤ system.accepted →
      AcceptedSince handler since (system.queues queue) →
        AcceptedSince handler since (after.queues queue)) : after.Fits activity := by
  have cleared {handler : Handler} {rest : List Queue} {since : Nat}
      (before : system.Cleared handler rest since) : after.Cleared handler rest since :=
    { late := before.late.trans accepted
      registered := known ▸ before.registered
      newer := fun queue member done =>
        have member := known ▸ member
        newer queue member handler since before.late (before.newer queue member done) }
  match activity with
  | .adding queue .. | .inAdd queue .. => exact ⟨known ▸ fits.1, active queue fits.2⟩
  | .enqueuing .. => simpa only [Fits, known] using fits
  | .clearing .. | .leavingQueue _ (.clear ..) | .lockingQueue _ (.clear ..)
  | .inQueue _ (.clear ..) => exact cleared fits
  | .idle | .leavingQueue _ .done | .leavingQueue _ (.dispatch _) | .lockingQueue _ (.post ..)
  | .lockingQueue _ (.get _) | .inQueue _ (.post ..) | .inQueue _ (.get _) | .lockingManager _
  | .dispatching _ => trivial

omit [DecidableEq Thread] in
theorem Keeps.fits {system after : MessageQueues Thread Queue Handler} (keeps : Keeps system after)
    {activity : Activity Queue Handler} (fits : system.Fits activity) : after.Fits activity :=
  fits.kept keeps.messageQueues keeps.accepted (fun queue active => keeps.active queue ▸ active)
    fun queue _ => keeps.newer queue

omit [DecidableEq Thread] in
theorem Sound.keeps_same {system after : MessageQueues Thread Queue Handler} (sound : Sound system)
    (known : after.messageQueues = system.messageQueues) (queues : after.queues = system.queues)
    (accepted : after.accepted = system.accepted) : Keeps system after where
  messageQueues := known
  accepted := accepted.ge
  unpeeked queue := queues ▸ sound.unpeeked queue
  active queue := by rw [queues]
  held queue line := sound.held queue (queues ▸ line)
  newer queue _ _ _ before := queues ▸ before

/-- A step that registers no queue, of a thread that goes on to the next activity. -/
theorem Sound.moved {system after : MessageQueues Thread Queue Handler} (sound : Sound system)
    {thread : Thread} {next : Activity Queue Handler}
    (moves : after.activity = Function.update system.activity thread next)
    (manager : HeldBy after.managerOwner Activity.HoldsManager
      (Function.update system.activity thread next))
    (lock : ∀ queue, HeldBy (after.queueOwner queue) (Activity.HoldsQueue queue)
      (Function.update system.activity thread next))
    (keeps : Keeps system after)
    (registers : ∀ queue, (system.activity thread).Registers queue → next.Registers queue)
    (fits : after.Fits next) : Sound after where
  manager := moves ▸ manager
  lock := moves ▸ lock
  unpeeked := keeps.unpeeked
  registered queue member := by
    rw [keeps.active]
    exact sound.registered queue (keeps.messageQueues ▸ member)
  active queue active := by
    rw [moves, keeps.messageQueues]
    exact (sound.active queue (keeps.active queue ▸ active)).imp_right
      (registers_kept (registers queue))
  held queue line := keeps.messageQueues ▸ keeps.held queue line
  fits := by
    rw [moves]
    exact (Function.forall_update_iff system.activity fun _ activity => after.Fits activity).mpr
      ⟨fits, fun other _ => keeps.fits (sound.fits other)⟩

variable [DecidableEq Queue]

omit [DecidableEq Thread] in
/-- A step that changes one registered queue. -/
theorem Sound.keeps_one {system after : MessageQueues Thread Queue Handler} (sound : Sound system)
    {queue : Queue} {changed : MessageQueue Handler Nat}
    (known : after.messageQueues = system.messageQueues)
    (accepted : system.accepted ≤ after.accepted)
    (queues : after.queues = Function.update system.queues queue changed)
    (unpeeked : changed.msgPeek = none) (active : changed.active = (system.queues queue).active)
    (held : changed.line ≠ [] → queue ∈ system.messageQueues)
    (newer : ∀ handler since, since ≤ system.accepted →
      AcceptedSince handler since (system.queues queue) → AcceptedSince handler since changed) :
    Keeps system after where
  messageQueues := known
  accepted := accepted
  unpeeked := by
    rw [queues]
    exact (Function.forall_update_iff system.queues fun _ queue => queue.msgPeek = none).mpr
      ⟨unpeeked, fun other _ => sound.unpeeked other⟩
  active := by
    rw [queues]
    exact (Function.forall_update_iff system.queues
      fun other changed => changed.active = (system.queues other).active).mpr
      ⟨active, fun _ _ => rfl⟩
  held := by
    rw [queues]
    exact (Function.forall_update_iff system.queues
      fun other changed => changed.line ≠ [] → other ∈ system.messageQueues).mpr
      ⟨held, fun other _ => sound.held other⟩
  newer := by
    rw [queues]
    exact (Function.forall_update_iff system.queues fun other changed =>
      ∀ handler since, since ≤ system.accepted →
        AcceptedSince handler since (system.queues other) →
          AcceptedSince handler since changed).mpr
      ⟨newer, fun _ _ _ _ _ before => before⟩

omit [DecidableEq Queue] in
theorem Sound.start {system next : MessageQueues Thread Queue Handler} (sound : Sound system)
    {thread : Thread} {activity : Activity Queue Handler}
    (taken : system.start thread activity = some next) (unmanaged : ¬ activity.HoldsManager)
    (outside : ∀ queue, ¬ activity.HoldsQueue queue)
    (fits : ∀ system : MessageQueues Thread Queue Handler, system.Fits activity) :
    Sound next := by
  unfold MessageQueues.start at taken
  split at taken
  case h_2 => cases taken
  case h_1 idle =>
      cases taken
      refine sound.moved rfl (sound.manager.same ?_) (fun queue => (sound.lock queue).same ?_)
        (sound.keeps_same rfl rfl rfl) ?_ (fits _)
      · exact iff_of_false unmanaged (by rw [idle]; exact id)
      · exact iff_of_false (outside queue) (by rw [idle]; exact id)
      · intro queue registers
        rw [idle] at registers
        exact registers.elim

theorem Sound.lockQueue {system : MessageQueues Thread Queue Handler} (sound : Sound system)
    {thread : Thread} {queue : Queue} {task : QueueTask Queue Handler}
    (stands : system.activity thread = .lockingQueue queue task)
    (free : system.queueOwner queue = none) :
    Sound ((system.lockQueue queue (some thread)).goes thread (.inQueue queue task)) := by
  have fits := sound.fits thread
  rw [stands] at fits
  refine sound.moved rfl (sound.manager.same ?_) (HeldBy.takeAt sound.lock free rfl ?_)
    (sound.keeps_same rfl rfl rfl) (fun other => by rw [stands]; exact False.elim) ?_
  · rw [stands]
    cases task <;> exact Iff.rfl
  · intro other different
    rw [stands]
    exact iff_of_false different.symm id
  · cases task with
    | post now request => trivial
    | get msCurrent => trivial
    | clear handler rest since =>
        exact Keeps.fits (by exact sound.keeps_same rfl rfl rfl) fits

theorem Sound.leaveQueue {system : MessageQueues Thread Queue Handler} (sound : Sound system)
    {thread : Thread} {queue : Queue} {after : AfterQueue Queue Handler}
    (stands : system.activity thread = .leavingQueue queue after) :
    Sound ((system.lockQueue queue none).goes thread after.activity) := by
  have fits := sound.fits thread
  rw [stands] at fits
  have outside (other : Queue) : ¬ after.activity.HoldsQueue other := by cases after <;> exact id
  refine sound.moved rfl (sound.manager.same ?_)
    (HeldBy.leaveAt sound.lock (by rw [stands]; rfl) (outside queue) ?_)
    (sound.keeps_same rfl rfl rfl) (fun other => by rw [stands]; exact False.elim) ?_
  · rw [stands]
    cases after <;> exact Iff.rfl
  · intro other different
    rw [stands]
    exact iff_of_false (outside other) different.symm
  · cases after with
    | done => trivial
    | dispatch message => trivial
    | clear handler rest since =>
        exact Keeps.fits (by exact sound.keeps_same rfl rfl rfl) fits

omit [DecidableEq Thread] [DecidableEq Queue] in
/-- Nobody else registers a queue while a thread has its lock. -/
theorem Sound.known {system : MessageQueues Thread Queue Handler} (sound : Sound system)
    {thread : Thread} {queue : Queue} (holds : (system.activity thread).HoldsQueue queue)
    (registers : ¬ (system.activity thread).Registers queue)
    (active : (system.queues queue).active = true) : queue ∈ system.messageQueues := by
  refine (sound.active queue active).resolve_right ?_
  rintro ⟨other, registering⟩
  have same := (sound.lock queue).unique registering.holdsQueue holds
  exact registers (same ▸ registering)

/-- The first post marks its queue active. -/
theorem Sound.mark {system : MessageQueues Thread Queue Handler} (sound : Sound system)
    {thread : Thread} {queue : Queue} {now : TimeStamp} {request : Request Handler Nat}
    (stands : system.activity thread = .inQueue queue (.post now request))
    (inactive : (system.queues queue).active = false) :
    Sound ((system.changeQueue queue { system.queues queue with active := true }).goes thread
      (.adding queue now request)) := by
  have unknown : queue ∉ system.messageQueues := fun member =>
    Bool.false_ne_true (inactive.symm.trans (sound.registered queue member))
  have apart {other : Queue} (member : other ∈ system.messageQueues) : other ≠ queue :=
    fun same => unknown (same ▸ member)
  have others {activity : Activity Queue Handler} (fits : system.Fits activity) :
      Fits ((system.changeQueue queue { system.queues queue with active := true }).goes thread
        (.adding queue now request)) activity := by
    refine fits.kept rfl le_rfl
      ((Function.forall_update_iff system.queues fun other changed =>
        (system.queues other).active = true → changed.active = true).mpr
          ⟨fun _ => rfl, fun _ _ => id⟩) ?_
    intro other member handler since _ before
    simpa only [goes, changeQueue, Function.update_of_ne (apart member)] using before
  exact
    { manager := sound.manager.same (by rw [stands]; exact Iff.rfl)
      lock := fun other => (sound.lock other).same (by rw [stands]; exact Iff.rfl)
      unpeeked := (Function.forall_update_iff system.queues
        fun _ queue => queue.msgPeek = none).mpr
          ⟨sound.unpeeked queue, fun other _ => sound.unpeeked other⟩
      registered := fun other member => by
        simpa only [goes, changeQueue, Function.update_of_ne (apart member)] using
          sound.registered other member
      active := fun other active => by
        by_cases same : other = queue
        · refine .inr ⟨thread, ?_⟩
          simp only [goes, Function.update_self, same]
          rfl
        · simp only [goes, changeQueue, Function.update_of_ne same] at active
          have outside : ¬ (system.activity thread).Registers other := by
            rw [stands]
            exact id
          exact (sound.active other active).imp_right
            (registers_kept fun registers => absurd registers outside)
      held := (Function.forall_update_iff system.queues
        fun other changed => changed.line ≠ [] → other ∈ system.messageQueues).mpr
          ⟨sound.held queue, fun other _ => sound.held other⟩
      fits := (Function.forall_update_iff system.activity fun _ activity => Fits _ activity).mpr
        ⟨⟨unknown, by simp only [goes, changeQueue, Function.update_self]⟩,
          fun other _ => others (sound.fits other)⟩ }

theorem Sound.add {system : MessageQueues Thread Queue Handler} (sound : Sound system)
    {thread : Thread} {queue : Queue} {now : TimeStamp} {request : Request Handler Nat}
    (stands : system.activity thread = .inAdd queue now request) :
    Sound (system.add thread queue now request) := by
  have fits := sound.fits thread
  rw [stands] at fits
  have holdsManager : (system.activity thread).HoldsManager := by
    rw [stands]
    trivial
  have holdsQueue : (system.activity thread).HoldsQueue queue := by
    rw [stands]
    rfl
  have others {other : Thread} (different : other ≠ thread) :
      Fits (system.add thread queue now request) (system.activity other) := by
    have otherFits := sound.fits other
    have unmanaged : ¬ (system.activity other).HoldsManager := fun managing =>
      different (sound.manager.unique managing holdsManager)
    have apart (holds : (system.activity other).HoldsQueue queue) : False :=
      different ((sound.lock queue).unique holds holdsQueue)
    cases doing : system.activity other <;> rw [doing] at otherFits unmanaged apart
    case adding held later request =>
      refine ⟨fun member => ?_, otherFits.2⟩
      rcases List.mem_append.mp member with member | same
      · exact otherFits.1 member
      · exact apart (List.mem_singleton.mp same)
    case inAdd => exact absurd trivial unmanaged
    case enqueuing => exact List.mem_append_left _ otherFits
    case clearing => exact absurd trivial unmanaged
    case idle | lockingManager | dispatching => trivial
    case lockingQueue held task | inQueue held task =>
      cases task <;> first | trivial | exact absurd trivial unmanaged
    case leavingQueue held after =>
      cases after <;> first | trivial | exact absurd trivial unmanaged
  exact
    { manager := sound.manager.leave holdsManager id
      lock := fun other => (sound.lock other).same (by rw [stands]; exact Iff.rfl)
      unpeeked := sound.unpeeked
      registered := fun other member => by
        rcases List.mem_append.mp member with member | same
        · exact sound.registered other member
        · rw [List.mem_singleton.mp same]
          exact fits.2
      active := fun other active => by
        by_cases same : other = queue
        · exact .inl (List.mem_append_right _ (List.mem_singleton.mpr same))
        · have outside : ¬ (system.activity thread).Registers other := by
            rw [stands]
            exact fun registers => same registers.symm
          exact (sound.active other active).imp (List.mem_append_left _)
            (registers_kept fun registers => absurd registers outside)
      held := fun other line => List.mem_append_left _ (sound.held other line)
      fits := (Function.forall_update_iff system.activity fun _ activity => Fits _ activity).mpr
        ⟨List.mem_append_right _ (List.mem_singleton_self queue),
          fun _ different => others different⟩ }

theorem Sound.enqueue {system : MessageQueues Thread Queue Handler} (sound : Sound system)
    {thread : Thread} {queue : Queue} {now : TimeStamp} {request : Request Handler Nat}
    (stands : system.activity thread = .enqueuing queue now request) :
    Sound (system.enqueue thread queue now request) := by
  have known := sound.fits thread
  rw [stands] at known
  refine sound.moved rfl (sound.manager.same (by rw [stands]; exact Iff.rfl))
    (fun other => (sound.lock other).same (by rw [stands]; exact Iff.rfl))
    (sound.keeps_one rfl (Nat.le_succ _) rfl ?_ ?_ (fun _ => known) ?_)
    (fun other => by rw [stands]; exact False.elim) trivial
  · rw [MessageQueue.enqueue_msgPeek]
    exact sound.unpeeked queue
  · rw [MessageQueue.enqueue_active, sound.registered queue known]
  · exact fun handler since late before => before.enqueued late now request

/-- `Get` hands a message out of the queue, or finds none. -/
theorem Sound.get {system : MessageQueues Thread Queue Handler} (sound : Sound system)
    {thread : Thread} {queue : Queue} {msCurrent : TimeStamp}
    (stands : system.activity thread = .inQueue queue (.get msCurrent))
    (found : Option (Message Handler Nat)) :
    Sound ((system.changeQueue queue ((system.queues queue).scan msCurrent).queue).goes thread
      (.leavingQueue queue
        (match found with
        | none => .done
        | some message => .dispatch message))) := by
  have fewer := ((system.queues queue).scan_line_subset (sound.unpeeked queue) msCurrent).1
  refine sound.moved rfl (sound.manager.same ?_)
    (fun other => (sound.lock other).same (by rw [stands]; exact Iff.rfl))
    (sound.keeps_one rfl le_rfl rfl (sound.unpeeked queue) rfl ?_ ?_)
    (fun other => by rw [stands]; exact False.elim) ?_
  · rw [stands]
    cases found <;> exact Iff.rfl
  · exact fun line => sound.held queue fun empty => line (List.subset_nil.mp (empty ▸ fewer))
  · exact fun _ _ _ before => before.subset fewer
  · cases found <;> trivial

variable [DecidableEq Handler]

/-- One queue of a clear is done, and the messages for the handler are gone from it. -/
theorem Sound.clear {system : MessageQueues Thread Queue Handler} (sound : Sound system)
    {thread : Thread} {queue : Queue} {handler : Handler} {rest : List Queue} {since : Nat}
    (stands : system.activity thread = .inQueue queue (.clear handler rest since)) :
    Sound (system.perform thread queue (.clear handler rest since)) := by
  have cleared := sound.fits thread
  rw [stands] at cleared
  have fewer := (system.queues queue).clear_line_subset handler
  refine sound.moved rfl (sound.manager.same (by rw [stands]; exact Iff.rfl))
    (fun other => (sound.lock other).same (by rw [stands]; exact Iff.rfl))
    (sound.keeps_one rfl le_rfl rfl ?_ rfl ?_ ?_) (fun other => by rw [stands]; exact False.elim) ?_
  · exact (congrArg (Option.filter _) (sound.unpeeked queue)).trans rfl
  · exact fun line => sound.held queue fun empty => line (List.subset_nil.mp (empty ▸ fewer))
  · exact fun _ _ _ before => before.subset fewer
  · refine ⟨cleared.late, fun other member => cleared.registered (List.mem_cons_of_mem _ member),
      fun other member done => ?_⟩
    by_cases same : other = queue
    · simp only [MessageQueues.perform, goes, changeQueue, same, Function.update_self]
      exact AcceptedSince.cleared _
    · simp only [MessageQueues.perform, goes, changeQueue, Function.update_of_ne same]
      exact cleared.newer other member (by simp [same, done])

theorem Sound.perform {system : MessageQueues Thread Queue Handler} (sound : Sound system)
    {thread : Thread} {queue : Queue} {task : QueueTask Queue Handler}
    (stands : system.activity thread = .inQueue queue task) :
    Sound (system.perform thread queue task) := by
  cases task with
  | get msCurrent => exact sound.get stands _
  | clear handler rest since => exact sound.clear stands
  | post now request =>
      unfold MessageQueues.perform
      dsimp only
      split
      case isFalse inactive => exact sound.mark stands (Bool.not_eq_true _ ▸ inactive)
      case isTrue active =>
          refine sound.moved rfl (sound.manager.same (by rw [stands]; exact Iff.rfl))
            (fun other => (sound.lock other).same (by rw [stands]; exact Iff.rfl))
            (sound.keeps_same rfl rfl rfl) (fun other => by rw [stands]; exact False.elim) ?_
          · exact sound.known (by rw [stands]; rfl) (by rw [stands]; exact id) active

theorem Sound.advance {system next : MessageQueues Thread Queue Handler} (sound : Sound system)
    {thread : Thread} (taken : system.advance thread = some next) : Sound next := by
  have fits := sound.fits thread
  unfold MessageQueues.advance at taken
  split at taken
  case h_1 => cases taken
  case h_2 queue task stands =>
      split at taken
      case isFalse => cases taken
      case isTrue free =>
          cases taken
          exact sound.lockQueue stands free
  case h_3 queue task stands =>
      cases taken
      exact sound.perform stands
  case h_4 queue now request stands =>
      split at taken
      case isFalse => cases taken
      case isTrue free =>
          cases taken
          rw [stands] at fits
          have unowned := sound.manager
          rw [free] at unowned
          refine sound.moved rfl (unowned.take trivial)
            (fun other => (sound.lock other).same (by rw [stands]; exact Iff.rfl))
            (sound.keeps_same rfl rfl rfl) (fun other => by rw [stands]; exact id) fits
  case h_5 queue now request stands =>
      cases taken
      exact sound.add stands
  case h_6 queue now request stands =>
      cases taken
      exact sound.enqueue stands
  case h_7 queue after stands =>
      cases taken
      exact sound.leaveQueue stands
  case h_8 handler stands =>
      split at taken
      case isFalse => cases taken
      case isTrue free =>
          cases taken
          have unowned := sound.manager
          rw [free] at unowned
          refine sound.moved rfl (unowned.take trivial)
            (fun other => (sound.lock other).same (by rw [stands]; exact Iff.rfl))
            (sound.keeps_same rfl rfl rfl) (fun other => by rw [stands]; exact False.elim)
            ⟨le_rfl, List.Subset.refl _, fun queue member done => absurd member done⟩
  case h_9 handler since stands =>
      cases taken
      refine sound.moved rfl (sound.manager.leave (by rw [stands]; trivial) id)
        (fun other => (sound.lock other).same (by rw [stands]; exact Iff.rfl))
        (sound.keeps_same rfl rfl rfl) (fun other => by rw [stands]; exact False.elim) trivial
  case h_10 handler queue rest since stands =>
      cases taken
      rw [stands] at fits
      refine sound.moved rfl (sound.manager.same (by rw [stands]; exact Iff.rfl))
        (fun other => (sound.lock other).same (by rw [stands]; exact Iff.rfl))
        (sound.keeps_same rfl rfl rfl) (fun other => by rw [stands]; exact False.elim)
        (Keeps.fits (by exact sound.keeps_same rfl rfl rfl) fits)
  case h_11 message stands =>
      cases taken
      refine sound.moved rfl (sound.manager.same (by rw [stands]; exact Iff.rfl))
        (fun other => (sound.lock other).same (by rw [stands]; exact Iff.rfl))
        (sound.keeps_same rfl rfl rfl) (fun other => by rw [stands]; exact False.elim) trivial

theorem Sound.step {system next : MessageQueues Thread Queue Handler} (sound : Sound system)
    {label : Thread × ThreadStep Queue Handler} (taken : system.step label = some next) :
    Sound next := by
  obtain ⟨thread, _ | _ | _ | _⟩ := label
  case post queue now request => exact sound.start taken id (fun _ => id) fun _ => trivial
  case get queue msCurrent => exact sound.start taken id (fun _ => id) fun _ => trivial
  case destroyHandler handler => exact sound.start taken id (fun _ => id) fun _ => trivial
  case go => exact sound.advance taken

theorem Sound.execute {system final : MessageQueues Thread Queue Handler} (sound : Sound system)
    {labels : List (Thread × ThreadStep Queue Handler)}
    (ran : Foundation.execute MessageQueues.step system labels = some final) : Sound final :=
  (throughout_of_preserved Sound (fun _ => id) (fun _ _ _ before taken => before.step taken)
    sound).reached ran

/-- Where the messages of a state were in the state before. -/
structure Follows (system after : MessageQueues Thread Queue Handler) : Prop where
  accepted : system.accepted ≤ after.accepted
  newer : ∀ queue handler since, since ≤ system.accepted →
    AcceptedSince handler since (system.queues queue) →
      AcceptedSince handler since (after.queues queue)
  handsOut : ∀ thread message, (after.activity thread).HandsOut message →
    (system.activity thread).HandsOut message ∨ ∃ queue, message ∈ (system.queues queue).line
  dispatched : ∀ message ∈ after.dispatched, message ∈ system.dispatched ∨
    ∃ thread, (system.activity thread).HandsOut message

omit [DecidableEq Queue] [DecidableEq Handler] in
theorem Follows.moved {system after : MessageQueues Thread Queue Handler} {thread : Thread}
    {next : Activity Queue Handler}
    (moves : after.activity = Function.update system.activity thread next)
    (handsOut : ∀ message, next.HandsOut message → (system.activity thread).HandsOut message ∨
      ∃ queue, message ∈ (system.queues queue).line)
    (accepted : system.accepted ≤ after.accepted)
    (newer : ∀ queue handler since, since ≤ system.accepted →
      AcceptedSince handler since (system.queues queue) →
        AcceptedSince handler since (after.queues queue))
    (dispatched : after.dispatched = system.dispatched) : Follows system after where
  accepted := accepted
  newer := newer
  handsOut := by
    rw [moves]
    exact (Function.forall_update_iff system.activity fun other activity =>
      ∀ message, activity.HandsOut message → (system.activity other).HandsOut message ∨
        ∃ queue, message ∈ (system.queues queue).line).mpr
      ⟨handsOut, fun _ _ _ before => .inl before⟩
  dispatched message member := .inl (dispatched ▸ member)

omit [DecidableEq Thread] [DecidableEq Handler] in
theorem newer_changed {system : MessageQueues Thread Queue Handler} {queue : Queue}
    {changed : MessageQueue Handler Nat}
    (newer : ∀ handler since, since ≤ system.accepted →
      AcceptedSince handler since (system.queues queue) → AcceptedSince handler since changed) :
    ∀ other handler since, since ≤ system.accepted →
      AcceptedSince handler since (system.queues other) →
        AcceptedSince handler since ((system.changeQueue queue changed).queues other) :=
  (Function.forall_update_iff system.queues fun other changed =>
    ∀ handler since, since ≤ system.accepted →
      AcceptedSince handler since (system.queues other) →
        AcceptedSince handler since changed).mpr ⟨newer, fun _ _ _ _ _ before => before⟩

omit [DecidableEq Queue] [DecidableEq Handler] in
theorem Follows.start {system next : MessageQueues Thread Queue Handler} {thread : Thread}
    {activity : Activity Queue Handler} (taken : system.start thread activity = some next)
    (empty : ∀ message, ¬ activity.HandsOut message) : Follows system next := by
  unfold MessageQueues.start at taken
  split at taken
  case h_2 => cases taken
  case h_1 =>
      cases taken
      exact Follows.moved rfl (fun message hands => absurd hands (empty message)) le_rfl
        (fun _ _ _ _ before => before) rfl

theorem Sound.perform_follows {system : MessageQueues Thread Queue Handler} (sound : Sound system)
    (thread : Thread) (queue : Queue) (task : QueueTask Queue Handler) :
    Follows system (system.perform thread queue task) := by
  cases task with
  | post now request =>
      unfold MessageQueues.perform
      dsimp only
      split
      · exact Follows.moved rfl (fun _ => False.elim) le_rfl (fun _ _ _ _ before => before) rfl
      · exact Follows.moved rfl (fun _ => False.elim) le_rfl
          (newer_changed fun _ _ _ before => before) rfl
  | get msCurrent =>
      have scanned := (system.queues queue).scan_line_subset (sound.unpeeked queue) msCurrent
      refine Follows.moved rfl (fun message hands => .inr ⟨queue, scanned.2 message ?_⟩) le_rfl
        (newer_changed fun _ _ _ before => before.subset scanned.1) rfl
      cases found : ((system.queues queue).scan msCurrent).found <;> rw [found] at hands
      · exact hands.elim
      · exact congrArg some hands
  | clear handler rest since =>
      exact Follows.moved rfl (fun _ => False.elim) le_rfl
        (newer_changed fun _ _ _ before =>
          before.subset ((system.queues queue).clear_line_subset handler)) rfl

theorem Sound.advance_follows {system next : MessageQueues Thread Queue Handler}
    (sound : Sound system) {thread : Thread} (taken : system.advance thread = some next) :
    Follows system next := by
  have same (queue : Queue) (handler : Handler) (since : Nat) (_ : since ≤ system.accepted)
      (before : AcceptedSince handler since (system.queues queue)) :
      AcceptedSince handler since (system.queues queue) := before
  unfold MessageQueues.advance at taken
  split at taken
  case h_1 => cases taken
  case h_2 | h_4 | h_8 =>
      split at taken
      · cases taken
        exact Follows.moved rfl (fun _ => False.elim) le_rfl same rfl
      · cases taken
  case h_3 queue task stands =>
      cases taken
      exact sound.perform_follows thread queue task
  case h_5 | h_9 | h_10 =>
      cases taken
      exact Follows.moved rfl (fun _ => False.elim) le_rfl same rfl
  case h_6 queue now request stands =>
      cases taken
      exact Follows.moved rfl (fun _ => False.elim) (Nat.le_succ _)
        (newer_changed fun _ _ late before => before.enqueued late now request) rfl
  case h_7 queue after stands =>
      cases taken
      refine Follows.moved rfl (fun message hands => .inl ?_) le_rfl same rfl
      rw [stands]
      cases after <;> exact hands
  case h_11 message stands =>
      cases taken
      exact
        { accepted := le_rfl
          newer := same
          handsOut := (Function.forall_update_iff system.activity fun other activity =>
            ∀ message, activity.HandsOut message → (system.activity other).HandsOut message ∨
              ∃ queue, message ∈ (system.queues queue).line).mpr
                ⟨fun _ => False.elim, fun _ _ _ before => .inl before⟩
          dispatched := fun later member => by
            refine (List.mem_append.mp member).imp_right fun member => ⟨thread, ?_⟩
            rw [stands, List.mem_singleton.mp member]
            rfl }

theorem Sound.follows {system next : MessageQueues Thread Queue Handler} (sound : Sound system)
    {label : Thread × ThreadStep Queue Handler} (taken : system.step label = some next) :
    Follows system next := by
  obtain ⟨thread, _ | _ | _ | _⟩ := label
  case post queue now request => exact Follows.start taken fun _ => id
  case get queue msCurrent => exact Follows.start taken fun _ => id
  case destroyHandler handler => exact Follows.start taken fun _ => id
  case go => exact sound.advance_follows taken

/-- No message for the handler is left but those accepted since and the settled ones. -/
structure Purged (handler : Handler) (since : Nat) (settled : Message Handler Nat → Prop)
    (system : MessageQueues Thread Queue Handler) : Prop where
  sound : Sound system
  late : since ≤ system.accepted
  newer : ∀ queue, AcceptedSince handler since (system.queues queue)
  handsOut : ∀ thread message, (system.activity thread).HandsOut message →
    message.phandler = some handler →
      (∃ number, message.pdata = some number ∧ since ≤ number) ∨ settled message
  dispatched : ∀ message ∈ system.dispatched, message.phandler = some handler →
    (∃ number, message.pdata = some number ∧ since ≤ number) ∨ settled message

theorem Purged.step {handler : Handler} {since : Nat} {settled : Message Handler Nat → Prop}
    {system next : MessageQueues Thread Queue Handler}
    (purged : Purged handler since settled system)
    {label : Thread × ThreadStep Queue Handler} (taken : system.step label = some next) :
    Purged handler since settled next := by
  have follows := purged.sound.follows taken
  exact
    { sound := purged.sound.step taken
      late := purged.late.trans follows.accepted
      newer := fun queue => follows.newer queue handler since purged.late (purged.newer queue)
      handsOut := fun thread message hands same => by
        rcases follows.handsOut thread message hands with before | ⟨queue, member⟩
        · exact purged.handsOut thread message before same
        · exact .inl (purged.newer queue message member same)
      dispatched := fun message member same => by
        rcases follows.dispatched message member with before | ⟨thread, hands⟩
        · exact purged.dispatched message before same
        · exact purged.handsOut thread message hands same }

omit [DecidableEq Thread] [DecidableEq Queue] [DecidableEq Handler] in
/-- Once a clear has gone through the registered queues it has gone through all that hold
messages. -/
theorem Sound.purged {system : MessageQueues Thread Queue Handler} (sound : Sound system)
    {thread : Thread} {handler : Handler} {since : Nat}
    (stands : system.activity thread = .clearing handler [] since) :
    Purged handler since (fun message => message ∈ system.dispatched ∨
      ∃ other, (system.activity other).HandsOut message) system := by
  have cleared := sound.fits thread
  rw [stands] at cleared
  refine ⟨sound, cleared.late, fun queue => ?_, fun other message hands _ =>
    .inr (.inr ⟨other, hands⟩), fun message member _ => .inr (.inl member)⟩
  by_cases known : queue ∈ system.messageQueues
  · exact cleared.newer queue known List.not_mem_nil
  · intro message member
    exact absurd (sound.held queue (List.ne_nil_of_mem member)) known

/-- The destructor of a handler has cleared the last queue. From then on, however the threads go
on, the messages for the handler in the queues are ones accepted since it took the manager's
lock, and so are those dispatched, unless they had been handed out by that moment. -/
theorem destructor_clears {labels : List (Thread × ThreadStep Queue Handler)}
    {system : MessageQueues Thread Queue Handler}
    (ran : Foundation.execute MessageQueues.step initial labels = some system) {thread : Thread}
    {handler : Handler} {since : Nat} (stands : system.activity thread = .clearing handler [] since)
    {later : List (Thread × ThreadStep Queue Handler)}
    {final : MessageQueues Thread Queue Handler}
    (goesOn : Foundation.execute MessageQueues.step system later = some final) :
    (∀ queue, AcceptedSince handler since (final.queues queue)) ∧
      ∀ message ∈ final.dispatched, message.phandler = some handler →
        (∃ number, message.pdata = some number ∧ since ≤ number) ∨
          message ∈ system.dispatched ∨ ∃ other, (system.activity other).HandsOut message := by
  have purged := (throughout_of_preserved _ (fun _ => id)
    (fun _ _ _ before taken => Purged.step before taken)
    ((initial_sound.execute ran).purged stands)).reached goesOn
  exact ⟨purged.newer, purged.dispatched⟩

/-- One thread posts to the handler and another takes the message, while a third destroys the
handler. -/
def postAndDestroy : List (Fin 3 × ThreadStep Unit Unit) :=
  [(0, .post () 0 (.post (some ()) 7 none false)), (0, .go), (0, .go), (0, .go), (0, .go),
    (0, .go), (0, .go), (1, .get () 0), (1, .go), (1, .go), (1, .go), (2, .destroyHandler ()),
    (2, .go), (2, .go), (2, .go), (2, .go), (2, .go)]

theorem destructor_clears_postAndDestroy :
    ∃ final : MessageQueues (Fin 3) Unit Unit,
      Foundation.execute MessageQueues.step initial (postAndDestroy ++ [(2, .go), (1, .go)]) =
        some final ∧
      (∀ queue, AcceptedSince () 1 (final.queues queue)) ∧ final.dispatched.length = 1 := by
  obtain ⟨system, ran, stands, final, goesOn, handled⟩ :
      ∃ system : MessageQueues (Fin 3) Unit Unit,
        Foundation.execute MessageQueues.step initial postAndDestroy = some system ∧
          system.activity 2 = .clearing () [] 1 ∧
            ∃ final, Foundation.execute MessageQueues.step system [(2, .go), (1, .go)] =
              some final ∧ final.dispatched.length = 1 := ⟨_, rfl, rfl, _, rfl, rfl⟩
  exact ⟨final, execute_append.mpr ⟨system, ran, goesOn⟩,
    (destructor_clears ran stands goesOn).1, handled⟩

/-- A thread that cannot go on stands before a lock that is taken. -/
theorem advance_eq_none {system : MessageQueues Thread Queue Handler} {thread : Thread}
    (stuck : system.advance thread = none) (busy : system.activity thread ≠ .idle) :
    (∃ queue task owner, system.activity thread = .lockingQueue queue task ∧
      system.queueOwner queue = some owner) ∨
    ∃ owner, system.managerOwner = some owner ∧
      ((∃ queue now request, system.activity thread = .adding queue now request) ∨
        ∃ handler, system.activity thread = .lockingManager handler) := by
  unfold MessageQueues.advance at stuck
  split at stuck
  case h_1 idle => exact absurd idle busy
  case h_2 queue task stands =>
      split at stuck
      · cases stuck
      case isFalse taken =>
          obtain ⟨owner, owned⟩ := Option.ne_none_iff_exists'.mp taken
          exact .inl ⟨queue, task, owner, stands, owned⟩
  case h_4 queue now request stands =>
      split at stuck
      · cases stuck
      case isFalse taken =>
          obtain ⟨owner, owned⟩ := Option.ne_none_iff_exists'.mp taken
          exact .inr ⟨owner, owned, .inl ⟨queue, now, request, stands⟩⟩
  case h_8 handler stands =>
      split at stuck
      · cases stuck
      case isFalse taken =>
          obtain ⟨owner, owned⟩ := Option.ne_none_iff_exists'.mp taken
          exact .inr ⟨owner, owned, .inr ⟨handler, stands⟩⟩
  all_goals cases stuck

/-- The thread with the lock of a registered queue does not need another. -/
theorem Sound.owner_goes {system : MessageQueues Thread Queue Handler} (sound : Sound system)
    {queue : Queue} {owner : Thread} (owned : system.queueOwner queue = some owner)
    (known : queue ∈ system.messageQueues) : system.advance owner ≠ none := by
  intro stuck
  have holds := (sound.lock queue owner).mp owned
  have fits := sound.fits owner
  rcases advance_eq_none stuck holds.busy with
    ⟨_, _, _, stands, _⟩ | ⟨_, _, ⟨_, _, _, stands⟩ | ⟨_, stands⟩⟩
  · rw [stands] at holds
    exact holds
  · rw [stands] at holds fits
    exact fits.1 (holds ▸ known)
  · rw [stands] at holds
    exact holds

/-- While the manager's lock is taken, its owner goes on, or the owner of the queue it is at. -/
theorem Sound.manager_goes {system : MessageQueues Thread Queue Handler} (sound : Sound system)
    {manager : Thread} (managed : system.managerOwner = some manager) :
    ∃ thread, system.advance thread ≠ none := by
  by_contra stuck
  push Not at stuck
  have holds := (sound.manager manager).mp managed
  have fits := sound.fits manager
  rcases advance_eq_none (stuck manager) holds.busy with
    ⟨queue, task, owner, stands, owned⟩ | ⟨_, _, ⟨_, _, _, stands⟩ | ⟨_, stands⟩⟩
  · rw [stands] at holds fits
    cases task with
    | post now request => exact holds
    | get msCurrent => exact holds
    | clear handler rest since =>
        exact sound.owner_goes owned (fits.registered List.mem_cons_self) (stuck owner)
  · rw [stands] at holds
    exact holds
  · rw [stands] at holds
    exact holds

end MessageQueues

end FiberApp.Messaging
