import Mathlib.Data.List.Chain

/-! Registrations made and undone through a pointer to the object they are made on. The
pointer is dropped only behind the call that undoes them. -/

set_option autoImplicit false

namespace FiberApp.Foundation

variable {α : Type}

/-- A registration on an object that succeeds, the call that undoes one, which may find
none, and the loss of the pointer to the object. -/
inductive RegistrationEvent (α : Type)
  | registered (object : α)
  | unregistered (object : α)
  | dropped (object : α)
  deriving DecidableEq, Repr

namespace RegistrationEvent

def Follows : RegistrationEvent α → RegistrationEvent α → Prop
  | .registered object, next => next = .unregistered object
  | .unregistered object, next => next = .dropped object
  | .dropped _, _ => True

/-- A registration is undone before anything else happens, on its object, and the pointer
is dropped before anything is undone again. -/
def InOrder (events : List (RegistrationEvent α)) : Prop := List.IsChain Follows events

/-- What one event does to the registrations a system has of one kind. -/
def apply [DecidableEq α] (live : List α) : RegistrationEvent α → List α
  | .registered object => live ++ [object]
  | .unregistered object => live.erase object
  | .dropped _ => live

def live [DecidableEq α] (events : List (RegistrationEvent α)) : List α :=
  events.foldl apply []

def lastRegistered (events : List (RegistrationEvent α)) : Option α :=
  match events.getLast? with
  | some (.registered object) => some object
  | _ => none

theorem InOrder.concat {events : List (RegistrationEvent α)} (inOrder : InOrder events)
    {event : RegistrationEvent α} (follows : ∀ last ∈ events.getLast?, Follows last event) :
    InOrder (events ++ [event]) :=
  List.isChain_append.mpr ⟨inOrder, List.isChain_singleton event,
    fun last member next head => by simpa [Option.mem_some_iff.mp head] using follows last member⟩

theorem InOrder.of_isPrefix {events before : List (RegistrationEvent α)} (inOrder : InOrder events)
    (earlier : before <+: events) : InOrder before :=
  List.IsChain.prefix inOrder earlier

theorem InOrder.next {before after : List (RegistrationEvent α)}
    {event next : RegistrationEvent α} (inOrder : InOrder (before ++ event :: next :: after)) :
    Follows event next :=
  (List.isChain_append_cons_cons.mp inOrder).2.1

/-- Behind a registration nothing has happened yet, or the next event undoes it, and the
one after that drops the pointer. -/
theorem InOrder.undone {before after : List (RegistrationEvent α)} {object : α}
    (inOrder : InOrder (before ++ .registered object :: after)) :
    after = [] ∨ after = [.unregistered object] ∨
      ∃ rest, after = .unregistered object :: .dropped object :: rest := by
  cases after with
  | nil => exact .inl rfl
  | cons next after =>
      obtain rfl : next = .unregistered object := inOrder.next
      cases after with
      | nil => exact .inr (.inl rfl)
      | cons last rest =>
          rw [List.append_cons] at inOrder
          obtain rfl : last = .dropped object := InOrder.next inOrder
          exact .inr (.inr ⟨rest, rfl⟩)

section Live

variable [DecidableEq α]

theorem live_concat (events : List (RegistrationEvent α)) (event : RegistrationEvent α) :
    live (events ++ [event]) = apply (live events) event := by
  simp [live]

/-- The system has the one registration that was made last, unless it is undone. -/
theorem InOrder.live_eq {events : List (RegistrationEvent α)} (inOrder : InOrder events) :
    live events = (lastRegistered events).toList := by
  induction events using List.reverseRecOn with
  | nil => rfl
  | append_singleton before event ih =>
      have earlier := ih (inOrder.of_isPrefix (List.prefix_append before [event]))
      have follows : ∀ last ∈ before.getLast?, Follows last event := fun last member =>
        (List.isChain_append.mp inOrder).2.2 last member event (by simp)
      rw [live_concat, earlier]
      cases ended : before.getLast? with
      | none => cases event <;> simp [lastRegistered, ended, apply]
      | some last =>
          have follows := follows last ended
          cases last with
          | registered object =>
              obtain rfl : event = .unregistered object := follows
              simp [lastRegistered, ended, apply]
          | unregistered object =>
              obtain rfl : event = .dropped object := follows
              simp [lastRegistered, ended, apply]
          | dropped object => cases event <;> simp [lastRegistered, ended, apply]

theorem InOrder.live_le_one {events : List (RegistrationEvent α)} (inOrder : InOrder events) :
    (live events).length ≤ 1 := by
  rw [inOrder.live_eq]
  cases lastRegistered events <;> simp

end Live

/-- The events are in order, and a registration that is not undone was made on the object
the pointer points to. -/
structure Settled (pointer : Option α) (events : List (RegistrationEvent α)) : Prop where
  inOrder : InOrder events
  held : ∀ object, events.getLast? = some (.registered object) → pointer = some object
  closed : ∀ object, events.getLast? ≠ some (.unregistered object)

theorem settled_nil (pointer : Option α) : Settled pointer [] :=
  ⟨List.isChain_nil, fun _ last => (Option.some_ne_none _ last.symm).elim,
    fun _ last => (Option.some_ne_none _ last.symm).elim⟩

theorem Settled.idle {events : List (RegistrationEvent α)} (settled : Settled none events)
    {event : RegistrationEvent α} : ∀ last ∈ events.getLast?, Follows last event := by
  intro last member
  cases last with
  | registered object => exact absurd (settled.held object member) (Option.some_ne_none _).symm
  | unregistered object => exact absurd member (settled.closed object)
  | dropped object => trivial

/-- What one try to register does that starts from a null pointer: it gets no object, or
it gets one and fails to register on it, or it registers. -/
inductive Attempt : Option α → List (RegistrationEvent α) → Prop
  | failed : Attempt none []
  | held (object : α) : Attempt (some object) []
  | registered (object : α) : Attempt (some object) [.registered object]

theorem Settled.attempt {events new : List (RegistrationEvent α)} {pointer : Option α}
    (settled : Settled none events) (attempt : Attempt pointer new) :
    Settled pointer (events ++ new) := by
  cases attempt with
  | failed => simpa using settled
  | held object =>
      rw [List.append_nil]
      exact ⟨settled.inOrder,
        fun other last => absurd (settled.held other last) (Option.some_ne_none _).symm,
        settled.closed⟩
  | registered object =>
      refine ⟨settled.inOrder.concat settled.idle, fun other last => ?_, fun other last => ?_⟩
      · rw [List.getLast?_concat] at last
        cases last
        rfl
      · rw [List.getLast?_concat] at last
        cases last

/-- The calls that undo what may be registered and drop the pointer. -/
def releaseEvents (pointer : Option α) : List (RegistrationEvent α) :=
  pointer.toList.map .unregistered ++ pointer.toList.map .dropped

theorem Settled.release {events : List (RegistrationEvent α)} {pointer : Option α}
    (settled : Settled pointer events) : Settled none (events ++ releaseEvents pointer) := by
  cases pointer with
  | none => simpa [releaseEvents] using settled
  | some object =>
      have follows : ∀ last ∈ events.getLast?, Follows last (.unregistered object) := by
        intro last member
        cases last with
        | registered other =>
            obtain rfl : object = other := Option.some.inj (settled.held other member)
            rfl
        | unregistered other => exact absurd member (settled.closed other)
        | dropped other => trivial
      have undone := settled.inOrder.concat follows
      change Settled none (events ++ ([.unregistered object] ++ [.dropped object]))
      rw [← List.append_assoc]
      refine ⟨undone.concat ?_, fun other last => ?_, fun other last => ?_⟩
      · intro last member
        rw [List.getLast?_concat] at member
        cases member
        rfl
      · rw [List.getLast?_concat] at last
        cases last
      · rw [List.getLast?_concat] at last
        cases last

theorem Settled.lastRegistered_none {events : List (RegistrationEvent α)}
    (settled : Settled none events) : lastRegistered events = none := by
  unfold lastRegistered
  split
  · rename_i object last
    exact absurd (settled.held object last) (Option.some_ne_none _).symm
  · rfl

/-- Each registration is still live on the object the pointer points to, or is undone. -/
theorem Settled.undone {pointer : Option α} {before after : List (RegistrationEvent α)}
    {object : α} (settled : Settled pointer (before ++ .registered object :: after)) :
    after = [] ∧ pointer = some object ∨
      ∃ rest, after = .unregistered object :: .dropped object :: rest := by
  rcases settled.inOrder.undone with rfl | rfl | undone
  · exact .inl ⟨rfl, settled.held object (by simp)⟩
  · exact absurd (by simp) (settled.closed object)
  · exact .inr undone

end RegistrationEvent

end FiberApp.Foundation
