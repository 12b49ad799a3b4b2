import FiberApp.Foundation.Execution
import FiberApp.Bandwidth.StateMachine

/-! A state machine follows its transition table, as long as the events posted to it are
inside the table of the state they find it in. -/

set_option autoImplicit false

namespace FiberApp.Bandwidth

open Foundation

variable {Address Action Context : Type}

namespace State

theorem operatorIndex_eq (state : State Address Action Context) (index : UInt32) :
    state.operatorIndex index = state.mTransitions[index.toNat]? := by
  rw [operatorIndex]
  split
  case isTrue inside => exact (List.getElem?_eq_getElem inside).symm
  case isFalse outside => exact (List.getElem?_eq_none (Nat.not_lt.mp outside)).symm

/-- A transition that is added inside the table is the one found there afterwards, and
one outside it is dropped. -/
theorem operatorIndex_addTransition (state : State Address Action Context)
    (event index : UInt32) (next : Option Address) (action : Option Action)
    (context : Option Context) :
    (state.addTransition event next action context).operatorIndex index =
      if index = event ∧ event.toNat < state.mTransitions.length then
        some ⟨next, action, context⟩
      else state.operatorIndex index := by
  rw [operatorIndex_eq, operatorIndex_eq, addTransition]
  by_cases inside : event.toNat < state.mTransitions.length
  · rw [if_pos inside]
    by_cases same : index = event
    · subst same
      rw [if_pos ⟨rfl, inside⟩, List.getElem?_set_self inside]
    · rw [if_neg (fun both => same both.1), List.getElem?_set_ne]
      exact fun equal => same (UInt32.toNat_inj.mp equal.symm)
  · rw [if_neg inside, if_neg (fun both => inside both.2)]

end State

namespace StateMachine

/-- What a transition table defines for a state and an event: the next state, and the
action that leads to it. -/
def definedTransition (states : Address → State Address Action Context) (current : Address)
    (event : UInt32) : Option (Address × List (ActionCall Address Action Context)) :=
  (states current).mTransitions[event.toNat]?.bind fun transition =>
    transition.mNextState.map fun next =>
      (next, (transition.mAction.map (.action · transition.mContext)).toList)

/-- The state the table leads to; without a defined transition it is the current one. -/
def target (states : Address → State Address Action Context) (current : Option Address)
    (event : UInt32) : Option Address :=
  current.map fun current =>
    match definedTransition states current event with
    | none => current
    | some (next, _) => next

/-- Exit action, transition action and entry action of a defined transition. -/
def expectedCalls (states : Address → State Address Action Context) (context : Option Context)
    (current : Option Address) (event : UInt32) : List (ActionCall Address Action Context) :=
  match current with
  | none => []
  | some current =>
      match definedTransition states current event with
      | none => []
      | some (next, action) =>
          [.onExit current context event] ++ action ++ [.onEntry next context event]

/-- The calls of a sequence of events, in the states the table leads to. -/
def allCalls (states : Address → State Address Action Context) (context : Option Context) :
    Option Address → List UInt32 → List (ActionCall Address Action Context)
  | _, [] => []
  | current, event :: events =>
      expectedCalls states context current event ++
        allCalls states context (target states current event) events

/-- Every event finds the machine without a state, or in one whose table it is inside. -/
def EventsInside (states : Address → State Address Action Context) :
    Option Address → List UInt32 → Prop
  | _, [] => True
  | current, event :: events =>
      (∀ state, current = some state → event.toNat < (states state).mTransitions.length) ∧
        EventsInside states (target states current event) events

/-- A machine with the calls made so far. -/
structure Session (Address Action Context : Type) where
  machine : StateMachine Address Context
  calls : List (ActionCall Address Action Context)

def post (states : Address → State Address Action Context)
    (session : Session Address Action Context) (event : UInt32) :
    Option (Session Address Action Context) :=
  (session.machine.postEvent states event).map fun (machine, calls) =>
    ⟨machine, session.calls ++ calls⟩

/-- The events bring the machine where the table leads to, with its calls in order. -/
def Dispatches (states : Address → State Address Action Context)
    (machine : StateMachine Address Context) (events : List UInt32) : Prop :=
  ∃ final, execute (post states) ⟨machine, []⟩ events = some final ∧
    final.machine.mCurrentState = events.foldl (target states) machine.mCurrentState ∧
    final.calls = allCalls states machine.mContext machine.mCurrentState events

section

variable {states : Address → State Address Action Context}
  {session : Session Address Action Context} {event : UInt32}

theorem post_of_inside
    (inside : ∀ state, session.machine.mCurrentState = some state →
      event.toNat < (states state).mTransitions.length) :
    ∃ next, post states session event = some next ∧
      next.machine.mCurrentState = target states session.machine.mCurrentState event ∧
      next.machine.mContext = session.machine.mContext ∧
      next.calls = session.calls ++
        expectedCalls states session.machine.mContext session.machine.mCurrentState event := by
  obtain ⟨⟨current, context, lastEvent⟩, calls⟩ := session
  cases current with
  | none => exact ⟨_, rfl, rfl, rfl, rfl⟩
  | some current =>
      obtain ⟨⟨next, action, passed⟩, found⟩ : ∃ transition,
          (states current).mTransitions[event.toNat]? = some transition :=
        ⟨_, List.getElem?_eq_getElem (inside current rfl)⟩
      simp only [post, postEvent, State.operatorIndex_eq, target, expectedCalls,
        definedTransition, found, Option.bind_some, Option.map_some]
      cases next with
      | none => exact ⟨_, rfl, rfl, rfl, rfl⟩
      | some next =>
          cases action with
          | none => exact ⟨_, rfl, rfl, rfl, rfl⟩
          | some action => exact ⟨_, rfl, rfl, rfl, rfl⟩

/-- The missing transition is looked at all the same. -/
theorem post_of_outside {current : Address}
    (found : session.machine.mCurrentState = some current)
    (outside : (states current).mTransitions.length ≤ event.toNat) :
    post states session event = none := by
  have missing := List.getElem?_eq_none outside
  simp only [post, postEvent, found, State.operatorIndex_eq, missing, Option.map_none]

theorem execute_post_iff (events : List UInt32) :
    (∃ final, execute (post states) session events = some final ∧
      final.machine.mCurrentState =
        events.foldl (target states) session.machine.mCurrentState ∧
      final.calls = session.calls ++
        allCalls states session.machine.mContext session.machine.mCurrentState events) ↔
    EventsInside states session.machine.mCurrentState events := by
  induction events generalizing session with
  | nil => exact ⟨fun _ => trivial, fun _ => ⟨session, rfl, rfl, (List.append_nil _).symm⟩⟩
  | cons event events ih =>
      by_cases inside : ∀ state, session.machine.mCurrentState = some state →
          event.toNat < (states state).mTransitions.length
      · obtain ⟨next, posted, current, context, calls⟩ := post_of_inside inside
        have rest := @ih next
        rw [current, context, calls] at rest
        simp only [execute, posted, List.foldl_cons, allCalls, EventsInside, ← List.append_assoc,
          rest]
        exact ⟨fun later => ⟨inside, later⟩, fun both => both.2⟩
      · have outside : ∃ state, session.machine.mCurrentState = some state ∧
            (states state).mTransitions.length ≤ event.toNat := by
          by_contra everywhere
          exact inside fun state found => Nat.lt_of_not_le fun past =>
            everywhere ⟨state, found, past⟩
        obtain ⟨state, found, past⟩ := outside
        rw [execute, post_of_outside found past]
        constructor
        · intro run
          obtain ⟨final, impossible, -⟩ := run
          cases impossible
        · intro condition
          exact absurd condition.1 inside

end

/-- Dispatch follows the table if and only if every event is inside the table of the
state that the events before it lead to. -/
theorem dispatches_iff (states : Address → State Address Action Context)
    (machine : StateMachine Address Context) (events : List UInt32) :
    Dispatches states machine events ↔ EventsInside states machine.mCurrentState events := by
  let session : Session Address Action Context := ⟨machine, []⟩
  have run : _ ↔ EventsInside states session.machine.mCurrentState events :=
    execute_post_iff events
  exact run

/-- A state of one transition, to itself, is posted the event after it. -/
theorem not_dispatches :
    ¬ Dispatches (fun _ : Unit => (⟨[⟨some (), none, none⟩]⟩ : State Unit Unit Unit))
      ⟨some (), none, invalidEvent⟩ [0, 1] := by
  intro dispatches
  obtain ⟨final, executed, -⟩ := dispatches
  cases executed

end StateMachine

end FiberApp.Bandwidth
