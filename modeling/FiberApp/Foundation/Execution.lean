import Mathlib.Data.List.Basic

/-! Finite runs of a labelled step function. Nothing here mentions a concrete
system: a run is a list of labels, a label that is not enabled stops it, and a
guard is a condition on the state a step leaves and on its label. -/

set_option autoImplicit false

namespace FiberApp.Foundation

variable {State Label : Type}

/-- Take the labels in order. A label without a successor ends the run with
`none`, so `some` means that every label was enabled where it was taken. -/
def execute (step : State → Label → Option State) : State → List Label → Option State
  | state, [] => some state
  | state, label :: rest =>
      match step state label with
      | none => none
      | some next => execute step next rest

/-- Every step the run takes meets the guard in the state it leaves. -/
def Guarded (step : State → Label → Option State) (guard : State → Label → Prop) :
    State → List Label → Prop
  | _, [] => True
  | state, label :: rest =>
      guard state label ∧ ∀ next, step state label = some next → Guarded step guard next rest

/-- Every state the run visits, its first and last included, has the property. -/
def Throughout (step : State → Label → Option State) (property : State → Prop) :
    State → List Label → Prop
  | state, [] => property state
  | state, label :: rest =>
      property state ∧ ∀ next, step state label = some next → Throughout step property next rest

def total (step : State → Label → State) : State → Label → Option State :=
  fun state label => some (step state label)

@[simp] theorem execute_nil (step : State → Label → Option State) (state : State) :
    execute step state [] = some state := rfl

theorem execute_cons_eq_some {step : State → Label → Option State} {state final : State}
    {label : Label} {rest : List Label} :
    execute step state (label :: rest) = some final ↔
      ∃ next, step state label = some next ∧ execute step next rest = some final := by
  cases taken : step state label <;> simp [execute, taken]

@[simp] theorem execute_total (step : State → Label → State) (state : State)
    (labels : List Label) :
    execute (total step) state labels = some (labels.foldl step state) := by
  induction labels generalizing state with
  | nil => rfl
  | cons label rest ih => exact ih (step state label)

theorem execute_append {step : State → Label → Option State} {start final : State}
    {before after : List Label} :
    execute step start (before ++ after) = some final ↔
      ∃ middle, execute step start before = some middle ∧
        execute step middle after = some final := by
  induction before generalizing start with
  | nil => simp
  | cons label before ih =>
      simp only [List.cons_append, execute_cons_eq_some, ih]
      constructor
      · rintro ⟨next, taken, middle, first, second⟩
        exact ⟨middle, ⟨next, taken, first⟩, second⟩
      · rintro ⟨middle, ⟨next, taken, first⟩, second⟩
        exact ⟨next, taken, middle, first, second⟩

/-- A relation to an abstract state that every step keeps is kept by every run, and no
step of it is disabled. -/
theorem execute_simulates {Abstract : Type} {step : State → Label → Option State}
    {after : Abstract → Label → Abstract} (related : State → Abstract → Prop)
    (simulated : ∀ state abstract label, related state abstract →
      ∃ next, step state label = some next ∧ related next (after abstract label))
    {start : State} {abstract : Abstract} (initial : related start abstract)
    (labels : List Label) :
    ∃ final, execute step start labels = some final ∧
      related final (labels.foldl after abstract) := by
  induction labels generalizing start abstract with
  | nil => exact ⟨start, rfl, initial⟩
  | cons label rest ih =>
      obtain ⟨next, taken, kept⟩ := simulated start abstract label initial
      obtain ⟨final, executed, reached⟩ := ih kept
      exact ⟨final, execute_cons_eq_some.mpr ⟨next, taken, executed⟩, reached⟩

/-- An abstraction that commutes with every step, disabled ones included, commutes with
every run. -/
theorem map_execute {Abstract : Type} {step : State → Label → Option State}
    {abstractStep : Abstract → Label → Option Abstract} (abstract : State → Abstract)
    (commutes : ∀ state label,
      (step state label).map abstract = abstractStep (abstract state) label)
    (start : State) (labels : List Label) :
    (execute step start labels).map abstract =
      execute abstractStep (abstract start) labels := by
  induction labels generalizing start with
  | nil => rfl
  | cons label rest ih =>
      rw [execute, execute, ← commutes]
      cases step start label with
      | none => rfl
      | some next => exact ih next

theorem guarded_cons_of_some {step : State → Label → Option State}
    {guard : State → Label → Prop} {state next : State} {label : Label} {rest : List Label}
    (taken : step state label = some next) :
    Guarded step guard state (label :: rest) ↔
      guard state label ∧ Guarded step guard next rest := by
  simp [Guarded, taken]

theorem guarded_cons_of_none {step : State → Label → Option State}
    {guard : State → Label → Prop} {state : State} {label : Label} {rest : List Label}
    (stuck : step state label = none) :
    Guarded step guard state (label :: rest) ↔ guard state label := by
  simp [Guarded, stuck]

instance decidableGuarded (step : State → Label → Option State) (guard : State → Label → Prop)
    [∀ state label, Decidable (guard state label)] (state : State) (labels : List Label) :
    Decidable (Guarded step guard state labels) :=
  match labels with
  | [] => .isTrue trivial
  | label :: rest =>
      match taken : step state label with
      | none => decidable_of_iff _ (guarded_cons_of_none taken).symm
      | some next =>
          have := decidableGuarded step guard next rest
          decidable_of_iff _ (guarded_cons_of_some taken).symm

/-- A guard on the labels alone holds along every run that takes labels which meet it. -/
theorem guarded_of_mem {step : State → Label → Option State} {allowed : Label → Prop}
    {start : State} {labels : List Label} (all : ∀ label ∈ labels, allowed label) :
    Guarded step (fun _ label => allowed label) start labels := by
  induction labels generalizing start with
  | nil => trivial
  | cons label rest ih =>
      exact ⟨all label List.mem_cons_self, fun _ _ =>
        ih fun later member => all later (List.mem_cons_of_mem label member)⟩

theorem Guarded.and {step : State → Label → Option State} {first second : State → Label → Prop}
    {start : State} {labels : List Label} (left : Guarded step first start labels)
    (right : Guarded step second start labels) :
    Guarded step (fun state label => first state label ∧ second state label) start labels := by
  induction labels generalizing start with
  | nil => trivial
  | cons label rest ih =>
      exact ⟨⟨left.1, right.1⟩, fun next taken => ih (left.2 next taken) (right.2 next taken)⟩

/-- An invariant that every guarded step keeps holds at the end of every guarded run. -/
theorem execute_preserves {step : State → Label → Option State} {guard : State → Label → Prop}
    (invariant : State → Prop)
    (preserved : ∀ state label next, invariant state → guard state label →
      step state label = some next → invariant next)
    {start final : State} {labels : List Label} (initial : invariant start)
    (guarded : Guarded step guard start labels)
    (executed : execute step start labels = some final) : invariant final := by
  induction labels generalizing start with
  | nil =>
      cases executed
      exact initial
  | cons label rest ih =>
      obtain ⟨next, taken, finished⟩ := execute_cons_eq_some.mp executed
      exact ih (preserved start label next initial guarded.1 taken) (guarded.2 next taken)
        finished

/-- A run goes through exactly when every label is enabled where it is taken. -/
theorem execute_isSome_iff {step : State → Label → Option State}
    {enabled : State → Label → Prop}
    (enabled_iff : ∀ state label, (step state label).isSome ↔ enabled state label)
    {start : State} {labels : List Label} :
    (execute step start labels).isSome ↔ Guarded step enabled start labels := by
  induction labels generalizing start with
  | nil => exact iff_of_true rfl trivial
  | cons label rest ih =>
      rw [execute, Guarded, ← enabled_iff]
      cases step start label with
      | none => simp
      | some next => simpa using ih

/-- Where every guarded step is enabled and keeps the invariant, a guarded run goes through. -/
theorem execute_progresses {step : State → Label → Option State} {guard : State → Label → Prop}
    (invariant : State → Prop)
    (progress : ∀ state label, invariant state → guard state label →
      ∃ next, step state label = some next ∧ invariant next)
    {start : State} {labels : List Label} (initial : invariant start)
    (guarded : Guarded step guard start labels) :
    ∃ final, execute step start labels = some final ∧ invariant final := by
  induction labels generalizing start with
  | nil => exact ⟨start, rfl, initial⟩
  | cons label rest ih =>
      obtain ⟨next, taken, kept⟩ := progress start label initial guarded.1
      obtain ⟨final, executed, reached⟩ := ih kept (guarded.2 next taken)
      exact ⟨final, execute_cons_eq_some.mpr ⟨next, taken, executed⟩, reached⟩

/-- A guard that makes each step keep a promise makes the run keep it. -/
theorem Guarded.promised {step : State → Label → Option State}
    {guard promise : State → Label → Prop} (invariant : State → Prop)
    (meets : ∀ state label, invariant state → guard state label → promise state label)
    (kept : ∀ state label next, invariant state → guard state label →
      step state label = some next → invariant next)
    {start : State} {labels : List Label} (initial : invariant start)
    (guarded : Guarded step guard start labels) : Guarded step promise start labels := by
  induction labels generalizing start with
  | nil => trivial
  | cons label rest ih =>
      exact ⟨meets start label initial guarded.1, fun next taken =>
        ih (kept start label next initial guarded.1 taken) (guarded.2 next taken)⟩

theorem Throughout.start {step : State → Label → Option State} {property : State → Prop}
    {state : State} {labels : List Label}
    (holds : Throughout step property state labels) : property state := by
  cases labels with
  | nil => exact holds
  | cons label rest => exact holds.1

theorem throughout_iff_prefix {step : State → Label → Option State} {property : State → Prop}
    {start : State} {labels : List Label} :
    Throughout step property start labels ↔
      ∀ before after state, labels = before ++ after →
        execute step start before = some state → property state := by
  induction labels generalizing start with
  | nil =>
      constructor
      · intro holds before after state split executed
        obtain ⟨rfl, rfl⟩ := List.append_eq_nil_iff.mp split.symm
        cases executed
        exact holds
      · intro holds
        exact holds [] [] start rfl rfl
  | cons label rest ih =>
      constructor
      · intro holds before after state split executed
        cases before with
        | nil =>
            cases executed
            exact holds.1
        | cons first before =>
            simp only [List.cons_append, List.cons.injEq] at split
            obtain ⟨rfl, split⟩ := split
            obtain ⟨next, taken, reached⟩ := execute_cons_eq_some.mp executed
            exact ih.mp (holds.2 next taken) before after state split reached
      · intro holds
        refine ⟨holds [] (label :: rest) start rfl rfl, fun next taken => ih.mpr ?_⟩
        intro before after state split reached
        exact holds (label :: before) after state (by rw [split]; rfl)
          (execute_cons_eq_some.mpr ⟨next, taken, reached⟩)

theorem Throughout.reached {step : State → Label → Option State} {property : State → Prop}
    {start final : State} {labels : List Label} (holds : Throughout step property start labels)
    (executed : execute step start labels = some final) : property final :=
  throughout_iff_prefix.mp holds labels [] final (by simp) executed

theorem throughout_of_guarded {step : State → Label → Option State}
    {guard : State → Label → Prop} {property : State → Prop} (invariant : State → Prop)
    (sound : ∀ state, invariant state → property state)
    (kept : ∀ state label next, invariant state → guard state label →
      step state label = some next → invariant next)
    {start : State} {labels : List Label} (initial : invariant start)
    (guarded : Guarded step guard start labels) : Throughout step property start labels := by
  induction labels generalizing start with
  | nil => exact sound start initial
  | cons label rest ih =>
      exact ⟨sound start initial, fun next taken =>
        ih (kept start label next initial guarded.1 taken) (guarded.2 next taken)⟩

theorem throughout_of_preserved {step : State → Label → Option State} {property : State → Prop}
    (invariant : State → Prop) (sound : ∀ state, invariant state → property state)
    (kept : ∀ state label next, invariant state → step state label = some next → invariant next)
    {start : State} {labels : List Label} (initial : invariant start) :
    Throughout step property start labels := by
  induction labels generalizing start with
  | nil => exact sound start initial
  | cons label rest ih =>
      exact ⟨sound start initial, fun next taken => ih (kept start label next initial taken)⟩

/-- When the guard is exactly what a step needs to keep the invariant, and a
step outside it lands in a state where the property is lost, a run has the
property throughout if and only if all its steps are guarded. -/
theorem throughout_iff_guarded {step : State → Label → Option State}
    {guard : State → Label → Prop} {property : State → Prop} (invariant : State → Prop)
    (sound : ∀ state, invariant state → property state)
    (kept : ∀ state label next, invariant state → guard state label →
      step state label = some next → invariant next)
    (exact_guard : ∀ state label, invariant state → ¬ guard state label →
      ∃ next, step state label = some next ∧ ¬ property next)
    {start : State} {labels : List Label} (initial : invariant start) :
    Throughout step property start labels ↔ Guarded step guard start labels := by
  refine ⟨fun holds => ?_, throughout_of_guarded invariant sound kept initial⟩
  induction labels generalizing start with
  | nil => trivial
  | cons label rest ih =>
      have admitted : guard start label := by
        by_contra refused
        obtain ⟨next, taken, lost⟩ := exact_guard start label initial refused
        exact lost (holds.2 next taken).start
      exact ⟨admitted, fun next taken =>
        ih (kept start label next initial admitted taken) (holds.2 next taken)⟩

end FiberApp.Foundation
