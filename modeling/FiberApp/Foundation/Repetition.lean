/-! Calling a step again and again until it refuses. -/

set_option autoImplicit false

namespace FiberApp.Foundation

variable {State : Type}

/-- The calls leave these states, one after the other, and in the last one the step
refuses. -/
inductive Repeats (step : State → Option State) : State → List State → State → Prop where
  | refused {state} : step state = none → Repeats step state [] state
  | called {state next calls final} :
      step state = some next → Repeats step next calls final →
      Repeats step state (next :: calls) final

theorem Repeats.refuses {step : State → Option State} {start final : State}
    {calls : List State} (repeats : Repeats step start calls final) : step final = none := by
  induction repeats with
  | refused refused => exact refused
  | called _ _ ih => exact ih

/-- A step that uses something up is refused after finitely many calls. -/
theorem exists_repeats {step : State → Option State} (left : State → Nat)
    (less : ∀ state next, step state = some next → left next < left state) (start : State) :
    ∃ calls final, Repeats step start calls final := by
  generalize bound : left start = fuel
  induction fuel using Nat.strongRecOn generalizing start with
  | ind fuel ih =>
      cases taken : step start with
      | none => exact ⟨[], start, .refused taken⟩
      | some next =>
          obtain ⟨calls, final, repeats⟩ := ih (left next) (bound ▸ less start next taken) next rfl
          exact ⟨next :: calls, final, .called taken repeats⟩

end FiberApp.Foundation
