import Mathlib.Data.List.Basic

/-! Two overlapping generations of a history. Every value goes into both; when
the younger one has reached the interval, it takes the place of the older one
and an empty one is started. -/

set_option autoImplicit false

namespace FiberApp.Foundation

/-- The values of both generations, newest first, and how many values the
younger one has. -/
structure Generations (α : Type) where
  current : List α
  next : List α
  age : Nat

namespace Generations

variable {α : Type}

def empty : Generations α := ⟨[], [], 0⟩

def push (interval : Nat) (value : α) (generations : Generations α) : Generations α :=
  if generations.age = interval then ⟨value :: generations.next, [value], 1⟩
  else ⟨value :: generations.current, value :: generations.next, generations.age + 1⟩

/-- Both generations are the newest values of the history. Until the first
change of generation the older one is the whole history; from then on it is ahead
of the younger one by the interval. -/
structure Windows (interval : Nat) (history : List α) (generations : Generations α) : Prop where
  age_le : generations.age ≤ interval
  next : generations.next = history.take generations.age
  current : (history.length = generations.age ∧ generations.current = history) ∨
    (0 < generations.age ∧ interval + generations.age ≤ history.length ∧
      generations.current = history.take (interval + generations.age))

theorem windows_empty (interval : Nat) : Windows interval [] (empty : Generations α) where
  age_le := Nat.zero_le interval
  next := rfl
  current := .inl ⟨rfl, rfl⟩

theorem Windows.push {interval : Nat} (positive : 0 < interval) {history : List α}
    {generations : Generations α} (windows : Windows interval history generations) (value : α) :
    Windows interval (value :: history) (generations.push interval value) := by
  obtain ⟨age_le, next, current⟩ := windows
  by_cases full : generations.age = interval
  · rw [Generations.push, if_pos full]
    refine ⟨positive, rfl, .inr ⟨Nat.one_pos, ?_, ?_⟩⟩
    · rcases current with ⟨whole, -⟩ | ⟨-, long, -⟩
      · simp only [List.length_cons]
        omega
      · simp only [List.length_cons]
        omega
    · rw [next, full]
      rfl
  · rw [Generations.push, if_neg full]
    refine ⟨by simp only; omega, by simp only [next, List.take_succ_cons], ?_⟩
    rcases current with ⟨whole, same⟩ | ⟨started, long, same⟩
    · exact .inl ⟨by simp only [List.length_cons, whole], by rw [same]⟩
    · refine .inr ⟨Nat.succ_pos _, ?_, ?_⟩
      · simp only [List.length_cons]
        omega
      · rw [same, ← Nat.add_assoc, List.take_succ_cons]

/-- The older generation is the whole history while it fits the interval, and
afterwards more than one interval and at most two intervals of it. -/
theorem Windows.current_eq_take {interval : Nat} {history : List α}
    {generations : Generations α} (windows : Windows interval history generations) :
    ∃ length, generations.current = history.take length ∧ length ≤ history.length ∧
      (history.length ≤ interval → length = history.length) ∧
      (interval < history.length → interval < length ∧ length ≤ 2 * interval) := by
  have age_le := windows.age_le
  rcases windows.current with ⟨whole, same⟩ | ⟨started, long, same⟩
  · refine ⟨history.length, by rw [same, List.take_length], Nat.le_refl _, fun _ => rfl, ?_⟩
    intro longer
    omega
  · refine ⟨interval + generations.age, same, long, ?_, ?_⟩
    · intro short
      omega
    · intro longer
      omega

end Generations

end FiberApp.Foundation
