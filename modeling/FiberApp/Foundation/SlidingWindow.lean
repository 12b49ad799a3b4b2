import Mathlib.Data.Set.Insert
import Mathlib.Order.Lattice

/-! A receive window over unbounded packet numbers. It remembers the highest
number and the set of numbers accepted so far, accepts every number above the
highest one, and below it accepts a number of the window once. -/

set_option autoImplicit false

namespace FiberApp.Foundation

structure SlidingWindow where
  highest : Int
  accepted : Set Int

namespace SlidingWindow

variable (size : Nat) (window : SlidingWindow)

/-- The number is ahead of the window or inside it. -/
def Covers (number : Int) : Prop := window.highest - size < number

def Admits (number : Int) : Prop :=
  window.highest < number ∨ window.Covers size number ∧ number ∉ window.accepted

open Classical in
noncomputable def receive (number : Int) : SlidingWindow where
  highest := max window.highest number
  accepted := if window.Admits size number then insert number window.accepted else window.accepted

/-- No number above the highest one has been accepted. -/
def Bounded : Prop := ∀ number ∈ window.accepted, number ≤ window.highest

variable {size window}

theorem Bounded.admits_iff (bounded : window.Bounded) {number : Int}
    (covered : window.Covers size number) :
    window.Admits size number ↔ number ∉ window.accepted := by
  constructor
  · rintro (ahead | ⟨_, fresh⟩)
    · intro member
      exact absurd (bounded number member) (not_le.mpr ahead)
    · exact fresh
  · intro fresh
    exact .inr ⟨covered, fresh⟩

theorem Bounded.receive (bounded : window.Bounded) (number : Int) :
    (window.receive size number).Bounded := by
  intro other member
  by_cases admitted : window.Admits size number
  · simp only [SlidingWindow.receive, admitted, ↓reduceIte, Set.mem_insert_iff] at member
    rcases member with rfl | member
    · exact le_max_right _ _
    · exact le_trans (bounded other member) (le_max_left _ _)
  · simp only [SlidingWindow.receive, admitted, ↓reduceIte] at member
    exact le_trans (bounded other member) (le_max_left _ _)

theorem receive_of_admits {number : Int} (admitted : window.Admits size number) :
    window.receive size number =
      { highest := max window.highest number, accepted := insert number window.accepted } := by
  simp [receive, admitted]

theorem receive_of_not_admits {number : Int} (refused : ¬ window.Admits size number) :
    window.receive size number = window := by
  have behind : number ≤ window.highest := not_lt.mp fun ahead => refused (.inl ahead)
  simp [receive, refused, behind]

end SlidingWindow

end FiberApp.Foundation
