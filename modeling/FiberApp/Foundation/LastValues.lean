import FiberApp.Foundation.CircularBuffer
import Mathlib.Data.List.DropRight

/-! The last values of a growing sequence. A fixed number of cells written in turn
keeps them: the next cell to be written holds the oldest one once all are taken. -/

set_option autoImplicit false

namespace FiberApp.Foundation

variable {α β : Type}

theorem length_rtake (bound : Nat) (values : List α) :
    (values.rtake bound).length = min values.length bound := by
  rw [List.rtake, List.length_drop]
  omega

theorem rtake_eq_self {bound : Nat} {values : List α} (short : values.length ≤ bound) :
    values.rtake bound = values := by
  rw [List.rtake, Nat.sub_eq_zero_of_le short, List.drop_zero]

theorem mem_of_mem_rtake {bound : Nat} {values : List α} {value : α}
    (member : value ∈ values.rtake bound) : value ∈ values :=
  List.mem_of_mem_drop member

/-- The newest value is among the last ones. -/
theorem mem_rtake_concat {bound : Nat} (positive : 0 < bound) (values : List α) (value : α) :
    value ∈ (values ++ [value]).rtake bound := by
  obtain ⟨smaller, rfl⟩ : ∃ smaller, bound = smaller + 1 := ⟨bound - 1, by omega⟩
  rw [List.rtake_concat_succ]
  exact List.mem_append_right _ (List.mem_singleton.mpr rfl)

theorem map_rtake (f : α → β) (bound : Nat) (values : List α) :
    (values.rtake bound).map f = (values.map f).rtake bound := by
  rw [List.rtake, List.rtake, List.map_drop, List.length_map]

theorem foldl_concat (before values : List α) :
    values.foldl (fun before value => before ++ [value]) before = before ++ values := by
  induction values generalizing before with
  | nil => exact (List.append_nil before).symm
  | cons value values ih => rw [List.foldl_cons, ih, List.append_assoc, List.singleton_append]

/-- A further value takes the place of the oldest one when the bound is reached. -/
theorem rtake_concat {bound : Nat} (positive : 0 < bound) (values : List α) (value : α) :
    (values ++ [value]).rtake bound = pushBounded bound value (values.rtake bound) := by
  obtain ⟨smaller, rfl⟩ : ∃ smaller, bound = smaller + 1 := ⟨bound - 1, by omega⟩
  rw [List.rtake_concat_succ, pushBounded, keptBounded, length_rtake]
  split
  case isTrue full =>
    rw [List.rtake, List.rtake, List.tail_drop]
    congr 3
    omega
  case isFalse room =>
    rw [rtake_eq_self (by omega), rtake_eq_self (by omega)]

/-- The next cell of a fixed number of cells written in turn. -/
theorem succ_mod_eq_ite {bound : Nat} (positive : 0 < bound) (written : Nat) :
    (written + 1) % bound =
      if written % bound + 1 = bound then 0 else written % bound + 1 := by
  have below := Nat.mod_lt written positive
  rw [Nat.add_mod]
  split
  case isTrue last =>
    rcases Nat.eq_or_lt_of_le positive with rfl | several
    · exact Nat.mod_one _
    · rw [Nat.mod_eq_of_lt several, last, Nat.mod_self]
  case isFalse inner =>
    rw [Nat.mod_eq_of_lt (a := 1) (by omega), Nat.mod_eq_of_lt (by omega)]

/-- The cells hold the window: it fills them from the first one on, and from then on it
starts at the next cell to be written. -/
structure Ring (cells : List α) (next count : Nat) (window : List α) : Prop where
  counted : count = window.length
  short : count ≤ cells.length
  read : (count < cells.length ∧ next = count ∧ cells.take count = window) ∨
    (count = cells.length ∧ next < cells.length ∧ cells.rotate next = window)

namespace Ring

variable {cells window : List α} {next count : Nat}

theorem empty (positive : 0 < cells.length) : Ring cells 0 0 [] :=
  ⟨rfl, Nat.zero_le _, .inl ⟨positive, rfl, rfl⟩⟩

theorem inside (ring : Ring cells next count window) : next < cells.length := by
  rcases ring.read with ⟨filling, same, -⟩ | ⟨-, inside, -⟩
  · rw [same]
    exact filling
  · exact inside

/-- The cells in use hold the window, in the order they were written. -/
theorem perm (ring : Ring cells next count window) : (cells.take count).Perm window := by
  rcases ring.read with ⟨-, -, read⟩ | ⟨full, -, read⟩
  · rw [read]
  · rw [full, List.take_length, ← read]
    exact (List.rotate_perm cells next).symm

/-- The next cell of a full ring holds the oldest value. -/
theorem oldest (ring : Ring cells next count window) (full : count = cells.length) :
    cells[next]? = window.head? := by
  rcases ring.read with ⟨filling, -, -⟩ | ⟨-, inside, read⟩
  · omega
  · rw [← read, List.head?_rotate inside]

theorem push (ring : Ring cells next count window) (value : α) :
    Ring (cells.set next value) (if next + 1 = cells.length then 0 else next + 1)
      (if count < cells.length then count + 1 else count)
      (pushBounded cells.length value window) := by
  have inside := ring.inside
  have same := ring.counted
  rcases ring.read with ⟨filling, rfl, read⟩ | ⟨full, -, read⟩
  · have written : (cells.set next value).take (next + 1) = window ++ [value] := by
      rw [List.take_succ_eq_append_getElem (by rw [List.length_set]; exact inside),
        List.getElem_set_self, List.take_set_of_le (Nat.le_refl next), read]
    have room : ¬ window.length = cells.length := by omega
    rw [pushBounded, keptBounded, if_neg room, if_pos filling]
    refine ⟨by simp [same], by rw [List.length_set]; omega, ?_⟩
    rw [List.length_set]
    by_cases last : next + 1 = cells.length
    · refine .inr ⟨last, by simp only [last, if_true]; omega, ?_⟩
      rw [if_pos last, List.rotate_zero, ← written, last, ← List.length_set (a := value),
        List.take_length]
    · refine .inl ⟨by omega, if_neg last, written⟩
  · have whole : window.length = cells.length := by omega
    have stays : ¬ count < cells.length := by omega
    have written := rotate_succ_set inside value
    rw [read] at written
    rw [pushBounded, keptBounded, if_pos whole, if_neg stays]
    refine ⟨?_, by rw [List.length_set]; omega, .inr ?_⟩
    · rw [List.length_append, List.length_tail, List.length_singleton]
      omega
    · rw [List.length_set]
      by_cases last : next + 1 = cells.length
      · rw [if_pos last, ← written, last, List.rotate_zero]
        have around := List.rotate_length (cells.set next value)
        rw [List.length_set] at around
        exact ⟨full, by omega, around.symm⟩
      · rw [if_neg last]
        exact ⟨full, by omega, written⟩

end Ring

end FiberApp.Foundation
