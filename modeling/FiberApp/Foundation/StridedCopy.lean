import Mathlib.Data.Nat.Basic

/-! Copying blocks and rows of bytes into a surface. A surface maps an offset to the last
byte written there, `none` where nothing was written. -/

set_option autoImplicit false

namespace FiberApp.Foundation

variable {α : Type}

abbrev Surface (α : Type) : Type := Nat → Option α

def Surface.blank : Surface α := fun _ => none

def memcpy (dest : Surface α) (offset : Nat) (src : Nat → α) (length : Nat) : Surface α :=
  fun place =>
    if offset ≤ place ∧ place < offset + length then some (src (place - offset)) else dest place

/-- Rows that lie one after another in the source go to the surface at a pitch. -/
def copyRows (pitch length : Nat) : Nat → Surface α → Nat → (Nat → α) → Surface α
  | 0, dest, _, _ => dest
  | rows + 1, dest, offset, src =>
      copyRows pitch length rows (memcpy dest offset src length) (offset + pitch)
        fun place => src (length + place)

variable (dest : Surface α) (offset : Nat) (src : Nat → α) (length : Nat)

theorem memcpy_inside {place : Nat} (inside : place < length) :
    memcpy dest offset src length (offset + place) = some (src place) := by
  rw [memcpy, if_pos ⟨by omega, by omega⟩, Nat.add_sub_cancel_left]

theorem memcpy_outside {place : Nat} (outside : place < offset ∨ offset + length ≤ place) :
    memcpy dest offset src length place = dest place :=
  if_neg (by omega)

theorem memcpy_cases {place : Nat} {byte : α}
    (read : memcpy dest offset src length place = some byte) :
    (∃ index < length, place = offset + index ∧ src index = byte) ∨ dest place = some byte := by
  unfold memcpy at read
  split at read
  case isTrue inside =>
    exact .inl ⟨place - offset, by omega, by omega, Option.some.inj read⟩
  case isFalse => exact .inr read

theorem memcpy_written {place : Nat} (written : dest place ≠ none) :
    memcpy dest offset src length place ≠ none := by
  unfold memcpy
  split
  · exact Option.some_ne_none _
  · exact written

variable {dest offset src length} {pitch rows : Nat}

theorem copyRows_outside {place : Nat}
    (outside : ∀ row < rows, place < offset + pitch * row ∨ offset + pitch * row + length ≤ place) :
    copyRows pitch length rows dest offset src place = dest place := by
  induction rows generalizing dest offset src with
  | zero => rfl
  | succ rows ih =>
      rw [copyRows, ih, memcpy_outside]
      · simpa using outside 0 (Nat.succ_pos rows)
      · intro row inside
        have next := outside (row + 1) (Nat.succ_lt_succ inside)
        rw [Nat.mul_add, Nat.mul_one, Nat.add_comm (pitch * row), ← Nat.add_assoc] at next
        exact next

theorem copyRows_written {place : Nat} (written : dest place ≠ none) :
    copyRows pitch length rows dest offset src place ≠ none := by
  induction rows generalizing dest offset src with
  | zero => exact written
  | succ rows ih => exact ih (memcpy_written dest offset src length written)

theorem copyRows_succ_place (pitch offset row column : Nat) :
    offset + pitch * (row + 1) + column = offset + pitch + pitch * row + column := by
  rw [Nat.mul_add, Nat.mul_one, Nat.add_comm (pitch * row), ← Nat.add_assoc]

/-- A byte of a row within the pitch is not overwritten by the next rows. -/
theorem copyRows_row {row column : Nat} (inside : row < rows) (within : column < length)
    (apart : column < pitch) :
    copyRows pitch length rows dest offset src (offset + pitch * row + column) =
      some (src (length * row + column)) := by
  induction rows generalizing dest offset src row with
  | zero => exact absurd inside (Nat.not_lt_zero row)
  | succ rows ih =>
      rw [copyRows]
      cases row with
      | zero =>
          rw [copyRows_outside, Nat.mul_zero, Nat.add_zero,
            memcpy_inside dest offset src length within, Nat.mul_zero, Nat.zero_add]
          intro row _
          rw [Nat.mul_zero, Nat.add_zero]
          exact .inl (by omega)
      | succ row =>
          rw [copyRows_succ_place, ih (Nat.lt_of_succ_lt_succ inside), Nat.mul_add, Nat.mul_one,
            Nat.add_comm (length * row) length, Nat.add_assoc]

theorem copyRows_writes {row column : Nat} (inside : row < rows) (within : column < length) :
    copyRows pitch length rows dest offset src (offset + pitch * row + column) ≠ none := by
  induction rows generalizing dest offset src row with
  | zero => exact absurd inside (Nat.not_lt_zero row)
  | succ rows ih =>
      rw [copyRows]
      cases row with
      | zero =>
          apply copyRows_written
          rw [Nat.mul_zero, Nat.add_zero, memcpy_inside dest offset src length within]
          exact Option.some_ne_none _
      | succ row =>
          rw [copyRows_succ_place]
          exact ih (Nat.lt_of_succ_lt_succ inside)

end FiberApp.Foundation
