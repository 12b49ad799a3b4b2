import Mathlib.Data.List.Rotate

/-! A circular buffer is read by rotating it to a position. Overwriting the value at
that position is then a change at one end of what is read. -/

set_option autoImplicit false

namespace FiberApp.Foundation

variable {α : Type}

/-- What a queue keeps when a value is appended: a full one loses its oldest value. -/
def keptBounded (bound : Nat) (queue : List α) : List α :=
  if queue.length = bound then queue.tail else queue

def pushBounded (bound : Nat) (value : α) (queue : List α) : List α :=
  keptBounded bound queue ++ [value]

theorem length_keptBounded_lt {bound : Nat} (positive : 0 < bound) {queue : List α}
    (short : queue.length ≤ bound) : (keptBounded bound queue).length < bound := by
  unfold keptBounded
  split
  · rw [List.length_tail]
    omega
  · omega

theorem split_at {buffer : List α} {position : Nat} (inside : position < buffer.length) :
    ∃ before value after, buffer = before ++ value :: after ∧ before.length = position :=
  ⟨buffer.take position, buffer[position], buffer.drop (position + 1), by simp,
    by rw [List.length_take]; omega⟩

theorem rotate_split (before after : List α) (value : α) :
    (before ++ value :: after).rotate before.length = value :: (after ++ before) :=
  List.rotate_append_length_eq before (value :: after)

theorem rotate_split_succ (before after : List α) (value : α) :
    (before ++ value :: after).rotate (before.length + 1) = after ++ before ++ [value] := by
  have rotated := List.rotate_append_length_eq (before ++ [value]) after
  rw [List.length_append, List.length_singleton, ← List.append_cons] at rotated
  rw [rotated, List.append_assoc]

theorem set_split (before after : List α) (value other : α) :
    (before ++ value :: after).set before.length other = before ++ other :: after := by
  simp

/-- Past the overwritten value, the buffer is read without its first value and with the
new one at its end. -/
theorem rotate_succ_set {buffer : List α} {position : Nat} (inside : position < buffer.length)
    (other : α) :
    (buffer.set position other).rotate (position + 1) =
      (buffer.rotate position).tail ++ [other] := by
  obtain ⟨before, value, after, rfl, rfl⟩ := split_at inside
  rw [set_split, rotate_split, rotate_split_succ, List.tail_cons]

/-- From the overwritten value on, the buffer is read with the new value first and
without its last one. -/
theorem rotate_set {buffer : List α} {position : Nat} (inside : position < buffer.length)
    (other : α) :
    (buffer.set position other).rotate position =
      other :: (buffer.rotate (position + 1)).dropLast := by
  obtain ⟨before, value, after, rfl, rfl⟩ := split_at inside
  rw [set_split, rotate_split, rotate_split_succ, List.dropLast_concat]

theorem getElem?_eq_getLast?_rotate {buffer : List α} {position : Nat}
    (inside : position < buffer.length) :
    buffer[position]? = (buffer.rotate (position + 1)).getLast? := by
  obtain ⟨before, value, after, rfl, rfl⟩ := split_at inside
  rw [rotate_split_succ]
  simp

end FiberApp.Foundation
