import Mathlib.Data.List.Rotate

/-! Copies to and from a circular buffer in two parts: up to the end of the buffer, and on
from its start. Seen from a position of the buffer, each is one plain copy. -/

set_option autoImplicit false

namespace FiberApp.Foundation

variable {α : Type}

/-- `memcpy` to a place in the buffer. -/
def overwrite (buffer : List α) (place : Nat) (values : List α) : List α :=
  buffer.take place ++ values ++ buffer.drop (place + values.length)

/-- What two copies read, the first from the position, the second from the start. -/
def copyOut (buffer : List α) (position count : Nat) : List α :=
  let tail := min count (buffer.length - position)
  (buffer.drop position).take tail ++ buffer.take (count - tail)

/-- What two copies leave, the first to the position, the second to the start. -/
def copyIn (buffer : List α) (position : Nat) (values : List α) : List α :=
  let tail := min values.length (buffer.length - position)
  overwrite (overwrite buffer position (values.take tail)) 0 (values.drop tail)

theorem length_overwrite {buffer values : List α} {place : Nat}
    (fits : place + values.length ≤ buffer.length) :
    (overwrite buffer place values).length = buffer.length := by
  simp only [overwrite, List.length_append, List.length_take, List.length_drop]
  omega

theorem getElem?_overwrite {buffer values : List α} {place : Nat}
    (fits : place + values.length ≤ buffer.length) (index : Nat) :
    (overwrite buffer place values)[index]? =
      if place ≤ index ∧ index < place + values.length then values[index - place]?
      else buffer[index]? := by
  have front : (buffer.take place).length = place := by
    rw [List.length_take]
    omega
  rw [overwrite, List.append_assoc]
  by_cases before : index < place
  · rw [List.getElem?_append_left (by omega), List.getElem?_take, if_pos before,
      if_neg (by omega)]
  · rw [List.getElem?_append_right (by omega), front]
    by_cases inside : index < place + values.length
    · rw [List.getElem?_append_left (by omega), if_pos (by omega)]
    · rw [List.getElem?_append_right (by omega), List.getElem?_drop, if_neg (by omega)]
      congr 1
      omega

theorem overwrite_append (front back values : List α) (place : Nat) :
    overwrite (front ++ back) (front.length + place) values =
      front ++ overwrite back place values := by
  simp only [overwrite, List.take_length_add_append, Nat.add_assoc, List.drop_length_add_append,
    List.append_assoc]

/-- A copy that ends before the end of the buffer is one `overwrite`. -/
theorem copyIn_eq_overwrite {buffer values : List α} {position : Nat}
    (fits : position + values.length ≤ buffer.length) :
    copyIn buffer position values = overwrite buffer position values := by
  have whole : min values.length (buffer.length - position) = values.length := by omega
  simp [copyIn, whole, overwrite]

theorem copyOut_eq {buffer : List α} {position count : Nat}
    (inside : position ≤ buffer.length) (fits : count ≤ buffer.length) :
    copyOut buffer position count = (buffer.rotate position).take count := by
  rw [List.rotate_eq_drop_append_take inside, List.take_append, copyOut, List.length_drop,
    List.take_take]
  congr 1
  · rw [List.take_eq_take_iff, List.length_drop]
    omega
  · congr 1
    omega

theorem length_copyOut {buffer : List α} {position count : Nat}
    (inside : position ≤ buffer.length) (fits : count ≤ buffer.length) :
    (copyOut buffer position count).length = count := by
  rw [copyOut_eq inside fits, List.length_take, List.length_rotate]
  omega

theorem length_copyIn {buffer values : List α} {position : Nat}
    (inside : position ≤ buffer.length) (fits : values.length ≤ buffer.length) :
    (copyIn buffer position values).length = buffer.length := by
  have first : (overwrite buffer position
      (values.take (min values.length (buffer.length - position)))).length = buffer.length := by
    apply length_overwrite
    rw [List.length_take]
    omega
  rw [copyIn, length_overwrite, first]
  rw [first, List.length_drop]
  omega

/-- A place of the buffer, seen from the position `start`. -/
theorem mod_eq_of_lt_two {place size : Nat} (wraps : place < size + size) :
    place % size = if place < size then place else place - size := by
  split
  · rename_i inside
    exact Nat.mod_eq_of_lt inside
  · rw [Nat.mod_eq_sub_mod (by omega), Nat.mod_eq_of_lt (by omega)]

theorem getElem?_copyIn {buffer values : List α} {position : Nat}
    (inside : position ≤ buffer.length) (fits : values.length ≤ buffer.length) (index : Nat)
    (within : index < buffer.length) :
    (copyIn buffer position values)[index]? =
      if index + buffer.length < position + values.length then
        values[index + buffer.length - position]?
      else if position ≤ index ∧ index < position + values.length then values[index - position]?
      else buffer[index]? := by
  have first : (values.take (min values.length (buffer.length - position))).length =
      min values.length (buffer.length - position) := by
    rw [List.length_take]
    omega
  have inner : position +
      (values.take (min values.length (buffer.length - position))).length ≤ buffer.length := by
    omega
  have second : (values.drop (min values.length (buffer.length - position))).length =
      values.length - min values.length (buffer.length - position) := List.length_drop
  rw [copyIn, getElem?_overwrite (by rw [length_overwrite inner]; omega), second,
    getElem?_overwrite inner, first, List.getElem?_drop, List.getElem?_take]
  by_cases wrapped : index + buffer.length < position + values.length
  · rw [if_pos wrapped, if_pos (by omega)]
    congr 1
    omega
  · rw [if_neg wrapped, if_neg (by omega)]
    by_cases ahead : position ≤ index ∧ index < position + values.length
    · rw [if_pos ahead, if_pos (by omega), if_pos (by omega)]
    · rw [if_neg ahead, if_neg (by omega)]

/-- Values copied in at an offset from `start` are found at that offset from `start`. -/
theorem copyIn_rotate {buffer values : List α} {start offset : Nat}
    (inside : start < buffer.length) (fits : offset + values.length ≤ buffer.length) :
    (copyIn buffer ((start + offset) % buffer.length) values).rotate start =
      overwrite (buffer.rotate start) offset values := by
  have positive : 0 < buffer.length := by omega
  have position : (start + offset) % buffer.length ≤ buffer.length :=
    (Nat.mod_lt _ positive).le
  have same : (copyIn buffer ((start + offset) % buffer.length) values).length = buffer.length :=
    length_copyIn position (by omega)
  apply List.ext_getElem?
  intro index
  by_cases within : index < buffer.length
  · rw [List.getElem?_rotate (by omega), same,
      getElem?_copyIn position (by omega) _ (Nat.mod_lt _ positive),
      getElem?_overwrite (by rw [List.length_rotate]; exact fits), List.getElem?_rotate within]
    by_cases full : offset = buffer.length
    · have empty : values.length = 0 := by omega
      rw [if_neg (by have := Nat.mod_lt (index + start) positive; omega),
        if_neg (by omega), if_neg (by omega)]
    · rw [mod_eq_of_lt_two (show start + offset < buffer.length + buffer.length by omega),
        mod_eq_of_lt_two (show index + start < buffer.length + buffer.length by omega)]
      by_cases copied : offset ≤ index ∧ index < offset + values.length
      · rw [if_pos copied]
        by_cases wrapsPlace : index + start < buffer.length
        · rw [if_pos wrapsPlace, if_pos (show start + offset < buffer.length by omega),
            if_neg (by omega), if_pos (by omega)]
          congr 1
          omega
        · rw [if_neg wrapsPlace]
          by_cases wrapsStart : start + offset < buffer.length
          · rw [if_pos wrapsStart, if_pos (by omega)]
            congr 1
            omega
          · rw [if_neg wrapsStart, if_neg (by omega), if_pos (by omega)]
            congr 1
            omega
      · rw [if_neg copied]
        split <;> split <;> rw [if_neg (by omega), if_neg (by omega)]
  · rw [List.getElem?_eq_none (by rw [List.length_rotate, same]; omega),
      List.getElem?_eq_none
        (by rw [length_overwrite (by rw [List.length_rotate]; exact fits), List.length_rotate]
            omega)]

end FiberApp.Foundation
