import Mathlib.Data.List.Basic

/-! Searching a list for the first place where another list starts, and cutting
a list at a separator. -/

set_option autoImplicit false

namespace FiberApp.Foundation

variable {α : Type}

theorem prefix_append_cons_iff {needle : List α} (before after : List α) {separator : α}
    (outside : separator ∉ needle) :
    needle <+: before ++ separator :: after ↔ needle <+: before := by
  constructor
  · intro starts
    rcases Nat.le_total needle.length before.length with short | long
    · exact List.prefix_of_prefix_length_le starts (List.prefix_append _ _) short
    · have covered : before <+: needle :=
        List.prefix_of_prefix_length_le (List.prefix_append _ _) starts long
      obtain ⟨extra, rfl⟩ := covered
      rw [List.prefix_append_right_inj] at starts
      cases extra with
      | nil => simp
      | cons head tail =>
          rw [List.cons_prefix_cons] at starts
          simp [starts.1] at outside
  · intro starts
    exact starts.trans (List.prefix_append _ _)

variable [DecidableEq α]

/-- The rest of the text from the first occurrence of the needle on. -/
def findFrom (needle : List α) : List α → Option (List α)
  | [] => if needle = [] then some [] else none
  | first :: rest =>
      if needle <+: first :: rest then some (first :: rest) else findFrom needle rest

/-- The text up to the first separator; `none` when there is none. -/
def upTo (separator : α) (text : List α) : Option (List α) :=
  if separator ∈ text then some (text.takeWhile (· ≠ separator)) else none

/-- The rest of the text from the last separator on; `none` when there is none. -/
def fromLast (separator : α) : List α → Option (List α)
  | [] => none
  | first :: rest =>
      match fromLast separator rest with
      | some tail => some tail
      | none => if first = separator then some (first :: rest) else none

theorem findFrom_some {needle text tail : List α} (found : findFrom needle text = some tail) :
    tail <:+ text ∧ needle <+: tail := by
  induction text with
  | nil =>
      simp only [findFrom] at found
      split_ifs at found with empty
      cases found
      rw [empty]
      exact ⟨List.suffix_refl _, List.prefix_refl _⟩
  | cons first rest ih =>
      simp only [findFrom] at found
      split_ifs at found with starts
      · cases found
        exact ⟨List.suffix_refl _, starts⟩
      · obtain ⟨suffix, starts⟩ := ih found
        exact ⟨suffix.trans (List.suffix_cons first rest), starts⟩

theorem findFrom_eq_none {needle text : List α} :
    findFrom needle text = none ↔ ¬ needle <:+: text := by
  induction text with
  | nil => simp [findFrom]
  | cons first rest ih =>
      simp only [findFrom, List.infix_cons_iff]
      by_cases starts : needle <+: first :: rest
      · simp [starts]
      · simp [starts, ih]

theorem findFrom_append_cons {needle : List α} (before after : List α) {separator : α}
    (nonempty : needle ≠ []) (outside : separator ∉ needle) :
    findFrom needle (before ++ separator :: after) =
      match findFrom needle before with
      | some tail => some (tail ++ separator :: after)
      | none => findFrom needle after := by
  induction before with
  | nil =>
      have away : ¬ needle <+: separator :: after := by
        intro starts
        have empty := (prefix_append_cons_iff [] after outside).mp starts
        exact nonempty (List.prefix_nil.mp empty)
      simp only [List.nil_append, findFrom, away, nonempty, ↓reduceIte]
  | cons first rest ih =>
      have same := prefix_append_cons_iff (first :: rest) after outside
      by_cases starts : needle <+: first :: rest
      · simp only [List.cons_append] at same ⊢
        simp only [findFrom, starts, same.mpr starts, ↓reduceIte, List.cons_append]
      · simp only [List.cons_append] at same ⊢
        simp only [findFrom, starts, mt same.mp starts, ↓reduceIte]
        exact ih

/-- A needle is not found across text that has none of its elements. -/
theorem findFrom_append_of_disjoint {needle skipped : List α} (text : List α)
    (nonempty : needle ≠ []) (apart : ∀ element ∈ skipped, element ∉ needle) :
    findFrom needle (skipped ++ text) = findFrom needle text := by
  induction skipped with
  | nil => rfl
  | cons first skipped ih =>
      have behind := findFrom_append_cons [] (skipped ++ text) nonempty
        (apart first List.mem_cons_self)
      simp only [List.nil_append, findFrom, nonempty, if_false] at behind
      rw [List.cons_append, findFrom, behind]
      exact ih fun element member => apart element (List.mem_cons_of_mem first member)

theorem idxOf?_append_cons {before : List α} (after : List α) {separator : α}
    (outside : separator ∉ before) :
    (before ++ separator :: after).idxOf? separator = some before.length := by
  induction before with
  | nil => simp [List.idxOf?_cons]
  | cons first before ih =>
      rw [List.mem_cons, not_or] at outside
      have away : (first == separator) = false := beq_eq_false_iff_ne.mpr (Ne.symm outside.1)
      simp [List.idxOf?_cons, away, ih outside.2]

theorem upTo_append_cons {before after : List α} {separator : α}
    (outside : separator ∉ before) :
    upTo separator (before ++ separator :: after) = some before := by
  have stops : (before ++ separator :: after).takeWhile (· ≠ separator) = before := by
    rw [List.takeWhile_append_of_pos]
    · simp
    · intro other member
      simp only [ne_eq, decide_not, Bool.not_eq_eq_eq_not, Bool.not_true, decide_eq_false_iff_not]
      intro same
      exact outside (same ▸ member)
  rw [upTo, if_pos (by simp), stops]

theorem fromLast_eq_none {text : List α} {separator : α} :
    fromLast separator text = none ↔ separator ∉ text := by
  induction text with
  | nil => simp [fromLast]
  | cons first rest ih =>
      cases found : fromLast separator rest with
      | none =>
          have outside := ih.mp found
          simp [fromLast, found, outside, eq_comm]
      | some tail =>
          have inside : separator ∈ rest := by
            by_contra outside
            rw [ih.mpr outside] at found
            cases found
          simp [fromLast, found, inside]

theorem fromLast_append_cons (before : List α) {after : List α} {separator : α}
    (outside : separator ∉ after) :
    fromLast separator (before ++ separator :: after) = some (separator :: after) := by
  induction before with
  | nil => simp [fromLast, fromLast_eq_none.mpr outside]
  | cons first before ih => simp [fromLast, ih]

theorem upTo_eq_none {text : List α} {separator : α} :
    upTo separator text = none ↔ separator ∉ text := by
  simp [upTo]

end FiberApp.Foundation
