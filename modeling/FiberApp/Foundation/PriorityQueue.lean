import Mathlib.Data.List.Sort
import Mathlib.Data.List.TakeWhile
import Mathlib.Order.Lattice

/-! A priority queue as the order in which its entries leave it: least key first, and of
entries with one key the one that was there first. -/

set_option autoImplicit false

namespace FiberApp.Foundation

structure PriorityQueue (Entry : Type) {Key : Type} [LinearOrder Key] (key : Entry → Key) where
  entries : List Entry
  ordered : entries.Pairwise fun first second => key first ≤ key second

namespace PriorityQueue

variable {Entry Key : Type} [LinearOrder Key] {key : Entry → Key}

theorem ordered_orderedInsert (entry : Entry) {entries : List Entry}
    (ordered : entries.Pairwise fun first second => key first ≤ key second) :
    (entries.orderedInsert (fun first second => key first < key second) entry).Pairwise
      fun first second => key first ≤ key second := by
  induction entries with
  | nil => simp
  | cons first rest ih =>
      rw [List.pairwise_cons] at ordered
      rw [List.orderedInsert_cons]
      split
      · rename_i before
        refine List.pairwise_cons.mpr ⟨fun other member => ?_, List.pairwise_cons.mpr ordered⟩
        rcases List.mem_cons.mp member with rfl | later
        · exact before.le
        · exact before.le.trans (ordered.1 other later)
      · rename_i notBefore
        refine List.pairwise_cons.mpr ⟨fun other member => ?_, ih ordered.2⟩
        rcases List.mem_orderedInsert _ |>.mp member with rfl | later
        · exact not_lt.mp notBefore
        · exact ordered.1 other later

def empty : PriorityQueue Entry key := ⟨[], List.Pairwise.nil⟩

def push (queue : PriorityQueue Entry key) (entry : Entry) : PriorityQueue Entry key :=
  ⟨queue.entries.orderedInsert (fun first second => key first < key second) entry,
    ordered_orderedInsert entry queue.ordered⟩

def top (queue : PriorityQueue Entry key) : Option Entry := queue.entries.head?

def keep (queue : PriorityQueue Entry key) (kept : Entry → Bool) : PriorityQueue Entry key :=
  ⟨queue.entries.filter kept, queue.ordered.filter kept⟩

/-- The entries that leave when the top is taken for as long as it is due. -/
def taken (queue : PriorityQueue Entry key) (due : Entry → Bool) : List Entry :=
  queue.entries.takeWhile due

/-- The queue after them. -/
def remaining (queue : PriorityQueue Entry key) (due : Entry → Bool) : PriorityQueue Entry key :=
  ⟨queue.entries.dropWhile due, queue.ordered.sublist (List.dropWhile_sublist due)⟩

theorem push_perm (queue : PriorityQueue Entry key) (entry : Entry) :
    (queue.push entry).entries.Perm (entry :: queue.entries) :=
  List.perm_orderedInsert _ entry queue.entries

@[simp] theorem mem_push {queue : PriorityQueue Entry key} {entry other : Entry} :
    other ∈ (queue.push entry).entries ↔ other = entry ∨ other ∈ queue.entries := by
  rw [(queue.push_perm entry).mem_iff, List.mem_cons]

@[simp] theorem mem_keep {queue : PriorityQueue Entry key} {kept : Entry → Bool} {entry : Entry} :
    entry ∈ (queue.keep kept).entries ↔ entry ∈ queue.entries ∧ kept entry = true := by
  simp [keep]

theorem taken_append_remaining (queue : PriorityQueue Entry key) (due : Entry → Bool) :
    queue.taken due ++ (queue.remaining due).entries = queue.entries :=
  List.takeWhile_append_dropWhile

theorem mem_of_mem_remaining {queue : PriorityQueue Entry key} {due : Entry → Bool}
    {entry : Entry} (member : entry ∈ (queue.remaining due).entries) : entry ∈ queue.entries :=
  (List.dropWhile_sublist due).mem member

theorem due_of_mem_taken {queue : PriorityQueue Entry key} {due : Entry → Bool} {entry : Entry}
    (member : entry ∈ queue.taken due) : due entry = true :=
  List.mem_takeWhile_imp member

/-- What remains waits behind a top that is not due. -/
theorem top_remaining {queue : PriorityQueue Entry key} {due : Entry → Bool} {entry : Entry}
    (member : entry ∈ (queue.remaining due).entries) :
    ∃ first, (queue.remaining due).top = some first ∧ due first = false ∧
      key first ≤ key entry := by
  cases rest : queue.entries.dropWhile due with
  | nil => simp [remaining, rest] at member
  | cons first others =>
      have stopped : due first = false := by
        have blocked := List.head_dropWhile_not due (l := queue.entries) (by simp [rest])
        simpa [rest] using blocked
      have ordered := (queue.remaining due).ordered
      simp only [remaining, rest] at member ordered
      refine ⟨first, by simp [top, remaining, rest], stopped, ?_⟩
      rcases List.mem_cons.mp member with rfl | later
      · exact le_rfl
      · exact (List.pairwise_cons.mp ordered).1 entry later

/-- When only the key decides what is due, the entries that remain are those not due and those
that one not due goes before. -/
theorem mem_remaining_iff {queue : PriorityQueue Entry key} {due : Entry → Bool}
    (byKey : ∀ first second, key first = key second → due first = due second) {entry : Entry} :
    entry ∈ (queue.remaining due).entries ↔
      entry ∈ queue.entries ∧ (due entry = false ∨
        ∃ first ∈ queue.entries, due first = false ∧ key first < key entry) := by
  constructor
  · intro member
    obtain ⟨first, atTop, notDue, before⟩ := top_remaining member
    have there := mem_of_mem_remaining (List.mem_of_mem_head? (Option.mem_def.mpr atTop))
    refine ⟨mem_of_mem_remaining member, ?_⟩
    rcases before.lt_or_eq with strictly | same
    · exact .inr ⟨first, there, notDue, strictly⟩
    · exact .inl (byKey first entry same ▸ notDue)
  · rintro ⟨member, blocked⟩
    have whole := queue.ordered
    rw [← queue.taken_append_remaining due] at member blocked whole
    rcases List.mem_append.mp member with left | stays
    · rcases blocked with notDue | ⟨first, there, notDue, before⟩
      · rw [due_of_mem_taken left] at notDue
        cases notDue
      · rcases List.mem_append.mp there with gone | behind
        · rw [due_of_mem_taken gone] at notDue
          cases notDue
        · exact absurd before (not_lt.mpr ((List.pairwise_append.mp whole).2.2 entry left first
            behind))
    · exact stays

end PriorityQueue

end FiberApp.Foundation
