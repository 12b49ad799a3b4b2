import Mathlib.Data.List.Nodup
import Mathlib.Data.List.Range
import Mathlib.Data.List.Perm.Subperm

/-! Objects numbered in the order of their allocation, and the deletions made. The books
balance as long as every allocated object is either held or deleted, and that once. -/

set_option autoImplicit false

namespace FiberApp.Foundation

structure Ledger where
  allocated : Nat
  deleted : List Nat
  deriving DecidableEq, Repr

namespace Ledger

def opened : Ledger := ⟨0, []⟩

/-- The number of the new object comes first. -/
def allocate (ledger : Ledger) : Nat × Ledger :=
  (ledger.allocated, { ledger with allocated := ledger.allocated + 1 })

def delete (ledger : Ledger) (object : Nat) : Ledger :=
  { ledger with deleted := object :: ledger.deleted }

/-- The objects that are held and those that were deleted are all that were allocated. -/
def Balanced (ledger : Ledger) (held : List Nat) : Prop :=
  (held ++ ledger.deleted).Perm (List.range ledger.allocated)

/-- Every object ever allocated was deleted exactly once. -/
def DeletedOnce (ledger : Ledger) : Prop :=
  ∀ object < ledger.allocated, ledger.deleted.count object = 1

theorem balanced_opened : opened.Balanced [] := List.Perm.refl []

theorem Balanced.of_perm {ledger : Ledger} {held held' : List Nat}
    (balanced : ledger.Balanced held) (same : held'.Perm held) : ledger.Balanced held' :=
  (same.append_right ledger.deleted).trans balanced

theorem Balanced.allocate {ledger : Ledger} {held : List Nat} (balanced : ledger.Balanced held) :
    ledger.allocate.2.Balanced (ledger.allocate.1 :: held) := by
  show (ledger.allocated :: (held ++ ledger.deleted)).Perm (List.range (ledger.allocated + 1))
  rw [List.range_succ]
  exact (balanced.cons ledger.allocated).trans (List.perm_append_singleton _ _).symm

theorem Balanced.delete {ledger : Ledger} {object : Nat} {held : List Nat}
    (balanced : ledger.Balanced (object :: held)) : (ledger.delete object).Balanced held :=
  List.perm_middle.trans balanced

theorem Balanced.length {ledger : Ledger} {held : List Nat} (balanced : ledger.Balanced held) :
    held.length + ledger.deleted.length = ledger.allocated := by
  have counted := balanced.length_eq
  rwa [List.length_append, List.length_range] at counted

theorem Balanced.mem_held {ledger : Ledger} {held : List Nat} (balanced : ledger.Balanced held)
    {object : Nat} (allocated : object < ledger.allocated) (alive : object ∉ ledger.deleted) :
    object ∈ held := by
  have listed := balanced.mem_iff.mpr (List.mem_range.mpr allocated)
  exact (List.mem_append.mp listed).resolve_right alive

theorem Balanced.lt_allocated {ledger : Ledger} {held : List Nat}
    (balanced : ledger.Balanced held) {object : Nat} (mem : object ∈ held) :
    object < ledger.allocated :=
  List.mem_range.mp (balanced.mem_iff.mp (List.mem_append_left _ mem))

theorem Balanced.nodup {ledger : Ledger} {held : List Nat} (balanced : ledger.Balanced held) :
    (held ++ ledger.deleted).Nodup :=
  balanced.nodup_iff.mpr List.nodup_range

/-- Once nothing is held any more, nothing is left to delete. -/
theorem Balanced.deletedOnce {ledger : Ledger} (balanced : ledger.Balanced []) :
    ledger.DeletedOnce := by
  intro object allocated
  have counted := balanced.count_eq object
  rw [List.nil_append] at counted
  rw [counted]
  exact List.count_eq_one_of_mem List.nodup_range (List.mem_range.mpr allocated)

/-- A deletion too few shows in the length of the list. -/
theorem DeletedOnce.allocated_le_length {ledger : Ledger} (once : ledger.DeletedOnce) :
    ledger.allocated ≤ ledger.deleted.length := by
  have deleted : List.range ledger.allocated ⊆ ledger.deleted := by
    intro object listed
    apply List.count_pos_iff.mp
    rw [once object (List.mem_range.mp listed)]
    exact Nat.one_pos
  have shorter := (List.nodup_range.subperm deleted).length_le
  rwa [List.length_range] at shorter

end Ledger

end FiberApp.Foundation
