import Mathlib.Order.Lattice
import Mathlib.Data.List.Basic

/-! A map kept as a list of entries in the order of their keys. A position in it is the
rest of the list from there on. -/

set_option autoImplicit false

namespace FiberApp.Foundation

structure OrderedMap (κ ν : Type) [LinearOrder κ] where
  entries : List (κ × ν)
  sorted : entries.Pairwise fun first second => first.1 < second.1

namespace OrderedMap

variable {κ ν : Type} [LinearOrder κ]

def empty : OrderedMap κ ν := ⟨[], List.Pairwise.nil⟩

def keys (map : OrderedMap κ ν) : List κ := map.entries.map Prod.fst

def get? (map : OrderedMap κ ν) (key : κ) : Option ν :=
  (map.entries.find? (·.1 = key)).map Prod.snd

/-- The entries from the first key on that is not below the given one. -/
def lowerBound (map : OrderedMap κ ν) (key : κ) : List (κ × ν) :=
  map.entries.dropWhile (·.1 < key)

def insertEntry (key : κ) (value : ν) : List (κ × ν) → List (κ × ν)
  | [] => [(key, value)]
  | entry :: rest =>
      if key < entry.1 then (key, value) :: entry :: rest
      else if key = entry.1 then entry :: rest
      else entry :: insertEntry key value rest

theorem mem_insertEntry {key : κ} {value : ν} {entry : κ × ν} {entries : List (κ × ν)}
    (member : entry ∈ insertEntry key value entries) : entry = (key, value) ∨ entry ∈ entries := by
  induction entries with
  | nil => exact .inl (by simpa [insertEntry] using member)
  | cons first rest ih =>
      simp only [insertEntry] at member
      split at member
      · simpa using member
      split at member
      · exact .inr member
      · rcases List.mem_cons.mp member with rfl | later
        · exact .inr List.mem_cons_self
        · exact (ih later).imp_right (List.mem_cons_of_mem first)

theorem sorted_insertEntry (key : κ) (value : ν) {entries : List (κ × ν)}
    (sorted : entries.Pairwise fun first second => first.1 < second.1) :
    (insertEntry key value entries).Pairwise fun first second => first.1 < second.1 := by
  induction entries with
  | nil => simp [insertEntry]
  | cons first rest ih =>
      obtain ⟨below, ordered⟩ := List.pairwise_cons.mp sorted
      simp only [insertEntry]
      split
      case isTrue before =>
        refine List.pairwise_cons.mpr ⟨fun entry member => ?_, sorted⟩
        rcases List.mem_cons.mp member with rfl | later
        · exact before
        · exact before.trans (below entry later)
      case isFalse notBefore =>
        split
        case isTrue same => exact sorted
        case isFalse other =>
          refine List.pairwise_cons.mpr ⟨fun entry member => ?_, ih ordered⟩
          rcases mem_insertEntry member with rfl | later
          · exact lt_of_le_of_ne (not_lt.mp notBefore) (Ne.symm other)
          · exact below entry later

/-- The entry is added unless its key is there. -/
def insert (map : OrderedMap κ ν) (key : κ) (value : ν) : OrderedMap κ ν where
  entries := insertEntry key value map.entries
  sorted := sorted_insertEntry key value map.sorted

def modify (map : OrderedMap κ ν) (key : κ) (update : ν → ν) : OrderedMap κ ν where
  entries := map.entries.map fun entry =>
    (entry.1, if entry.1 = key then update entry.2 else entry.2)
  sorted := List.pairwise_map.mpr map.sorted

theorem eq_of_mem {map : OrderedMap κ ν} {first second : κ × ν} (inMap : first ∈ map.entries)
    (alsoInMap : second ∈ map.entries) (same : first.1 = second.1) : first = second := by
  obtain ⟨entries, sorted⟩ := map
  induction sorted with
  | nil => cases inMap
  | cons below _ ih =>
      rcases List.mem_cons.mp inMap with rfl | later <;>
        rcases List.mem_cons.mp alsoInMap with rfl | alsoLater
      · rfl
      · exact absurd same (below second alsoLater).ne
      · exact absurd same (below first later).ne'
      · exact ih later alsoLater

theorem mem_lowerBound {map : OrderedMap κ ν} {key : κ} {entry : κ × ν} :
    entry ∈ map.lowerBound key ↔ entry ∈ map.entries ∧ key ≤ entry.1 := by
  obtain ⟨entries, sorted⟩ := map
  unfold lowerBound
  induction sorted with
  | nil => simp
  | @cons first rest below _ ih =>
      by_cases before : first.1 < key
      · rw [List.dropWhile_cons_of_pos (by simpa using before), ih, List.mem_cons]
        constructor
        · exact fun found => ⟨.inr found.1, found.2⟩
        · intro kept
          obtain ⟨rfl | later, notBelow⟩ := kept
          · exact absurd before (not_lt.mpr notBelow)
          · exact ⟨later, notBelow⟩
      · rw [List.dropWhile_cons_of_neg (by simpa using before)]
        refine ⟨fun member => ⟨member, ?_⟩, fun found => found.1⟩
        rcases List.mem_cons.mp member with rfl | later
        · exact not_lt.mp before
        · exact (not_lt.mp before).trans (below entry later).le

theorem sorted_lowerBound (map : OrderedMap κ ν) (key : κ) :
    (map.lowerBound key).Pairwise fun first second => first.1 < second.1 :=
  map.sorted.sublist (List.dropWhile_sublist _)

theorem get?_eq_some {map : OrderedMap κ ν} {key : κ} {value : ν} :
    map.get? key = some value ↔ (key, value) ∈ map.entries := by
  unfold get?
  constructor
  · intro found
    obtain ⟨entry, first, rfl⟩ := Option.map_eq_some_iff.mp found
    have same : entry.1 = key := by simpa using List.find?_some first
    subst same
    exact List.mem_of_find?_eq_some first
  · intro member
    cases first : map.entries.find? (·.1 = key) with
    | none =>
        have away := List.find?_eq_none.mp first (key, value) member
        simp at away
    | some entry =>
        have same : entry.1 = key := by simpa using List.find?_some first
        rw [eq_of_mem (List.mem_of_find?_eq_some first) member same]
        rfl

theorem get?_eq_none {map : OrderedMap κ ν} {key : κ} :
    map.get? key = none ↔ key ∉ map.keys := by
  simp only [get?, Option.map_eq_none_iff, List.find?_eq_none, decide_eq_true_eq, keys,
    List.mem_map, not_exists, not_and]

theorem mem_keys {map : OrderedMap κ ν} {key : κ} :
    key ∈ map.keys ↔ ∃ value, map.get? key = some value := by
  rw [← Option.ne_none_iff_exists', ne_eq, get?_eq_none, not_not]

theorem mem_insert {map : OrderedMap κ ν} {key : κ} {value : ν} {entry : κ × ν} :
    entry ∈ (map.insert key value).entries ↔
      entry ∈ map.entries ∨ (entry = (key, value) ∧ ∀ other ∈ map.entries, other.1 ≠ key) := by
  obtain ⟨entries, sorted⟩ := map
  change entry ∈ insertEntry key value entries ↔ _
  induction sorted with
  | nil => simp [insertEntry]
  | @cons first rest below _ ih =>
      simp only [insertEntry]
      split
      case isTrue before =>
        have absent : ∀ other ∈ first :: rest, other.1 ≠ key := by
          intro other member
          rcases List.mem_cons.mp member with rfl | later
          · exact before.ne'
          · exact (before.trans (below other later)).ne'
        rw [List.mem_cons, or_comm]
        exact or_congr_right ⟨fun same => ⟨same, absent⟩, fun found => found.1⟩
      case isFalse notBefore =>
        split
        case isTrue same =>
          refine ⟨.inl, ?_⟩
          intro found
          rcases found with member | ⟨-, absent⟩
          · exact member
          · exact absurd same.symm (absent first List.mem_cons_self)
        case isFalse other =>
          rw [List.mem_cons, ih, List.mem_cons, or_assoc]
          have notFirst : first.1 ≠ key := Ne.symm other
          simp [notFirst]

theorem get?_insert {map : OrderedMap κ ν} {key other : κ} {value : ν} :
    (map.insert key value).get? other =
      if other = key then some ((map.get? key).getD value) else map.get? other := by
  apply Option.ext
  intro found
  rw [get?_eq_some, mem_insert]
  split
  case isTrue same =>
    subst same
    cases present : map.get? other with
    | none =>
        have absent : ∀ entry ∈ map.entries, entry.1 ≠ other := by
          intro entry member same
          rw [← same, get?_eq_some.mpr member] at present
          cases present
        have notIn : (other, found) ∉ map.entries := fun member => absent _ member rfl
        simp only [notIn, Prod.mk.injEq, true_and, Option.getD_none, Option.some.injEq, false_or]
        exact ⟨fun added => added.1.symm, fun same => ⟨same.symm, absent⟩⟩
    | some held =>
        have member := get?_eq_some.mp present
        rw [← get?_eq_some, present]
        constructor
        · intro found
          rcases found with same | ⟨-, absent⟩
          · simpa using same
          · exact absurd rfl (absent _ member)
        · exact fun same => .inl (by simpa using same)
  case isFalse different =>
    rw [get?_eq_some]
    refine ⟨?_, .inl⟩
    intro found
    rcases found with member | ⟨same, -⟩
    · exact member
    · exact absurd (congrArg Prod.fst same) different

theorem get?_modify {map : OrderedMap κ ν} {key other : κ} {update : ν → ν} :
    (map.modify key update).get? other =
      if other = key then (map.get? key).map update else map.get? other := by
  simp only [get?, modify, List.find?_map]
  split
  case isTrue same =>
    subst same
    cases first : map.entries.find? (·.1 = other) with
    | none => simp [Function.comp_def, first]
    | some entry =>
        have same : entry.1 = other := by simpa using List.find?_some first
        simp [Function.comp_def, first, same]
  case isFalse different =>
    cases first : map.entries.find? (·.1 = other) with
    | none => simp [Function.comp_def, first]
    | some entry =>
        have same : entry.1 = other := by simpa using List.find?_some first
        simp [Function.comp_def, first, same, different]

theorem isSome_get?_modify {map : OrderedMap κ ν} {key other : κ} {update : ν → ν} :
    ((map.modify key update).get? other).isSome = (map.get? other).isSome := by
  rw [get?_modify]
  split
  case isTrue same => simp [same]
  case isFalse different => rfl

theorem keys_lowerBound_modify (map : OrderedMap κ ν) (key bound : κ) (update : ν → ν) :
    ((map.modify key update).lowerBound bound).map Prod.fst =
      (map.lowerBound bound).map Prod.fst := by
  simp [lowerBound, modify, List.dropWhile_map, Function.comp_def]

/-- The first entry from a key on whose own key passes the test. -/
def firstFrom (map : OrderedMap κ ν) (key : κ) (test : κ → Bool) : Option (κ × ν) :=
  (map.lowerBound key).find? (test ·.1)

/-- An entry is the first one that passes: it is not below the key, it passes, and no other
such entry is before it. -/
structure IsFirstFrom (map : OrderedMap κ ν) (key : κ) (test : κ → Bool) (entry : κ × ν) :
    Prop where
  inMap : entry ∈ map.entries
  notBelow : key ≤ entry.1
  passes : test entry.1 = true
  first : ∀ other ∈ map.entries, key ≤ other.1 → test other.1 = true → entry.1 ≤ other.1

theorem isFirstFrom_of_firstFrom {map : OrderedMap κ ν} {key : κ} {test : κ → Bool}
    {entry : κ × ν} (found : map.firstFrom key test = some entry) :
    map.IsFirstFrom key test entry := by
  obtain ⟨inMap, notBelow⟩ := mem_lowerBound.mp (List.mem_of_find?_eq_some found)
  obtain ⟨passes, before, after, split, fails⟩ := List.find?_eq_some_iff_append.mp found
  refine ⟨inMap, notBelow, passes, fun other member above passes => ?_⟩
  have member : other ∈ map.lowerBound key := mem_lowerBound.mpr ⟨member, above⟩
  have sorted := map.sorted_lowerBound key
  rw [split] at member sorted
  rcases List.mem_append.mp member with early | late
  · exact absurd passes (by simpa using fails other early)
  · rcases List.mem_cons.mp late with rfl | later
    · exact le_refl _
    · exact ((List.pairwise_cons.mp (List.pairwise_append.mp sorted).2.1).1 other later).le

theorem firstFrom_eq_some {map : OrderedMap κ ν} {key : κ} {test : κ → Bool} {entry : κ × ν} :
    map.firstFrom key test = some entry ↔ map.IsFirstFrom key test entry := by
  refine ⟨isFirstFrom_of_firstFrom, fun isFirst => ?_⟩
  cases found : map.firstFrom key test with
  | none =>
      have fails := List.find?_eq_none.mp found entry
        (mem_lowerBound.mpr ⟨isFirst.inMap, isFirst.notBelow⟩)
      exact absurd isFirst.passes fails
  | some other =>
      have otherFirst := isFirstFrom_of_firstFrom found
      have ahead := isFirst.first other otherFirst.inMap otherFirst.notBelow otherFirst.passes
      have behind := otherFirst.first entry isFirst.inMap isFirst.notBelow isFirst.passes
      rw [eq_of_mem otherFirst.inMap isFirst.inMap (le_antisymm behind ahead)]

end OrderedMap

end FiberApp.Foundation
