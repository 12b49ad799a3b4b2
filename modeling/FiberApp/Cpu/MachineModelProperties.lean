import FiberApp.Cpu.CpuMonitor
import Mathlib.Data.List.MinMax

/-! The wildcard lookup of a machine model. A wildcard key that is not the longest match can
stand between the model and the longest match. -/

set_option autoImplicit false

namespace FiberApp.Cpu

open Foundation
open Devices.ScreenSharing (Text)

/-- The key is a prefix of the model with a tilde behind it. -/
def WildcardMatches (mm key : Text) : Prop := ∃ stem, key = stem ++ ['~'] ∧ stem <+: mm

theorem wildcardMatches_iff {mm key : Text} :
    WildcardMatches mm key ↔ isWildcard key = true ∧ startsWithKey mm key = true := by
  unfold isWildcard startsWithKey
  simp only [decide_eq_true_eq]
  constructor
  · intro stemmed
    obtain ⟨stem, rfl, starts⟩ := stemmed
    refine ⟨by simp, ?_⟩
    simpa using (List.prefix_iff_eq_take.mp starts).symm
  · intro ended
    obtain ⟨last, same⟩ := ended
    obtain ⟨stem, rfl⟩ := List.getLast?_eq_some_iff.mp last
    refine ⟨stem, rfl, ?_⟩
    have taken : mm.take stem.length = stem := by simpa using same
    exact List.prefix_iff_eq_take.mpr taken.symm

/-- Two matching keys of one length are the same. -/
theorem WildcardMatches.eq_of_length {mm first second : Text} (one : WildcardMatches mm first)
    (other : WildcardMatches mm second) (same : first.length = second.length) :
    first = second := by
  obtain ⟨stem, rfl, starts⟩ := one
  obtain ⟨other, rfl, alsoStarts⟩ := other
  have sameStem : stem.length = other.length := by simpa using same
  rw [List.prefix_iff_eq_take.mp starts, List.prefix_iff_eq_take.mp alsoStarts, sameStem]

variable {ν : Type} (map : OrderedMap Text ν) (mm : Text)

/-- The key of the map that matches with the longest prefix of the model. -/
structure IsLongestMatch (key : Text) : Prop where
  inMap : key ∈ map.keys
  isMatch : WildcardMatches mm key
  longest : ∀ other ∈ map.keys, WildcardMatches mm other → other.length ≤ key.length

theorem IsLongestMatch.unique {map : OrderedMap Text ν} {mm first second : Text}
    (one : IsLongestMatch map mm first) (other : IsLongestMatch map mm second) :
    first = second :=
  one.isMatch.eq_of_length other.isMatch
    (Nat.le_antisymm (other.longest first one.inMap one.isMatch)
      (one.longest second other.inMap other.isMatch))

theorem exists_isLongestMatch {map : OrderedMap Text ν} {mm : Text}
    (present : ∃ key ∈ map.keys, WildcardMatches mm key) : ∃ key, IsLongestMatch map mm key := by
  obtain ⟨key, inMap, isMatch⟩ := present
  have candidates : map.keys.filter (fun key => isWildcard key && startsWithKey mm key) ≠ [] :=
    List.ne_nil_of_mem (List.mem_filter.mpr
      ⟨inMap, by simpa using wildcardMatches_iff.mp isMatch⟩)
  obtain ⟨longest, found⟩ := Option.ne_none_iff_exists'.mp
    (mt (List.argmax_eq_none (f := List.length)).mp candidates)
  obtain ⟨inMap, passes⟩ := List.mem_filter.mp (List.argmax_mem found)
  refine ⟨longest, inMap, wildcardMatches_iff.mpr (by simpa using passes), ?_⟩
  intro other otherIn otherMatches
  exact List.le_of_mem_argmax (List.mem_filter.mpr
    ⟨otherIn, by simpa using wildcardMatches_iff.mp otherMatches⟩) found

/-- The lookup that the wildcards are for. -/
structure FindsLongestMatch (result : Option Text) : Prop where
  found : (∃ key ∈ map.keys, WildcardMatches mm key) →
    ∃ key, result = some key ∧ IsLongestMatch map mm key
  notFound : (¬ ∃ key ∈ map.keys, WildcardMatches mm key) → result = none

theorem scanWildcards_eq (entries : List (Text × ν)) :
    scanWildcards mm entries =
      ((entries.find? (isWildcard ·.1)).map Prod.fst).filter (startsWithKey mm ·) := by
  induction entries with
  | nil => rfl
  | cons entry rest ih =>
      rw [scanWildcards]
      by_cases wildcard : isWildcard entry.1
      · simp [wildcard, Option.filter]
      · simp [wildcard, ih]

theorem findMatchingMachineModel_wildcard (noExact : cStr mm ∉ map.keys) :
    findMatchingMachineModel map mm =
      ((map.firstFrom mm isWildcard).map Prod.fst).filter (startsWithKey mm ·) := by
  have absent : map.get? (cStr mm) = none := OrderedMap.get?_eq_none.mpr noExact
  rw [findMatchingMachineModel, absent]
  exact scanWildcards_eq mm _

/-- The longest match is not below the model, and no other wildcard key is between them. -/
def Unobstructed : Prop :=
  ∀ key, IsLongestMatch map mm key → mm ≤ key ∧
    ∀ other ∈ map.keys, isWildcard other = true → mm ≤ other → key ≤ other

theorem wildcard_findsLongestMatch_iff (noExact : cStr mm ∉ map.keys) :
    FindsLongestMatch map mm (findMatchingMachineModel map mm) ↔ Unobstructed map mm := by
  rw [findMatchingMachineModel_wildcard map mm noExact]
  constructor
  · intro finds key isLongest
    obtain ⟨other, result, otherLongest⟩ := finds.found ⟨key, isLongest.inMap, isLongest.isMatch⟩
    obtain rfl := isLongest.unique otherLongest
    obtain ⟨first, starts⟩ := Option.filter_eq_some_iff.mp result
    obtain ⟨entry, isFirst, rfl⟩ := Option.map_eq_some_iff.mp first
    obtain ⟨inMap, notBelow, wildcard, least⟩ := OrderedMap.firstFrom_eq_some.mp isFirst
    refine ⟨notBelow, fun other member isWild above => ?_⟩
    obtain ⟨otherEntry, otherIn, rfl⟩ := List.mem_map.mp member
    exact least otherEntry otherIn above isWild
  · intro unobstructed
    constructor
    · intro present
      obtain ⟨key, isLongest⟩ := exists_isLongestMatch present
      obtain ⟨notBelow, least⟩ := unobstructed key isLongest
      obtain ⟨entry, inMap, rfl⟩ := List.mem_map.mp isLongest.inMap
      obtain ⟨wildcard, starts⟩ := wildcardMatches_iff.mp isLongest.isMatch
      have isFirst : map.firstFrom mm isWildcard = some entry :=
        OrderedMap.firstFrom_eq_some.mpr ⟨inMap, notBelow, wildcard,
          fun other otherIn above isWild =>
            least other.1 (List.mem_map_of_mem otherIn) isWild above⟩
      exact ⟨entry.1, by simp [isFirst, Option.filter, starts], isLongest⟩
    · intro absent
      cases first : map.firstFrom mm isWildcard with
      | none => rfl
      | some entry =>
          have isFirst := OrderedMap.firstFrom_eq_some.mp first
          have away : startsWithKey mm entry.1 = false := by
            by_contra starts
            exact absent ⟨entry.1, List.mem_map_of_mem isFirst.inMap,
              wildcardMatches_iff.mpr ⟨isFirst.passes, by simpa using starts⟩⟩
          simp [Option.filter, away]

/-- What an exact hit of the model up to its first NUL, or else the wildcards, must meet. -/
def FindsRight : Prop :=
  (cStr mm ∈ map.keys → IsLongestMatch map mm (cStr mm)) ∧
    (cStr mm ∉ map.keys → Unobstructed map mm)

/-- The lookup finds the longest match exactly when nothing stands in its way. -/
theorem findMatchingMachineModel_findsLongestMatch_iff :
    FindsLongestMatch map mm (findMatchingMachineModel map mm) ↔ FindsRight map mm := by
  by_cases exactHit : cStr mm ∈ map.keys
  · obtain ⟨value, present⟩ := OrderedMap.mem_keys.mp exactHit
    have result : findMatchingMachineModel map mm = some (cStr mm) := by
      simp [findMatchingMachineModel, present]
    rw [result]
    constructor
    · intro finds
      refine ⟨fun _ => ?_, fun noExact => absurd exactHit noExact⟩
      by_cases present : ∃ key ∈ map.keys, WildcardMatches mm key
      · obtain ⟨key, same, isLongest⟩ := finds.found present
        cases same
        exact isLongest
      · cases finds.notFound present
    · intro right
      have isLongest := right.1 exactHit
      exact ⟨fun _ => ⟨_, rfl, isLongest⟩,
        fun absent => absurd ⟨_, isLongest.inMap, isLongest.isMatch⟩ absent⟩
  · rw [wildcard_findsLongestMatch_iff map mm exactHit]
    exact ⟨fun unobstructed => ⟨fun hit => absurd hit exactHit, fun _ => unobstructed⟩,
      fun right => right.2 exactHit⟩

/-- A key for all Macs and one for a model with a longer name. -/
def twoWildcards : OrderedMap Text Nat :=
  (OrderedMap.empty.insert "Mac~".toList 0).insert "MacBookZ~".toList 1

theorem findMatchingMachineModel_obstructed :
    "MacBook".toList ∉ twoWildcards.keys ∧
      ¬ FindsLongestMatch twoWildcards "MacBook".toList
        (findMatchingMachineModel twoWildcards "MacBook".toList) := by
  refine ⟨by decide, fun finds => ?_⟩
  obtain ⟨key, found, -⟩ := finds.found ⟨"Mac~".toList, by decide, "Mac".toList, by decide,
    by decide⟩
  have notFound : findMatchingMachineModel twoWildcards "MacBook".toList = none := by decide
  rw [notFound] at found
  cases found

end FiberApp.Cpu
