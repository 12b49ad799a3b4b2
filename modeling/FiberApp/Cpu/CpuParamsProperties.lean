import FiberApp.Cpu.CpuMonitor

/-! The entry that a query selects among the entries registered for a machine. The list is
sorted in place by a sort that may reorder equal entries. -/

set_option autoImplicit false

namespace FiberApp.Cpu

open Foundation
open Devices.ScreenSharing (Text)

theorem cpuParamsCompare_eq_true {lhs rhs : CpuParams} :
    cpuParamsCompare lhs rhs = true ↔ rhs.vcores.toInt < lhs.vcores.toInt ∨
      (lhs.vcores.toInt = rhs.vcores.toInt ∧ rhs.frequency.toInt < lhs.frequency.toInt) := by
  unfold cpuParamsCompare
  split
  case isTrue same => simp [same, Int32.lt_iff_toInt_lt]
  case isFalse different => simp [Int32.toInt_inj, different, Int32.lt_iff_toInt_lt]

/-- More virtual cores go ahead, and among equals the higher frequency. -/
theorem cpuParamsCompare_order : StrictWeakOrder cpuParamsCompare where
  asymm first second ahead := by
    rw [← Bool.not_eq_true, cpuParamsCompare_eq_true]
    rw [cpuParamsCompare_eq_true] at ahead
    omega
  trans first second third one other := by
    rw [← Bool.not_eq_true, cpuParamsCompare_eq_true] at one other ⊢
    omega

/-- The entries of one list of the map. -/
def inSlot (slot : Text × Text) (params : CpuParams) : Bool :=
  params.machineModel = slot.1 && params.cpuidKey = slot.2

/-- The entries that a run registers, in their order. -/
def registered (operations : List CpuOperation) : List CpuParams :=
  operations.filterMap fun
    | .updateCpuParamsMap params => some params
    | _ => none

namespace CpuMonitor

/-- The lists of the map hold the registered entries, in any order. -/
def Holds (monitor : CpuMonitor) (history : List CpuParams) : Prop :=
  ∀ slot, (monitor.slotParams slot).Perm (history.filter (inSlot slot))

theorem slotParams_updateCpuParamsMap (monitor : CpuMonitor) (params : CpuParams)
    (slot : Text × Text) :
    (monitor.updateCpuParamsMap params).slotParams slot =
      if inSlot slot params then monitor.slotParams slot ++ [params]
      else monitor.slotParams slot := by
  obtain ⟨machineModel, cpuid⟩ := slot
  have emptyList : ∀ key, (OrderedMap.empty : CpuIdResolutionsMap).get? key = none := fun _ => rfl
  simp only [slotParams, updateCpuParamsMap, OrderedMap.get?_modify, OrderedMap.get?_insert, inSlot,
    ↓reduceIte, Option.map_some]
  by_cases sameModel : machineModel = params.machineModel
  · subst sameModel
    simp only [↓reduceIte, Option.bind_some, OrderedMap.get?_modify, OrderedMap.get?_insert,
      Option.map_some, decide_true, Bool.true_and]
    by_cases sameCpuid : cpuid = params.cpuidKey
    · subst sameCpuid
      cases monitor.cpuParamsMap.get? params.machineModel <;> simp [emptyList]
    · cases monitor.cpuParamsMap.get? params.machineModel <;>
        simp [emptyList, sameCpuid, Ne.symm sameCpuid]
  · simp [sameModel, Ne.symm sameModel]

theorem slotParams_getCpuParams (monitor : CpuMonitor) (std : CpuParamsSort) (slot : Text × Text) :
    ((monitor.getCpuParams std).2.slotParams slot).Perm (monitor.slotParams slot) := by
  unfold getCpuParams
  cases found : monitor.findSlot with
  | none => exact List.Perm.refl _
  | some searched =>
      obtain ⟨machineModel, cpuid⟩ := slot
      obtain ⟨searchedModel, searchedCpuid⟩ := searched
      have sorted :
          (std.sort (monitor.slotParams (searchedModel, searchedCpuid)).reverse).reverse.Perm
          (monitor.slotParams (searchedModel, searchedCpuid)) :=
        ((List.reverse_perm _).trans (std.perm _)).trans (List.reverse_perm _)
      simp only [slotParams, OrderedMap.get?_modify] at sorted ⊢
      by_cases sameModel : machineModel = searchedModel
      · subst sameModel
        cases present : monitor.cpuParamsMap.get? machineModel with
        | none => simp
        | some resolutions =>
            simp only [present, Option.bind_some] at sorted
            by_cases sameCpuid : cpuid = searchedCpuid
            · subst sameCpuid
              cases held : resolutions.get? cpuid with
              | none => simp [OrderedMap.get?_modify, held]
              | some params =>
                  simpa [OrderedMap.get?_modify, held] using sorted
            · simp [OrderedMap.get?_modify, sameCpuid]
      · simp [sameModel]

theorem Holds.step {monitor : CpuMonitor} {history : List CpuParams}
    (holds : monitor.Holds history) (operation : CpuOperation) :
    (monitor.perform operation).Holds (history ++ registered [operation]) := by
  intro slot
  cases operation with
  | updateCpuParamsMap params =>
      have same : registered [.updateCpuParamsMap params] = [params] := rfl
      change ((monitor.updateCpuParamsMap params).slotParams slot).Perm _
      rw [slotParams_updateCpuParamsMap, same, List.filter_append]
      cases inside : inSlot slot params with
      | true => simpa [inside] using (holds slot).append_right [params]
      | false => simpa [inside] using holds slot
  | getCpuParams std =>
      rw [show registered [.getCpuParams std] = [] from rfl, List.append_nil]
      exact (slotParams_getCpuParams monitor std slot).trans (holds slot)
  | curCpuUpdate curCpuSpeed =>
      rw [show registered [.curCpuUpdate curCpuSpeed] = [] from rfl, List.append_nil]
      exact holds slot
  | setCurCpus curCpus =>
      rw [show registered [.setCurCpus curCpus] = [] from rfl, List.append_nil]
      exact holds slot
  | setMaxFreqBasedResCapFlag flag =>
      rw [show registered [.setMaxFreqBasedResCapFlag flag] = [] from rfl, List.append_nil]
      exact holds slot

theorem registered_append (before after : List CpuOperation) :
    registered (before ++ after) = registered before ++ registered after :=
  List.filterMap_append

theorem Holds.run {monitor : CpuMonitor} {history : List CpuParams}
    (holds : monitor.Holds history) (operations : List CpuOperation) :
    (operations.foldl perform monitor).Holds (history ++ registered operations) := by
  induction operations generalizing monitor history with
  | nil => simpa [registered] using holds
  | cons operation rest ih =>
      have next := ih (holds.step operation)
      rw [List.append_assoc, ← registered_append] at next
      exact next

/-- The monitor before anything is registered. -/
def unregistered (monitor : CpuMonitor) : CpuMonitor := { monitor with cpuParamsMap := .empty }

theorem holds_run (monitor : CpuMonitor) (operations : List CpuOperation) :
    (operations.foldl perform monitor.unregistered).Holds (registered operations) := by
  have initial : monitor.unregistered.Holds [] := by
    intro slot
    exact List.Perm.refl []
  exact initial.run operations

/-- The entries registered for the machine, in their order. -/
def registeredFor (monitor : CpuMonitor) (history : List CpuParams) : List CpuParams :=
  match monitor.findSlot with
  | none => []
  | some slot => history.filter (inSlot slot)

theorem getCpuParams_fst {monitor : CpuMonitor} {history : List CpuParams}
    (holds : monitor.Holds history) (std : CpuParamsSort) :
    ((∀ params ∈ monitor.registeredFor history, monitor.qualifies params = false) ∧
        (monitor.getCpuParams std).1 = monitor.defaultParam) ∨
      IsBest cpuParamsCompare monitor.qualifies (monitor.registeredFor history)
        (monitor.getCpuParams std).1 := by
  unfold getCpuParams registeredFor
  cases found : monitor.findSlot with
  | none => exact .inl ⟨fun params member => absurd member (by simp), rfl⟩
  | some slot =>
      have perm : (monitor.slotParams slot).reverse.Perm (history.filter (inSlot slot)) :=
        (List.reverse_perm _).trans (holds slot)
      simp only
      cases selected : (std.sort (monitor.slotParams slot).reverse).find? monitor.qualifies with
      | none =>
          have fails := std.find?_eq_none.mp selected
          exact .inl ⟨fun params member => fails params (perm.mem_iff.mpr member), rfl⟩
      | some params => exact .inr ((std.isBest cpuParamsCompare_order selected).of_perm perm)

theorem scanWildcards_congr {ν : Type} (mm : Text) {first second : List (Text × ν)}
    (same : first.map Prod.fst = second.map Prod.fst) :
    scanWildcards mm first = scanWildcards mm second := by
  induction first generalizing second with
  | nil =>
      obtain rfl := List.map_eq_nil_iff.mp same.symm
      rfl
  | cons entry rest ih =>
      cases second with
      | nil => cases same
      | cons other others =>
          obtain ⟨sameKey, sameRest⟩ := List.cons.inj same
          rw [scanWildcards, scanWildcards, sameKey, ih sameRest]

theorem findMatchingMachineModel_modify {ν : Type} (map : OrderedMap Text ν) (key mm : Text)
    (update : ν → ν) :
    findMatchingMachineModel (map.modify key update) mm = findMatchingMachineModel map mm := by
  unfold findMatchingMachineModel
  rw [OrderedMap.isSome_get?_modify,
    scanWildcards_congr mm (OrderedMap.keys_lowerBound_modify map key mm update)]

section Sorted

variable (monitor : CpuMonitor) (slot : Text × Text) (sorted : List CpuParams)

/-- The monitor with one list of the map replaced. -/
def withSlot : CpuMonitor :=
  { monitor with
    cpuParamsMap := monitor.cpuParamsMap.modify slot.1 fun resolutions =>
      resolutions.modify slot.2 fun _ => sorted }

theorem findMachineModel_withSlot :
    (monitor.withSlot slot sorted).findMachineModel = monitor.findMachineModel := by
  simp only [findMachineModel, withSlot, findMatchingMachineModel_modify,
    OrderedMap.isSome_get?_modify]

theorem findCpuid_withSlot (resolutions : CpuIdResolutionsMap)
    (update : List CpuParams → List CpuParams) :
    (monitor.withSlot slot sorted).findCpuid (resolutions.modify slot.2 update) =
      monitor.findCpuid resolutions := by
  simp only [findCpuid, withSlot, OrderedMap.isSome_get?_modify]

theorem findSlot_withSlot : (monitor.withSlot slot sorted).findSlot = monitor.findSlot := by
  unfold findSlot
  rw [findMachineModel_withSlot]
  cases monitor.findMachineModel with
  | none => rfl
  | some machineModel =>
      simp only [Option.bind_eq_bind, Option.bind_some]
      rw [show (monitor.withSlot slot sorted).cpuParamsMap = monitor.cpuParamsMap.modify slot.1
        (fun resolutions => resolutions.modify slot.2 fun _ => sorted) from rfl,
        OrderedMap.get?_modify]
      split
      case isTrue same =>
        subst same
        cases monitor.cpuParamsMap.get? slot.1 with
        | none => rfl
        | some resolutions =>
            simp only [Option.map_some, Option.bind_some]
            rw [findCpuid_withSlot]
      case isFalse different => rfl

end Sorted

theorem getCpuParams_snd_of_slot {monitor : CpuMonitor} {slot : Text × Text}
    (found : monitor.findSlot = some slot) (std : CpuParamsSort) :
    (monitor.getCpuParams std).2 =
      monitor.withSlot slot (std.sort (monitor.slotParams slot).reverse).reverse := by
  simp only [getCpuParams, found, withSlot]

/-- A query leaves the keys of the map as they are. -/
theorem findSlot_getCpuParams (monitor : CpuMonitor) (std : CpuParamsSort) :
    (monitor.getCpuParams std).2.findSlot = monitor.findSlot := by
  cases found : monitor.findSlot with
  | none => simp only [getCpuParams, found]
  | some slot => rw [getCpuParams_snd_of_slot found, findSlot_withSlot, found]

theorem holds_getCpuParams {monitor : CpuMonitor} {history : List CpuParams}
    (holds : monitor.Holds history) (std : CpuParamsSort) :
    (monitor.getCpuParams std).2.Holds history :=
  fun slot => (slotParams_getCpuParams monitor std slot).trans (holds slot)

theorem registeredFor_getCpuParams (monitor : CpuMonitor) (history : List CpuParams)
    (std : CpuParamsSort) :
    (monitor.getCpuParams std).2.registeredFor history = monitor.registeredFor history := by
  rw [registeredFor, registeredFor, findSlot_getCpuParams]

/-- A query changes nothing but the map. -/
theorem qualifies_getCpuParams (monitor : CpuMonitor) (std : CpuParamsSort) :
    (monitor.getCpuParams std).2.qualifies = monitor.qualifies ∧
      (monitor.getCpuParams std).2.defaultParam = monitor.defaultParam := by
  unfold getCpuParams
  split <;> exact ⟨rfl, rfl⟩

/-- The selection that the query is for: the default when no entry qualifies, or else the last
registered one of the best entries that do. -/
structure SelectsBest (monitor : CpuMonitor) (entries : List CpuParams) (result : CpuParams) :
    Prop where
  default : (∀ params ∈ entries, monitor.qualifies params = false) →
    result = monitor.defaultParam
  best : (∃ params ∈ entries, monitor.qualifies params = true) →
    IsBest cpuParamsCompare monitor.qualifies entries result ∧
      ∃ earlier later, entries = earlier ++ result :: later ∧
        ∀ other ∈ later, monitor.qualifies other = true → cpuParamsCompare result other = true

/-- One query selects the best entry, and the next one selects it again. -/
def SelectsAndRepeats (monitor : CpuMonitor) (history : List CpuParams) (std : CpuParamsSort) :
    Prop :=
  monitor.SelectsBest (monitor.registeredFor history) (monitor.getCpuParams std).1 ∧
    ((monitor.getCpuParams std).2.getCpuParams std).1 = (monitor.getCpuParams std).1

/-- All qualifying entries with the most virtual cores, and among these the highest frequency,
are the same. -/
def BestAgree (monitor : CpuMonitor) (entries : List CpuParams) : Prop :=
  ∀ first second, IsBest cpuParamsCompare monitor.qualifies entries first →
    IsBest cpuParamsCompare monitor.qualifies entries second → first = second

theorem selectsAndRepeats_of_bestAgree {monitor : CpuMonitor} {history : List CpuParams}
    (holds : monitor.Holds history) (agree : monitor.BestAgree (monitor.registeredFor history))
    (std : CpuParamsSort) : monitor.SelectsAndRepeats history std := by
  have first := getCpuParams_fst holds std
  have second := getCpuParams_fst (holds_getCpuParams holds std) std
  rw [registeredFor_getCpuParams, (qualifies_getCpuParams monitor std).1,
    (qualifies_getCpuParams monitor std).2] at second
  rcases first with ⟨fails, isDefault⟩ | isBest
  · refine ⟨⟨fun _ => isDefault, ?_⟩, ?_⟩
    · intro passed
      obtain ⟨params, member, passes⟩ := passed
      rw [fails params member] at passes
      cases passes
    · rcases second with ⟨-, alsoDefault⟩ | alsoBest
      · rw [alsoDefault, isDefault]
      · exact absurd alsoBest.passes (by rw [fails _ alsoBest.member]; decide)
  · refine ⟨⟨fun fails => ?_, fun passing => ⟨isBest, ?_⟩⟩, ?_⟩
    · exact absurd isBest.passes (by rw [fails _ isBest.member]; decide)
    · obtain ⟨earlier, last, later, split, lastBest, behind⟩ :=
        exists_last_best cpuParamsCompare_order passing
      rw [agree _ last isBest lastBest]
      exact ⟨earlier, later, split, behind⟩
    · rcases second with ⟨fails, -⟩ | alsoBest
      · exact absurd isBest.passes (by rw [fails _ isBest.member]; decide)
      · exact agree _ _ alsoBest isBest

/-- A sort that prefers a best entry makes the query return it. -/
theorem getCpuParams_preferring {monitor : CpuMonitor} {history : List CpuParams}
    (holds : monitor.Holds history) {best : CpuParams}
    (isBest : IsBest cpuParamsCompare monitor.qualifies (monitor.registeredFor history) best) :
    (monitor.getCpuParams (.preferring cpuParamsCompare_order best)).1 = best := by
  unfold registeredFor at isBest
  cases found : monitor.findSlot with
  | none =>
      rw [found] at isBest
      exact absurd isBest.member (by simp)
  | some slot =>
      rw [found] at isBest
      have perm : (monitor.slotParams slot).reverse.Perm (history.filter (inSlot slot)) :=
        (List.reverse_perm _).trans (holds slot)
      simp only [getCpuParams, found]
      rw [SortBy.preferring_find? cpuParamsCompare_order (isBest.of_perm perm.symm)]
      rfl

/-- The last of the best entries does not depend on the sort. -/
theorem SelectsBest.unique {monitor : CpuMonitor} {entries : List CpuParams}
    {first second : CpuParams} (one : monitor.SelectsBest entries first)
    (other : monitor.SelectsBest entries second)
    (passing : ∃ params ∈ entries, monitor.qualifies params = true) : first = second := by
  obtain ⟨firstBest, earlier, later, split, behind⟩ := one.best passing
  obtain ⟨secondBest, before, after, alsoSplit, alsoBehind⟩ := other.best passing
  rw [split] at alsoSplit
  rcases List.append_eq_append_iff.mp alsoSplit with ⟨middle, sameBefore, sameRest⟩ |
    ⟨middle, sameEarlier, sameRest⟩
  · cases middle with
    | nil => exact (List.cons.inj sameRest).1
    | cons head tail =>
        have inLater : second ∈ later := by
          rw [(List.cons.inj sameRest).2]
          simp
        have ahead := behind second inLater secondBest.passes
        rw [secondBest.notBehind first firstBest.member firstBest.passes] at ahead
        cases ahead
  · cases middle with
    | nil => exact (List.cons.inj sameRest).1.symm
    | cons head tail =>
        have inAfter : first ∈ after := by
          rw [(List.cons.inj sameRest).2]
          simp
        have ahead := alsoBehind first inAfter firstBest.passes
        rw [firstBest.notBehind second secondBest.member secondBest.passes] at ahead
        cases ahead

theorem bestAgree_of_selects {monitor : CpuMonitor} {history : List CpuParams}
    (holds : monitor.Holds history)
    (selects : ∀ std, monitor.SelectsAndRepeats history std) :
    monitor.BestAgree (monitor.registeredFor history) := by
  intro first second firstBest secondBest
  have one := (selects (.preferring cpuParamsCompare_order first)).1
  have other := (selects (.preferring cpuParamsCompare_order second)).1
  rw [getCpuParams_preferring holds firstBest] at one
  rw [getCpuParams_preferring holds secondBest] at other
  exact one.unique other ⟨first, firstBest.member, firstBest.passes⟩

/-- After every run of registrations and queries, whatever the sorts did, a query selects the
last registered best entry and repeats it under every sort, exactly when the best entries are
the same. -/
theorem getCpuParams_selects_iff (monitor : CpuMonitor) (operations : List CpuOperation) :
    let state := operations.foldl perform monitor.unregistered
    (∀ std, state.SelectsAndRepeats (registered operations) std) ↔
      state.BestAgree (state.registeredFor (registered operations)) := by
  have holds := holds_run monitor operations
  exact ⟨bestAgree_of_selects holds, selectsAndRepeats_of_bestAgree holds⟩

/-- A machine with four cores, whose default is the smallest resolution. -/
def quadCore : CpuMonitor where
  defaultParam := ⟨[], [], 0, 0, 0, 0, 0, ⟨640, 360, 30, 640, 360, 30, true⟩⟩
  curCpus := 4
  cpuFamily := 6
  cpuModel := 15
  cpuVendor := "Intel".toList
  maxCpuSpeed := 2400
  curCpuSpeed := 2400
  machineModel := "Mac".toList
  baseboardMachineModel := none
  useMaxFreqBasedResCap := false
  cpuParamsMap := .empty

def builtInEntry : CpuParams :=
  ⟨[], "Intel".toList, 6, 15, 0, 4, 2000, ⟨640, 360, 30, 1280, 720, 30, true⟩⟩

/-- The entry that a custom configuration adds for the same CPU. -/
def customEntry : CpuParams := { builtInEntry with vparams := ⟨1280, 720, 30, 1280, 720, 30, true⟩ }

def twoRegistrations : List CpuOperation :=
  [.updateCpuParamsMap builtInEntry, .updateCpuParamsMap customEntry]

theorem getCpuParams_tie :
    let state := twoRegistrations.foldl perform quadCore.unregistered
    ¬ ∀ std, state.SelectsAndRepeats (registered twoRegistrations) std := by
  intro state selects
  have entries : state.registeredFor (registered twoRegistrations) =
      [builtInEntry, customEntry] := by decide
  have agree := bestAgree_of_selects (holds_run quadCore twoRegistrations) selects
  change state.BestAgree (state.registeredFor (registered twoRegistrations)) at agree
  rw [entries] at agree
  have same := agree builtInEntry customEntry
    ⟨by decide, by decide, by decide⟩ ⟨by decide, by decide, by decide⟩
  exact absurd same (by decide)

end CpuMonitor

end FiberApp.Cpu
