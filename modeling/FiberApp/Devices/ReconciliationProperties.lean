import FiberApp.Foundation.Execution
import FiberApp.Devices.DeviceChangesProperties

/-! Reconciliation of the saved device lists with the platform's lists, over runs
of platform changes, listener calls and `MSG_DEVICES_CHANGED` messages. -/

set_option autoImplicit false

namespace FiberApp.Devices

open Foundation

def allTypes : List DevType := [.devNone, .audioIn, .audioOut, .video]

theorem mem_allTypes (type : DevType) : type ∈ allTypes := by cases type <;> decide

def Within (left right : DeviceLists) : Prop :=
  ∀ type ∈ allTypes, ∀ id ∈ ids (left.list type), id ∈ ids (right.list type)

instance (left right : DeviceLists) : Decidable (Within left right) :=
  inferInstanceAs (Decidable (∀ type ∈ allTypes, ∀ id ∈ ids (left.list type), _))

theorem within_iff {left right : DeviceLists} :
    Within left right ↔
      ∀ type, ∀ id ∈ ids (left.list type), id ∈ ids (right.list type) :=
  ⟨fun within type => within type (mem_allTypes type), fun within type _ => within type⟩

theorem Within.trans {first second third : DeviceLists} (left : Within first second)
    (right : Within second third) : Within first third :=
  fun type known id member => right type known id (left type known id member)

/-- The saved lists, the devices of the system and the calls the listener still
owes after changes of these. -/
structure Reconciliation where
  system : DeviceLists
  owed : List Bool
  changes : DeviceChanges
  deriving DecidableEq

inductive ReconciliationStep
  | systemChanges (system : DeviceLists)
  | devicesChange (dAction : Bool)
  | devicesChanged (retry : Bool)
  deriving DecidableEq

namespace Reconciliation

def platform (state : Reconciliation) : DeviceLists := platformLists state.system

def start (system : DeviceLists) : Reconciliation :=
  ⟨system, [], .getPlatformDevices (platformLists system)⟩

def owedCalls (before after : DeviceLists) : List Bool :=
  (if Within after before then [] else [true]) ++ if Within before after then [] else [false]

def step (state : Reconciliation) : ReconciliationStep → Option Reconciliation
  | .systemChanges system => some { state with
      system := system
      owed := state.owed ++ owedCalls state.platform (platformLists system) }
  | .devicesChange dAction =>
      if dAction ∈ state.owed then some { state with
        owed := state.owed.erase dAction
        changes := state.changes.onDevicesChange dAction }
      else none
  | .devicesChanged retry =>
      if retry ∈ state.changes.delayed then some { state with
        changes := (state.changes.takeDevicesChanged retry).handleDevicesChanged
          state.platform retry }
      else none

def NoneMissing (state : Reconciliation) : Prop := Within state.platform state.changes.saved

def NoneStale (state : Reconciliation) : Prop := Within state.changes.saved state.platform

instance (state : Reconciliation) : Decidable state.NoneMissing :=
  inferInstanceAs (Decidable (Within _ _))

instance (state : Reconciliation) : Decidable state.NoneStale :=
  inferInstanceAs (Decidable (Within _ _))

/-- A call does not take the action away from changes of the other kind: there
are none left, or their own call is still to come. -/
def Unmasked (state : Reconciliation) : ReconciliationStep → Prop
  | .devicesChange true => state.NoneStale ∨ false ∈ state.owed
  | .devicesChange false => state.NoneMissing ∨ true ∈ state.owed
  | _ => True

instance (state : Reconciliation) (label : ReconciliationStep) :
    Decidable (state.Unmasked label) :=
  match label with
  | .systemChanges _ => .isTrue trivial
  | .devicesChange true => inferInstanceAs (Decidable (_ ∨ _))
  | .devicesChange false => inferInstanceAs (Decidable (_ ∨ _))
  | .devicesChanged _ => .isTrue trivial

/-- Changes not yet saved are covered by an owed call, or by pending messages
while `dev_` has their action. -/
structure Covered (state : Reconciliation) : Prop where
  missing : state.NoneMissing ∨ true ∈ state.owed ∨
    state.changes.dev.devAction = .added ∧ state.changes.delayed ≠ []
  stale : state.NoneStale ∨ false ∈ state.owed ∨
    state.changes.dev.devAction ≠ .added ∧ state.changes.delayed ≠ []

def applyInfo (type : DevType) (known : List String) (info : ChangeDevInfo) : List String :=
  if info.devType = type then
    match info.devAction with
    | .added => known ++ [info.devGuid]
    | .removed => known.erase info.devGuid
    | _ => known
  else known

/-- The ids an application has that applies every notification once. -/
def notifiedIds (changes : DeviceChanges) (initial : DeviceLists) (type : DevType) :
    List String :=
  changes.notified.flatten.foldl (applyInfo type) (ids (initial.list type))

/-- The notifications posted so far turn the initial ids into the saved ones. -/
def Notified (initial : DeviceLists) (changes : DeviceChanges) : Prop :=
  ∀ type, ids (changes.saved.list type) = notifiedIds changes initial type

def Quiescent (state : Reconciliation) : Prop := state.owed = [] ∧ state.changes.delayed = []

structure Reconciled (initial : DeviceLists) (state : Reconciliation) : Prop where
  notified : Notified initial state.changes
  settled : state.Quiescent → ∀ type id,
    id ∈ ids (state.changes.saved.list type) ↔ id ∈ ids (state.platform.list type)

theorem Covered.settled {state : Reconciliation} (covered : state.Covered)
    (quiescent : state.Quiescent) (type : DevType) (id : String) :
    id ∈ ids (state.changes.saved.list type) ↔ id ∈ ids (state.platform.list type) := by
  obtain ⟨noCall, noMessage⟩ := quiescent
  have missing := covered.missing
  have stale := covered.stale
  simp only [noCall, noMessage, List.not_mem_nil, ne_eq, not_true_eq_false, and_false,
    or_false] at missing stale
  exact ⟨within_iff.mp stale type id, within_iff.mp missing type id⟩

/-! The passes against the coverage. -/

theorem notified_of_addsOne {initial platform : DeviceLists} {type : DevType}
    (known : type ≠ .devNone) {changes next : DeviceChanges}
    (added : DeviceChanges.AddsOne type platform changes next)
    (notified : Notified initial changes) :
    Notified initial (next.onDevicesChange true).notifyLocalDevicesChange := by
  obtain ⟨before, device, after, _, _, _, rfl⟩ := added
  intro other
  have earlier := notified other
  simp only [notifiedIds] at earlier
  simp only [notifiedIds, DeviceChanges.notifyLocalDevicesChange, DeviceChanges.onDevicesChange,
    DeviceChanges.postDevicesChanged, List.flatten_append, List.flatten_cons, List.flatten_nil,
    List.append_nil, List.foldl_append, List.foldl_cons, List.foldl_nil, ↓reduceIte,
    DeviceLists.list_withList _ _ known, ← earlier, applyInfo]
  by_cases same : other = type
  · simp [same, ids]
  · simp [same, Ne.symm same]

theorem notified_of_removesOne {initial platform : DeviceLists} {type : DevType}
    (known : type ≠ .devNone) {changes next : DeviceChanges}
    (removed : DeviceChanges.RemovesOne type platform changes next)
    (notified : Notified initial changes) :
    Notified initial (next.onDevicesChange false).notifyLocalDevicesChange := by
  obtain ⟨before, device, after, split, listed, gone, rfl⟩ := removed
  have first : device.id ∉ ids before := by
    intro member
    obtain ⟨other, early, same⟩ := List.mem_map.mp member
    exact gone (same ▸ listed other early)
  intro other
  have earlier := notified other
  simp only [notifiedIds] at earlier
  simp only [notifiedIds, DeviceChanges.notifyLocalDevicesChange, DeviceChanges.onDevicesChange,
    DeviceChanges.postDevicesChanged, List.flatten_append, List.flatten_cons, List.flatten_nil,
    List.append_nil, List.foldl_append, List.foldl_cons, List.foldl_nil, ↓reduceIte,
    DeviceLists.list_withList _ _ known, ← earlier, applyInfo, Bool.false_eq_true]
  by_cases same : other = type
  · subst same
    simp only [ids] at first
    simp only [split, ids, List.map_append, List.map_cons, ↓reduceIte]
    rw [List.erase_append_right _ first, List.erase_cons_head]
  · simp [same, Ne.symm same]

theorem within_of_addsOne {platform : DeviceLists} {type : DevType} (known : type ≠ .devNone)
    {changes next : DeviceChanges} (added : DeviceChanges.AddsOne type platform changes next)
    (stale : Within changes.saved platform) : Within next.saved platform := by
  obtain ⟨before, device, after, split, _, _, rfl⟩ := added
  intro other listed id member
  simp only [DeviceLists.list_withList _ _ known] at member
  split_ifs at member with same
  · subst same
    simp only [ids, List.map_append, List.map_cons, List.map_nil, List.mem_append,
      List.mem_singleton] at member
    rcases member with old | rfl
    · exact stale other listed id old
    · rw [split]
      exact mem_ids (by simp)
  · exact stale other listed id member

theorem within_of_removesOne {platform : DeviceLists} {type : DevType} (known : type ≠ .devNone)
    {changes next : DeviceChanges}
    (removed : DeviceChanges.RemovesOne type platform changes next)
    (missing : Within platform changes.saved) : Within platform next.saved := by
  obtain ⟨before, device, after, split, _, gone, rfl⟩ := removed
  intro other listed id member
  have saved := missing other listed id member
  simp only [DeviceLists.list_withList _ _ known]
  split_ifs with same
  · subst same
    rw [split] at saved
    simp only [ids, List.map_append, List.map_cons, List.mem_append, List.mem_cons] at saved ⊢
    rcases saved with early | rfl | late
    · exact .inl early
    · exact absurd member gone
    · exact .inr late
  · exact saved

theorem handleDevicesChanged_added {initial : DeviceLists} (platform : DeviceLists)
    (changes : DeviceChanges) (action : changes.dev.devAction = .added)
    (notified : Notified initial changes) (retry : Bool) :
    (changes.handleDevicesChanged platform retry).dev.devAction = .added ∧
      Notified initial (changes.handleDevicesChanged platform retry) ∧
      (Within changes.saved platform →
        Within (changes.handleDevicesChanged platform retry).saved platform) ∧
      (Within platform (changes.handleDevicesChanged platform retry).saved ∨
        (changes.handleDevicesChanged platform retry).delayed ≠ []) := by
  cases found : changes.findAndSetAddedDevice platform with
  | none =>
      have complete := within_iff.mpr (DeviceChanges.findAndSetAddedDevice_eq_none.mp found)
      simp only [DeviceChanges.handleDevicesChanged, action, found, ↓reduceIte]
      cases retry with
      | true => exact ⟨action, notified, fun stale => stale, .inl complete⟩
      | false => exact ⟨action, notified, fun stale => stale, .inl complete⟩
  | some next =>
      obtain ⟨type, known, added⟩ := DeviceChanges.findAndSetAddedDevice_some found
      simp only [DeviceChanges.handleDevicesChanged, action, found, ↓reduceIte]
      have stale : Within changes.saved platform → Within next.saved platform :=
        within_of_addsOne known added
      refine ⟨rfl, notified_of_addsOne known added notified, stale, .inr ?_⟩
      simp [DeviceChanges.notifyLocalDevicesChange, DeviceChanges.onDevicesChange,
        DeviceChanges.postDevicesChanged]

theorem handleDevicesChanged_removed {initial : DeviceLists} (platform : DeviceLists)
    (changes : DeviceChanges) (action : changes.dev.devAction ≠ .added)
    (notified : Notified initial changes) (retry : Bool) :
    (changes.handleDevicesChanged platform retry).dev.devAction ≠ .added ∧
      Notified initial (changes.handleDevicesChanged platform retry) ∧
      (Within platform changes.saved →
        Within platform (changes.handleDevicesChanged platform retry).saved) ∧
      (Within (changes.handleDevicesChanged platform retry).saved platform ∨
        (changes.handleDevicesChanged platform retry).delayed ≠ []) := by
  cases found : changes.findAndSetRemovedDevice platform with
  | none =>
      have complete := within_iff.mpr (DeviceChanges.findAndSetRemovedDevice_eq_none.mp found)
      simp only [DeviceChanges.handleDevicesChanged, action, found, ↓reduceIte]
      cases retry with
      | true => exact ⟨action, notified, fun missing => missing, .inl complete⟩
      | false => exact ⟨action, notified, fun missing => missing, .inl complete⟩
  | some next =>
      obtain ⟨type, known, removed, _⟩ := DeviceChanges.findAndSetRemovedDevice_some found
      simp only [DeviceChanges.handleDevicesChanged, action, found, ↓reduceIte]
      have missing : Within platform changes.saved → Within platform next.saved :=
        within_of_removesOne known removed
      refine ⟨fun same => ?_, notified_of_removesOne known removed notified, missing, .inr ?_⟩
      · cases same
      · simp [DeviceChanges.notifyLocalDevicesChange, DeviceChanges.onDevicesChange,
          DeviceChanges.postDevicesChanged]

theorem Covered.systemChanges {state : Reconciliation} (covered : state.Covered)
    (system : DeviceLists) :
    Covered { state with
      system := system
      owed := state.owed ++ owedCalls state.platform (platformLists system) } := by
  constructor
  · by_cases new : Within (platformLists system) state.platform
    · rcases covered.missing with none | owed | pending
      · exact .inl (new.trans none)
      · exact .inr (.inl (List.mem_append_left _ owed))
      · exact .inr (.inr pending)
    · refine .inr (.inl (List.mem_append_right _ ?_))
      simp [owedCalls, new]
  · by_cases gone : Within state.platform (platformLists system)
    · rcases covered.stale with none | owed | pending
      · exact .inl (Within.trans none gone)
      · exact .inr (.inl (List.mem_append_left _ owed))
      · exact .inr (.inr pending)
    · refine .inr (.inl (List.mem_append_right _ ?_))
      simp [owedCalls, gone]

theorem covered_devicesChange {state : Reconciliation} {dAction : Bool}
    (unmasked : state.Unmasked (.devicesChange dAction)) :
    Covered { state with
      owed := state.owed.erase dAction
      changes := state.changes.onDevicesChange dAction } := by
  have pending : (state.changes.onDevicesChange dAction).delayed ≠ [] := by
    simp [DeviceChanges.onDevicesChange, DeviceChanges.postDevicesChanged]
  cases dAction with
  | true =>
      refine ⟨.inr (.inr ⟨rfl, pending⟩), ?_⟩
      rcases unmasked with none | owed
      · exact .inl none
      · exact .inr (.inl ((List.mem_erase_of_ne (by decide)).mpr owed))
  | false =>
      refine ⟨?_, .inr (.inr ⟨by simp [DeviceChanges.onDevicesChange,
        DeviceChanges.postDevicesChanged], pending⟩)⟩
      rcases unmasked with none | owed
      · exact .inl none
      · exact .inr (.inl ((List.mem_erase_of_ne (by decide)).mpr owed))

theorem Covered.devicesChanged {initial : DeviceLists} {state : Reconciliation}
    (covered : state.Covered) (notified : Notified initial state.changes) (retry : Bool) :
    Covered { state with
      changes :=
        (state.changes.takeDevicesChanged retry).handleDevicesChanged state.platform retry } ∧
    Notified initial
      ((state.changes.takeDevicesChanged retry).handleDevicesChanged state.platform retry) := by
  by_cases action : state.changes.dev.devAction = .added
  · obtain ⟨kept, known, stale, missing⟩ := handleDevicesChanged_added state.platform
      (state.changes.takeDevicesChanged retry) action notified retry
    refine ⟨⟨?_, ?_⟩, known⟩
    · rcases missing with complete | pending
      · exact .inl complete
      · exact .inr (.inr ⟨kept, pending⟩)
    · rcases covered.stale with none | owed | pending
      · exact .inl (stale none)
      · exact .inr (.inl owed)
      · exact absurd action pending.1
  · obtain ⟨kept, known, missing, stale⟩ := handleDevicesChanged_removed state.platform
      (state.changes.takeDevicesChanged retry) action notified retry
    refine ⟨⟨?_, ?_⟩, known⟩
    · rcases covered.missing with none | owed | pending
      · exact .inl (missing none)
      · exact .inr (.inl owed)
      · exact absurd pending.1 action
    · rcases stale with complete | pending
      · exact .inl complete
      · exact .inr (.inr ⟨kept, pending⟩)

theorem step_keeps {initial : DeviceLists} {state next : Reconciliation}
    {label : ReconciliationStep} (covered : state.Covered)
    (notified : Notified initial state.changes) (unmasked : state.Unmasked label)
    (taken : state.step label = some next) : next.Covered ∧ Notified initial next.changes := by
  cases label with
  | systemChanges system =>
      cases taken
      exact ⟨covered.systemChanges system, notified⟩
  | devicesChange dAction =>
      simp only [step] at taken
      split_ifs at taken with owed
      cases taken
      exact ⟨covered_devicesChange unmasked, notified⟩
  | devicesChanged retry =>
      simp only [step] at taken
      split_ifs at taken with pending
      cases taken
      exact covered.devicesChanged notified retry

theorem devicesChange_reconciled (system : DeviceLists) (steps : List ReconciliationStep)
    (unmasked : Guarded step Unmasked (start system) steps) :
    Throughout step (Reconciled (platformLists system)) (start system) steps := by
  apply throughout_of_guarded
    (fun state => state.Covered ∧ Notified (platformLists system) state.changes) _ _ _ unmasked
  · intro state kept
    exact ⟨kept.2, kept.1.settled⟩
  · intro state label next kept guarded taken
    exact step_keeps kept.1 kept.2 guarded taken
  · have same : Within (platformLists system) (platformLists system) :=
      fun _ _ _ member => member
    exact ⟨⟨.inl same, .inl same⟩, fun type => rfl⟩

def microphone : Device := ⟨"Microphone", "mic", true⟩

def headset : Device := ⟨"Headset", "headset", false⟩

def camera : Device := ⟨"Camera", "camera", false⟩

theorem devicesChange_reconciled_headset :
    Throughout step (Reconciled (platformLists ⟨[microphone], [], []⟩))
      (start ⟨[microphone], [], []⟩)
      [.systemChanges ⟨[microphone, headset], [], []⟩, .devicesChange true,
        .devicesChanged true, .systemChanges ⟨[headset], [], []⟩, .devicesChange false,
        .devicesChanged true, .devicesChanged true] :=
  devicesChange_reconciled _ _ (by decide)

def maskedRun : List ReconciliationStep :=
  [.systemChanges ⟨[microphone, headset], [], [camera]⟩, .devicesChange true,
    .systemChanges ⟨[microphone], [], [camera]⟩, .devicesChange false, .devicesChanged true,
    .devicesChanged true, .devicesChanged true, .devicesChanged false, .devicesChanged false]

theorem devicesChange_loses_camera :
    ¬ Throughout step (Reconciled (platformLists ⟨[microphone, headset], [], []⟩))
      (start ⟨[microphone, headset], [], []⟩) maskedRun := by
  intro reconciled
  obtain ⟨final, executed, quiescent, listed, unsaved⟩ : ∃ final,
      execute step (start ⟨[microphone, headset], [], []⟩) maskedRun = some final ∧
        final.Quiescent ∧ "camera" ∈ ids (final.platform.list .video) ∧
        "camera" ∉ ids (final.changes.saved.list .video) :=
    ⟨_, rfl, ⟨rfl, rfl⟩, by decide, by decide⟩
  exact unsaved (((reconciled.reached executed).settled quiescent .video "camera").mpr listed)

end Reconciliation

end FiberApp.Devices
