import FiberApp.Foundation.Execution
import FiberApp.Devices.DeviceChangesProperties

/-! The Automatic entry of the saved audio lists, over runs of device passes and
label updates. -/

set_option autoImplicit false

namespace FiberApp.Devices

open Foundation

/-- The devices the operating system has; no audio device of it has the id of
the Automatic entry. -/
structure SystemDevices where
  lists : DeviceLists
  real : ∀ device ∈ lists.audioCapture ++ lists.audioPlayout, device.id ≠ automaticDeviceGuid

inductive AudioType
  | capture
  | playout
  deriving DecidableEq, Repr

def AudioType.devType : AudioType → DevType
  | .capture => .audioIn
  | .playout => .audioOut

def SystemDevices.platform (system : SystemDevices) : DeviceLists := platformLists system.lists

theorem SystemDevices.platform_list (system : SystemDevices) (audio : AudioType) :
    system.platform.list audio.devType = getAudioDevices (system.lists.list audio.devType) := by
  cases audio <;> rfl

theorem SystemDevices.id_ne {system : SystemDevices} {audio : AudioType} {device : Device}
    (member : device ∈ system.lists.list audio.devType) : device.id ≠ automaticDeviceGuid := by
  apply system.real
  rw [List.mem_append]
  cases audio with
  | capture => exact .inl member
  | playout => exact .inr member

/-- The Automatic entry is the first one of a non-empty list, and the only one
with its id. -/
def AutomaticFirst : List Device → Prop
  | [] => True
  | first :: rest =>
      first.id = automaticDeviceGuid ∧ ∀ device ∈ rest, device.id ≠ automaticDeviceGuid

instance (devices : List Device) : Decidable (AutomaticFirst devices) :=
  match devices with
  | [] => .isTrue trivial
  | first :: rest => inferInstanceAs (Decidable (first.id = automaticDeviceGuid ∧
      ∀ device ∈ rest, device.id ≠ automaticDeviceGuid))

theorem automaticFirst_getAudioDevices {devices : List Device}
    (real : ∀ device ∈ devices, device.id ≠ automaticDeviceGuid) :
    AutomaticFirst (getAudioDevices devices) := by
  cases devices with
  | nil => trivial
  | cons first rest => exact ⟨rfl, real⟩

theorem automaticFirst_relabelFirst (name : String) {devices : List Device}
    (first : AutomaticFirst devices) :
    AutomaticFirst (DeviceChanges.relabelFirst name devices) := by
  cases devices with
  | nil => trivial
  | cons device rest => exact first

theorem automaticFirst_append {devices : List Device} {device : Device}
    (first : AutomaticFirst devices) (nonempty : devices ≠ [])
    (fresh : device.id ≠ automaticDeviceGuid) : AutomaticFirst (devices ++ [device]) := by
  cases devices with
  | nil => exact absurd rfl nonempty
  | cons head rest =>
      refine ⟨first.1, fun other member => ?_⟩
      rcases List.mem_append.mp member with old | new
      · exact first.2 other old
      · rw [List.mem_singleton.mp new]
        exact fresh

namespace DeviceChanges

theorem AddsOne.automaticFirst {system : SystemDevices} {audio : AudioType}
    {changes next : DeviceChanges}
    (added : AddsOne audio.devType system.platform changes next)
    (first : AutomaticFirst (changes.saved.list audio.devType)) :
    AutomaticFirst (next.saved.list audio.devType) := by
  obtain ⟨before, device, after, split, saved, fresh, rfl⟩ := added
  have known : audio.devType ≠ .devNone := by cases audio <;> decide
  simp only [DeviceLists.list_withList _ _ known, ↓reduceIte]
  cases devices : changes.saved.list audio.devType with
  | nil =>
      -- The pass starts a list with the first entry of the platform's list.
      have none_before : before = [] := by
        apply List.eq_nil_iff_forall_not_mem.mpr
        intro other member
        have listed := saved other member
        simp [devices, ids] at listed
      rw [system.platform_list, none_before, getAudioDevices] at split
      cases empty : system.lists.list audio.devType with
      | nil => simp [empty] at split
      | cons head rest =>
          simp only [empty, List.isEmpty_cons, Bool.false_eq_true, ↓reduceIte, List.nil_append,
            List.cons.injEq] at split
          obtain ⟨rfl, _⟩ := split
          exact ⟨rfl, by simp⟩
  | cons head rest =>
      rw [devices] at first fresh
      apply automaticFirst_append first (by simp)
      intro same
      apply fresh
      rw [same, ← first.1]
      exact mem_ids List.mem_cons_self

/-- A removal from a list keeps its Automatic entry first, unless the platform has
no device left for it and the list still has a real one. -/
theorem RemovesOne.automaticFirst_iff {system : SystemDevices} {audio : AudioType}
    {changes next : DeviceChanges}
    (removed : RemovesOne audio.devType system.platform changes next)
    (first : AutomaticFirst (changes.saved.list audio.devType)) :
    AutomaticFirst (next.saved.list audio.devType) ↔
      ¬ (system.lists.list audio.devType = [] ∧
        2 ≤ (changes.saved.list audio.devType).length) := by
  obtain ⟨before, device, after, split, listed, gone, rfl⟩ := removed
  have known : audio.devType ≠ .devNone := by cases audio <;> decide
  simp only [DeviceLists.list_withList _ _ known, ↓reduceIte]
  rw [system.platform_list] at listed gone
  rw [split] at first ⊢
  cases empty : system.lists.list audio.devType with
  | nil =>
      have none_before : before = [] := by
        apply List.eq_nil_iff_forall_not_mem.mpr
        intro other member
        have missing := listed other member
        simp [empty, getAudioDevices, ids] at missing
      subst none_before
      cases after with
      | nil => simp [AutomaticFirst]
      | cons head rest =>
          have real := first.2 head List.mem_cons_self
          simp [AutomaticFirst, real]
  | cons head rest =>
      simp only [reduceCtorEq, false_and, not_false_eq_true, iff_true]
      have automatic : automaticDeviceGuid ∈ ids (getAudioDevices (head :: rest)) :=
        mem_ids (List.mem_cons_self : automaticDevice ∈ _)
      rw [empty] at gone
      cases before with
      | nil => exact absurd (first.1 ▸ automatic) gone
      | cons other tail =>
          refine ⟨first.1, fun saved member => first.2 saved ?_⟩
          rcases List.mem_append.mp member with early | late
          · exact List.mem_append_left _ early
          · exact List.mem_append_right _ (List.mem_cons_of_mem _ late)

def OnlyAutomaticRenamed (changes : DeviceChanges) : Prop :=
  ∀ updates ∈ changes.notified, ∀ info ∈ updates, info.devAction = .updated →
    info.devGuid = automaticDeviceGuid

theorem onlyAutomaticRenamed_relabel {changes : DeviceChanges} (micName speakerName : String)
    (renamed : changes.OnlyAutomaticRenamed)
    (capture : AutomaticFirst changes.saved.audioCapture)
    (playout : AutomaticFirst changes.saved.audioPlayout) :
    (changes.relabelAutomaticDevices micName speakerName).OnlyAutomaticRenamed := by
  have named : ∀ type name devices, AutomaticFirst devices →
      ∀ info ∈ relabelInfo type name devices, info.devGuid = automaticDeviceGuid := by
    intro type name devices first info member
    cases devices with
    | nil => simp [relabelInfo] at member
    | cons device rest =>
        by_cases differs : device.name ≠ name
        · rw [relabelInfo, if_pos differs, List.mem_singleton] at member
          rw [member]
          exact first.1
        · simp [relabelInfo, differs] at member
  intro updates member info listed _
  simp only [relabelAutomaticDevices] at member
  split_ifs at member with nothing
  · exact renamed updates member info listed ‹_›
  · rcases List.mem_append.mp member with earlier | latest
    · exact renamed updates earlier info listed ‹_›
    · rw [List.mem_singleton.mp latest] at listed
      rcases List.mem_append.mp listed with mic | speaker
      · exact named _ _ _ capture info mic
      · exact named _ _ _ playout info speaker

end DeviceChanges

structure DeviceState where
  system : SystemDevices
  changes : DeviceChanges

inductive DeviceStep
  | systemChanges (system : SystemDevices)
  | addedPass
  | removedPass
  | relabel (micName speakerName : String)

namespace DeviceState

def start (system : SystemDevices) : DeviceState :=
  ⟨system, .getPlatformDevices system.platform⟩

def perform (state : DeviceState) : DeviceStep → DeviceState
  | .systemChanges system => { state with system := system }
  | .addedPass => { state with
      changes := (state.changes.findAndSetAddedDevice state.system.platform).getD state.changes }
  | .removedPass => { state with
      changes :=
        (state.changes.findAndSetRemovedDevice state.system.platform).getD state.changes }
  | .relabel micName speakerName => { state with
      changes := state.changes.relabelAutomaticDevices micName speakerName }

structure AutomaticKept (state : DeviceState) : Prop where
  first : ∀ audio : AudioType, AutomaticFirst (state.changes.saved.list audio.devType)
  renamed : state.changes.OnlyAutomaticRenamed

/-- The system has no device of the list any more, and the saved list has one
next to its Automatic entry. -/
def Emptied (state : DeviceState) (audio : AudioType) : Prop :=
  state.system.lists.list audio.devType = [] ∧
    2 ≤ (state.changes.saved.list audio.devType).length

/-- No removed pass comes to a list whose devices are all gone while it still
names one of them. -/
def SparesAutomatic (state : DeviceState) : DeviceStep → Prop
  | .removedPass => ¬ state.Emptied .capture ∧
      (state.changes.removeDeviceOf .audioIn state.system.platform = none →
        ¬ state.Emptied .playout)
  | _ => True

theorem automaticKept_start (system : SystemDevices) : (start system).AutomaticKept where
  first audio := by
    change AutomaticFirst (system.platform.list audio.devType)
    rw [system.platform_list]
    exact automaticFirst_getAudioDevices fun _ member => SystemDevices.id_ne member
  renamed := by
    intro updates member
    cases member

theorem automaticFirst_of_type {state : DeviceState} (kept : state.AutomaticKept)
    {next : DeviceChanges} (type : DevType)
    (others : ∀ other, other ≠ type → next.saved.list other = state.changes.saved.list other)
    (changed : ∀ audio : AudioType, audio.devType = type →
      AutomaticFirst (next.saved.list audio.devType)) (audio : AudioType) :
    AutomaticFirst (next.saved.list audio.devType) := by
  by_cases same : audio.devType = type
  · exact changed audio same
  · rw [others _ same]
    exact kept.first audio

theorem AutomaticKept.addedPass {state : DeviceState} (kept : state.AutomaticKept) :
    (state.perform .addedPass).AutomaticKept := by
  cases found : state.changes.findAndSetAddedDevice state.system.platform with
  | none =>
      simp only [perform, found, Option.getD_none]
      exact kept
  | some next =>
      obtain ⟨type, known, added⟩ := DeviceChanges.findAndSetAddedDevice_some found
      simp only [perform, found, Option.getD_some]
      refine ⟨automaticFirst_of_type kept type ?_ ?_, ?_⟩
      · intro other different
        obtain ⟨_, _, _, _, _, _, rfl⟩ := added
        simp [DeviceLists.list_withList _ _ known, different]
      · intro audio same
        subst same
        exact added.automaticFirst (kept.first audio)
      · obtain ⟨_, _, _, _, _, _, rfl⟩ := added
        exact kept.renamed

theorem Emptied.removeDeviceOf_ne_none {state : DeviceState} {audio : AudioType}
    (emptied : state.Emptied audio) :
    state.changes.removeDeviceOf audio.devType state.system.platform ≠ none := by
  rw [Ne, DeviceChanges.removeDeviceOf_eq_none, state.system.platform_list, emptied.1]
  intro listed
  have long := emptied.2
  cases devices : state.changes.saved.list audio.devType with
  | nil => simp [devices] at long
  | cons first rest =>
      rw [devices] at listed
      have missing := listed first.id (mem_ids List.mem_cons_self)
      simp [getAudioDevices, ids] at missing

theorem AutomaticKept.removed_iff {state : DeviceState} (kept : state.AutomaticKept)
    {next : DeviceChanges} {type : DevType} (known : type ≠ .devNone)
    (removed : DeviceChanges.RemovesOne type state.system.platform state.changes next) :
    AutomaticKept { state with changes := next } ↔
      ∀ audio : AudioType, audio.devType = type → ¬ state.Emptied audio := by
  constructor
  · intro after audio same
    subst same
    exact (removed.automaticFirst_iff (kept.first audio)).mp (after.first audio)
  · intro spared
    refine ⟨automaticFirst_of_type kept type ?_ ?_, ?_⟩
    · intro other different
      obtain ⟨_, _, _, _, _, _, rfl⟩ := removed
      simp [DeviceLists.list_withList _ _ known, different]
    · intro audio same
      have spares := spared audio same
      subst same
      exact (removed.automaticFirst_iff (kept.first audio)).mpr spares
    · obtain ⟨_, _, _, _, _, _, rfl⟩ := removed
      exact kept.renamed

theorem not_emptied {state : DeviceState} (audio : AudioType)
    (nothing : state.changes.removeDeviceOf audio.devType state.system.platform = none) :
    ¬ state.Emptied audio := fun emptied => emptied.removeDeviceOf_ne_none nothing

theorem AutomaticKept.removedPass_iff {state : DeviceState} (kept : state.AutomaticKept) :
    (state.perform .removedPass).AutomaticKept ↔ state.SparesAutomatic .removedPass := by
  cases found : state.changes.findAndSetRemovedDevice state.system.platform with
  | none =>
      have listed := DeviceChanges.findAndSetRemovedDevice_eq_none.mp found
      have nothing : ∀ audio : AudioType, ¬ state.Emptied audio := fun audio =>
        not_emptied audio (DeviceChanges.removeDeviceOf_eq_none.mpr (listed audio.devType))
      simp only [perform, found, Option.getD_none]
      exact iff_of_true kept ⟨nothing .capture, fun _ => nothing .playout⟩
  | some next =>
      obtain ⟨type, known, removed, captureKept, playoutKept⟩ :=
        DeviceChanges.findAndSetRemovedDevice_some found
      simp only [perform, found, Option.getD_some]
      rw [kept.removed_iff known removed]
      cases type with
      | devNone => exact absurd rfl known
      | audioIn =>
          constructor
          · intro spared
            exact ⟨spared .capture rfl,
              fun nothing => absurd nothing removed.removeDeviceOf_ne_none⟩
          · intro spared audio same
            cases audio with
            | capture => exact spared.1
            | playout => cases same
      | audioOut =>
          have nothing := captureKept (by decide)
          constructor
          · intro spared
            exact ⟨not_emptied .capture nothing, fun _ => spared .playout rfl⟩
          · intro spared audio same
            cases audio with
            | capture => cases same
            | playout => exact spared.2 nothing
      | video =>
          apply iff_of_true
          · intro audio same
            cases audio <;> cases same
          · exact ⟨not_emptied .capture (captureKept (by decide)),
              fun _ => not_emptied .playout (playoutKept rfl)⟩

theorem AutomaticKept.perform_iff {state : DeviceState} (kept : state.AutomaticKept)
    (step : DeviceStep) :
    (state.perform step).AutomaticKept ↔ state.SparesAutomatic step := by
  cases step with
  | systemChanges system => exact iff_of_true ⟨kept.first, kept.renamed⟩ trivial
  | addedPass => exact iff_of_true kept.addedPass trivial
  | removedPass => exact kept.removedPass_iff
  | relabel micName speakerName =>
      refine iff_of_true ⟨fun audio => ?_, ?_⟩ trivial
      · cases audio with
        | capture => exact automaticFirst_relabelFirst micName (kept.first .capture)
        | playout => exact automaticFirst_relabelFirst speakerName (kept.first .playout)
      · exact DeviceChanges.onlyAutomaticRenamed_relabel micName speakerName kept.renamed
          (kept.first .capture) (kept.first .playout)

theorem automaticEntry_first_iff (system : SystemDevices) (steps : List DeviceStep) :
    Throughout (total perform) AutomaticKept (start system) steps ↔
      Guarded (total perform) SparesAutomatic (start system) steps := by
  apply throughout_iff_guarded AutomaticKept
  · intro state kept
    exact kept
  · intro state step next kept spares taken
    cases taken
    exact (kept.perform_iff step).mpr spares
  · intro state step kept emptied
    exact ⟨_, rfl, mt (kept.perform_iff step).mp emptied⟩
  · exact automaticKept_start system

def oneMicrophone : SystemDevices :=
  ⟨⟨[⟨"Microphone", "mic", false⟩], [], []⟩, by decide⟩

def noDevices : SystemDevices := ⟨⟨[], [], []⟩, by decide⟩

theorem automaticEntry_lost :
    ¬ Throughout (total perform) AutomaticKept (start oneMicrophone)
      [.systemChanges noDevices, .removedPass] := by
  intro kept
  have first := ((kept.2 _ rfl).2 _ rfl).start.first .capture
  revert first
  decide

end DeviceState

end FiberApp.Devices
