import FiberApp.Devices.DeviceChanges

/-! What one pass over the device lists can do. -/

set_option autoImplicit false

namespace FiberApp.Devices

def ids (devices : List Device) : List String := devices.map (·.id)

theorem mem_ids {device : Device} {devices : List Device} (member : device ∈ devices) :
    device.id ∈ ids devices := List.mem_map_of_mem member

theorem forall_mem_ids {devices : List Device} {holds : String → Prop} :
    (∀ id ∈ ids devices, holds id) ↔ ∀ device ∈ devices, holds device.id :=
  List.forall_mem_map

namespace DeviceLists

@[simp] theorem list_devNone (lists : DeviceLists) : lists.list .devNone = [] := rfl

theorem list_withList (lists : DeviceLists) (devices : List Device) {type : DevType}
    (known : type ≠ .devNone) (other : DevType) :
    (lists.withList devices type).list other =
      if other = type then devices else lists.list other := by
  cases type with
  | devNone => exact absurd rfl known
  | audioIn => cases other <;> rfl
  | audioOut => cases other <;> rfl
  | video => cases other <;> rfl

end DeviceLists

namespace DeviceChanges

theorem isNew_iff {saved : List Device} {device : Device} :
    isNew saved device = true ↔ device.id ∉ ids saved := by
  simp only [isNew, isDeviceSame, ids, Bool.not_eq_true', List.any_eq_false, List.mem_map,
    not_exists, not_and, beq_iff_eq]

theorem isGone_iff {platform : List Device} {device : Device} :
    isGone platform device = true ↔ device.id ∉ ids platform := by
  simp only [isGone, isDeviceSame, ids, Bool.not_eq_true', List.any_eq_false, List.mem_map,
    not_exists, not_and, beq_iff_eq]
  exact forall₂_congr fun _ _ => not_congr eq_comm

def AddsOne (type : DevType) (platform : DeviceLists) (changes next : DeviceChanges) : Prop :=
  ∃ before device after, platform.list type = before ++ device :: after ∧
    (∀ other ∈ before, other.id ∈ ids (changes.saved.list type)) ∧
    device.id ∉ ids (changes.saved.list type) ∧
    next = { changes with
      dev := ⟨type, .added, device.id, device.name⟩
      saved := changes.saved.withList (changes.saved.list type ++ [device]) type }

def RemovesOne (type : DevType) (platform : DeviceLists) (changes next : DeviceChanges) :
    Prop :=
  ∃ before device after, changes.saved.list type = before ++ device :: after ∧
    (∀ other ∈ before, other.id ∈ ids (platform.list type)) ∧
    device.id ∉ ids (platform.list type) ∧
    next = { changes with
      dev := ⟨type, .removed, device.id, device.name⟩
      saved := changes.saved.withList (before ++ after) type }

/-- The lists of a kind without devices are empty. -/
theorem forall_ids_iff {left right : DeviceLists} :
    (∀ type, ∀ id ∈ ids (left.list type), id ∈ ids (right.list type)) ↔
      (∀ id ∈ ids (left.list .audioIn), id ∈ ids (right.list .audioIn)) ∧
      (∀ id ∈ ids (left.list .audioOut), id ∈ ids (right.list .audioOut)) ∧
      ∀ id ∈ ids (left.list .video), id ∈ ids (right.list .video) := by
  constructor
  · intro included
    exact ⟨included .audioIn, included .audioOut, included .video⟩
  · intro included type
    obtain ⟨capture, playout, video⟩ := included
    cases type with
    | devNone => simp [ids]
    | audioIn => exact capture
    | audioOut => exact playout
    | video => exact video

theorem addDeviceOf_eq_none {type : DevType} {platform : DeviceLists} {changes : DeviceChanges} :
    changes.addDeviceOf type platform = none ↔
      ∀ id ∈ ids (platform.list type), id ∈ ids (changes.saved.list type) := by
  have nothing : changes.addDeviceOf type platform = none ↔
      (platform.list type).find? (isNew (changes.saved.list type)) = none := by
    cases found : (platform.list type).find? (isNew (changes.saved.list type)) <;>
      simp [addDeviceOf, found]
  rw [nothing, List.find?_eq_none, forall_mem_ids]
  simp only [isNew_iff, not_not]

theorem addDeviceOf_some {type : DevType} {platform : DeviceLists}
    {changes next : DeviceChanges} (added : changes.addDeviceOf type platform = some next) :
    AddsOne type platform changes next := by
  unfold addDeviceOf at added
  cases found : (platform.list type).find? (isNew (changes.saved.list type)) with
  | none => simp [found] at added
  | some device =>
      simp only [found, Option.some.injEq] at added
      obtain ⟨new, before, after, split, kept⟩ := List.find?_eq_some_iff_append.mp found
      refine ⟨before, device, after, split, fun other member => ?_, isNew_iff.mp new, added.symm⟩
      by_contra missing
      have passed := kept other member
      rw [isNew_iff.mpr missing] at passed
      cases passed

theorem removeDeviceOf_eq_none {type : DevType} {platform : DeviceLists}
    {changes : DeviceChanges} :
    changes.removeDeviceOf type platform = none ↔
      ∀ id ∈ ids (changes.saved.list type), id ∈ ids (platform.list type) := by
  have nothing : changes.removeDeviceOf type platform = none ↔
      (changes.saved.list type).find? (isGone (platform.list type)) = none := by
    cases found : (changes.saved.list type).find? (isGone (platform.list type)) <;>
      simp [removeDeviceOf, found]
  rw [nothing, List.find?_eq_none, forall_mem_ids]
  simp only [isGone_iff, not_not]

theorem removeDeviceOf_some {type : DevType} {platform : DeviceLists}
    {changes next : DeviceChanges} (removed : changes.removeDeviceOf type platform = some next) :
    RemovesOne type platform changes next := by
  unfold removeDeviceOf at removed
  cases found : (changes.saved.list type).find? (isGone (platform.list type)) with
  | none => simp [found] at removed
  | some device =>
      simp only [found, Option.some.injEq] at removed
      obtain ⟨gone, before, after, split, kept⟩ := List.find?_eq_some_iff_append.mp found
      have listed : ∀ other ∈ before, other.id ∈ ids (platform.list type) := by
        intro other member
        by_contra missing
        have passed := kept other member
        rw [isGone_iff.mpr missing] at passed
        cases passed
      refine ⟨before, device, after, split, listed, isGone_iff.mp gone, ?_⟩
      rw [← removed, split, List.eraseP_append_right _ (fun other member => ?_),
        List.eraseP_cons_of_pos gone]
      rw [isGone_iff, not_not]
      exact listed other member

theorem findAndSetAddedDevice_eq_none {platform : DeviceLists} {changes : DeviceChanges} :
    changes.findAndSetAddedDevice platform = none ↔
      ∀ type, ∀ id ∈ ids (platform.list type), id ∈ ids (changes.saved.list type) := by
  simp only [findAndSetAddedDevice, Option.orElse_eq_orElse, Option.orElse_eq_or,
    Option.or_eq_none_iff, addDeviceOf_eq_none, forall_ids_iff]

theorem findAndSetRemovedDevice_eq_none {platform : DeviceLists} {changes : DeviceChanges} :
    changes.findAndSetRemovedDevice platform = none ↔
      ∀ type, ∀ id ∈ ids (changes.saved.list type), id ∈ ids (platform.list type) := by
  simp only [findAndSetRemovedDevice, Option.orElse_eq_orElse, Option.orElse_eq_or,
    Option.or_eq_none_iff, removeDeviceOf_eq_none, forall_ids_iff]

theorem findAndSetAddedDevice_some {platform : DeviceLists} {changes next : DeviceChanges}
    (added : changes.findAndSetAddedDevice platform = some next) :
    ∃ type, type ≠ .devNone ∧ AddsOne type platform changes next := by
  simp only [findAndSetAddedDevice, Option.orElse_eq_orElse, Option.orElse_eq_or,
    Option.or_eq_some_iff] at added
  rcases added with capture | ⟨_, playout | ⟨_, video⟩⟩
  · exact ⟨.audioIn, by decide, addDeviceOf_some capture⟩
  · exact ⟨.audioOut, by decide, addDeviceOf_some playout⟩
  · exact ⟨.video, by decide, addDeviceOf_some video⟩

/-- A removed pass that returns true has removed one device, from the first list
that has one to remove. -/
theorem findAndSetRemovedDevice_some {platform : DeviceLists} {changes next : DeviceChanges}
    (removed : changes.findAndSetRemovedDevice platform = some next) :
    ∃ type, type ≠ .devNone ∧ RemovesOne type platform changes next ∧
      (type ≠ .audioIn → changes.removeDeviceOf .audioIn platform = none) ∧
      (type = .video → changes.removeDeviceOf .audioOut platform = none) := by
  simp only [findAndSetRemovedDevice, Option.orElse_eq_orElse, Option.orElse_eq_or,
    Option.or_eq_some_iff] at removed
  rcases removed with capture | ⟨kept, playout | ⟨keptToo, video⟩⟩
  · exact ⟨.audioIn, by decide, removeDeviceOf_some capture, by simp, by simp⟩
  · exact ⟨.audioOut, by decide, removeDeviceOf_some playout, fun _ => kept, by simp⟩
  · exact ⟨.video, by decide, removeDeviceOf_some video, fun _ => kept, fun _ => keptToo⟩

theorem RemovesOne.removeDeviceOf_ne_none {type : DevType} {platform : DeviceLists}
    {changes next : DeviceChanges} (removed : RemovesOne type platform changes next) :
    changes.removeDeviceOf type platform ≠ none := by
  obtain ⟨before, device, after, split, _, gone, _⟩ := removed
  rw [Ne, removeDeviceOf_eq_none]
  intro listed
  apply gone
  apply listed
  rw [split]
  exact mem_ids (by simp)

end DeviceChanges

end FiberApp.Devices
