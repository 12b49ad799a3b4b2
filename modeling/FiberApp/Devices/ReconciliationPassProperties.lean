import FiberApp.Foundation.Repetition
import FiberApp.Devices.ReconciliationProperties

/-! Repeating one kind of pass against fixed platform lists ends, and by then it has made
exactly the changes of its kind. -/

set_option autoImplicit false

namespace FiberApp.Devices

open Foundation

namespace DeviceChanges

/-- The report of a call about a device. -/
def report (type : DevType) (action : DevAction) (device : Device) : ChangeDevInfo :=
  ⟨type, action, device.id, device.name⟩

def reports (calls : List DeviceChanges) (type : DevType) : List ChangeDevInfo :=
  (calls.map (·.dev)).filter fun dev => decide (dev.devType = type)

/-- Behind the saved entries stand the platform's devices that were not saved, each id
once, and each of them has its own call. -/
structure AddsExactly (platform : DeviceLists) (start final : DeviceChanges)
    (calls : List DeviceChanges) (type : DevType) (added : List Device) : Prop where
  saved : final.saved.list type = start.saved.list type ++ added
  once : (ids added).Nodup
  listed : ∀ device ∈ added, device ∈ platform.list type
  fresh : ∀ device ∈ added, device.id ∉ ids (start.saved.list type)
  reported : reports calls type = added.map (report type .added)

/-- The saved entries that the platform still lists are left, and each of the others has
its own call. -/
structure RemovesExactly (platform : DeviceLists) (start final : DeviceChanges)
    (calls : List DeviceChanges) (type : DevType) : Prop where
  saved : final.saved.list type =
    (start.saved.list type).filter fun device => decide (device.id ∈ ids (platform.list type))
  reported : reports calls type =
    ((start.saved.list type).filter fun device =>
      !decide (device.id ∈ ids (platform.list type))).map (report type .removed)

theorem AddsOne.list {type : DevType} {platform : DeviceLists} {changes next : DeviceChanges}
    (known : type ≠ .devNone) (added : AddsOne type platform changes next) :
    ∃ device ∈ platform.list type, device.id ∉ ids (changes.saved.list type) ∧
      next.dev = report type .added device ∧
      ∀ other, next.saved.list other =
        if other = type then changes.saved.list type ++ [device]
        else changes.saved.list other := by
  obtain ⟨before, device, after, split, -, fresh, rfl⟩ := added
  exact ⟨device, by simp [split], fresh, rfl, changes.saved.list_withList _ known⟩

theorem addsExactly_of_repeats {platform : DeviceLists} {start final : DeviceChanges}
    {calls : List DeviceChanges}
    (repeats : Repeats (·.findAndSetAddedDevice platform) start calls final) (type : DevType) :
    ∃ added, AddsExactly platform start final calls type added := by
  induction repeats with
  | refused => exact ⟨[], by simp, List.nodup_nil, by simp, by simp, rfl⟩
  | @called state next calls final taken _ ih =>
      obtain ⟨found, known, addsOne⟩ := findAndSetAddedDevice_some taken
      obtain ⟨device, listed, fresh, dev, lists⟩ := addsOne.list known
      obtain ⟨added, saved, once, fromPlatform, notSaved, reported⟩ := ih
      by_cases same : type = found
      · subst same
        rw [lists, if_pos rfl] at saved notSaved
        have apart : device.id ∉ ids added := by
          intro again
          obtain ⟨other, member, sameId⟩ := List.mem_map.mp again
          exact notSaved other member (by simp [ids, sameId])
        refine ⟨device :: added, by simp [saved], List.nodup_cons.mpr ⟨apart, once⟩, ?_, ?_, ?_⟩
        · rintro other (_ | ⟨_, member⟩)
          · exact listed
          · exact fromPlatform other member
        · rintro other (_ | ⟨_, member⟩)
          · exact fresh
          · intro old
            exact notSaved other member (by simp [ids] at old ⊢; exact .inl old)
        · simp only [reports, List.map_cons, dev] at reported ⊢
          rw [List.filter_cons_of_pos (by simp [report]), reported]
      · rw [lists, if_neg same] at saved notSaved
        refine ⟨added, saved, once, fromPlatform, notSaved, ?_⟩
        simp only [reports, List.map_cons, dev] at reported ⊢
        rw [List.filter_cons_of_neg (by simp [report, Ne.symm same]), reported]

theorem RemovesOne.list {type : DevType} {platform : DeviceLists} {changes next : DeviceChanges}
    (known : type ≠ .devNone) (removed : RemovesOne type platform changes next) :
    ∃ before device after, changes.saved.list type = before ++ device :: after ∧
      (∀ other ∈ before, other.id ∈ ids (platform.list type)) ∧
      device.id ∉ ids (platform.list type) ∧
      next.dev = report type .removed device ∧
      ∀ other, next.saved.list other =
        if other = type then before ++ after else changes.saved.list other := by
  obtain ⟨before, device, after, split, listed, gone, rfl⟩ := removed
  exact ⟨before, device, after, split, listed, gone, rfl, changes.saved.list_withList _ known⟩

theorem removesExactly_of_repeats {platform : DeviceLists} {start final : DeviceChanges}
    {calls : List DeviceChanges}
    (repeats : Repeats (·.findAndSetRemovedDevice platform) start calls final)
    (type : DevType) : RemovesExactly platform start final calls type := by
  induction repeats with
  | @refused state refused =>
      have listed := findAndSetRemovedDevice_eq_none.mp refused type
      constructor
      · rw [List.filter_eq_self.mpr fun device member => ?_]
        simpa using listed device.id (mem_ids member)
      · rw [List.filter_eq_nil_iff.mpr fun device member => ?_]
        · rfl
        · simpa using listed device.id (mem_ids member)
  | @called state next calls final taken _ ih =>
      obtain ⟨found, known, removesOne, -, -⟩ := findAndSetRemovedDevice_some taken
      obtain ⟨before, device, after, split, listed, gone, dev, lists⟩ := removesOne.list known
      obtain ⟨saved, reported⟩ := ih
      by_cases same : type = found
      · subst same
        rw [lists, if_pos rfl] at saved reported
        rw [List.filter_append] at saved reported
        have none : before.filter (fun other =>
            !decide (other.id ∈ ids (platform.list type))) = [] :=
          List.filter_eq_nil_iff.mpr fun other member => by simpa using listed other member
        constructor
        · rw [saved, split, List.filter_append, List.filter_cons_of_neg (by simpa using gone)]
        · rw [split, List.filter_append, none, List.filter_cons_of_pos (by simpa using gone)]
          rw [none] at reported
          simp only [reports, List.map_cons, dev] at reported ⊢
          rw [List.filter_cons_of_pos (by simp [report]), reported]
          rfl
      · rw [lists, if_neg same] at saved reported
        refine ⟨saved, ?_⟩
        simp only [reports, List.map_cons, dev] at reported ⊢
        rw [List.filter_cons_of_neg (by simp [report, Ne.symm same]), reported]

/-- The platform's ids, each with its list, that are not saved yet. -/
def unsaved (platform : DeviceLists) (changes : DeviceChanges) : List (DevType × String) :=
  (allTypes.flatMap fun type => (ids (platform.list type)).map (type, ·)).filter fun wanted =>
    !decide (wanted.2 ∈ ids (changes.saved.list wanted.1))

theorem unsaved_lt {platform : DeviceLists} {changes next : DeviceChanges}
    (taken : changes.findAndSetAddedDevice platform = some next) :
    (next.unsaved platform).length < (changes.unsaved platform).length := by
  obtain ⟨type, known, addsOne⟩ := findAndSetAddedDevice_some taken
  obtain ⟨device, listed, fresh, -, lists⟩ := addsOne.list known
  have kept : next.unsaved platform = (changes.unsaved platform).filter fun wanted =>
      !decide (wanted.2 ∈ ids (next.saved.list wanted.1)) := by
    rw [unsaved, unsaved, List.filter_filter]
    refine List.filter_congr fun wanted _ => ?_
    rw [lists]
    by_cases same : wanted.1 = type
    · rw [if_pos same, same]
      by_cases old : wanted.2 ∈ ids (changes.saved.list type)
      · have grown : wanted.2 ∈ ids (changes.saved.list type ++ [device]) := by
          rw [ids, List.map_append]
          exact List.mem_append_left _ old
        simp [old, grown]
      · simp [old]
    · rw [if_neg same, Bool.and_self]
  rw [kept, List.length_filter_lt_length_iff_exists]
  refine ⟨(type, device.id), ?_, ?_⟩
  · simp only [unsaved, List.mem_filter, List.mem_flatMap, List.mem_map]
    exact ⟨⟨type, mem_allTypes type, device.id, mem_ids listed, rfl⟩, by simpa using fresh⟩
  · simp [lists, ids]

def savedCount (changes : DeviceChanges) : Nat :=
  changes.saved.audioCapture.length + changes.saved.audioPlayout.length +
    changes.saved.videoCapture.length

theorem savedCount_lt {platform : DeviceLists} {changes next : DeviceChanges}
    (taken : changes.findAndSetRemovedDevice platform = some next) :
    next.savedCount < changes.savedCount := by
  obtain ⟨type, known, ⟨before, device, after, split, -, -, rfl⟩, -, -⟩ :=
    findAndSetRemovedDevice_some taken
  have length := congrArg List.length split
  rw [List.length_append, List.length_cons] at length
  cases type with
  | devNone => exact absurd rfl known
  | audioIn | audioOut | video =>
      simp only [DeviceLists.list] at length
      simp only [savedCount, DeviceLists.withList, List.length_append]
      omega

theorem named_of_reports {calls : List DeviceChanges} (none : reports calls .devNone = []) :
    ∀ call ∈ calls, call.dev.devType ≠ .devNone := by
  intro call member unnamed
  have absent := List.filter_eq_nil_iff.mp none call.dev (List.mem_map_of_mem member)
  exact absent (by simpa using unnamed)

/-- Against fixed platform lists, repeating either pass ends. The added passes append
exactly the devices whose ids were not saved, the removed passes take out exactly the
entries that are not listed any more, and every change is reported in one call. -/
theorem repeated_passes_exact (platform : DeviceLists) (start : DeviceChanges) :
    (∃ calls final, Repeats (·.findAndSetAddedDevice platform) start calls final ∧
      (∀ call ∈ calls, call.dev.devType ≠ .devNone) ∧
      ∀ type, ∃ added, AddsExactly platform start final calls type added ∧
        ∀ id ∈ ids (platform.list type), id ∉ ids (start.saved.list type) → id ∈ ids added) ∧
    ∃ calls final, Repeats (·.findAndSetRemovedDevice platform) start calls final ∧
      (∀ call ∈ calls, call.dev.devType ≠ .devNone) ∧
      ∀ type, RemovesExactly platform start final calls type := by
  constructor
  · obtain ⟨calls, final, repeats⟩ :
        ∃ calls final, Repeats (·.findAndSetAddedDevice platform) start calls final :=
      exists_repeats (fun changes => (changes.unsaved platform).length)
        (fun _ _ taken => unsaved_lt taken) start
    have added := addsExactly_of_repeats repeats
    refine ⟨calls, final, repeats, named_of_reports ?_, fun type => ?_⟩
    · obtain ⟨devices, exactly⟩ := added .devNone
      have none : devices = [] :=
        List.eq_nil_iff_forall_not_mem.mpr fun device member => by
          cases exactly.listed device member
      rw [exactly.reported, none, List.map_nil]
    · obtain ⟨devices, exactly⟩ := added type
      refine ⟨devices, exactly, fun id wanted missing => ?_⟩
      have saved := findAndSetAddedDevice_eq_none.mp repeats.refuses type id wanted
      rw [exactly.saved, ids, List.map_append, List.mem_append] at saved
      exact saved.resolve_left missing
  · obtain ⟨calls, final, repeats⟩ :
        ∃ calls final, Repeats (·.findAndSetRemovedDevice platform) start calls final :=
      exists_repeats savedCount (fun _ _ taken => savedCount_lt taken) start
    have removed := removesExactly_of_repeats repeats
    exact ⟨calls, final, repeats, named_of_reports (removed .devNone).reported, removed⟩

end DeviceChanges

end FiberApp.Devices
