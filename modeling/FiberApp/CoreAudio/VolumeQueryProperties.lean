import FiberApp.CoreAudio.AudioDeviceListenerProperties
import FiberApp.CoreAudio.VolumeQuery
import FiberApp.CoreAudio.VolumeStatsProperties

/-! What a volume query reports. Its result is that of the microphone's part alone, so
a failed read of the speaker is passed over when the microphone is read. -/

set_option autoImplicit false

namespace FiberApp.CoreAudio

def VolumeReads.allRead (reads : VolumeReads) : Bool :=
  reads.getSimpleAudioVolume && reads.sessionVolume && reads.sessionMute &&
    reads.systemVolume && reads.systemMute && reads.micVolume && reads.micMute

/-- A query reports success exactly if all of its reads succeed, and then each field has
the value it read. -/
structure Fresh (current : VolumeStats) (reads : VolumeReads) (answer : VolumeStats × Bool) :
    Prop where
  reported : answer.2 = true ↔ reads.allRead = true
  fields : answer.2 = true → ∀ group, answer.1.get group = current.get group

/-- No failed read of the speaker comes with a microphone that is read. -/
def VolumeReads.NothingMasked (reads : VolumeReads) : Prop :=
  (reads.micVolume && reads.micMute) = true →
    (reads.getSimpleAudioVolume && reads.sessionVolume && reads.sessionMute) = true ∧
      (reads.systemVolume && reads.systemMute) = true

instance (reads : VolumeReads) : Decidable reads.NothingMasked :=
  inferInstanceAs (Decidable (_ → _ ∧ _))

theorem VolumeReads.allRead_iff (reads : VolumeReads) :
    reads.allRead = true ↔ ∀ group, reads.complete group = true := by
  rw [forall_group]
  simp only [allRead, complete, volumeRead, Bool.and_eq_true]
  tauto

theorem VolumeReads.nothingMasked_iff (reads : VolumeReads) :
    reads.NothingMasked ↔ (reads.complete .mic = true → reads.allRead = true) := by
  simp only [NothingMasked, allRead, complete, volumeRead, Bool.and_eq_true]
  tauto

namespace VolumeListener

open VolumeSystem

theorem getCurrentVolStats_fields (listener : VolumeListener) (current : VolumeStats)
    (reads : VolumeReads) (group : VolumeGroup) (read : reads.complete group = true) :
    (listener.getCurrentVolStats current reads).2.1.get group = current.get group := by
  obtain ⟨-, merged, -, answer⟩ := listener.getCurrentVolStats_spec current reads
  rw [answer, merged, if_pos read]
  have volume : reads.volumeRead group = true := by
    cases group <;> exact (Bool.and_eq_true_iff.mp read).1
  unfold seen
  rw [if_pos volume, if_pos read]

theorem getCurrentVolStats_succeeded (listener : VolumeListener) (current : VolumeStats)
    (reads : VolumeReads) :
    (listener.getCurrentVolStats current reads).2.2 = reads.complete .mic := by
  rw [(listener.getCurrentVolStats_spec current reads).2.2.2]

theorem getCurrentVolStats_fresh (listener : VolumeListener) (current : VolumeStats)
    (reads : VolumeReads) :
    Fresh current reads (listener.getCurrentVolStats current reads).2 ↔
      reads.NothingMasked := by
  rw [VolumeReads.nothingMasked_iff]
  constructor
  · intro fresh read
    rw [← getCurrentVolStats_succeeded listener current] at read
    exact fresh.reported.mp read
  · intro nothingMasked
    have succeeded := getCurrentVolStats_succeeded listener current reads
    refine ⟨?_, ?_⟩
    · rw [succeeded]
      exact ⟨nothingMasked, fun all => reads.allRead_iff.mp all .mic⟩
    · intro success group
      rw [succeeded] at success
      exact listener.getCurrentVolStats_fields current reads group
        (reads.allRead_iff.mp (nothingMasked success) group)

/-- An answer in time is the query's own, but for the stats of one that failed. -/
theorem postGetCurrentVolStats_ready (listener : VolumeListener) (current : VolumeStats)
    (reads : VolumeReads) (volStats : VolumeStats) :
    (listener.postGetCurrentVolStats true current reads volStats).2 =
      if (listener.getCurrentVolStats current reads).2.2 = true then
        (listener.getCurrentVolStats current reads).2
      else (volStats, false) := by
  unfold postGetCurrentVolStats handleGetVolumeStats
  generalize listener.getCurrentVolStats current reads = query
  obtain ⟨after, stats, result⟩ := query
  cases result with
  | false => rfl
  | true => rfl

theorem fresh_congr {current : VolumeStats} {reads : VolumeReads} {left right : VolumeStats × Bool}
    (succeeded : left.2 = right.2) (stats : right.2 = true → left.1 = right.1) :
    Fresh current reads left ↔ Fresh current reads right := by
  constructor
  · intro fresh
    refine ⟨succeeded ▸ fresh.reported, fun success => ?_⟩
    rw [← stats success]
    exact fresh.fields (succeeded.trans success)
  · intro fresh
    refine ⟨succeeded ▸ fresh.reported, fun success => ?_⟩
    rw [stats (succeeded.symm.trans success)]
    exact fresh.fields (succeeded.symm.trans success)

/-- Whatever the listener is attached to, a query and a posted query that is answered in
time are right about their success and their values exactly if no failed speaker read
comes with a microphone that is read. A posted query without an answer fails. -/
theorem queryStats_fresh_iff (attached : AudioDeviceListener) (listener : VolumeListener)
    (current volStats : VolumeStats) (reads : VolumeReads) :
    (Fresh current (reads.through attached)
        (listener.getCurrentVolStats current (reads.through attached)).2 ↔
      (reads.through attached).NothingMasked) ∧
    (Fresh current (reads.through attached)
        (listener.postGetCurrentVolStats true current (reads.through attached) volStats).2 ↔
      (reads.through attached).NothingMasked) ∧
    (listener.postGetCurrentVolStats false current (reads.through attached) volStats).2 =
      (volStats, false) := by
  have query := listener.getCurrentVolStats_fresh current (reads.through attached)
  refine ⟨query, ?_, rfl⟩
  rw [← query, postGetCurrentVolStats_ready]
  apply fresh_congr
  · split_ifs with succeeded
    · rfl
    · exact (Bool.eq_false_iff.mpr succeeded).symm
  · intro succeeded
    rw [if_pos succeeded]

/-- The listener after a successful attach, while the speaker's master volume cannot be
read and the microphone can. -/
theorem queryStats_masked :
    ¬ ∀ (attached : AudioDeviceListener) (listener : VolumeListener) (current : VolumeStats)
        (reads : VolumeReads),
      Fresh current (reads.through attached)
        (listener.getCurrentVolStats current (reads.through attached)).2 := by
  intro fresh
  have reported := (fresh (AudioDeviceListener.initial.attachWatcher
    AudioDeviceListener.workingCalls "" "").1 ⟨quiet, quiet, quiet, []⟩
    { quiet with system := ⟨0, true⟩ } { allReads with systemVolume := false }).reported
  revert reported
  decide

end VolumeListener

end FiberApp.CoreAudio
