import FiberApp.Foundation.Execution
import FiberApp.Audio.MicLevelRestore

/-! A stop writes the last level that was read, whether or not an earlier stop did so
already. The level belongs to the session that ends exactly while one is open. -/

set_option autoImplicit false

namespace FiberApp.Audio

open Foundation

namespace MicEvent

def isRead : MicEvent → Bool
  | .read _ => true
  | _ => false

/-- The level read by the capture session that is open after these events. -/
def openReading : List MicEvent → Option UInt8
  | [] => none
  | .read level :: _ => some level
  | .set _ :: older => openReading older
  | .restored _ :: _ => none
  | .stopped :: _ => none

/-- Whatever was written back was the level of the session open at that moment. -/
def RestoresOwn : List MicEvent → Prop
  | [] => True
  | .restored level :: older =>
      (openReading older).map UInt8.toUInt32 = some level ∧ RestoresOwn older
  | _ :: older => RestoresOwn older

theorem RestoresOwn.older {event : MicEvent} {events : List MicEvent}
    (own : RestoresOwn (event :: events)) : RestoresOwn events := by
  cases event with
  | read level => exact own
  | set level => exact own
  | restored level => exact own.2
  | stopped => exact own

theorem openReading_after_stop {newer older : List MicEvent}
    (noReading : ∀ event ∈ newer, event.isRead = false) :
    openReading (newer ++ .stopped :: older) = none := by
  induction newer with
  | nil => rfl
  | cons event newer ih =>
      obtain ⟨first, others⟩ := List.forall_mem_cons.mp noReading
      cases event with
      | read level => cases first
      | set level => exact ih others
      | restored level => rfl
      | stopped => rfl

/-- Between a stop and the next reading nothing is written back. -/
theorem RestoresOwn.after_stop {newer older : List MicEvent}
    (own : RestoresOwn (newer ++ .stopped :: older))
    (noReading : ∀ event ∈ newer, event.isRead = false) (level : UInt32) :
    .restored level ∉ newer := by
  induction newer with
  | nil => exact List.not_mem_nil
  | cons event newer ih =>
      obtain ⟨first, others⟩ := List.forall_mem_cons.mp noReading
      intro member
      rcases List.mem_cons.mp member with rfl | member
      · have written : (openReading (newer ++ .stopped :: older)).map UInt8.toUInt32 = some level :=
          own.1
        rw [openReading_after_stop others] at written
        cases written
      · exact ih own.older others member

end MicEvent

open MicEvent

namespace MicStream

structure Law (stream : MicStream) : Prop where
  own : RestoresOwn stream.events
  userLevel : ∀ newer older, stream.events = newer ++ .stopped :: older →
    (∀ event ∈ newer, event.isRead = false) → ∀ level, .restored level ∉ newer

def SessionOpen (stream : MicStream) : Prop := openReading stream.events ≠ none

def NeverRead (stream : MicStream) : Prop := ∀ event ∈ stream.events, event.isRead = false

/-- What ends a session finds one that is open, or no level was ever read. -/
def EndsSession (stream : MicStream) (operation : MicOperation) : Prop :=
  stream.destroyed = false →
    match operation with
    | .start _ | .setMicVolume _ => True
    | .fastChangeDevices _ _ | .stop | .destroy => SessionOpen stream ∨ NeverRead stream

/-- The saved level is the newest reading. -/
structure Saved (stream : MicStream) : Prop where
  uninitialized : stream.originalMicLevel = uninitializedLevel ↔ NeverRead stream
  level : ∀ level, openReading stream.events = some level →
    stream.originalMicLevel = level.toUInt32
  own : RestoresOwn stream.events

theorem law_iff {stream : MicStream} : Law stream ↔ RestoresOwn stream.events := by
  refine ⟨Law.own, fun own => ⟨own, ?_⟩⟩
  intro newer older split noReading level
  exact RestoresOwn.after_stop (split ▸ own) noReading level

theorem toUInt32_ne_uninitialized (level : UInt8) : level.toUInt32 ≠ uninitializedLevel := by
  intro same
  have numbers := congrArg UInt32.toNat same
  have bound := level.toNat_lt
  rw [UInt8.toNat_toUInt32] at numbers
  simp only [uninitializedLevel, UInt32.reduceToNat] at numbers
  omega

theorem saved_create (capture : Bool) : Saved (create capture) where
  uninitialized := by simp [create, NeverRead]
  level := by simp [create, openReading]
  own := trivial

theorem Saved.start {stream : MicStream} (saved : Saved stream) (replies : StartReplies) :
    Saved (stream.start replies) := by
  rw [MicStream.start]
  split
  · split
    · rename_i level _
      constructor
      · simp [NeverRead, isRead, toUInt32_ne_uninitialized]
      · rintro other ⟨⟩
        rfl
      · exact saved.own
    · exact saved
  · exact saved

theorem Saved.setMicVolume {stream : MicStream} (saved : Saved stream) (level : UInt32) :
    Saved (stream.setMicVolume level) where
  uninitialized := by
    simpa [MicStream.setMicVolume, NeverRead, isRead] using saved.uninitialized
  level := saved.level
  own := saved.own

theorem restoresOwn_stop_iff {stream : MicStream} (saved : Saved stream) :
    RestoresOwn stream.stop.events ↔ SessionOpen stream ∨ NeverRead stream := by
  rw [MicStream.stop]
  by_cases unset : stream.originalMicLevel = uninitializedLevel
  · rw [if_neg (not_not.mpr unset)]
    exact ⟨fun _ => .inr (saved.uninitialized.mp unset), fun _ => saved.own⟩
  · rw [if_pos unset]
    constructor
    · intro own
      refine .inl fun closed => ?_
      have written := own.1
      rw [closed] at written
      cases written
    · rintro (session | never)
      · obtain ⟨level, reading⟩ := Option.ne_none_iff_exists'.mp session
        refine ⟨?_, saved.own⟩
        rw [reading, saved.level level reading]
        rfl
      · exact absurd (saved.uninitialized.mpr never) unset

theorem Saved.stop {stream : MicStream} (saved : Saved stream)
    (ends : SessionOpen stream ∨ NeverRead stream) : Saved stream.stop where
  uninitialized := by
    have same : NeverRead stream.stop ↔ NeverRead stream := by
      rw [MicStream.stop]
      split <;> simp [NeverRead, isRead]
    rw [same, ← saved.uninitialized]
    rfl
  level := by simp [MicStream.stop, openReading]
  own := (restoresOwn_stop_iff saved).mpr ends

theorem restoresOwn_start_iff (stream : MicStream) (replies : StartReplies) :
    RestoresOwn (stream.start replies).events ↔ RestoresOwn stream.events := by
  rw [MicStream.start]
  split
  · split <;> rfl
  · rfl

theorem saved_of_endsSession {stream : MicStream} {operation : MicOperation}
    {next : MicStream} (saved : Saved stream) (ends : EndsSession stream operation)
    (taken : stream.step operation = some next) : Saved next := by
  simp only [step, Option.ite_none_left_eq_some, Option.some.injEq] at taken
  obtain ⟨alive, rfl⟩ := taken
  have ends := ends (by simpa using alive)
  cases operation with
  | start replies => exact saved.start replies
  | setMicVolume level => exact saved.setMicVolume level
  | fastChangeDevices capture replies =>
      obtain ⟨uninitialized, level, own⟩ := saved.stop ends
      have stopped : Saved { stream.stop with capture := capture } := ⟨uninitialized, level, own⟩
      exact stopped.start replies
  | stop => exact saved.stop ends
  | destroy =>
      obtain ⟨uninitialized, level, own⟩ := saved.stop ends
      exact ⟨uninitialized, level, own⟩

theorem lost_of_not_endsSession {stream : MicStream} {operation : MicOperation}
    (saved : Saved stream) (outside : ¬ EndsSession stream operation) :
    ∃ next, stream.step operation = some next ∧ ¬ Law next := by
  simp only [EndsSession, Classical.not_imp] at outside
  obtain ⟨alive, outside⟩ := outside
  refine ⟨stream.perform operation, by simp [step, alive], ?_⟩
  rw [law_iff]
  cases operation with
  | start replies => exact absurd trivial outside
  | setMicVolume level => exact absurd trivial outside
  | fastChangeDevices capture replies =>
      rw [perform, fastChangeDevices, restoresOwn_start_iff]
      exact mt (restoresOwn_stop_iff saved).mp outside
  | stop => exact mt (restoresOwn_stop_iff saved).mp outside
  | destroy => exact mt (restoresOwn_stop_iff saved).mp outside

/-- The law holds throughout a run exactly if every stop, device change and destroy in it
ends a session, or comes before any reading. -/
theorem micLevel_restored_iff (capture : Bool) (operations : List MicOperation) :
    Throughout step Law (create capture) operations ↔
      Guarded step EndsSession (create capture) operations :=
  throughout_iff_guarded Saved (fun _ saved => law_iff.mpr saved.own)
    (fun _ _ _ saved ends taken => saved_of_endsSession saved ends taken)
    (fun _ _ saved outside => lost_of_not_endsSession saved outside) (saved_create capture)

/-- The level set by the user after the stop is overwritten by the destroy. -/
theorem micLevel_restored_twice :
    ¬ ∀ (capture : Bool) (operations : List MicOperation),
      Throughout step Law (create capture) operations := by
  intro law
  have held := (law true [.start ⟨true, some 100⟩, .stop, .setMicVolume 200, .destroy]).reached rfl
  exact absurd held.own.1 (by decide)

end MicStream

end FiberApp.Audio
