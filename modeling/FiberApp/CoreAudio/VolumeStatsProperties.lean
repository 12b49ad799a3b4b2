import FiberApp.Foundation.Execution
import FiberApp.CoreAudio.VolumeStats

/-! The stats the application last received, over runs of volume changes, their
notifications, queries and dispatched messages. -/

set_option autoImplicit false

namespace FiberApp.CoreAudio

open Foundation

theorem forall_group {P : VolumeGroup → Prop} :
    (∀ group, P group) ↔ P .session ∧ P .system ∧ P .mic := by
  constructor
  · intro all
    exact ⟨all .session, all .system, all .mic⟩
  · intro all group
    cases group with
    | session => exact all.1
    | system => exact all.2.1
    | mic => exact all.2.2

theorem exists_group {P : VolumeGroup → Prop} :
    (∃ group, P group) ↔ P .session ∨ P .system ∨ P .mic := by
  constructor
  · intro found
    obtain ⟨group, holds⟩ := found
    cases group with
    | session => exact .inl holds
    | system => exact .inr (.inl holds)
    | mic => exact .inr (.inr holds)
  · intro found
    rcases found with session | system | mic
    · exact ⟨_, session⟩
    · exact ⟨_, system⟩
    · exact ⟨_, mic⟩

instance (P : VolumeGroup → Prop) [DecidablePred P] : Decidable (∀ group, P group) :=
  decidable_of_iff _ forall_group.symm

instance (P : VolumeGroup → Prop) [DecidablePred P] : Decidable (∃ group, P group) :=
  decidable_of_iff _ exists_group.symm

namespace ByGroup

variable {α : Type}

theorem get_set (values : ByGroup α) (value : α) (group other : VolumeGroup) :
    (values.set value group).get other = if other = group then value else values.get other := by
  cases group <;> cases other <;> rfl

theorem ext_get {left right : ByGroup α} (same : ∀ group, left.get group = right.get group) :
    left = right := by
  obtain ⟨session, system, mic⟩ := left
  have first : session = right.session := same .session
  have second : system = right.system := same .system
  have third : mic = right.mic := same .mic
  rw [first, second, third]

end ByGroup

namespace VolumeListener

def cached (listener : VolumeListener) : VolumeStats :=
  ⟨listener.speakerStats.session, listener.speakerStats.system, listener.micStats.mic⟩

def onNotify (group : VolumeGroup) (level : Level) (listener : VolumeListener) :
    VolumeListener :=
  match group with
  | .session => listener.onSimpleVolumeChanged level
  | .system => listener.onNotifySpeaker level
  | .mic => listener.onNotifyMic level

theorem onNotify_cases (group : VolumeGroup) (level : Level) (listener : VolumeListener) :
    levelChanged (listener.cached.get group) level = false ∧
        listener.onNotify group level = listener ∨
      levelChanged (listener.cached.get group) level = true ∧
        (listener.onNotify group level).cached = listener.cached.set level group ∧
        (listener.onNotify group level).volStat = listener.volStat.set level group ∧
        (listener.onNotify group level).dispatched =
          listener.dispatched ++ [listener.volStat.set level group] := by
  cases changed : levelChanged (listener.cached.get group) level with
  | false =>
      refine .inl ⟨rfl, ?_⟩
      cases group with
      | session => exact if_neg (Bool.eq_false_iff.mp changed)
      | system => exact if_neg (Bool.eq_false_iff.mp changed)
      | mic => exact if_neg (Bool.eq_false_iff.mp changed)
  | true =>
      refine .inr ⟨rfl, ?_⟩
      cases group with
      | session =>
          change levelChanged listener.speakerStats.session level = true at changed
          simp only [onNotify, onSimpleVolumeChanged]
          rw [if_pos changed]
          exact ⟨rfl, rfl, rfl⟩
      | system =>
          change levelChanged listener.speakerStats.system level = true at changed
          simp only [onNotify, onNotifySpeaker]
          rw [if_pos changed]
          exact ⟨rfl, rfl, rfl⟩
      | mic =>
          change levelChanged listener.micStats.mic level = true at changed
          simp only [onNotify, onNotifyMic]
          rw [if_pos changed]
          exact ⟨rfl, rfl, rfl⟩

end VolumeListener

def VolumeReads.volumeRead (reads : VolumeReads) : VolumeGroup → Bool
  | .session => reads.getSimpleAudioVolume && reads.sessionVolume
  | .system => reads.getSimpleAudioVolume && reads.sessionVolume && reads.sessionMute &&
      reads.systemVolume
  | .mic => reads.micVolume

def VolumeReads.complete (reads : VolumeReads) : VolumeGroup → Bool
  | .session => reads.volumeRead .session && reads.sessionMute
  | .system => reads.volumeRead .system && reads.systemMute
  | .mic => reads.volumeRead .mic && reads.micMute

namespace VolumeListener

def seen (listener : VolumeListener) (current : VolumeStats) (reads : VolumeReads)
    (group : VolumeGroup) : Level where
  volume :=
    if reads.volumeRead group then (current.get group).volume
    else (listener.cached.get group).volume
  muteState :=
    if reads.complete group then (current.get group).muteState
    else (listener.cached.get group).muteState

/-- The speaker's part of a query stops at the first call that fails. -/
theorem getSpeakerVolStats_spec (listener : VolumeListener) (current : VolumeStats)
    (reads : VolumeReads) :
    (listener.getSpeakerVolStats current reads).1 =
      { listener with
        speakerStats :=
          ⟨listener.seen current reads .session, listener.seen current reads .system,
            listener.speakerStats.mic⟩
        volStat :=
          ⟨if reads.complete .session then listener.seen current reads .session
            else listener.volStat.session,
            if reads.complete .system then listener.seen current reads .system
            else listener.volStat.system, listener.volStat.mic⟩ } := by
  obtain ⟨simple, sessionVolume, sessionMute, systemVolume, systemMute, _, _⟩ := reads
  cases simple with
  | false => rfl
  | true =>
      cases sessionVolume with
      | false => rfl
      | true =>
          cases sessionMute with
          | false => rfl
          | true =>
              cases systemVolume with
              | false => rfl
              | true => cases systemMute <;> rfl

theorem getMicVolumeStats_spec (listener : VolumeListener) (current : VolumeStats)
    (reads : VolumeReads) :
    listener.getMicVolumeStats current reads =
      ({ listener with
        micStats := { listener.micStats with mic := listener.seen current reads .mic }
        volStat := { listener.volStat with
          mic := if reads.complete .mic then listener.seen current reads .mic
            else listener.volStat.mic } }, reads.complete .mic) := by
  obtain ⟨_, _, _, _, _, micVolume, micMute⟩ := reads
  cases micVolume with
  | false => rfl
  | true => cases micMute <;> rfl

theorem getCurrentVolStats_spec (listener : VolumeListener) (current : VolumeStats)
    (reads : VolumeReads) :
    (∀ group, (listener.getCurrentVolStats current reads).1.cached.get group =
      listener.seen current reads group) ∧
    (∀ group, (listener.getCurrentVolStats current reads).1.volStat.get group =
      if reads.complete group then listener.seen current reads group
      else listener.volStat.get group) ∧
    (listener.getCurrentVolStats current reads).1.dispatched = listener.dispatched ∧
    (listener.getCurrentVolStats current reads).2 =
      ((listener.getCurrentVolStats current reads).1.volStat, reads.complete .mic) := by
  rw [forall_group, forall_group]
  simp only [getCurrentVolStats, getMicVolumeStats_spec, getSpeakerVolStats_spec]
  exact ⟨⟨rfl, rfl, rfl⟩, ⟨rfl, rfl, rfl⟩, trivial, trivial⟩

end VolumeListener

/-- The listener with the levels the operating system has, the notifications it
has still to deliver for each group, and the stats the application last received. -/
structure VolumeSystem where
  listener : VolumeListener
  current : VolumeStats
  undelivered : ByGroup (List Level)
  received : Option VolumeStats
  deriving DecidableEq

inductive VolumeStep
  | change (group : VolumeGroup) (level : Level)
  | notify (group : VolumeGroup)
  | query (reads : VolumeReads)
  | dispatch
  deriving DecidableEq

namespace VolumeSystem

/-- The listener has just been attached, whatever levels the operating system has. -/
def start (stats : VolumeStats) : VolumeSystem :=
  ⟨.attached, stats, ⟨[], [], []⟩, none⟩

def step (state : VolumeSystem) : VolumeStep → Option VolumeSystem
  | .change group level => some { state with
      current := state.current.set level group
      undelivered := state.undelivered.set (state.undelivered.get group ++ [level]) group }
  | .notify group =>
      match state.undelivered.get group with
      | [] => none
      | level :: rest => some { state with
          listener := state.listener.onNotify group level
          undelivered := state.undelivered.set rest group }
  | .query reads =>
      let (listener, volStats, succeeded) :=
        state.listener.getCurrentVolStats state.current reads
      some { state with
        listener := listener
        received := if succeeded then some volStats else state.received }
  | .dispatch =>
      match state.listener.dispatched with
      | [] => none
      | volStats :: rest => some { state with
          listener := { state.listener with dispatched := rest }
          received := some volStats }

def Drained (state : VolumeSystem) : Prop :=
  (∀ group, state.undelivered.get group = []) ∧ state.listener.dispatched = []

instance (state : VolumeSystem) : Decidable state.Drained :=
  inferInstanceAs (Decidable (_ ∧ _))

def UpToDate (state : VolumeSystem) : Prop :=
  state.Drained → ∀ received ∈ state.received, received = state.current

/-- The stats the application has last when the queue is empty. -/
def lastQueued (state : VolumeSystem) : Option VolumeStats :=
  state.listener.dispatched.getLast?.or state.received

def Announces (state : VolumeSystem) (group : VolumeGroup) (level : Level) : Prop :=
  ∃ announced ∈ state.undelivered.get group, announced ≠ level

instance (state : VolumeSystem) (group : VolumeGroup) (level : Level) :
    Decidable (state.Announces group level) :=
  inferInstanceAs (Decidable (∃ announced ∈ _, _))

def Heard (state : VolumeSystem) (group : VolumeGroup) : Prop :=
  state.Announces group (state.listener.cached.get group)

instance (state : VolumeSystem) (group : VolumeGroup) : Decidable (state.Heard group) :=
  inferInstanceAs (Decidable (state.Announces _ _))

/-- The merged stats have the cached level, which is the one the system has unless a
notification is on its way. -/
def Merged (state : VolumeSystem) (group : VolumeGroup) : Prop :=
  state.listener.volStat.get group = state.listener.cached.get group ∧
    (state.undelivered.get group = [] →
      state.listener.cached.get group = state.current.get group)

instance (state : VolumeSystem) (group : VolumeGroup) : Decidable (state.Merged group) :=
  inferInstanceAs (Decidable (_ ∧ _))

/-- A query leaves no group behind: its level is still to be announced, or the
merged stats have the level the query leaves in the cache, and the application
gets it from an announcement, from this query, or has got it. -/
def QueryCovered (state : VolumeSystem) (reads : VolumeReads) : Prop :=
  ∀ group, state.Announces group (state.listener.seen state.current reads group) ∨
    ((reads.complete group = true ∨
        state.listener.volStat.get group = state.listener.seen state.current reads group) ∧
      (state.undelivered.get group = [] →
        state.listener.seen state.current reads group = state.current.get group)) ∧
    ((∃ other, state.Announces other (state.listener.seen state.current reads other)) ∨
      reads.complete .mic = true ∧ state.listener.dispatched = [] ∨
      ∀ queued ∈ state.lastQueued,
        queued.get group = state.listener.seen state.current reads group)

instance (state : VolumeSystem) (reads : VolumeReads) : Decidable (state.QueryCovered reads) :=
  inferInstanceAs (Decidable (∀ _, _ ∨ _))

/-- A notification that the test takes for the cached level has that level, once the
application has received stats or is about to; the first stats it is sent are complete. -/
def NotifyCovered (state : VolumeSystem) (group : VolumeGroup) (level : Level) : Prop :=
  (levelChanged (state.listener.cached.get group) level = true → state.lastQueued = none →
      ∀ other, other ≠ group → state.Heard other ∨ state.Merged other) ∧
    (levelChanged (state.listener.cached.get group) level = false → state.lastQueued ≠ none →
      level = state.listener.cached.get group)

instance (state : VolumeSystem) (group : VolumeGroup) (level : Level) :
    Decidable (state.NotifyCovered group level) :=
  inferInstanceAs (Decidable (_ ∧ _))

def Covered (state : VolumeSystem) : VolumeStep → Prop
  | .query reads =>
      state.lastQueued = none ∧ reads.complete .mic = false ∨ state.QueryCovered reads
  | .notify group =>
      ∀ level ∈ (state.undelivered.get group).head?, state.NotifyCovered group level
  | _ => True

instance (state : VolumeSystem) (label : VolumeStep) : Decidable (state.Covered label) :=
  match label with
  | .change _ _ => .isTrue trivial
  | .notify group =>
      inferInstanceAs (Decidable (∀ level ∈ (state.undelivered.get group).head?,
        state.NotifyCovered group level))
  | .query _ => inferInstanceAs (Decidable (_ ∨ state.QueryCovered _))
  | .dispatch => .isTrue trivial

/-- Every group is announced once more, or the application has its level or gets it with
another group's. -/
def Settled (state : VolumeSystem) : Prop :=
  ∀ group, state.Heard group ∨ state.Merged group ∧
    ((∃ other, state.Heard other) ∨
      ∀ queued ∈ state.lastQueued, queued.get group = state.listener.cached.get group)

structure Sound (state : VolumeSystem) : Prop where
  latest : ∀ group, ∀ level ∈ (state.undelivered.get group).getLast?,
    level = state.current.get group
  settled : state.lastQueued ≠ none → state.Settled

theorem sound_start (stats : VolumeStats) : (start stats).Sound where
  latest group level last := by
    cases group <;> cases last
  settled queued := absurd rfl queued

theorem Sound.upToDate {state : VolumeSystem} (sound : state.Sound) : state.UpToDate := by
  intro drained received found
  obtain ⟨delivered, dispatched⟩ := drained
  have silent : ∀ group, ¬ state.Heard group := by
    intro group heard
    obtain ⟨level, member, _⟩ := heard
    rw [delivered group] at member
    cases member
  have last : state.lastQueued = some received := by
    rw [lastQueued, dispatched]
    exact found
  apply ByGroup.ext_get
  intro group
  rcases sound.settled (by simp [last]) group with heard | ⟨merged, ⟨other, heard⟩ | queued⟩
  · exact absurd heard (silent group)
  · exact absurd heard (silent other)
  · exact (queued received last).trans (merged.2 (delivered group))

/-- A step that silences no group and leaves the cached levels and the last queued stats
alone keeps every group settled. -/
theorem Sound.settled_of_heard {state next : VolumeSystem} (sound : state.Sound)
    (heard : ∀ group, state.Heard group → next.Heard group)
    (merged : ∀ group, state.Heard group ∨ state.Merged group →
      next.Heard group ∨ next.Merged group)
    (cached : next.listener.cached = state.listener.cached)
    (queued : next.lastQueued = state.lastQueued) (some : state.lastQueued ≠ none) :
    next.Settled := by
  intro group
  rw [cached, queued]
  rcases sound.settled some group with loud | ⟨settled, source⟩
  · exact .inl (heard group loud)
  · rcases merged group (.inr settled) with loud | settled
    · exact .inl loud
    · refine .inr ⟨settled, ?_⟩
      rcases source with ⟨other, loud⟩ | delivered
      · exact .inl ⟨other, heard other loud⟩
      · exact .inr delivered

theorem Sound.change {state : VolumeSystem} (sound : state.Sound) (group : VolumeGroup)
    (level : Level) :
    Sound { state with
      current := state.current.set level group
      undelivered := state.undelivered.set (state.undelivered.get group ++ [level]) group } := by
  have heard : ∀ other, state.Heard other → Heard { state with
      current := state.current.set level group
      undelivered := state.undelivered.set (state.undelivered.get group ++ [level]) group }
      other := by
    intro other earlier
    obtain ⟨announced, member, differs⟩ := earlier
    refine ⟨announced, ?_, differs⟩
    simp only [ByGroup.get_set]
    split_ifs with same
    · subst same
      exact List.mem_append_left _ member
    · exact member
  constructor
  · intro other
    simp only [ByGroup.get_set]
    split_ifs with same
    · simp
    · exact sound.latest other
  · refine sound.settled_of_heard heard ?_ rfl rfl
    intro other earlier
    refine earlier.imp (heard other) fun settled => ⟨settled.1, ?_⟩
    simp only [ByGroup.get_set]
    split_ifs with same
    · intro none
      exact absurd none (by simp)
    · exact settled.2

/-- A suppressed notification changes nothing but the queue it comes from. -/
theorem Sound.notify_suppressed {state : VolumeSystem} (sound : state.Sound)
    {group : VolumeGroup} {level : Level} {rest : List Level}
    (head : state.undelivered.get group = level :: rest)
    (equal : state.lastQueued ≠ none → level = state.listener.cached.get group) :
    Sound { state with undelivered := state.undelivered.set rest group } := by
  have latest : ∀ other, ∀ last ∈ ((state.undelivered.set rest group).get other).getLast?,
      last = state.current.get other := by
    intro other
    have latest := sound.latest other
    simp only [ByGroup.get_set]
    split_ifs with same
    · subst same
      intro last member
      refine latest last ?_
      rw [head, List.getLast?_cons, Option.mem_def.mp member]
      rfl
    · exact latest
  refine ⟨latest, fun some => ?_⟩
  have heard : ∀ other, state.Heard other → Heard { state with
      undelivered := state.undelivered.set rest group } other := by
    intro other earlier
    obtain ⟨announced, member, differs⟩ := earlier
    refine ⟨announced, ?_, differs⟩
    simp only [ByGroup.get_set]
    split_ifs with same
    · subst same
      rw [head, List.mem_cons] at member
      refine member.resolve_left fun first => differs ?_
      rw [first, equal some]
    · exact member
  refine sound.settled_of_heard heard ?_ rfl rfl some
  intro other earlier
  refine earlier.imp (heard other) fun settled => ⟨settled.1, ?_⟩
  simp only [ByGroup.get_set]
  split_ifs with same
  · subst same
    intro delivered
    have last := sound.latest other
    rw [head, delivered] at last
    exact (equal some).symm.trans (last level rfl)
  · exact settled.2

/-- A reported notification carries every group whose merged stats are in order. -/
theorem Sound.notify_reported {state : VolumeSystem} (sound : state.Sound)
    {group : VolumeGroup} {level : Level} {rest : List Level} {listener : VolumeListener}
    (head : state.undelivered.get group = level :: rest)
    (cached : listener.cached = state.listener.cached.set level group)
    (volStat : listener.volStat = state.listener.volStat.set level group)
    (dispatched : listener.dispatched =
      state.listener.dispatched ++ [state.listener.volStat.set level group])
    (ready : ∀ other, other ≠ group → state.Heard other ∨ state.Merged other) :
    Sound { state with
      listener := listener
      undelivered := state.undelivered.set rest group } := by
  have queued : lastQueued { state with
      listener := listener
      undelivered := state.undelivered.set rest group } =
      some (state.listener.volStat.set level group) := by
    simp [lastQueued, dispatched]
  constructor
  · intro other
    have latest := sound.latest other
    simp only [ByGroup.get_set]
    split_ifs with same
    · subst same
      intro last member
      refine latest last ?_
      rw [head, List.getLast?_cons, Option.mem_def.mp member]
      rfl
    · exact latest
  · intro _ other
    by_cases same : other = group
    · subst same
      refine .inr ⟨⟨?_, ?_⟩, .inr ?_⟩
      · simp [cached, volStat, ByGroup.get_set]
      · intro delivered
        simp only [ByGroup.get_set, if_true] at delivered
        have last := sound.latest other
        rw [head, delivered] at last
        simpa [cached, ByGroup.get_set] using last level rfl
      · simp [queued, cached, ByGroup.get_set]
    · rcases ready other same with loud | merged
      · refine .inl ?_
        simpa [Heard, Announces, cached, ByGroup.get_set, same] using loud
      · refine .inr ⟨?_, .inr ?_⟩
        · simpa [Merged, cached, volStat, ByGroup.get_set, same] using merged
        · simpa [queued, cached, ByGroup.get_set, same] using merged.1

/-- The application gets the merged stats from a query that succeeds, unless a
message it has still to handle replaces them. -/
theorem lastQueued_query {state : VolumeSystem} {listener : VolumeListener}
    (dispatched : listener.dispatched = state.listener.dispatched) (succeeded : Bool) :
    lastQueued { state with
        listener := listener
        received := if succeeded = true then some listener.volStat else state.received } =
      if succeeded = true ∧ state.listener.dispatched = [] then some listener.volStat
      else state.lastQueued := by
  cases succeeded with
  | false => simp [lastQueued, dispatched]
  | true =>
      cases queue : state.listener.dispatched with
      | nil => simp [lastQueued, dispatched, queue]
      | cons first rest => simp [lastQueued, dispatched, queue, List.getLast?_cons]

theorem Sound.query {state : VolumeSystem} (sound : state.Sound) {reads : VolumeReads}
    (covered : state.Covered (.query reads)) :
    Sound { state with
      listener := (state.listener.getCurrentVolStats state.current reads).1
      received :=
        if (state.listener.getCurrentVolStats state.current reads).2.2 = true then
          some (state.listener.getCurrentVolStats state.current reads).2.1
        else state.received } := by
  obtain ⟨cached, volStat, dispatched, result⟩ :=
    state.listener.getCurrentVolStats_spec state.current reads
  rw [result]
  refine ⟨sound.latest, ?_⟩
  rw [lastQueued_query dispatched]
  intro queued group
  rcases covered with ⟨nothing, failed⟩ | covered
  · simp [nothing, failed] at queued
  · rw [lastQueued_query dispatched]
    simp only [Heard, Merged, cached]
    rcases covered group with loud | ⟨⟨merged, current⟩, source⟩
    · exact .inl loud
    · have settled : (state.listener.getCurrentVolStats state.current reads).1.volStat.get group =
          state.listener.seen state.current reads group := by
        rw [volStat]
        rcases merged with complete | same
        · rw [if_pos complete]
        · rw [same, ite_self]
      refine .inr ⟨⟨settled, current⟩, ?_⟩
      rcases source with loud | delivered | queued
      · exact .inl loud
      · rw [if_pos delivered]
        refine .inr fun received found => ?_
        cases found
        exact settled
      · refine .inr ?_
        split_ifs
        · intro received found
          cases found
          exact settled
        · exact queued

theorem Sound.dispatch {state : VolumeSystem} (sound : state.Sound) {volStats : VolumeStats}
    {rest : List VolumeStats} (head : state.listener.dispatched = volStats :: rest) :
    Sound { state with
      listener := { state.listener with dispatched := rest }
      received := some volStats } := by
  have queued : lastQueued { state with
      listener := { state.listener with dispatched := rest }
      received := some volStats } = state.lastQueued := by
    simp only [lastQueued, head]
    cases rest with
    | nil => rfl
    | cons next later => simp [List.getLast?_cons]
  refine ⟨sound.latest, fun some => ?_⟩
  rw [queued] at some
  intro group
  rw [queued]
  exact sound.settled some group

theorem Sound.step {state next : VolumeSystem} {label : VolumeStep} (sound : state.Sound)
    (covered : state.Covered label) (taken : state.step label = some next) : next.Sound := by
  cases label with
  | change group level =>
      cases taken
      exact sound.change group level
  | notify group =>
      simp only [VolumeSystem.step] at taken
      split at taken
      · cases taken
      · rename_i level rest head
        cases taken
        have guarded : state.NotifyCovered group level := covered level (by rw [head]; rfl)
        rcases state.listener.onNotify_cases group level with
          ⟨unchanged, same⟩ | ⟨changed, cached, volStat, dispatched⟩
        · rw [same]
          exact sound.notify_suppressed head (guarded.2 unchanged)
        · refine sound.notify_reported head cached volStat dispatched ?_
          intro other differs
          by_cases queued : state.lastQueued = none
          · exact guarded.1 changed queued other differs
          · exact (sound.settled queued other).imp_right And.left
  | query reads =>
      cases taken
      exact sound.query covered
  | dispatch =>
      simp only [VolumeSystem.step] at taken
      split at taken
      · cases taken
      · rename_i volStats rest head
        cases taken
        exact sound.dispatch head

def halfVolume : Level := ⟨2 ^ 148, false⟩

def quiet : VolumeStats := ⟨halfVolume, halfVolume, halfVolume⟩

def allReads : VolumeReads := ⟨true, true, true, true, true, true, true⟩

end VolumeSystem

end FiberApp.CoreAudio
