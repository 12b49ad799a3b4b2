import FiberApp.Sigslot.SignalProperties

/-! What an emission calls, while the slots it calls connect, disconnect, emit and delete. -/

set_option autoImplicit false

namespace FiberApp.Sigslot

open FiberApp.Foundation

variable {Signal Slots Method : Type}

namespace Objects

section Updates

variable [DecidableEq Signal] [DecidableEq Slots]

/-- What an emission has done so far: it has called each connection that its iterator has passed,
and none of them twice. -/
structure Progressed (objects : Objects Signal Slots Method) (emission : Emission Signal) :
    Prop where
  since : emission.since ≤ objects.nextNode
  ordered : emission.called.Pairwise (· < ·)
  behind : ∀ node ∈ emission.called, ∀ next, emission.it = some next → node < next
  covered : ∀ connection, objects.Holds emission.signal connection →
    (∀ next, emission.it = some next → connection.node < next) →
      (emission.it = none → connection.node < emission.since) →
        connection.node ∈ emission.called

omit [DecidableEq Signal] [DecidableEq Slots] in
theorem Progressed.grows {objects next : Objects Signal Slots Method} {emission : Emission Signal}
    (progressed : Progressed objects emission) (sound : Sound objects) (numbered : Numbered objects)
    (member : emission ∈ objects.emissions) (grows : Grows objects next) :
    Progressed next emission where
  since := progressed.since.trans grows.nodes
  ordered := progressed.ordered
  behind := progressed.behind
  covered connection held before early := by
    rcases grows.holds _ connection held with there | isNew
    · exact progressed.covered connection there before early
    · cases it : emission.it with
      | none => exact absurd ((early it).trans_le progressed.since) (Nat.not_lt.mpr isNew)
      | some node =>
          obtain ⟨stands, ⟨list, listed, inList⟩, rfl⟩ := (sound.emitting emission member).2 node it
          exact absurd ((before _ it).trans ((numbered _ list listed).2 stands inList))
            (Nat.not_lt.mpr isNew)

omit [DecidableEq Signal] [DecidableEq Slots] in
/-- The iterator moves on to the connection that follows the one it calls. -/
theorem Progressed.proceed {objects : Objects Signal Slots Method} {emission : Emission Signal}
    (progressed : Progressed objects emission) (numbered : Numbered objects)
    {before following : List (Connection Slots Method)} {connection : Connection Slots Method}
    (listed : objects.connectedSlots emission.signal = some (before ++ connection :: following))
    (it : emission.it = some connection.node) :
    Progressed objects { emission with
      it := following.head?.map Connection.node
      called := emission.called ++ [connection.node] } := by
  have sorted := List.pairwise_append.mp (numbered _ _ listed).1
  have later := List.pairwise_cons.mp sorted.2.1
  have passed (node : Nat) (member : node ∈ emission.called ++ [connection.node]) :
      node ≤ connection.node := by
    rcases List.mem_append.mp member with called | here
    · exact (progressed.behind node called _ it).le
    · exact (List.mem_singleton.mp here).le
  exact
    { since := progressed.since
      ordered := List.pairwise_append.mpr ⟨progressed.ordered, List.pairwise_singleton _ _,
        fun node called next here => by
          rw [List.mem_singleton.mp here]
          exact progressed.behind node called _ it⟩
      behind := fun node member next stands => by
        obtain ⟨following, first, rfl⟩ := Option.map_eq_some_iff.mp stands
        exact (passed node member).trans_lt (later.1 following (List.mem_of_head? first))
      covered := fun other held early _ => by
        obtain ⟨list, again, member⟩ := held
        obtain rfl := Option.some.inj (listed.symm.trans again)
        rcases List.mem_append.mp member with inBefore | rest
        · refine List.mem_append_left _ (progressed.covered other ⟨_, listed, member⟩ ?_ ?_)
          · intro next stands
            rw [it] at stands
            exact Option.some.inj stands ▸ sorted.2.2 other inBefore connection List.mem_cons_self
          · intro atEnd
            cases it.symm.trans atEnd
        · rcases List.mem_cons.mp rest with rfl | inFollowing
          · exact List.mem_append_right _ (List.mem_singleton_self _)
          · obtain ⟨first, tail, rfl⟩ := List.exists_cons_of_ne_nil
              (List.ne_nil_of_mem inFollowing)
            have less := early first.node rfl
            rcases List.mem_cons.mp inFollowing with rfl | inTail
            · exact absurd less (Nat.lt_irrefl _)
            · exact absurd ((List.pairwise_cons.mp later.2).1 other inTail) (Nat.lt_asymm less) }

theorem Progressed.step {objects next : Objects Signal Slots Method}
    (progressed : ∀ emission ∈ objects.emissions, Progressed objects emission)
    (sound : Sound objects) (numbered : Numbered objects)
    {operation : Operation Signal Slots Method} (taken : objects.step operation = some next) :
    ∀ emission ∈ next.emissions, Progressed next emission := by
  obtain ⟨_, again, _, grows, emissions, _⟩ := sound.step_spec numbered (proper_of_step taken)
  obtain rfl := Option.some.inj (taken.symm.trans again)
  rcases emissions with same | rfl | ⟨signal, rfl⟩
  · rw [same]
    exact fun emission member => (progressed emission member).grows sound numbered member grows
  · obtain ⟨_, again, _, lists, nodes, emission, outer, found, moved⟩ :=
      sound.proceed (proper_of_step taken)
    obtain rfl := Option.some.inj (taken.symm.trans again)
    have earlier (other : Emission Signal) (member : other ∈ outer) :=
      (progressed other (found ▸ List.mem_cons_of_mem _ member)).grows sound numbered
        (found ▸ List.mem_cons_of_mem _ member) grows
    rcases moved with same | ⟨before, connection, following, listed, it, same⟩
    · exact same ▸ earlier
    · rw [same]
      intro other member
      rcases List.mem_cons.mp member with rfl | inOuter
      · have ahead := (progressed emission (found ▸ List.mem_cons_self)).proceed numbered listed it
        exact ⟨nodes ▸ ahead.since, ahead.ordered, ahead.behind, fun connection held =>
          ahead.covered connection (by rwa [Holds, lists] at held)⟩
      · exact earlier other inOuter
  · obtain ⟨connections, found, rfl⟩ := Option.map_eq_some_iff.mp taken
    intro emission member
    rcases List.mem_cons.mp member with rfl | earlier
    · refine ⟨le_rfl, .nil, by simp, fun connection held before _ => ?_⟩
      obtain ⟨list, again, member⟩ := held
      obtain rfl := Option.some.inj (found.symm.trans again)
      obtain ⟨first, rest, rfl⟩ := List.exists_cons_of_ne_nil (List.ne_nil_of_mem member)
      have less := before first.node rfl
      rcases List.mem_cons.mp member with rfl | inRest
      · exact absurd less (Nat.lt_irrefl _)
      · exact absurd ((List.pairwise_cons.mp (numbered _ _ found).1).1 connection inRest)
          (Nat.lt_asymm less)
    · exact (progressed emission earlier).grows sound numbered earlier ⟨le_rfl, fun _ _ => .inl⟩

/-- An emission calls no connection twice. By the time it returns it has called each connection
that was made before it began and has not been taken away, even if the slots it called made and
took away others. -/
theorem emission_calls_each {operations : List (Operation Signal Slots Method)}
    (careful : Guarded step (fun objects operation => objects.Careful operation) initial operations)
    {final : Objects Signal Slots Method} (ran : execute step initial operations = some final)
    {emission : Emission Signal} (member : emission ∈ final.emissions) :
    emission.called.Nodup ∧ (emission.it = none → ∀ connection,
      final.Holds emission.signal connection → connection.node < emission.since →
        connection.node ∈ emission.called) := by
  obtain ⟨_, _, progressed⟩ := execute_preserves
    (fun objects => Sound objects ∧ Numbered objects ∧
      ∀ emission ∈ objects.emissions, Progressed objects emission)
    (fun objects operation next invariant careful taken => by
      obtain ⟨sound, numbered, progressed⟩ := invariant
      obtain ⟨_, again, counted, _, _, kept⟩ := sound.step_spec numbered (proper_of_step taken)
      obtain rfl := Option.some.inj (taken.symm.trans again)
      exact ⟨kept.mpr careful, counted, Progressed.step progressed sound numbered taken⟩)
    ⟨initial_sound.1, initial_sound.2, by simp [initial]⟩ careful ran
  have progress := progressed emission member
  refine ⟨progress.ordered.imp Nat.ne_of_lt, fun atEnd connection held early => ?_⟩
  exact progress.covered connection held (fun next it => by cases atEnd.symm.trans it)
    fun _ => early

theorem emission_calls_each_connectAndEmit :
    ∃ final : Objects Unit Unit Unit, execute step initial connectAndEmit = some final ∧
      ∃ emission ∈ final.emissions, emission.called.Nodup ∧ 0 ∈ emission.called := by
  obtain ⟨final, ran, emission, member, atEnd, since, held⟩ :
      ∃ final : Objects Unit Unit Unit, execute step initial connectAndEmit = some final ∧
        ∃ emission ∈ final.emissions, emission.it = none ∧ emission.since = 1 ∧
          final.Holds emission.signal ⟨0, (), ()⟩ :=
    ⟨_, rfl, _, List.mem_cons_self, rfl, rfl, _, rfl, List.mem_cons_self⟩
  have careful : Guarded step (fun objects operation => objects.Careful operation) initial
      connectAndEmit := connectAndEmit_guarded.promised (fun _ => True)
    (fun _ _ _ both => both.2) (fun _ _ _ _ _ _ => trivial) trivial
  have called := emission_calls_each careful ran member
  exact ⟨final, ran, emission, member, called.1, called.2 atEnd _ held (since ▸ Nat.zero_lt_one)⟩

end Updates

end Objects

end FiberApp.Sigslot
