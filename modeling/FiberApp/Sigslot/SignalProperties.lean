import FiberApp.Sigslot.ConnectionProperties

/-! When the pointers of signals, objects and emissions stay valid over a whole run. -/

set_option autoImplicit false

namespace FiberApp.Sigslot

open FiberApp.Foundation

variable {Signal Slots Method : Type}

namespace Objects

section Updates

variable [DecidableEq Signal] [DecidableEq Slots]

/-- The operations that take no connection away. -/
def TakesNothing : Operation Signal Slots Method → Prop
  | .disconnect .. | .disconnectAll _ | .deleteSignal _ | .disconnectSlots _ | .deleteSlots _ =>
      False
  | _ => True

omit [DecidableEq Signal] in
theorem careful_of_takesNothing (objects : Objects Signal Slots Method)
    {operation : Operation Signal Slots Method} (takesNothing : TakesNothing operation) :
    Careful objects operation where
  single signal slots same := by
    rw [same] at takesNothing
    exact takesNothing.elim
  awaited emission _ connection _ removed := by
    cases operation <;> first | exact takesNothing.elim | exact removed.elim
  emitting signal same := by
    rw [same] at takesNothing
    exact takesNothing.elim

omit [DecidableEq Signal] in
theorem Removal.sound_iff_careful {objects next : Objects Signal Slots Method}
    {operation : Operation Signal Slots Method} {forgets : Slots → Signal → Prop}
    {deletes : Signal → Prop}
    (removal : Removal objects next (fun signal connection =>
      objects.Removes signal connection operation) forgets deletes)
    (sound : Sound objects) (numbered : Numbered objects)
    (single : (∀ signal connection, objects.Holds signal connection →
        forgets connection.pobject signal → objects.Removes signal connection operation) ↔
      ∀ signal slots, operation = .disconnect signal slots → ∀ first second,
        objects.Holds signal first → objects.Holds signal second → first.pobject = slots →
          second.pobject = slots → first = second)
    (deleted : ∀ signal, deletes signal ↔ operation = .deleteSignal signal) :
    Sound next ↔ Careful objects operation := by
  refine (removal.sound_iff sound numbered).trans ⟨?_, fun careful => ?_⟩
  · rintro ⟨kept, awaited, living⟩
    exact ⟨single.mp kept, awaited, fun signal same emission member here =>
      living emission member ((deleted _).mpr (here ▸ same))⟩
  · exact ⟨single.mpr careful.single, careful.awaited, fun emission member gone =>
      careful.emitting emission.signal ((deleted _).mp gone) emission member rfl⟩

omit [DecidableEq Signal] in
/-- Taking the first connection to an object takes all of them just when there is only one. -/
theorem disconnect_single_iff {objects : Objects Signal Slots Method} (signal : Signal)
    (pclass : Slots) :
    (∀ other connection, objects.Holds other connection →
        connection.pobject = pclass ∧ other = signal →
          objects.Removes other connection (.disconnect signal pclass)) ↔
      ∀ other slots, (.disconnect signal pclass : Operation Signal Slots Method) =
          .disconnect other slots → ∀ first second,
        objects.Holds other first → objects.Holds other second → first.pobject = slots →
          second.pobject = slots → first = second := by
  constructor
  · rintro removed other slots same first second firstHeld secondHeld firstHere secondHere
    cases same
    obtain ⟨_, _, listed, isFirst⟩ := removed signal first firstHeld ⟨firstHere, rfl⟩
    obtain ⟨_, _, again, isSecond⟩ := removed signal second secondHeld ⟨secondHere, rfl⟩
    obtain rfl := Option.some.inj (listed.symm.trans again)
    exact Option.some.inj (isFirst.symm.trans isSecond)
  · rintro single other connection ⟨connections, listed, member⟩ ⟨here, rfl⟩
    refine ⟨rfl, connections, listed, ?_⟩
    cases found : connections.find? fun other => other.pobject = pclass with
    | none => exact absurd (decide_eq_true here) (List.find?_eq_none.mp found connection member)
    | some first =>
        have firstHere := List.find?_some found
        exact congrArg some (single other pclass rfl first connection
          ⟨connections, listed, List.mem_of_find?_eq_some found⟩ ⟨connections, listed, member⟩
          (of_decide_eq_true firstHere) here)

/-- A proper operation goes through, and leaves every pointer valid exactly when the caller has
taken care. -/
theorem Sound.step_spec {objects : Objects Signal Slots Method} (sound : Sound objects)
    (numbered : Numbered objects) {operation : Operation Signal Slots Method}
    (proper : objects.Proper operation) :
    ∃ next, objects.step operation = some next ∧ Numbered next ∧ Grows objects next ∧
      (next.emissions = objects.emissions ∨ operation = .proceed ∨
        ∃ signal, operation = .emit signal) ∧
      (Sound next ↔ Careful objects operation) := by
  have plain (next : Objects Signal Slots Method) (kept : Sound next)
      (takesNothing : TakesNothing operation) : Sound next ↔ Careful objects operation :=
    iff_of_true kept (careful_of_takesNothing objects takesNothing)
  cases operation with
  | newSignal signal =>
      obtain ⟨kept, counted, grows⟩ := sound.newSignal numbered proper
      exact ⟨_, if_pos proper, counted, grows, .inl rfl, plain _ kept trivial⟩
  | newSlots slots =>
      exact ⟨_, if_pos proper, numbered, ⟨le_rfl, fun _ _ => .inl⟩, .inl rfl,
        plain _ (sound.newSlots proper) trivial⟩
  | connect signal pclass pmemfun =>
      obtain ⟨next, taken, kept, counted, grows, emissions, _⟩ :=
        sound.connect numbered proper.1 proper.2 pmemfun
      exact ⟨next, taken, counted, grows, .inl emissions,
        plain next kept trivial⟩
  | disconnect signal pclass =>
      obtain ⟨next, taken, counted, removal⟩ := sound.disconnect_removal numbered proper pclass
      exact ⟨next, taken, counted, removal.grows, .inl removal.emissions,
        removal.sound_iff_careful sound numbered (disconnect_single_iff signal pclass)
          fun _ => by simp⟩
  | disconnectAll signal =>
      obtain ⟨middle, taken, left⟩ := sound.disconnectAll_removal numbered proper
      obtain ⟨counted, removal⟩ := left (some []) (.inr rfl)
      exact ⟨_, taken, counted, removal.grows, .inl removal.emissions,
        Removal.sound_iff_careful removal sound numbered
          (iff_of_true (fun _ _ _ here => here) (by simp)) fun _ => by simp⟩
  | deleteSignal signal =>
      obtain ⟨middle, taken, left⟩ := sound.disconnectAll_removal numbered proper
      obtain ⟨counted, removal⟩ := left none (.inl rfl)
      refine ⟨_, ?_, counted, removal.grows, .inl removal.emissions,
        Removal.sound_iff_careful removal sound numbered
          (iff_of_true (fun _ _ _ here => here) (by simp)) fun other => ?_⟩
      · simp only [step, taken, Option.bind_eq_bind, Option.bind_some, setConnections,
          Function.update_idem]
      · simp [eq_comm]
  | disconnectSlots slots =>
      obtain ⟨middle, taken, left⟩ := sound.disconnectSlots_removal numbered proper
      obtain ⟨counted, removal⟩ := left (some []) (.inr rfl)
      exact ⟨_, taken, counted, removal.grows, .inl removal.emissions,
        Removal.sound_iff_careful removal sound numbered
          (iff_of_true (fun _ _ _ here => here) (by simp)) fun _ => by simp⟩
  | deleteSlots slots =>
      obtain ⟨middle, taken, left⟩ := sound.disconnectSlots_removal numbered proper
      obtain ⟨counted, removal⟩ := left none (.inl rfl)
      refine ⟨_, ?_, counted, removal.grows, .inl removal.emissions,
        Removal.sound_iff_careful removal sound numbered
          (iff_of_true (fun _ _ _ here => here) (by simp)) fun _ => by simp⟩
      simp only [step, taken, Option.bind_eq_bind, Option.bind_some, setSenders,
        Function.update_idem]
  | copySignal signal copy =>
      obtain ⟨live, fresh⟩ := proper
      obtain ⟨connections, found⟩ := Option.ne_none_iff_exists'.mp live
      obtain ⟨kept, counted, grows⟩ := sound.newSignal numbered fresh
      have alive (connection : Connection Slots Method) (member : connection ∈ connections) :
          objects.senders connection.pobject ≠ none := by
        obtain ⟨senders, sending, _⟩ := sound.known signal connection ⟨connections, found, member⟩
        exact sending ▸ Option.some_ne_none senders
      have there : (objects.setConnections copy (some [])).connectedSlots copy ≠ none := by
        simp [setConnections]
      obtain ⟨next, ran, kept, counted, grows', emissions⟩ :=
        kept.connects connections counted there alive
      refine ⟨next, ?_, counted, grows.trans grows', .inl emissions,
        plain next kept trivial⟩
      rw [step, if_pos fresh, Objects.copySignal, found]
      exact ran
  | copySlots slots copy =>
      obtain ⟨live, fresh⟩ := proper
      obtain ⟨senders, found⟩ := Option.ne_none_iff_exists'.mp live
      have different : slots ≠ copy := fun same => live (same ▸ fresh)
      have knows (sender : Signal) (member : sender ∈ senders) :
          (objects.setSenders copy (some [])).Knows slots sender := by
        rw [knows_setSenders, if_neg different]
        exact ⟨senders, found, member⟩
      have there : (objects.setSenders copy (some [])).senders copy ≠ none := by simp [setSenders]
      have begun : Numbered (objects.setSenders copy (some [])) := numbered
      obtain ⟨next, ran, kept, counted, grows, emissions⟩ :=
        (sound.newSlots fresh).duplicates senders begun knows there
      refine ⟨next, ?_, counted, ⟨grows.nodes, grows.holds⟩, .inl emissions,
        plain next kept trivial⟩
      rw [step, if_pos fresh, Objects.copySlots, found]
      exact ran
  | emit signal =>
      obtain ⟨connections, found⟩ := Option.ne_none_iff_exists'.mp proper
      refine ⟨{ objects with
          emissions := ⟨signal, connections.head?.map Connection.node, objects.nextNode, []⟩ ::
            objects.emissions },
        ?_, numbered, ⟨le_rfl, fun _ _ => .inl⟩, .inr (.inr ⟨signal, rfl⟩),
        plain _ (sound.emit found) trivial⟩
      rw [step, Objects.emit, found]
      rfl
  | proceed =>
      obtain ⟨next, taken, kept, lists, nodes, _⟩ := sound.proceed proper
      have held (signal : Signal) (connection : Connection Slots Method)
          (here : next.Holds signal connection) : objects.Holds signal connection := by
        rwa [Holds, lists] at here
      refine ⟨next, taken, ?_, ⟨nodes.ge, fun signal connection here =>
        .inl (held signal connection here)⟩, .inr (.inl rfl),
        plain next kept trivial⟩
      intro other list listed
      rw [nodes]
      exact numbered other list (lists ▸ listed)

/-- A call on an object that does not exist, or that makes one that does, has no result. -/
theorem proper_of_step {objects next : Objects Signal Slots Method}
    {operation : Operation Signal Slots Method} (taken : objects.step operation = some next) :
    objects.Proper operation := by
  cases operation with
  | newSignal signal | newSlots slots =>
      by_contra improper
      cases (if_neg improper).symm.trans taken
  | connect signal pclass pmemfun =>
      obtain ⟨middle, pushed, connected⟩ := Option.bind_eq_some_iff.mp taken
      obtain ⟨connections, found, rfl⟩ := Option.map_eq_some_iff.mp pushed
      obtain ⟨senders, sending, _⟩ := Option.map_eq_some_iff.mp connected
      exact ⟨found ▸ Option.some_ne_none connections, sending ▸ Option.some_ne_none senders⟩
  | disconnect signal pclass =>
      obtain ⟨connections, found, _⟩ := Option.bind_eq_some_iff.mp taken
      exact Option.ne_none_iff_exists'.mpr ⟨connections, found⟩
  | disconnectAll signal =>
      obtain ⟨connections, found, _⟩ := Option.bind_eq_some_iff.mp taken
      exact Option.ne_none_iff_exists'.mpr ⟨connections, found⟩
  | deleteSignal signal =>
      obtain ⟨middle, disconnected, _⟩ := Option.bind_eq_some_iff.mp taken
      obtain ⟨connections, found, _⟩ := Option.bind_eq_some_iff.mp disconnected
      exact Option.ne_none_iff_exists'.mpr ⟨connections, found⟩
  | disconnectSlots slots =>
      obtain ⟨senders, found, _⟩ := Option.bind_eq_some_iff.mp taken
      exact Option.ne_none_iff_exists'.mpr ⟨senders, found⟩
  | deleteSlots slots =>
      obtain ⟨middle, disconnected, _⟩ := Option.bind_eq_some_iff.mp taken
      obtain ⟨senders, found, _⟩ := Option.bind_eq_some_iff.mp disconnected
      exact Option.ne_none_iff_exists'.mpr ⟨senders, found⟩
  | copySignal signal copy =>
      by_cases fresh : objects.connectedSlots copy = none
      · rw [step, if_pos fresh] at taken
        obtain ⟨connections, found, _⟩ := Option.bind_eq_some_iff.mp taken
        exact ⟨found ▸ Option.some_ne_none connections, fresh⟩
      · rw [step, if_neg fresh] at taken
        cases taken
  | copySlots slots copy =>
      by_cases fresh : objects.senders copy = none
      · rw [step, if_pos fresh] at taken
        obtain ⟨senders, found, _⟩ := Option.bind_eq_some_iff.mp taken
        exact ⟨found ▸ Option.some_ne_none senders, fresh⟩
      · rw [step, if_neg fresh] at taken
        cases taken
  | emit signal =>
      obtain ⟨connections, found, _⟩ := Option.map_eq_some_iff.mp taken
      exact Option.ne_none_iff_exists'.mpr ⟨connections, found⟩
  | proceed =>
      intro empty
      rw [step, Objects.proceed, empty] at taken
      cases taken

omit [DecidableEq Signal] [DecidableEq Slots] in
theorem initial_sound : Sound (initial : Objects Signal Slots Method) ∧
    Numbered (initial : Objects Signal Slots Method) :=
  ⟨⟨by simp [initial, Holds], by simp [initial, Knows], by simp [initial]⟩,
    by simp [initial, Numbered]⟩

/-- Along a run, whatever the slots that are called do to the signals, every pointer stays valid
if and only if each call takes care. -/
theorem pointers_valid_iff (operations : List (Operation Signal Slots Method)) :
    Throughout step Sound initial operations ↔
      Guarded step (fun objects operation => objects.Proper operation →
        objects.Careful operation) initial operations := by
  refine throughout_iff_guarded (fun objects => Sound objects ∧ Numbered objects)
    (fun _ both => both.1) ?_ ?_ initial_sound
  · rintro objects operation next ⟨sound, numbered⟩ careful taken
    have proper := proper_of_step taken
    obtain ⟨_, again, counted, _, _, kept⟩ := sound.step_spec numbered proper
    obtain rfl := Option.some.inj (taken.symm.trans again)
    exact ⟨kept.mpr (careful proper), counted⟩
  · rintro objects operation ⟨sound, numbered⟩ careless
    obtain ⟨proper, careless⟩ := Classical.not_imp.mp careless
    obtain ⟨next, taken, _, _, _, kept⟩ := sound.step_spec numbered proper
    exact ⟨next, taken, fun still => careless (kept.mp still)⟩

/-- Calls on objects that exist, made with care, never reach one that does not. -/
theorem careful_calls_complete {operations : List (Operation Signal Slots Method)}
    (careful : Guarded step (fun objects operation => objects.Proper operation ∧
      objects.Careful operation) initial operations) :
    ∃ final, execute step initial operations = some final ∧ Sound final := by
  obtain ⟨final, ran, sound, _⟩ := execute_progresses
    (fun objects => Sound objects ∧ Numbered objects) (fun objects operation both careful => by
      obtain ⟨next, taken, counted, _, _, kept⟩ := both.1.step_spec both.2 careful.1
      exact ⟨next, taken, kept.mpr careful.2, counted⟩) initial_sound careful
  exact ⟨final, ran, sound⟩

/-- A slot is connected and called. -/
def connectAndEmit : List (Operation Unit Unit Unit) :=
  [.newSignal (), .newSlots (), .connect () () (), .emit (), .proceed]

theorem connectAndEmit_guarded : Guarded step (fun objects operation =>
    objects.Proper operation ∧ objects.Careful operation) initial connectAndEmit := by
  have careful (objects : Objects Unit Unit Unit) (operation : Operation Unit Unit Unit)
      (taken : operation ∈ connectAndEmit) : objects.Careful operation := by
    simp only [connectAndEmit, List.mem_cons, List.not_mem_nil, or_false] at taken
    rcases taken with rfl | rfl | rfl | rfl | rfl <;>
      exact careful_of_takesNothing objects trivial
  refine ⟨⟨rfl, careful _ _ (by decide)⟩, fun _ first => ?_⟩
  obtain rfl := Option.some.inj first
  refine ⟨⟨rfl, careful _ _ (by decide)⟩, fun _ second => ?_⟩
  obtain rfl := Option.some.inj second
  refine ⟨⟨by simp [Proper, setConnections, setSenders], careful _ _ (by decide)⟩,
    fun _ third => ?_⟩
  obtain rfl := Option.some.inj third
  refine ⟨⟨by simp [Proper, setConnections, setSenders], careful _ _ (by decide)⟩,
    fun _ fourth => ?_⟩
  obtain rfl := Option.some.inj fourth
  exact ⟨⟨List.cons_ne_nil _ _, careful _ _ (by decide)⟩, fun _ _ => trivial⟩

theorem careful_calls_complete_connectAndEmit :
    ∃ final : Objects Unit Unit Unit,
      execute step initial connectAndEmit = some final ∧ Sound final :=
  careful_calls_complete connectAndEmit_guarded

theorem signalDisconnect_all_live {signal : Signal} {connections : List (Connection Slots Method)}
    {objects next : Objects Signal Slots Method}
    (ran : execute (fun objects connection =>
      signalDisconnect objects connection.pobject signal) objects connections = some next) :
    ∀ connection ∈ connections, objects.senders connection.pobject ≠ none := by
  induction connections generalizing objects with
  | nil => simp
  | cons connection rest ih =>
      obtain ⟨middle, taken, ran⟩ := execute_cons_eq_some.mp ran
      obtain ⟨senders, sending, _⟩ := Option.map_eq_some_iff.mp taken
      have live : objects.senders connection.pobject ≠ none :=
        Option.ne_none_iff_exists'.mpr ⟨senders, sending⟩
      obtain ⟨_, again, _, _, _, alive, _⟩ := signalDisconnect_spec live signal
      obtain rfl := Option.some.inj (taken.symm.trans again)
      intro other member
      rcases List.mem_cons.mp member with rfl | later
      · exact live
      · exact (alive _).not.mp (ih ran other later)

/-- An object is connected to a signal twice and disconnected once. When the object and then the
signal are deleted, the signal calls the object that is gone. -/
theorem second_connection_dangles {objects : Objects Signal Slots Method} (sound : Sound objects)
    (numbered : Numbered objects) {signal : Signal} {first second : Connection Slots Method}
    (firstHeld : objects.Holds signal first) (secondHeld : objects.Holds signal second)
    (different : first ≠ second) (same : first.pobject = second.pobject) :
    execute step objects [.disconnect signal first.pobject, .deleteSlots first.pobject,
      .deleteSignal signal] = none := by
  obtain ⟨connections, listed, _⟩ := id firstHeld
  obtain ⟨next, taken, _, removal⟩ := sound.disconnect_removal numbered
    (Option.ne_none_iff_exists'.mpr ⟨connections, listed⟩) first.pobject
  -- One of the two connections is left, and the object no longer knows of it.
  obtain ⟨left, held, here⟩ : ∃ left, next.Holds signal left ∧ left.pobject = first.pobject := by
    by_contra none_left
    push Not at none_left
    have gone (connection : Connection Slots Method) (held : objects.Holds signal connection)
        (here : connection.pobject = first.pobject) :
        objects.Removes signal connection (.disconnect signal first.pobject) := by
      by_contra stays
      exact none_left connection ((removal.holds signal connection).mpr ⟨held, stays⟩) here
    obtain ⟨_, _, listed, isFirst⟩ := gone first firstHeld rfl
    obtain ⟨_, _, again, isSecond⟩ := gone second secondHeld same.symm
    obtain rfl := Option.some.inj (listed.symm.trans again)
    exact different (Option.some.inj (isFirst.symm.trans isSecond))
  have unknown : ¬ next.Knows first.pobject signal := fun known =>
    ((removal.knows _ _).mp known).2 ⟨rfl, rfl⟩
  rw [Option.eq_none_iff_forall_ne_some]
  intro final ran
  obtain ⟨_, again, ran⟩ := execute_cons_eq_some.mp ran
  obtain rfl := Option.some.inj (taken.symm.trans again)
  obtain ⟨deleted, deleting, ran⟩ := execute_cons_eq_some.mp ran
  obtain ⟨_, closing, _⟩ := execute_cons_eq_some.mp ran
  obtain ⟨emptied, disconnected, isDeleted⟩ := Option.bind_eq_some_iff.mp deleting
  obtain ⟨senders, sending, disconnected⟩ := Option.bind_eq_some_iff.mp disconnected
  obtain ⟨middle, disconnecting, isEmptied⟩ := Option.bind_eq_some_iff.mp disconnected
  obtain rfl := Option.some.inj isEmptied
  obtain rfl := Option.some.inj isDeleted
  have live (sender : Signal) (member : sender ∈ senders) : next.connectedSlots sender ≠ none := by
    have known := ((removal.knows _ _).mp ⟨senders, sending, member⟩).1
    obtain ⟨_, ⟨list, there, _⟩, _⟩ := sound.connected _ _ known
    exact (removal.live sender).mpr ⟨Option.ne_none_iff_exists'.mpr ⟨list, there⟩, id⟩
  obtain ⟨_, again, _, _, _, _, holds, _⟩ := slotDisconnect_all first.pobject senders live
  obtain rfl := Option.some.inj (disconnecting.symm.trans again)
  obtain ⟨rest, restListed, leftMember⟩ := (holds signal left).mpr
    ⟨held, fun gone => unknown ⟨senders, sending, gone.1⟩⟩
  obtain ⟨_, closed, _⟩ := Option.bind_eq_some_iff.mp closing
  obtain ⟨rest', again, closed⟩ := Option.bind_eq_some_iff.mp closed
  obtain rfl := Option.some.inj (restListed.symm.trans again)
  obtain ⟨_, closing, _⟩ := Option.bind_eq_some_iff.mp closed
  refine signalDisconnect_all_live closing left leftMember ?_
  simp [setSenders, here]

end Updates

end Objects

end FiberApp.Sigslot
