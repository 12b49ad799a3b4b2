import Mathlib.Data.List.Nodup
import Mathlib.Data.List.TakeWhile
import FiberApp.Sigslot.Signal

/-! Each side of a connection keeps a pointer to the other, and an emission keeps one into the
list. What each operation does to these pointers. -/

set_option autoImplicit false

namespace FiberApp.Sigslot

open FiberApp.Foundation

variable {Signal Slots Method : Type}

/-- The first entry found is the one that goes. -/
theorem mem_eraseP_iff {Entry : Type} (found : Entry → Bool) {entries : List Entry}
    (nodup : entries.Nodup) (entry : Entry) :
    entry ∈ entries.eraseP found ↔ entry ∈ entries ∧ entries.find? found ≠ some entry := by
  induction entries with
  | nil => simp
  | cons first rest ih =>
      obtain ⟨outside, nodup⟩ := List.nodup_cons.mp nodup
      by_cases here : found first = true
      · simp only [List.eraseP_cons_of_pos here, List.find?_cons_of_pos here, List.mem_cons, ne_eq,
          Option.some.injEq]
        exact ⟨fun later => ⟨.inr later, fun same => outside (same ▸ later)⟩,
          fun member => member.1.resolve_left (Ne.symm member.2)⟩
      · simp only [List.eraseP_cons_of_neg here, List.find?_cons_of_neg here, List.mem_cons,
          ih nodup]
        exact ⟨fun member => member.elim
          (fun same => ⟨.inl same, fun first => here (same ▸ List.find?_some first)⟩)
          fun later => ⟨.inr later.1, later.2⟩,
          fun member => member.1.imp_right fun later => ⟨later, member.2⟩⟩

namespace Objects

def Holds (objects : Objects Signal Slots Method) (signal : Signal)
    (connection : Connection Slots Method) : Prop :=
  ∃ connections, objects.connectedSlots signal = some connections ∧ connection ∈ connections

def Knows (objects : Objects Signal Slots Method) (slots : Slots) (signal : Signal) : Prop :=
  ∃ senders, objects.senders slots = some senders ∧ signal ∈ senders

/-- The caller names objects that exist, and a copy or a new object is one that does not. -/
def Proper (objects : Objects Signal Slots Method) : Operation Signal Slots Method → Prop
  | .newSignal signal => objects.connectedSlots signal = none
  | .newSlots slots => objects.senders slots = none
  | .connect signal pclass _ =>
      objects.connectedSlots signal ≠ none ∧ objects.senders pclass ≠ none
  | .disconnect signal _ | .disconnectAll signal | .deleteSignal signal | .emit signal =>
      objects.connectedSlots signal ≠ none
  | .disconnectSlots slots | .deleteSlots slots => objects.senders slots ≠ none
  | .copySignal signal copy =>
      objects.connectedSlots signal ≠ none ∧ objects.connectedSlots copy = none
  | .copySlots slots copy => objects.senders slots ≠ none ∧ objects.senders copy = none
  | .proceed => objects.emissions ≠ []

/-- The connections that the operation takes from the signal. -/
def Removes [DecidableEq Slots] (objects : Objects Signal Slots Method) (signal : Signal)
    (connection : Connection Slots Method) : Operation Signal Slots Method → Prop
  | .disconnect sender pclass => signal = sender ∧ ∃ connections,
      objects.connectedSlots signal = some connections ∧
        connections.find? (fun other => other.pobject = pclass) = some connection
  | .disconnectAll sender | .deleteSignal sender => signal = sender
  | .disconnectSlots slots | .deleteSlots slots => connection.pobject = slots
  | _ => False

/-- Every pointer between a signal and an object has its counterpart, and every emission stands
at a node of a signal that exists, or at its end. -/
structure Sound (objects : Objects Signal Slots Method) : Prop where
  known : ∀ signal connection, objects.Holds signal connection →
    objects.Knows connection.pobject signal
  connected : ∀ slots signal, objects.Knows slots signal →
    ∃ connection, objects.Holds signal connection ∧ connection.pobject = slots
  emitting : ∀ emission ∈ objects.emissions, objects.connectedSlots emission.signal ≠ none ∧
    ∀ node, emission.it = some node →
      ∃ connection, objects.Holds emission.signal connection ∧ connection.node = node

/-- What the caller has to see to: an object is disconnected from a signal when it has no second
connection to it, and no connection goes that an emission is to call next. -/
structure Careful [DecidableEq Slots] (objects : Objects Signal Slots Method)
    (operation : Operation Signal Slots Method) : Prop where
  single : ∀ signal slots, operation = .disconnect signal slots → ∀ first second,
    objects.Holds signal first → objects.Holds signal second → first.pobject = slots →
      second.pobject = slots → first = second
  awaited : ∀ emission ∈ objects.emissions, ∀ connection,
    objects.Holds emission.signal connection →
      objects.Removes emission.signal connection operation →
        emission.it ≠ some connection.node
  emitting : ∀ signal, operation = .deleteSignal signal →
    ∀ emission ∈ objects.emissions, emission.signal ≠ signal

/-- The nodes of every list are in the order in which they were made. -/
def Numbered (objects : Objects Signal Slots Method) : Prop :=
  ∀ signal connections, objects.connectedSlots signal = some connections →
    connections.Pairwise (fun earlier later => earlier.node < later.node) ∧
      ∀ connection ∈ connections, connection.node < objects.nextNode

theorem Numbered.unique {objects : Objects Signal Slots Method} (numbered : Numbered objects)
    {signal : Signal} {first second : Connection Slots Method}
    (firstHeld : objects.Holds signal first) (secondHeld : objects.Holds signal second)
    (same : first.node = second.node) : first = second := by
  obtain ⟨connections, found, firstMember⟩ := firstHeld
  obtain ⟨_, again, secondMember⟩ := secondHeld
  obtain rfl := Option.some.inj (found.symm.trans again)
  have nodup : (connections.map Connection.node).Nodup :=
    (List.pairwise_map.mpr (numbered signal connections found).1).imp Nat.ne_of_lt
  exact List.inj_on_of_nodup_map nodup firstMember secondMember same

/-- Connections that are made get nodes that were not there. -/
structure Grows (objects next : Objects Signal Slots Method) : Prop where
  nodes : objects.nextNode ≤ next.nextNode
  holds : ∀ signal connection, next.Holds signal connection →
    objects.Holds signal connection ∨ objects.nextNode ≤ connection.node

theorem Grows.refl (objects : Objects Signal Slots Method) : Grows objects objects :=
  ⟨le_rfl, fun _ _ => .inl⟩

theorem Grows.trans {objects middle next : Objects Signal Slots Method}
    (first : Grows objects middle) (second : Grows middle next) : Grows objects next where
  nodes := first.nodes.trans second.nodes
  holds signal connection held := by
    rcases second.holds signal connection held with before | isNew
    · exact first.holds signal connection before
    · exact .inr (first.nodes.trans isNew)

/-- An operation that only takes away: which connections, which senders and which signals. -/
structure Removal (objects next : Objects Signal Slots Method)
    (removes : Signal → Connection Slots Method → Prop) (forgets : Slots → Signal → Prop)
    (deletes : Signal → Prop) : Prop where
  holds : ∀ signal connection, next.Holds signal connection ↔
    objects.Holds signal connection ∧ ¬ removes signal connection
  knows : ∀ slots signal, next.Knows slots signal ↔
    objects.Knows slots signal ∧ ¬ forgets slots signal
  emissions : next.emissions = objects.emissions
  nextNode : next.nextNode = objects.nextNode
  live : ∀ signal, next.connectedSlots signal ≠ none ↔
    objects.connectedSlots signal ≠ none ∧ ¬ deletes signal
  forgotten : ∀ signal connection, removes signal connection →
    forgets connection.pobject signal

theorem Removal.grows {objects next : Objects Signal Slots Method}
    {removes : Signal → Connection Slots Method → Prop} {forgets : Slots → Signal → Prop}
    {deletes : Signal → Prop} (removal : Removal objects next removes forgets deletes) :
    Grows objects next :=
  ⟨removal.nextNode.ge, fun signal connection held =>
    .inl ((removal.holds signal connection).mp held).1⟩

theorem Removal.sound_iff {objects next : Objects Signal Slots Method}
    {removes : Signal → Connection Slots Method → Prop} {forgets : Slots → Signal → Prop}
    {deletes : Signal → Prop} (removal : Removal objects next removes forgets deletes)
    (sound : Sound objects) (numbered : Numbered objects) :
    Sound next ↔
      (∀ signal connection, objects.Holds signal connection →
        forgets connection.pobject signal → removes signal connection) ∧
      (∀ emission ∈ objects.emissions, ∀ connection, objects.Holds emission.signal connection →
        removes emission.signal connection → emission.it ≠ some connection.node) ∧
      ∀ emission ∈ objects.emissions, ¬ deletes emission.signal := by
  constructor
  · intro kept
    refine ⟨fun signal connection held forgets => ?_,
      fun emission member connection held gone => ?_,
      fun emission member => ?_⟩
    · by_contra stays
      have known := kept.known signal connection ((removal.holds signal connection).mpr
        ⟨held, stays⟩)
      exact ((removal.knows _ _).mp known).2 forgets
    · intro stands
      obtain ⟨other, otherHeld, same⟩ := (kept.emitting emission
        (removal.emissions ▸ member)).2 _ stands
      have left := (removal.holds _ _).mp otherHeld
      exact left.2 (numbered.unique left.1 held same ▸ gone)
    · exact ((removal.live _).mp (kept.emitting emission (removal.emissions ▸ member)).1).2
  · rintro ⟨single, awaited, living⟩
    refine ⟨fun signal connection held => ?_, fun slots signal known => ?_,
      fun emission member => ?_⟩
    · obtain ⟨held, stays⟩ := (removal.holds signal connection).mp held
      exact (removal.knows _ _).mpr ⟨sound.known signal connection held,
        fun forgets => stays (single signal connection held forgets)⟩
    · obtain ⟨known, remembered⟩ := (removal.knows slots signal).mp known
      obtain ⟨connection, held, rfl⟩ := sound.connected slots signal known
      exact ⟨connection, (removal.holds _ _).mpr ⟨held, fun gone =>
        remembered (removal.forgotten signal connection gone)⟩, rfl⟩
    · rw [removal.emissions] at member
      have stands := sound.emitting emission member
      refine ⟨(removal.live _).mpr ⟨stands.1, living emission member⟩, fun node it => ?_⟩
      obtain ⟨connection, held, rfl⟩ := stands.2 node it
      exact ⟨connection, (removal.holds _ _).mpr ⟨held, fun gone =>
        awaited emission member connection held gone it⟩, rfl⟩

section Updates

variable [DecidableEq Signal] [DecidableEq Slots]

omit [DecidableEq Slots] in
theorem holds_setConnections (objects : Objects Signal Slots Method) (signal other : Signal)
    (connections : Option (List (Connection Slots Method)))
    (connection : Connection Slots Method) :
    (objects.setConnections signal connections).Holds other connection ↔
      if other = signal then ∃ list, connections = some list ∧ connection ∈ list
      else objects.Holds other connection := by
  by_cases same : other = signal
  · simp only [Holds, setConnections, same, Function.update_self, if_true]
  · simp only [Holds, setConnections, Function.update_of_ne same, if_neg same]

omit [DecidableEq Signal] in
theorem knows_setSenders (objects : Objects Signal Slots Method) (slots other : Slots)
    (senders : Option (List Signal)) (signal : Signal) :
    (objects.setSenders slots senders).Knows other signal ↔
      if other = slots then ∃ list, senders = some list ∧ signal ∈ list
      else objects.Knows other signal := by
  by_cases same : other = slots
  · simp only [Knows, setSenders, same, Function.update_self, if_true]
  · simp only [Knows, setSenders, Function.update_of_ne same, if_neg same]

omit [DecidableEq Slots] in
theorem setConnections_none_iff {objects : Objects Signal Slots Method} {signal : Signal}
    (live : objects.connectedSlots signal ≠ none)
    (connections : List (Connection Slots Method)) (other : Signal) :
    (objects.setConnections signal (some connections)).connectedSlots other = none ↔
      objects.connectedSlots other = none := by
  by_cases same : other = signal
  · simp [setConnections, same, live]
  · simp [setConnections, same]

omit [DecidableEq Signal] in
theorem setSenders_none_iff {objects : Objects Signal Slots Method} {slots : Slots}
    (live : objects.senders slots ≠ none) (senders : List Signal) (other : Slots) :
    (objects.setSenders slots (some senders)).senders other = none ↔
      objects.senders other = none := by
  by_cases same : other = slots
  · simp [setSenders, same, live]
  · simp [setSenders, same]

omit [DecidableEq Slots] in
theorem Numbered.fewer {objects : Objects Signal Slots Method} (numbered : Numbered objects)
    {signal : Signal} {connections fewer : List (Connection Slots Method)}
    (found : objects.connectedSlots signal = some connections)
    (sublist : fewer.Sublist connections) :
    Numbered (objects.setConnections signal (some fewer)) := by
  intro other list listed
  by_cases same : other = signal
  · have isFewer : fewer = list := by simpa [setConnections, same] using listed
    subst isFewer
    exact ⟨(numbered signal connections found).1.sublist sublist,
      fun connection member => (numbered signal connections found).2 connection
        (sublist.subset member)⟩
  · exact numbered other list (by simpa [setConnections, same] using listed)

/-- What a call on the object does, when it exists. -/
theorem signalConnect_spec {objects : Objects Signal Slots Method} {slots : Slots}
    (live : objects.senders slots ≠ none) (sender : Signal) :
    ∃ next, objects.signalConnect slots sender = some next ∧
      next.connectedSlots = objects.connectedSlots ∧ next.emissions = objects.emissions ∧
      next.nextNode = objects.nextNode ∧
      (∀ other, next.senders other = none ↔ objects.senders other = none) ∧
      ∀ other signal, next.Knows other signal ↔
        objects.Knows other signal ∨ slots = other ∧ signal = sender := by
  obtain ⟨senders, found⟩ := Option.ne_none_iff_exists'.mp live
  refine ⟨objects.setSenders slots (some (senders.insert sender)), by simp [signalConnect, found],
    rfl, rfl, rfl, setSenders_none_iff live _, fun other signal => ?_⟩
  rw [knows_setSenders]
  by_cases same : other = slots
  · simp [Knows, same, found, or_comm]
  · simp [same, Ne.symm same]

theorem signalDisconnect_spec {objects : Objects Signal Slots Method} {slots : Slots}
    (live : objects.senders slots ≠ none) (sender : Signal) :
    ∃ next, objects.signalDisconnect slots sender = some next ∧
      next.connectedSlots = objects.connectedSlots ∧ next.emissions = objects.emissions ∧
      next.nextNode = objects.nextNode ∧
      (∀ other, next.senders other = none ↔ objects.senders other = none) ∧
      ∀ other signal, next.Knows other signal ↔
        objects.Knows other signal ∧ ¬ (slots = other ∧ signal = sender) := by
  obtain ⟨senders, found⟩ := Option.ne_none_iff_exists'.mp live
  refine ⟨objects.setSenders slots (some (senders.filter fun other => other ≠ sender)),
    by simp [signalDisconnect, found], rfl, rfl, rfl, setSenders_none_iff live _,
    fun other signal => ?_⟩
  rw [knows_setSenders]
  by_cases same : other = slots
  · simp [Knows, same, found]
  · simp [same, Ne.symm same]

/-- A signal takes itself from the senders of all it is connected to. -/
theorem signalDisconnect_all (signal : Signal) (connections : List (Connection Slots Method))
    {objects : Objects Signal Slots Method}
    (live : ∀ connection ∈ connections, objects.senders connection.pobject ≠ none) :
    ∃ next, execute (fun objects connection =>
        signalDisconnect objects connection.pobject signal) objects connections = some next ∧
      next.connectedSlots = objects.connectedSlots ∧ next.emissions = objects.emissions ∧
      next.nextNode = objects.nextNode ∧
      ∀ slots other, next.Knows slots other ↔ objects.Knows slots other ∧
        ¬ (other = signal ∧ ∃ connection ∈ connections, connection.pobject = slots) := by
  induction connections generalizing objects with
  | nil => exact ⟨objects, rfl, rfl, rfl, rfl, by simp⟩
  | cons connection rest ih =>
      obtain ⟨middle, taken, lists, emissions, nodes, alive, knows⟩ :=
        signalDisconnect_spec (live connection List.mem_cons_self) signal
      have stillLive (other : Connection Slots Method) (member : other ∈ rest) :
          middle.senders other.pobject ≠ none :=
        (alive _).not.mpr (live other (List.mem_cons_of_mem _ member))
      obtain ⟨next, ran, lists', emissions', nodes', knows'⟩ := ih stillLive
      refine ⟨next, execute_cons_eq_some.mpr ⟨middle, taken, ran⟩, lists'.trans lists,
        emissions'.trans emissions, nodes'.trans nodes, fun slots other => ?_⟩
      rw [knows', knows]
      simp only [List.mem_cons, exists_eq_or_imp, and_assoc, not_and, not_or, and_congr_right_iff]
      exact fun _ => ⟨fun apart same => ⟨fun here => apart.1 here same, apart.2 same⟩,
        fun apart => ⟨fun here same => (apart same).1 here, fun same => (apart same).2⟩⟩

theorem slotDisconnect_spec {objects : Objects Signal Slots Method} {signal : Signal}
    (live : objects.connectedSlots signal ≠ none) (pslot : Slots) :
    ∃ next, slotDisconnect pslot objects signal = some next ∧
      next.senders = objects.senders ∧ next.emissions = objects.emissions ∧
      next.nextNode = objects.nextNode ∧
      (∀ other, next.connectedSlots other = none ↔ objects.connectedSlots other = none) ∧
      (∀ other connection, next.Holds other connection ↔
        objects.Holds other connection ∧ ¬ (signal = other ∧ connection.pobject = pslot)) ∧
      (Numbered objects → Numbered next) := by
  obtain ⟨connections, found⟩ := Option.ne_none_iff_exists'.mp live
  refine ⟨objects.setConnections signal
      (some (connections.filter fun connection => connection.pobject ≠ pslot)),
    by simp [slotDisconnect, found], rfl, rfl, rfl, setConnections_none_iff live _,
    fun other connection => ?_, fun numbered => ?_⟩
  · rw [holds_setConnections]
    by_cases same : other = signal
    · simp [Holds, same, found]
    · simp [same, Ne.symm same]
  · exact numbered.fewer found (List.filter_sublist)

/-- An object takes itself from all the signals it is connected to. -/
theorem slotDisconnect_all (pslot : Slots) (senders : List Signal)
    {objects : Objects Signal Slots Method}
    (live : ∀ signal ∈ senders, objects.connectedSlots signal ≠ none) :
    ∃ next, execute (slotDisconnect pslot) objects senders = some next ∧
      next.senders = objects.senders ∧ next.emissions = objects.emissions ∧
      next.nextNode = objects.nextNode ∧
      (∀ other, next.connectedSlots other = none ↔ objects.connectedSlots other = none) ∧
      (∀ other connection, next.Holds other connection ↔
        objects.Holds other connection ∧ ¬ (other ∈ senders ∧ connection.pobject = pslot)) ∧
      (Numbered objects → Numbered next) := by
  induction senders generalizing objects with
  | nil => exact ⟨objects, rfl, rfl, rfl, rfl, fun _ => Iff.rfl, by simp, id⟩
  | cons signal rest ih =>
      obtain ⟨middle, taken, senders, emissions, nodes, alive, holds, numbered⟩ :=
        slotDisconnect_spec (live signal List.mem_cons_self) pslot
      have stillLive (other : Signal) (member : other ∈ rest) :
          middle.connectedSlots other ≠ none :=
        (alive _).not.mpr (live other (List.mem_cons_of_mem _ member))
      obtain ⟨next, ran, senders', emissions', nodes', alive', holds', numbered'⟩ := ih stillLive
      refine ⟨next, execute_cons_eq_some.mpr ⟨middle, taken, ran⟩, senders'.trans senders,
        emissions'.trans emissions, nodes'.trans nodes,
        fun other => (alive' other).trans (alive other),
        fun other connection => ?_, numbered' ∘ numbered⟩
      rw [holds', holds]
      simp only [List.mem_cons, and_assoc, not_and, and_congr_right_iff]
      exact fun _ => ⟨fun apart here => here.elim (fun same => apart.1 same.symm) apart.2,
        fun apart => ⟨fun same => apart (.inl same.symm), fun member => apart (.inr member)⟩⟩

omit [DecidableEq Slots] in
theorem pushBack_spec {objects : Objects Signal Slots Method} {signal : Signal}
    (live : objects.connectedSlots signal ≠ none) (pobject : Slots) (pmemfun : Method) :
    ∃ next, objects.pushBack signal pobject pmemfun = some next ∧
      next.senders = objects.senders ∧ next.emissions = objects.emissions ∧
      (∀ other, next.connectedSlots other = none ↔ objects.connectedSlots other = none) ∧
      (∀ other connection, next.Holds other connection ↔ objects.Holds other connection ∨
        other = signal ∧ connection = ⟨objects.nextNode, pobject, pmemfun⟩) ∧
      next.nextNode = objects.nextNode + 1 ∧ (Numbered objects → Numbered next) := by
  obtain ⟨connections, found⟩ := Option.ne_none_iff_exists'.mp live
  refine ⟨{ objects.setConnections signal
      (some (connections ++ [⟨objects.nextNode, pobject, pmemfun⟩])) with
        nextNode := objects.nextNode + 1 }, by rw [pushBack, found]; rfl, rfl, rfl,
    setConnections_none_iff live _, fun other connection => ?_, rfl,
    fun numbered other list listed => ?_⟩
  · refine (holds_setConnections objects signal other _ connection).trans ?_
    by_cases same : other = signal
    · simp [Holds, same, found]
    · simp [same]
  · by_cases same : other = signal
    · have appended : connections ++ [⟨objects.nextNode, pobject, pmemfun⟩] = list := by
        simpa [setConnections, same] using listed
      have before := numbered signal connections found
      subst appended
      refine ⟨List.pairwise_append.mpr ⟨before.1, List.pairwise_singleton _ _, ?_⟩, ?_⟩
      · intro earlier member later isNew
        rw [List.mem_singleton.mp isNew]
        exact before.2 earlier member
      · intro connection member
        rcases List.mem_append.mp member with member | isNew
        · exact Nat.lt_succ_of_lt (before.2 connection member)
        · rw [List.mem_singleton.mp isNew]
          exact Nat.lt_succ_self _
    · have listed : objects.connectedSlots other = some list := by
        simpa [setConnections, same] using listed
      exact ⟨(numbered other list listed).1, fun connection member =>
        Nat.lt_succ_of_lt ((numbered other list listed).2 connection member)⟩

omit [DecidableEq Signal] [DecidableEq Slots] in
theorem Numbered.nodup {objects : Objects Signal Slots Method} (numbered : Numbered objects)
    {signal : Signal} {connections : List (Connection Slots Method)}
    (found : objects.connectedSlots signal = some connections) : connections.Nodup :=
  (numbered signal connections found).1.imp fun less =>
    mt (congrArg Connection.node) (Nat.ne_of_lt less)

theorem Sound.disconnect_removal {objects : Objects Signal Slots Method} (sound : Sound objects)
    (numbered : Numbered objects) {signal : Signal} (live : objects.connectedSlots signal ≠ none)
    (pclass : Slots) :
    ∃ next, objects.disconnect signal pclass = some next ∧ Numbered next ∧
      Removal objects next (fun other connection =>
          objects.Removes other connection (.disconnect signal pclass))
        (fun slots other => slots = pclass ∧ other = signal) fun _ => False := by
  obtain ⟨connections, found⟩ := Option.ne_none_iff_exists'.mp live
  have first {other : Signal} {connection : Connection Slots Method}
      (removed : objects.Removes other connection (.disconnect signal pclass)) :
      connection.pobject = pclass ∧ other = signal := by
    obtain ⟨same, _, _, isFirst⟩ := removed
    have found := List.find?_some isFirst
    exact ⟨of_decide_eq_true found, same⟩
  have stays (other : Signal) (connection : Connection Slots Method) :
      (objects.setConnections signal (some (connections.eraseP fun connection =>
          connection.pobject = pclass))).Holds other connection ↔
        objects.Holds other connection ∧
          ¬ objects.Removes other connection (.disconnect signal pclass) := by
    rw [holds_setConnections]
    by_cases same : other = signal
    · simp [Holds, Removes, same, found, mem_eraseP_iff _ (numbered.nodup found)]
    · simp [Removes, same]
  cases any : connections.any fun connection => connection.pobject = pclass with
  | false =>
      have noneFound : ∀ connection ∈ connections, connection.pobject ≠ pclass := by
        simpa using any
      refine ⟨objects, by
        simp only [disconnect, found, Option.bind_eq_bind, Option.bind_some, any,
          Bool.false_eq_true, if_false], numbered, ?_⟩
      exact
        { holds := fun other connection => iff_self_and.mpr fun held removed => by
            obtain ⟨same, rfl⟩ := first removed
            obtain ⟨_, again, member⟩ := held
            obtain rfl := Option.some.inj (found.symm.trans again)
            exact noneFound connection member same
          knows := fun slots other => iff_self_and.mpr fun known forgets => by
            obtain ⟨connection, ⟨_, again, member⟩, same⟩ := sound.connected slots other known
            obtain rfl := Option.some.inj (found.symm.trans (forgets.2 ▸ again))
            exact noneFound connection member (same.trans forgets.1)
          emissions := rfl
          nextNode := rfl
          live := fun other => by simp
          forgotten := fun other connection removed => first removed }
  | true =>
      obtain ⟨connection, member, same⟩ := List.any_eq_true.mp any
      have same : connection.pobject = pclass := of_decide_eq_true same
      obtain ⟨senders, sending, _⟩ := sound.known signal connection ⟨connections, found, member⟩
      rw [same] at sending
      have alive : (objects.setConnections signal (some (connections.eraseP fun connection =>
          connection.pobject = pclass))).senders pclass ≠ none := by
        simp [setConnections, sending]
      obtain ⟨next, taken, lists, emissions, nodes, _, knows⟩ := signalDisconnect_spec alive signal
      refine ⟨next, by
        simp only [disconnect, found, Option.bind_eq_bind, Option.bind_some, any, if_true, taken],
        ?_, ?_⟩
      · have fewer := numbered.fewer found
          (List.eraseP_sublist (p := fun connection => connection.pobject = pclass))
        intro other list listed
        rw [nodes]
        exact fewer other list (lists ▸ listed)
      · exact
          { holds := fun other connection => by
              rw [← stays, Holds, lists]
              exact Iff.rfl
            knows := fun slots other => by
              rw [knows]
              simp only [eq_comm]
              exact Iff.rfl
            emissions := emissions
            nextNode := nodes
            live := fun other => by
              rw [lists]
              by_cases same : other = signal
              · simp [setConnections, same, found]
              · simp [setConnections, same]
            forgotten := fun other connection removed => first removed }

/-- `disconnect_all` of a signal, and its destructor when `left` is `none`. -/
theorem Sound.disconnectAll_removal {objects : Objects Signal Slots Method} (sound : Sound objects)
    (numbered : Numbered objects) {signal : Signal} (live : objects.connectedSlots signal ≠ none) :
    ∃ middle : Objects Signal Slots Method,
      objects.disconnectAll signal = some (middle.setConnections signal (some [])) ∧
      ∀ left, left = none ∨ left = some [] →
        Numbered (middle.setConnections signal left) ∧
        Removal objects (middle.setConnections signal left) (fun other _ => other = signal)
          (fun _ other => other = signal) fun other => left = none ∧ other = signal := by
  obtain ⟨connections, found⟩ := Option.ne_none_iff_exists'.mp live
  have alive (connection : Connection Slots Method) (member : connection ∈ connections) :
      objects.senders connection.pobject ≠ none := by
    obtain ⟨senders, sending, _⟩ := sound.known signal connection ⟨connections, found, member⟩
    exact sending ▸ Option.some_ne_none senders
  obtain ⟨middle, ran, lists, emissions, nodes, knows⟩ :=
    signalDisconnect_all signal connections alive
  refine ⟨middle, by
    simp only [disconnectAll, found, Option.bind_eq_bind, Option.bind_some, ran], ?_⟩
  intro left isLeft
  constructor
  · intro other list listed
    by_cases same : other = signal
    · have isEmpty : list = [] := by
        rcases isLeft with rfl | rfl
        · simp [setConnections, same] at listed
        · simpa [setConnections, same, eq_comm] using listed
      rw [isEmpty]
      exact ⟨.nil, nofun⟩
    · have listed : objects.connectedSlots other = some list := by
        simpa [setConnections, same, lists] using listed
      exact nodes ▸ numbered other list listed
  · exact
      { holds := fun other connection => by
          rw [holds_setConnections]
          by_cases same : other = signal
          · rcases isLeft with rfl | rfl <;> simp [same]
          · simp [same, Holds, lists]
        knows := fun slots other => by
          refine (knows slots other).trans (and_congr_right fun known => not_congr ?_)
          refine and_iff_left_of_imp fun same => ?_
          obtain ⟨connection, ⟨_, again, member⟩, here⟩ := sound.connected slots other known
          obtain rfl := Option.some.inj (found.symm.trans (same ▸ again))
          exact ⟨connection, member, here⟩
        emissions := emissions
        nextNode := nodes
        live := fun other => by
          by_cases same : other = signal
          · rcases isLeft with rfl | rfl <;> simp [setConnections, same, found]
          · simp [setConnections, same, lists]
        forgotten := fun _ _ => id }

theorem Sound.disconnectSlots_removal {objects : Objects Signal Slots Method}
    (sound : Sound objects) (numbered : Numbered objects) {slots : Slots}
    (live : objects.senders slots ≠ none) :
    ∃ middle : Objects Signal Slots Method,
      objects.disconnectSlots slots = some (middle.setSenders slots (some [])) ∧
      ∀ left, left = none ∨ left = some [] →
        Numbered (middle.setSenders slots left) ∧
        Removal objects (middle.setSenders slots left)
          (fun _ connection => connection.pobject = slots) (fun other _ => other = slots)
          fun _ => False := by
  obtain ⟨senders, found⟩ := Option.ne_none_iff_exists'.mp live
  have alive (signal : Signal) (member : signal ∈ senders) :
      objects.connectedSlots signal ≠ none := by
    obtain ⟨_, ⟨list, listed, _⟩, _⟩ := sound.connected slots signal ⟨senders, found, member⟩
    exact listed ▸ Option.some_ne_none list
  obtain ⟨middle, ran, same, emissions, nodes, living, holds, kept⟩ :=
    slotDisconnect_all slots senders alive
  refine ⟨middle, by
    simp only [disconnectSlots, found, Option.bind_eq_bind, Option.bind_some, ran], ?_⟩
  intro left isLeft
  refine ⟨kept numbered, ?_⟩
  exact
    { holds := fun other connection => by
        refine (holds other connection).trans (and_congr_right fun held => not_congr ?_)
        refine and_iff_right_of_imp fun here => ?_
        obtain ⟨_, again, member⟩ := here ▸ sound.known other connection held
        obtain rfl := Option.some.inj (found.symm.trans again)
        exact member
      knows := fun other signal => by
        rw [knows_setSenders]
        by_cases here : other = slots
        · rcases isLeft with rfl | rfl <;> simp [here]
        · simp [here, Knows, same]
      emissions := emissions
      nextNode := nodes
      live := fun other => by
        rw [not_false_eq_true, and_true]
        exact (living other).not
      forgotten := fun _ _ => id }

omit [DecidableEq Signal] [DecidableEq Slots] in
/-- An operation that takes nothing away keeps the emissions where they stand. -/
theorem Sound.emitting_of_holds {objects next : Objects Signal Slots Method}
    (sound : Sound objects) (emissions : next.emissions = objects.emissions)
    (holds : ∀ signal connection, objects.Holds signal connection → next.Holds signal connection)
    (live : ∀ signal, objects.connectedSlots signal ≠ none → next.connectedSlots signal ≠ none) :
    ∀ emission ∈ next.emissions, next.connectedSlots emission.signal ≠ none ∧
      ∀ node, emission.it = some node →
        ∃ connection, next.Holds emission.signal connection ∧ connection.node = node := by
  rw [emissions]
  intro emission member
  obtain ⟨alive, stands⟩ := sound.emitting emission member
  refine ⟨live _ alive, fun node it => ?_⟩
  obtain ⟨connection, held, same⟩ := stands node it
  exact ⟨connection, holds _ _ held, same⟩

theorem Sound.connect {objects : Objects Signal Slots Method} (sound : Sound objects)
    (numbered : Numbered objects) {signal : Signal} {pclass : Slots}
    (live : objects.connectedSlots signal ≠ none) (alive : objects.senders pclass ≠ none)
    (pmemfun : Method) :
    ∃ next, objects.connect signal pclass pmemfun = some next ∧ Sound next ∧ Numbered next ∧
      Grows objects next ∧ next.emissions = objects.emissions ∧
      (∀ other, next.connectedSlots other = none ↔ objects.connectedSlots other = none) ∧
      ∀ other, next.senders other = none ↔ objects.senders other = none := by
  obtain ⟨middle, pushed, senders, emissions, living, holds, more, counted⟩ :=
    pushBack_spec live pclass pmemfun
  have stillAlive : middle.senders pclass ≠ none := senders ▸ alive
  obtain ⟨next, taken, lists, emissions', nodes, sending, knows⟩ :=
    signalConnect_spec stillAlive signal
  have held (other : Signal) (connection : Connection Slots Method) :
      next.Holds other connection ↔ objects.Holds other connection ∨
        other = signal ∧ connection = ⟨objects.nextNode, pclass, pmemfun⟩ := by
    rw [← holds, Holds, lists]
    exact Iff.rfl
  have known (other : Slots) (sender : Signal) :
      next.Knows other sender ↔ objects.Knows other sender ∨ pclass = other ∧ sender = signal := by
    rw [knows, Knows, senders]
    exact Iff.rfl
  refine ⟨next, by
      simp only [Objects.connect, Option.bind_eq_bind, pushed, Option.bind_some, taken], ?_, ?_,
    ⟨by rw [nodes, more]; exact Nat.le_succ _, fun other connection here =>
      ((held other connection).mp here).imp_right fun isNew => by rw [isNew.2]⟩,
    emissions'.trans emissions, fun other => by rw [lists]; exact living other,
    fun other => by rw [sending, senders]⟩
  · exact
      { known := fun other connection here => by
          rcases (held other connection).mp here with before | ⟨rfl, rfl⟩
          · exact (known _ _).mpr (.inl (sound.known other connection before))
          · exact (known _ _).mpr (.inr ⟨rfl, rfl⟩)
        connected := fun other sender here => by
          rcases (known other sender).mp here with before | ⟨rfl, rfl⟩
          · obtain ⟨connection, held', same⟩ := sound.connected other sender before
            exact ⟨connection, (held _ _).mpr (.inl held'), same⟩
          · exact ⟨_, (held _ _).mpr (.inr ⟨rfl, rfl⟩), rfl⟩
        emitting := sound.emitting_of_holds (emissions'.trans emissions)
          (fun other connection before => (held other connection).mpr (.inl before))
          fun other => by rw [lists]; exact (living other).not.mpr }
  · intro other list listed
    rw [nodes]
    exact counted numbered other list (lists ▸ listed)

/-- A list of connections is made one after the other. -/
theorem Sound.connects {signal : Signal} (connections : List (Connection Slots Method))
    {objects : Objects Signal Slots Method} (sound : Sound objects) (numbered : Numbered objects)
    (live : objects.connectedSlots signal ≠ none)
    (alive : ∀ connection ∈ connections, objects.senders connection.pobject ≠ none) :
    ∃ next, execute (fun objects connection =>
        Objects.connect objects signal connection.pobject connection.pmemfun) objects connections =
          some next ∧ Sound next ∧ Numbered next ∧ Grows objects next ∧
      next.emissions = objects.emissions := by
  induction connections generalizing objects with
  | nil => exact ⟨objects, rfl, sound, numbered, Grows.refl objects, rfl⟩
  | cons connection rest ih =>
      obtain ⟨middle, taken, sound', numbered', grows, emissions, living, sending⟩ :=
        sound.connect numbered live (alive connection List.mem_cons_self) connection.pmemfun
      obtain ⟨next, ran, kept, counted, grows', emissions'⟩ := ih sound' numbered'
        ((living signal).not.mpr live)
        fun other member => (sending _).not.mpr (alive other (List.mem_cons_of_mem _ member))
      exact ⟨next, execute_cons_eq_some.mpr ⟨middle, taken, ran⟩, kept, counted,
        grows.trans grows', emissions'.trans emissions⟩

omit [DecidableEq Slots] in
theorem pushBack_all (signal : Signal) (pobject : Slots)
    (connections : List (Connection Slots Method)) {objects : Objects Signal Slots Method}
    (live : objects.connectedSlots signal ≠ none) :
    ∃ next, execute (fun objects connection =>
        pushBack objects signal pobject connection.pmemfun) objects connections = some next ∧
      next.senders = objects.senders ∧ next.emissions = objects.emissions ∧
      (∀ other, next.connectedSlots other = none ↔ objects.connectedSlots other = none) ∧
      (∀ other connection, objects.Holds other connection → next.Holds other connection) ∧
      (∀ other connection, next.Holds other connection →
        objects.Holds other connection ∨ other = signal ∧ connection.pobject = pobject) ∧
      (connections ≠ [] → ∃ connection, next.Holds signal connection ∧
        connection.pobject = pobject) ∧
      Grows objects next ∧ (Numbered objects → Numbered next) := by
  induction connections generalizing objects with
  | nil => exact ⟨objects, rfl, rfl, rfl, fun _ => Iff.rfl, fun _ _ => id, fun _ _ => .inl,
      fun some => absurd rfl some, Grows.refl objects, id⟩
  | cons connection rest ih =>
      obtain ⟨middle, taken, senders, emissions, living, holds, more, numbered⟩ :=
        pushBack_spec live pobject connection.pmemfun
      have grows : Grows objects middle := ⟨more ▸ Nat.le_succ _, fun other connection here =>
        ((holds other connection).mp here).imp_right fun isNew => by rw [isNew.2]⟩
      obtain ⟨next, ran, senders', emissions', living', kept, new, _, grows', numbered'⟩ :=
        ih ((living signal).not.mpr live)
      refine ⟨next, execute_cons_eq_some.mpr ⟨middle, taken, ran⟩, senders'.trans senders,
        emissions'.trans emissions, fun other => (living' other).trans (living other),
        fun other connection held => kept _ _ ((holds _ _).mpr (.inl held)),
        fun other connection held => ?_, fun _ => ?_, grows.trans grows', numbered' ∘ numbered⟩
      · rcases new other connection held with before | isNew
        · refine ((holds _ _).mp before).imp_right fun isNew => ⟨isNew.1, ?_⟩
          rw [isNew.2]
        · exact .inr isNew
      · exact ⟨_, kept _ _ ((holds _ _).mpr (.inr ⟨rfl, rfl⟩)), rfl⟩

/-- One sender of the object is connected to its copy as well. -/
theorem Sound.duplicate {objects : Objects Signal Slots Method} (sound : Sound objects)
    (numbered : Numbered objects) {slots copy : Slots} {sender : Signal}
    (knows : objects.Knows slots sender) (alive : objects.senders copy ≠ none) :
    ∃ next, (do
        let objects ← slotDuplicate slots copy objects sender
        objects.signalConnect copy sender) = some next ∧
      Sound next ∧ Numbered next ∧ Grows objects next ∧ next.emissions = objects.emissions ∧
      (∀ other signal, objects.Knows other signal → next.Knows other signal) ∧
      ∀ other, next.senders other = none ↔ objects.senders other = none := by
  obtain ⟨original, ⟨connections, found, member⟩, same⟩ := sound.connected slots sender knows
  have live : objects.connectedSlots sender ≠ none := found ▸ Option.some_ne_none connections
  have some_copied : (connections.filter fun connection => connection.pobject = slots) ≠ [] :=
    List.ne_nil_of_mem (List.mem_filter.mpr ⟨member, by simpa using same⟩)
  obtain ⟨middle, ran, senders, emissions, living, kept, new, copied, grows, counted⟩ :=
    pushBack_all sender copy (connections.filter fun connection => connection.pobject = slots) live
  have stillAlive : middle.senders copy ≠ none := senders ▸ alive
  obtain ⟨next, taken, lists, emissions', nodes, sending, knows'⟩ :=
    signalConnect_spec stillAlive sender
  have held (other : Signal) (connection : Connection Slots Method) :
      next.Holds other connection ↔ middle.Holds other connection := by
    rw [Holds, lists]
    exact Iff.rfl
  have known (other : Slots) (signal : Signal) :
      next.Knows other signal ↔ objects.Knows other signal ∨ copy = other ∧ signal = sender := by
    rw [knows', Knows, senders]
    exact Iff.rfl
  refine ⟨next, ?_, ?_, ?_, ⟨nodes ▸ grows.nodes, fun other connection here =>
      grows.holds other connection ((held _ _).mp here)⟩, emissions'.trans emissions,
    fun other signal before => (known other signal).mpr (.inl before),
    fun other => by rw [sending, senders]⟩
  · simp only [slotDuplicate, found, Option.bind_eq_bind, Option.bind_some, ran, taken]
  · exact
      { known := fun other connection here => by
          rcases new other connection ((held _ _).mp here) with before | ⟨rfl, rfl⟩
          · exact (known _ _).mpr (.inl (sound.known other connection before))
          · exact (known _ _).mpr (.inr ⟨rfl, rfl⟩)
        connected := fun other signal here => by
          rcases (known other signal).mp here with before | ⟨rfl, rfl⟩
          · obtain ⟨connection, held', same⟩ := sound.connected other signal before
            exact ⟨connection, (held _ _).mpr (kept _ _ held'), same⟩
          · obtain ⟨connection, held', same⟩ := copied some_copied
            exact ⟨connection, (held _ _).mpr held', same⟩
        emitting := sound.emitting_of_holds (emissions'.trans emissions)
          (fun other connection before => (held other connection).mpr (kept _ _ before))
          fun other => by rw [lists]; exact (living other).not.mpr }
  · intro other list listed
    rw [nodes]
    exact counted numbered other list (lists ▸ listed)

theorem Sound.duplicates {slots copy : Slots} (senders : List Signal)
    {objects : Objects Signal Slots Method} (sound : Sound objects) (numbered : Numbered objects)
    (knows : ∀ sender ∈ senders, objects.Knows slots sender)
    (alive : objects.senders copy ≠ none) :
    ∃ next, execute (fun objects sender => do
        let objects ← slotDuplicate slots copy objects sender
        objects.signalConnect copy sender) objects senders = some next ∧
      Sound next ∧ Numbered next ∧ Grows objects next ∧ next.emissions = objects.emissions := by
  induction senders generalizing objects with
  | nil => exact ⟨objects, rfl, sound, numbered, Grows.refl objects, rfl⟩
  | cons sender rest ih =>
      obtain ⟨middle, taken, sound', numbered', grows, emissions, kept, sending⟩ :=
        sound.duplicate numbered (knows sender List.mem_cons_self) alive
      obtain ⟨next, ran, sound', numbered', grows', emissions'⟩ := ih sound' numbered'
        (fun other member => kept _ _ (knows other (List.mem_cons_of_mem _ member)))
        ((sending copy).not.mpr alive)
      exact ⟨next, execute_cons_eq_some.mpr ⟨middle, taken, ran⟩, sound', numbered',
        grows.trans grows', emissions'.trans emissions⟩

omit [DecidableEq Slots] in
theorem Sound.newSignal {objects : Objects Signal Slots Method} (sound : Sound objects)
    (numbered : Numbered objects) {signal : Signal} (fresh : objects.connectedSlots signal = none) :
    Sound (objects.setConnections signal (some [])) ∧
      Numbered (objects.setConnections signal (some [])) ∧
      Grows objects (objects.setConnections signal (some [])) := by
  have held (other : Signal) (connection : Connection Slots Method) :
      (objects.setConnections signal (some [])).Holds other connection ↔
        objects.Holds other connection := by
    rw [holds_setConnections]
    by_cases same : other = signal
    · simp [same, Holds, fresh]
    · simp [same]
  refine ⟨⟨fun other connection here => sound.known other connection ((held _ _).mp here),
    fun slots other here => ?_, sound.emitting_of_holds rfl (fun _ _ => (held _ _).mpr) ?_⟩, ?_,
    ⟨le_rfl, fun _ _ here => .inl ((held _ _).mp here)⟩⟩
  · obtain ⟨connection, before, same⟩ := sound.connected slots other here
    exact ⟨connection, (held _ _).mpr before, same⟩
  · intro other live
    by_cases same : other = signal
    · exact absurd (same ▸ fresh) live
    · simpa [setConnections, same] using live
  · intro other list listed
    by_cases same : other = signal
    · have isEmpty : [] = list := by simpa [setConnections, same] using listed
      exact isEmpty ▸ ⟨.nil, nofun⟩
    · exact numbered other list (by simpa [setConnections, same] using listed)

omit [DecidableEq Signal] in
theorem Sound.newSlots {objects : Objects Signal Slots Method} (sound : Sound objects)
    {slots : Slots} (fresh : objects.senders slots = none) :
    Sound (objects.setSenders slots (some [])) := by
  have known (other : Slots) (signal : Signal) :
      (objects.setSenders slots (some [])).Knows other signal ↔ objects.Knows other signal := by
    rw [knows_setSenders]
    by_cases same : other = slots
    · simp [same, Knows, fresh]
    · simp [same]
  exact ⟨fun other connection here => (known _ _).mpr (sound.known other connection here),
    fun other signal here => sound.connected other signal ((known _ _).mp here), sound.emitting⟩

omit [DecidableEq Signal] [DecidableEq Slots] in
theorem Sound.emit {objects : Objects Signal Slots Method} (sound : Sound objects)
    {signal : Signal} {connections : List (Connection Slots Method)}
    (found : objects.connectedSlots signal = some connections) :
    Sound { objects with
      emissions := ⟨signal, connections.head?.map Connection.node, objects.nextNode, []⟩ ::
        objects.emissions } where
  known := sound.known
  connected := sound.connected
  emitting emission member := by
    rcases List.mem_cons.mp member with rfl | earlier
    · refine ⟨found ▸ Option.some_ne_none connections, fun node it => ?_⟩
      obtain ⟨connection, first, same⟩ := Option.map_eq_some_iff.mp it
      exact ⟨connection, ⟨connections, found, List.mem_of_head? first⟩, same⟩
    · exact sound.emitting emission earlier

omit [DecidableEq Slots] in
theorem dropWhile_node {connections : List (Connection Slots Method)}
    {connection : Connection Slots Method} (member : connection ∈ connections) :
    ∃ before first following, connections = before ++ first :: following ∧
      first.node = connection.node ∧
      (connections.dropWhile fun other => other.node ≠ connection.node) = first :: following := by
  induction connections with
  | nil => cases member
  | cons other rest ih =>
      by_cases same : other.node = connection.node
      · exact ⟨[], other, rest, rfl, same, by simp [same]⟩
      · have inRest := (List.mem_cons.mp member).resolve_left fun here => same (here ▸ rfl)
        obtain ⟨before, first, following, rfl, node, dropped⟩ := ih inRest
        exact ⟨other :: before, first, following, rfl, node, by simpa [same] using dropped⟩

omit [DecidableEq Signal] [DecidableEq Slots] in
/-- The innermost emission returns, or finds the connection it stands at, whose object is there
to be called. -/
theorem Sound.proceed {objects : Objects Signal Slots Method} (sound : Sound objects)
    (emitting : objects.emissions ≠ []) : ∃ next, objects.proceed = some next ∧ Sound next ∧
      next.connectedSlots = objects.connectedSlots ∧ next.nextNode = objects.nextNode ∧
      ∃ emission outer, objects.emissions = emission :: outer ∧ (next.emissions = outer ∨
        ∃ before connection following,
          objects.connectedSlots emission.signal = some (before ++ connection :: following) ∧
          emission.it = some connection.node ∧
          next.emissions = { emission with
            it := following.head?.map Connection.node
            called := emission.called ++ [connection.node] } :: outer) := by
  obtain ⟨emission, outer, found⟩ := List.exists_cons_of_ne_nil emitting
  have stands := sound.emitting emission (found ▸ List.mem_cons_self)
  have rest (other : Emission Signal) (member : other ∈ outer) := sound.emitting other
    (found ▸ List.mem_cons_of_mem emission member)
  obtain ⟨connections, listed⟩ := Option.ne_none_iff_exists'.mp stands.1
  cases it : emission.it with
  | none =>
      refine ⟨{ objects with emissions := outer }, ?_, ⟨sound.known, sound.connected, rest⟩, rfl,
        rfl, emission, outer, found, .inl rfl⟩
      simp only [Objects.proceed, found, listed, it, Option.bind_eq_bind, Option.bind_some]
  | some node =>
      obtain ⟨connection, ⟨_, again, member⟩, rfl⟩ := stands.2 node it
      obtain rfl := Option.some.inj (listed.symm.trans again)
      obtain ⟨before, first, following, rfl, same, dropped⟩ := dropWhile_node member
      obtain ⟨senders, sending, _⟩ := sound.known emission.signal first
        ⟨_, listed, List.mem_append_right _ List.mem_cons_self⟩
      rw [← same] at it dropped
      refine ⟨{ objects with
          emissions := { emission with
            it := following.head?.map Connection.node
            called := emission.called ++ [first.node] } :: outer }, ?_, ?_, rfl, rfl,
        emission, outer, found, .inr ⟨before, first, following, listed, it, rfl⟩⟩
      · simp only [Objects.proceed, found, listed, it, Option.bind_eq_bind, Option.bind_some,
          dropped, sending]
      · refine ⟨sound.known, sound.connected, fun other member => ?_⟩
        rcases List.mem_cons.mp member with rfl | earlier
        · refine ⟨stands.1, fun node it => ?_⟩
          obtain ⟨later, isFirst, same⟩ := Option.map_eq_some_iff.mp it
          exact ⟨later, ⟨_, listed, List.mem_append_right _
            (List.mem_cons_of_mem _ (List.mem_of_head? isFirst))⟩, same⟩
        · exact rest other earlier

end Updates

end Objects

end FiberApp.Sigslot
