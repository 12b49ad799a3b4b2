import FiberApp.Foundation.Execution
import FiberApp.Network.WinNetworkMonitor
import Mathlib.Data.List.Chain

/-! The posted network messages against the interfaces themselves: the monitor's
table has a row for each callback it has seen only up to the interface LUID. -/

set_option autoImplicit false

namespace FiberApp.Network

open Foundation

namespace MibIpInterfaceRow

def SameRow (left right : MibIpInterfaceRow) : Prop :=
  left.family = right.family ∧ left.interfaceLuid = right.interfaceLuid

instance (left right : MibIpInterfaceRow) : Decidable (left.SameRow right) :=
  inferInstanceAs (Decidable (_ ∧ _))

def counts (row : MibIpInterfaceRow) : Bool := !isLoopback row.interfaceLuid && row.connected

def countsFor (luid : BitVec 64) (row : MibIpInterfaceRow) : Bool :=
  row.interfaceLuid == luid && row.counts

def countsElsewhere (luid : BitVec 64) (row : MibIpInterfaceRow) : Bool :=
  !(row.interfaceLuid == luid) && row.counts

end MibIpInterfaceRow

def reread (row : MibIpInterfaceRow) : List MibIpInterfaceRow → List MibIpInterfaceRow
  | [] => [row]
  | first :: rest => if first.SameRow row then row :: rest else first :: reread row rest

/-- The state the row was in; a row not seen before was not connected. -/
def wasConnected (row : MibIpInterfaceRow) (rows : List MibIpInterfaceRow) : Bool :=
  match rows.find? (fun other => other.SameRow row) with
  | none => false
  | some other => other.connected

def connectedRows (rows : List MibIpInterfaceRow) : Nat := rows.countP (·.counts)

def crossing : Nat → Nat → List NetworkMessage
  | 0, 0 => []
  | 0, _ + 1 => [.interfaceUp]
  | _ + 1, 0 => [.interfaceDown]
  | _ + 1, _ + 1 => []

/-- The monitor next to the interfaces it watches, and the messages due so far. -/
structure WatchedNetwork where
  monitor : WinNetworkMonitor
  interfaces : List MibIpInterfaceRow
  due : List NetworkMessage
  deriving DecidableEq, Repr

namespace WatchedNetwork

def start (table : List MibIpInterfaceRow) : WatchedNetwork := ⟨⟨table, []⟩, table, []⟩

def readAgain (interfaces : List MibIpInterfaceRow)
    (change : WinNetworkMonitor.InterfaceChange) : List MibIpInterfaceRow :=
  match change.fetched with
  | none => interfaces
  | some iface => reread iface interfaces

def callback (network : WatchedNetwork) (change : WinNetworkMonitor.InterfaceChange) :
    WatchedNetwork where
  monitor := network.monitor.handleInterfaceChange change
  interfaces := readAgain network.interfaces change
  due := network.due ++
    crossing (connectedRows network.interfaces)
      (connectedRows (readAgain network.interfaces change))

end WatchedNetwork

theorem countP_reread (counted : MibIpInterfaceRow → Bool) (row : MibIpInterfaceRow)
    (rows : List MibIpInterfaceRow) (previous : MibIpInterfaceRow)
    (found : rows.find? (fun other => other.SameRow row) = some previous) :
    (reread row rows).countP counted + (counted previous).toNat =
      rows.countP counted + (counted row).toNat := by
  induction rows with
  | nil => simp at found
  | cons first rest ih =>
      by_cases same : first.SameRow row
      · simp only [List.find?_cons, same, decide_true, Option.some.injEq] at found
        subst found
        simp only [reread, same, ↓reduceIte, List.countP_cons]
        cases counted row <;> cases counted first <;> simp
      · simp only [List.find?_cons, same, decide_false] at found
        have counts := ih found
        simp only [reread, same, ↓reduceIte, List.countP_cons]
        omega

theorem countP_reread_new (counted : MibIpInterfaceRow → Bool) (row : MibIpInterfaceRow)
    (rows : List MibIpInterfaceRow)
    (missing : rows.find? (fun other => other.SameRow row) = none) :
    (reread row rows).countP counted = rows.countP counted + (counted row).toNat := by
  induction rows with
  | nil => cases value : counted row <;> simp [reread, value]
  | cons first rest ih =>
      by_cases same : first.SameRow row
      · simp [same] at missing
      · simp only [List.find?_cons, same, decide_false] at missing
        have counts := ih missing
        simp only [reread, same, ↓reduceIte, List.countP_cons]
        omega

def connectedRowsOf (luid : BitVec 64) (rows : List MibIpInterfaceRow) : Nat :=
  rows.countP (·.countsFor luid)

theorem connectedRows_eq (luid : BitVec 64) (rows : List MibIpInterfaceRow) :
    connectedRows rows =
      connectedRowsOf luid rows + rows.countP (·.countsElsewhere luid) := by
  induction rows with
  | nil => rfl
  | cons row rest ih =>
      have split : (if row.counts = true then 1 else 0) =
          (if row.countsFor luid = true then 1 else 0) +
            (if row.countsElsewhere luid = true then 1 else 0) := by
        cases here : row.interfaceLuid == luid <;> cases counted : row.counts <;>
          simp [MibIpInterfaceRow.countsFor, MibIpInterfaceRow.countsElsewhere, here, counted]
      simp only [connectedRows, connectedRowsOf, List.countP_cons] at ih ⊢
      omega

theorem connectedElsewhere_eq_true {luid : BitVec 64} {rows : List MibIpInterfaceRow} :
    WinNetworkMonitor.connectedElsewhere rows luid = true ↔
      ∃ other, other ≠ luid ∧ 0 < connectedRowsOf other rows := by
  simp only [WinNetworkMonitor.connectedElsewhere, connectedRowsOf, List.countP_pos_iff,
    List.any_eq_true]
  constructor
  · intro found
    obtain ⟨row, member, connected⟩ := found
    refine ⟨row.interfaceLuid, ?_, row, member, ?_⟩
    · intro same
      simp [same] at connected
    · cases loopback : isLoopback row.interfaceLuid <;>
        simp_all [MibIpInterfaceRow.countsFor, MibIpInterfaceRow.counts]
  · intro found
    obtain ⟨other, different, row, member, connected⟩ := found
    simp only [MibIpInterfaceRow.countsFor, MibIpInterfaceRow.counts, Bool.and_eq_true,
      beq_iff_eq] at connected
    obtain ⟨rfl, usable, connected⟩ := connected
    refine ⟨row, member, ?_⟩
    simp [different, connected, usable]

theorem connectedElsewhere_iff_pos {luid : BitVec 64} {rows : List MibIpInterfaceRow} :
    WinNetworkMonitor.connectedElsewhere rows luid = true ↔
      0 < rows.countP (·.countsElsewhere luid) := by
  rw [List.countP_pos_iff, WinNetworkMonitor.connectedElsewhere, List.any_eq_true]
  apply exists_congr
  intro row
  cases loopback : isLoopback row.interfaceLuid <;> cases here : row.interfaceLuid == luid <;>
    simp [-beq_iff_eq, -beq_eq_false_iff_ne, MibIpInterfaceRow.countsElsewhere,
      MibIpInterfaceRow.counts, loopback, here]

theorem countsFor_of_same {iface row : MibIpInterfaceRow}
    (usable : isLoopback iface.interfaceLuid = false)
    (same : row.interfaceLuid = iface.interfaceLuid) :
    row.countsFor iface.interfaceLuid = row.connected := by
  simp [MibIpInterfaceRow.countsFor, MibIpInterfaceRow.counts, same, usable]

theorem countsFor_of_other {iface row : MibIpInterfaceRow} {luid : BitVec 64}
    (same : row.interfaceLuid = iface.interfaceLuid) (other : iface.interfaceLuid ≠ luid) :
    row.countsFor luid = false := by
  simp [MibIpInterfaceRow.countsFor, same, other]

/-! What one callback does to the counts of its interface. -/

theorem connectedRowsOf_reread {iface : MibIpInterfaceRow} (rows : List MibIpInterfaceRow)
    (usable : isLoopback iface.interfaceLuid = false) :
    connectedRowsOf iface.interfaceLuid (reread iface rows) + (wasConnected iface rows).toNat =
      connectedRowsOf iface.interfaceLuid rows + iface.connected.toNat := by
  cases found : rows.find? (fun other => other.SameRow iface) with
  | none =>
      have counts := countP_reread_new (·.countsFor iface.interfaceLuid) iface rows found
      rw [countsFor_of_same usable rfl] at counts
      simpa [connectedRowsOf, wasConnected, found] using counts
  | some previous =>
      have same : previous.SameRow iface := by simpa using List.find?_some found
      have counts := countP_reread (·.countsFor iface.interfaceLuid) iface rows previous found
      rw [countsFor_of_same usable rfl, countsFor_of_same usable same.2] at counts
      simpa [connectedRowsOf, wasConnected, found] using counts

theorem countP_reread_of_ignored {iface : MibIpInterfaceRow} {rows : List MibIpInterfaceRow}
    {counted : MibIpInterfaceRow → Bool}
    (ignored : ∀ row : MibIpInterfaceRow, row.interfaceLuid = iface.interfaceLuid →
      counted row = false) :
    (reread iface rows).countP counted = rows.countP counted := by
  cases found : rows.find? (fun other => other.SameRow iface) with
  | none =>
      have counts := countP_reread_new counted iface rows found
      simpa [ignored iface rfl] using counts
  | some previous =>
      have same : previous.SameRow iface := by simpa using List.find?_some found
      have counts := countP_reread counted iface rows previous found
      simpa [ignored iface rfl, ignored previous same.2] using counts

theorem wasConnected_le {iface : MibIpInterfaceRow} (rows : List MibIpInterfaceRow)
    (usable : isLoopback iface.interfaceLuid = false) :
    (wasConnected iface rows).toNat ≤ connectedRowsOf iface.interfaceLuid rows := by
  have counts := connectedRowsOf_reread rows usable
  have bound : iface.connected.toNat ≤ 1 := Bool.toNat_le _
  cases found : rows.find? (fun other => other.SameRow iface) with
  | none => simp [wasConnected, found]
  | some previous =>
      have same : previous.SameRow iface := by simpa using List.find?_some found
      have member := List.mem_of_find?_eq_some found
      cases connected : previous.connected with
      | false => simp [wasConnected, found, connected]
      | true =>
          simp only [wasConnected, found, connected, Bool.toNat_true]
          apply List.countP_pos_iff.mpr
          exact ⟨previous, member, by rw [countsFor_of_same usable same.2, connected]⟩

theorem overwriteChanged_some {iface : MibIpInterfaceRow}
    {table changed : List MibIpInterfaceRow}
    (overwritten : WinNetworkMonitor.overwriteChanged iface table = some changed) :
    ∃ previous ∈ table, previous.interfaceLuid = iface.interfaceLuid ∧
      isLoopback iface.interfaceLuid = false ∧ previous.connected ≠ iface.connected ∧
      ∀ counted : MibIpInterfaceRow → Bool,
        changed.countP counted + (counted previous).toNat =
          table.countP counted + (counted iface).toNat := by
  induction table generalizing changed with
  | nil => simp [WinNetworkMonitor.overwriteChanged] at overwritten
  | cons row rest ih =>
      have skip : (WinNetworkMonitor.overwriteChanged iface rest).map (row :: ·) = some changed →
          ∃ previous ∈ row :: rest, previous.interfaceLuid = iface.interfaceLuid ∧
            isLoopback iface.interfaceLuid = false ∧ previous.connected ≠ iface.connected ∧
            ∀ counted : MibIpInterfaceRow → Bool,
              changed.countP counted + (counted previous).toNat =
                (row :: rest).countP counted + (counted iface).toNat := by
        intro mapped
        obtain ⟨tail, found, rfl⟩ := Option.map_eq_some_iff.mp mapped
        obtain ⟨previous, member, same, usable, differs, counts⟩ := ih found
        refine ⟨previous, List.mem_cons_of_mem _ member, same, usable, differs, fun counted => ?_⟩
        have counted := counts counted
        simp only [List.countP_cons]
        omega
      simp only [WinNetworkMonitor.overwriteChanged] at overwritten
      split at overwritten
      · exact skip overwritten
      · rename_i matching
        split at overwritten
        · rename_i differs
          cases overwritten
          simp only [not_or, not_not, Bool.not_eq_true] at matching
          refine ⟨row, List.mem_cons_self, matching.1, matching.1 ▸ matching.2, differs, ?_⟩
          intro counted
          simp only [List.countP_cons]
          cases counted row <;> cases counted iface <;> simp
        · exact skip overwritten

theorem overwriteChanged_none {iface : MibIpInterfaceRow} {table : List MibIpInterfaceRow}
    (usable : isLoopback iface.interfaceLuid = false) :
    WinNetworkMonitor.overwriteChanged iface table = none ↔
      ∀ row ∈ table, row.interfaceLuid = iface.interfaceLuid →
        row.connected = iface.connected := by
  induction table with
  | nil => simp [WinNetworkMonitor.overwriteChanged]
  | cons row rest ih =>
      simp only [WinNetworkMonitor.overwriteChanged, List.forall_mem_cons]
      by_cases same : row.interfaceLuid = iface.interfaceLuid
      · by_cases equal : row.connected = iface.connected <;>
          simp [same, usable, equal, ih]
      · simp [same, ih]

theorem overwriteChanged_loopback {iface : MibIpInterfaceRow} (table : List MibIpInterfaceRow)
    (loopback : isLoopback iface.interfaceLuid = true) :
    WinNetworkMonitor.overwriteChanged iface table = none := by
  cases overwritten : WinNetworkMonitor.overwriteChanged iface table with
  | none => rfl
  | some changed =>
      obtain ⟨_, _, _, usable, _⟩ := overwriteChanged_some overwritten
      simp [loopback] at usable

def messageFor (connected : Bool) : NetworkMessage :=
  if connected then .interfaceUp else .interfaceDown

theorem connectedElsewhere_congr {luid : BitVec 64} {table changed : List MibIpInterfaceRow}
    (others : ∀ other, luid ≠ other →
      connectedRowsOf other changed = connectedRowsOf other table) :
    WinNetworkMonitor.connectedElsewhere changed luid =
      WinNetworkMonitor.connectedElsewhere table luid := by
  rw [Bool.eq_iff_iff, connectedElsewhere_eq_true, connectedElsewhere_eq_true]
  apply exists_congr
  intro other
  apply and_congr_right
  intro different
  rw [others other different.symm]

theorem handleFetched_cases (monitor : WinNetworkMonitor) {iface : MibIpInterfaceRow}
    (usable : isLoopback iface.interfaceLuid = false) :
    ((∀ row ∈ monitor.pipTable, row.interfaceLuid = iface.interfaceLuid →
        row.connected = iface.connected) ∧ monitor.handleFetched iface = monitor) ∨
    ((¬ ∀ row ∈ monitor.pipTable, row.interfaceLuid = iface.interfaceLuid →
        row.connected = iface.connected) ∧
      connectedRowsOf iface.interfaceLuid (monitor.handleFetched iface).pipTable +
          (!iface.connected).toNat =
        connectedRowsOf iface.interfaceLuid monitor.pipTable + iface.connected.toNat ∧
      (∀ luid, iface.interfaceLuid ≠ luid →
        connectedRowsOf luid (monitor.handleFetched iface).pipTable =
          connectedRowsOf luid monitor.pipTable) ∧
      (monitor.handleFetched iface).posted = monitor.posted ++
        if WinNetworkMonitor.connectedElsewhere monitor.pipTable iface.interfaceLuid then []
        else [messageFor iface.connected]) := by
  cases overwritten : WinNetworkMonitor.overwriteChanged iface monitor.pipTable with
  | none =>
      refine .inl ⟨(overwriteChanged_none usable).mp overwritten, ?_⟩
      simp [WinNetworkMonitor.handleFetched, overwritten]
  | some changed =>
      have differs : ¬ ∀ row ∈ monitor.pipTable, row.interfaceLuid = iface.interfaceLuid →
          row.connected = iface.connected := by
        intro equal
        rw [(overwriteChanged_none usable).mpr equal] at overwritten
        cases overwritten
      obtain ⟨previous, _, same, _, changedState, counts⟩ := overwriteChanged_some overwritten
      have here := counts (·.countsFor iface.interfaceLuid)
      rw [countsFor_of_same usable same, countsFor_of_same usable rfl,
        Bool.eq_not_of_ne changedState] at here
      have others : ∀ luid, iface.interfaceLuid ≠ luid →
          connectedRowsOf luid changed = connectedRowsOf luid monitor.pipTable := by
        intro luid other
        have away := counts (·.countsFor luid)
        rw [countsFor_of_other same other, countsFor_of_other rfl other] at away
        exact away
      have elsewhere := connectedElsewhere_congr others
      have table : (monitor.handleFetched iface).pipTable = changed := by
        simp only [WinNetworkMonitor.handleFetched, overwritten,
          WinNetworkMonitor.handleInterfaceUp, WinNetworkMonitor.handleInterfaceDown,
          WinNetworkMonitor.post]
        split_ifs <;> rfl
      refine .inr ⟨differs, ?_, ?_, ?_⟩
      · rw [table]
        exact here
      · rw [table]
        exact others
      · simp only [WinNetworkMonitor.handleFetched, overwritten,
          WinNetworkMonitor.handleInterfaceUp, WinNetworkMonitor.handleInterfaceDown,
          WinNetworkMonitor.post, elsewhere, messageFor]
        split_ifs <;> simp

theorem crossing_self (count : Nat) : crossing count count = [] := by
  cases count <;> rfl

theorem crossing_connect (count : Nat) :
    crossing count (count + 1) = if count = 0 then [.interfaceUp] else [] := by
  cases count <;> rfl

theorem crossing_disconnect (count : Nat) :
    crossing (count + 1) count = if count = 0 then [.interfaceDown] else [] := by
  cases count <;> rfl

namespace WatchedNetwork

def Lone (network : WatchedNetwork) (iface : MibIpInterfaceRow) : Prop :=
  connectedRowsOf iface.interfaceLuid network.interfaces =
    (wasConnected iface network.interfaces).toNat

/-- The callback changes the state of its row exactly when the table has a row of
the interface in the other state, and then no other row of the interface is
connected, unless another interface is. -/
def ScannedRight (network : WatchedNetwork) (iface : MibIpInterfaceRow) : Prop :=
  (wasConnected iface network.interfaces = iface.connected ↔
    ∀ row ∈ network.monitor.pipTable, row.interfaceLuid = iface.interfaceLuid →
      row.connected = iface.connected) ∧
  (wasConnected iface network.interfaces ≠ iface.connected →
    WinNetworkMonitor.connectedElsewhere network.monitor.pipTable iface.interfaceLuid = true ∨
      network.Lone iface)

def Scanned (network : WatchedNetwork) (change : WinNetworkMonitor.InterfaceChange) : Prop :=
  match change.fetched with
  | none => True
  | some iface => isLoopback iface.interfaceLuid = true ∨ network.ScannedRight iface

instance (network : WatchedNetwork) (iface : MibIpInterfaceRow) :
    Decidable (network.Lone iface) := inferInstanceAs (Decidable (_ = _))

instance (network : WatchedNetwork) (iface : MibIpInterfaceRow) :
    Decidable (network.ScannedRight iface) := inferInstanceAs (Decidable (_ ∧ _))

instance (network : WatchedNetwork) (change : WinNetworkMonitor.InterfaceChange) :
    Decidable (network.Scanned change) :=
  match read : change.fetched with
  | none => .isTrue (by simp [Scanned, read])
  | some iface =>
      decidable_of_iff (isLoopback iface.interfaceLuid = true ∨ network.ScannedRight iface)
        (by simp [Scanned, read])

def Agrees (network : WatchedNetwork) : Prop :=
  ∀ luid, connectedRowsOf luid network.monitor.pipTable =
    connectedRowsOf luid network.interfaces

structure Faithful (network : WatchedNetwork) : Prop where
  agrees : network.Agrees
  posted : network.monitor.posted = network.due

theorem Agrees.elsewhere {network : WatchedNetwork} (agrees : network.Agrees)
    (luid : BitVec 64) :
    WinNetworkMonitor.connectedElsewhere network.monitor.pipTable luid = true ↔
      0 < network.interfaces.countP (·.countsElsewhere luid) := by
  rw [← connectedElsewhere_iff_pos, connectedElsewhere_eq_true, connectedElsewhere_eq_true]
  apply exists_congr
  intro other
  rw [agrees other]

theorem faithful_start (table : List MibIpInterfaceRow) : (start table).Faithful :=
  ⟨fun _ => rfl, rfl⟩

theorem callback_of_unfetched {network : WatchedNetwork}
    {change : WinNetworkMonitor.InterfaceChange} (unread : change.fetched = none) :
    network.callback change = network := by
  simp [callback, WinNetworkMonitor.handleInterfaceChange, readAgain, unread, crossing_self]

theorem callback_of_loopback (network : WatchedNetwork)
    {change : WinNetworkMonitor.InterfaceChange} {iface : MibIpInterfaceRow}
    (read : change.fetched = some iface) (loopback : isLoopback iface.interfaceLuid = true) :
    (network.callback change).monitor = network.monitor ∧
      (network.callback change).due = network.due ∧
      ∀ luid, connectedRowsOf luid (network.callback change).interfaces =
        connectedRowsOf luid network.interfaces := by
  have ignored : ∀ row : MibIpInterfaceRow, row.interfaceLuid = iface.interfaceLuid →
      row.counts = false := by
    intro row same
    simp [MibIpInterfaceRow.counts, same, loopback]
  have total : connectedRows (reread iface network.interfaces) =
      connectedRows network.interfaces := countP_reread_of_ignored ignored
  refine ⟨?_, ?_, fun luid => ?_⟩
  · simp [callback, WinNetworkMonitor.handleInterfaceChange, read,
      WinNetworkMonitor.handleFetched, overwriteChanged_loopback _ loopback]
  · simp [callback, readAgain, read, total, crossing_self]
  · simp only [callback, readAgain, read]
    apply countP_reread_of_ignored
    intro row same
    simp [MibIpInterfaceRow.countsFor, ignored row same]

theorem callback_counts (network : WatchedNetwork)
    {change : WinNetworkMonitor.InterfaceChange} {iface : MibIpInterfaceRow}
    (read : change.fetched = some iface) (usable : isLoopback iface.interfaceLuid = false) :
    connectedRowsOf iface.interfaceLuid (network.callback change).interfaces +
        (wasConnected iface network.interfaces).toNat =
      connectedRowsOf iface.interfaceLuid network.interfaces + iface.connected.toNat ∧
    (∀ luid, iface.interfaceLuid ≠ luid →
      connectedRowsOf luid (network.callback change).interfaces =
        connectedRowsOf luid network.interfaces) ∧
    connectedRows (network.callback change).interfaces +
        (wasConnected iface network.interfaces).toNat =
      connectedRows network.interfaces + iface.connected.toNat := by
  have interfaces : (network.callback change).interfaces = reread iface network.interfaces := by
    simp [callback, readAgain, read]
  have here := connectedRowsOf_reread network.interfaces usable
  have away : (reread iface network.interfaces).countP
      (·.countsElsewhere iface.interfaceLuid) =
        network.interfaces.countP (·.countsElsewhere iface.interfaceLuid) := by
    apply countP_reread_of_ignored
    intro row same
    simp [MibIpInterfaceRow.countsElsewhere, same]
  rw [interfaces]
  refine ⟨here, fun luid other => ?_, ?_⟩
  · apply countP_reread_of_ignored
    intro row same
    exact countsFor_of_other same other
  · rw [connectedRows_eq iface.interfaceLuid, connectedRows_eq iface.interfaceLuid, away]
    omega

theorem callback_due (network : WatchedNetwork)
    (change : WinNetworkMonitor.InterfaceChange) :
    (network.callback change).due = network.due ++
      crossing (connectedRows network.interfaces)
        (connectedRows (network.callback change).interfaces) := rfl

theorem callback_monitor (network : WatchedNetwork)
    {change : WinNetworkMonitor.InterfaceChange} {iface : MibIpInterfaceRow}
    (read : change.fetched = some iface) :
    (network.callback change).monitor = network.monitor.handleFetched iface := by
  simp [callback, WinNetworkMonitor.handleInterfaceChange, read]

theorem Faithful.callback_kept {network : WatchedNetwork} (faithful : network.Faithful)
    {change : WinNetworkMonitor.InterfaceChange} {iface : MibIpInterfaceRow}
    (read : change.fetched = some iface) (usable : isLoopback iface.interfaceLuid = false)
    (kept : network.monitor.handleFetched iface = network.monitor) :
    (network.callback change).Faithful ↔
      wasConnected iface network.interfaces = iface.connected := by
  obtain ⟨here, away, total⟩ := callback_counts network read usable
  have monitor := callback_monitor network read
  rw [kept] at monitor
  constructor
  · intro next
    have same := next.agrees iface.interfaceLuid
    rw [monitor, faithful.agrees] at same
    cases before : wasConnected iface network.interfaces <;>
      cases state : iface.connected <;> simp [before, state] at here same ⊢ <;> omega
  · intro unchanged
    rw [unchanged] at here total
    refine ⟨fun luid => ?_, ?_⟩
    · rw [monitor, faithful.agrees]
      by_cases same : iface.interfaceLuid = luid
      · subst same
        omega
      · exact (away luid same).symm
    · rw [monitor, callback_due, faithful.posted,
        show connectedRows (network.callback change).interfaces =
          connectedRows network.interfaces by omega, crossing_self, List.append_nil]

/-- The count of connected rows leaves or reaches zero in a callback that changes
its row exactly when no other row is connected. -/
theorem crossing_eq {network : WatchedNetwork} {iface : MibIpInterfaceRow} {after : Nat}
    (changed : wasConnected iface network.interfaces ≠ iface.connected)
    (usable : isLoopback iface.interfaceLuid = false)
    (total : after + (wasConnected iface network.interfaces).toNat =
      connectedRows network.interfaces + iface.connected.toNat) :
    crossing (connectedRows network.interfaces) after =
      if network.Lone iface ∧ network.interfaces.countP (·.countsElsewhere iface.interfaceLuid) = 0
      then [messageFor iface.connected] else [] := by
  have split := connectedRows_eq iface.interfaceLuid network.interfaces
  have present := wasConnected_le network.interfaces usable
  have lone : network.Lone iface ↔ connectedRowsOf iface.interfaceLuid network.interfaces =
      (!iface.connected).toNat := by rw [Lone, Bool.eq_not_of_ne changed]
  rw [Bool.eq_not_of_ne changed] at total present
  cases state : iface.connected with
  | true =>
      simp only [state, Bool.not_true, Bool.toNat_false, Bool.toNat_true, Nat.add_zero]
        at total present lone
      rw [total, crossing_connect]
      exact if_congr (by rw [lone]; omega) rfl rfl
  | false =>
      simp only [state, Bool.not_false, Bool.toNat_false, Bool.toNat_true, Nat.add_zero]
        at total present lone
      rw [← total, crossing_disconnect]
      exact if_congr (by rw [lone]; omega) rfl rfl

theorem Faithful.callback_overwritten {network : WatchedNetwork} (faithful : network.Faithful)
    {change : WinNetworkMonitor.InterfaceChange} {iface : MibIpInterfaceRow}
    (read : change.fetched = some iface) (usable : isLoopback iface.interfaceLuid = false)
    (counted : connectedRowsOf iface.interfaceLuid
        (network.monitor.handleFetched iface).pipTable + (!iface.connected).toNat =
      connectedRowsOf iface.interfaceLuid network.monitor.pipTable + iface.connected.toNat)
    (others : ∀ luid, iface.interfaceLuid ≠ luid →
      connectedRowsOf luid (network.monitor.handleFetched iface).pipTable =
        connectedRowsOf luid network.monitor.pipTable)
    (posted : (network.monitor.handleFetched iface).posted = network.monitor.posted ++
      if WinNetworkMonitor.connectedElsewhere network.monitor.pipTable iface.interfaceLuid
      then [] else [messageFor iface.connected]) :
    (network.callback change).Faithful ↔
      wasConnected iface network.interfaces ≠ iface.connected ∧
        (WinNetworkMonitor.connectedElsewhere network.monitor.pipTable iface.interfaceLuid =
          true ∨ network.Lone iface) := by
  obtain ⟨here, away, total⟩ := callback_counts network read usable
  have monitor := callback_monitor network read
  have agreed := faithful.agrees iface.interfaceLuid
  have elsewhere := faithful.agrees.elsewhere iface.interfaceLuid
  constructor
  · intro next
    have same := next.agrees iface.interfaceLuid
    rw [monitor] at same
    have changed : wasConnected iface network.interfaces ≠ iface.connected := by
      intro unchanged
      rw [unchanged] at here
      cases state : iface.connected <;> simp only [state, Bool.not_true, Bool.not_false,
        Bool.toNat_true, Bool.toNat_false] at counted here <;> omega
    refine ⟨changed, ?_⟩
    have logs := next.posted
    rw [monitor, posted, callback_due, faithful.posted, crossing_eq changed usable total,
      List.append_cancel_left_eq] at logs
    by_contra outside
    rw [not_or] at outside
    rw [if_neg outside.1, if_neg (fun lone => outside.2 lone.1)] at logs
    cases logs
  · intro scanned
    obtain ⟨changed, alone⟩ := scanned
    refine ⟨fun luid => ?_, ?_⟩
    · rw [monitor]
      by_cases same : iface.interfaceLuid = luid
      · subst same
        rw [Bool.eq_not_of_ne changed] at here
        omega
      · rw [others luid same, faithful.agrees, away luid same]
    · rw [monitor, posted, callback_due, faithful.posted, crossing_eq changed usable total,
        List.append_cancel_left_eq]
      by_cases found : WinNetworkMonitor.connectedElsewhere network.monitor.pipTable
          iface.interfaceLuid = true
      · have positive := elsewhere.mp found
        rw [if_pos found, if_neg (by omega)]
      · have lone := alone.resolve_left found
        rw [elsewhere] at found
        rw [if_neg (by rwa [elsewhere]), if_pos ⟨lone, by omega⟩]

theorem Faithful.callback_usable {network : WatchedNetwork} (faithful : network.Faithful)
    {change : WinNetworkMonitor.InterfaceChange} {iface : MibIpInterfaceRow}
    (read : change.fetched = some iface) (usable : isLoopback iface.interfaceLuid = false) :
    (network.callback change).Faithful ↔ network.ScannedRight iface := by
  rcases handleFetched_cases network.monitor usable with
    ⟨equal, kept⟩ | ⟨differs, counted, others, posted⟩
  · rw [faithful.callback_kept read usable kept]
    constructor
    · intro unchanged
      exact ⟨iff_of_true unchanged equal, fun changed => absurd unchanged changed⟩
    · intro scanned
      exact scanned.1.mpr equal
  · rw [faithful.callback_overwritten read usable counted others posted]
    constructor
    · intro scanned
      exact ⟨iff_of_false scanned.1 differs, fun _ => scanned.2⟩
    · intro scanned
      have changed := mt scanned.1.mp differs
      exact ⟨changed, scanned.2 changed⟩

theorem Faithful.callback_iff {network : WatchedNetwork} (faithful : network.Faithful)
    (change : WinNetworkMonitor.InterfaceChange) :
    (network.callback change).Faithful ↔ network.Scanned change := by
  cases read : change.fetched with
  | none =>
      simp only [callback_of_unfetched read, Scanned, read]
      exact iff_true_intro faithful
  | some iface =>
      cases loopback : isLoopback iface.interfaceLuid with
      | true =>
          obtain ⟨monitor, due, counts⟩ := callback_of_loopback network read loopback
          simp only [Scanned, read, loopback, true_or, iff_true]
          refine ⟨fun luid => ?_, ?_⟩
          · rw [monitor, counts, faithful.agrees]
          · rw [monitor, due, faithful.posted]
      | false =>
          simp only [Scanned, read, loopback, Bool.false_eq_true, false_or]
          exact faithful.callback_usable read loopback

/-- The messages due so far alternate, and the last one says whether a row that
is no loopback is connected. -/
structure Alternates (network : WatchedNetwork) : Prop where
  chain : network.due.IsChain (· ≠ ·)
  up : network.due.getLast? = some .interfaceUp → 0 < connectedRows network.interfaces
  down : network.due.getLast? = some .interfaceDown → connectedRows network.interfaces = 0

theorem Alternates.callback {network : WatchedNetwork} (alternates : network.Alternates)
    (change : WinNetworkMonitor.InterfaceChange) : (network.callback change).Alternates := by
  obtain ⟨chain, up, down⟩ := alternates
  have due := callback_due network change
  cases before : connectedRows network.interfaces with
  | zero =>
      cases after : connectedRows (network.callback change).interfaces with
      | zero =>
          rw [before, after, crossing, List.append_nil] at due
          refine ⟨due ▸ chain, ?_, fun _ => after⟩
          intro last
          rw [due] at last
          exact absurd (up last) (by omega)
      | succ count =>
          rw [before, after, crossing] at due
          refine ⟨?_, fun _ => by omega, ?_⟩
          · rw [due, List.isChain_append]
            refine ⟨chain, List.isChain_singleton _, ?_⟩
            intro message last first head
            cases head
            rintro rfl
            exact absurd (up last) (by omega)
          · intro last
            simp [due] at last
  | succ earlier =>
      cases after : connectedRows (network.callback change).interfaces with
      | zero =>
          rw [before, after, crossing] at due
          refine ⟨?_, ?_, fun _ => after⟩
          · rw [due, List.isChain_append]
            refine ⟨chain, List.isChain_singleton _, ?_⟩
            intro message last first head
            cases head
            rintro rfl
            exact absurd (down last) (by omega)
          · intro last
            simp [due] at last
      | succ count =>
          rw [before, after, crossing, List.append_nil] at due
          refine ⟨due ▸ chain, fun _ => by omega, ?_⟩
          intro last
          rw [due] at last
          exact absurd (down last) (by omega)

theorem alternates_start (table : List MibIpInterfaceRow) : (start table).Alternates :=
  ⟨.nil, by simp [start], by simp [start]⟩

def Notifies (network : WatchedNetwork) : Prop :=
  network.monitor.posted = network.due ∧ network.monitor.posted.IsChain (· ≠ ·)

/-- The interfaces are what the monitor has read again for them. -/
theorem handleInterfaceChange_notifies (table : List MibIpInterfaceRow)
    (changes : List WinNetworkMonitor.InterfaceChange) :
    (Guarded (total callback) Scanned (start table) changes →
      Throughout (total callback) Notifies (start table) changes) ∧
    (Throughout (total callback) Faithful (start table) changes ↔
      Guarded (total callback) Scanned (start table) changes) := by
  constructor
  · apply throughout_of_guarded fun network => network.Faithful ∧ network.Alternates
    · intro network kept
      exact ⟨kept.1.posted, kept.1.posted ▸ kept.2.chain⟩
    · intro network change next kept scanned taken
      cases taken
      exact ⟨(kept.1.callback_iff change).mpr scanned, kept.2.callback change⟩
    · exact ⟨faithful_start table, alternates_start table⟩
  · apply throughout_iff_guarded Faithful
    · intro network faithful
      exact faithful
    · intro network change next faithful scanned taken
      cases taken
      exact (faithful.callback_iff change).mpr scanned
    · intro network change faithful missed
      exact ⟨_, rfl, mt (faithful.callback_iff change).mp missed⟩
    · exact faithful_start table

/-- One interface with a row for each family, both connected. -/
def dualStack : List MibIpInterfaceRow := [⟨2, 1, 7, true⟩, ⟨23, 1, 7, true⟩]

def lost (row : MibIpInterfaceRow) : WinNetworkMonitor.InterfaceChange := ⟨some row, some false⟩

theorem handleInterfaceChange_notifies_down :
    Throughout (total callback) Notifies (start [⟨2, 1, 7, true⟩]) [lost ⟨2, 1, 7, true⟩] :=
  (handleInterfaceChange_notifies _ _).1 (by decide)

theorem handleInterfaceChange_down_early :
    ¬ Throughout (total callback) Notifies (start dualStack) [lost ⟨2, 1, 7, true⟩] := by
  intro notifies
  have after := (notifies.2 _ rfl).start.1
  revert after
  decide

end WatchedNetwork

end FiberApp.Network
