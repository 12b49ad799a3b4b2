import Mathlib.Data.BitVec

/-! The interface table of `winnetwork_monitor.cpp` and the network messages it
posts to the SIP thread. -/

set_option autoImplicit false

namespace FiberApp.Network

/-- The bits of `NET_LUID.Value` that hold `Info.IfType`. -/
def ifType (luid : BitVec 64) : BitVec 16 := luid.extractLsb' 48 16

def ifTypeSoftwareLoopback : BitVec 16 := 24

def isLoopback (luid : BitVec 64) : Bool := ifType luid == ifTypeSoftwareLoopback

structure MibIpInterfaceRow where
  family : BitVec 16
  interfaceLuid : BitVec 64
  interfaceIndex : BitVec 32
  connected : Bool
  deriving DecidableEq, Repr

inductive NetworkMessage
  | interfaceUp
  | interfaceDown
  deriving DecidableEq, Repr

structure WinNetworkMonitor where
  pipTable : List MibIpInterfaceRow
  posted : List NetworkMessage
  deriving DecidableEq, Repr

namespace WinNetworkMonitor

def post (monitor : WinNetworkMonitor) (message : NetworkMessage) : WinNetworkMonitor :=
  { monitor with posted := monitor.posted ++ [message] }

/-- The scan `handleInterfaceUp` and `handleInterfaceDown` make: a connected row
of another interface that is no loopback. -/
def connectedElsewhere (table : List MibIpInterfaceRow) (interfaceLuid : BitVec 64) : Bool :=
  table.any fun row =>
    !(isLoopback row.interfaceLuid || row.interfaceLuid == interfaceLuid) && row.connected

def handleInterfaceUp (monitor : WinNetworkMonitor) (interfaceLuid : BitVec 64) :
    WinNetworkMonitor :=
  if connectedElsewhere monitor.pipTable interfaceLuid then monitor
  else monitor.post .interfaceUp

def handleInterfaceDown (monitor : WinNetworkMonitor) (interfaceLuid : BitVec 64) :
    WinNetworkMonitor :=
  if connectedElsewhere monitor.pipTable interfaceLuid then monitor
  else monitor.post .interfaceDown

/-- The table loop: the first row of the interface whose connected state differs
is overwritten, and the loop ends there; `none` when no row differs. -/
def overwriteChanged (iface : MibIpInterfaceRow) :
    List MibIpInterfaceRow → Option (List MibIpInterfaceRow)
  | [] => none
  | row :: rest =>
      if row.interfaceLuid ≠ iface.interfaceLuid ∨ isLoopback row.interfaceLuid = true then
        (overwriteChanged iface rest).map (row :: ·)
      else if row.connected ≠ iface.connected then some (iface :: rest)
      else (overwriteChanged iface rest).map (row :: ·)

def handleFetched (monitor : WinNetworkMonitor) (iface : MibIpInterfaceRow) :
    WinNetworkMonitor :=
  match overwriteChanged iface monitor.pipTable with
  | none => monitor
  | some table =>
      let monitor := { monitor with pipTable := table }
      if iface.connected then monitor.handleInterfaceUp iface.interfaceLuid
      else monitor.handleInterfaceDown iface.interfaceLuid

/-- A callback with its `Row` and what `GetIpInterfaceEntry` reads for it:
`none` when the read fails. -/
structure InterfaceChange where
  row : Option MibIpInterfaceRow
  entry : Option Bool
  deriving DecidableEq, Repr

def InterfaceChange.fetched (change : InterfaceChange) : Option MibIpInterfaceRow :=
  match change.row, change.entry with
  | some row, some connected => some { row with connected := connected }
  | _, _ => none

def handleInterfaceChange (monitor : WinNetworkMonitor) (change : InterfaceChange) :
    WinNetworkMonitor :=
  match change.fetched with
  | none => monitor
  | some iface => monitor.handleFetched iface

end WinNetworkMonitor

end FiberApp.Network
