import SwitchLab.Store.Handle
/-!
The database of the forwarding hardware. It is used once the switch has made its default objects;
their keys are then frozen, with the names of the ports.
-/
namespace SwitchLab

namespace Asic

def switchTable : String := "ASIC_STATE:SAI_OBJECT_TYPE_SWITCH"
def virtualRouterTable : String := "ASIC_STATE:SAI_OBJECT_TYPE_VIRTUAL_ROUTER"
def portTable : String := "ASIC_STATE:SAI_OBJECT_TYPE_PORT"
def hostIfTable : String := "ASIC_STATE:SAI_OBJECT_TYPE_HOSTIF"
def aclTableTable : String := "ASIC_STATE:SAI_OBJECT_TYPE_ACL_TABLE"
def aclEntryTable : String := "ASIC_STATE:SAI_OBJECT_TYPE_ACL_ENTRY"
def trapGroupTable : String := "ASIC_STATE:SAI_OBJECT_TYPE_HOSTIF_TRAP_GROUP"

/-- The tables whose default objects the baseline holds. -/
def baselineTables : List String :=
  [virtualRouterTable, portTable, hostIfTable, aclTableTable, aclEntryTable, trapGroupTable]

def defaultRouterField : String := "SAI_SWITCH_ATTR_DEFAULT_VIRTUAL_ROUTER_ID"

end Asic

/-- The names of the default objects. -/
structure AsicNames where
  switchOid : String
  defaultRouterOid : String
  portOidToName : KeyMap String
  portNameToOid : KeyMap String
  hostIfOidToName : KeyMap String
  hostIfNameToOid : KeyMap String
  deriving DecidableEq, Repr

namespace AsicNames

def ofSwitch (switchOid defaultRouterOid : String) : AsicNames :=
  ⟨switchOid, defaultRouterOid, .empty, .empty, .empty, .empty⟩

def addHostIf (n : AsicNames) (r : HostIf) : AsicNames :=
  { n with
    portOidToName := n.portOidToName.insert r.portOid r.name
    portNameToOid := n.portNameToOid.insert r.name r.portOid
    hostIfOidToName := n.hostIfOidToName.insert r.oid r.name
    hostIfNameToOid := n.hostIfNameToOid.insert r.name r.oid }

end AsicNames

structure AsicDb where
  handle : Handle
  names : AsicNames
  deriving DecidableEq, Repr

namespace AsicDb

open Asic

/-- How many switches and virtual routers a database shows; none if the read fails. -/
def countDefaults (h : Handle) : Lab (Nat × Nat) := do
  let switches ← h.observeKeys switchTable
  let routers ← h.observeKeys virtualRouterTable
  return (switches.length, routers.length)

/-- Waits for one switch and a virtual router. -/
def awaitDefaults (h : Handle) (timeout : Duration) : Attempt Unit := do
  let cfg := Polling.every (.ofMillis 100) timeout true
  let result ← poll "ASIC database startup convergence" cfg do
    let (switches, routers) ← countDefaults h
    return (switches = 1 && 1 ≤ routers, (switches, routers))
  match result with
  | .ok _ => return ()
  | .error fault => throw (.baseline fault.message)

def firstKey (h : Handle) (table whenNone : String) : Attempt String := do
  match ← h.getKeys table with
  | key :: _ => return key
  | [] => throw (.baseline whenNone)

def hostIf (h : Handle) (key : String) : Attempt HostIf := do
  match TableRecord.ofFields (α := HostIf) key (← h.getEntry hostIfTable key) with
  | .ok record => return record
  | .error fault => throw (.baseline s!"malformed host interface: {fault.message}")

/-- Reads the names of the default objects. -/
def readNames (h : Handle) : Attempt AsicNames := do
  let switchOid ← firstKey h switchTable "switch object vanished"
  let fields ← h.getEntry switchTable switchOid
  let defaultRouterOid ←
    match fields.get? defaultRouterField with
    | some oid => pure oid
    | none => firstKey h virtualRouterTable "no default virtual router"
  (← h.getKeys hostIfTable).foldlM (fun names key => do return names.addHostIf (← hostIf h key))
    (.ofSwitch switchOid defaultRouterOid)

/-- Waits for the default objects and freezes them. -/
def new (h : Handle) (timeout : Duration) : Attempt AsicDb := do
  awaitDefaults h timeout
  let names ← readNames h
  let _ ← h.captureBaseline baselineTables
  return ⟨h, names⟩

variable (a : AsicDb)

def portOid? (name : String) : Option String := a.names.portNameToOid.get? name

def portName? (oid : String) : Option String := a.names.portOidToName.get? oid

/-- The objects of a table that were made after the baseline. -/
def newKeys (table : String) : Attempt (List String) := a.handle.keysAdded table

/-- Waits until a table has exactly `n` new objects. -/
def waitForNewKeys (table : String) (n : Nat) (cfg : Polling) : Attempt (List String) :=
  Handle.lastSeen s!"{n} new objects in {table}" cfg do
    let keys := (← (a.newKeys table).outcome).toOption.getD []
    return (keys.length = n, keys)

end AsicDb

end SwitchLab
