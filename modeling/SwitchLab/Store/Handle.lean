import SwitchLab.Polling
import SwitchLab.Store.Record
/-!
Access to one database by table and key: reading, writing, waiting for a state, and telling what
has changed since a baseline.
-/
namespace SwitchLab

/-- A handle on a database. Handles of one family share a baseline. -/
structure Handle where
  db : Database
  family : Nat
  deriving DecidableEq, Repr

namespace Handle

/-- A handle that starts a family of its own. -/
def new (db : Database) : Lab Handle := do
  let ledger ← get
  set ledger.withFamily
  return ⟨db, ledger.families⟩

variable (h : Handle)

def store : StoreName := h.db.store

def tableKey (table key : String) : String := h.store.tableKey table key

def baseline? : Lab (Option Snapshot) := do return (← get).baseline? h.family

/-- The text of a handle in reports. -/
def describe : Lab String := do
  let tables := (← h.baseline?).map KeyMap.size
  return s!"DataStoreHandle \x7b store: {shown h.store}, baseline: {shown tables} \x7d"

/-- The raw keys that match a glob pattern, ascending. -/
def keysMatching (pattern : String) : Attempt (List String) := do
  return sortKeys (← h.db.keys pattern)

/-- The keys of a table, ascending. -/
def getKeys (table : String) : Attempt (List String) := do
  let start := h.tableKey table ""
  return (← h.keysMatching (start ++ "*")).filterMap (Text.afterStart? start)

def getEntry (table key : String) : Attempt FieldValues := h.db.fetch (h.tableKey table key)

/-- The record of a key, if there is one. -/
def getRecord? (α : Type) [TableRecord α] (key : String) : Attempt (Option α) := do
  let table := TableRecord.table α
  let home := TableRecord.store α
  if home ≠ h.store then
    throw (.invalidValue s!"{table} lives in {home.name}, not {h.store.name}")
  let fields ← h.getEntry table key
  if fields.isEmpty then return none
  match TableRecord.ofFields (α := α) key fields with
  | .ok record => return some record
  | .error fault => throw fault

/-- Merges fields into the entry of a key. -/
def putEntry (table key : String) (fields : FieldValues) : Attempt Unit :=
  h.db.merge (h.tableKey table key) fields

def putRecord {α : Type} [TableRecord α] (key : String) (record : α) : Attempt Unit :=
  h.putEntry (TableRecord.table α) key (TableRecord.toFields record)

def deleteEntry (table key : String) : Attempt Unit := h.db.dropKey (h.tableKey table key)

def deleteFields (table key : String) (fields : List String) : Attempt Unit :=
  h.db.dropFields (h.tableKey table key) fields

def deleteTable (table : String) : Attempt Unit := do
  for key in ← h.getKeys table do
    h.deleteEntry table key

/-! Waiting. A read that fails shows nothing. -/

def observeKeys (table : String) : Lab (List String) := do
  return (← (h.getKeys table).outcome).toOption.getD []

def observeEntry (table key : String) : Lab FieldValues := do
  return (← (h.getEntry table key).outcome).toOption.getD .empty

/-- The value that a poll saw last. -/
def lastSeen {α : Type} [Shown α] (what : String) (cfg : Polling) (probe : Lab (Bool × α)) :
    Attempt α :=
  ExceptT.mk do return (← poll what cfg probe).map Prod.snd

/-- Waits until a table has exactly `n` keys. -/
def waitForKeys (table : String) (n : Nat) (cfg : Polling) : Attempt (List String) :=
  lastSeen s!"{n} keys in {h.store.name}:{table}" cfg do
    let keys ← h.observeKeys table
    return (keys.length = n, keys)

def waitForEntry (table key : String) (cfg : Polling) : Attempt FieldValues :=
  lastSeen s!"entry {h.tableKey table key}" cfg do
    let fields ← h.observeEntry table key
    return (!fields.isEmpty, fields)

/-- Waits until all pairs of `expected` are in an entry. -/
def waitForMatch (table key : String) (expected : FieldValues) (cfg : Polling) :
    Attempt FieldValues :=
  lastSeen s!"fields {shown expected} in {h.tableKey table key}" cfg do
    let fields ← h.observeEntry table key
    return (!fields.isEmpty && fields.containsAll expected, fields)

/-- Waits until the pairs of an entry are those of `expected`. -/
def waitForExactMatch (table key : String) (expected : FieldValues) (cfg : Polling) :
    Attempt FieldValues :=
  lastSeen s!"exact {shown expected} in {h.tableKey table key}" cfg do
    let fields ← h.observeEntry table key
    return (fields.samePairs expected, fields)

def waitForDeletedEntry (table key : String) (cfg : Polling) : Attempt FieldValues :=
  lastSeen s!"deletion of {h.tableKey table key}" cfg do
    let fields ← h.observeEntry table key
    return (fields.isEmpty, fields)

/-- Waits until none of the keys is in a table, and returns those that still are. -/
def waitForDeletedKeys (table : String) (keys : List String) (cfg : Polling) :
    Attempt (List String) :=
  lastSeen s!"deletion of {keys.length} keys in {h.store.name}:{table}" cfg do
    let present ← h.observeKeys table
    let remaining := keys.filter present.contains
    return (remaining.isEmpty, remaining)

/-! Baselines. -/

/-- The keys of the tables as they are now. -/
def snapshot (tables : List String) : Attempt Snapshot :=
  tables.foldlM (fun s table => do return s.insert table (keySet (← h.getKeys table))) .empty

/-- Freezes the keys of the tables, once for a whole family. -/
def captureBaseline (tables : List String) : Attempt Snapshot := do
  let s ← h.snapshot tables
  if (← h.baseline?).isSome then
    throw (.invalidState "baseline captured" "capture_baseline")
  modify (·.freeze h.family s)
  return s

def baselineOf (table : String) : Attempt (List String) := do
  match (← h.baseline?).bind (·.get? table) with
  | some keys => return keys
  | none => throw (.invalidValue s!"no baseline for {h.store.name}:{table}")

/-- The keys that are there now and were not then. -/
def keysAdded (table : String) : Attempt (List String) := do
  let base ← h.baselineOf table
  return (← h.getKeys table).filter (!base.contains ·)

/-- The keys that were there then and are not now. -/
def keysRemoved (table : String) : Attempt (List String) := do
  let base ← h.baselineOf table
  let now ← h.getKeys table
  return base.filter (!now.contains ·)

end Handle

end SwitchLab
