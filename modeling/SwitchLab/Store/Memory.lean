import SwitchLab.KeyMap
import SwitchLab.Store.FieldValues
import SwitchLab.Store.Glob
/-!
A database held in memory: records by raw key.
-/
namespace SwitchLab

structure Memory where
  records : KeyMap FieldValues
  deriving DecidableEq, Repr

namespace Memory

def empty : Memory := ⟨.empty⟩

def contains (m : Memory) (key : String) : Bool := m.records.contains key

/-- The record of a raw key, empty if there is none. -/
def fetch (m : Memory) (key : String) : FieldValues := (m.records.get? key).getD .empty

/-- The raw keys that match a pattern, ascending. -/
def keys (m : Memory) (pattern : String) : List String :=
  m.records.keys.filter (globMatches pattern)

/-- Merges fields into a record, which is made if need be and may stay empty. -/
def insert (m : Memory) (key : String) (fields : FieldValues) : Memory :=
  ⟨m.records.insert key ((m.fetch key).merge fields)⟩

/-- A record needs a field to exist, so no fields at all are written as one without meaning. -/
def merge (m : Memory) (key : String) (fields : FieldValues) : Memory :=
  let start := m.fetch key
  let start := if fields.isEmpty then start.insert "NULL" "NULL" else start
  ⟨m.records.insert key (start.merge fields)⟩

/-- A record that has no fields is dropped. -/
def dropFields (m : Memory) (key : String) (fields : List String) : Memory :=
  match m.records.get? key with
  | none => m
  | some record =>
    let record := fields.foldl FieldValues.erase record
    if record.isEmpty then ⟨m.records.erase key⟩ else ⟨m.records.insert key record⟩

def dropKey (m : Memory) (key : String) : Memory := ⟨m.records.erase key⟩

end Memory

end SwitchLab
