import SwitchLab.Json.Parser
import SwitchLab.Lab
import SwitchLab.Topology.Descriptor
/-!
Topologies from JSON documents. A record is an object without unknown or repeated members, or an
array of its members in their order; members at the end of the array may be missing if they have a
default.
-/
namespace SwitchLab

namespace TopologyDocument

/-- The members of a record by name. -/
def membersOf? (names : List String) : Json → Option (List (String × Json))
  | .object members =>
    let given := members.map Prod.fst
    if given.all names.contains && given.eraseDups.length = given.length then some members
    else none
  | .array items => if items.length ≤ names.length then some (names.zip items) else none
  | _ => none

def stringOf? : Json → Option String
  | .string s => some s
  | _ => none

def unsigned32Of? : Json → Option Nat
  | .natural n => if n < Text.wordSize 32 then some n else none
  | _ => none

def listOf? {α : Type} (read : Json → Option α) : Json → Option (List α)
  | .array items => items.mapM read
  | _ => none

def required {α : Type} (read : Json → Option α) (name : String) (members : List (String × Json)) :
    Option α :=
  (members.lookup name).bind read

/-- A member that may be missing or null. -/
def optional {α : Type} (read : Json → Option α) (name : String) (members : List (String × Json)) :
    Option (Option α) :=
  match members.lookup name with
  | none | some .null => some none
  | some v => (read v).map some

def orEmpty {α : Type} (read : Json → Option α) (name : String) (members : List (String × Json)) :
    Option (List α) :=
  match members.lookup name with
  | none => some []
  | some v => listOf? read v

def nodeOf? (v : Json) : Option NodeInput := do
  let m ← membersOf? ["name", "config", "ports", "admin_status"] v
  return {
    name := ← required stringOf? "name" m
    config := ← optional stringOf? "config" m
    ports := ← optional unsigned32Of? "ports" m
    adminStatus := ← optional stringOf? "admin_status" m }

def endpointOf? (v : Json) : Option EndpointInput := do
  let m ← membersOf? ["endpoint", "address", "port", "admin_status"] v
  return {
    endpoint := ← required stringOf? "endpoint" m
    address := ← optional stringOf? "address" m
    port := ← optional stringOf? "port" m
    adminStatus := ← optional stringOf? "admin_status" m }

def linkOf? (v : Json) : Option LinkInput := do
  let m ← membersOf? ["name", "a", "b"] v
  return {
    name := ← required stringOf? "name" m
    a := ← required endpointOf? "a" m
    b := ← required endpointOf? "b" m }

def inputOf? (v : Json) : Option TopologyInput := do
  let m ← membersOf? ["name", "nodes", "links"] v
  return {
    name := ← required stringOf? "name" m
    nodes := ← orEmpty nodeOf? "nodes" m
    links := ← orEmpty linkOf? "links" m }

end TopologyDocument

namespace Topology

def ofJson (text : String) : Except Fault Topology :=
  match (Json.parse? text).bind TopologyDocument.inputOf? with
  | some input => input.validate
  | none => .error (.invalidConfig "invalid topology JSON:")

def ofFile (path : String) : Attempt Topology := do
  let text ← Host.readFile path
  ExceptT.mk (pure (ofJson text))

end Topology

end SwitchLab
