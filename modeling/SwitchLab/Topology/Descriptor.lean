import SwitchLab.Net.Address
import SwitchLab.Shown
import SwitchLab.Store.Record
import SwitchLab.Text.Decimal
/-!
Topologies: switches and the links between their interfaces, as a document gives them and after
the document was found valid.
-/
namespace SwitchLab

/-! What a document says. -/

structure EndpointInput where
  endpoint : String
  address : Option String
  port : Option String
  adminStatus : Option String
  deriving DecidableEq, Repr

structure LinkInput where
  name : String
  a : EndpointInput
  b : EndpointInput
  deriving DecidableEq, Repr

structure NodeInput where
  name : String
  config : Option String
  ports : Option Nat
  adminStatus : Option String
  deriving DecidableEq, Repr

structure TopologyInput where
  name : String
  nodes : List NodeInput
  links : List LinkInput
  deriving DecidableEq, Repr

/-! What it means. -/

structure Node where
  name : String
  /-- A file that becomes the configuration of the switch. -/
  config : Option String
  ports : Option Nat
  /-- The status that all ports of the switch get. -/
  admin : Option AdminStatus
  deriving DecidableEq, Repr

structure Endpoint where
  node : String
  iface : String
  /-- With a prefix length. It goes to the port if there is one, to the interface otherwise. -/
  address : Option String
  /-- The port of the switch behind the interface. Probes leave through it. -/
  port : Option String
  admin : Option AdminStatus
  deriving DecidableEq, Repr

namespace Endpoint

def text (e : Endpoint) : String := s!"{e.node}:{e.iface}"

/-- The address without its prefix length. -/
def hostAddress (e : Endpoint) : Option String :=
  e.address.map fun a => String.ofList (a.toList.takeWhile (· ≠ '/'))

/-- Where probes are sent from. -/
def sourceInterface (e : Endpoint) : String := e.port.getD e.iface

end Endpoint

structure Link where
  name : String
  a : Endpoint
  b : Endpoint
  deriving DecidableEq, Repr

def Link.endpoints (l : Link) : List Endpoint := [l.a, l.b]

/-- A valid topology. -/
structure Topology where
  name : String
  nodes : List Node
  links : List Link
  deriving DecidableEq, Repr

def Topology.endpoints (t : Topology) : List Endpoint := t.links.flatMap Link.endpoints

namespace TopologyInput

def invalid {α : Type} (text : String) : Except Fault α := .error (.invalidConfig text)

/-- The longest name that the kernel gives an interface, in bytes. -/
def longestIface : Nat := 15

def parseAdmin (context : String) : Option String → Except Fault (Option AdminStatus)
  | none => .ok none
  | some value =>
    match AdminStatus.ofText? value with
    | some status => .ok (some status)
    | none => invalid s!"{context}: admin_status must be up or down, got {shown value}"

/-- An address and a prefix length that is not longer than the address. -/
def checkCidr (context cidr : String) : Except Fault Unit :=
  match Text.splitFirst? '/' cidr with
  | none => invalid s!"{context}: address {shown cidr} needs a prefix length"
  | some (address, length) =>
    match Address.family? address with
    | none => invalid s!"{context}: {shown address} is not an IP address"
    | some family =>
      if (Text.unsigned? 8 length).any (· ≤ family.bits) then .ok ()
      else invalid s!"{context}: bad prefix length in {shown cidr}"

/-- Takes a node after those with the names `names`. -/
def checkNode (names : List String) (n : NodeInput) : Except Fault Node := do
  if n.name.isEmpty || names.contains n.name then
    invalid s!"duplicate or empty node name {shown n.name}"
  if n.ports = some 0 then invalid s!"node {n.name}: ports must be at least 1"
  let admin ← parseAdmin n.name n.adminStatus
  return ⟨n.name, n.config, n.ports, admin⟩

def checkNodes (names : List String) : List NodeInput → Except Fault (List Node)
  | [] => .ok []
  | n :: rest => do
    let node ← checkNode names n
    let nodes ← checkNodes (n.name :: names) rest
    return node :: nodes

/-- The node and the interface of an endpoint, with a colon between them. -/
def splitEndpoint? (text : String) : Option (String × String) := do
  let (node, iface) ← Text.splitFirst? ':' text
  if node.isEmpty || iface.isEmpty then none else some (node, iface)

/-- Takes an endpoint of the link `context` after the endpoints `used`. -/
def checkEndpoint (names used : List String) (context : String) (e : EndpointInput) :
    Except Fault Endpoint := do
  let some (node, iface) := splitEndpoint? e.endpoint
    | invalid s!"{context}: endpoint {shown e.endpoint} is not node:iface"
  if !names.contains node then invalid s!"{context}: unknown node {shown node}"
  if longestIface < iface.utf8ByteSize then
    invalid s!"{context}: interface name {shown iface} too long"
  if used.contains e.endpoint then invalid s!"{context}: endpoint {e.endpoint} used twice"
  if let some address := e.address then checkCidr context address
  let admin ← parseAdmin context e.adminStatus
  return ⟨node, iface, e.address, e.port, admin⟩

/-- Takes the links after those with the names `linkNames` and the endpoints `used`. -/
def checkLinks (names linkNames used : List String) : List LinkInput → Except Fault (List Link)
  | [] => .ok []
  | l :: rest => do
    if linkNames.contains l.name then invalid s!"duplicate link name {shown l.name}"
    let a ← checkEndpoint names used s!"link {l.name}" l.a
    let b ← checkEndpoint names (l.a.endpoint :: used) s!"link {l.name}" l.b
    let links ←
      checkLinks names (l.name :: linkNames) (l.b.endpoint :: l.a.endpoint :: used) rest
    return ⟨l.name, a, b⟩ :: links

/-- The topology of a document, or the first thing that is wrong with it. -/
def validate (t : TopologyInput) : Except Fault Topology := do
  let nodes ← checkNodes [] t.nodes
  let links ← checkLinks (t.nodes.map (·.name)) [] [] t.links
  return ⟨t.name, nodes, links⟩

end TopologyInput

end SwitchLab
