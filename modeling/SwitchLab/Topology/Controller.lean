import SwitchLab.Device.Basic
import SwitchLab.Topology.Descriptor
import SwitchLab.Topology.Report
import SwitchLab.Topology.Veth
/-!
A topology on one host: a namespace with a bridge in it that all nodes share, a switch for each
node, and for each end of a link a veth pair, with one end in the node under the declared name and
the other end on the bridge.
-/
namespace SwitchLab

/-- An end of a link whose pair was made. -/
structure WiredEnd where
  node : Nat
  iface : String
  /-- The name under which the node's end was made. -/
  nodeEnd : String
  sharedEnd : String
  deriving DecidableEq, Repr

structure Controller where
  topology : Topology
  options : Options
  /-- The shared namespace, when it was made. -/
  shared : Option Namespace
  nodes : List Device
  wired : List WiredEnd
  /-- A last change to every spec. -/
  adjust : DeviceSpec → DeviceSpec
  retryInterval : Duration
  built : Bool
  tornDown : Bool

namespace Controller

def bridge : String := "topobr0"

def new (topology : Topology) (options : Options) : Controller :=
  ⟨topology, options, none, [], [], id, .ofSecs 1, false, false⟩

def sharedNameOf (topology : Topology) (options : Options) : String :=
  options.topologyNs.getD s!"{topology.name}-topo"

def sharedName (c : Controller) : String := sharedNameOf c.topology c.options

def node? (c : Controller) (name : String) : Option Device := c.nodes.find? (·.name = name)

/-- The ends of the pairs, the node's first. -/
def vethNames (c : Controller) : List (String × String) :=
  c.wired.map fun w => (w.nodeEnd, w.sharedEnd)

/-! Building. -/

/-- The spec of a node. A container of its name that is running is attached to. -/
def nodeSpec (c : Controller) (node : Node) (running : Bool) : DeviceSpec :=
  let spec := DeviceSpec.named node.name c.options
  c.adjust { spec with
    attach := running
    withServers := false
    defaultConfig := node.config
    numPorts := node.ports.getD spec.numPorts }

def buildShared : On Controller Namespace := do
  let shared ← Namespace.create (← get).sharedName
  modify fun c => { c with shared := some shared }
  shared.addBridge bridge
  return shared

def buildNode (node : Node) : On Controller Unit := do
  let running ← Container.isRunning node.name
  let device ← Device.create ((← get).nodeSpec node running)
  modify fun c => { c with nodes := c.nodes ++ [device] }

/-- Wires the end of a link to the shared namespace. -/
def wire (index : Nat) (side : Char) (e : Endpoint) (shared : Namespace) : On Controller Unit := do
  let c ← get
  let some node := c.nodes.findIdx? (·.name = e.node)
    | throw (.invalidConfig s!"unknown node {e.node}")
  let some pid := (c.nodes[node]?).bind (·.pid)
    | throw (.invalidState "no namespace" "wire")
  let inside := NetScope.ofPid pid
  let stem := Veth.stem c.topology.name
  let nodeEnd := Veth.name stem index side 0
  let sharedEnd := Veth.name stem index side 1
  NetScope.host.deleteLink nodeEnd
  shared.scope.deleteLink sharedEnd
  inside.deleteLink e.iface
  NetScope.host.addVethPair nodeEnd sharedEnd
  modify fun c => { c with wired := c.wired ++ [⟨node, e.iface, nodeEnd, sharedEnd⟩] }
  NetScope.host.moveLink nodeEnd inside
  NetScope.host.moveLink sharedEnd shared.scope
  inside.renameLink nodeEnd e.iface
  inside.setLink e.iface true
  shared.scope.setMaster sharedEnd bridge
  shared.scope.setLink sharedEnd true

def wireLinks (shared : Namespace) : (index : Nat) → List Link → On Controller Unit
  | _, [] => return ()
  | index, l :: rest => do
    wire index 'a' l.a shared
    wire index 'b' l.b shared
    wireLinks shared (index + 1) rest

/-- Makes nodes ready one after the other, up to the first that does not get ready. -/
def readyAll : List Device → Lab (Except Fault Unit × List Device)
  | [] => return (.ok (), [])
  | d :: rest => do
    let (result, d) ← Device.checkReady.perform d
    match result with
    | .error fault => return (.error fault, d :: rest)
    | .ok _ =>
      let (result, rest) ← readyAll rest
      return (result, d :: rest)

def buildAll : On Controller Unit := do
  let shared ← buildShared
  let topology := (← get).topology
  for node in topology.nodes do
    buildNode node
  wireLinks shared 0 topology.links
  let (result, nodes) ← readyAll (← get).nodes
  modify fun c => { c with nodes }
  ExceptT.mk (pure result)

/-! Teardown. -/

/-- The two ends of a pair, and the interface of the node, each where it was put. -/
def wiredPlaces (c : Controller) (w : WiredEnd) : List (NetScope × String) :=
  [(.host, w.nodeEnd)]
    ++ (c.shared.map fun shared => (shared.scope, w.sharedEnd)).toList
    ++ (((c.nodes[w.node]?).bind (·.pid)).map fun pid => (NetScope.ofPid pid, w.iface)).toList

def unwireAll : List (NetScope × String) → Lab (List String)
  | [] => return []
  | (scope, link) :: rest => do
    let failures ← Cleanup.step s!"delete {link} in {scope.text}" (scope.deleteLink link)
    return failures ++ (← unwireAll rest)

def destroyAll : List Device → Lab (List String)
  | [] => return []
  | d :: rest => do
    let (result, d) ← Device.destroy.perform d
    let failures ← Cleanup.step s!"destroy {d.name}" (ExceptT.mk (pure result))
    d.drop
    return failures ++ (← destroyAll rest)

def deleteShared (shared : Namespace) : Lab (List String) := do
  let bridgeFailures ← Cleanup.step s!"delete {bridge}" (shared.scope.deleteLink bridge)
  return bridgeFailures ++ (← Cleanup.step s!"delete namespace {shared.name}" shared.delete)

/-- Takes the links apart and destroys the nodes, both in reverse order, and then the shared
namespace; once, whatever fails. -/
def teardown : On Controller Unit := do
  let c ← get
  if c.tornDown then return ()
  set { c with tornDown := true, wired := [], nodes := [], shared := none }
  let links ← unwireAll (c.wired.reverse.flatMap c.wiredPlaces)
  let nodes ← destroyAll c.nodes.reverse
  let rest ← match c.shared with
    | some shared => deleteShared shared
    | none => pure []
  ExceptT.mk (pure (Cleanup.verdict (links ++ nodes ++ rest)))

/-- Builds the topology, once. What a failure leaves is torn down. -/
def build : On Controller Unit := do
  let c ← get
  if c.tornDown then throw (.invalidState "torn down" "build")
  if c.built then throw (.invalidState "built" "build")
  modify fun c => { c with built := true }
  match ← buildAll.result with
  | .ok _ => return ()
  | .error fault =>
    let _ ← teardown.result
    throw fault

/-- Forgets the topology and leaves it running. -/
def detach (c : Controller) : Controller :=
  { c with nodes := c.nodes.map Device.detach, tornDown := true }

/-- The end of a topology that nobody holds any more. -/
def drop (c : Controller) : Lab Unit := do
  if c.built ∧ !c.tornDown then
    let _ ← teardown.perform c

/-- Removes a node that an earlier session left. -/
def removeNode (options : Options) (node : Node) : Lab (List String) := do
  let mount := Text.joinPath options.mountRoot node.name
  let switch ← Cleanup.step node.name (Container.remove node.name)
  let holder ← Cleanup.step node.name (Container.remove s!"{node.name}-ns")
  let directory ← Cleanup.step node.name do
    let _ ← Host.check ⟨"rm", ["-rf", mount]⟩
  return switch ++ holder ++ directory

def removeNodes (options : Options) : List Node → Lab (List String)
  | [] => return []
  | node :: rest => do
    let failures ← removeNode options node
    return failures ++ (← removeNodes options rest)

/-- Removes a topology that an earlier session left running. -/
def down (topology : Topology) (options : Options) : Attempt Unit := ExceptT.mk do
  let nodes ← removeNodes options topology.nodes.reverse
  let shared : Namespace := ⟨sharedNameOf topology options⟩
  let rest ← Cleanup.step s!"delete namespace {shared.name}" shared.delete
  return Cleanup.verdict (nodes ++ rest)

/-! Verification. Whatever fails becomes part of the report. -/

/-- The text of a failure, if there was one. -/
def failureText {α : Type} (describe : Fault → String) (work : Attempt α) : Lab (List String) := do
  match ← work.outcome with
  | .ok _ => return []
  | .error fault => return [describe fault]

/-- Sets the interface down and up, and gives it the address that no port takes. -/
def bounce (scope : NetScope) (e : Endpoint) : Attempt Unit := do
  scope.setLink e.iface false
  scope.setLink e.iface true
  if let (some address, none) := (e.address, e.port) then
    scope.addAddress e.iface address

def bringUp (c : Controller) (e : Endpoint) : Lab (List String) := do
  match c.node? e.node with
  | none => return [s!"{e.text}: node not built"]
  | some node =>
    match node.pid with
    | none => return [s!"{e.text}: node has no namespace"]
    | some pid =>
      failureText (fun fault => s!"{e.text}: {fault.message}") (bounce (.ofPid pid) e)

def setAdmin (node : Device) (port : String) (status : AdminStatus) : Lab (List String) :=
  failureText (fun fault => s!"{node.name}: admin {port}: {fault.message}") do
    Device.setPortAdmin (← node.configDb) port status

def configuredPorts (node : Device) : Attempt (List String) := do
  (← node.configDb).getKeys "PORT"

/-- Gives all ports of a node the status that is declared for it. -/
def setNodeAdmin (c : Controller) (n : Node) : Lab (List String) := do
  match n.admin, c.node? n.name with
  | some status, some node =>
    let ports := (← (configuredPorts node).outcome).toOption.getD []
    return (← ports.mapM fun port => setAdmin node port status).flatten
  | _, _ => return []

def setEndpointAdmin (c : Controller) (e : Endpoint) : Lab (List String) := do
  match e.port, e.admin, c.node? e.node with
  | some port, some status, some node => setAdmin node port status
  | _, _, _ => return []

/-- Gives a port the address that its endpoint declares. -/
def addressPort (c : Controller) (e : Endpoint) : Lab (List String) := do
  match e.address, e.port, c.node? e.node with
  | some address, some port, some node =>
    failureText (fun fault => s!"{e.text}: address {address} on {port}: {fault.message}")
      (node.addIpAddress port address)
  | _, _, _ => return []

def pingFrom (c : Controller) (e : Endpoint) (target : String) (count : Nat) :
    Attempt PingReport := do
  let some node := c.node? e.node | throw (.invalidConfig s!"unknown node {e.node}")
  let some pid := node.pid | throw (node.refuse "ping")
  let output ← (NetScope.ofPid pid).exec ⟨"ping",
    ["-c", toString count, "-i", "0.2", "-W", "1", "-I", e.sourceInterface, target]⟩
  return .ofText output.stdout count

/-- Probes one end of a link from the other, if it has an address. -/
def probe (c : Controller) (count : Nat) (l : Link) (source target : Endpoint) :
    Lab (List Probe × List String) := do
  match target.hostAddress with
  | none => return ([], [])
  | some address =>
    let result ← (c.pingFrom source address count).outcome
    match result with
    | .ok report => return ([⟨l.name, source.text, address, report⟩], [])
    | .error fault =>
      return ([⟨l.name, source.text, address, .ofText "" count⟩],
        [s!"{source.text} -> {address}: {fault.message}"])

def probeLink (c : Controller) (count : Nat) (l : Link) : Lab (List Probe × List String) := do
  let (there, errors) ← c.probe count l l.a l.b
  let (back, more) ← c.probe count l l.b l.a
  return (there ++ back, errors ++ more)

/-- The crashes in the log of a node, and the failure to read it. -/
def scanLog (node : Device) : Lab (List String × List String) := do
  match ← node.logs.outcome with
  | .ok log => return (Report.crashesIn node.name log, [])
  | .error fault => return ([], [s!"{node.name}: reading logs: {fault.message}"])

/-- Brings all ends of links up, sets the declared states of ports and their addresses, probes
every link in both directions, and looks through the logs. -/
def verify (c : Controller) (count : Nat) : Lab Report := do
  let endpoints := c.topology.endpoints
  let upErrors ← endpoints.mapM c.bringUp
  let nodeErrors ← c.topology.nodes.mapM c.setNodeAdmin
  let portErrors ← endpoints.mapM c.setEndpointAdmin
  let addressErrors ← endpoints.mapM c.addressPort
  let probes ← c.topology.links.mapM (c.probeLink count)
  let logs ← c.nodes.mapM scanLog
  return {
    probes := probes.flatMap Prod.fst
    errors := upErrors.flatten ++ nodeErrors.flatten ++ portErrors.flatten ++ addressErrors.flatten
      ++ probes.flatMap Prod.snd ++ logs.flatMap Prod.snd
    crashes := logs.flatMap Prod.fst }

instance : Shown Report := ⟨Report.text⟩

/-- Verifies until the report is good, at most `attempts` times, and returns the last report. -/
def verifyWithRetries (c : Controller) (count attempts : Nat) : Attempt Report :=
  Handle.lastSeen "topology verification" (.attempts attempts c.retryInterval) do
    let report ← c.verify count
    return (report.passed, report)

end Controller

end SwitchLab
