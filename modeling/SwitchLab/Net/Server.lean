import SwitchLab.Net.Namespace
import SwitchLab.Net.Ping
/-!
A virtual server: a host of its own namespace behind a port of a switch. Its `eth0` is joined by a
veth pair to an interface of the switch. A namespace that an earlier session left is adopted as it
is, and never deleted.
-/
namespace SwitchLab

/-- How a server came to be. -/
inductive Provision where
  | created
  | adopted
  deriving DecidableEq, Repr

namespace Provision

/-- What was made here is removed here. -/
def cleanupOwned : Provision → Bool
  | created => true
  | adopted => false

instance : Shown Provision :=
  ⟨fun
    | created => "Created"
    | adopted => "Adopted"⟩

end Provision

structure VirtualServer where
  ns : Namespace
  index : Nat
  /-- The interface in the namespace of the server. -/
  peer : String
  /-- The interface in the namespace of the switch. -/
  device : String
  provision : Provision
  /-- Processes that were started and left running. -/
  processes : List Nat
  destroyed : Bool
  deriving DecidableEq, Repr

namespace VirtualServer

def namespaceName (container : String) (index : Nat) : String := s!"{container}-srv{index}"

def new (container : String) (index : Nat) (provision : Provision) : VirtualServer :=
  ⟨⟨namespaceName container index⟩, index, "eth0", s!"eth{index + 1}", provision, [], false⟩

def describe (s : VirtualServer) : String :=
  s!"VirtualServer \x7b netns: {shown s.ns.name}, peer_ifname: {shown s.peer}, " ++
    s!"device_ifname: {shown s.device}, provision: {shown s.provision}, " ++
    s!"destroyed: {shown s.destroyed} \x7d"

/-- The names that the ends of the pair have until they are in place: the server's and the
switch's. -/
def transientEnds (s : VirtualServer) (pid : Nat) : String × String :=
  (s!"dv{pid}s{s.index}a", s!"dv{pid}s{s.index}b")

/-- Checksums left to the hardware that a veth does not have spoil packets. -/
def disableOffload (scope : NetScope) (link : String) : Attempt Unit := do
  let _ ← (scope.check ⟨"ethtool", ["-K", link, "tx", "off"]⟩).result

/-- Joins the server to the switch whose namespace the process `pid` holds. -/
def wire (s : VirtualServer) (pid : Nat) : Attempt Unit := do
  let here := s.ns.scope
  let switch := NetScope.ofPid pid
  let (serverEnd, switchEnd) := s.transientEnds pid
  NetScope.host.deleteLink serverEnd
  switch.deleteLink s.device
  NetScope.host.addVethPair serverEnd switchEnd
  NetScope.host.moveLink serverEnd here
  NetScope.host.moveLink switchEnd switch
  here.renameLink serverEnd s.peer
  here.setLink s.peer true
  let _ ← (here.setIpv6 s.peer false).result
  switch.renameLink switchEnd s.device
  switch.setLink s.device true
  disableOffload here s.peer
  disableOffload switch s.device

/-- Takes back what part of `wire` was done. An end of the pair takes the other with it, and a
namespace the ends in it. -/
def unwire (s : VirtualServer) (pid : Nat) : Lab Unit := do
  let _ ← (NetScope.host.deleteLink (s.transientEnds pid).1).outcome
  let _ ← s.ns.delete.outcome

/-- Runs a line of shell in the server. -/
def runShell (s : VirtualServer) (script : String) : Attempt Output := s.ns.shell script

/-- Starts a line of shell in the server. It is ended at the latest when the server is destroyed; in
an adopted server, which is left as it is then, it goes on. -/
def spawnShell (script : String) : On VirtualServer Nat := do
  let pid ← (← get).ns.spawnShell script
  modify fun s => { s with processes := s.processes ++ [pid] }
  return pid

/-- Kills the processes that were started and not killed yet. -/
def killStarted : StateT VirtualServer Lab Unit := do
  let started := (← get).processes
  modify fun s => { s with processes := [] }
  for pid in started do
    let _ ← (Host.kill pid).outcome

/-- Kills whatever else runs in the namespace. -/
def killListed (ns : Namespace) : Lab Unit := do
  for pid in (← ns.pids.outcome).toOption.getD [] do
    let _ ← (Host.run ⟨"kill", ["-9", toString pid]⟩).outcome

def killAll : StateT VirtualServer Lab Unit := do
  killStarted
  killListed (← get).ns

def setIpv6 (s : VirtualServer) (on : Bool) : Attempt Unit := s.ns.scope.setIpv6 s.peer on

def setArp (s : VirtualServer) (on : Bool) : Attempt Unit := s.ns.scope.setArp s.peer on

def addAddress (s : VirtualServer) (cidr : String) : Attempt Unit :=
  s.ns.scope.addAddress s.peer cidr

def ping (s : VirtualServer) (address : String) (count : Nat) : Attempt PingReport := do
  let output ← s.ns.exec
    ⟨"ping", ["-c", toString count, "-i", "0.2", "-W", "1", address]⟩
  return .ofText output.stdout count

/-- Server `index` of the switch `container`, whose namespace the process `pid` holds. -/
def create (netnsDir container : String) (pid index : Nat) : Attempt VirtualServer := do
  if ← Namespace.isPresent netnsDir (namespaceName container index) then
    let (_, s) ← killAll.run (new container index .adopted)
    return s
  let s := new container index .created
  let _ ← Namespace.create s.ns.name
  match ← (s.wire pid).result with
  | .ok _ => return s
  | .error fault =>
    s.unwire pid
    throw fault

/-- Kills the processes and deletes the namespace, once, unless it was adopted. -/
def destroy : On VirtualServer Unit := do
  let s ← get
  if s.destroyed then return ()
  modify fun s => { s with destroyed := true }
  if s.provision.cleanupOwned then
    killAll
    s.ns.delete

end VirtualServer

end SwitchLab
