import SwitchLab.Lab
/-!
Network namespaces as places where commands run, and the commands that work on links there.
-/
namespace SwitchLab

/-- Where a command runs. -/
inductive NetScope where
  | host
  /-- A namespace that has a name. -/
  | named (name : String)
  /-- The namespace of a process. -/
  | ofPid (pid : Nat)
  deriving DecidableEq, Repr

namespace NetScope

def text : NetScope → String
  | host => "host"
  | named name => s!"netns {name}"
  | ofPid pid => s!"pid {pid}"

/-- How a link is told to move there. -/
def target? : NetScope → Option String
  | host => none
  | named name => some name
  | ofPid pid => some (toString pid)

/-- The command that runs `c` in the scope. -/
def enter (s : NetScope) (c : Command) : Command :=
  match s with
  | host => c
  | named name => ⟨"ip", "netns" :: "exec" :: name :: c.program :: c.args⟩
  | ofPid pid => ⟨"nsenter", "-t" :: toString pid :: "-n" :: c.program :: c.args⟩

def exec (s : NetScope) (c : Command) : Attempt Output := Host.run (s.enter c)

/-- Runs a command that has to succeed; its fault names the scope. -/
def check (s : NetScope) (c : Command) : Attempt Output := do
  let output ← s.exec c
  ExceptT.mk (pure (output.orFault s!"[{s.text}] {c.render}"))

def ip (s : NetScope) (args : List String) : Attempt Output := s.check ⟨"ip", args⟩

end NetScope

/-- What commands print about a link or a namespace that is not there. -/
def missingSigns : List String :=
  ["Cannot find device", "does not exist", "No such device", "No such file or directory"]

def saysMissing (text : String) : Bool := missingSigns.any (Text.occursIn · text)

namespace Fault

/-- A command failed because what it works on is gone. -/
def isMissing (f : Fault) : Bool := f.outputText?.any saysMissing

end Fault

/-- Takes it for done when there is nothing left to work on. -/
def allowMissing {α : Type} (work : Attempt α) : Attempt Unit := do
  match ← work.result with
  | .ok _ => return ()
  | .error fault => if fault.isMissing then return () else throw fault

namespace NetScope

variable (s : NetScope)

def run (args : List String) : Attempt Unit := do
  let _ ← s.ip args

def addVethPair (a b : String) : Attempt Unit :=
  s.run ["link", "add", a, "type", "veth", "peer", "name", b]

/-- Moves a link to another namespace; the one of process 1 is the host's. -/
def moveLink (link : String) (dest : NetScope) : Attempt Unit :=
  s.run ["link", "set", link, "netns", dest.target?.getD "1"]

def renameLink (link name : String) : Attempt Unit := s.run ["link", "set", "dev", link, "name", name]

def setLink (link : String) (isUp : Bool) : Attempt Unit :=
  s.run ["link", "set", "dev", link, if isUp then "up" else "down"]

/-- An address that the link has already is no fault. -/
def addAddress (link cidr : String) : Attempt Unit := do
  let output ← s.exec ⟨"ip", ["addr", "add", cidr, "dev", link]⟩
  if output.success || Text.occursIn "File exists" output.combined then return ()
  throw (.command s!"[{s.text}] ip addr add {cidr} dev {link}" output.code output.combined)

def deleteLink (link : String) : Attempt Unit := allowMissing (s.ip ["link", "del", link])

def setMaster (link bridge : String) : Attempt Unit :=
  s.run ["link", "set", "dev", link, "master", bridge]

def setIpv6 (link : String) (on : Bool) : Attempt Unit := do
  let disabled := if on then "0" else "1"
  let _ ← s.check ⟨"sysctl", ["-w", s!"net.ipv6.conf.{link}.disable_ipv6={disabled}"]⟩

def setArp (link : String) (on : Bool) : Attempt Unit :=
  s.run ["link", "set", "dev", link, "arp", if on then "on" else "off"]

end NetScope

end SwitchLab
