import SwitchLab.Net.Scope
import SwitchLab.Shown
import SwitchLab.Text.Path
/-!
Named network namespaces. Who made one has to delete it; nothing is deleted by itself.
-/
namespace SwitchLab

structure Namespace where
  name : String
  deriving DecidableEq, Repr

namespace Namespace

/-- The host keeps a file for each named namespace. -/
def isPresent (dir name : String) : Lab Bool := Host.pathExists (Text.joinPath dir name)

variable (ns : Namespace)

def scope : NetScope := .named ns.name

def describe : String := s!"Namespace \x7b name: {shown ns.name} \x7d"

def exec (c : Command) : Attempt Output := ns.scope.exec c

/-- Gone already is as good as deleted. -/
def delete : Attempt Unit := allowMissing (Host.check ⟨"ip", ["netns", "del", ns.name]⟩)

/-- A new namespace in place of an old one of that name, with its loopback up. -/
def create (name : String) : Attempt Namespace := do
  let ns : Namespace := ⟨name⟩
  ns.delete
  let _ ← Host.check ⟨"ip", ["netns", "add", name]⟩
  let _ ← (ns.exec ⟨"ip", ["link", "set", "lo", "up"]⟩).result
  return ns

/-- Runs a line of shell. -/
def shell (script : String) : Attempt Output := ns.exec ⟨"bash", ["-c", script]⟩

/-- Starts a line of shell and leaves it running. -/
def spawnShell (script : String) : Attempt Nat :=
  Host.spawn ⟨"ip", ["netns", "exec", ns.name, "bash", "-c", script]⟩

/-- The processes in the namespace; none if they cannot be listed. -/
def pids : Attempt (List Nat) := do
  let output ← Host.run ⟨"ip", ["netns", "pids", ns.name]⟩
  if !output.success then return []
  return (Text.words output.stdout).filterMap (Text.unsigned? 32)

def addBridge (bridge : String) : Attempt Unit := do
  ns.scope.deleteLink bridge
  ns.scope.run ["link", "add", bridge, "type", "bridge"]
  ns.scope.setLink bridge true

end Namespace

end SwitchLab
