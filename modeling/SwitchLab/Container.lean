import SwitchLab.KeyMap
import SwitchLab.Lab
import SwitchLab.Shown
import SwitchLab.Text.Decimal
/-!
Containers, by way of the `docker` command.
-/
namespace SwitchLab

structure ContainerSpec where
  name : String
  image : String
  network : Option String
  privileged : Bool
  /-- Keeps the input open, so that a shell does not end. -/
  interactive : Bool
  cpus : Option Nat
  /-- A path of the host and the path where it shows in the container. -/
  mounts : List (String × String)
  environment : KeyMap String
  command : List String
  deriving DecidableEq, Repr

namespace ContainerSpec

/-- A container with nothing special about it. -/
def plain (name image : String) : ContainerSpec :=
  ⟨name, image, none, false, false, none, [], .empty, []⟩

def createArgs (s : ContainerSpec) : List String :=
  ["create", "--name", s.name]
    ++ (if s.privileged then ["--privileged"] else [])
    ++ (if s.interactive then ["-i"] else [])
    ++ s.network.toList.flatMap (["--network", ·])
    ++ s.cpus.toList.flatMap (["--cpus", toString ·])
    ++ s.mounts.flatMap (fun (host, inside) => ["-v", s!"{host}:{inside}"])
    ++ s.environment.entries.flatMap (fun (key, value) => ["-e", s!"{key}={value}"])
    ++ s.image :: s.command

end ContainerSpec

namespace Container

/-- The text that stands for the container runtime in reports. -/
def describe : String := "ContainerRuntime \x7b .. \x7d"

def docker (args : List String) : Attempt Output := Host.check ⟨"docker", args⟩

/-- Makes a container without starting it, and returns its id. -/
def create (spec : ContainerSpec) : Attempt String := do
  return Text.trim (← docker spec.createArgs).stdout

def start (name : String) : Attempt Unit := do
  let _ ← docker ["start", name]

def createAndStart (spec : ContainerSpec) : Attempt String := do
  let id ← create spec
  start spec.name
  return id

/-- The first process of a container; it holds the container's network namespace. -/
def pid (name : String) : Attempt Nat := do
  let output ← docker ["inspect", "--format", "\x7b\x7b.State.Pid\x7d\x7d", name]
  let raw := Text.trim output.stdout
  match Text.unsigned? 32 raw with
  | some (n + 1) => return n + 1
  | _ => throw (.provision name s!"container has no running process (pid {shown raw})")

def isRunning (name : String) : Lab Bool := do
  let command : Command :=
    ⟨"docker", ["inspect", "--format", "\x7b\x7b.State.Running\x7d\x7d", name]⟩
  match ← (Host.run command).outcome with
  | .ok output => return output.success && Text.trim output.stdout = "true"
  | .error _ => return false

/-- Runs a line of shell in a container. -/
def shell (name script : String) : Attempt Output :=
  Host.run ⟨"docker", ["exec", name, "bash", "-c", script]⟩

def restart (name : String) : Attempt Unit := do
  let _ ← docker ["restart", name]

/-- The container that a command was to work on is not there. -/
def isGone (f : Fault) : Bool := f.outputText?.any (Text.occursIn "No such container")

/-- Removes a container by force. Gone already is as good as removed. -/
def remove (name : String) : Attempt Unit := do
  match ← (docker ["rm", "-f", name]).result with
  | .ok _ => return ()
  | .error fault => if isGone fault then return () else throw fault

def logs (name : String) : Attempt String := do
  return (← docker ["logs", name]).combined

def copyIn (source name target : String) : Attempt Unit := do
  let _ ← docker ["cp", source, s!"{name}:{target}"]

def copyOut (name source target : String) : Attempt Unit := do
  let _ ← docker ["cp", s!"{name}:{source}", target]

end Container

end SwitchLab
