import SwitchLab.Fault
import SwitchLab.KeyMap
import SwitchLab.Shown
import SwitchLab.Text.Blank
import SwitchLab.Text.Decimal
/-!
What a test session may choose about its switch.
-/
namespace SwitchLab

inductive BufferModel where
  | traditional
  | dynamic
  deriving DecidableEq, Repr

namespace BufferModel

def text : BufferModel → String
  | traditional => "traditional"
  | dynamic => "dynamic"

def ofText? : String → Option BufferModel
  | "traditional" => some traditional
  | "dynamic" => some dynamic
  | _ => none

/-- Blanks around the name and the case of its letters do not matter. -/
def parse (value : String) : Except Fault BufferModel :=
  let name := Text.lowerAscii (Text.trim value)
  match ofText? name with
  | some model => .ok model
  | none => .error (.invalidConfig s!"unknown buffer model {shown name}")

end BufferModel

/-- How long each stage of readiness may take. -/
structure Timeouts where
  supervisor : Duration
  swss : Duration
  asicInit : Duration
  deriving DecidableEq, Repr

def Timeouts.default : Timeouts := ⟨.ofSecs 60, .ofSecs 300, .ofSecs 30⟩

structure Options where
  /-- The running container to attach to, instead of creating one. -/
  attachName : Option String
  /-- Make a new switch between modules. -/
  forceRecreate : Bool
  /-- Leave the switch running at the end. -/
  keepTestbed : Bool
  image : String
  netnsImage : String
  maxCpu : Nat
  bufferModel : BufferModel
  /-- The namespace that the nodes of a topology share. -/
  topologyNs : Option String
  topology : Option String
  logPath : Option String
  numPorts : Nat
  mountRoot : String
  netnsDir : String
  useSudo : Bool
  environment : KeyMap String
  timeouts : Timeouts
  deriving DecidableEq, Repr

namespace Options

def default : Options where
  attachName := none
  forceRecreate := false
  keepTestbed := false
  image := "docker-sonic-vs:latest"
  netnsImage := "debian:bookworm"
  maxCpu := 2
  bufferModel := .traditional
  topologyNs := none
  topology := none
  logPath := none
  numPorts := 32
  mountRoot := "/var/run/redis-vs"
  netnsDir := "/var/run/netns"
  useSudo := false
  environment := .empty
  timeouts := .default

/-- The switch was running before, and stays running. -/
def isPersistent (o : Options) : Bool := o.attachName.isSome

/-- Blank text is no choice. -/
def chosen? (value : String) : Option String :=
  let value := Text.trim value
  if value.isEmpty then none else some value

end Options

end SwitchLab
