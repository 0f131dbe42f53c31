import SwitchLab.Options.Basic
import SwitchLab.Text.Path
/-!
What it takes to make a virtual switch, or to attach to one.
-/
namespace SwitchLab

structure DeviceSpec where
  name : String
  /-- Attach to the running container of that name. -/
  attach : Bool
  image : String
  netnsImage : String
  /-- The front-panel ports that the switch is set up with. -/
  numPorts : Nat
  maxCpu : Nat
  environment : KeyMap String
  /-- A file that becomes the configuration of the switch before it starts. -/
  defaultConfig : Option String
  bufferModel : BufferModel
  mountRoot : String
  netnsDir : String
  timeouts : Timeouts
  pollInterval : Duration
  /-- One server per port. The nodes of a topology are wired to each other instead. -/
  withServers : Bool
  logPath : Option String
  deriving DecidableEq, Repr

namespace DeviceSpec

/-- The characters that fit into so many bytes. -/
def takeBytes : (limit : Nat) → List Char → List Char
  | _, [] => []
  | limit, c :: cs => if c.utf8Size ≤ limit then c :: takeBytes (limit - c.utf8Size) cs else []

def named (name : String) (o : Options) : DeviceSpec where
  name := name
  attach := false
  image := o.image
  netnsImage := o.netnsImage
  numPorts := o.numPorts
  maxCpu := o.maxCpu
  environment := o.environment
  defaultConfig := none
  bufferModel := o.bufferModel
  mountRoot := o.mountRoot
  netnsDir := o.netnsDir
  timeouts := o.timeouts
  pollInterval := .ofSecs 1
  withServers := true
  logPath := o.logPath

/-- The switch to attach to if the options name one, a new one otherwise. -/
def ofOptions (freshName : String) (o : Options) : DeviceSpec :=
  match o.attachName with
  | some name => { named name o with attach := true }
  | none => named freshName o

/-- A name for the new switch `number` of a process. -/
def freshName (process number : Nat) : String := s!"dvs{Text.hex (process % 0xffff)}{number}"

/-- A name that no other resource of the process has, cut to what the kernel takes for a link. -/
def uniqueName (process number : Nat) (stem : String) : String :=
  let name := s!"{stem}{Text.hex (process % 0xffff)}{number}"
  String.ofList (takeBytes 15 name.toList)

/-- The container that holds the network namespace of the switch and its servers. -/
def holderName (s : DeviceSpec) : String := s!"{s.name}-ns"

/-- The directory that the host shares with the switch. -/
def mountDir (s : DeviceSpec) : String := Text.joinPath s.mountRoot s.name

/-- Where the server of the switch's databases listens. -/
def socketPath (s : DeviceSpec) : String := Text.joinPath s.mountDir "redis.sock"

end DeviceSpec

end SwitchLab
