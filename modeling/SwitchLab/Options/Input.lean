import SwitchLab.Options.Basic
/-!
Options as a file gives them: each of them may be left out.
-/
namespace SwitchLab

structure TimeoutsInput where
  supervisorSecs : Option Nat
  swssSecs : Option Nat
  asicInitSecs : Option Nat
  deriving DecidableEq, Repr

def TimeoutsInput.empty : TimeoutsInput := ⟨none, none, none⟩

structure OptionsInput where
  name : Option String
  forceRecreate : Option Bool
  keepTestbed : Option Bool
  image : Option String
  netnsImage : Option String
  maxCpu : Option Nat
  bufferModel : Option BufferModel
  topologyNs : Option String
  topology : Option String
  logPath : Option String
  numPorts : Option Nat
  mountRoot : Option String
  netnsDir : Option String
  useSudo : Option Bool
  environment : KeyMap String
  timeouts : TimeoutsInput
  deriving DecidableEq, Repr

namespace OptionsInput

def empty : OptionsInput where
  name := none
  forceRecreate := none
  keepTestbed := none
  image := none
  netnsImage := none
  maxCpu := none
  bufferModel := none
  topologyNs := none
  topology := none
  logPath := none
  numPorts := none
  mountRoot := none
  netnsDir := none
  useSudo := none
  environment := .empty
  timeouts := .empty

def resolveTimeouts (t : TimeoutsInput) : Timeouts :=
  let secs (value : Option Nat) (default : Duration) := (value.map Duration.ofSecs).getD default
  { supervisor := secs t.supervisorSecs Timeouts.default.supervisor
    swss := secs t.swssSecs Timeouts.default.swss
    asicInit := secs t.asicInitSecs Timeouts.default.asicInit }

/-- Fills in the defaults. Blank text counts as left out, and a switch has at least one port and
one processor. -/
def resolve (i : OptionsInput) : Except Fault Options := do
  let numPorts := i.numPorts.getD Options.default.numPorts
  if numPorts = 0 then throw (.invalidConfig "num_ports must be at least 1")
  return {
    attachName := i.name.bind Options.chosen?
    forceRecreate := i.forceRecreate.getD false
    keepTestbed := i.keepTestbed.getD false
    image := (i.image.bind Options.chosen?).getD Options.default.image
    netnsImage := (i.netnsImage.bind Options.chosen?).getD Options.default.netnsImage
    maxCpu := max (i.maxCpu.getD Options.default.maxCpu) 1
    bufferModel := i.bufferModel.getD .traditional
    topologyNs := i.topologyNs.bind Options.chosen?
    topology := i.topology
    logPath := i.logPath
    numPorts := numPorts
    mountRoot := i.mountRoot.getD Options.default.mountRoot
    netnsDir := i.netnsDir.getD Options.default.netnsDir
    useSudo := i.useSudo.getD false
    environment := i.environment
    timeouts := resolveTimeouts i.timeouts }

end OptionsInput

end SwitchLab
