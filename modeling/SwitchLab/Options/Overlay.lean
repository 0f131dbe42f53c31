import SwitchLab.Options.Basic
/-!
Environment variables on top of options.
-/
namespace SwitchLab.Options

def parseFlag (key value : String) : Except Fault Bool :=
  let word := Text.lowerAscii (Text.trim value)
  if ["1", "true", "yes", "on"].contains word then .ok true
  else if ["0", "false", "no", "off", ""].contains word then .ok false
  else .error (.invalidConfig s!"{key}: not a flag: {shown word}")

def parseNumber (key value : String) : Except Fault Nat :=
  match Text.unsigned? 32 (Text.trim value) with
  | some n => .ok n
  | none => .error (.invalidConfig s!"{key}: not a number: {shown value}")

def parsePorts (key value : String) : Except Fault Nat := do
  let n ← parseNumber key value
  if n = 0 then .error (.invalidConfig "DVS_NUM_PORTS must be at least 1") else .ok n

/-- Takes one variable. Those that it does not know are left alone. -/
def setVariable (o : Options) : String × String → Except Fault Options
  | ("DVS_NAME", value) => .ok { o with attachName := chosen? value }
  | ("DVS_FORCE_RECREATE", value) => do
    return { o with forceRecreate := ← parseFlag "DVS_FORCE_RECREATE" value }
  | ("DVS_KEEP_TESTBED", value) => do
    return { o with keepTestbed := ← parseFlag "DVS_KEEP_TESTBED" value }
  | ("DVS_IMAGE", value) => .ok { o with image := (chosen? value).getD o.image }
  | ("DVS_MAX_CPU", value) => do
    return { o with maxCpu := max (← parseNumber "DVS_MAX_CPU" value) 1 }
  | ("DVS_BUFFER_MODEL", value) => do
    return { o with bufferModel := ← BufferModel.parse value }
  | ("DVS_TOPO_NS", value) => .ok { o with topologyNs := chosen? value }
  | ("DVS_TOPOLOGY", value) => .ok { o with topology := chosen? value }
  | ("DVS_LOG_PATH", value) => .ok { o with logPath := chosen? value }
  | ("DVS_NUM_PORTS", value) => do
    return { o with numPorts := ← parsePorts "DVS_NUM_PORTS" value }
  | ("DVS_SUDO", value) => do return { o with useSudo := ← parseFlag "DVS_SUDO" value }
  | _ => .ok o

/-- Takes variables one after the other. -/
def overlayEnv (o : Options) (vars : List (String × String)) : Except Fault Options :=
  vars.foldlM setVariable o

end SwitchLab.Options
