import SwitchLab.Options.Input
import SwitchLab.Options.Overlay
import SwitchLab.Lab
import SwitchLab.Toml.Parser
/-!
Options from a file and from the environment of the process.
-/
namespace SwitchLab.Options

/-! The values of a document. A value of the wrong type makes the whole document invalid. -/

def stringOf? : Toml → Option String
  | .string s => some s
  | _ => none

def booleanOf? : Toml → Option Bool
  | .boolean b => some b
  | _ => none

def unsignedOf? (bits : Nat) : Toml → Option Nat
  | .integer n => if 0 ≤ n && n < Text.wordSize bits then some n.toNat else none
  | _ => none

/-- A name, or a table of one entry under that name with nothing in it. -/
def bufferModelOf? : Toml → Option BufferModel
  | .string s => BufferModel.ofText? s
  | .table [(name, .table [])] => BufferModel.ofText? name
  | .table [(name, .array [])] => BufferModel.ofText? name
  | _ => none

/-- The value of an optional key. -/
def optional {α : Type} (read : Toml → Option α) (key : String) (table : List (String × Toml)) :
    Option (Option α) :=
  match Toml.find? key table with
  | none => some none
  | some v => (read v).map some

/-- The name under which a date or a time is the only entry of a table. -/
def dateTimeKey : String := "$__toml_private_datetime"

def environmentOf? : Toml → Option (KeyMap String)
  | .datetime d => some (KeyMap.ofPairs [(dateTimeKey, d.text)])
  | .table entries => do
    let pairs ← entries.mapM fun (key, v) => do return (key, ← stringOf? v)
    return KeyMap.ofPairs pairs
  | _ => none

/-- A table, or the three numbers in a row as far as they are given. -/
def timeoutsOf? : Toml → Option TimeoutsInput
  | .table entries => do
    let supervisorSecs ← optional (unsignedOf? 64) "supervisor_secs" entries
    let swssSecs ← optional (unsignedOf? 64) "swss_secs" entries
    let asicInitSecs ← optional (unsignedOf? 64) "asic_init_secs" entries
    return { supervisorSecs, swssSecs, asicInitSecs }
  | .array items => do
    let secs ← (items.take 3).mapM (unsignedOf? 64)
    return ⟨secs[0]?, secs[1]?, secs[2]?⟩
  | .datetime _ => some .empty
  | _ => none

def inputOf? (table : List (String × Toml)) : Option OptionsInput := do
  return {
    name := ← optional stringOf? "name" table
    forceRecreate := ← optional booleanOf? "force_recreate" table
    keepTestbed := ← optional booleanOf? "keep_testbed" table
    image := ← optional stringOf? "image" table
    netnsImage := ← optional stringOf? "netns_image" table
    maxCpu := ← optional (unsignedOf? 32) "max_cpu" table
    bufferModel := ← optional bufferModelOf? "buffer_model" table
    topologyNs := ← optional stringOf? "topology_ns" table
    topology := ← optional stringOf? "topology" table
    logPath := ← optional stringOf? "log_path" table
    numPorts := ← optional (unsignedOf? 32) "num_ports" table
    mountRoot := ← optional stringOf? "mount_root" table
    netnsDir := ← optional stringOf? "netns_dir" table
    useSudo := ← optional booleanOf? "sudo" table
    environment := (← optional environmentOf? "environment" table).getD .empty
    timeouts := (← optional timeoutsOf? "timeouts" table).getD .empty }

/-- The options of a document; a blank one chooses nothing. -/
def ofToml (text : String) : Except Fault Options :=
  if Text.isBlankText text then .ok .default
  else
    match (Toml.parse? text).bind inputOf? with
    | some input => input.resolve
    | none => .error (.invalidConfig "invalid fixture TOML:")

def ofFile (path : String) : Attempt Options := do
  let text ← Host.readFile path
  ExceptT.mk (pure (ofToml text))

/-- The options of the file that `DVS_CONFIG` names, with the environment on top of them. -/
def ofEnvironment (vars : List (String × String)) : Attempt Options := do
  let base ←
    match vars.lookup "DVS_CONFIG" with
    | some path => ofFile path
    | none => pure .default
  ExceptT.mk (pure (base.overlayEnv vars))

end SwitchLab.Options
