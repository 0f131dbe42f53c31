import SwitchLab.Device.Basic
/-!
The switch of a test session. One switch serves one test module after the other. It is made anew
when that is wished for or a module asks for another environment, and is otherwise cleaned of
links between modules. At the end it is destroyed unless it is kept or was attached to.
-/
namespace SwitchLab

structure Fixture where
  options : Options
  current : Option Device
  /-- The environment that the module asked for when the current switch was made. -/
  currentEnv : KeyMap String
  /-- Names for new switches, and how many have been made. -/
  freshName : Nat → String
  made : Nat
  /-- A last change to every spec. -/
  adjust : DeviceSpec → DeviceSpec

namespace Fixture

def new (options : Options) (process : Nat) : Fixture :=
  ⟨options, none, .empty, DeviceSpec.freshName process, 0, id⟩

def overlay (base extra : KeyMap String) : KeyMap String :=
  extra.entries.foldl (fun m (key, value) => m.insert key value) base

/-- The spec of the next switch for a module with this environment. -/
def nextSpec (f : Fixture) (env : KeyMap String) : DeviceSpec :=
  let spec := DeviceSpec.ofOptions (f.freshName f.made) f.options
  f.adjust { spec with environment := overlay spec.environment env }

/-- A switch that was attached to stays whatever the module asks for. -/
def mustRecreate (f : Fixture) (env : KeyMap String) : Bool :=
  f.current.any fun d => !d.isPersistent && (f.options.forceRecreate || env ≠ f.currentEnv)

/-- Takes the current switch out. -/
def take : On Fixture (Option Device) := do
  let current := (← get).current
  modify fun f => { f with current := none }
  return current

def put (d : Device) : On Fixture Device := do
  modify fun f => { f with current := some d }
  return d

/-- Work on a switch that the session does not hold meanwhile. A failure leaves it unheld. -/
def holding {α : Type} (d : Device) (work : On Device α) : Attempt (α × Device) := do
  let (result, d) ← work.perform d
  match result with
  | .ok a => return (a, d)
  | .error fault =>
    d.drop
    throw fault

/-- Makes the current switch ready again and cleans it. -/
def reuse (d : Device) : Attempt Device := do
  let (_, d) ← holding d do
    Device.checkReady
    let _ ← (← get).networkCleanup
  return d

/-- A new switch for a module with this environment. -/
def startNew (env : KeyMap String) : On Fixture Device := do
  let f ← get
  let spec := f.nextSpec env
  if f.options.attachName.isNone then modify fun f => { f with made := f.made + 1 }
  let d ← Device.start spec
  modify fun f => { f with currentEnv := env }
  return d

/-- The ready switch for a module. -/
def acquire (env : KeyMap String) : On Fixture Device := do
  if (← get).mustRecreate env then
    if let some old ← take then
      let _ ← holding old Device.destroy
  match ← take with
  | some d => put (← reuse d)
  | none => put (← startNew env)

/-- The end of a module: its logs are saved, and a switch that is not to be used again is
destroyed. -/
def release (module : String) : On Fixture Unit := do
  let f ← get
  match f.current with
  | none => return ()
  | some d =>
    if let some dir := f.options.logPath then
      let _ ← (d.saveLogs (Text.joinPath dir module)).result
    if f.options.forceRecreate ∧ !d.isPersistent then
      let _ ← take
      let _ ← holding d Device.destroy

/-- The end of the session. -/
def shutdown (f : Fixture) : Attempt Unit := do
  match f.current with
  | none => return ()
  | some d =>
    if f.options.keepTestbed || d.isPersistent then d.detach.drop
    else
      let _ ← holding d Device.destroy

/-- The end of a session that nobody holds any more. -/
def drop (f : Fixture) : Lab Unit := do
  if let some d := f.current then d.drop

end Fixture

end SwitchLab
