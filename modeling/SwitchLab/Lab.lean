import SwitchLab.Host
import SwitchLab.KeyMap
/-!
Work at the bench: dialogues with the host that also keep the ledger of frozen baselines, work
that may fail, and work on an object whose changes stay also when the work fails.
-/
namespace SwitchLab

/-- The keys of some tables at one moment. -/
abbrev Snapshot := KeyMap (List String)

/-- The baselines of all families of store handles. Members of a family share one baseline. -/
structure Ledger where
  /-- How many families there are. -/
  families : Nat
  frozen : List (Nat × Snapshot)

namespace Ledger

def empty : Ledger := ⟨0, []⟩

def baseline? (l : Ledger) (family : Nat) : Option Snapshot := l.frozen.lookup family

def freeze (l : Ledger) (family : Nat) (s : Snapshot) : Ledger :=
  { l with frozen := l.frozen ++ [(family, s)] }

def withFamily (l : Ledger) : Ledger := { l with families := l.families + 1 }

end Ledger

abbrev Lab := StateT Ledger (Dialogue Host)

/-- Work that may fail. -/
abbrev Attempt := ExceptT Fault Lab

/-- Work on an object of type `σ`. A failure does not undo what was done to the object. -/
abbrev On (σ : Type) := ExceptT Fault (StateT σ Lab)

instance (priority := low) {σ : Type} : MonadLift Attempt (On σ) where
  monadLift work := ExceptT.mk fun s => do return (← work.run, s)

namespace On

variable {σ τ α : Type}

/-- Works on a part of the object. -/
def part (view : σ → τ) (update : τ → σ → σ) (work : On τ α) : On σ α :=
  ExceptT.mk fun s => do
    let (result, t) ← work.run.run (view s)
    return (result, update t s)

/-- The result, be it a failure. -/
def result (work : On σ α) : On σ (Except Fault α) := ExceptT.mk (Except.ok <$> work.run)

/-- Works on an object and returns it with the result. -/
def perform (work : On σ α) (s : σ) : Lab (Except Fault α × σ) := work.run.run s

end On

namespace Attempt

variable {α : Type}

/-- The result, be it a failure. -/
def outcome (work : Attempt α) : Lab (Except Fault α) := work.run

/-- The same as a step of further work. -/
def result (work : Attempt α) : Attempt (Except Fault α) := ExceptT.mk (Except.ok <$> work.run)

end Attempt

namespace Host

def ask (q : Query) : Lab q.Reply := fun l => (Dialogue.request (I := Host) q).bind fun r => .done (r, l)

def run (c : Command) : Attempt Output := ExceptT.mk (ask (.run c))

def spawn (c : Command) : Attempt Nat := ExceptT.mk (ask (.spawn c))

def kill (pid : Nat) : Attempt Unit := ExceptT.mk (ask (.kill pid))

def pathExists (path : String) : Lab Bool := ask (.pathExists path)

def readFile (path : String) : Attempt String := ExceptT.mk (ask (.readFile path))

def makeDirectory (path : String) : Attempt Unit := ExceptT.mk (ask (.makeDirectory path))

def writeFile (path text : String) : Attempt Unit := ExceptT.mk (ask (.writeFile path text))

/-- Runs a command that has to succeed. -/
def check (c : Command) : Attempt Output := do
  let output ← run c
  ExceptT.mk (pure (output.orFault c.render))

end Host

namespace Database

def connect (db : Database) : Attempt Unit := ExceptT.mk (Host.ask (.connect db))

def keys (db : Database) (pattern : String) : Attempt (List String) :=
  ExceptT.mk (Host.ask (.keys db pattern))

def fetch (db : Database) (key : String) : Attempt FieldValues :=
  ExceptT.mk (Host.ask (.fetch db key))

def merge (db : Database) (key : String) (fields : FieldValues) : Attempt Unit :=
  ExceptT.mk (Host.ask (.merge db key fields))

def dropFields (db : Database) (key : String) (fields : List String) : Attempt Unit :=
  ExceptT.mk (Host.ask (.dropFields db key fields))

def dropKey (db : Database) (key : String) : Attempt Unit :=
  ExceptT.mk (Host.ask (.dropKey db key))

def subscribe (db : Database) (pattern : String) : Attempt Feed :=
  ExceptT.mk (Host.ask (.subscribe db pattern))

end Database

end SwitchLab
