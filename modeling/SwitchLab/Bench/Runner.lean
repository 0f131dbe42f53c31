import SwitchLab.Command
/-!
A runner of commands that answers from rules and records what it was asked. A rule is for the
command lines that have its needle in them. Rules that came later go first. A rule with several
outputs hands them out in order and then repeats the last.
-/
namespace SwitchLab

structure Rule where
  needle : String
  outputs : List Output
  deriving DecidableEq, Repr

namespace Rule

/-- The output that is due. -/
def output (r : Rule) : Output := r.outputs.head?.getD .silent

/-- The rule after it gave an output; the last output stays. -/
def advance (r : Rule) : Rule :=
  match r.outputs with
  | _ :: next :: rest => { r with outputs := next :: rest }
  | _ => r

end Rule

structure ScriptedRunner where
  /-- The newest rule first. -/
  rules : List Rule
  calls : List String
  killed : List Nat
  nextPid : Nat
  deriving DecidableEq, Repr

namespace ScriptedRunner

def new : ScriptedRunner := ⟨[], [], [], 4000⟩

def on (r : ScriptedRunner) (needle : String) (outputs : List Output) : ScriptedRunner :=
  { r with rules := ⟨needle, outputs⟩ :: r.rules }

/-- The answer of the first rule that is for the line, and the rules after it. -/
def answer (line : String) : List Rule → Output × List Rule
  | [] => (.silent, [])
  | rule :: rest =>
    if Text.occursIn rule.needle line then (rule.output, rule.advance :: rest)
    else
      let (output, rest) := answer line rest
      (output, rule :: rest)

def record (r : ScriptedRunner) (line : String) : ScriptedRunner :=
  { r with calls := r.calls ++ [line] }

def run (r : ScriptedRunner) (c : Command) : Output × ScriptedRunner :=
  let (output, rules) := answer c.render r.rules
  (output, { r with rules }.record c.render)

def spawn (r : ScriptedRunner) (c : Command) : Nat × ScriptedRunner :=
  (r.nextPid, { r with nextPid := r.nextPid + 1 }.record c.render)

def kill (r : ScriptedRunner) (pid : Nat) : ScriptedRunner :=
  { r with killed := r.killed ++ [pid] }

/-- How many recorded lines have the needle in them. -/
def count (r : ScriptedRunner) (needle : String) : Nat :=
  (r.calls.filter (Text.occursIn needle)).length

def firstPosition? (r : ScriptedRunner) (needle : String) : Option Nat :=
  r.calls.findIdx? (Text.occursIn needle)

def lastPosition? (r : ScriptedRunner) (needle : String) : Option Nat :=
  (r.calls.reverse.findIdx? (Text.occursIn needle)).map (r.calls.length - 1 - ·)

end ScriptedRunner

end SwitchLab
