import SwitchLab.Fault
import SwitchLab.Text.Blank
/-!
Command lines, and what a finished command leaves.
-/
namespace SwitchLab

structure Command where
  program : String
  args : List String
  deriving DecidableEq, Repr

/-- Exit code and captured text of a finished command. -/
structure Output where
  code : Int
  stdout : String
  stderr : String
  deriving DecidableEq, Repr

namespace Command

/-- An argument with a blank in it is put between single quotes, as it is. -/
def renderArg (arg : String) : String :=
  if arg.toList.any Text.isBlank then "'" ++ arg ++ "'" else arg

/-- The command line as reports and records show it. -/
def render (c : Command) : String :=
  c.args.foldl (fun line arg => line ++ " " ++ renderArg arg) c.program

end Command

namespace Output

/-- Success with nothing printed. -/
def silent : Output := ⟨0, "", ""⟩

def success (o : Output) : Bool := o.code = 0

/-- Both texts, without the blanks at their ends; errors follow on a line of their own. -/
def combined (o : Output) : String :=
  let out := Text.trimEnd o.stdout
  let err := Text.trimEnd o.stderr
  if err.isEmpty then out
  else if out.isEmpty then err
  else out ++ "\n" ++ err

/-- The fault of the command `line`, unless it ended with success. -/
def orFault (line : String) (o : Output) : Except Fault Output :=
  if o.success then .ok o else .error (.command line o.code o.combined)

end Output

end SwitchLab
