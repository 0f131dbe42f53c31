import SwitchLab.Duration
import SwitchLab.Text.Search
/-!
What can go wrong, and the text that reports it.
-/
namespace SwitchLab

inductive Fault where
  /-- A strict poll gave up; `last` is the text of the value it saw last. -/
  | pollTimeout (what : String) (elapsed : Duration) (last : String)
  /-- A command ended with an exit code other than zero. -/
  | command (line : String) (code : Int) (output : String)
  | invalidValue (text : String)
  | invalidConfig (text : String)
  | provision (name reason : String)
  | baseline (text : String)
  | store (text : String)
  | invalidState (state operation : String)
  /-- A teardown that went through all its steps, and those of them that failed. -/
  | cleanup (steps : List String)
  | io (text : String)
  deriving DecidableEq, Repr

namespace Fault

def message : Fault → String
  | pollTimeout what elapsed last =>
    s!"timed out after {elapsed.text} waiting for {what} (last observed: {last})"
  | command line code output => s!"command `{line}` exited with {code}: {output}"
  | invalidValue text => s!"invalid value: {text}"
  | invalidConfig text => s!"invalid config: {text}"
  | provision name reason => s!"provisioning {name} failed: {reason}"
  | baseline text => s!"baseline capture failed: {text}"
  | store text => s!"store error: {text}"
  | invalidState state operation => s!"operation not valid in state {state}: {operation}"
  | cleanup steps => "cleanup incomplete: " ++ Text.joinWith "; " steps
  | io text => s!"io error: {text}"

def isPollTimeout : Fault → Bool
  | pollTimeout .. => true
  | _ => false

/-- What the failed command printed. -/
def outputText? : Fault → Option String
  | command _ _ output => some output
  | _ => none

end Fault

end SwitchLab
