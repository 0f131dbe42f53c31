import SwitchLab.KeyMap
import SwitchLab.Text.Blank
import SwitchLab.Text.Search
import SwitchLab.Text.Word
/-!
The programs of a switch and what its supervisor says of them.
-/
namespace SwitchLab.Supervisor

/-- The daemons that have to run before the switch can be used. -/
def requiredDaemons : List String :=
  ["redis-server", "rsyslogd", "orchagent", "portsyncd", "neighsyncd", "vlanmgrd", "intfmgrd",
    "portmgrd", "buffermgrd", "vrfmgrd", "nbrmgrd", "vxlanmgrd", "fdbsyncd", "syncd", "fpmsyncd",
    "zebra", "staticd", "teamsyncd", "teammgrd"]

/-- The program that sets the switch up and has to have ended. -/
def startScript : String := "start.sh"

def isCapital (c : Char) : Bool := 'A' ≤ c && c ≤ 'Z'

/-- The state with which a text begins: capitals that are no part of a longer word. -/
def stateChars? (cs : List Char) : Option (List Char) :=
  let state := cs.takeWhile isCapital
  if state.isEmpty || (cs.dropWhile isCapital).head?.any Text.isWordChar then none else some state

/-- Program and state of a line. The name of a program's group is left out. -/
def statusOf? (line : List Char) : Option (String × String) := do
  let line := Text.trimEndChars (Text.trimStartChars line)
  let program := line.takeWhile (!Text.isBlank ·)
  let rest := line.dropWhile (!Text.isBlank ·)
  if program.isEmpty || rest.isEmpty then none
  let state ← stateChars? (rest.dropWhile Text.isBlank)
  return (String.ofList (Text.afterLastChars ':' program), String.ofList state)

/-- The state of each program in a listing. Of several lines about a program the last counts. -/
def statuses (text : String) : KeyMap String :=
  .ofPairs ((Text.lineChars text.toList).filterMap statusOf?)

def stateOf (status : KeyMap String) (program : String) : String :=
  (status.get? program).getD "MISSING"

/-- The programs that are not in the state they should be in, each with its state. -/
def pending (status : KeyMap String) : List String :=
  let entry (program : String) := s!"{program}={stateOf status program}"
  (requiredDaemons.filter (stateOf status · ≠ "RUNNING")).map entry
    ++ if stateOf status startScript = "EXITED" then [] else [entry startScript]

end SwitchLab.Supervisor
