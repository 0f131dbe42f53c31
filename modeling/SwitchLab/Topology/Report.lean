import SwitchLab.Net.Ping
import SwitchLab.Text.Blank
import SwitchLab.Text.Case
/-!
What a look at a running topology found.
-/
namespace SwitchLab

structure Probe where
  link : String
  source : String
  target : String
  report : PingReport
  deriving DecidableEq, Repr

structure Report where
  probes : List Probe
  /-- Steps that could not be taken. -/
  errors : List String
  /-- Lines of the logs that tell of a crash. -/
  crashes : List String
  deriving DecidableEq, Repr

namespace Report

def empty : Report := ⟨[], [], []⟩

def passed (r : Report) : Bool :=
  r.errors.isEmpty && r.crashes.isEmpty && r.probes.all (·.report.allReceived)

def probeLine (p : Probe) : String :=
  s!"{Text.padRight 12 p.link} {p.source} -> {p.target}: {p.report.text}\n"

def text (r : Report) : String :=
  String.join (r.probes.map probeLine) ++ String.join (r.errors.map (s!"error: {·}\n"))
    ++ String.join (r.crashes.map (s!"crash: {·}\n")) ++ if r.passed then "PASS" else "FAIL"

/-- What a program that died leaves in the log, in folded case. -/
def crashSigns : List String :=
  ["segmentation fault", "core dumped", "terminated by signal", "sigabrt",
    "traceback (most recent call last)"]

def tellsCrash (line : String) : Bool :=
  let folded := line.toList.map Text.foldCase
  crashSigns.any fun sign => Text.occursInChars sign.toList folded

/-- The crashes in the log of a node. -/
def crashesIn (node log : String) : List String :=
  ((Text.lines log).filter tellsCrash).map fun line => s!"{node}: {Text.trim line}"

end Report

end SwitchLab
