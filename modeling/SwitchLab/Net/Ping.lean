import SwitchLab.Text.Decimal
import SwitchLab.Text.Search
import SwitchLab.Text.Word
/-!
How many probes of a ping were sent and answered.
-/
namespace SwitchLab

structure PingReport where
  transmitted : Nat
  received : Nat
  deriving DecidableEq, Repr

namespace PingReport

/-- A run of digits and what follows it. -/
def digits? (cs : List Char) : Option (List Char × List Char) :=
  let digits := cs.takeWhile Text.isDecimalDigit
  if digits.isEmpty then none else some (digits, cs.dropWhile Text.isDecimalDigit)

def dropWord (word : List Char) (cs : List Char) : List Char :=
  (Text.afterStartChars word cs).getD cs

/-- Both counts of a summary that begins here. -/
def summaryHere? (cs : List Char) : Option (List Char × List Char) := do
  let (transmitted, rest) ← digits? cs
  let rest ← Text.afterStartChars " packets transmitted, ".toList rest
  let (received, rest) ← digits? rest
  let rest ← Text.afterStartChars " ".toList rest
  let _ ← Text.afterStartChars "received".toList (dropWord "packets ".toList rest)
  return (transmitted, received)

/-- The counts of the first summary. -/
def summary? : List Char → Option (List Char × List Char)
  | [] => none
  | c :: cs => (summaryHere? (c :: cs)).or (summary? cs)

/-- What the output of a ping reports; without a summary nothing was received. -/
def ofText (text : String) (requested : Nat) : PingReport :=
  match summary? text.toList with
  | some (transmitted, received) =>
    ⟨(Text.unsignedChars? 32 transmitted).getD requested,
      (Text.unsignedChars? 32 received).getD 0⟩
  | none => ⟨requested, 0⟩

def allReceived (r : PingReport) : Bool := 0 < r.transmitted && r.received = r.transmitted

def text (r : PingReport) : String := s!"{r.received}/{r.transmitted}"

end PingReport

end SwitchLab
