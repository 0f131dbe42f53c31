import SwitchLab.Pattern.Bytes
import SwitchLab.Pattern.Meaning
import SwitchLab.Pattern.Parser
/-!
The sizes of the automata that find a pattern's matches, and the patterns that are small enough.
One automaton reads bytes forwards, from where a match starts, and one backwards from its end.
-/
namespace SwitchLab.Pattern

inductive Direction where
  | forwards
  | backwards
  deriving DecidableEq, Repr

/-! ## Sizes in bytes -/

def stateSize : Nat := 32

/-- A link from a state that branches. -/
def linkSize : Nat := 4

/-- A range of bytes and the state that it leads to. -/
def arrowSize : Nat := 8

/-- Forwards, equal remainders of UTF-8 forms have one state between them; backwards, equal
beginnings have. -/
def formsSize (fs : List Form) : Direction → Nat
  | .forwards =>
    (remainders 4 fs).eraseDups.foldl
      (fun size r => size + stateSize + arrowSize * (byFirst r).length) stateSize
  | .backwards =>
    let beginnings := (remainders 4 fs).foldl (fun count r => count + (byFirst r).length) 0
    stateSize * (2 + beginnings) + linkSize * fs.length

/-- A single character takes a state for each of its bytes, ASCII characters share one state. -/
def setSize (s : CharSet) (d : Direction) : Nat :=
  match s.only? with
  | some c => stateSize * c.utf8Size
  | none =>
    if s.isAscii then 2 * stateSize + arrowSize * s.ranges.length else formsSize (forms s) d

/-- A part of size `one`, from `least` times to `more` times more. -/
def repeatedSize (one : Nat) (mayBeEmpty : Bool) : (least : Nat) → (more : Option Nat) → Nat
  | 0, none =>
    if mayBeEmpty then one + 3 * stateSize + 4 * linkSize else one + stateSize + 2 * linkSize
  | 0, some 1 => one + 2 * stateSize + 2 * linkSize
  | 0, some more => 2 * stateSize + more * (one + stateSize + 2 * linkSize)
  | least, none => least * one + stateSize + 2 * linkSize
  | least, some 0 => least * one
  | least, some more => least * one + stateSize + more * (one + stateSize + 2 * linkSize)

/-- The states of a pattern, all repetitions written out. Groups are told apart forwards only. -/
def partSize (d : Direction) : Pattern → Nat
  | empty | look _ => stateSize
  | one set => setSize set d
  | repeated a least more =>
    repeatedSize (a.partSize d) (a.leastLength.getD 0 = 0) least more
  | group a => a.partSize d + if d = .forwards then 2 * stateSize else 0
  | seq a b => a.partSize d + b.partSize d
  | alt a (alt b c) => a.partSize d + (alt b c).partSize d + linkSize
  | alt a b => a.partSize d + b.partSize d + 2 * stateSize + 2 * linkSize

/-- What an automaton knows of the matches before it reads. -/
structure Outlook where
  /-- They start at the start of the text, or, backwards, end at its end. -/
  isAnchored : Bool
  /-- They are empty. -/
  isEmpty : Bool

/-- The outlook of one part and another that is read after it. -/
def Outlook.before (a b : Outlook) : Outlook :=
  ⟨a.isAnchored || (a.isEmpty && b.isAnchored), a.isEmpty && b.isEmpty⟩

def outlook (d : Direction) : Pattern → Outlook
  | empty => ⟨false, true⟩
  | one _ => ⟨false, false⟩
  | look l => ⟨l = (if d = .forwards then .textStart else .textEnd), true⟩
  | repeated a least more =>
    let one := a.outlook d
    ⟨least ≠ 0 && one.isAnchored, one.isEmpty && more.isSome⟩
  | group a => a.outlook d
  | seq a b =>
    if d = .forwards then (a.outlook d).before (b.outlook d)
    else (b.outlook d).before (a.outlook d)
  | alt a b =>
    let left := a.outlook d
    let right := b.outlook d
    ⟨left.isAnchored && right.isAnchored, left.isEmpty && right.isEmpty⟩

/-- The whole automaton. Unless the pattern is anchored, any bytes can come first. -/
def size (d : Direction) (p : Pattern) : Nat :=
  let lead := if (p.outlook d).isAnchored then stateSize
    else repeatedSize (2 * stateSize + arrowSize) false 0 none
  lead + (group p).partSize d + stateSize

/-- Ten MiB. -/
def sizeLimit : Nat := 10 * Nat.pow 2 20

/-- Reads a pattern; nothing if it is malformed, matches parts of characters, or is too large. -/
def parse? (text : String) : Option Pattern := do
  let p ← (← Expr.parse? text).meaning?
  if p.size .forwards ≤ sizeLimit && p.size .backwards ≤ sizeLimit then return p else none

end SwitchLab.Pattern
