import SwitchLab.Text.Word
/-!
Regular expressions and the texts that they match somewhere.
-/
namespace SwitchLab

/-- A place at or off the edge of a word. -/
inductive WordEdge where
  /-- A start or an end. -/
  | either
  | neither
  | start
  | finish
  /-- No word character comes before. -/
  | freeBefore
  /-- No word character follows. -/
  | freeAfter
  deriving DecidableEq, Repr

/-- Whether a place is one of these, by whether word characters stand before and after it. -/
def WordEdge.holds : WordEdge → (before after : Bool) → Bool
  | either, a, b => a != b
  | neither, a, b => a == b
  | start, a, b => !a && b
  | finish, a, b => a && !b
  | freeBefore, a, _ => !a
  | freeAfter, _, b => !b

/-- A condition on a place in a text. -/
inductive Look where
  | textStart
  | textEnd
  /-- With `returns`, carriage returns end lines too, and `\r\n` is one end. -/
  | lineStart (returns : Bool)
  | lineEnd (returns : Bool)
  /-- With `ascii`, words are made of ASCII characters only. -/
  | word (edge : WordEdge) (ascii : Bool)
  deriving DecidableEq, Repr

namespace Look

def isAsciiWordChar (c : Char) : Bool := c.isAlphanum || c = '_'

/-- Whether the condition holds between two characters, or at an end of the text. -/
def holds (before after : Option Char) : Look → Bool
  | textStart => before.isNone
  | textEnd => after.isNone
  | lineStart false => before.all (· = '\n')
  | lineStart true => before.all (· = '\n') || (before = some '\r' && after ≠ some '\n')
  | lineEnd false => after.all (· = '\n')
  | lineEnd true => after.all (· = '\r') || (after = some '\n' && before ≠ some '\r')
  | word edge true => edge.holds (before.any isAsciiWordChar) (after.any isAsciiWordChar)
  | word edge false => edge.holds (before.any Text.isWordChar) (after.any Text.isWordChar)

end Look

inductive Pattern where
  | empty
  | one (set : CharSet)
  | look (l : Look)
  /-- At least `least` times, and at most `more` times more; without a bound if there is none. -/
  | repeated (a : Pattern) (least : Nat) (more : Option Nat)
  /-- A part whose match is told apart. -/
  | group (a : Pattern)
  | seq (a b : Pattern)
  | alt (a b : Pattern)
  deriving DecidableEq, Repr

namespace Pattern

/-! ## Matches -/

/-- Sets of positions of a text of `n` characters are lists of `n + 1` truth values. -/
abbrev Positions := List Bool

def both (s t : Positions) : Positions := List.zipWith (· && ·) s t
def either (s t : Positions) : Positions := List.zipWith (· || ·) s t

def everywhere (text : List Char) : Positions := true :: text.map fun _ => true

/-- The positions where a condition holds. -/
def places (l : Look) (text : List Char) : Positions :=
  List.zipWith (fun a b => l.holds a b) (none :: text.map some) (text.map some ++ [none])

/-- What can be reached from `s` in any number of steps; one more than there are positions are
enough. -/
def closure (step : Positions → Positions) (s : Positions) : (rounds : Nat) → Positions
  | 0 => s
  | rounds + 1 =>
    let reached := either s (step s)
    if reached = s then s else closure step reached rounds

/-- The positions where a match can end that begins at one of the positions `s`. -/
def ends (text : List Char) : Pattern → Positions → Positions
  | empty, s => s
  | one set, s => false :: List.zipWith (fun b c => b && set.contains c) s text
  | look l, s => both s (places l text)
  | repeated a least more, s =>
    closure (a.ends text) (Nat.repeat (a.ends text) least s) (more.getD (text.length + 1))
  | group a, s => a.ends text s
  | seq a b, s => b.ends text (a.ends text s)
  | alt a b, s => either (a.ends text s) (b.ends text s)

/-- The pattern matches some part of the text. -/
def matchesWithin (p : Pattern) (text : String) : Bool :=
  (p.ends text.toList (everywhere text.toList)).any id

/-! ## Lengths of matches -/

/-- A length that no match falls below; nothing if there is no match. -/
def leastLength : Pattern → Option Nat
  | empty | look _ => some 0
  | one set => if set.isEmpty then none else some 1
  | repeated a least _ => a.leastLength.map (least * ·)
  | group a => a.leastLength
  | seq a b => do return (← a.leastLength) + (← b.leastLength)
  | alt a b => do return min (← a.leastLength) (← b.leastLength)

/-- A length that no match exceeds; nothing if there is no match, or no bound. -/
def mostLength : Pattern → Option Nat
  | empty | look _ => some 0
  | one set => if set.isEmpty then none else some 1
  | repeated a least more => do return (least + (← more)) * (← a.mostLength)
  | group a => a.mostLength
  | seq a b => do return (← a.mostLength) + (← b.mostLength)
  | alt a b => do return max (← a.mostLength) (← b.mostLength)

/-! ## Patterns made of others, in a simple form -/

/-- One pattern after the other. -/
def followedBy : Pattern → Pattern → Pattern
  | empty, b => b
  | a, empty => a
  | a, b => seq a b

def branches : Pattern → List Pattern
  | alt a b => a.branches ++ b.branches
  | a => [a]

def set? : Pattern → Option CharSet
  | one set => some set
  | _ => none

def altOf : List Pattern → Pattern
  | [] => one .empty
  | [a] => a
  | a :: rest => alt a (altOf rest)

/-- One of several patterns. Single characters on all branches make up one set. -/
def anyOf (ps : List Pattern) : Pattern :=
  let ps := ps.flatMap branches
  match ps.mapM set? with
  | some sets => one (.unions sets)
  | none => altOf ps

/-- From `least` times to `most` times. What matches the empty text alone need not be matched more
than once. -/
def times (a : Pattern) (least : Nat) (most : Option Nat) : Pattern :=
  let once := a.mostLength = some 0
  let least := if once then min least 1 else least
  let most := if once then some (min (most.getD 1) 1) else most
  if most = some 0 then empty
  else if least = 1 && most = some 1 then a
  else repeated a least (most.map (· - least))

end Pattern

end SwitchLab
