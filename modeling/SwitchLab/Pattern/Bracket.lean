import SwitchLab.Pattern.Escape
/-!
The written form of classes of characters in brackets.
-/
namespace SwitchLab.Pattern

/-! ## Named ASCII classes -/

def asciiRanges (ranges : List (Char × Char)) : CharSet :=
  ⟨ranges.map fun (low, high) => (low.toNat, high.toNat)⟩

def asciiClass? : String → Option CharSet
  | "alnum" => some (asciiRanges [('0', '9'), ('A', 'Z'), ('a', 'z')])
  | "alpha" => some (asciiRanges [('A', 'Z'), ('a', 'z')])
  | "ascii" => some (asciiRanges [('\x00', '\x7f')])
  | "blank" => some (asciiRanges [('\t', '\t'), (' ', ' ')])
  | "cntrl" => some (asciiRanges [('\x00', '\x1f'), ('\x7f', '\x7f')])
  | "digit" => some (asciiRanges [('0', '9')])
  | "graph" => some (asciiRanges [('!', '~')])
  | "lower" => some (asciiRanges [('a', 'z')])
  | "print" => some (asciiRanges [(' ', '~')])
  | "punct" => some (asciiRanges [('!', '/'), (':', '@'), ('[', '\x60'), ('\x7b', '~')])
  | "space" => some (asciiRanges [('\t', '\r'), (' ', ' ')])
  | "upper" => some (asciiRanges [('A', 'Z')])
  | "word" => some (asciiRanges [('0', '9'), ('A', 'Z'), ('_', '_'), ('a', 'z')])
  | "xdigit" => some (asciiRanges [('0', '9'), ('A', 'F'), ('a', 'f')])
  | _ => none

/-- A class named between `[:` and `:]`, negated by a caret; the first bracket is gone. -/
def named? : List Char → Option (ClassExpr × List Char)
  | ':' :: cs => do
    let (negated, cs) := match cs with
      | '^' :: cs => (true, cs)
      | cs => (false, cs)
    match ← Text.splitFirstChars ':' cs with
    | (name, ']' :: rest) => return (.ascii (← asciiClass? (String.ofList name)) negated, rest)
    | _ => none
  | _ => none

/-! ## Items -/

/-- One end of a range, or an item that is no range. -/
def classSymbol? (spaced : Bool) : List Char → Option (Symbol × List Char)
  | [] => none
  | '\\' :: cs =>
    match escape? spaced cs with
    | some (.symbol s, rest) => some (s, rest)
    | _ => none
  | c :: cs => some (.literal ⟨c, false⟩, cs)

/-- What the hyphen of a range is followed by. Of comments it sees no more than the sign that begins
the first. -/
def afterHyphen (spaced : Bool) (cs : List Char) : Option Char :=
  if spaced then
    let shown := match Text.trimStartChars cs with
      | '#' :: rest => Text.trimStartChars rest
      | rest => rest
    shown.head?.or cs.head?
  else cs.head?

/-- A symbol or a range. A hyphen before the closing bracket or another hyphen makes no range. -/
def classItem? (spaced : Bool) (cs : List Char) : Option (ClassExpr × List Char) := do
  let (low, rest) ← classSymbol? spaced cs
  match skip spaced rest with
  | '-' :: rest =>
    let next := afterHyphen spaced rest
    if next = some ']' || next = some '-' then return (.symbol low, '-' :: rest)
    match low, ← classSymbol? spaced (skip spaced rest) with
    | .literal low, (.literal high, rest) =>
      if low.char ≤ high.char then return (.range low high, rest) else none
    | _, _ => none
  | rest => return (.symbol low, rest)

/-- What a class has before the operation that is being read. -/
structure LeftSide where
  side : ClassExpr
  operation : SetOperation

/-- All operations bind alike, from left to right. -/
def closed : Option LeftSide → ClassExpr → ClassExpr
  | none, a => a
  | some left, a => .operation left.operation left.side a

def literalItem (c : Char) : ClassExpr := .symbol (.literal ⟨c, false⟩)

/-- Hyphens right at the start of a class stand for themselves. -/
def hyphens (spaced : Bool) : (fuel : Nat) → ClassExpr → List Char → ClassExpr × List Char
  | fuel + 1, acc, '-' :: cs => hyphens spaced fuel (acc.also (literalItem '-')) (skip spaced cs)
  | _, acc, cs => (acc, cs)

/-- The start of a class: its hyphens, or a bracket that stands for itself. -/
def classStart (spaced : Bool) (cs : List Char) : ClassExpr × List Char :=
  match hyphens spaced cs.length .empty cs with
  | (.empty, ']' :: rest) => (literalItem ']', rest)
  | start => start

def operation? : List Char → Option (SetOperation × List Char)
  | '&' :: '&' :: cs => some (.inter, cs)
  | '-' :: '-' :: cs => some (.diff, cs)
  | '~' :: '~' :: cs => some (.symmDiff, cs)
  | _ => none

mutual

/-- A class after its opening bracket. -/
def bracketed? : (fuel : Nat) → (spaced : Bool) → List Char →
    Option ((ClassExpr × Bool) × List Char)
  | 0, _, _ => none
  | fuel + 1, spaced, cs => do
    let (negated, cs) := match skip spaced cs with
      | '^' :: cs => (true, skip spaced cs)
      | cs => (false, cs)
    let (start, cs) := classStart spaced cs
    let (inside, rest) ← classRest? fuel spaced none start cs
    return ((inside, negated), rest)

/-- The items of a class up to its closing bracket. -/
def classRest? : (fuel : Nat) → (spaced : Bool) → Option LeftSide → ClassExpr → List Char →
    Option (ClassExpr × List Char)
  | 0, _, _, _, _ => none
  | fuel + 1, spaced, left, acc, cs =>
    match skip spaced cs with
    | [] => none
    | ']' :: rest => some (closed left acc, rest)
    | '[' :: cs =>
      match named? cs with
      | some (item, rest) => classRest? fuel spaced left (acc.also item) rest
      | none => do
        let ((inside, negated), rest) ← bracketed? fuel spaced cs
        classRest? fuel spaced left (acc.also (.nested inside negated)) rest
    | cs =>
      match operation? cs with
      | some (o, rest) => classRest? fuel spaced (some ⟨closed left acc, o⟩) .empty rest
      | none => do
        let (item, rest) ← classItem? spaced cs
        classRest? fuel spaced left (acc.also item) rest

end

end SwitchLab.Pattern
