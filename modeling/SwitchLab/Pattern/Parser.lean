import SwitchLab.Pattern.Bracket
import SwitchLab.Unicode.Later
/-!
The written form of regular expressions.
-/
namespace SwitchLab.Pattern

/-! ## Repetitions -/

/-- A number of times, blanks around it left out. -/
def timesOf? (cs : List Char) : Option Nat := do
  let n ← Text.natOfChars? (Text.trimEndChars (Text.trimStartChars cs))
  if n < Text.wordSize 32 then return n else none

/-- The bounds of a repetition, as they stand in braces. -/
def bounds? (inside : List Char) : Option (Nat × Option Nat) := do
  match Text.splitFirstChars ',' inside with
  | none =>
    let n ← timesOf? inside
    return (n, some n)
  | some (low, []) => return (← timesOf? low, none)
  | some (low, high) =>
    let least ← timesOf? low
    let most ← timesOf? high
    if least ≤ most then return (least, some most) else none

/-- A question mark after a repetition prefers few times; that changes no answer. -/
def dropMark : List Char → List Char
  | '?' :: cs => cs
  | cs => cs

def isRepetitionSign (c : Char) : Bool := c = '*' || c = '+' || c = '?' || c = '\x7b'

/-- The bounds that a repetition sign gives. -/
def repetition? (spaced : Bool) : List Char → Option ((Nat × Option Nat) × List Char)
  | '*' :: cs => some ((0, none), dropMark cs)
  | '+' :: cs => some ((1, none), dropMark cs)
  | '?' :: cs => some ((0, some 1), dropMark cs)
  | '\x7b' :: cs => do
    let (inside, rest) ← braced spaced false cs
    return (← bounds? inside, dropMark (skip spaced rest))
  | _ => none

/-! ## Groups -/

def Flag.ofChar? : Char → Option Flag
  | 'i' => some .anyCase
  | 'm' => some .multiLine
  | 's' => some .dotAll
  | 'U' => some .swapGreed
  | 'u' => some .unicode
  | 'R' => some .returns
  | 'x' => some .spaced
  | _ => none

/-- Flags to set and, after a hyphen, flags to clear; each flag once. -/
def FlagChange.ofChars? (cs : List Char) : Option FlagChange := do
  let (on, off) ← match Text.splitFirstChars '-' cs with
    | none => some (cs, [])
    | some (_, []) => none
    | some halves => some halves
  let on ← on.mapM Flag.ofChar?
  let off ← off.mapM Flag.ofChar?
  if (on ++ off).Nodup then return ⟨on, off⟩ else none

def isNameStart (c : Char) : Bool :=
  c = '_' || Unicode.alphabetic.contains c || Unicode.laterLetters.contains c

def isNameRest (c : Char) : Bool :=
  isNameStart c || c = '.' || c = '[' || c = ']' ||
    (Unicode.inCategory "N").contains c || Unicode.laterNumbers.contains c

/-- The name of a group, up to its closing angle bracket. -/
def groupName? (cs : List Char) : Option (GroupHead × List Char) := do
  match ← Text.splitFirstChars '>' cs with
  | (c :: name, rest) =>
    if isNameStart c && name.all isNameRest then
      return (.named (String.ofList (c :: name)), rest)
    else none
  | ([], _) => none

/-- The flags after `(?`: for the rest of the group around them if a bracket closes them, or for a
group of their own after a colon. -/
def groupFlags? (cs : List Char) : Option ((FlagChange ⊕ GroupHead) × List Char) := do
  let isEnd (c : Char) := c = ':' || c = ')'
  let change ← FlagChange.ofChars? (cs.takeWhile (!isEnd ·))
  match cs.dropWhile (!isEnd ·) with
  | ':' :: rest => return (.inr (.unnumbered change), rest)
  | ')' :: rest => if change = ⟨[], []⟩ then none else return (.inl change, rest)
  | _ => none

/-- What follows an opening parenthesis: a change of flags, or the head of a group. -/
def groupHead? : List Char → Option ((FlagChange ⊕ GroupHead) × List Char)
  | '?' :: 'P' :: '<' :: cs => (groupName? cs).map fun (head, rest) => (.inr head, rest)
  | '?' :: '<' :: cs => (groupName? cs).map fun (head, rest) => (.inr head, rest)
  | '?' :: cs => groupFlags? cs
  | cs => some (.inr .numbered, cs)

/-- Whether blanks mean nothing inside the group. -/
def GroupHead.spaced (before : Bool) : GroupHead → Bool
  | unnumbered change => change.value .spaced before
  | _ => before

/-! ## Expressions -/

/-- One character that stands for itself or for a condition. -/
def plainAtom (c : Char) : Atom :=
  match c with
  | '.' => .dot
  | '^' => .assertion .lineStart
  | '$' => .assertion .lineEnd
  | c => .symbol (.literal ⟨c, false⟩)

mutual

/-- Alternatives, up to a closing parenthesis or the end. -/
def alternatives? : (fuel : Nat) → (spaced : Bool) → List Char → Option (Expr × List Char)
  | 0, _, _ => none
  | fuel + 1, spaced, cs => do
    let (a, spaced, rest) ← sequence? fuel spaced .empty cs
    match rest with
    | '|' :: rest =>
      let (b, rest) ← alternatives? fuel spaced rest
      return (.alt a b, rest)
    | rest => return (a, rest)

/-- Expressions one after another, of which the first has been read already. A repetition sign holds
for the last of them. Also tells whether blanks still mean nothing after them. -/
def sequence? : (fuel : Nat) → (spaced : Bool) → (last : Expr) → List Char →
    Option (Expr × Bool × List Char)
  | 0, _, _, _ => none
  | fuel + 1, spaced, last, cs =>
    match skip spaced cs with
    | [] => some (last, spaced, [])
    | c :: cs =>
      if c = '|' || c = ')' then some (last, spaced, c :: cs)
      else if isRepetitionSign c then do
        let ((least, most), rest) ← repetition? spaced (c :: cs)
        if last.isRepeatable then sequence? fuel spaced (.repeated last least most) rest else none
      else do
        let (a, spaced, rest) ← item? fuel spaced (c :: cs)
        let (b, spaced, rest) ← sequence? fuel spaced a rest
        return (last.andThen b, spaced, rest)

/-- One expression without its repetitions. -/
def item? : (fuel : Nat) → (spaced : Bool) → List Char → Option (Expr × Bool × List Char)
  | 0, _, _ => none
  | _ + 1, _, [] => none
  | fuel + 1, spaced, '(' :: cs => do
    match ← groupHead? (skip spaced cs) with
    | (.inl change, rest) => return (.flags change, change.value .spaced spaced, rest)
    | (.inr head, rest) =>
      match ← alternatives? fuel (head.spaced spaced) rest with
      | (a, ')' :: rest) => return (.group head a, spaced, rest)
      | _ => none
  | fuel + 1, spaced, '[' :: cs => do
    let ((inside, negated), rest) ← bracketed? fuel spaced cs
    return (.bracketed inside negated, spaced, rest)
  | _ + 1, spaced, '\\' :: cs => do
    let (a, rest) ← escape? spaced cs
    return (.atom a, spaced, rest)
  | _ + 1, spaced, c :: cs => some (.atom (plainAtom c), spaced, cs)

end

/-- Expressions are nested at most so deep. -/
def depthLimit : Nat := 250

/-- Reads a written expression. No two groups have the same name. -/
def Expr.parse? (text : String) : Option Expr := do
  let cs := text.toList
  match ← alternatives? (4 * cs.length + 4) false cs with
  | (e, []) => if e.groupNames.Nodup && e.depth .none ≤ depthLimit then return e else none
  | _ => none

end SwitchLab.Pattern
