import SwitchLab.Text.Decimal
/-!
Lines of shell: words with quotes and parameters, pipes, lists, and the redirections that a short
script needs.
-/
namespace SwitchLab.Script

/-- A part of a word. What stands between quotes is never split. -/
inductive Piece where
  | text (chars : List Char)
  | parameter (name : String) (isQuoted : Bool)
  deriving DecidableEq, Repr

abbrev Word := List Piece

inductive Token where
  | word (w : Word)
  | next
  | both
  | either
  | pipe
  /-- Sends what is written to one number to where another goes. -/
  | duplicate (source target : Nat)
  /-- Drops what is written to a number. -/
  | discard (source : Nat)
  | noInput
  deriving DecidableEq, Repr

def isNameChar (c : Char) : Bool := c.isAlphanum || c = '_'

/-- The parameter after a dollar sign. -/
def parameter? : List Char → Option (String × List Char)
  | '\x7b' :: cs =>
    match cs.dropWhile (· ≠ '\x7d') with
    | [] => none
    | _ :: rest => some (String.ofList (cs.takeWhile (· ≠ '\x7d')), rest)
  | c :: cs =>
    if c.isDigit || ['@', '*', '#', '?', '$', '!'].contains c then some (c.toString, cs)
    else if isNameChar c then
      some (String.ofList ((c :: cs).takeWhile isNameChar), (c :: cs).dropWhile isNameChar)
    else none
  | [] => none

/-- The rest of a text between double quotes. -/
def doubleQuoted : (fuel : Nat) → List Char → Option (List Piece × List Char)
  | 0, _ => none
  | _ + 1, [] => none
  | _ + 1, '"' :: cs => some ([], cs)
  | fuel + 1, '\\' :: c :: cs => do
    let (pieces, rest) ← doubleQuoted fuel cs
    let chars := if ['"', '\\', '$', '`'].contains c then [c] else ['\\', c]
    return (.text chars :: pieces, rest)
  | fuel + 1, '$' :: cs =>
    match parameter? cs with
    | some (name, cs) => do
      let (pieces, rest) ← doubleQuoted fuel cs
      return (.parameter name true :: pieces, rest)
    | none => do
      let (pieces, rest) ← doubleQuoted fuel cs
      return (.text ['$'] :: pieces, rest)
  | fuel + 1, c :: cs => do
    let (pieces, rest) ← doubleQuoted fuel cs
    return (.text [c] :: pieces, rest)

def isMeta (c : Char) : Bool := [' ', '\t', '\n', ';', '&', '|', '<', '>', '(', ')'].contains c

/-- The rest of a word. -/
def word? : (fuel : Nat) → List Char → Option (Word × List Char)
  | 0, _ => none
  | _ + 1, [] => some ([], [])
  | fuel + 1, '\'' :: cs => do
    match cs.dropWhile (· ≠ '\'') with
    | [] => none
    | _ :: after =>
      let (pieces, rest) ← word? fuel after
      return (.text (cs.takeWhile (· ≠ '\'')) :: pieces, rest)
  | fuel + 1, '"' :: cs => do
    let (inside, after) ← doubleQuoted (cs.length + 1) cs
    let (pieces, rest) ← word? fuel after
    return (.text [] :: inside ++ pieces, rest)
  | fuel + 1, '\\' :: c :: cs => do
    let (pieces, rest) ← word? fuel cs
    return (.text [c] :: pieces, rest)
  | fuel + 1, '$' :: cs =>
    match parameter? cs with
    | some (name, cs) => do
      let (pieces, rest) ← word? fuel cs
      return (.parameter name false :: pieces, rest)
    | none => do
      let (pieces, rest) ← word? fuel cs
      return (.text ['$'] :: pieces, rest)
  | fuel + 1, c :: cs =>
    if isMeta c then some ([], c :: cs)
    else do
      let (pieces, rest) ← word? fuel cs
      return (.text [c] :: pieces, rest)

/-- A redirection after the number that it is for. -/
def redirection? (source : Nat) : List Char → Option (Token × List Char)
  | '>' :: '&' :: c :: cs => if c.isDigit then some (.duplicate source (Text.digitValue c), cs) else none
  | '>' :: cs =>
    let cs := (if cs.head? = some '>' then cs.tail else cs).dropWhile (· = ' ')
    if "/dev/null".toList.isPrefixOf cs then some (.discard source, cs.drop 9) else none
  | _ => none

def token? : List Char → Option (Token × List Char)
  | '&' :: '&' :: cs => some (.both, cs)
  | '|' :: '|' :: cs => some (.either, cs)
  | '|' :: cs => some (.pipe, cs)
  | ';' :: cs => some (.next, cs)
  | '\n' :: cs => some (.next, cs)
  | '<' :: cs =>
    let cs := cs.dropWhile (· = ' ')
    if "/dev/null".toList.isPrefixOf cs then some (.noInput, cs.drop 9) else none
  | '>' :: cs => redirection? 1 ('>' :: cs)
  | c :: '>' :: cs =>
    if c.isDigit then redirection? (Text.digitValue c) ('>' :: cs)
    else (word? (cs.length + 3) (c :: '>' :: cs)).map fun (w, rest) => (.word w, rest)
  | cs => (word? (cs.length + 1) cs).map fun (w, rest) => (.word w, rest)

def tokens : (fuel : Nat) → List Char → Option (List Token)
  | 0, _ => none
  | fuel + 1, cs =>
    match cs.dropWhile fun c => c = ' ' || c = '\t' with
    | [] => some []
    | cs => do
      let (t, rest) ← token? cs
      if rest.length < cs.length then return t :: (← tokens fuel rest) else none

/-- The parts of a list between the elements that `isSep` picks. -/
def splitOn {α : Type} (isSep : α → Bool) : List α → List (List α)
  | [] => [[]]
  | a :: rest =>
    if isSep a then [] :: splitOn isSep rest
    else
      match splitOn isSep rest with
      | [] => [[a]]
      | part :: parts => (a :: part) :: parts

/-- How a pipe depends on the one before it. -/
inductive Joint where
  | always
  | ifDone
  | ifFailed
  deriving DecidableEq, Repr

/-- The pipes of a script, each with what it depends on. -/
def pipesFrom (joint : Joint) (acc : List Token) : List Token → List (Joint × List Token)
  | [] => [(joint, acc)]
  | .next :: rest => (joint, acc) :: pipesFrom .always [] rest
  | .both :: rest => (joint, acc) :: pipesFrom .ifDone [] rest
  | .either :: rest => (joint, acc) :: pipesFrom .ifFailed [] rest
  | t :: rest => pipesFrom joint (acc ++ [t]) rest

def pipes (ts : List Token) : List (Joint × List (List Token)) :=
  ((pipesFrom .always [] ts).filter (!·.2.isEmpty)).map fun (joint, ts) =>
    (joint, splitOn (fun t => t = .pipe) ts)

end SwitchLab.Script
