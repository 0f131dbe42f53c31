import SwitchLab.Toml.Quoted
import SwitchLab.Toml.Tables
/-!
Reading TOML documents.
-/
namespace SwitchLab.Toml

def isBareKeyChar (c : Char) : Bool := c.isAlphanum || c = '_' || c = '-'

def dropWhite (cs : List Char) : List Char := cs.dropWhile isWhite

def simpleKey? (cs : List Char) : Option (String × List Char) :=
  match cs with
  | '"' :: _ | '\'' :: _ => (line? cs).map fun (text, rest) => (String.ofList text, rest)
  | _ =>
    let name := cs.takeWhile isBareKeyChar
    if name.isEmpty then none else some (String.ofList name, cs.dropWhile isBareKeyChar)

/-- Names with points between them. -/
def key? : (fuel : Nat) → List Char → Option (List String × List Char)
  | 0, _ => none
  | fuel + 1, cs => do
    let (name, rest) ← simpleKey? (dropWhite cs)
    let rest := dropWhite rest
    match rest with
    | '.' :: rest =>
      let (names, rest) ← key? fuel rest
      return (name :: names, rest)
    | _ => return ([name], rest)

/-- A comment, if there is one, without the end of its line. -/
def dropComment? : List Char → Option (List Char)
  | '#' :: cs =>
    let rest := cs.dropWhile isPlain
    if rest.isEmpty || (dropNewline? rest).isSome then some rest else none
  | cs => some cs

/-- Blanks, comments and line breaks, as they may stand between brackets. -/
def dropFiller? : (fuel : Nat) → List Char → Option (List Char)
  | 0, cs => some cs
  | fuel + 1, cs => do
    let cs ← dropComment? (dropWhite cs)
    match dropNewline? cs with
    | some cs => dropFiller? fuel cs
    | none => return cs

mutual

def value? : (fuel depth : Nat) → List Char → Option (Toml × List Char)
  | 0, _, _ => none
  | fuel + 1, depth, cs =>
    match cs with
    | '"' :: _ | '\'' :: _ =>
      (string? cs).map fun (text, rest) => (.string (String.ofList text), rest)
    | '[' :: cs =>
      if depth = 0 then none
      else (items? fuel (depth - 1) cs).map fun (items, rest) => (.array items, rest)
    | '\x7b' :: cs => do
      if depth = 0 then none
      let (t, rest) ← pairs? fuel (depth - 1) .empty cs
      return (.table t.toTable, rest)
    | cs => scalar? cs

/-- The items of an array after its opening bracket. -/
def items? : (fuel depth : Nat) → List Char → Option (List Toml × List Char)
  | 0, _, _ => none
  | fuel + 1, depth, cs => do
    match ← dropFiller? cs.length cs with
    | ']' :: rest => return ([], rest)
    | cs =>
      let (v, rest) ← value? fuel depth cs
      match ← dropFiller? rest.length rest with
      | ',' :: rest =>
        let (vs, rest) ← items? fuel depth rest
        return (v :: vs, rest)
      | ']' :: rest => return ([v], rest)
      | _ => none

/-- The pairs of a table in braces after the opening one. -/
def pairs? : (fuel depth : Nat) → Tables → List Char → Option (Tables × List Char)
  | 0, _, _, _ => none
  | fuel + 1, depth, t, cs => do
    match ← dropFiller? cs.length cs with
    | '\x7d' :: rest => return (t, rest)
    | cs =>
      let (names, rest) ← key? cs.length cs
      let rest ← expect? '=' rest
      let (v, rest) ← value? fuel depth (dropWhite rest)
      let t ← t.setKey names v
      match ← dropFiller? rest.length rest with
      | ',' :: rest => pairs? fuel depth t rest
      | '\x7d' :: rest => return (t, rest)
      | _ => none

end

/-- The end of a line after blanks and a comment; the next line. -/
def endLine? (cs : List Char) : Option (List Char) := do
  let cs ← dropComment? (dropWhite cs)
  if cs.isEmpty then return [] else dropNewline? cs

/-- A header after its brackets, up to the closing ones. -/
def header? (closing : List Char) (cs : List Char) : Option (List String × List Char) := do
  let (names, rest) ← key? cs.length cs
  if closing.isPrefixOf rest then return (names, rest.drop closing.length) else none

/-- Takes one line in. -/
def line (t : Tables) (cs : List Char) : Option (Tables × List Char) := do
  match dropWhite cs with
  | [] => return (t, [])
  | '[' :: '[' :: cs =>
    let (names, rest) ← header? [']', ']'] cs
    return (← t.openItem names, ← endLine? rest)
  | '[' :: cs =>
    let (names, rest) ← header? [']'] cs
    return (← t.openTable names, ← endLine? rest)
  | c :: cs =>
    if c = '#' || c = '\n' || c = '\r' then return (t, ← endLine? (c :: cs))
    let (names, rest) ← key? (cs.length + 1) (c :: cs)
    let rest ← expect? '=' rest
    let (v, rest) ← value? (rest.length + 1) deepest (dropWhite rest)
    return (← t.setKey names v, ← endLine? rest)

def linesOf : (fuel : Nat) → Tables → List Char → Option Tables
  | 0, t, _ => some t
  | fuel + 1, t, cs =>
    if cs.isEmpty then some t
    else (line t cs).bind fun (t, rest) => linesOf fuel t rest

def dropByteOrderMark : List Char → List Char
  | c :: cs => if c.toNat = 0xFEFF then cs else c :: cs
  | [] => []

/-- The table of a document; nothing if it is malformed. -/
def parse? (text : String) : Option (List (String × Toml)) :=
  let cs := dropByteOrderMark text.toList
  (linesOf (cs.length + 1) .empty cs).map Tables.toTable

end SwitchLab.Toml
