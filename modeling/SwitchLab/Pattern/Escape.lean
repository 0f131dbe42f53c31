import SwitchLab.Pattern.Syntax
/-!
The small parts of written patterns: blanks, what stands in braces, escapes.
-/
namespace SwitchLab.Pattern

/-! ## Blanks -/

/-- Drops blanks and comments; a comment goes on to the end of its line. -/
def dropBlanks : (inComment : Bool) → List Char → List Char
  | _, [] => []
  | true, c :: cs => dropBlanks (c ≠ '\n') cs
  | false, c :: cs =>
    if Text.isBlank c then dropBlanks false cs
    else if c = '#' then dropBlanks true cs
    else c :: cs

/-- Drops blanks and comments where they mean nothing. -/
def skip (spaced : Bool) (cs : List Char) : List Char :=
  if spaced then dropBlanks false cs else cs

/-- What stands before the closing brace, without the blanks that mean nothing, and what follows
the brace. -/
def braced (spaced : Bool) : (inComment : Bool) → List Char → Option (List Char × List Char)
  | _, [] => none
  | true, c :: cs => braced spaced (c ≠ '\n') cs
  | false, c :: cs =>
    if c = '\x7d' then some ([], cs)
    else if spaced && Text.isBlank c then braced spaced false cs
    else if spaced && c = '#' then braced spaced true cs
    else (braced spaced false cs).map fun (inside, rest) => (c :: inside, rest)

/-- So many characters, and what follows them and their blanks. -/
def counted (spaced : Bool) : (count : Nat) → List Char → Option (List Char × List Char)
  | 0, cs => some ([], cs)
  | _ + 1, [] => none
  | count + 1, c :: cs =>
    (counted spaced count (skip spaced cs)).map fun (taken, rest) => (c :: taken, rest)

/-! ## Characters by their numbers -/

def charOfNat? (n : Nat) : Option Char :=
  if n < 0xD800 || (0xDFFF < n && n < 0x110000) then some (Char.ofNat n) else none

def charOfHex? (digits : List Char) : Option Char := do charOfNat? (← Text.hexNumber? digits)

/-- The code point after `\x`, `\u` or `\U`: in braces, or with a fixed number of digits. -/
def numbered? (spaced : Bool) (digits : Nat) (cs : List Char) : Option (Literal × List Char) := do
  match skip spaced cs with
  | '\x7b' :: cs =>
    let (inside, rest) ← braced spaced false cs
    return (⟨← charOfHex? inside, false⟩, rest)
  | cs =>
    let (inside, rest) ← counted spaced digits cs
    return (⟨← charOfHex? inside, digits = 2⟩, rest)

/-! ## Properties -/

/-- A property by a name, or with a value after `!=`, `:` or `=`. -/
def propertyOf (text : List Char) : String × Option String :=
  let halves := (Text.splitAtTextChars ['!', '='] text).or
    ((Text.splitFirstChars ':' text).or (Text.splitFirstChars '=' text))
  match halves with
  | some (name, value) => (String.ofList name, some (String.ofList value))
  | none => (String.ofList text, none)

/-- The property after `\p` or `\P`: in braces, or one letter. -/
def property? (spaced negated : Bool) (cs : List Char) : Option (Symbol × List Char) := do
  match skip spaced cs with
  | '\x7b' :: cs =>
    let (inside, rest) ← braced spaced false cs
    let (name, value) := propertyOf inside
    return (.property name value negated, rest)
  | '\\' :: _ | [] => none
  | c :: cs => return (.property (String.ofList [c]) none negated, cs)

/-! ## Escapes -/

/-- Signs that an escape leaves as they are. -/
def isEscapable (c : Char) : Bool :=
  c.toNat < 0x80 && !c.isAlphanum && c ≠ '<' && c ≠ '>'

def controlChar? : Char → Option Char
  | 'a' => some '\x07'
  | 'f' => some '\x0c'
  | 't' => some '\t'
  | 'n' => some '\n'
  | 'r' => some '\r'
  | 'v' => some '\x0b'
  | _ => none

def shorthand? : Char → Option Symbol
  | 'd' => some (.shorthand .digit false)
  | 'D' => some (.shorthand .digit true)
  | 's' => some (.shorthand .blank false)
  | 'S' => some (.shorthand .blank true)
  | 'w' => some (.shorthand .word false)
  | 'W' => some (.shorthand .word true)
  | _ => none

def assertion? : Char → Option Assertion
  | 'A' => some .textStart
  | 'z' => some .textEnd
  | 'B' => some (.word .neither)
  | '<' => some (.word .start)
  | '>' => some (.word .finish)
  | _ => none

/-- The edge that is named in braces after `\b`. -/
def edgeNamed? : String → Option WordEdge
  | "start" => some .start
  | "end" => some .finish
  | "start-half" => some .freeBefore
  | "end-half" => some .freeAfter
  | _ => none

def namedEdge? (spaced : Bool) : List Char → Option (WordEdge × List Char)
  | '\x7b' :: cs => do
    let (inside, rest) ← braced spaced false cs
    return (← edgeNamed? (String.ofList inside), rest)
  | _ => none

def plainEscape? (c : Char) : Option Atom :=
  if isEscapable c then some (.symbol (.literal ⟨c, false⟩))
  else
    ((controlChar? c).map fun d => .symbol (.literal ⟨d, false⟩)).or
      (((shorthand? c).map .symbol).or ((assertion? c).map .assertion))

/-- What follows a backslash. -/
def escape? (spaced : Bool) : List Char → Option (Atom × List Char)
  | [] => none
  | 'x' :: cs => (numbered? spaced 2 cs).map fun (l, rest) => (.symbol (.literal l), rest)
  | 'u' :: cs => (numbered? spaced 4 cs).map fun (l, rest) => (.symbol (.literal l), rest)
  | 'U' :: cs => (numbered? spaced 8 cs).map fun (l, rest) => (.symbol (.literal l), rest)
  | 'p' :: cs => (property? spaced false cs).map fun (s, rest) => (.symbol s, rest)
  | 'P' :: cs => (property? spaced true cs).map fun (s, rest) => (.symbol s, rest)
  | 'b' :: cs =>
    match namedEdge? spaced cs with
    | some (edge, rest) => some (.assertion (.word edge), rest)
    | none => some (.assertion (.word .either), cs)
  | c :: cs => (plainEscape? c).map fun a => (a, cs)

end SwitchLab.Pattern
