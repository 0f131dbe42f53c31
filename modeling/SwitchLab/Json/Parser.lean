import SwitchLab.Text.Decimal
/-!
JSON documents, read to the letter: an object keeps all its members in their order, so that
repeated ones can be told.
-/
namespace SwitchLab

inductive Json where
  | null
  | boolean (b : Bool)
  /-- A number without sign, fraction and exponent. -/
  | natural (n : Nat)
  | number (text : String)
  | string (s : String)
  | array (items : List Json)
  | object (members : List (String × Json))
  deriving Repr

namespace Json

def isSpace (c : Char) : Bool := c = ' ' || c = '\n' || c = '\t' || c = '\r'

def dropSpace (cs : List Char) : List Char := cs.dropWhile isSpace

/-! Strings. -/

/-- A unit of 16 bits in four hexadecimal digits. -/
def unit? : List Char → Option (Nat × List Char)
  | a :: b :: c :: d :: cs => do
    return (← Text.hexNumber? [a, b, c, d], cs)
  | _ => none

/-- One unit, or two that are halves of a character; a half by itself is no character. -/
def unicode? (cs : List Char) : Option (Char × List Char) := do
  let (high, cs) ← unit? cs
  if 0xD800 ≤ high && high ≤ 0xDBFF then
    match cs with
    | '\\' :: 'u' :: cs =>
      let (low, cs) ← unit? cs
      if 0xDC00 ≤ low && low ≤ 0xDFFF then
        return (Char.ofNat (0x10000 + (high - 0xD800) * 0x400 + (low - 0xDC00)), cs)
      else none
    | _ => none
  else if 0xDC00 ≤ high && high ≤ 0xDFFF then none
  else return (Char.ofNat high, cs)

def escape? : List Char → Option (Char × List Char)
  | '"' :: cs => some ('"', cs)
  | '\\' :: cs => some ('\\', cs)
  | '/' :: cs => some ('/', cs)
  | 'b' :: cs => some ('\x08', cs)
  | 'f' :: cs => some ('\x0c', cs)
  | 'n' :: cs => some ('\n', cs)
  | 'r' :: cs => some ('\r', cs)
  | 't' :: cs => some ('\t', cs)
  | 'u' :: cs => unicode? cs
  | _ => none

/-- The rest of a string after its opening quote. -/
def stringRest? : (fuel : Nat) → List Char → Option (List Char × List Char)
  | 0, _ => none
  | _ + 1, [] => none
  | _ + 1, '"' :: cs => some ([], cs)
  | fuel + 1, '\\' :: cs => do
    let (c, cs) ← escape? cs
    let (text, rest) ← stringRest? fuel cs
    return (c :: text, rest)
  | fuel + 1, c :: cs => do
    if c.toNat < 0x20 then none
    let (text, rest) ← stringRest? fuel cs
    return (c :: text, rest)

def string? : List Char → Option (String × List Char)
  | '"' :: cs => (stringRest? (cs.length + 1) cs).map fun (text, rest) => (String.ofList text, rest)
  | _ => none

/-! Numbers. -/

/-- A zero, or digits that do not begin with one. -/
def whole? (cs : List Char) : Option (List Char × List Char) :=
  match cs with
  | '0' :: rest => if rest.head?.any Char.isDigit then none else some (['0'], rest)
  | _ =>
    let digits := cs.takeWhile Char.isDigit
    if digits.isEmpty then none else some (digits, cs.dropWhile Char.isDigit)

def fraction? : List Char → Option (List Char × List Char)
  | '.' :: cs =>
    let digits := cs.takeWhile Char.isDigit
    if digits.isEmpty then none else some ('.' :: digits, cs.dropWhile Char.isDigit)
  | cs => some ([], cs)

def exponentDigits? (mark : List Char) (cs : List Char) : Option (List Char × List Char) :=
  let digits := cs.takeWhile Char.isDigit
  if digits.isEmpty then none else some (mark ++ digits, cs.dropWhile Char.isDigit)

def exponent? : List Char → Option (List Char × List Char)
  | 'e' :: '+' :: cs | 'E' :: '+' :: cs => exponentDigits? ['e', '+'] cs
  | 'e' :: '-' :: cs | 'E' :: '-' :: cs => exponentDigits? ['e', '-'] cs
  | 'e' :: cs | 'E' :: cs => exponentDigits? ['e'] cs
  | cs => some ([], cs)

def unsigned? (cs : List Char) : Option (Json × List Char) := do
  let (whole, cs) ← whole? cs
  let (fraction, cs) ← fraction? cs
  let (exponent, cs) ← exponent? cs
  if fraction.isEmpty && exponent.isEmpty then return (.natural (Text.natOfDigits whole), cs)
  return (.number (String.ofList (whole ++ fraction ++ exponent)), cs)

def number? : List Char → Option (Json × List Char)
  | '-' :: cs =>
    (unsigned? cs).map fun (v, rest) =>
      match v with
      | .natural n => (.number s!"-{n}", rest)
      | .number text => (.number ("-" ++ text), rest)
      | v => (v, rest)
  | cs => unsigned? cs

/-! Values. -/

mutual

def value? : (fuel : Nat) → List Char → Option (Json × List Char)
  | 0, _ => none
  | fuel + 1, cs =>
    match cs with
    | 'n' :: 'u' :: 'l' :: 'l' :: cs => some (.null, cs)
    | 't' :: 'r' :: 'u' :: 'e' :: cs => some (.boolean true, cs)
    | 'f' :: 'a' :: 'l' :: 's' :: 'e' :: cs => some (.boolean false, cs)
    | '"' :: _ => (string? cs).map fun (s, rest) => (.string s, rest)
    | '[' :: cs =>
      match dropSpace cs with
      | ']' :: rest => some (.array [], rest)
      | cs => (items? fuel cs).map fun (items, rest) => (.array items, rest)
    | '\x7b' :: cs =>
      match dropSpace cs with
      | '\x7d' :: rest => some (.object [], rest)
      | cs => (members? fuel cs).map fun (members, rest) => (.object members, rest)
    | cs => number? cs

/-- The items of an array that has some. -/
def items? : (fuel : Nat) → List Char → Option (List Json × List Char)
  | 0, _ => none
  | fuel + 1, cs => do
    let (v, rest) ← value? fuel (dropSpace cs)
    match dropSpace rest with
    | ',' :: rest =>
      let (vs, rest) ← items? fuel rest
      return (v :: vs, rest)
    | ']' :: rest => return ([v], rest)
    | _ => none

/-- The members of an object that has some. -/
def members? : (fuel : Nat) → List Char → Option (List (String × Json) × List Char)
  | 0, _ => none
  | fuel + 1, cs => do
    let (name, rest) ← string? (dropSpace cs)
    match dropSpace rest with
    | ':' :: rest =>
      let (v, rest) ← value? fuel (dropSpace rest)
      match dropSpace rest with
      | ',' :: rest =>
        let (more, rest) ← members? fuel rest
        return ((name, v) :: more, rest)
      | '\x7d' :: rest => return ([(name, v)], rest)
      | _ => none
    | _ => none

end

/-- The value of a document; nothing if it is malformed. -/
def parse? (text : String) : Option Json :=
  let cs := text.toList
  match value? (cs.length + 1) (dropSpace cs) with
  | some (v, rest) => if (dropSpace rest).isEmpty then some v else none
  | none => none

end Json

end SwitchLab
