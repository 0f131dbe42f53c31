import SwitchLab.Toml.Scalar
/-!
Strings of TOML: with or without escapes, on one line or on several.
-/
namespace SwitchLab.Toml

/-- A character that may stand in a string as it is; quotes and backslashes are not its matter. -/
def isPlain (c : Char) : Bool := c = '\t' || (0x20 ≤ c.toNat && c.toNat ≠ 0x7F)

def codePoint? (digits : Nat) (cs : List Char) : Option (Char × List Char) :=
  let ds := cs.take digits
  let n := natInBase 16 ds
  if ds.length = digits && ds.all isHexDigit && (n < 0xD800 || (0xDFFF < n && n < 0x110000)) then
    some (Char.ofNat n, cs.drop digits)
  else none

/-- The character of an escape, after the backslash. -/
def escape? : List Char → Option (Char × List Char)
  | 'b' :: cs => some ('\x08', cs)
  | 't' :: cs => some ('\t', cs)
  | 'n' :: cs => some ('\n', cs)
  | 'f' :: cs => some ('\x0c', cs)
  | 'r' :: cs => some ('\r', cs)
  | 'e' :: cs => some ('\x1b', cs)
  | '"' :: cs => some ('"', cs)
  | '\\' :: cs => some ('\\', cs)
  | 'x' :: cs => codePoint? 2 cs
  | 'u' :: cs => codePoint? 4 cs
  | 'U' :: cs => codePoint? 8 cs
  | _ => none

/-- The rest of a string between double quotes. -/
def basic? : (fuel : Nat) → List Char → Option (List Char × List Char)
  | 0, _ => none
  | _ + 1, [] => none
  | _ + 1, '"' :: cs => some ([], cs)
  | fuel + 1, '\\' :: cs => do
    let (c, cs) ← escape? cs
    let (text, rest) ← basic? fuel cs
    return (c :: text, rest)
  | fuel + 1, c :: cs => do
    if !isPlain c then none
    let (text, rest) ← basic? fuel cs
    return (c :: text, rest)

/-- The rest of a string between single quotes. -/
def literal? : List Char → Option (List Char × List Char)
  | [] => none
  | c :: cs => do
    if c = '\'' then return ([], cs)
    if !isPlain c then none
    let (text, rest) ← literal? cs
    return (c :: text, rest)

/-- How many quotes a text begins with. Three end a string of several lines; up to two more right
before them belong to it. -/
def quoteCount (quote : Char) (cs : List Char) : Nat := (cs.takeWhile (· = quote)).length

def isWhite (c : Char) : Bool := c = ' ' || c = '\t'

def dropNewline? : List Char → Option (List Char)
  | '\n' :: cs => some cs
  | '\r' :: '\n' :: cs => some cs
  | _ => none

/-- A line break right at the start is no part of the string. -/
def dropFirstNewline (cs : List Char) : List Char := (dropNewline? cs).getD cs

def dropBlankLines : (fuel : Nat) → List Char → List Char
  | 0, cs => cs
  | fuel + 1, cs =>
    let cs := cs.dropWhile isWhite
    match dropNewline? cs with
    | some cs => dropBlankLines fuel cs
    | none => cs

/-- A backslash at the end of a line takes the line break and all blanks after it away. -/
def continuation? (cs : List Char) : Option (List Char) :=
  (dropNewline? (cs.dropWhile isWhite)).map fun cs => dropBlankLines cs.length cs

/-- The rest of a string of several lines. -/
def multiLine? (quote : Char) (escapes : Bool) :
    (fuel : Nat) → List Char → Option (List Char × List Char)
  | 0, _ => none
  | _ + 1, [] => none
  | fuel + 1, c :: cs => do
    if c = quote then
      let quotes := quoteCount quote (c :: cs)
      if 5 < quotes then none
      if 3 ≤ quotes then return (List.replicate (quotes - 3) quote, (c :: cs).drop quotes)
      let (text, rest) ← multiLine? quote escapes fuel cs
      return (c :: text, rest)
    if escapes && c = '\\' then
      if let some cs := continuation? cs then return ← multiLine? quote escapes fuel cs
      let (c, cs) ← escape? cs
      let (text, rest) ← multiLine? quote escapes fuel cs
      return (c :: text, rest)
    if !(isPlain c || c = '\n' || (c = '\r' && cs.head? = some '\n')) then none
    let (text, rest) ← multiLine? quote escapes fuel cs
    return (c :: text, rest)

/-- A string of one line, from its quote on. -/
def line? : List Char → Option (List Char × List Char)
  | '"' :: cs => basic? (cs.length + 1) cs
  | '\'' :: cs => literal? cs
  | _ => none

/-- A string from its quotes on. -/
def string? : List Char → Option (List Char × List Char)
  | '"' :: '"' :: '"' :: cs =>
    let cs := dropFirstNewline cs
    multiLine? '"' true (cs.length + 1) cs
  | '\'' :: '\'' :: '\'' :: cs =>
    let cs := dropFirstNewline cs
    multiLine? '\'' false (cs.length + 1) cs
  | cs => line? cs

end SwitchLab.Toml
