import SwitchLab.Text.Binary64
import SwitchLab.Text.Blank
import SwitchLab.Text.Decimal
import SwitchLab.Toml.Value
/-!
Values of TOML that are written without quotes or brackets: numbers, truth values, dates and
times.
-/
namespace SwitchLab.Toml

/-- Digits with single underscores between them; the digits without the underscores. -/
def digits? (isDigit : Char → Bool) : List Char → Option (List Char)
  | [] => none
  | [c] => if isDigit c then some [c] else none
  | c :: '_' :: rest => if isDigit c then (digits? isDigit rest).map (c :: ·) else none
  | c :: rest => if isDigit c then (digits? isDigit rest).map (c :: ·) else none

def natInBase (base : Nat) (digits : List Char) : Nat :=
  digits.foldl (fun n c => base * n + (Text.hexValue? c).getD 0) 0

def isHexDigit (c : Char) : Bool := (Text.hexValue? c).isSome

def isOctalDigit (c : Char) : Bool := '0' ≤ c && c ≤ '7'

def isBinaryDigit (c : Char) : Bool := c = '0' || c = '1'

/-- Digits of a decimal number: no zero in front of others. -/
def decimal? (cs : List Char) : Option (List Char) := do
  let digits ← digits? Char.isDigit cs
  if digits.head? = some '0' && digits.length ≠ 1 then none else some digits

/-- Integers reach over 128 bits. -/
def inRange? (n : Int) : Option Toml :=
  if -(Text.wordSize 127 : Int) ≤ n && n < Text.wordSize 128 then some (.integer n) else none

def integer? : List Char → Option Toml
  | '0' :: 'x' :: cs => (digits? isHexDigit cs).bind fun ds => inRange? (natInBase 16 ds)
  | '0' :: 'o' :: cs => (digits? isOctalDigit cs).bind fun ds => inRange? (natInBase 8 ds)
  | '0' :: 'b' :: cs => (digits? isBinaryDigit cs).bind fun ds => inRange? (natInBase 2 ds)
  | '+' :: cs => (decimal? cs).bind fun ds => inRange? (natInBase 10 ds)
  | '-' :: cs => (decimal? cs).bind fun ds => inRange? (-(natInBase 10 ds))
  | cs => (decimal? cs).bind fun ds => inRange? (natInBase 10 ds)

def dropSign : List Char → List Char
  | '+' :: cs => cs
  | '-' :: cs => cs
  | cs => cs

/-- A number with a fraction, an exponent or both; it rounds to a finite number of 64 bits. -/
def decimalFloat? (text cs : List Char) : Option Toml := do
  let mantissa := cs.takeWhile fun c => c ≠ 'e' && c ≠ 'E'
  let power := cs.dropWhile fun c => c ≠ 'e' && c ≠ 'E'
  let whole ← decimal? (mantissa.takeWhile (· ≠ '.'))
  let fraction ←
    match mantissa.dropWhile (· ≠ '.') with
    | [] => some []
    | _ :: cs => digits? Char.isDigit cs
  let exponent ←
    match power with
    | [] => some (0 : Int)
    | _ :: '-' :: cs => (digits? Char.isDigit cs).map fun ds => -(natInBase 10 ds : Int)
    | _ :: '+' :: cs => (digits? Char.isDigit cs).map fun ds => (natInBase 10 ds : Int)
    | _ :: cs => (digits? Char.isDigit cs).map fun ds => (natInBase 10 ds : Int)
  let value := Binary64.ofDecimal false (natInBase 10 (whole ++ fraction))
    (exponent - fraction.length)
  if power.isEmpty && fraction.isEmpty then none
  else if value.isFinite then some (.float (String.ofList text))
  else none

def float? (text : List Char) : Option Toml :=
  let cs := dropSign text
  if cs = "inf".toList || cs = "nan".toList then some (.float (String.ofList text))
  else decimalFloat? text cs

def isScalarChar (c : Char) : Bool :=
  c.isAlphanum || c = '+' || c = '-' || c = '_' || c = '.' || c = ':'

/-- The text of a scalar. One blank may stand between a date and a time. -/
def scalarText (cs : List Char) : List Char × List Char :=
  let first := cs.takeWhile isScalarChar
  let rest := cs.dropWhile isScalarChar
  match rest with
  | ' ' :: c :: more =>
    if c.isDigit && (date? first).any (·.2.isEmpty) then
      (first ++ ' ' :: (c :: more).takeWhile isScalarChar, (c :: more).dropWhile isScalarChar)
    else (first, rest)
  | _ => (first, rest)

def scalar? (cs : List Char) : Option (Toml × List Char) := do
  let (text, rest) := scalarText cs
  let value ←
    if text = "true".toList then some (.boolean true)
    else if text = "false".toList then some (.boolean false)
    else (integer? text).or ((float? text).or ((DateTime.ofChars? text).map .datetime))
  return (value, rest)

end SwitchLab.Toml
