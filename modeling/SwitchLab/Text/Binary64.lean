import SwitchLab.Text.Decimal
import SwitchLab.Text.Search
/-!
Floating-point numbers of 64 bits: the one nearest to a decimal, and the shortest decimal that is
nearest to no other.
-/
namespace SwitchLab

/-- A finite number is its mantissa times two to the exponent. -/
inductive Binary64 where
  | finite (isNegative : Bool) (mantissa : Nat) (exponent : Int)
  | infinite (isNegative : Bool)
  | nan
  deriving DecidableEq, Repr

namespace Binary64

def lowestExponent : Int := -1074

/-- The greatest exponent of a finite number. -/
def highestExponent : Int := 971

/-- Mantissas lie below this, and from half of it on unless the exponent is the lowest. -/
def mantissaBound : Nat := 9007199254740992

/-- `n * base ^ e` as a quotient. -/
def scaled (base n : Nat) (e : Int) : Nat × Nat :=
  if 0 ≤ e then (n * Nat.pow base e.toNat, 1) else (n, Nat.pow base (-e).toNat)

/-- The whole number nearest to a quotient; of two as near the even one. -/
def nearestEven (num den : Nat) : Nat :=
  let whole := num / den
  let twice := 2 * (num % den)
  if den < twice || (twice = den && whole % 2 = 1) then whole + 1 else whole

/-- A mantissa that was rounded up to its bound belongs to the next exponent. -/
def ofRounded (isNegative : Bool) (mantissa : Nat) (exponent : Int) : Binary64 :=
  let (m, e) :=
    if mantissa < mantissaBound then (mantissa, exponent) else (mantissaBound / 2, exponent + 1)
  if highestExponent < e then infinite isNegative else finite isNegative m e

/-- The number nearest to a quotient. -/
def ofQuotient (isNegative : Bool) (num den : Nat) : Binary64 :=
  let guess : Int := (Nat.log2 num : Int) - (Nat.log2 den : Int) - 53
  let quotient (e : Int) : Nat × Nat :=
    if 0 ≤ e then (num, den * Nat.pow 2 e.toNat) else (num * Nat.pow 2 (-e).toNat, den)
  let fits := let (n, d) := quotient guess; n / d < mantissaBound
  let exponent := max lowestExponent (if fits then guess else guess + 1)
  let (n, d) := quotient exponent
  ofRounded isNegative (nearestEven n d) exponent

/-- The number nearest to `digits * 10 ^ exponent`. -/
def ofDecimal (isNegative : Bool) (digits : Nat) (exponent : Int) : Binary64 :=
  let size := ((toString digits).length : Int) + exponent
  if digits = 0 || size < -330 then finite isNegative 0 lowestExponent
  else if 330 < size then infinite isNegative
  else
    let (num, den) := scaled 10 digits exponent
    ofQuotient isNegative num den

def isFinite : Binary64 → Bool
  | finite .. => true
  | _ => false

/-! Reading. -/

/-- The sign in front of a number, if there is one. -/
def signOf : List Char → Bool × List Char
  | '-' :: cs => (true, cs)
  | '+' :: cs => (false, cs)
  | cs => (false, cs)

def exponentOf? : List Char → Option Int
  | [] => some 0
  | c :: cs =>
    if c = 'e' || c = 'E' then
      let (isNegative, cs) := signOf cs
      (Text.natOfChars? cs).map fun n => if isNegative then -(n : Int) else n
    else none

/-- Digits, with a point before, between or after them and with a power of ten. -/
def decimal? (isNegative : Bool) (cs : List Char) : Option Binary64 := do
  let whole := cs.takeWhile Char.isDigit
  let rest := cs.dropWhile Char.isDigit
  let after := if rest.head? = some '.' then rest.tail else rest
  let fraction := if rest.head? = some '.' then after.takeWhile Char.isDigit else []
  let digits ← Text.natOfChars? (whole ++ fraction)
  let exponent ← exponentOf? (after.drop fraction.length)
  return ofDecimal isNegative digits (exponent - fraction.length)

def ofText? (text : String) : Option Binary64 :=
  let (isNegative, cs) := signOf text.toList
  match String.ofList (cs.map Char.toLower) with
  | "inf" | "infinity" => some (infinite isNegative)
  | "nan" => some nan
  | _ => decimal? isNegative cs

/-! Writing. -/

/-- The numbers that round to a finite one lie between two others, here in units of a quarter of
the last place. Below a power of two the next number is only half as far. -/
def marginBelow (mantissa : Nat) (exponent : Int) : Nat :=
  if mantissa = mantissaBound / 2 && lowestExponent < exponent then 1 else 2

/-- The multiple of `10 ^ power` nearest to a number among those that round to it. -/
def multiple? (mantissa : Nat) (exponent power : Int) : Option Nat :=
  let (num, den) := scaled 2 1 (exponent - 2)
  let (unit, part) := scaled 10 1 power
  let size (quarters : Nat) := quarters * num * part
  let of (count : Nat) := count * unit * den
  let value := size (4 * mantissa)
  let low := size (4 * mantissa - marginBelow mantissa exponent)
  let high := size (4 * mantissa + 2)
  let fits (count : Nat) : Bool :=
    if mantissa % 2 = 0 then low ≤ of count && of count ≤ high
    else low < of count && of count < high
  let below := value / (unit * den)
  let isNearBelow := value - of below < of (below + 1) - value
  if fits below && (isNearBelow || !fits (below + 1)) then some below
  else if fits (below + 1) then some (below + 1)
  else none

/-- The digits and the power of ten of the shortest decimal: no multiple of a higher power rounds to
the number. -/
def shortest (mantissa : Nat) (exponent : Int) : (steps : Nat) → (power : Int) → Nat × Int
  | 0, power => (0, power)
  | steps + 1, power =>
    match multiple? mantissa exponent power with
    | some digits => (digits, power)
    | none => shortest mantissa exponent steps (power - 1)

/-- Digits times a power of ten, written out with a point. -/
def positional (digits : Nat) (power : Int) : String :=
  let text := toString digits
  let zeros (n : Nat) := String.ofList (List.replicate n '0')
  if 0 ≤ power then text ++ zeros power.toNat
  else
    let places := (-power).toNat
    let text := zeros (places + 1 - text.length) ++ text
    let whole := text.length - places
    String.ofList (text.toList.take whole) ++ "." ++ String.ofList (text.toList.drop whole)

def signText (isNegative : Bool) : String := if isNegative then "-" else ""

def text : Binary64 → String
  | finite isNegative mantissa exponent =>
    if mantissa = 0 then signText isNegative ++ "0"
    else
      let (digits, power) := shortest mantissa exponent 640 309
      signText isNegative ++ positional digits power
  | infinite isNegative => signText isNegative ++ "inf"
  | nan => "NaN"

end Binary64

end SwitchLab
