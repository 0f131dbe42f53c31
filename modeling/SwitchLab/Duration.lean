import SwitchLab.Text.Decimal
/-!
Lengths of time, and their text.
-/
namespace SwitchLab

structure Duration where
  nanos : Nat
  deriving DecidableEq, Repr

namespace Duration

def zero : Duration := ⟨0⟩
def ofMillis (n : Nat) : Duration := ⟨n * 1000000⟩
def ofSecs (n : Nat) : Duration := ⟨n * 1000000000⟩

def toMillis (d : Duration) : Nat := d.nanos / 1000000

instance : LE Duration := ⟨fun a b => a.nanos ≤ b.nanos⟩
instance (a b : Duration) : Decidable (a ≤ b) := inferInstanceAs (Decidable (a.nanos ≤ b.nanos))

instance : Add Duration := ⟨fun a b => ⟨a.nanos + b.nanos⟩⟩

/-- Zero if `b` is the longer one. -/
instance : Sub Duration := ⟨fun a b => ⟨a.nanos - b.nanos⟩⟩
instance : Min Duration := ⟨fun a b => ⟨min a.nanos b.nanos⟩⟩
instance : Max Duration := ⟨fun a b => ⟨max a.nanos b.nanos⟩⟩

/-- The digits of a fraction over a power of ten, without the zeros at the end. -/
def fractionDigits (places n : Nat) : List Char :=
  ((Text.padZeros places (toString n)).toList.reverse.dropWhile (· = '0')).reverse

/-- A whole number of units and a fraction with so many places. -/
def unitText (whole fraction places : Nat) (unit : String) : String :=
  let digits := fractionDigits places fraction
  toString whole ++ (if digits.isEmpty then "" else "." ++ String.ofList digits) ++ unit

/-- The text in the largest of s, ms, µs and ns that the length reaches. -/
def text (d : Duration) : String :=
  let n := d.nanos
  if 1000000000 ≤ n then unitText (n / 1000000000) (n % 1000000000) 9 "s"
  else if 1000000 ≤ n then unitText (n / 1000000) (n % 1000000) 6 "ms"
  else if 1000 ≤ n then unitText (n / 1000) (n % 1000) 3 "µs"
  else unitText n 0 0 "ns"

end Duration

end SwitchLab
