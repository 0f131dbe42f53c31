/-!
Decimal integers: reading with a bound, hexadecimal digits.
-/
namespace SwitchLab.Text

def digitValue (c : Char) : Nat := c.toNat - '0'.toNat

def natOfDigits (cs : List Char) : Nat := cs.foldl (fun n c => 10 * n + digitValue c) 0

/-- A non-empty run of ASCII digits. -/
def natOfChars? (cs : List Char) : Option Nat :=
  if !cs.isEmpty && cs.all Char.isDigit then some (natOfDigits cs) else none

def dropPlus : List Char → List Char
  | '+' :: cs => cs
  | cs => cs

/-- How many numbers there are of so many bits. -/
def wordSize (bits : Nat) : Nat := Nat.pow 2 bits

/-- Digits, after one optional plus sign, whose value fits into so many bits. -/
def unsignedChars? (bits : Nat) (cs : List Char) : Option Nat :=
  match natOfChars? (dropPlus cs) with
  | some n => if n < wordSize bits then some n else none
  | none => none

def unsigned? (bits : Nat) (s : String) : Option Nat := unsignedChars? bits s.toList

/-- Lower-case hexadecimal digits. -/
def hex (n : Nat) : String := String.ofList (Nat.toDigits 16 n)

def hexValue? (c : Char) : Option Nat :=
  if c.isDigit then some (digitValue c)
  else if 'a' ≤ c && c ≤ 'f' then some (c.toNat - 'a'.toNat + 10)
  else if 'A' ≤ c && c ≤ 'F' then some (c.toNat - 'A'.toNat + 10)
  else none

/-- A non-empty run of hexadecimal digits. -/
def hexNumber? (cs : List Char) : Option Nat :=
  if cs.isEmpty then none
  else cs.foldlM (fun n c => (hexValue? c).map (16 * n + ·)) 0

/-- Fills up with zeros on the left to `width` digits. -/
def padZeros (width : Nat) (digits : String) : String :=
  String.ofList (List.replicate (width - digits.length) '0') ++ digits

/-- Fills up with blanks on the right to `width` characters. -/
def padRight (width : Nat) (s : String) : String :=
  s ++ String.ofList (List.replicate (width - s.length) ' ')

end SwitchLab.Text
