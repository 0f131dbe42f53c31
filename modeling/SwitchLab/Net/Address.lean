import SwitchLab.Text.Blank
import SwitchLab.Text.Decimal
/-!
Internet addresses in writing.
-/
namespace SwitchLab.Address

inductive Family where
  | v4
  | v6
  deriving DecidableEq, Repr

/-- How long an address is, and hence its longest prefix. -/
def Family.bits : Family → Nat
  | v4 => 32
  | v6 => 128

/-- A number of at most three digits below 256, without zeros in front. -/
def isOctet (cs : List Char) : Bool :=
  !cs.isEmpty && cs.all Char.isDigit && cs.length ≤ 3 && Text.natOfDigits cs < 256
    && (cs.length = 1 || cs.head? ≠ some '0')

/-- Four octets between points. -/
def isV4 (cs : List Char) : Bool :=
  let parts := Text.splitAtEach '.' cs
  parts.length = 4 && parts.all isOctet

def isHexDigit (c : Char) : Bool :=
  c.isDigit || ('a' ≤ c && c ≤ 'f') || ('A' ≤ c && c ≤ 'F')

/-- One to four hexadecimal digits. -/
def isGroup (cs : List Char) : Bool := !cs.isEmpty && cs.length ≤ 4 && cs.all isHexDigit

/-- How many groups of 16 bits the parts between colons make, if they are all well formed. The
last part may be four octets, which count for two groups. -/
def groupCount? : (parts : List (List Char)) → Option Nat
  | [] => some 0
  | [last] => if isGroup last then some 1 else if isV4 last then some 2 else none
  | part :: parts => if isGroup part then (groupCount? parts).map (· + 1) else none

/-- As `groupCount?`, for groups in front of others. -/
def leadingCount? (parts : List (List Char)) : Option Nat :=
  if parts.all isGroup then some parts.length else none

/-- The parts between colons; no parts in an empty text. -/
def parts (cs : List Char) : List (List Char) := if cs.isEmpty then [] else Text.splitAtEach ':' cs

/-- The text before and after the first two colons in a row. -/
def splitAtGap : List Char → Option (List Char × List Char)
  | [] => none
  | ':' :: ':' :: cs => some ([], cs)
  | c :: cs => (splitAtGap cs).map fun (left, right) => (c :: left, right)

/-- Eight groups, or fewer with a gap of at least one group in one place. -/
def isV6 (cs : List Char) : Bool :=
  match splitAtGap cs with
  | none => groupCount? (parts cs) = some 8
  | some (left, right) =>
    match leadingCount? (parts left), groupCount? (parts right) with
    | some m, some n => m + n ≤ 7
    | _, _ => false

def family? (text : String) : Option Family :=
  let cs := text.toList
  if isV4 cs then some .v4 else if isV6 cs then some .v6 else none

end SwitchLab.Address
