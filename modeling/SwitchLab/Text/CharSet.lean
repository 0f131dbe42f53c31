import SwitchLab.Text.Blank
import SwitchLab.Text.Decimal
import SwitchLab.Text.Search
/-!
Sets of characters as ranges of code points. Intersection and difference come from the union and
the complement.
-/
namespace SwitchLab

/-- Ranges with both ends included, in rising order, and apart from each other. -/
structure CharSet where
  ranges : List (Nat × Nat)
  deriving DecidableEq, Repr

namespace CharSet

def empty : CharSet := ⟨[]⟩

def lastCode : Nat := 0x10FFFF

def all : CharSet := ⟨[(0, lastCode)]⟩

def range (low high : Nat) : CharSet := if low ≤ high then ⟨[(low, high)]⟩ else empty

def single (c : Char) : CharSet := ⟨[(c.toNat, c.toNat)]⟩

def isEmpty (s : CharSet) : Bool := s.ranges.isEmpty

def contains (s : CharSet) (c : Char) : Bool :=
  s.ranges.any fun (low, high) => low ≤ c.toNat && c.toNat ≤ high

/-- Puts ranges in rising order of their starts together where they touch. -/
def joinFrom (low high : Nat) : List (Nat × Nat) → List (Nat × Nat)
  | [] => [(low, high)]
  | (l, h) :: rest =>
    if l ≤ high + 1 then joinFrom low (max high h) rest else (low, high) :: joinFrom l h rest

def join : List (Nat × Nat) → List (Nat × Nat)
  | [] => []
  | (low, high) :: rest => joinFrom low high rest

def union (s t : CharSet) : CharSet :=
  ⟨join (List.merge s.ranges t.ranges fun a b => a.1 ≤ b.1)⟩

def unions (sets : List CharSet) : CharSet := sets.foldl union empty

/-- The gaps between ranges, from a code point on. -/
def gapsFrom (start : Nat) : List (Nat × Nat) → List (Nat × Nat)
  | [] => if start ≤ lastCode then [(start, lastCode)] else []
  | (low, high) :: rest =>
    if start < low then (start, low - 1) :: gapsFrom (high + 1) rest else gapsFrom (high + 1) rest

def complement (s : CharSet) : CharSet := ⟨gapsFrom 0 s.ranges⟩

def inter (s t : CharSet) : CharSet := (s.complement.union t.complement).complement

def diff (s t : CharSet) : CharSet := s.inter t.complement

/-- What is in one of the two, but not in both. -/
def symmDiff (s t : CharSet) : CharSet := (s.union t).diff (s.inter t)

/-- The character of a set that has no other. -/
def only? (s : CharSet) : Option Char :=
  match s.ranges with
  | [(low, high)] => if low = high then some (Char.ofNat low) else none
  | _ => none

def isAscii (s : CharSet) : Bool := s.ranges.all (·.2 < 0x80)

/-- Reads one code point, or two with a hyphen between them, in hexadecimal digits. -/
def rangeOf? (text : List Char) : Option (Nat × Nat) :=
  match Text.splitFirstChars '-' text with
  | none => (Text.hexNumber? text).map fun n => (n, n)
  | some (low, high) => do return (← Text.hexNumber? low, ← Text.hexNumber? high)

/-- The set whose ranges are written in rising order, with blanks between them. -/
def ofText (text : String) : CharSet :=
  ⟨(Text.runsOutside Text.isBlank text.toList).filterMap rangeOf?⟩

end CharSet

end SwitchLab
