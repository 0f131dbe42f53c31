/-!
Glob patterns: `*` stands for any sequence of characters, `?` for any one character, every other
character for itself. A star that meets a star in the text stands for that character alone.
-/
namespace SwitchLab.Glob

/-- How far a pattern goes along a text without the freedom of a star. -/
inductive Advance where
  /-- The text is over; whether the rest of the pattern stands for nothing. -/
  | over (done : Bool)
  | stuck
  /-- A star is next; what follows it, and the text that is left. -/
  | star (pattern text : List Char)
  deriving DecidableEq, Repr

def advance : (pattern text : List Char) → Advance
  | pattern, [] => .over (pattern.all (· = '*'))
  | [], _ :: _ => .stuck
  | c :: pattern, d :: text =>
    if c = '?' || c = d then advance pattern text
    else if c = '*' then .star pattern (d :: text)
    else .stuck

/-- Tries the text and its tails until the pattern goes along one of them to the end or to the
next star; `next` goes on from there. -/
def seek (next : (pattern text : List Char) → Bool) (pattern : List Char) : List Char → Bool
  | [] => pattern.all (· = '*')
  | d :: text =>
    match advance pattern (d :: text) with
    | .over done => done
    | .star rest text => next rest text
    | .stuck => seek next pattern text

/-- Whether a pattern with so many stars, right after a star, stands for the text. -/
def afterStar : (stars : Nat) → (pattern text : List Char) → Bool
  | 0 => seek fun _ _ => false
  | stars + 1 => seek (afterStar stars)

/-- Whether the pattern stands for the text. -/
def matchesChars (pattern text : List Char) : Bool :=
  match advance pattern text with
  | .over done => done
  | .star rest text => afterStar (rest.count '*') rest text
  | .stuck => false

end SwitchLab.Glob

namespace SwitchLab

def globMatches (pattern text : String) : Bool := Glob.matchesChars pattern.toList text.toList

end SwitchLab
