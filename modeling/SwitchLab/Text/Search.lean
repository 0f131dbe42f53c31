/-!
Finding one text inside another.
-/
namespace SwitchLab.Text

/-- `needle` occurs in the text at some position. -/
def occursInChars (needle : List Char) : List Char → Bool
  | [] => needle.isEmpty
  | c :: cs => needle.isPrefixOf (c :: cs) || occursInChars needle cs

def occursIn (needle s : String) : Bool := occursInChars needle.toList s.toList

/-- What follows `start` in a text that begins with it. -/
def afterStartChars : (start : List Char) → (text : List Char) → Option (List Char)
  | [], text => some text
  | _ :: _, [] => none
  | p :: ps, c :: cs => if p = c then afterStartChars ps cs else none

def afterStart? (start s : String) : Option String :=
  (afterStartChars start.toList s.toList).map String.ofList

/-- The two sides of the first `sep`. -/
def splitFirstChars (sep : Char) : List Char → Option (List Char × List Char)
  | [] => none
  | c :: cs =>
    if c = sep then some ([], cs)
    else (splitFirstChars sep cs).map fun (left, right) => (c :: left, right)

def splitFirst? (sep : Char) (s : String) : Option (String × String) :=
  (splitFirstChars sep s.toList).map fun (left, right) => (String.ofList left, String.ofList right)

/-- What follows the last `sep`, or all of it if there is none. -/
def afterLastChars (sep : Char) (cs : List Char) : List Char :=
  (cs.reverse.takeWhile (· ≠ sep)).reverse

/-- The part of a list before and after the first place where `needle` occurs. -/
def splitAtTextChars (needle : List Char) : List Char → Option (List Char × List Char)
  | [] => if needle.isEmpty then some ([], []) else none
  | c :: cs =>
    match afterStartChars needle (c :: cs) with
    | some rest => some ([], rest)
    | none => (splitAtTextChars needle cs).map fun (left, right) => (c :: left, right)

def joinWith (sep : String) (parts : List String) : String := sep.intercalate parts

def lowerAscii (s : String) : String := String.ofList (s.toList.map Char.toLower)

end SwitchLab.Text
