/-!
Blank characters (the Unicode property `White_Space`), and the cuts of a text that depend on
them: trimming, words, lines.
-/
namespace SwitchLab.Text

/-- The property `White_Space`. -/
def isBlank (c : Char) : Bool :=
  let n := c.toNat
  (9 ≤ n && n ≤ 13) || n = 0x20 || n = 0x85 || n = 0xA0 || n = 0x1680 ||
    (0x2000 ≤ n && n ≤ 0x200A) || n = 0x2028 || n = 0x2029 || n = 0x202F || n = 0x205F ||
    n = 0x3000

def trimStartChars (cs : List Char) : List Char := cs.dropWhile isBlank

def trimEndChars (cs : List Char) : List Char := (cs.reverse.dropWhile isBlank).reverse

def trimEnd (s : String) : String := String.ofList (trimEndChars s.toList)

def trim (s : String) : String := String.ofList (trimEndChars (trimStartChars s.toList))

/-- Nothing but blanks. -/
def isBlankText (s : String) : Bool := s.toList.all isBlank

/-- The maximal runs of characters outside the class `sep`. -/
def runsOutside (sep : Char → Bool) : List Char → List (List Char)
  | [] => []
  | c :: cs =>
    if sep c then runsOutside sep cs
    else
      match cs, runsOutside sep cs with
      | [], _ => [[c]]
      | d :: _, rest =>
        if sep d then [c] :: rest
        else
          match rest with
          | [] => [[c]]
          | w :: ws => (c :: w) :: ws

/-- The words of a text: its maximal runs of characters that are not blank. -/
def words (s : String) : List String := (runsOutside isBlank s.toList).map String.ofList

/-- The parts of a text between occurrences of `sep`; one more than there are occurrences. -/
def splitAtEach (sep : Char) : List Char → List (List Char)
  | [] => [[]]
  | c :: cs =>
    if c = sep then [] :: splitAtEach sep cs
    else
      match splitAtEach sep cs with
      | [] => [[c]]
      | part :: parts => (c :: part) :: parts

/-- Drops one carriage return from the end of a line that a line feed ended. -/
def dropReturn (cs : List Char) : List Char :=
  if cs.getLast? = some '\r' then cs.dropLast else cs

/-- Every part but the last was ended by a line feed; an empty last part is no line. -/
def linesOfParts : List (List Char) → List (List Char)
  | [] => []
  | [last] => if last.isEmpty then [] else [last]
  | part :: parts => dropReturn part :: linesOfParts parts

def lineChars (cs : List Char) : List (List Char) := linesOfParts (splitAtEach '\n' cs)

/-- The lines of a text, without their ends (`\n` or `\r\n`). -/
def lines (s : String) : List String := (lineChars s.toList).map String.ofList

end SwitchLab.Text
