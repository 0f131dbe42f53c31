import SwitchLab.Unicode.Derived
/-!
Words of all scripts: the characters that they are made of, and decimal digits.
-/
namespace SwitchLab.Text

def decimalDigits : CharSet := Unicode.inCategory "Nd"

def isDecimalDigit (c : Char) : Bool :=
  if c.toNat < 0x80 then c.isDigit else decimalDigits.contains c

/-- Letters, marks, decimal digits, connecting punctuation and the two joiners. -/
def wordCharacters : CharSet :=
  .unions [Unicode.alphabetic, Unicode.inCategories ["M", "Nd", "Pc"],
    Unicode.listed "Join_Control"]

/-- A character that may stand inside a word. -/
def isWordChar (c : Char) : Bool :=
  if c.toNat < 0x80 then c.isAlphanum || c = '_' else wordCharacters.contains c

end SwitchLab.Text
