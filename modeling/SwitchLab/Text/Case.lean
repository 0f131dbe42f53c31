/-!
Text without regard to case, as far as the letters of ASCII go.
-/
namespace SwitchLab.Text

/-- Letters that differ in case alone have one folded form. Two letters outside ASCII fold to one
of ASCII: the long s and the sign of the kelvin. -/
def foldCase (c : Char) : Char :=
  if c.toNat = 0x17F then 's' else if c.toNat = 0x212A then 'k' else c.toLower

end SwitchLab.Text
