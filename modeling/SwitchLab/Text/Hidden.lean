import SwitchLab.Unicode.Derived
import SwitchLab.Unicode.Later
/-!
Characters that a reader cannot see by themselves: controls, formats, separators other than the
space, unassigned code points, marks that extend the character before them, and characters without
a form.
-/
namespace SwitchLab.Text

/-- The voiced marks of halfwidth katakana extend what is before them, but can be seen. -/
def hiddenCharacters : CharSet :=
  (CharSet.unions [Unicode.inCategories ["C", "Z"], Unicode.unassigned, Unicode.graphemeExtend,
    Unicode.defaultIgnorable]).diff
      (.unions [.range 0x20 0x20, .range 0xFF9E 0xFF9F, Unicode.laterVisible])

def isHidden (c : Char) : Bool :=
  if c.toNat < 0x80 then c.toNat < 0x20 || c.toNat = 0x7F else hiddenCharacters.contains c

end SwitchLab.Text
