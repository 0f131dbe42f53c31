import SwitchLab.Unicode.Age
import SwitchLab.Unicode.Break
import SwitchLab.Unicode.ScriptExtension
/-!
Properties of characters by their names.
-/
namespace SwitchLab.Unicode

/-- The characters with a property: one that a character has or has not, a category or a script. -/
def property? (name : String) : Option CharSet :=
  let loose := looseName name
  (findBinary? loose).or ((findCategory? loose).or (findScript? loose))

/-- The characters for which a property has a value. -/
def propertyValue? (name value : String) : Option CharSet :=
  let loose := looseName value
  match looseName name with
  | "gc" | "generalcategory" => findCategory? loose
  | "sc" | "script" => findScript? loose
  | "scx" | "scriptextensions" => findScriptExtension? loose
  | "age" => findAge? loose
  | "gcb" | "graphemeclusterbreak" => findGraphemeBreak? loose
  | "wb" | "wordbreak" => findWordBreak? loose
  | "sb" | "sentencebreak" => findSentenceBreak? loose
  | _ => none

end SwitchLab.Unicode
