/-!
Names for the veth pairs of a topology.
-/
namespace SwitchLab.Veth

/-- The number of the link, its side and the end of the pair. -/
def suffix (link : Nat) (side : Char) (tip : Nat) : String :=
  toString link ++ side.toString ++ toString tip

/-- As much of `stem` as fits before the suffix into the name of an interface. -/
def name (stem : String) (link : Nat) (side : Char) (tip : Nat) : String :=
  let suffix := suffix link side tip
  String.ofList (stem.toList.take (15 - suffix.utf8ByteSize)) ++ suffix

/-- What the names of a topology begin with. -/
def stem (topology : String) : String :=
  let chars := (topology.toList.filter Char.isAlphanum).take 8
  if chars.isEmpty then "dvt" else String.ofList chars

end SwitchLab.Veth
