import SwitchLab.Text.Quoted
import SwitchLab.Text.Search
/-!
The text of a value in a report: texts quoted, lists in square brackets, tuples in round ones.
-/
namespace SwitchLab

class Shown (α : Type) where
  shown : α → String

export Shown (shown)

instance : Shown String := ⟨Text.quoted⟩
instance : Shown Nat := ⟨toString⟩
instance : Shown Bool := ⟨toString⟩
instance : Shown Unit := ⟨fun _ => "()"⟩

instance {α : Type} [Shown α] : Shown (List α) :=
  ⟨fun xs => "[" ++ Text.joinWith ", " (xs.map shown) ++ "]"⟩

instance {α β : Type} [Shown α] [Shown β] : Shown (α × β) :=
  ⟨fun (a, b) => "(" ++ shown a ++ ", " ++ shown b ++ ")"⟩

instance {α : Type} [Shown α] : Shown (Option α) :=
  ⟨fun
    | none => "None"
    | some a => "Some(" ++ shown a ++ ")"⟩

end SwitchLab
