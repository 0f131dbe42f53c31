import SwitchLab.Toml.DateTime
/-!
The values of TOML documents.
-/
namespace SwitchLab

open Toml in
inductive Toml where
  | string (s : String)
  | integer (n : Int)
  | float (text : String)
  | boolean (b : Bool)
  | datetime (d : DateTime)
  | array (items : List Toml)
  | table (entries : List (String × Toml))
  deriving Repr

namespace Toml

/-- The value of a key in a table. -/
def find? (key : String) (entries : List (String × Toml)) : Option Toml := entries.lookup key

end Toml

end SwitchLab
