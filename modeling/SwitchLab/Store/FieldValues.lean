import SwitchLab.Fault
import SwitchLab.Shown
/-!
The content of a record: fields with their values, in the order in which the fields came.
-/
namespace SwitchLab

structure FieldValues where
  pairs : List (String × String)
  deriving DecidableEq, Repr

namespace FieldValues

def empty : FieldValues := ⟨[]⟩

instance : Inhabited FieldValues := ⟨empty⟩

def isEmpty (f : FieldValues) : Bool := f.pairs.isEmpty

def size (f : FieldValues) : Nat := f.pairs.length

def lookup (field : String) : List (String × String) → Option String
  | [] => none
  | (f, v) :: rest => if f = field then some v else lookup field rest

def get? (f : FieldValues) (field : String) : Option String := lookup field f.pairs

/-- The first pair of `field` gets the value; without one a pair is appended. -/
def insertPair (field value : String) : List (String × String) → List (String × String)
  | [] => [(field, value)]
  | (f, v) :: rest =>
    if f = field then (field, value) :: rest else (f, v) :: insertPair field value rest

/-- A new field goes to the end, a known one keeps its place. -/
def insert (f : FieldValues) (field value : String) : FieldValues :=
  ⟨insertPair field value f.pairs⟩

def erasePair (field : String) : List (String × String) → List (String × String)
  | [] => []
  | (f, v) :: rest => if f = field then rest else (f, v) :: erasePair field rest

def erase (f : FieldValues) (field : String) : FieldValues := ⟨erasePair field f.pairs⟩

def insertAll (f : FieldValues) (pairs : List (String × String)) : FieldValues :=
  pairs.foldl (fun f (field, value) => f.insert field value) f

/-- `g` on top of `f`. -/
def merge (f g : FieldValues) : FieldValues := f.insertAll g.pairs

def ofPairs (pairs : List (String × String)) : FieldValues := empty.insertAll pairs

/-- Every pair of `expected` is here. -/
def containsAll (f expected : FieldValues) : Bool :=
  expected.pairs.all fun (field, value) => f.get? field = some value

/-- The same pairs in any order. -/
def samePairs (f g : FieldValues) : Bool := f.size = g.size && f.containsAll g

/-- The value of a field that the record `key` cannot do without. -/
def require (f : FieldValues) (key field : String) : Except Fault String :=
  match f.get? field with
  | some value => .ok value
  | none => .error (.store s!"{key}: missing field {field}")

instance : Shown FieldValues := ⟨fun f => "FieldValues(" ++ shown f.pairs ++ ")"⟩

end FieldValues

end SwitchLab
