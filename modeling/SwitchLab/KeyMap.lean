/-!
Finite maps with text keys, and finite sets of texts, both listed in ascending order.
-/
namespace SwitchLab

structure KeyMap (β : Type) where
  entries : List (String × β)
  deriving DecidableEq, Repr

namespace KeyMap

variable {β : Type}

def empty : KeyMap β := ⟨[]⟩

def lookup (key : String) : List (String × β) → Option β
  | [] => none
  | (k, v) :: rest => if k = key then some v else lookup key rest

def get? (m : KeyMap β) (key : String) : Option β := lookup key m.entries

def contains (m : KeyMap β) (key : String) : Bool := (m.get? key).isSome

/-- Before the first greater key, or in place of the entry with the same key. -/
def place (key : String) (value : β) : List (String × β) → List (String × β)
  | [] => [(key, value)]
  | (k, v) :: rest =>
    if k = key then (key, value) :: rest
    else if key < k then (key, value) :: (k, v) :: rest
    else (k, v) :: place key value rest

def insert (m : KeyMap β) (key : String) (value : β) : KeyMap β := ⟨place key value m.entries⟩

def erase (m : KeyMap β) (key : String) : KeyMap β := ⟨m.entries.filter (·.1 ≠ key)⟩

def keys (m : KeyMap β) : List String := m.entries.map Prod.fst

def size (m : KeyMap β) : Nat := m.entries.length

/-- Of two pairs with one key the later one counts. -/
def ofPairs (pairs : List (String × β)) : KeyMap β :=
  pairs.foldl (fun m (key, value) => m.insert key value) empty

end KeyMap

/-- Before the first key that is not smaller. -/
def placeKey (key : String) : List String → List String
  | [] => [key]
  | k :: rest => if key ≤ k then key :: k :: rest else k :: placeKey key rest

/-- The keys in ascending order. -/
def sortKeys (keys : List String) : List String := keys.foldr placeKey []

/-- Drops what equals the key before it. -/
def dropRepeats : List String → List String
  | [] => []
  | [k] => [k]
  | k :: l :: rest => if k = l then dropRepeats (l :: rest) else k :: dropRepeats (l :: rest)

/-- The set of the listed keys, ascending. -/
def keySet (keys : List String) : List String := dropRepeats (sortKeys keys)

end SwitchLab
