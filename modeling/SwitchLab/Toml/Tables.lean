import SwitchLab.Toml.Value
/-!
How the lines of a document make tables: a table may be opened by a header once, a key may be set
once, and a table that was closed in itself may not be extended.
-/
namespace SwitchLab.Toml

/-- How deep arrays and tables may stand in each other, and how many names a key may have. -/
def deepest : Nat := 80

/-- A step from a table to one of its entries, or from an array of tables to one of its tables. -/
inductive Step where
  | key (name : String)
  | item (index : Nat)
  deriving DecidableEq, Repr

abbrev Place := List Step

/-- What stands at a place. -/
inductive Entry where
  | value (v : Toml)
  /-- A table that a header opened. -/
  | table
  /-- A table that is there because of a header for a table inside it. -/
  | passedTable
  /-- A table that is there because of a key with dots. -/
  | dottedTable
  | tables (count : Nat)

structure Tables where
  entries : List (Place × Entry)
  /-- The table that the last header opened. -/
  current : Place

namespace Tables

def empty : Tables := ⟨[], []⟩

def entry? (t : Tables) (p : Place) : Option Entry := t.entries.lookup p

def add (t : Tables) (p : Place) (e : Entry) : Tables := { t with entries := t.entries ++ [(p, e)] }

def change (t : Tables) (p : Place) (e : Entry) : Tables :=
  { t with entries := t.entries.map fun (q, old) => if q = p then (q, e) else (q, old) }

/-- Goes from a place into the tables named by a key; those that are missing are made. Of an array
of tables it is the last one. -/
def descend (dotted : Bool) : Tables → Place → List String → Option (Tables × Place)
  | t, p, [] => some (t, p)
  | t, p, name :: names =>
    let next := p ++ [.key name]
    match t.entry? next with
    | none => descend dotted (t.add next (if dotted then .dottedTable else .passedTable)) next names
    | some (.value _) => none
    | some .table => if dotted then none else descend dotted t next names
    | some .passedTable | some .dottedTable => descend dotted t next names
    | some (.tables count) => descend dotted t (next ++ [.item (count - 1)]) names

/-- The names before the last one, and the last one. -/
def splitLast? (names : List String) : Option (List String × String) :=
  if names.length ≤ deepest then names.getLast?.map fun last => (names.dropLast, last) else none

/-- Opens the table of a header. -/
def openTable (t : Tables) (names : List String) : Option Tables := do
  let (front, last) ← splitLast? names
  let (t, p) ← t.descend false [] front
  let place := p ++ [.key last]
  match t.entry? place with
  | none => return { t.add place .table with current := place }
  | some .passedTable => return { t.change place .table with current := place }
  | some _ => none

/-- Opens a further table of an array of tables. -/
def openItem (t : Tables) (names : List String) : Option Tables := do
  let (front, last) ← splitLast? names
  let (t, p) ← t.descend false [] front
  let place := p ++ [.key last]
  match t.entry? place with
  | none => return { t.add place (.tables 1) with current := place ++ [.item 0] }
  | some (.tables count) =>
    return { t.change place (.tables (count + 1)) with current := place ++ [.item count] }
  | some _ => none

/-- A key with dots extends tables that such keys made, and a key without dots the others. -/
def mixes (t : Tables) (p : Place) (dotted : Bool) : Bool :=
  match t.entry? p with
  | some .dottedTable => !dotted
  | _ => dotted

/-- Sets a key in the current table. -/
def setKey (t : Tables) (names : List String) (v : Toml) : Option Tables := do
  let (front, last) ← splitLast? names
  let (t, p) ← t.descend true t.current front
  let place := p ++ [.key last]
  if t.mixes p (!front.isEmpty) || (t.entry? place).isSome then none
  return t.add place (.value v)

/-- The entries right below a place. -/
def below (t : Tables) (p : Place) : List (String × Entry) :=
  t.entries.filterMap fun (q, e) =>
    match q.getLast? with
    | some (.key name) => if q.dropLast = p then some (name, e) else none
    | _ => none

/-- The table at a place, with all that is in it. -/
def tableAt (t : Tables) : (depth : Nat) → Place → List (String × Toml)
  | 0, _ => []
  | depth + 1, p =>
    (t.below p).map fun (name, e) =>
      let place := p ++ [.key name]
      match e with
      | .value v => (name, v)
      | .table | .passedTable | .dottedTable => (name, .table (t.tableAt depth place))
      | .tables count =>
        (name, .array ((List.range count).map fun i =>
          .table (t.tableAt depth (place ++ [.item i]))))

def toTable (t : Tables) : List (String × Toml) := t.tableAt (t.entries.length + 1) []

end Tables

end SwitchLab.Toml
