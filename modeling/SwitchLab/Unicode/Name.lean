import SwitchLab.Text.CharSet
/-!
Names of properties of characters, and how freely they may be written.
-/
namespace SwitchLab.Unicode

/-- A set of characters with its names. -/
structure Entry where
  names : List String
  /-- The ranges of the set, written as `CharSet.ofText` reads them. -/
  ranges : String

def isFiller (c : Char) : Bool := c = ' ' || c = '_' || c = '-'

/-- The letters of a name that count: in lower case, without fillers and without what is not
ASCII. -/
def counted (name : List Char) : String :=
  String.ofList ((name.filter fun c => !isFiller c && c.toNat < 0x80).map Char.toLower)

/-- The form in which names are compared. An "is" in front does not count, unless only the letter
c is left: that would be the name of a category. -/
def looseName (name : String) : String :=
  match name.toList with
  | i :: s :: rest =>
    if i.toLower = 'i' && s.toLower = 's' then
      let left := counted rest
      if left = "c" then "isc" else left
    else counted (i :: s :: rest)
  | cs => counted cs

namespace Entry

def set (e : Entry) : CharSet := .ofText e.ranges

/-- The entry has a name that is compared in this form. -/
def isCalled (loose : String) (e : Entry) : Bool := e.names.any (looseName · = loose)

end Entry

def entryNamed? (loose : String) (entries : List Entry) : Option Entry :=
  entries.find? (·.isCalled loose)

/-- Some set out of several, by one of its names. -/
def findSet? (loose : String) (entries : List Entry) : Option CharSet :=
  (entryNamed? loose entries).map Entry.set

/-- A set that is made of others, with its names. -/
structure Derived where
  names : List String
  set : Unit → CharSet

def Derived.find? (loose : String) (sets : List Derived) : Option CharSet :=
  (sets.find? fun d => d.names.any (looseName · = loose)).map fun d => d.set ()

end SwitchLab.Unicode
