import SwitchLab.Fault
import SwitchLab.Text.Blank
/-!
Files and directories in memory.
-/
namespace SwitchLab

inductive FileNode where
  | directory
  | file (text : String)
  deriving DecidableEq, Repr

/-- Nodes by the names on the way from the root, which is always there. -/
structure Files where
  nodes : List (List String × FileNode)
  deriving DecidableEq, Repr

namespace Files

def empty : Files := ⟨[]⟩

def missing : Fault := .io "No such file or directory (os error 2)"
def alreadyThere : Fault := .io "File exists (os error 17)"
def noDirectory : Fault := .io "Not a directory (os error 20)"
def isDirectory : Fault := .io "Is a directory (os error 21)"
def nameTooLong : Fault := .io "File name too long (os error 36)"
def nulInName : Fault := .io "file name contained an unexpected NUL byte"

/-- The names in a path. A slash at its end leaves an empty name there. -/
def namesOf (path : String) : List String :=
  let parts := (Text.splitAtEach '/' path.toList).map String.ofList
  let names := parts.filter fun name => !name.isEmpty
  if path.toList.getLast? = some '/' && !names.isEmpty then names ++ [""] else names

/-- The fault of a path that no file system takes. -/
def pathFault? (path : String) : Option Fault :=
  if path.toList.contains '\x00' then some nulInName
  else if path.isEmpty then some missing
  else if 4096 ≤ path.utf8ByteSize then some nameTooLong
  else none

/-- A name has at most 255 bytes. -/
def isTooLong (name : String) : Bool := 255 < name.utf8ByteSize

def node? (f : Files) (names : List String) : Option FileNode :=
  if names.isEmpty then some .directory else f.nodes.lookup names

/-- Follows names from a directory on. -/
def walk (f : Files) : (here : List String) → List String → Except Fault (List String × FileNode)
  | here, [] =>
    match f.node? here with
    | some node => .ok (here, node)
    | none => .error missing
  | here, name :: names =>
    match f.node? here with
    | none => .error missing
    | some (.file _) => .error noDirectory
    | some .directory =>
      if name = "" || name = "." then f.walk here names
      else if name = ".." then f.walk here.dropLast names
      else if isTooLong name then .error nameTooLong
      else f.walk (here ++ [name]) names

def find (f : Files) (path : String) : Except Fault (List String × FileNode) :=
  match pathFault? path with
  | some fault => .error fault
  | none => f.walk [] (namesOf path)

def pathExists (f : Files) (path : String) : Bool := (f.find path).toOption.isSome

def put (f : Files) (names : List String) (node : FileNode) : Files :=
  ⟨(f.nodes.filter (·.1 ≠ names)) ++ [(names, node)]⟩

def read (f : Files) (path : String) : Except Fault String :=
  match f.find path with
  | .ok (_, .file text) => .ok text
  | .ok (_, .directory) => .error isDirectory
  | .error fault => .error fault

/-- The directory that the last of the names is to stand in, and the last name. -/
def parentOf (f : Files) (names : List String) : Except Fault (List String × String) :=
  match f.walk [] names.dropLast with
  | .error fault => .error fault
  | .ok (_, .file _) => .error noDirectory
  | .ok (here, .directory) =>
    let name := names.getLast?.getD ""
    if isTooLong name then .error nameTooLong else .ok (here, name)

def isUnnamed (name : String) : Bool := ["", ".", ".."].contains name

/-- Makes one directory, in one that is there. -/
def makeOne (f : Files) (names : List String) : Except Fault Files := do
  let (here, name) ← f.parentOf names
  if isUnnamed name || (f.node? (here ++ [name])).isSome then throw alreadyThere
  return f.put (here ++ [name]) .directory

/-- A directory that is there already is as good as a new one. -/
def makeOneIfMissing (f : Files) (names : List String) : Except Fault Files :=
  match f.makeOne names with
  | .ok g => .ok g
  | .error fault =>
    match f.walk [] names with
    | .ok (_, .directory) => if fault = alreadyThere then .ok f else .error fault
    | _ => .error fault

/-- The names without the last one; points at the end do not count. -/
def upwards (names : List String) : List String :=
  let trim (names : List String) := names.dropWhile (· = ".")
  (trim (trim names.reverse).tail).reverse

/-- Makes a directory and those on the way to it; also how far that came before it failed. -/
def makeAll (f : Files) : (depth : Nat) → (names : List String) → Except Fault Unit × Files
  | 0, _ => (.ok (), f)
  | depth + 1, names =>
    match f.makeOneIfMissing names with
    | .ok g => (.ok (), g)
    | .error fault =>
      if fault ≠ missing then (.error fault, f)
      else
        match f.makeAll depth (upwards names) with
        | (.error fault, g) => (.error fault, g)
        | (.ok _, g) =>
          match g.makeOneIfMissing names with
          | .ok g => (.ok (), g)
          | .error fault => (.error fault, g)

def makeDirectoryAt (f : Files) (names : List String) : Except Fault Unit × Files :=
  let names := if names.getLast? = some "" then names.dropLast else names
  f.makeAll (names.length + 1) names

/-- Nothing has to be made for an empty path. -/
def makeDirectory (f : Files) (path : String) : Except Fault Unit × Files :=
  if path.isEmpty then (.ok (), f)
  else
    match pathFault? path with
    | some fault => (.error fault, f)
    | none => f.makeDirectoryAt (namesOf path)

/-- Writes a file into a directory that is there. -/
def writeAt (f : Files) (names : List String) (text : String) : Except Fault Files := do
  let (here, name) ← f.parentOf names
  if isUnnamed name || f.node? (here ++ [name]) = some .directory then throw isDirectory
  return f.put (here ++ [name]) (.file text)

def write (f : Files) (path text : String) : Except Fault Files :=
  match pathFault? path with
  | some fault => .error fault
  | none => f.writeAt (namesOf path) text

/-- Writes a file, and makes the directories on the way to it, as far as that can be done. -/
def place (f : Files) (path text : String) : Files :=
  match f.makeDirectoryAt (namesOf path).dropLast with
  | (.ok _, g) => (g.write path text).toOption.getD g
  | (.error _, g) => g

end Files

end SwitchLab
