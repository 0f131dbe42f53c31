import SwitchLab.Command
import SwitchLab.Dialogue
import SwitchLab.Store.FieldValues
import SwitchLab.Store.Name
import SwitchLab.Store.Notification
/-!
The surroundings of a test bench: commands and processes, a clock, files, and the databases of
the switches.
-/
namespace SwitchLab

inductive Query where
  /-- Runs a command to its end. -/
  | run (c : Command)
  /-- Starts a command and leaves it running. -/
  | spawn (c : Command)
  /-- Ends a process that `spawn` started. -/
  | kill (pid : Nat)
  | now
  | pause (d : Duration)
  | pathExists (path : String)
  | readFile (path : String)
  | makeDirectory (path : String)
  | writeFile (path text : String)
  | connect (db : Database)
  /-- The raw keys that match a pattern. -/
  | keys (db : Database) (pattern : String)
  /-- The record of a raw key, empty if there is none. -/
  | fetch (db : Database) (key : String)
  /-- Merges fields into the record of a raw key. -/
  | merge (db : Database) (key : String) (fields : FieldValues)
  | dropFields (db : Database) (key : String) (fields : List String)
  | dropKey (db : Database) (key : String)
  | subscribe (db : Database) (pattern : String)

def Query.Reply : Query → Type
  | run _ => Except Fault Output
  | spawn _ => Except Fault Nat
  | kill _ => Except Fault Unit
  | now => Duration
  | pause _ => Unit
  | pathExists _ => Bool
  | readFile _ => Except Fault String
  | makeDirectory _ => Except Fault Unit
  | writeFile _ _ => Except Fault Unit
  | connect _ => Except Fault Unit
  | keys _ _ => Except Fault (List String)
  | fetch _ _ => Except Fault FieldValues
  | merge _ _ _ => Except Fault Unit
  | dropFields _ _ _ => Except Fault Unit
  | dropKey _ _ => Except Fault Unit
  | subscribe _ _ => Except Fault Feed

abbrev Host : Interface := ⟨Query, Query.Reply⟩

end SwitchLab
