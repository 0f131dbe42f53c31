import SwitchLab.Dialogue
import SwitchLab.Redis.Frame
import SwitchLab.Store.FieldValues
import SwitchLab.Store.Name
/-!
The client of one database, in terms of the commands that it sends to the server.
-/
namespace SwitchLab.Redis

/-- A command is sent as a list of texts. The answer may fail to come. -/
def Wire : Interface := ⟨List String, fun _ => Except Fault Reply⟩

abbrev Session := ExceptT Fault (Dialogue Wire)

/-- Sends a command. A failure anywhere in the reply is a failure of the command. -/
def send (command : List String) : Session Reply := do
  let reply ← ExceptT.mk (Dialogue.request (I := Wire) command)
  match reply with
  | .failure text => throw (.store text)
  | reply => if reply.isFailure then throw broken else return reply

/-- Sends a command whose reply says nothing. -/
def order (command : List String) : Session Unit := do
  let _ ← send command

/-- The database with number 0 is there from the start; another has to be selected. -/
def select (s : StoreName) : Session Unit := do
  if s.index ≠ 0 then order ["SELECT", toString s.index]

def keys (pattern : String) : Session (List String) := do
  let reply ← send ["KEYS", pattern]
  ExceptT.mk (pure reply.toTexts)

/-- Fields and values by turns; a field without a value at the end is left out. -/
def pairUp : List String → List (String × String)
  | field :: value :: rest => (field, value) :: pairUp rest
  | _ => []

def fetch (key : String) : Session FieldValues := do
  let reply ← send ["HGETALL", key]
  ExceptT.mk (pure (reply.toTexts.map fun texts => FieldValues.ofPairs (pairUp texts)))

/-- A record needs a field to exist, so no fields at all are written as one without meaning. -/
def mergeArgs (fields : FieldValues) : List String :=
  if fields.isEmpty then ["NULL", "NULL"]
  else fields.pairs.flatMap fun (field, value) => [field, value]

def merge (key : String) (fields : FieldValues) : Session Unit :=
  order ("HSET" :: key :: mergeArgs fields)

/-- There is no command for dropping no fields, and no need of one. -/
def dropFields (key : String) (fields : List String) : Session Unit :=
  if fields.isEmpty then return () else order ("HDEL" :: key :: fields)

def dropKey (key : String) : Session Unit := order ["DEL", key]

/-- Whatever the server answers to a subscription, it is taken as a confirmation. -/
def subscribe (pattern : String) : Session Unit := do
  let _ ← ExceptT.mk (Dialogue.request (I := Wire) ["PSUBSCRIBE", pattern])

end SwitchLab.Redis
