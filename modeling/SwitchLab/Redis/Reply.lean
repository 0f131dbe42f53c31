import SwitchLab.Store.Notification
import SwitchLab.Text.Binary64
/-!
What the server of a switch's databases answers, and how an answer becomes a value.
-/
namespace SwitchLab.Redis

abbrev Bytes := List UInt8

inductive Reply where
  | nil
  | integer (n : Int)
  | double (d : Binary64)
  /-- Bytes of any kind. -/
  | bulk (bytes : Bytes)
  /-- A line of text. -/
  | simple (text : String)
  /-- Text that says how it is written. -/
  | verbatim (text : String)
  | failure (text : String)
  | array (items : List Reply)
  /-- Keys and values by turns. -/
  | map (items : List Reply)
  /-- A reply with notes on it, again keys and values by turns. -/
  | annotated (notes : List Reply) (r : Reply)
  /-- Something that came without being asked for. -/
  | push (kind : String) (items : List Reply)
  /-- A reply of a kind that no value here is made of. -/
  | other

/-- The text of bytes that are well-formed UTF-8. -/
def textOf? (bytes : Bytes) : Option String := String.fromUTF8? ⟨bytes.toArray⟩

def broken : Fault := .store "response was of incompatible type"

namespace Reply

/-- There is a failure in the reply, however deep. -/
def isFailure : Reply → Bool
  | failure _ => true
  | array items => anyFailure items
  | map items => anyFailure items
  | annotated notes r => anyFailure notes || r.isFailure
  | push _ items => anyFailure items
  | _ => false
where
  anyFailure : List Reply → Bool
    | [] => false
    | r :: rest => r.isFailure || anyFailure rest

/-- The reply without the notes on it. -/
def bare : Reply → Reply
  | annotated _ r => r
  | r => r

/-- Lines and numbers are texts, too. -/
def toText (r : Reply) : Except Fault String :=
  match r.bare with
  | bulk bytes =>
    match textOf? bytes with
    | some text => .ok text
    | none => .error (.store "invalid UTF-8")
  | simple text => .ok text
  | verbatim text => .ok text
  | double d => .ok d.text
  | integer n => .ok (toString n)
  | _ => .error broken

/-- A missing list and a map of nothing are empty lists, and bytes by themselves are a list of one
text. -/
def toTexts : Reply → Except Fault (List String)
  | array items => items.mapM toText
  | bulk bytes => do return [← toText (.bulk bytes)]
  | map [] => .ok []
  | nil => .ok []
  | _ => .error broken

/-- The items of a message. -/
def items? : Reply → Option (List Reply)
  | array items => some items
  | bulk bytes => some [.bulk bytes]
  | _ => none

/-- The name of a channel; one that cannot be read is called by a question mark. -/
def channelName : Reply → String
  | bulk bytes => (textOf? bytes).getD "?"
  | _ => "?"

/-- Channel and payload of a message, by the kind of the message. -/
def messageOf? (kind : String) (items : List Reply) : Option (Reply × Reply) :=
  match kind, items with
  | "message", channel :: payload :: _ => some (channel, payload)
  | "pmessage", _ :: channel :: payload :: _ => some (channel, payload)
  | _, _ => none

/-- Only what comes by itself can be a message of a sharded channel. -/
def pushedMessageOf? (kind : String) (items : List Reply) : Option (Reply × Reply) :=
  messageOf? (if kind = "smessage" then "message" else kind) items

def message? : Reply → Option (Reply × Reply)
  | push kind items => pushedMessageOf? kind items
  | r =>
    match r.items? with
    | some (kind :: items) => kind.toText.toOption.bind (messageOf? · items)
    | _ => none

/-- The notice in a reply; replies that only confirm something have none. -/
def notification (r : Reply) : Except Fault (Option Notification) :=
  match r.message? with
  | none => .ok none
  | some (channel, payload) => do return some ⟨channel.channelName, ← payload.toText⟩

end Reply

end SwitchLab.Redis
