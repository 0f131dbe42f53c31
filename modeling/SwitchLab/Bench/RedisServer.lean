import SwitchLab.Redis.Client
/-!
A server that answers the commands of its clients with prepared bytes, and the clients'
connections to it.
-/
namespace SwitchLab.Redis

/-- A server with the answers that are left, and the commands that it got. -/
structure Server where
  replies : List Bytes
  log : List (List String)
  /-- No server is there. -/
  down : Bool

/-- The client's end of a connection: bytes that came and were not used yet. -/
structure Connection where
  received : Bytes
  closed : Bool

namespace Connection

def fresh : Connection := ⟨[], false⟩

end Connection

namespace Server

def closedFault : Fault := .store "broken pipe"

/-- Bytes of which each is written as the character with its number. -/
def bytesOf (text : String) : Bytes := text.toList.map fun c => UInt8.ofNat c.toNat

/-- What a command brings: a reply to `SELECT` at once, to others the next prepared bytes. A
server without further bytes closes the connection. -/
def receive (s : Server) (c : Connection) (command : List String) : Server × Connection :=
  let s := { s with log := s.log ++ [command] }
  if command.head? = some "SELECT" then
    (s, { c with received := c.received ++ bytesOf "+OK\r\n" })
  else
    match s.replies with
    | [] => (s, { c with closed := true })
    | bytes :: replies => ({ s with replies }, { c with received := c.received ++ bytes })

/-- The reply that a command takes from the bytes that came. A subscription takes whatever comes
first. -/
def replyTo (command : List String) (received : Bytes) : Parsed Reply :=
  if command.head? = some "PSUBSCRIBE" then parse received
  else nextAnswer (received.length + 1) received

/-- Sends a command and waits for the reply. -/
def answer (command : List String) : Server × Connection → Except Fault Reply × (Server × Connection)
  | (s, c) =>
    if c.closed then (.error closedFault, (s, c))
    else
      let (s, c) := s.receive c command
      match replyTo command c.received with
      | .done reply rest => (.ok reply, (s, { c with received := rest }))
      | .partly => (.error closedFault, (s, c))
      | .malformed => (.error broken, (s, { c with received := [] }))

/-- Runs commands of a client. -/
def run {α : Type} (work : Session α) (s : Server) (c : Connection) :
    Except Fault α × (Server × Connection) :=
  Dialogue.run (I := Wire) answer (ExceptT.run work) (s, c)

/-- Opens a connection to one database. -/
def connect (s : Server) (store : StoreName) : Except Fault Connection × Server :=
  if s.down then (.error (.store "connection refused"), s)
  else
    let (result, (s, c)) := s.run (select store) .fresh
    (result.map fun _ => c, s)

end Server

/-- The next notice within some time. No time is left for a look at what has come if there is
none to wait. -/
def Connection.next (c : Connection) (wait : Duration) :
    Except Fault (Option Notification) × Connection :=
  if wait.nanos = 0 then (.ok none, c)
  else
    let (result, rest) := nextNotice (c.received.length + 1) c.received
    match result with
    | .ok none =>
      if c.closed then (.error Server.closedFault, { c with received := rest })
      else (.ok none, { c with received := rest })
    | result => (result, { c with received := rest })

end SwitchLab.Redis
