import SwitchLab.Bench.Files
import SwitchLab.Bench.Runner
import SwitchLab.Host
import SwitchLab.Store.Asic
import SwitchLab.Store.Memory
/-!
Surroundings made for a test: a scripted runner, databases in memory, files, and failures on
demand.
-/
namespace SwitchLab

/-- The calls of a database client that can be made to fail. -/
inductive StoreCall where
  | connect
  | keys
  | fetch
  | merge
  | dropFields
  | dropKey
  deriving DecidableEq, Repr

namespace StoreCall

def name : StoreCall → String
  | connect => "connect"
  | keys => "keys"
  | fetch => "hgetall"
  | merge => "hset"
  | dropFields => "hdel"
  | dropKey => "del"

def all : List StoreCall := [connect, keys, fetch, merge, dropFields, dropKey]

def ofName? (name : String) : Option StoreCall := all.find? (·.name = name)

end StoreCall

/-- A change that a database makes by itself. -/
inductive StoreChange where
  | put (key : String) (fields : FieldValues)
  | drop (key : String)
  deriving DecidableEq, Repr

/-- A database, with the changes that are to come at its reads and the failures of its calls. -/
structure StoreBench where
  memory : Memory
  /-- How many reads there were since the changes were set. -/
  reads : Nat
  /-- The number of a read, and the change that comes right before it. -/
  changes : List (Nat × StoreChange)
  /-- How often each call is still to fail. -/
  failures : List (StoreCall × Nat)

namespace StoreBench

def empty : StoreBench := ⟨.empty, 0, [], []⟩

def apply (m : Memory) : StoreChange → Memory
  | .put key fields => m.insert key fields
  | .drop key => m.dropKey key

/-- Counts a read and makes the changes that are due. -/
def beforeRead (b : StoreBench) : StoreBench :=
  let reads := b.reads + 1
  let due := b.changes.filter (·.1 = reads)
  { b with reads, memory := due.foldl (fun m (_, change) => apply m change) b.memory }

/-- A call fails if failures of it are left. -/
def tryCall (b : StoreBench) (call : StoreCall) : Except Fault Unit × StoreBench :=
  match b.failures.lookup call with
  | some (n + 1) =>
    (.error (.store s!"injected {call.name} failure"),
      { b with failures := (call, n) :: b.failures.filter (·.1 ≠ call) })
  | _ => (.ok (), b)

def setFailures (b : StoreBench) (call : StoreCall) (times : Nat) : StoreBench :=
  { b with failures := (call, times) :: b.failures.filter (·.1 ≠ call) }

def setChanges (b : StoreBench) (changes : List (Nat × StoreChange)) : StoreBench :=
  { b with reads := 0, changes }

end StoreBench

structure World where
  runner : ScriptedRunner
  /-- Command lines with one of these in them cannot be launched. -/
  launchFail : List String
  killFail : List Nat
  stores : List (StoreName × StoreBench)
  /-- Nothing listens at any socket. -/
  unreachable : Bool
  connects : Nat
  /-- What the next subscriptions will bring. -/
  feeds : List Feed
  /-- The pattern of the last subscription that was made. -/
  lastPattern : Option String
  files : Files

namespace World

def new : World := ⟨.new, [], [], [], false, 0, [], none, .empty⟩

def store (w : World) (s : StoreName) : StoreBench := (w.stores.lookup s).getD .empty

def setStore (w : World) (s : StoreName) (b : StoreBench) : World :=
  { w with stores := (s, b) :: w.stores.filter (·.1 ≠ s) }

def updateMemory (w : World) (s : StoreName) (change : Memory → Memory) : World :=
  let b := w.store s
  w.setStore s { b with memory := change b.memory }

/-- The default objects of a switch with that many ports, called `Ethernet0`, `Ethernet4` and so
on. -/
def seedPort (m : Memory) (i : Nat) : Memory :=
  let oid := "oid:0x" ++ Text.hex (0x1000000000000 + i + 1)
  let hostIf := "oid:0xd00000000" ++ Text.padZeros 4 (Text.hex (i + 1))
  let m := m.insert s!"{Asic.portTable}:{oid}" (.ofPairs [("SAI_PORT_ATTR_ADMIN_STATE", "false")])
  m.insert s!"{Asic.hostIfTable}:{hostIf}"
    (TableRecord.toFields (⟨hostIf, s!"Ethernet{i * 4}", oid⟩ : HostIf))

def seedAsic (m : Memory) (ports : Nat) : Memory :=
  let m := m.insert s!"{Asic.switchTable}:oid:0x21000000000000"
    (.ofPairs [(Asic.defaultRouterField, "oid:0x3000000000022")])
  let m := m.insert s!"{Asic.virtualRouterTable}:oid:0x3000000000022" (.ofPairs [("NULL", "NULL")])
  (List.range ports).foldl seedPort m

/-- The fault of a command that the world does not launch. -/
def launchFault? (w : World) (c : Command) : Option Fault :=
  if w.launchFail.any (Text.occursIn · c.render) then some (.io s!"cannot launch {c.program}")
  else none

/-- A call on a database, unless it is to fail. -/
def call {α : Type} (w : World) (s : StoreName) (b : StoreBench) (kind : StoreCall)
    (act : Memory → α × Memory) : Except Fault α × World :=
  match b.tryCall kind with
  | (.error fault, b) => (.error fault, w.setStore s b)
  | (.ok _, b) =>
    let (a, memory) := act b.memory
    (.ok a, w.setStore s { b with memory })

def refused (socket : String) : Fault := .store s!"{socket}: connection refused"

def connect (w : World) (db : Database) : Except Fault Unit × World :=
  let w := { w with connects := w.connects + 1 }
  if w.unreachable then (.error (refused db.socket), w)
  else w.call db.store (w.store db.store) .connect fun m => ((), m)

def subscribe (w : World) (db : Database) (pattern : String) : Except Fault Feed × World :=
  if w.unreachable then (.error (refused db.socket), w)
  else (.ok (w.feeds.head?.getD []), { w with feeds := w.feeds.tail, lastPattern := some pattern })

def makeDirectory (w : World) (path : String) : Except Fault Unit × World :=
  let (result, files) := w.files.makeDirectory path
  (result, { w with files })

def writeFile (w : World) (path text : String) : Except Fault Unit × World :=
  match w.files.write path text with
  | .ok files => (.ok (), { w with files })
  | .error fault => (.error fault, w)

/-- The answers of the world. Its clock stands still. -/
def answer : (q : Query) → World → q.Reply × World
  | .run c, w =>
    match w.launchFault? c with
    | some fault => (Except.error fault, w)
    | none =>
      let (output, runner) := w.runner.run c
      (Except.ok output, { w with runner })
  | .spawn c, w =>
    match w.launchFault? c with
    | some fault => (Except.error fault, w)
    | none =>
      let (pid, runner) := w.runner.spawn c
      (Except.ok pid, { w with runner })
  | .kill pid, w =>
    if w.killFail.contains pid then (Except.error (.io s!"cannot kill {pid}"), w)
    else (Except.ok (), { w with runner := w.runner.kill pid })
  | .now, w => (Duration.zero, w)
  | .pause _, w => ((), w)
  | .pathExists path, w => (w.files.pathExists path, w)
  | .readFile path, w => (w.files.read path, w)
  | .makeDirectory path, w => w.makeDirectory path
  | .writeFile path text, w => w.writeFile path text
  | .connect db, w => w.connect db
  | .keys db pattern, w =>
    w.call db.store (w.store db.store).beforeRead .keys fun m => (m.keys pattern, m)
  | .fetch db key, w =>
    w.call db.store (w.store db.store).beforeRead .fetch fun m => (m.fetch key, m)
  | .merge db key fields, w =>
    w.call db.store (w.store db.store) .merge fun m => ((), m.merge key fields)
  | .dropFields db key fields, w =>
    w.call db.store (w.store db.store) .dropFields fun m => ((), m.dropFields key fields)
  | .dropKey db key, w => w.call db.store (w.store db.store) .dropKey fun m => ((), m.dropKey key)
  | .subscribe db pattern, w => w.subscribe db pattern

end World

end SwitchLab
