import SwitchLab.Store.Handle
/-!
Collecting the changes of a table from the notices of a subscription. Nothing says that the
notices are over, so a collection ends when none has come for a whole idle window.
-/
namespace SwitchLab

structure EventCapture where
  feed : Feed
  handle : Handle
  table : String
  ignored : List String
  /-- How long one wait is. -/
  tick : Duration
  /-- Idle time goes on, so every idle window is over at some time. -/
  ticks : .ofMillis 1 ≤ tick

/-- Changed records in the order of their notices, and the keys of deleted ones. -/
structure Events where
  adds : List (String × FieldValues)
  deletes : List String
  deriving DecidableEq, Repr

namespace Events

def empty : Events := ⟨[], []⟩

def add (e : Events) (key : String) (fields : FieldValues) : Events :=
  { e with adds := e.adds ++ [(key, fields)] }

/-- Gives the newest add the fields that its record has now. -/
def refresh (e : Events) (fields : FieldValues) : Events :=
  match e.adds.getLast? with
  | some (key, _) => { e with adds := e.adds.dropLast ++ [(key, fields)] }
  | none => e

def delete (e : Events) (key : String) : Events := { e with deletes := e.deletes ++ [key] }

end Events

namespace EventCapture

/-- Notices of a table's changes, taken from a subscription that is open already. -/
def ofFeed (feed : Feed) (h : Handle) (table : String) : EventCapture :=
  ⟨feed, h, table, [], .ofMillis 100, by decide⟩

/-- The pattern of the channels of a table's keys that begin with `start`. -/
def channelPattern (h : Handle) (table start : String) : String :=
  s!"__keyspace@{h.store.index}__:{h.tableKey table start}*"

/-- Subscribes at `socket` to the changes of keys that begin with `start`. -/
def subscribe (socket : String) (h : Handle) (table start : String) : Attempt EventCapture := do
  let feed ← Database.subscribe ⟨socket, h.store⟩ (channelPattern h table start)
  return ofFeed feed h table

/-- Leaves out changes of these keys. -/
def ignoring (c : EventCapture) (keys : List String) : EventCapture :=
  { c with ignored := c.ignored ++ keys }

/-- Waits so long at a time, a millisecond at least. -/
def withTick (c : EventCapture) (tick : Duration) : EventCapture :=
  { c with tick := max tick (.ofMillis 1), ticks := Nat.le_max_right _ _ }

/-- The key of the table that a notice is about, unless it is left out. -/
def keyOf? (c : EventCapture) (n : Notification) : Option String := do
  let key ← Text.afterStart? (c.handle.tableKey c.table "") (← n.key?)
  if c.ignored.contains key then none else some key

/-- The change that a notice tells, if it is to be reported. -/
def changeOf? (c : EventCapture) (n : Notification) : Option (Change × String) := do
  let key ← c.keyOf? n
  return (← Change.ofTag? n.tag, key)

/-- What has been collected, and the key of the newest add if no other change came after it. -/
structure Progress where
  events : Events
  lastAdd : Option String

/-- Takes one change in. Adds of one key in a row, as they come from a writer that sets field by
field, are one add. -/
def take (c : EventCapture) (p : Progress) : Change × String → Attempt Progress
  | (.add, key) => do
    let fields ← c.handle.getEntry c.table key
    if p.lastAdd = some key then return { p with events := p.events.refresh fields }
    return ⟨p.events.add key fields, some key⟩
  | (.delete, key) => return ⟨p.events.delete key, none⟩

theorem tick_pos (c : EventCapture) : 0 < c.tick.nanos := Nat.lt_of_lt_of_le (by decide) c.ticks

/-- Waits, one tick after the other, until nothing has come for a whole window; nothing has come
for `idle` already. Keeps the rest of the feed also when a read fails. -/
def drain (c : EventCapture) (window : Duration) (feed : Feed) (idle : Duration) (p : Progress) :
    On Feed Events :=
  if window ≤ idle then do
    set feed
    return p.events
  else
    match feed with
    | [] => c.drain window [] (idle + c.tick) p
    | .silent :: feed => c.drain window feed (idle + c.tick) p
    | .failure fault :: feed => do
      set feed
      throw fault
    | .notice n :: feed =>
      match c.changeOf? n with
      | none => c.drain window feed .zero p
      | some change => do
        set feed
        let p ← c.take p change
        c.drain window feed .zero p
termination_by feed.length * (window.nanos + 1) + (window.nanos - idle.nanos)
decreasing_by
  · have pos : 0 < c.tick.nanos := c.tick_pos
    have pending : ¬window.nanos ≤ idle.nanos := ‹_›
    have later : (idle + c.tick).nanos = idle.nanos + c.tick.nanos := rfl
    omega
  -- a tick of the script outweighs a window of silence
  all_goals
    rw [List.length_cons, Nat.succ_mul]
    omega

/-- Collects changes until none has come for a whole idle window. -/
def capture (window : Duration) : On EventCapture Events := do
  let c ← get
  .part feed (fun feed c => { c with feed }) (c.drain window c.feed .zero ⟨.empty, none⟩)

end EventCapture

end SwitchLab
