import SwitchLab.Fault
import SwitchLab.Text.Search
/-!
Notices of changed keys. The channel of a notice names the database and the key, its tag says
what was done to the key.
-/
namespace SwitchLab

structure Notification where
  channel : String
  tag : String
  deriving DecidableEq, Repr

namespace Notification

/-- The raw key: what follows the first colon of the channel. -/
def key? (n : Notification) : Option String := (Text.splitFirst? ':' n.channel).map Prod.snd

end Notification

/-- What a tag says about the key. -/
inductive Change where
  | add
  | delete
  deriving DecidableEq, Repr

namespace Change

def ofTag? : String → Option Change
  | "hset" | "hmset" | "hsetnx" | "set" => some add
  | "del" | "expired" => some delete
  | _ => none

end Change

/-- What one wait on a subscription brings. -/
inductive Tick where
  | silent
  | notice (n : Notification)
  | failure (fault : Fault)
  deriving DecidableEq, Repr

/-- All that a subscription will bring, wait by wait; after it, silence. -/
abbrev Feed := List Tick

/-- The feed whose wait with number `n`, counted from one, fails besides. -/
def Feed.failingAt (feed : Feed) (fault : Fault) : (n : Nat) → Feed
  | 0 => feed
  | n + 1 =>
    let before := feed.take n
    before ++ List.replicate (n - before.length) .silent
      ++ .failure fault :: feed.drop n

end SwitchLab
