import SwitchLab.Lab
import SwitchLab.Shown
/-!
Waiting with a bound: a probe is repeated until it is done, its rounds are used up or the time is
over.
-/
namespace SwitchLab

structure Polling where
  interval : Duration
  /-- No limit of time if there is none. -/
  timeout : Option Duration
  /-- Whether giving up is a fault. -/
  strict : Bool
  maxAttempts : Option Nat
  deriving DecidableEq, Repr

namespace Polling

def every (interval timeout : Duration) (strict : Bool) : Polling :=
  ⟨interval, some timeout, strict, none⟩

/-- Bounded by the number of rounds alone. -/
def attempts (count : Nat) (interval : Duration) : Polling :=
  ⟨interval, none, false, some (max count 1)⟩

def withTimeout (cfg : Polling) (timeout : Duration) : Polling :=
  { cfg with timeout := some timeout }

def withStrict (cfg : Polling) (strict : Bool) : Polling := { cfg with strict }

def withMaxAttempts (cfg : Polling) (count : Nat) : Polling :=
  { cfg with maxAttempts := some (max count 1) }

/-- How many rounds may follow the first. Rounds are counted in 32 bits. -/
def moreRounds (cfg : Polling) : Nat := cfg.maxAttempts.getD (Text.wordSize 32 - 1) - 1

def expired (cfg : Polling) (elapsed : Duration) : Bool :=
  match cfg.timeout with
  | some timeout => timeout ≤ elapsed
  | none => false

/-- Never sleeps past the end of the time by more than a millisecond. -/
def sleepAfter (cfg : Polling) (elapsed : Duration) : Duration :=
  match cfg.timeout with
  | some timeout => min cfg.interval (max (timeout - elapsed) (.ofMillis 1))
  | none => cfg.interval

def giveUp {α : Type} [Shown α] (cfg : Polling) (what : String) (elapsed : Duration) (value : α) :
    Except Fault (Bool × α) :=
  if cfg.strict then .error (.pollTimeout what elapsed (shown value)) else .ok (false, value)

end Polling

section Poll

variable {m : Type → Type} [Monad m] [MonadLiftT (Dialogue Host) m]

def clock : m Duration := liftM (n := m) (Dialogue.request (I := Host) .now)

def pause (d : Duration) : m Unit := liftM (n := m) (Dialogue.request (I := Host) (.pause d))

/-- Rounds of a poll that began at `start`, one and at most `more` after it. -/
def pollRounds {α : Type} [Shown α] (what : String) (cfg : Polling) (start : Duration)
    (probe : m (Bool × α)) : (more : Nat) → m (Except Fault (Bool × α))
  | 0 => do
    let (done, value) ← probe
    if done then return .ok (true, value)
    return cfg.giveUp what ((← clock) - start) value
  | more + 1 => do
    let (done, value) ← probe
    if done then return .ok (true, value)
    let elapsed := (← clock) - start
    if cfg.expired elapsed then return cfg.giveUp what elapsed value
    pause (cfg.sleepAfter elapsed)
    pollRounds what cfg start probe more

/-- Whether the probe got done, and the value that it saw last. -/
def poll {α : Type} [Shown α] (what : String) (cfg : Polling) (probe : m (Bool × α)) :
    m (Except Fault (Bool × α)) := do
  pollRounds what cfg (← clock) probe cfg.moreRounds

/-- A poll of a probe that has no value. -/
def pollCondition (what : String) (cfg : Polling) (probe : m Bool) : m (Except Fault Bool) := do
  let result ← poll what cfg do return (← probe, ())
  return result.map Prod.fst

end Poll

end SwitchLab
