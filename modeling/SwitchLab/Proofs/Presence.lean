import SwitchLab.Proofs.Rounds

/-! Waits for something to be there. A read that fails passes for one that shows
nothing, and nothing is never what such a wait is for, so it goes on; the first
read that succeeds and shows what was waited for ends the wait and is its
value. -/

namespace SwitchLab

variable {h : Handle} {cfg : Polling} {l l' : Ledger} {t : Trace Host}

inductive PresenceWait where
  | keys (table : String) (n : Nat)
  /-- Keys that are not in the baseline. -/
  | newKeys (names : AsicNames) (table : String) (n : Nat)
  | entry (table key : String)
  | fields (table key : String) (expected : FieldValues)
  | exactly (table key : String) (expected : FieldValues)

namespace PresenceWait

/-- What is read in a round. -/
def Value : PresenceWait → Type
  | keys .. | newKeys .. => List String
  | entry .. | fields .. | exactly .. => FieldValues

instance : (w : PresenceWait) → Shown w.Value
  | keys .. | newKeys .. => inferInstanceAs (Shown (List String))
  | entry .. | fields .. | exactly .. => inferInstanceAs (Shown FieldValues)

/-- What a read shows that fails. -/
def nothing : (w : PresenceWait) → w.Value
  | keys .. | newKeys .. => ([] : List String)
  | entry .. | fields .. | exactly .. => FieldValues.empty

def read (h : Handle) : (w : PresenceWait) → Attempt w.Value
  | keys table _ => h.getKeys table
  | newKeys names table _ => (AsicDb.mk h names).newKeys table
  | entry table key | fields table key _ | exactly table key _ => h.getEntry table key

def meets : (w : PresenceWait) → w.Value → Bool
  | keys _ n, (found : List String) | newKeys _ _ n, (found : List String) => found.length = n
  | entry .., (found : FieldValues) => !found.isEmpty
  | fields _ _ expected, (found : FieldValues) => !found.isEmpty && found.containsAll expected
  | exactly _ _ expected, (found : FieldValues) => found.samePairs expected

def what (h : Handle) : PresenceWait → String
  | keys table n => s!"{n} keys in {h.store.name}:{table}"
  | newKeys _ table n => s!"{n} new objects in {table}"
  | entry table key => s!"entry {h.tableKey table key}"
  | fields table key expected => s!"fields {shown expected} in {h.tableKey table key}"
  | exactly table key expected => s!"exact {shown expected} in {h.tableKey table key}"

def wait (h : Handle) (cfg : Polling) : (w : PresenceWait) → Attempt w.Value
  | keys table n => h.waitForKeys table n cfg
  | newKeys names table n => (AsicDb.mk h names).waitForNewKeys table n cfg
  | entry table key => h.waitForEntry table key cfg
  | fields table key expected => h.waitForMatch table key expected cfg
  | exactly table key expected => h.waitForExactMatch table key expected cfg

/-- Nothing is not what the wait is for. -/
def ForSomething : PresenceWait → Prop
  | keys _ n | newKeys _ _ n => 1 ≤ n
  | entry .. | fields .. => True
  | exactly _ _ expected => expected.isEmpty = false

variable {w : PresenceWait}

theorem meets_nothing (hw : w.ForSomething) : w.meets w.nothing = false := by
  cases w with
  | keys table n | newKeys names table n =>
    have hn : 1 ≤ n := hw
    have hne : ([] : List String).length ≠ n := by
      rw [List.length_nil]
      omega
    exact decide_eq_false hne
  | entry table key => rfl
  | fields table key expected => rfl
  | exactly table key expected =>
    obtain ⟨pairs⟩ := expected
    cases pairs with
    | nil => cases hw
    | cons p pairs =>
      simp [meets, nothing, FieldValues.samePairs, FieldValues.size, FieldValues.empty]

/-! ## A wait as a poll of its read -/

/-- What a round shows. -/
def seen (w : PresenceWait) (x : Except Fault w.Value) : w.Value := x.toOption.getD w.nothing

theorem wait_eq : w.wait h cfg = Handle.lastSeen (w.what h) cfg
    ((w.read h).outcome >>= fun x => pure (w.meets (w.seen x), w.seen x)) := by
  cases w with
  | newKeys names table n => rfl
  | keys table n =>
    show h.waitForKeys table n cfg = _
    rw [Handle.waitForKeys, Handle.observeKeys]
    simp only [bind_assoc, pure_bind]
    rfl
  | entry table key =>
    show h.waitForEntry table key cfg = _
    rw [Handle.waitForEntry, Handle.observeEntry]
    simp only [bind_assoc, pure_bind]
    rfl
  | fields table key expected =>
    show h.waitForMatch table key expected cfg = _
    rw [Handle.waitForMatch, Handle.observeEntry]
    simp only [bind_assoc, pure_bind]
    rfl
  | exactly table key expected =>
    show h.waitForExactMatch table key expected cfg = _
    rw [Handle.waitForExactMatch, Handle.observeEntry]
    simp only [bind_assoc, pure_bind]
    rfl

/-- The read succeeded and shows what the wait is for. -/
def Satisfied (w : PresenceWait) (x : Except Fault w.Value) : Prop :=
  ∃ value, x = .ok value ∧ w.meets value = true

theorem meets_seen_iff (hw : w.ForSomething) {x : Except Fault w.Value} :
    w.meets (w.seen x) = true ↔ w.Satisfied x := by
  cases x with
  | ok value =>
    constructor
    · intro hm
      exact ⟨value, rfl, hm⟩
    · rintro ⟨value', hx, hm⟩
      cases hx
      exact hm
  | error e =>
    have hnone : w.meets (w.seen (.error e)) = false := meets_nothing hw
    constructor
    · intro hm
      rw [hnone] at hm
      cases hm
    · rintro ⟨_, hx, -⟩
      cases hx

/-- How the round ends a wait that is its last, with the read `x`: well if it shows what the wait
is for, and then nothing more is asked. -/
def EndsWith (w : PresenceWait) (h : Handle) (cfg : Polling) (start : Duration) (last : Prop)
    (x : Except Fault w.Value) (t : Trace Host) (r : Except Fault w.Value) : Prop :=
  (∃ value, x = .ok value ∧ w.meets value = true ∧ t = [] ∧ r = .ok value) ∨
  (¬ w.Satisfied x ∧ ∃ now : Duration, t = [⟨.now, now⟩] ∧
    (last ∨ cfg.expired (now - start) = true) ∧
    r = if cfg.strict then .error (.pollTimeout (w.what h) (now - start) (shown (w.seen x)))
      else .ok (w.seen x))

theorem concludes_iff_endsWith (hw : w.ForSomething) {start : Duration} {last : Prop}
    {x r : Except Fault w.Value} :
    Concludes (w.what h) cfg start last (w.meets (w.seen x), w.seen x) t r ↔
      w.EndsWith h cfg start last x t r := by
  have hfalse : w.meets (w.seen x) = false ↔ ¬ w.Satisfied x := by
    rw [← meets_seen_iff hw, Bool.not_eq_true]
  constructor
  · rintro (⟨hm, rfl, rfl⟩ | ⟨hm, hend⟩)
    · obtain ⟨value, rfl, hv⟩ := (meets_seen_iff hw).mp hm
      exact .inl ⟨value, rfl, hv, rfl, rfl⟩
    · exact .inr ⟨hfalse.mp hm, hend⟩
  · rintro (⟨value, rfl, hv, rfl, rfl⟩ | ⟨hx, hend⟩)
    · exact .inl ⟨hv, rfl, rfl⟩
    · exact .inr ⟨hfalse.mpr hx, hend⟩

/-- A wait with a cap on its rounds has a result in all surroundings: what the first read shows that
succeeds and has what the wait is for, and nothing is read after it. If no round that is allowed
has one, the last is told of as far as it could be read. -/
theorem ends_with_first_satisfied {cap : Nat} (hcap : cfg.maxAttempts = some cap)
    (hw : w.ForSomething) (h : Handle) (l : Ledger) :
    (∀ (σ : Type) (answer : (q : Query) → σ → q.Reply × σ) (s : σ), ∃ t,
      Attempt.Runs (w.wait h cfg) l t ((w.wait h cfg).resultIn answer s l).1
        ((w.wait h cfg).resultIn answer s l).2) ∧
    ∀ t r l', Attempt.Runs (w.wait h cfg) l t r l' ↔
      ∃ start rounds u v rest x l₁, t = ⟨.now, start⟩ :: (u ++ (v ++ rest)) ∧
        rounds.length < max 1 cap ∧
        WaitedRounds cfg start (w.read h).outcome rounds l u l₁ ∧
        (∀ y ∈ rounds, ¬ w.Satisfied y.1 ∧ cfg.expired y.2 = false) ∧
        Attempt.Runs (w.read h) l₁ v x l' ∧
        w.EndsWith h cfg start (rounds.length + 1 = max 1 cap) x rest r := by
  refine ⟨fun σ answer s => Attempt.exists_runs_resultIn _ l answer s, fun t r l' => ?_⟩
  have hmore : cfg.moreRounds + 1 = max 1 cap := by
    rw [Polling.moreRounds, hcap, Option.getD_some]
    omega
  have hlast {n : Nat} : n = cfg.moreRounds ↔ n + 1 = max 1 cap := by omega
  have hidle {rounds : List (Except Fault w.Value × Duration)} :
      Idle cfg (fun x => (w.meets (w.seen x), w.seen x)) rounds ↔
        ∀ y ∈ rounds, ¬ w.Satisfied y.1 ∧ cfg.expired y.2 = false := by
    simp only [Idle, ← meets_seen_iff hw, Bool.not_eq_true]
  rw [wait_eq, runs_lastSeen_iff]
  simp only [hidle, hlast, Attempt.runs_outcome_iff]
  constructor
  · rintro ⟨start, rounds, u, v, rest, x, l₁, hle, rfl, hrounds, hy, hv, hend⟩
    exact ⟨start, rounds, u, v, rest, x, l₁, rfl, by omega, hrounds, hy, hv,
      (concludes_iff_endsWith hw).mp hend⟩
  · rintro ⟨start, rounds, u, v, rest, x, l₁, rfl, hlt, hrounds, hy, hv, hend⟩
    exact ⟨start, rounds, u, v, rest, x, l₁, by omega, rfl, hrounds, hy, hv,
      (concludes_iff_endsWith hw).mpr hend⟩

/-! Two ports, the second of which comes up late; the first listing fails. -/

def config : Handle := ⟨⟨"redis.sock", .config⟩, 0⟩

def threeRounds : Polling := ⟨.ofMillis 1, some (.ofSecs 5), true, some 3⟩

def twoPorts : PresenceWait := .keys "PORT" 2

def listing (r : Except Fault (List String)) : Exchange Host := config.db.listed "PORT" r

def bothLater : Trace Host :=
  [⟨.now, .zero⟩, listing (.error (.store "connection lost")), ⟨.now, .ofSecs 1⟩,
    ⟨.pause (.ofMillis 1), ()⟩, listing (.ok ["PORT|Ethernet0"]), ⟨.now, .ofSecs 2⟩,
    ⟨.pause (.ofMillis 1), ()⟩, listing (.ok ["PORT|Ethernet4", "PORT|Ethernet0"])]

theorem bothLater_first : threeRounds.maxAttempts = some 3 ∧ twoPorts.ForSomething ∧
    Attempt.Runs (twoPorts.wait config threeRounds) .empty bothLater
      (.ok ["Ethernet0", "Ethernet4"]) .empty ∧
    ∃ start rounds u v rest x l₁, bothLater = ⟨.now, start⟩ :: (u ++ (v ++ rest)) ∧
      rounds.length < max 1 3 ∧
      WaitedRounds threeRounds start (twoPorts.read config).outcome rounds .empty u l₁ ∧
      (∀ y ∈ rounds, ¬ twoPorts.Satisfied y.1 ∧ threeRounds.expired y.2 = false) ∧
      Attempt.Runs (twoPorts.read config) l₁ v x .empty ∧
      twoPorts.EndsWith config threeRounds start (rounds.length + 1 = max 1 3) x rest
        (.ok ["Ethernet0", "Ethernet4"]) := by
  have hw : twoPorts.ForSomething := Nat.le_succ 1
  have hr : Attempt.Runs (config.waitForKeys "PORT" 2 threeRounds) .empty bothLater
      (.ok ["Ethernet0", "Ethernet4"]) .empty := Dialogue.runs_of_replay (by decide +kernel)
  exact ⟨rfl, hw, hr, ((ends_with_first_satisfied rfl hw config .empty).2 _ _ _).mp hr⟩

end PresenceWait

end SwitchLab
