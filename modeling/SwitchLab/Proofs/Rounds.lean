import Mathlib.Data.Nat.Find
import Mathlib.Order.Bounds.Basic
import SwitchLab.Proofs.Serving
import SwitchLab.Proofs.Verification

/-! The rounds of a poll, counted from one: it ends with the first that is done,
that is the last allowed, or after which the time is over. The runs of a wait are
told in rounds too, with what each of them gave. -/

namespace SwitchLab

variable {α β γ : Type}

/-! ## A probe that is called, and a clock that is looked at -/

section Counted

variable {others : (q : Query) → q.Reply} {times : Nat → Duration}
  {calls looks : Nat}

/-- Counts its calls, and the call `k` gives `results k`. -/
def numbered (results : Nat → β) : StateT Nat (Dialogue Host) β :=
  fun calls => pure (results (calls + 1), calls + 1)

/-- The clock shows `times k` after `k` looks at it. What else is asked, `others` answers. -/
def timed (others : (q : Query) → q.Reply) (times : Nat → Duration) :
    (q : Query) → Nat → q.Reply × Nat
  | .now, looks => (times looks, looks + 1)
  | q, looks => (others q, looks)

/-- The work after so many calls of its probe and so many looks at the clock. -/
def play (others : (q : Query) → q.Reply) (times : Nat → Duration)
    (work : StateT Nat (Dialogue Host) β) (calls looks : Nat) : (β × Nat) × Nat :=
  Dialogue.run (I := Host) (timed others times) (work.run calls) looks

theorem play_bind {work : StateT Nat (Dialogue Host) β} {f : β → StateT Nat (Dialogue Host) γ} :
    play others times (work >>= f) calls looks =
      play others times (f (play others times work calls looks).1.1)
        (play others times work calls looks).1.2 (play others times work calls looks).2 :=
  Dialogue.run_bind

theorem play_numbered {results : Nat → β} : play others times (numbered results) calls looks =
    ((results (calls + 1), calls + 1), looks) := rfl

theorem play_clock : play others times clock calls looks =
    ((times looks, calls), looks + 1) := rfl

theorem play_pause {d : Duration} : play others times (pause d) calls looks =
    ((others (.pause d), calls), looks) := rfl

end Counted

/-! ## The round with which a poll ends -/

namespace Polling

variable {cfg : Polling} {d : Duration} {results : Nat → Bool × α} {elapsed : Nat → Duration}
  {k n m : Nat}

/-- A poll goes no further than the round `k`: it is done, or the last that is allowed, or the time
is over after it. -/
def StopsAt (cfg : Polling) (results : Nat → Bool × α) (elapsed : Nat → Duration) (k : Nat) :
    Prop :=
  (results k).1 = true ∨ (∃ cap, cfg.maxAttempts = some cap ∧ cap ≤ k) ∨
    ∃ limit, cfg.timeout = some limit ∧ limit ≤ elapsed k

/-- What a poll gives when it ends with this result of its probe. -/
def outcome [Shown α] (cfg : Polling) (what : String) (elapsed : Duration) (result : Bool × α) :
    Except Fault (Bool × α) :=
  if result.1 = false ∧ cfg.strict = true then
    .error (.pollTimeout what elapsed (shown result.2))
  else .ok result

theorem expired_iff : cfg.expired d = true ↔ ∃ limit, cfg.timeout = some limit ∧ limit ≤ d := by
  rw [expired]
  cases cfg.timeout <;> simp

theorem outcome_done [Shown α] {what : String} {value : α} :
    cfg.outcome what d (true, value) = .ok (true, value) := by
  simp [outcome]

theorem giveUp_eq_outcome [Shown α] {what : String} {value : α} :
    cfg.giveUp what d value = cfg.outcome what d (false, value) := by
  rw [giveUp, outcome]
  cases cfg.strict <;> rfl

/-- A poll whose rounds are limited ends, whatever the clock shows. -/
theorem exists_isLeast_of_cap (hcap : cfg.maxAttempts = some m) :
    ∃ n, IsLeast {k | 1 ≤ k ∧ cfg.StopsAt results elapsed k} n ∧ n ≤ max 1 m := by
  classical
  have last : 1 ≤ max 1 m ∧ cfg.StopsAt results elapsed (max 1 m) :=
    ⟨Nat.le_max_left 1 m, .inr (.inl ⟨m, hcap, Nat.le_max_right 1 m⟩)⟩
  have some : ∃ k, 1 ≤ k ∧ cfg.StopsAt results elapsed k := ⟨_, last⟩
  exact ⟨Nat.find some, ⟨Nat.find_spec some, fun k hk => Nat.find_min' some hk⟩,
    Nat.find_min' some last⟩

end Polling

section Counted

variable [Shown α] {what : String} {cfg : Polling} {results : Nat → Bool × α}
  {others : (q : Query) → q.Reply} {times : Nat → Duration} {n k more : Nat}

/-- How much time has passed at each look at the clock since the first. -/
def sinceStart (times : Nat → Duration) (k : Nat) : Duration := times k - times 0

/-- A round that is done, the last or followed by the end of the time ends the poll. -/
theorem play_pollRounds_stop {start : Duration} (hstop : (results (k + 1)).1 = true ∨ more = 0 ∨
      cfg.expired (times (k + 1) - start) = true) :
    (play others times (pollRounds what cfg start (numbered results) more) k (k + 1)).1 =
      (cfg.outcome what (times (k + 1) - start) (results (k + 1)), k + 1) := by
  cases hr : results (k + 1) with
  | mk done value =>
    cases done with
    | true =>
      rw [Polling.outcome_done]
      cases more <;> rw [pollRounds, play_bind, play_numbered, hr] <;> rfl
    | false =>
      rw [← Polling.giveUp_eq_outcome]
      cases more with
      | zero =>
        rw [pollRounds, play_bind, play_numbered, hr]
        simp only [Bool.false_eq_true, if_false]
        rw [play_bind, play_clock]
        rfl
      | succ more =>
        have hx : cfg.expired (times (k + 1) - start) = true := by simpa [hr] using hstop
        rw [pollRounds, play_bind, play_numbered, hr]
        simp only [Bool.false_eq_true, if_false]
        rw [play_bind, play_clock, if_pos hx]
        rfl

theorem play_pollRounds_next {start : Duration} (hd : (results (k + 1)).1 = false)
    (hx : cfg.expired (times (k + 1) - start) = false) :
    play others times (pollRounds what cfg start (numbered results) (more + 1)) k (k + 1) =
      play others times (pollRounds what cfg start (numbered results) more) (k + 1) (k + 2) := by
  rw [pollRounds, play_bind, play_numbered]
  simp only [hd, Bool.false_eq_true, if_false]
  rw [play_bind, play_clock, if_neg (by simp [hx]), play_bind, play_pause]

/-- The rounds after the first `k`, if the poll ends with the round `n`. The rounds that were made
and those that are left are as many as the limit allows. -/
theorem play_pollRounds (hcap : ∀ m, cfg.maxAttempts = some m → more = m - (k + 1))
    (hkn : k < n) (hmore : n ≤ k + 1 + more) (hn : cfg.StopsAt results (sinceStart times) n)
    (hleast : ∀ j, k < j → j < n → ¬ cfg.StopsAt results (sinceStart times) j) :
    (play others times (pollRounds what cfg (times 0) (numbered results) more) k (k + 1)).1 =
      (cfg.outcome what (sinceStart times n) (results n), n) := by
  induction more generalizing k with
  | zero =>
    obtain rfl : n = k + 1 := by omega
    exact play_pollRounds_stop (.inr (.inl rfl))
  | succ more ih =>
    by_cases hs : cfg.StopsAt results (sinceStart times) (k + 1)
    · obtain rfl : n = k + 1 := by
        by_contra hne
        exact hleast (k + 1) (by omega) (by omega) hs
      rcases hs with hd | ⟨m, hm, hle⟩ | ht
      · exact play_pollRounds_stop (.inl hd)
      · -- the limit allows more rounds
        have hmore : more + 1 = m - (k + 1) := hcap m hm
        omega
      · exact play_pollRounds_stop (.inr (.inr (Polling.expired_iff.mpr ht)))
    · have hd : (results (k + 1)).1 = false := eq_false_of_ne_true fun hd => hs (.inl hd)
      have hx : cfg.expired (times (k + 1) - times 0) = false :=
        eq_false_of_ne_true fun hx => hs (.inr (.inr (Polling.expired_iff.mp hx)))
      have further : k + 1 < n := by
        have hne : n ≠ k + 1 := by
          rintro rfl
          exact hs hn
        omega
      have hcap' : ∀ m, cfg.maxAttempts = some m → more = m - (k + 1 + 1) := by
        intro m hm
        have hmore : more + 1 = m - (k + 1) := hcap m hm
        omega
      rw [play_pollRounds_next hd hx]
      exact ih hcap' further (by omega) fun j hj hjn => hleast j (by omega) hjn

/-- A poll ends with the first round that stops it. Without a limit, rounds are counted in a word
of 32 bits. -/
theorem play_poll (hn : IsLeast {k | 1 ≤ k ∧ cfg.StopsAt results (sinceStart times) k} n)
    (hlt : n < Text.wordSize 32) : (play others times (poll what cfg (numbered results)) 0 0).1 =
      (cfg.outcome what (sinceStart times n) (results n), n) := by
  obtain ⟨⟨hpos, hstop⟩, hleast⟩ := hn
  have allowed : n ≤ 0 + 1 + cfg.moreRounds := by
    rw [Polling.moreRounds]
    cases hcap : cfg.maxAttempts with
    | none =>
      rw [Option.getD_none]
      omega
    | some m =>
      have hle : n ≤ max 1 m :=
        hleast ⟨Nat.le_max_left 1 m, .inr (.inl ⟨m, hcap, Nat.le_max_right 1 m⟩)⟩
      rw [Option.getD_some]
      omega
  rw [poll, play_bind, play_clock]
  refine play_pollRounds ?_ hpos allowed hstop ?_
  · intro m hm
    rw [Polling.moreRounds, hm, Option.getD_some]
  · intro j hj hjn hs
    have hnj : n ≤ j := hleast ⟨hj, hs⟩
    omega

omit [Shown α] in
/-- A poll of a condition takes as many rounds, and gives what a poll gives but for the value. -/
theorem play_pollCondition
    (hn : IsLeast {k | 1 ≤ k ∧ cfg.StopsAt results (sinceStart times) k} n)
    (hlt : n < Text.wordSize 32) :
    (play others times (pollCondition what cfg (numbered fun k => (results k).1)) 0 0).1 =
      ((cfg.outcome what (sinceStart times n) ((results n).1, ())).map Prod.fst, n) := by
  have hprobe : (do return (← numbered fun k => (results k).1, ()) :
      StateT Nat (Dialogue Host) (Bool × Unit)) = numbered fun k => ((results k).1, ()) := rfl
  have hpoll : (play others times (poll what cfg (numbered fun k => ((results k).1, ()))) 0 0).1 =
      (cfg.outcome what (sinceStart times n) ((results n).1, ()), n) := play_poll hn hlt
  rw [pollCondition, hprobe, play_bind, hpoll]
  rfl

end Counted

/-! ## Rounds and what they gave -/

section Given

variable {what : String} {cfg : Polling} {start : Duration} {work : Lab β} {judge : β → Bool × α}
  {l l' : Ledger} {t : Trace Host}

/-- Rounds of the work, with what each gave and the time that had passed then; each is followed by
a wait. -/
inductive WaitedRounds (cfg : Polling) (start : Duration) (work : Lab β) :
    List (β × Duration) → Ledger → Trace Host → Ledger → Prop where
  | none (l : Ledger) : WaitedRounds cfg start work [] l [] l
  | next {rounds : List (β × Duration)} {l l₁ l₂ : Ledger} {u v : Trace Host} {b : β}
    {now : Duration} : Lab.Runs work l u b l₁ → WaitedRounds cfg start work rounds l₁ v l₂ →
    WaitedRounds cfg start work ((b, now - start) :: rounds) l
      (u ++ ⟨.now, now⟩ :: ⟨.pause (cfg.sleepAfter (now - start)), ()⟩ :: v) l₂

/-- No round got done, and after each there was time left. -/
def Idle (cfg : Polling) (judge : β → Bool × α) (rounds : List (β × Duration)) : Prop :=
  ∀ x ∈ rounds, (judge x.1).1 = false ∧ cfg.expired x.2 = false

theorem idleRounds_iff {n : Nat} :
    IdleRounds cfg start (work >>= fun b => pure (judge b)) n l t l' ↔
      ∃ rounds, rounds.length = n ∧ WaitedRounds cfg start work rounds l t l' ∧
        Idle cfg judge rounds := by
  constructor
  · intro h
    induction h with
    | none l => exact ⟨[], rfl, .none l, by simp [Idle]⟩
    | @next n l l₁ l₂ u v value now hu hx _ ih =>
      obtain ⟨rounds, rfl, hrounds, hidle⟩ := ih
      obtain ⟨u, _, b, _, rfl, hwork, hjudge⟩ := Lab.runs_bind_iff.mp hu
      obtain ⟨rfl, hj, rfl⟩ := Lab.runs_pure_iff.mp hjudge
      have hb : (judge b).1 = false := (congrArg Prod.fst hj).symm
      refine ⟨(b, now - start) :: rounds, rfl, ?_, ?_⟩
      · rw [List.append_nil]
        exact .next hwork hrounds
      · exact List.forall_mem_cons.mpr ⟨⟨hb, hx⟩, hidle⟩
  · rintro ⟨rounds, rfl, hrounds, hidle⟩
    induction hrounds with
    | none l => exact .none l
    | @next rounds l l₁ l₂ u v b now hu _ ih =>
      obtain ⟨⟨hb, hx⟩, hidle⟩ := List.forall_mem_cons.mp hidle
      have hround : Lab.Runs (work >>= fun b => pure (judge b)) l u (false, (judge b).2) l₁ :=
        Lab.runs_bind_iff.mpr ⟨u, [], b, l₁, by simp, hu,
          Lab.runs_pure_iff.mpr ⟨rfl, Prod.ext hb.symm rfl, rfl⟩⟩
      exact .next hround hx (ih hidle)

variable [Shown α]

/-- How a wait ends after a round with this result. A round that did not get done ends it if no
further round is allowed (`last`) or the time is over. -/
def Concludes (what : String) (cfg : Polling) (start : Duration) (last : Prop)
    (result : Bool × α) (t : Trace Host) (r : Except Fault α) : Prop :=
  (result.1 = true ∧ t = [] ∧ r = .ok result.2) ∨
  (result.1 = false ∧ ∃ now : Duration, t = [⟨.now, now⟩] ∧
    (last ∨ cfg.expired (now - start) = true) ∧
    r = if cfg.strict then .error (.pollTimeout what (now - start) (shown result.2))
      else .ok result.2)

theorem concludes_iff {last : Prop} {result : Bool × α} {r : Except Fault α} :
    Concludes what cfg start last result t r ↔
      ∃ x, Ends what cfg start last result.1 result.2 t x ∧ r = x.map Prod.snd := by
  have hgive (now : Duration) : (cfg.giveUp what now result.2).map Prod.snd =
      if cfg.strict then .error (.pollTimeout what now (shown result.2)) else .ok result.2 := by
    rw [Polling.giveUp]
    split <;> rfl
  constructor
  · rintro (⟨hd, rfl, rfl⟩ | ⟨hd, now, rfl, hlast, rfl⟩)
    · exact ⟨_, .inl ⟨hd, rfl, rfl⟩, rfl⟩
    · exact ⟨_, .inr ⟨hd, now, rfl, hlast, rfl⟩, (hgive _).symm⟩
  · rintro ⟨x, ⟨hd, rfl, rfl⟩ | ⟨hd, now, rfl, hlast, rfl⟩, rfl⟩
    · exact .inl ⟨hd, rfl, rfl⟩
    · exact .inr ⟨hd, now, rfl, hlast, hgive _⟩

/-- The runs of a wait for work that is judged, exactly. -/
theorem runs_lastSeen_iff {r : Except Fault α} :
    Attempt.Runs (Handle.lastSeen what cfg (work >>= fun b => pure (judge b))) l t r l' ↔
      ∃ start rounds u v w b l₁, rounds.length ≤ cfg.moreRounds ∧
        t = ⟨.now, start⟩ :: (u ++ (v ++ w)) ∧ WaitedRounds cfg start work rounds l u l₁ ∧
        Idle cfg judge rounds ∧ Lab.Runs work l₁ v b l' ∧
        Concludes what cfg start (rounds.length = cfg.moreRounds) (judge b) w r := by
  rw [Handle.lastSeen, Attempt.runs_mk_iff, bind_pure_comp, Lab.runs_map_iff]
  constructor
  · rintro ⟨x, rfl, hpoll⟩
    obtain ⟨start, n, u, v, w, done, value, l₁, hle, rfl, hu, hv, he⟩ := runs_poll_iff.mp hpoll
    obtain ⟨rounds, rfl, hrounds, hidle⟩ := idleRounds_iff.mp hu
    obtain ⟨v, _, b, _, rfl, hwork, hjudge⟩ := Lab.runs_bind_iff.mp hv
    obtain ⟨rfl, hj, rfl⟩ := Lab.runs_pure_iff.mp hjudge
    refine ⟨start, rounds, u, v, w, b, l₁, hle, by simp, hrounds, hidle, hwork, ?_⟩
    rw [← hj]
    exact concludes_iff.mpr ⟨x, he, rfl⟩
  · rintro ⟨start, rounds, u, v, w, b, l₁, hle, rfl, hrounds, hidle, hwork, hend⟩
    obtain ⟨x, he, rfl⟩ := concludes_iff.mp hend
    have hu := idleRounds_iff.mpr ⟨rounds, rfl, hrounds, hidle⟩
    have hv : Lab.Runs (work >>= fun b => pure (judge b)) l₁ v (judge b) l' :=
      Lab.runs_bind_iff.mpr ⟨v, [], b, l', by simp, hwork, Lab.runs_pure_iff.mpr ⟨rfl, rfl, rfl⟩⟩
    exact ⟨x, rfl, runs_poll_iff.mpr
      ⟨start, rounds.length, u, v, w, _, _, l₁, hle, rfl, hu, hv, he⟩⟩

end Given

/-! ## A topology that is verified again -/

namespace Controller

variable {c : Controller} {count attempts : Nat} {l l' : Ledger} {t : Trace Host} {last : Report}

/-- The topology is verified, `attempts` times at most but once at least, until a report passes,
and `last` is the report that came last. -/
def Retried (c : Controller) (count attempts : Nat) (l : Ledger) (t : Trace Host) (last : Report)
    (l' : Ledger) : Prop :=
  ∃ start rounds u v w l₁, t = ⟨.now, start⟩ :: (u ++ (v ++ w)) ∧
    WaitedRounds (.attempts attempts c.retryInterval) start (c.verify count) rounds l u l₁ ∧
    (∀ x ∈ rounds, x.1.passed = false) ∧ Lab.Runs (c.verify count) l₁ v last l' ∧
    rounds.length + 1 ≤ max 1 attempts ∧
    (last.passed = true ∧ w = [] ∨
      last.passed = false ∧ rounds.length + 1 = max 1 attempts ∧ ∃ now, w = [⟨.now, now⟩])

theorem runs_verifyWithRetries_iff {r : Except Fault Report} :
    Attempt.Runs (c.verifyWithRetries count attempts) l t r l' ↔
      ∃ last, r = .ok last ∧ c.Retried count attempts l t last l' := by
  have hwork : c.verifyWithRetries count attempts =
      Handle.lastSeen "topology verification" (.attempts attempts c.retryInterval)
        (c.verify count >>= fun report => pure (report.passed, report)) := rfl
  have hmore : (Polling.attempts attempts c.retryInterval).moreRounds + 1 = max 1 attempts := by
    show max attempts 1 - 1 + 1 = max 1 attempts
    omega
  rw [hwork, runs_lastSeen_iff]
  constructor
  · rintro ⟨start, rounds, u, v, w, last, l₁, hle, rfl, hrounds, hidle, hv, hend⟩
    refine ⟨last, ?_, start, rounds, u, v, w, l₁, rfl, hrounds, fun x hx => (hidle x hx).1, hv,
      by omega, ?_⟩
    · rcases hend with ⟨-, -, rfl⟩ | ⟨-, now, -, -, rfl⟩ <;> rfl
    · rcases hend with ⟨hd, rfl, -⟩ | ⟨hd, now, rfl, hlast | hlast, -⟩
      · exact .inl ⟨hd, rfl⟩
      · exact .inr ⟨hd, by omega, now, rfl⟩
      · cases hlast
  · rintro ⟨last, rfl, start, rounds, u, v, w, l₁, rfl, hrounds, hidle, hv, hle, hend⟩
    refine ⟨start, rounds, u, v, w, last, l₁, by omega, rfl, hrounds, fun x hx => ⟨hidle x hx, rfl⟩,
      hv, ?_⟩
    rcases hend with ⟨hd, rfl⟩ | ⟨hd, hlast, now, rfl⟩
    · exact .inl ⟨hd, rfl, rfl⟩
    · exact .inr ⟨hd, now, rfl, .inl (by omega), rfl⟩

end Controller

/-- A poll ends with the first round that is done, is the last allowed or has no time left after it;
there is one if the rounds are limited. A poll of a condition does the same. A topology that is
verified again and again gives the first report that passes or the last that is allowed, and never
a fault. -/
theorem Polling.stops_with_first [Shown α] (others : (q : Query) → q.Reply) (what : String)
    (cfg : Polling) (results : Nat → Bool × α) (times : Nat → Duration) :
    (∀ n, IsLeast {k | 1 ≤ k ∧ cfg.StopsAt results (sinceStart times) k} n →
        n < Text.wordSize 32 →
      (play others times (poll what cfg (numbered results)) 0 0).1 =
          (cfg.outcome what (sinceStart times n) (results n), n) ∧
        (play others times (pollCondition what cfg (numbered fun k => (results k).1)) 0 0).1 =
          ((cfg.outcome what (sinceStart times n) ((results n).1, ())).map Prod.fst, n)) ∧
    (∀ m, cfg.maxAttempts = some m →
      ∃ n, IsLeast {k | 1 ≤ k ∧ cfg.StopsAt results (sinceStart times) k} n ∧ n ≤ max 1 m) ∧
    ∀ (c : Controller) (count attempts : Nat) (l : Ledger),
      (∀ (σ : Type) (answer : (q : Query) → σ → q.Reply × σ) (s : σ), ∃ t,
        Attempt.Runs (c.verifyWithRetries count attempts) l t
          ((c.verifyWithRetries count attempts).resultIn answer s l).1
          ((c.verifyWithRetries count attempts).resultIn answer s l).2) ∧
      ∀ t r l', Attempt.Runs (c.verifyWithRetries count attempts) l t r l' ↔
        ∃ last, r = .ok last ∧ c.Retried count attempts l t last l' := by
  refine ⟨fun n hn hlt => ⟨play_poll hn hlt, play_pollCondition hn hlt⟩,
    fun m hcap => exists_isLeast_of_cap hcap, fun c count attempts l => ⟨?_, ?_⟩⟩
  · intro σ answer s
    exact Attempt.exists_runs_resultIn _ l answer s
  · intro t r l'
    exact Controller.runs_verifyWithRetries_iff

end SwitchLab

/-! ## A link that answers in the second round -/

namespace SwitchLab.LoopedSwitch

open Controller

def lostOnce : Trace Host :=
  bounces ++ [config.listed "PORT" (.ok ["PORT|Ethernet0"]), config.adminSet "Ethernet0" .up,
    config.adminSet "Ethernet0" .down] ++ config.interfaceSet "Ethernet0" "10.0.1.1/24" ++
    [["eth1", "10.0.1.1"], ["Ethernet0", "10.0.0.1"]].map ping ++
    [Command.ran ⟨"docker", ["logs", "dut"]⟩ (.ok ⟨0, "all quiet\n", ""⟩)]
where
  ping (words : List String) : Exchange Host :=
    Command.ran ⟨"nsenter", ["-t", "7", "-n", "ping", "-c", "1", "-i", "0.2", "-W", "1", "-I"] ++
      words⟩ (.ok ⟨1, "1 packets transmitted, 0 received", ""⟩)

def retried : Trace Host :=
  ⟨.now, .zero⟩ :: (lostOnce ++
    (⟨.now, .ofSecs 1⟩ :: ⟨.pause controller.retryInterval, ()⟩ :: trace))

/-- Done in the third round; two are allowed. -/
def cappedAtTwo : Polling := (Polling.attempts 2 (.ofMillis 1)).withStrict true

def thirdRound (k : Nat) : Bool × Nat := (k == 3, k)

theorem isLeast_two : IsLeast {k | 1 ≤ k ∧
    cappedAtTwo.StopsAt thirdRound (sinceStart Duration.ofSecs) k} 2 := by
  constructor
  · exact ⟨by decide, .inr (.inl ⟨2, rfl, Nat.le_refl 2⟩)⟩
  · rintro k ⟨hpos, hd | ⟨m, hm, hle⟩ | ⟨limit, hl, -⟩⟩
    · have hk : k = 3 := by simpa [thirdRound] using hd
      omega
    · obtain rfl : 2 = m := Option.some.inj hm
      exact hle
    · cases hl

theorem retried_stops :
    Attempt.Runs (controller.verifyWithRetries 1 3) .empty retried (.ok report) .empty ∧
    (∃ last, (.ok report : Except Fault Report) = .ok last ∧
      controller.Retried 1 3 .empty retried last .empty) ∧
    (play PatternTable.silence .ofSecs (poll "third" cappedAtTwo (numbered thirdRound)) 0 0).1 =
      (.error (.pollTimeout "third" (.ofSecs 2) "2"), 2) ∧
    (play PatternTable.silence .ofSecs
      (pollCondition "third" cappedAtTwo (numbered fun k => (thirdRound k).1)) 0 0).1 =
      (.error (.pollTimeout "third" (.ofSecs 2) "()"), 2) := by
  have hruns : Attempt.Runs (controller.verifyWithRetries 1 3) .empty retried (.ok report) .empty :=
    Dialogue.runs_of_replay (by decide +kernel)
  obtain ⟨hpolls, -, hverify⟩ := Polling.stops_with_first PatternTable.silence "third" cappedAtTwo
    thirdRound Duration.ofSecs
  obtain ⟨hpoll, hcondition⟩ := hpolls 2 isLeast_two (by decide)
  exact ⟨hruns, ((hverify controller 1 3 .empty).2 _ _ _).mp hruns, hpoll, hcondition⟩

end SwitchLab.LoopedSwitch
