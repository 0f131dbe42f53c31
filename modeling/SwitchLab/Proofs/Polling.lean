import SwitchLab.Polling
import SwitchLab.Proofs.Contract

/-! The runs of a poll: rounds that did not get done, each followed by a look at
the clock and a pause, and then the round with which the poll ends. -/

namespace SwitchLab

variable {α : Type} {what : String} {cfg : Polling} {start : Duration}
  {probe : Lab (Bool × α)} {l l' : Ledger} {t : Trace Host}

theorem runs_clock_iff {d : Duration} :
    Lab.Runs clock l t d l' ↔ t = [⟨.now, d⟩] ∧ l' = l :=
  Lab.runs_ask_iff (q := .now)

theorem runs_pause_iff {d : Duration} {a : Unit} :
    Lab.Runs (pause d) l t a l' ↔ t = [⟨.pause d, ()⟩] ∧ l' = l :=
  Lab.runs_ask_iff (q := .pause d)

/-- So many rounds that did not get done, each with the wait after it. -/
inductive IdleRounds (cfg : Polling) (start : Duration) (probe : Lab (Bool × α)) :
    Nat → Ledger → Trace Host → Ledger → Prop where
  | none (l : Ledger) : IdleRounds cfg start probe 0 l [] l
  | next {n : Nat} {l l₁ l₂ : Ledger} {u v : Trace Host} {value : α} {now : Duration} :
    Lab.Runs probe l u (false, value) l₁ → cfg.expired (now - start) = false →
    IdleRounds cfg start probe n l₁ v l₂ →
    IdleRounds cfg start probe (n + 1) l
      (u ++ ⟨.now, now⟩ :: ⟨.pause (cfg.sleepAfter (now - start)), ()⟩ :: v) l₂

/-- Rounds that leave the ledger alone: what holds of the exchanges of every round, of the clock
and of the pauses holds all along. -/
theorem IdleRounds.forall {S : Exchange Host → Prop} {n : Nat}
    (h : IdleRounds cfg start probe n l t l')
    (hp : ∀ u value l₁, Lab.Runs probe l u (false, value) l₁ → l₁ = l ∧ ∀ x ∈ u, S x)
    (hn : ∀ d, S ⟨.now, d⟩) (hw : ∀ d, S ⟨.pause d, ()⟩) : l' = l ∧ ∀ x ∈ t, S x := by
  induction h with
  | none => exact ⟨rfl, by simp⟩
  | @next n l l₁ l₂ u v value now hu _ _ ih =>
    obtain ⟨hl, hs⟩ := hp _ _ _ hu
    subst hl
    obtain ⟨rfl, hv⟩ := ih hp
    refine ⟨rfl, ?_⟩
    intro x hx
    rcases List.mem_append.mp hx with hx | hx
    · exact hs x hx
    · rcases List.mem_cons.mp hx with rfl | hx
      · exact hn _
      · rcases List.mem_cons.mp hx with rfl | hx
        · exact hw _
        · exact hv x hx

variable [Shown α]

/-- How a poll ends after a round that saw `value`. A round that did not get done ends it if no
further round is allowed (`last`) or the time is over. -/
def Ends (what : String) (cfg : Polling) (start : Duration) (last : Prop) (done : Bool) (value : α)
    (t : Trace Host) (r : Except Fault (Bool × α)) : Prop :=
  (done = true ∧ t = [] ∧ r = .ok (true, value)) ∨
  (done = false ∧ ∃ now : Duration, t = [⟨.now, now⟩] ∧ (last ∨ cfg.expired (now - start) = true) ∧
    r = cfg.giveUp what (now - start) value)

private theorem runs_lastRound_iff {r : Except Fault (Bool × α)} :
    Lab.Runs (pollRounds what cfg start probe 0) l t r l' ↔
      ∃ v w done value, t = v ++ w ∧ Lab.Runs probe l v (done, value) l' ∧
        Ends what cfg start True done value w r := by
  rw [pollRounds, Lab.runs_bind_iff]
  constructor
  · rintro ⟨v, w, ⟨done, value⟩, l₁, rfl, hv, hw⟩
    cases done with
    | true =>
      obtain ⟨rfl, rfl, rfl⟩ := Lab.runs_pure_iff.mp hw
      exact ⟨v, [], true, value, rfl, hv, .inl ⟨rfl, rfl, rfl⟩⟩
    | false =>
      obtain ⟨_, _, now, _, rfl, hn, he⟩ := Lab.runs_bind_iff.mp hw
      obtain ⟨rfl, rfl⟩ := runs_clock_iff.mp hn
      obtain ⟨rfl, rfl, rfl⟩ := Lab.runs_pure_iff.mp he
      exact ⟨v, _, false, value, rfl, hv, .inr ⟨rfl, now, rfl, .inl trivial, rfl⟩⟩
  · rintro ⟨v, w, done, value, rfl, hv, ⟨rfl, rfl, rfl⟩ | ⟨rfl, now, rfl, -, rfl⟩⟩
    · exact ⟨v, [], _, l', rfl, hv, Lab.runs_pure_iff.mpr ⟨rfl, rfl, rfl⟩⟩
    · exact ⟨v, _, _, l', rfl, hv, Lab.runs_bind_iff.mpr ⟨_, [], now, l', rfl,
        runs_clock_iff.mpr ⟨rfl, rfl⟩, Lab.runs_pure_iff.mpr ⟨rfl, rfl, rfl⟩⟩⟩

/-- One round, and then the end of the poll or a wait and the other rounds. -/
private theorem runs_round_iff {more : Nat} {r : Except Fault (Bool × α)} :
    Lab.Runs (pollRounds what cfg start probe (more + 1)) l t r l' ↔
      (∃ v w done value, t = v ++ w ∧ Lab.Runs probe l v (done, value) l' ∧
        Ends what cfg start False done value w r) ∨
      (∃ u v value now l₁, t = u ++ ⟨.now, now⟩ ::
          ⟨.pause (cfg.sleepAfter (now - start)), ()⟩ :: v ∧
        Lab.Runs probe l u (false, value) l₁ ∧ cfg.expired (now - start) = false ∧
        Lab.Runs (pollRounds what cfg start probe more) l₁ v r l') := by
  rw [pollRounds, Lab.runs_bind_iff]
  constructor
  · rintro ⟨u, w, ⟨done, value⟩, l₁, rfl, hu, hw⟩
    cases done with
    | true =>
      obtain ⟨rfl, rfl, rfl⟩ := Lab.runs_pure_iff.mp hw
      exact .inl ⟨u, [], true, value, rfl, hu, .inl ⟨rfl, rfl, rfl⟩⟩
    | false =>
      obtain ⟨_, v, now, _, rfl, hn, he⟩ := Lab.runs_bind_iff.mp hw
      obtain ⟨rfl, rfl⟩ := runs_clock_iff.mp hn
      by_cases hx : cfg.expired (now - start) = true
      · simp only [hx, if_true] at he
        obtain ⟨rfl, rfl, rfl⟩ := Lab.runs_pure_iff.mp he
        exact .inl ⟨u, _, false, value, rfl, hu, .inr ⟨rfl, now, rfl, .inr hx, rfl⟩⟩
      · simp only [hx] at he
        obtain ⟨_, v, _, _, rfl, hp, hv⟩ := Lab.runs_bind_iff.mp he
        obtain ⟨rfl, rfl⟩ := runs_pause_iff.mp hp
        exact .inr ⟨u, v, value, now, _, rfl, hu, by simpa using hx, hv⟩
  · rintro (⟨v, w, done, value, rfl, hv, he⟩ | ⟨u, v, value, now, l₁, rfl, hu, hx, hv⟩)
    · refine ⟨v, w, (done, value), l', rfl, hv, ?_⟩
      rcases he with ⟨rfl, rfl, rfl⟩ | ⟨rfl, now, rfl, hx | hx, rfl⟩
      · exact Lab.runs_pure_iff.mpr ⟨rfl, rfl, rfl⟩
      · exact hx.elim
      · refine Lab.runs_bind_iff.mpr ⟨_, [], now, l', rfl, runs_clock_iff.mpr ⟨rfl, rfl⟩, ?_⟩
        simp only [hx, if_true]
        exact Lab.runs_pure_iff.mpr ⟨rfl, rfl, rfl⟩
    · refine ⟨u, _, (false, value), l₁, rfl, hu, ?_⟩
      refine Lab.runs_bind_iff.mpr ⟨[_], _, now, l₁, rfl, runs_clock_iff.mpr ⟨rfl, rfl⟩, ?_⟩
      simp only [hx]
      exact Lab.runs_bind_iff.mpr ⟨[_], v, (), l₁, rfl, runs_pause_iff.mpr ⟨rfl, rfl⟩, hv⟩

theorem runs_pollRounds_iff {more : Nat} {r : Except Fault (Bool × α)} :
    Lab.Runs (pollRounds what cfg start probe more) l t r l' ↔
      ∃ n u v w done value l₁, n ≤ more ∧ t = u ++ (v ++ w) ∧ IdleRounds cfg start probe n l u l₁ ∧
        Lab.Runs probe l₁ v (done, value) l' ∧ Ends what cfg start (n = more) done value w r := by
  induction more generalizing l t with
  | zero =>
    rw [runs_lastRound_iff]
    constructor
    · rintro ⟨v, w, done, value, rfl, hv, he⟩
      exact ⟨0, [], v, w, done, value, l, Nat.le_refl 0, rfl, .none l, hv, by simpa [Ends] using he⟩
    · rintro ⟨n, u, v, w, done, value, l₁, hn, rfl, hu, hv, he⟩
      obtain rfl : n = 0 := by omega
      cases hu
      exact ⟨v, w, done, value, rfl, hv, by simpa [Ends] using he⟩
  | succ more ih =>
    simp only [runs_round_iff, ih]
    constructor
    · rintro (⟨v, w, done, value, rfl, hv, he⟩ | ⟨u, v, value, now, l₁, rfl, hu, hx, hv⟩)
      · exact ⟨0, [], v, w, done, value, l, by omega, rfl, .none l, hv, by simpa [Ends] using he⟩
      · obtain ⟨n, u', v', w, done, value', l₂, hn, rfl, hu', hv', he⟩ := hv
        exact ⟨n + 1, _, v', w, done, value', l₂, by omega, by simp, .next hu hx hu', hv',
          by simpa [Ends] using he⟩
    · rintro ⟨n, u, v, w, done, value, l₁, hn, rfl, hu, hv, he⟩
      cases hu with
      | none =>
        exact .inl ⟨v, w, done, value, rfl, hv, by simpa [Ends] using he⟩
      | @next n _ l₂ _ u u' value' now hu hx hu' =>
        refine .inr ⟨u, u' ++ (v ++ w), value', now, l₂, by simp, hu, hx, ?_⟩
        exact ⟨n, u', v, w, done, value, l₁, by omega, rfl, hu', hv, by simpa [Ends] using he⟩

/-- The runs of a poll, exactly. -/
theorem runs_poll_iff {r : Except Fault (Bool × α)} :
    Lab.Runs (poll what cfg probe) l t r l' ↔
      ∃ start n u v w done value l₁, n ≤ cfg.moreRounds ∧ t = ⟨.now, start⟩ :: (u ++ (v ++ w)) ∧
        IdleRounds cfg start probe n l u l₁ ∧ Lab.Runs probe l₁ v (done, value) l' ∧
        Ends what cfg start (n = cfg.moreRounds) done value w r := by
  rw [poll, Lab.runs_bind_iff]
  simp only [runs_pollRounds_iff, runs_clock_iff]
  constructor
  · rintro ⟨_, _, start, _, rfl, ⟨rfl, rfl⟩, n, u, v, w, done, value, l₁, hn, rfl, h⟩
    exact ⟨start, n, u, v, w, done, value, l₁, hn, rfl, h⟩
  · rintro ⟨start, n, u, v, w, done, value, l₁, hn, rfl, h⟩
    exact ⟨[_], _, start, l, rfl, ⟨rfl, rfl⟩, n, u, v, w, done, value, l₁, hn, rfl, h⟩

/-- A strict poll that gives a value ended with a round that got done. -/
theorem runs_poll_ok {x : Bool × α} (hs : cfg.strict = true)
    (h : Lab.Runs (poll what cfg probe) l t (.ok x) l') :
    ∃ start n u v l₁, t = ⟨.now, start⟩ :: (u ++ v) ∧ IdleRounds cfg start probe n l u l₁ ∧
      x.1 = true ∧ Lab.Runs probe l₁ v x l' := by
  obtain ⟨start, n, u, v, w, done, value, l₁, -, rfl, hu, hv, he⟩ := runs_poll_iff.mp h
  rcases he with ⟨rfl, rfl, hx⟩ | ⟨rfl, now, rfl, -, hx⟩
  · cases hx
    exact ⟨start, n, u, v, l₁, by simp, hu, rfl, hv⟩
  · simp [Polling.giveUp, hs] at hx

/-- If the rounds leave the ledger alone, such a poll is some requests and then a round that got
done. -/
theorem runs_poll_last {x : Bool × α} (hs : cfg.strict = true)
    (hp : ∀ u y l₁, Lab.Runs probe l u y l₁ → l₁ = l)
    (h : Lab.Runs (poll what cfg probe) l t (.ok x) l') :
    l' = l ∧ x.1 = true ∧ ∃ u v, t = u ++ v ∧ Lab.Runs probe l v x l := by
  obtain ⟨start, n, u, v, l₁, rfl, hu, hx, hv⟩ := runs_poll_ok hs h
  obtain ⟨rfl, -⟩ := hu.forall (S := fun _ => True)
    (fun u value l₂ hr => ⟨hp u _ l₂ hr, fun _ _ => trivial⟩) (fun _ => trivial) (fun _ => trivial)
  obtain rfl := hp _ _ _ hv
  exact ⟨rfl, hx, ⟨.now, start⟩ :: u, v, by simp, hv⟩

/-- The same for work that hands on a part of what the poll saw. -/
theorem runs_pollMap_ok {β : Type} {f : Bool × α → β} {b : β} (hs : cfg.strict = true)
    (hp : ∀ u y l₁, Lab.Runs probe l u y l₁ → l₁ = l)
    (h : Attempt.Runs (ExceptT.mk do return (← poll what cfg probe).map f) l t (.ok b) l') :
    l' = l ∧ ∃ u v x, t = u ++ v ∧ x.1 = true ∧ b = f x ∧ Lab.Runs probe l v x l := by
  rw [Attempt.runs_mk_iff, bind_pure_comp, Lab.runs_map_iff] at h
  obtain ⟨r, hb, hr⟩ := h
  cases r with
  | error e => cases hb
  | ok x =>
    cases hb
    obtain ⟨rfl, hx, u, v, rfl, hv⟩ := runs_poll_last hs hp hr
    exact ⟨rfl, u, v, x, rfl, hx, rfl, hv⟩

/-- Where the answers let every round get done, a poll ends with the first. -/
theorem runs_poll_first {S : Exchange Host → Prop} {r : Except Fault (Bool × α)}
    (hp : ∀ l u x l₁, Lab.Runs probe l u x l₁ → (∀ y ∈ u, S y) → x.1 = true)
    (ht : ∀ y ∈ t, S y) (h : Lab.Runs (poll what cfg probe) l t r l') :
    ∃ start u value, t = ⟨.now, start⟩ :: u ∧ r = .ok (true, value) ∧
      Lab.Runs probe l u (true, value) l' := by
  obtain ⟨start, n, u, v, w, done, value, l₁, -, rfl, hu, hv, he⟩ := runs_poll_iff.mp h
  obtain ⟨-, ht⟩ := List.forall_mem_cons.mp ht
  obtain ⟨hidle, ht⟩ := List.forall_mem_append.mp ht
  obtain ⟨hlast, -⟩ := List.forall_mem_append.mp ht
  obtain rfl : done = true := hp _ _ _ _ hv hlast
  cases hu with
  | none =>
    obtain ⟨-, rfl, rfl⟩ | ⟨hnot, -⟩ := he
    · exact ⟨start, v, value, by simp, rfl, hv⟩
    · cases hnot
  | next hfirst _ _ =>
    cases hp _ _ _ _ hfirst (List.forall_mem_append.mp hidle).1

/-- The same for work that hands on a part of what the poll saw. -/
theorem runs_pollMap_first {β : Type} {f : Bool × α → β} {S : Exchange Host → Prop}
    {r : Except Fault β}
    (hp : ∀ l u x l₁, Lab.Runs probe l u x l₁ → (∀ y ∈ u, S y) → x.1 = true)
    (ht : ∀ y ∈ t, S y)
    (h : Attempt.Runs (ExceptT.mk do return (← poll what cfg probe).map f) l t r l') :
    ∃ start u value, t = ⟨.now, start⟩ :: u ∧ r = .ok (f (true, value)) ∧
      Lab.Runs probe l u (true, value) l' := by
  rw [Attempt.runs_mk_iff, bind_pure_comp, Lab.runs_map_iff] at h
  obtain ⟨x, rfl, hr⟩ := h
  obtain ⟨start, u, value, rfl, rfl, hu⟩ := runs_poll_first hp ht hr
  exact ⟨start, u, value, rfl, rfl, hu⟩

/-! A poll as a step of work that may fail is the same poll. -/

theorem pollRounds_lift {more : Nat} :
    pollRounds what cfg start (liftM probe : Attempt (Bool × α)) more =
      liftM (pollRounds what cfg start probe more) := by
  induction more with
  | zero =>
    rw [pollRounds, pollRounds, Attempt.lift_bind]
    congr
    funext x
    obtain ⟨done, value⟩ := x
    cases done with
    | true => rfl
    | false =>
      simp only [Bool.false_eq_true, if_false]
      rw [Attempt.lift_bind]
      rfl
  | succ more ih =>
    rw [pollRounds, pollRounds, Attempt.lift_bind]
    congr
    funext x
    obtain ⟨done, value⟩ := x
    cases done with
    | true => rfl
    | false =>
      simp only [Bool.false_eq_true, if_false]
      rw [Attempt.lift_bind]
      show (liftM (clock : Lab Duration) >>= _ : Attempt _) = _
      congr
      funext now
      split
      · rfl
      · rw [Attempt.lift_bind, ← ih]
        rfl

theorem poll_lift :
    poll what cfg (liftM probe : Attempt (Bool × α)) = liftM (poll what cfg probe) := by
  rw [poll, poll, Attempt.lift_bind]
  show (liftM (clock : Lab Duration) >>= _ : Attempt _) = _
  simp only [pollRounds_lift]

theorem keepsLedger_poll (hp : Lab.KeepsLedger probe) :
    Lab.KeepsLedger (poll what cfg probe) := by
  intro l t r l' hr
  obtain ⟨start, n, u, v, w, done, value, l₁, -, -, hu, hv, -⟩ := runs_poll_iff.mp hr
  obtain ⟨rfl, -⟩ := hu.forall (S := fun _ => True)
    (fun u value l₂ hr => ⟨hp _ u _ l₂ hr, fun _ _ => trivial⟩) (fun _ => trivial) fun _ => trivial
  exact hp _ _ _ _ hv

section Asks

variable {P : Query → Prop}

theorem asks_pollRounds {more : Nat} (hn : P .now) (hw : ∀ d, P (.pause d))
    (hp : Lab.Asks P probe) : Lab.Asks P (pollRounds what cfg start probe more) := by
  induction more with
  | zero =>
    rw [pollRounds]
    refine hp.bind fun (done, value) => ?_
    cases done with
    | true => exact .pure
    | false => exact Lab.Asks.bind (Lab.asks_ask (q := .now) hn) fun _ => .pure
  | succ more ih =>
    rw [pollRounds]
    refine hp.bind fun (done, value) => ?_
    cases done with
    | true => exact .pure
    | false =>
      refine Lab.Asks.bind (Lab.asks_ask (q := .now) hn) fun now => ?_
      dsimp only
      split
      · exact .pure
      · exact Lab.Asks.bind (Lab.asks_ask (q := .pause _) (hw _)) fun _ => ih

theorem asks_poll (hn : P .now) (hw : ∀ d, P (.pause d)) (hp : Lab.Asks P probe) :
    Lab.Asks P (poll what cfg probe) :=
  Lab.Asks.bind (Lab.asks_ask (q := .now) hn) fun _ => asks_pollRounds hn hw hp

end Asks

end SwitchLab
