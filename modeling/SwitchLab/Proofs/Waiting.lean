import SwitchLab.Proofs.Polling
import SwitchLab.Proofs.Reading

/-! Waits that an empty reading ends. A reading that fails passes for an empty
one, so such a wait may end well with nothing seen; it has seen what it waited
for just if no reading failed. -/

namespace SwitchLab

variable {α : Type} {h : Handle} {cfg : Polling} {l l' : Ledger} {t : Trace Host}

namespace FieldValues

theorem isEmpty_iff {f : FieldValues} : f.isEmpty = true ↔ f = .empty := by
  cases f
  simp [isEmpty, empty]

theorem samePairs_empty_iff {f : FieldValues} : f.samePairs .empty = true ↔ f = .empty := by
  cases f
  simp [samePairs, containsAll, size, empty]

end FieldValues

/-! ## Readings that fail -/

inductive FailedRead : Exchange Host → Prop where
  | keys (db : Database) (pattern : String) (e : Fault) :
    FailedRead ⟨.keys db pattern, (.error e : Except Fault (List String))⟩
  | fetch (db : Database) (key : String) (e : Fault) :
    FailedRead ⟨.fetch db key, (.error e : Except Fault FieldValues)⟩

namespace Database

variable {db : Database}

theorem failedRead_listed {table : String} {r : Except Fault (List String)} :
    FailedRead (db.listed table r) ↔ ∃ e, r = .error e := by
  constructor
  · intro hf
    rw [listed] at hf
    cases hf with
    | keys _ _ e => exact ⟨e, rfl⟩
  · rintro ⟨e, rfl⟩
    exact .keys _ _ e

theorem failedRead_fetched {table key : String} {r : Except Fault FieldValues} :
    FailedRead (db.fetched table key r) ↔ ∃ e, r = .error e := by
  constructor
  · intro hf
    rw [fetched] at hf
    cases hf with
    | fetch _ _ e => exact ⟨e, rfl⟩
  · rintro ⟨e, rfl⟩
    exact .fetch _ _ e

end Database

theorem not_failedRead_now {d : Duration} : ¬ FailedRead ⟨.now, d⟩ := by
  rintro ⟨⟩

theorem not_failedRead_pause {d : Duration} : ¬ FailedRead ⟨.pause d, ()⟩ := by
  rintro ⟨⟩

/-! ## What a strict wait has seen -/

/-- A probe that leaves the ledger alone and makes one reading in each round. A reading that
satisfies `C` or fails gets the round done. -/
def EndsOnFailure (probe : Lab (Bool × α)) (l : Ledger) (C : Exchange Host → Prop) : Prop :=
  ∀ u done value l₁, Lab.Runs probe l u (done, value) l₁ →
    l₁ = l ∧ ∃ x, u = [x] ∧ (done = true ↔ C x ∨ FailedRead x) ∧ ¬ (C x ∧ FailedRead x)

theorem lastSeen_confirmed_iff [Shown α] {what : String} {probe : Lab (Bool × α)}
    {C : Exchange Host → Prop} {value : α} (hs : cfg.strict = true)
    (hp : EndsOnFailure probe l C) (hn : ∀ d, ¬ C ⟨.now, d⟩) (hw : ∀ d, ¬ C ⟨.pause d, ()⟩)
    (hr : Attempt.Runs (Handle.lastSeen what cfg probe) l t (.ok value) l') :
    (∃ x ∈ t, C x) ↔ ∀ x ∈ t, ¬ FailedRead x := by
  rw [Handle.lastSeen, Attempt.runs_mk_iff, bind_pure_comp, Lab.runs_map_iff] at hr
  obtain ⟨r, hr, hrun⟩ := hr
  cases r with
  | error e => cases hr
  | ok last =>
    obtain ⟨start, n, u, v, l₁, rfl, hu, hd, hv⟩ := runs_poll_ok hs hrun
    -- before the last round nothing was confirmed and nothing failed
    obtain ⟨rfl, hquiet⟩ := hu.forall (S := fun x => ¬ C x ∧ ¬ FailedRead x)
      (fun u value l₁ h => by
        obtain ⟨hl, x, rfl, hx, -⟩ := hp u false value l₁ h
        exact ⟨hl, by simpa using hx⟩)
      (fun d => ⟨hn d, not_failedRead_now⟩) (fun d => ⟨hw d, not_failedRead_pause⟩)
    obtain ⟨done, value⟩ := last
    obtain ⟨-, x, rfl, hx, hc⟩ := hp v done value l' hv
    have hx : C x ∨ FailedRead x := hx.mp hd
    constructor
    · rintro ⟨y, hy, hCy⟩ z hz hf
      have only : ∀ w ∈ (⟨.now, start⟩ :: (u ++ [x]) : Trace Host), C w ∨ FailedRead w → w = x := by
        intro w hw hCF
        rcases List.mem_cons.mp hw with rfl | hw
        · exact absurd hCF (not_or.mpr ⟨hn _, not_failedRead_now⟩)
        · rcases List.mem_append.mp hw with hw | hw
          · exact absurd hCF (not_or.mpr (hquiet w hw))
          · simpa using hw
      obtain rfl := only y hy (.inl hCy)
      obtain rfl := only z hz (.inr hf)
      exact hc ⟨hCy, hf⟩
    · intro hf
      refine ⟨x, by simp, ?_⟩
      exact hx.resolve_right (hf x (by simp))

/-! ## The waits -/

/-- The waits that a reading with nothing in it ends. -/
inductive AbsenceWait where
  | entryGone (table key : String)
  | keysGone (table : String) (keys : List String)
  | noKeys (table : String)
  | noNewKeys (names : AsicNames) (table : String)
  | noFields (table key : String)

namespace AbsenceWait

def wait (h : Handle) (cfg : Polling) : AbsenceWait → Attempt Unit
  | entryGone table key => do let _ ← h.waitForDeletedEntry table key cfg
  | keysGone table keys => do let _ ← h.waitForDeletedKeys table keys cfg
  | noKeys table => do let _ ← h.waitForKeys table 0 cfg
  | noNewKeys names table => do let _ ← (AsicDb.mk h names).waitForNewKeys table 0 cfg
  | noFields table key => do let _ ← h.waitForExactMatch table key .empty cfg

/-- A reading that did not fail and shows what the wait is for. -/
def Confirms (h : Handle) (l : Ledger) (x : Exchange Host) : AbsenceWait → Prop
  | entryGone table key | noFields table key => x = h.db.fetched table key (.ok .empty)
  | keysGone table keys =>
    ∃ raw, x = h.db.listed table (.ok raw) ∧ ∀ key ∈ keys, key ∉ h.db.keysIn table raw
  | noKeys table => ∃ raw, x = h.db.listed table (.ok raw) ∧ h.db.keysIn table raw = []
  | noNewKeys _ table =>
    ∃ raw base, x = h.db.listed table (.ok raw) ∧ h.frozen? l table = some base ∧
      ∀ key ∈ h.db.keysIn table raw, key ∈ base

/-- What is new can be told only by a baseline. -/
def HasBasis (h : Handle) (l : Ledger) : AbsenceWait → Prop
  | noNewKeys _ table => h.frozen? l table ≠ none
  | _ => True

theorem Confirms.isReading {w : AbsenceWait} {x : Exchange Host} (hc : w.Confirms h l x) :
    (∃ pattern, x.request = .keys h.db pattern) ∨ ∃ key, x.request = .fetch h.db key := by
  cases w with
  | entryGone table key | noFields table key => exact .inr ⟨_, congrArg Exchange.request hc⟩
  | keysGone table keys | noKeys table | noNewKeys names table =>
    obtain ⟨raw, h⟩ := hc
    first
    | obtain ⟨hx, -⟩ := h
      exact .inl ⟨_, congrArg Exchange.request hx⟩
    | obtain ⟨_, hx, -⟩ := h
      exact .inl ⟨_, congrArg Exchange.request hx⟩

end AbsenceWait

/-! ## One reading in each round -/

section Reading

variable {γ ρ : Type}

/-- The work makes one reading and returns what it sees in the outcome. -/
structure ReadsOnce (work : Lab γ) (l : Ledger) (ex : Except Fault ρ → Exchange Host)
    (see : Except Fault ρ → γ) : Prop where
  runs : ∀ t a l', Lab.Runs work l t a l' → ∃ r, t = [ex r] ∧ a = see r ∧ l' = l
  inj : ∀ r r', ex r = ex r' ↔ r = r'
  fails : ∀ r, FailedRead (ex r) ↔ ∃ e, r = .error e

theorem readsOnce_observeKeys {table : String} :
    ReadsOnce (h.observeKeys table) l (h.db.listed table)
      fun r => (r.map (h.db.keysIn table)).toOption.getD [] where
  runs _ _ _ hr := Handle.runs_observeKeys_iff.mp hr
  inj _ _ := Database.listed_inj
  fails _ := Database.failedRead_listed

theorem readsOnce_observeEntry {table key : String} :
    ReadsOnce (h.observeEntry table key) l (h.db.fetched table key)
      fun r => r.toOption.getD .empty where
  runs _ _ _ hr := Handle.runs_observeEntry_iff.mp hr
  inj _ _ := Database.fetched_inj
  fails _ := Database.failedRead_fetched

theorem readsOnce_keysAdded {table : String} {base : List String}
    (hb : h.frozen? l table = some base) :
    ReadsOnce (h.keysAdded table).outcome l (h.db.listed table)
      fun r => r.map fun raw => (h.db.keysIn table raw).filter (!base.contains ·) where
  runs _ _ _ hr := by
    obtain ⟨rfl, hr⟩ := Handle.runs_keysAdded_iff.mp (Attempt.runs_outcome_iff.mp hr)
    rw [hb] at hr
    obtain ⟨r, ht, ha⟩ := hr
    exact ⟨r, ht, ha, rfl⟩
  inj _ _ := Database.listed_inj
  fails _ := Database.failedRead_listed

/-- A probe that is done when it sees nothing is done when its reading fails. -/
theorem ReadsOnce.endsOnFailure {work : Lab γ} {ex : Except Fault ρ → Exchange Host}
    {see : Except Fault ρ → γ} {judge : γ → Bool × α} {C : Exchange Host → Prop}
    (hw : ReadsOnce work l ex see) (h₀ : ∀ e, (judge (see (.error e))).1 = true)
    (hC : ∀ x, C x ↔ ∃ raw, x = ex (.ok raw) ∧ (judge (see (.ok raw))).1 = true) :
    EndsOnFailure (work >>= fun a => pure (judge a)) l C := by
  intro u done value l₁ hr
  obtain ⟨u, v, a, l₂, rfl, hu, hv⟩ := Lab.runs_bind_iff.mp hr
  obtain ⟨r, rfl, rfl, rfl⟩ := hw.runs _ _ _ hu
  obtain ⟨rfl, hj, rfl⟩ := Lab.runs_pure_iff.mp hv
  refine ⟨rfl, ex r, rfl, ?_⟩
  have hd : done = (judge (see r)).1 := congrArg Prod.fst hj
  rw [hC, hw.fails, hd]
  simp only [hw.inj]
  cases r with
  | ok raw => simp
  | error e => simp [h₀]

end Reading

/-! ## A wait confirms what it waited for just if nothing failed -/

namespace AbsenceWait

theorem runs_discard_iff {work : Attempt α} :
    Attempt.Runs (do let _ ← work) l t (.ok ()) l' ↔ ∃ a, Attempt.Runs work l t (.ok a) l' := by
  rw [Attempt.runs_bind_iff]
  constructor
  · rintro (⟨u, v, a, l₁, rfl, hu, hv⟩ | ⟨e, he, -⟩)
    · obtain ⟨rfl, -, rfl⟩ := Attempt.runs_pure_iff.mp hv
      exact ⟨a, by rwa [List.append_nil]⟩
    · cases he
  · rintro ⟨a, ha⟩
    exact .inl ⟨t, [], a, l', by simp, ha, Attempt.runs_pure_iff.mpr ⟨rfl, rfl, rfl⟩⟩

private theorem confirmed_iff_of_reading {γ ρ : Type} [Shown α] {w : AbsenceWait} {what : String}
    {work : Lab γ} {ex : Except Fault ρ → Exchange Host} {see : Except Fault ρ → γ}
    {judge : γ → Bool × α} {value : α} (hs : cfg.strict = true) (hw : ReadsOnce work l ex see)
    (h₀ : ∀ e, (judge (see (.error e))).1 = true)
    (hC : ∀ x, w.Confirms h l x ↔ ∃ raw, x = ex (.ok raw) ∧ (judge (see (.ok raw))).1 = true)
    (hr : Attempt.Runs (Handle.lastSeen what cfg (work >>= fun a => pure (judge a))) l t
      (.ok value) l') :
    (∃ x ∈ t, w.Confirms h l x) ↔ ∀ x ∈ t, ¬ FailedRead x := by
  refine lastSeen_confirmed_iff (C := (w.Confirms h l ·)) hs (hw.endsOnFailure h₀ hC) ?_ ?_ hr
  · intro d hc
    rcases hc.isReading with ⟨_, hq⟩ | ⟨_, hq⟩ <;> cases hq
  · intro d hc
    rcases hc.isReading with ⟨_, hq⟩ | ⟨_, hq⟩ <;> cases hq

/-- A strict wait that ends well has seen what it waited for just if no reading failed, and
there was something to tell new keys by. -/
theorem confirmed_iff {w : AbsenceWait} (hs : cfg.strict = true)
    (hr : Attempt.Runs (w.wait h cfg) l t (.ok ()) l') :
    (∃ x ∈ t, w.Confirms h l x) ↔ w.HasBasis h l ∧ ∀ x ∈ t, ¬ FailedRead x := by
  cases w with
  | entryGone table key =>
    obtain ⟨value, hr⟩ := runs_discard_iff.mp hr
    rw [confirmed_iff_of_reading hs readsOnce_observeEntry (fun _ => rfl) _ hr]
    · simp [HasBasis]
    · intro x
      simp [Confirms, Except.toOption, FieldValues.isEmpty_iff]
  | noFields table key =>
    obtain ⟨value, hr⟩ := runs_discard_iff.mp hr
    rw [confirmed_iff_of_reading hs readsOnce_observeEntry (fun _ => rfl) _ hr]
    · simp [HasBasis]
    · intro x
      simp [Confirms, Except.toOption, FieldValues.samePairs_empty_iff]
  | keysGone table keys =>
    obtain ⟨value, hr⟩ := runs_discard_iff.mp hr
    rw [confirmed_iff_of_reading hs readsOnce_observeKeys _ _ hr]
    · simp [HasBasis]
    · intro e
      simp [Except.toOption, Except.map]
    · intro x
      simp [Confirms, Except.toOption, Except.map]
  | noKeys table =>
    obtain ⟨value, hr⟩ := runs_discard_iff.mp hr
    rw [confirmed_iff_of_reading hs readsOnce_observeKeys _ _ hr]
    · simp [HasBasis]
    · intro e
      simp [Except.toOption, Except.map]
    · intro x
      simp [Confirms, Except.toOption, Except.map]
  | noNewKeys names table =>
    obtain ⟨value, hr⟩ := runs_discard_iff.mp hr
    cases hb : h.frozen? l table with
    | none => simp [Confirms, HasBasis, hb]
    | some base =>
      rw [confirmed_iff_of_reading hs (readsOnce_keysAdded hb) _ _ hr]
      · simp [HasBasis, hb]
      · intro e
        simp [Except.toOption, Except.map]
      · intro x
        simp [Confirms, Except.toOption, Except.map, hb]

/-! The wait for the end of a port's configuration, in two rounds. -/

def configDb : Handle := ⟨⟨"redis.sock", .config⟩, 0⟩

def twoRounds : Polling := ⟨.ofMillis 1, none, true, some 2⟩

def portGone : AbsenceWait := .entryGone "PORT" "Ethernet0"

def portRead (r : Except Fault FieldValues) : Exchange Host :=
  configDb.db.fetched "PORT" "Ethernet0" r

/-- The port is there in the first round and gone in the second. -/
def goneLater : Trace Host :=
  [⟨.now, .zero⟩, portRead (.ok (.ofPairs [("admin_status", "up")])), ⟨.now, .zero⟩,
    ⟨.pause (.ofMillis 1), ()⟩, portRead (.ok .empty)]

theorem goneLater_confirmed :
    twoRounds.strict = true ∧ Attempt.Runs (portGone.wait configDb twoRounds) .empty goneLater
      (.ok ()) .empty ∧
    ((∃ x ∈ goneLater, portGone.Confirms configDb .empty x) ↔
      portGone.HasBasis configDb .empty ∧ ∀ x ∈ goneLater, ¬ FailedRead x) := by
  have hr : Attempt.Runs (portGone.wait configDb twoRounds) .empty goneLater (.ok ()) .empty :=
    .ask (.ask (.ask (.ask (.ask (.done _)))))
  exact ⟨rfl, hr, confirmed_iff rfl hr⟩

/-- The only reading fails, and the port passes for gone. -/
def lostRead : Trace Host := [⟨.now, .zero⟩, portRead (.error (.store "connection lost"))]

theorem lostRead_not_confirmed :
    twoRounds.strict = true ∧
    Attempt.Runs (portGone.wait configDb twoRounds) .empty lostRead (.ok ()) .empty ∧
    ¬ ∃ x ∈ lostRead, portGone.Confirms configDb .empty x := by
  refine ⟨rfl, .ask (.ask (.done _)), ?_⟩
  rintro ⟨x, hx, hc⟩
  rcases List.mem_cons.mp hx with rfl | hx
  · cases hc
  · obtain rfl := List.mem_singleton.mp hx
    cases Database.fetched_inj.mp hc

end AbsenceWait

end SwitchLab
