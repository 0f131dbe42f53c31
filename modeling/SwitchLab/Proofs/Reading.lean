import SwitchLab.Store.Asic
import SwitchLab.Proofs.Contract

/-! What the operations of a store handle ask, and what they make of the
answers. -/

namespace SwitchLab

variable {l l' : Ledger} {t : Trace Host}

/-! ## Calls of a database -/

namespace Database

variable {db : Database}

theorem runs_connect_iff {r : Except Fault Unit} :
    Attempt.Runs db.connect l t r l' ↔ t = [⟨.connect db, r⟩] ∧ l' = l :=
  Lab.runs_ask_iff (q := .connect db)

theorem runs_keys_iff {pattern : String} {r : Except Fault (List String)} :
    Attempt.Runs (db.keys pattern) l t r l' ↔ t = [⟨.keys db pattern, r⟩] ∧ l' = l :=
  Lab.runs_ask_iff (q := .keys db pattern)

theorem runs_fetch_iff {key : String} {r : Except Fault FieldValues} :
    Attempt.Runs (db.fetch key) l t r l' ↔ t = [⟨.fetch db key, r⟩] ∧ l' = l :=
  Lab.runs_ask_iff (q := .fetch db key)

theorem runs_merge_iff {key : String} {fields : FieldValues} {r : Except Fault Unit} :
    Attempt.Runs (db.merge key fields) l t r l' ↔ t = [⟨.merge db key fields, r⟩] ∧ l' = l :=
  Lab.runs_ask_iff (q := .merge db key fields)

/-! ## Tables and entries -/

/-- The request that lists a table. -/
def listing (db : Database) (table : String) : Query :=
  .keys db (db.store.tableKey table "" ++ "*")

/-- A table is listed, with this outcome. -/
def listed (db : Database) (table : String) (r : Except Fault (List String)) : Exchange Host :=
  ⟨.keys db (db.store.tableKey table "" ++ "*"), r⟩

/-- An entry is looked up, with this outcome. -/
def fetched (db : Database) (table key : String) (r : Except Fault FieldValues) : Exchange Host :=
  ⟨.fetch db (db.store.tableKey table key), r⟩

/-- Fields are merged into an entry, with this outcome. -/
def merged (db : Database) (table key : String) (fields : FieldValues) (r : Except Fault Unit) :
    Exchange Host := ⟨.merge db (db.store.tableKey table key) fields, r⟩

@[simp] theorem listed_inj {table : String} {x y : Except Fault (List String)} :
    db.listed table x = db.listed table y ↔ x = y := by
  constructor
  · intro he
    cases he
    rfl
  · rintro rfl
    rfl

@[simp] theorem fetched_inj {table key : String} {x y : Except Fault FieldValues} :
    db.fetched table key x = db.fetched table key y ↔ x = y := by
  constructor
  · intro he
    cases he
    rfl
  · rintro rfl
    rfl

/-- The keys of a table in an answer to the request that lists it. -/
def keysIn (db : Database) (table : String) (raw : List String) : List String :=
  (sortKeys raw).filterMap (Text.afterStart? (db.store.tableKey table ""))

end Database

/-! ## Reading by table and key -/

namespace Handle

variable {h : Handle} {table key : String}

theorem runs_new_iff {db : Database} {h : Handle} :
    Lab.Runs (new db) l t h l' ↔ t = [] ∧ h = ⟨db, l.families⟩ ∧ l' = l.withFamily := by
  show Dialogue.Runs (.done ((⟨db, l.families⟩ : Handle), l.withFamily)) t (h, l') ↔ _
  rw [Dialogue.runs_done_iff, Prod.mk.injEq]

theorem runs_getKeys_iff {r : Except Fault (List String)} :
    Attempt.Runs (h.getKeys table) l t r l' ↔
      ∃ x : Except Fault (List String), t = [h.db.listed table x] ∧
        r = x.map (h.db.keysIn table) ∧ l' = l := by
  simp only [getKeys, keysMatching, Attempt.runs_bind_iff, Database.runs_keys_iff,
    Attempt.runs_pure_iff]
  constructor
  · rintro (⟨_, _, _, _, rfl, ⟨_, _, raw, _, rfl, ⟨rfl, rfl⟩, rfl, hr, rfl⟩ | ⟨_, hr, _⟩, rfl, rfl,
      rfl⟩ |
      ⟨e, rfl, ⟨_, _, _, _, _, _, _, hr, _⟩ | ⟨_, hr, rfl, rfl⟩⟩)
    · cases hr
      exact ⟨.ok raw, rfl, rfl, rfl⟩
    · cases hr
    · cases hr
    · cases hr
      exact ⟨.error e, rfl, rfl, rfl⟩
  · rintro ⟨x, rfl, rfl, rfl⟩
    cases x with
    | ok raw =>
      exact .inl ⟨[_], [], sortKeys raw, l', rfl,
        .inl ⟨[_], [], raw, l', rfl, ⟨rfl, rfl⟩, rfl, rfl, rfl⟩, rfl, rfl, rfl⟩
    | error e => exact .inr ⟨e, rfl, .inr ⟨e, rfl, rfl, rfl⟩⟩

theorem runs_getEntry_iff {r : Except Fault FieldValues} :
    Attempt.Runs (h.getEntry table key) l t r l' ↔
      t = [h.db.fetched table key r] ∧ l' = l := Database.runs_fetch_iff

theorem runs_putEntry_iff {fields : FieldValues} {r : Except Fault Unit} :
    Attempt.Runs (h.putEntry table key fields) l t r l' ↔
      t = [h.db.merged table key fields r] ∧ l' = l := Database.runs_merge_iff

/-- A listing that fails shows no keys. -/
theorem runs_observeKeys_iff {keys : List String} :
    Lab.Runs (h.observeKeys table) l t keys l' ↔
      ∃ x : Except Fault (List String), t = [h.db.listed table x] ∧
        keys = (x.map (h.db.keysIn table)).toOption.getD [] ∧ l' = l := by
  simp only [observeKeys, Lab.runs_bind_iff, Attempt.runs_outcome_iff, runs_getKeys_iff,
    Lab.runs_pure_iff]
  constructor
  · rintro ⟨_, _, _, _, rfl, ⟨x, rfl, rfl, rfl⟩, rfl, rfl, rfl⟩
    exact ⟨x, rfl, rfl, rfl⟩
  · rintro ⟨x, rfl, rfl, rfl⟩
    exact ⟨[_], [], _, l', rfl, ⟨x, rfl, rfl, rfl⟩, rfl, rfl, rfl⟩

/-- A look-up that fails shows no fields. -/
theorem runs_observeEntry_iff {fields : FieldValues} :
    Lab.Runs (h.observeEntry table key) l t fields l' ↔
      ∃ x : Except Fault FieldValues, t = [h.db.fetched table key x] ∧
        fields = x.toOption.getD .empty ∧ l' = l := by
  simp only [observeEntry, Lab.runs_bind_iff, Attempt.runs_outcome_iff, runs_getEntry_iff,
    Lab.runs_pure_iff]
  constructor
  · rintro ⟨_, _, x, _, rfl, ⟨rfl, rfl⟩, rfl, rfl, rfl⟩
    exact ⟨x, rfl, rfl, rfl⟩
  · rintro ⟨x, rfl, rfl, rfl⟩
    exact ⟨[_], [], x, l', rfl, ⟨rfl, rfl⟩, rfl, rfl, rfl⟩

/-- What is frozen of a table. -/
def frozen? (h : Handle) (l : Ledger) (table : String) : Option (List String) :=
  (l.baseline? h.family).bind (·.get? table)

theorem runs_baseline_iff {b : Option Snapshot} :
    Lab.Runs h.baseline? l t b l' ↔ t = [] ∧ b = l.baseline? h.family ∧ l' = l := by
  simp only [baseline?, Lab.runs_bind_iff, Lab.runs_get_iff, Lab.runs_pure_iff]
  constructor
  · rintro ⟨_, _, _, _, rfl, ⟨rfl, rfl, rfl⟩, rfl, rfl, rfl⟩
    exact ⟨rfl, rfl, rfl⟩
  · rintro ⟨rfl, rfl, rfl⟩
    exact ⟨[], [], l', l', rfl, ⟨rfl, rfl, rfl⟩, rfl, rfl, rfl⟩

theorem runs_baselineOf_iff {r : Except Fault (List String)} :
    Attempt.Runs (h.baselineOf table) l t r l' ↔ t = [] ∧ l' = l ∧
      r = match h.frozen? l table with
        | some keys => .ok keys
        | none => .error (.invalidValue s!"no baseline for {h.store.name}:{table}") := by
  simp only [baselineOf, Attempt.runs_bind_iff, Attempt.runs_lift_iff, runs_baseline_iff]
  constructor
  · rintro (⟨_, _, _, l₁, rfl, ⟨_, hb, rfl, rfl, rfl⟩, hr⟩ | ⟨_, _, _, hb, _⟩)
    · cases hb
      cases hk : h.frozen? l₁ table with
      | some keys =>
        rw [frozen?] at hk
        simp only [hk] at hr
        obtain ⟨rfl, rfl, rfl⟩ := Attempt.runs_pure_iff.mp hr
        exact ⟨rfl, rfl, rfl⟩
      | none =>
        rw [frozen?] at hk
        simp only [hk] at hr
        obtain ⟨rfl, rfl, rfl⟩ := Attempt.runs_throw_iff.mp hr
        exact ⟨rfl, rfl, rfl⟩
    · cases hb
  · rintro ⟨rfl, rfl, rfl⟩
    refine .inl ⟨[], [], _, l', rfl, ⟨_, rfl, rfl, rfl, rfl⟩, ?_⟩
    cases hk : h.frozen? l' table with
    | some keys =>
      rw [frozen?] at hk
      simp only [hk]
      exact Attempt.runs_pure_iff.mpr ⟨rfl, rfl, rfl⟩
    | none =>
      rw [frozen?] at hk
      simp only [hk]
      exact Attempt.runs_throw_iff.mpr ⟨rfl, rfl, rfl⟩

/-- What a look at a table beside its frozen keys gives. Without these nothing is read. -/
def Compares (h : Handle) (table : String) (f : (base now : List String) → List String)
    (frozen? : Option (List String)) (t : Trace Host) (r : Except Fault (List String)) : Prop :=
  match frozen? with
  | none => t = [] ∧ r = .error (.invalidValue s!"no baseline for {h.store.name}:{table}")
  | some base => ∃ x : Except Fault (List String), t = [h.db.listed table x] ∧
      r = x.map fun raw => f base (h.db.keysIn table raw)

theorem runs_compare_iff {f : (base now : List String) → List String}
    {r : Except Fault (List String)} :
    Attempt.Runs (do
        let base ← h.baselineOf table
        let now ← h.getKeys table
        return f base now) l t r l' ↔ l' = l ∧ h.Compares table f (h.frozen? l table) t r := by
  simp only [Attempt.runs_bind_iff, runs_baselineOf_iff, runs_getKeys_iff, Attempt.runs_pure_iff,
    Compares]
  cases h.frozen? l table with
  | none =>
    constructor
    · rintro (⟨_, _, _, _, _, ⟨_, _, hr⟩, _⟩ | ⟨e, rfl, rfl, rfl, hr⟩)
      · cases hr
      · cases hr
        exact ⟨rfl, rfl, rfl⟩
    · rintro ⟨rfl, rfl, rfl⟩
      exact .inr ⟨_, rfl, rfl, rfl, rfl⟩
  | some base =>
    constructor
    · rintro (⟨_, _, _, _, rfl, ⟨rfl, rfl, hb⟩, hr⟩ | ⟨_, _, _, _, hb⟩)
      · cases hb
        rcases hr with ⟨_, _, _, _, rfl, ⟨x, rfl, hx, rfl⟩, rfl, rfl, rfl⟩ |
          ⟨e, rfl, x, rfl, hx, rfl⟩
        · cases x with
          | ok raw =>
            cases hx
            exact ⟨rfl, .ok raw, rfl, rfl⟩
          | error e => cases hx
        · cases x with
          | ok raw => cases hx
          | error e =>
            cases hx
            exact ⟨rfl, .error e, rfl, rfl⟩
      · cases hb
    · rintro ⟨rfl, x, rfl, rfl⟩
      refine .inl ⟨[], [_], base, l', rfl, ⟨rfl, rfl, rfl⟩, ?_⟩
      cases x with
      | ok raw =>
        exact .inl ⟨[_], [], _, l', rfl, ⟨.ok raw, rfl, rfl, rfl⟩, rfl, rfl, rfl⟩
      | error e => exact .inr ⟨e, rfl, .error e, rfl, rfl, rfl⟩

theorem runs_keysAdded_iff {r : Except Fault (List String)} :
    Attempt.Runs (h.keysAdded table) l t r l' ↔ l' = l ∧
      h.Compares table (fun base now => now.filter (!base.contains ·)) (h.frozen? l table) t r :=
  runs_compare_iff

theorem runs_keysRemoved_iff {r : Except Fault (List String)} :
    Attempt.Runs (h.keysRemoved table) l t r l' ↔ l' = l ∧
      h.Compares table (fun base now => base.filter (!now.contains ·)) (h.frozen? l table) t r :=
  runs_compare_iff

/-! ## Snapshots -/

/-- Tables are read one after the other, up to the first that cannot be. What they show is added
to a snapshot, in which a table that is read again is replaced. -/
inductive ReadUp (h : Handle) :
    Snapshot → (tables : List String) → Trace Host → Except Fault Snapshot → Prop where
  | done (s : Snapshot) : ReadUp h s [] [] (.ok s)
  | next {s : Snapshot} {table : String} {tables raw : List String} {t : Trace Host}
      {r : Except Fault Snapshot} :
    ReadUp h (s.insert table (keySet (h.db.keysIn table raw))) tables t r →
    ReadUp h s (table :: tables) (h.db.listed table (.ok raw) :: t) r
  | failed {s : Snapshot} {table : String} {tables : List String} {e : Fault} :
    ReadUp h s (table :: tables) [h.db.listed table (.error e)] (.error e)

private theorem runs_snapshotFrom_iff {tables : List String} {s : Snapshot}
    {r : Except Fault Snapshot} :
    Attempt.Runs (tables.foldlM (fun s table => do
      return s.insert table (keySet (← h.getKeys table))) s) l t r l' ↔
      l' = l ∧ h.ReadUp s tables t r := by
  induction tables generalizing s l t with
  | nil =>
    refine Attempt.runs_pure_iff.trans ⟨?_, ?_⟩
    · rintro ⟨rfl, rfl, rfl⟩
      exact ⟨rfl, .done s⟩
    · rintro ⟨rfl, hr⟩
      cases hr
      exact ⟨rfl, rfl, rfl⟩
  | cons table tables ih =>
    rw [List.foldlM_cons]
    simp only [Attempt.runs_bind_iff, runs_getKeys_iff, Attempt.runs_pure_iff, ih]
    constructor
    · rintro (⟨_, v, _, _, rfl, ⟨_, _, _, _, rfl, ⟨x, rfl, hx, rfl⟩, rfl, hs, rfl⟩ | ⟨_, hs, _⟩,
          rfl, hv⟩ | ⟨_, rfl, ⟨_, _, _, _, _, _, _, hs, _⟩ | ⟨_, hs, x, rfl, hx, rfl⟩⟩)
      · cases x with
        | error e => cases hx
        | ok raw =>
          cases hx
          cases hs
          exact ⟨rfl, .next hv⟩
      · cases hs
      · cases hs
      · cases x with
        | ok raw => cases hx
        | error e =>
          cases hs
          cases hx
          exact ⟨rfl, .failed⟩
    · rintro ⟨rfl, hr⟩
      cases hr with
      | @next _ _ _ raw v _ hv =>
        exact .inl ⟨[_], v, _, l', rfl,
          .inl ⟨[_], [], _, l', rfl, ⟨.ok raw, rfl, rfl, rfl⟩, rfl, rfl, rfl⟩, rfl, hv⟩
      | @failed _ _ _ e => exact .inr ⟨e, rfl, .inr ⟨e, rfl, .error e, rfl, rfl, rfl⟩⟩

theorem runs_snapshot_iff {tables : List String} {r : Except Fault Snapshot} :
    Attempt.Runs (h.snapshot tables) l t r l' ↔ l' = l ∧ h.ReadUp .empty tables t r :=
  runs_snapshotFrom_iff

/-- A baseline is the snapshot that was read, frozen if nothing is frozen yet. -/
theorem runs_captureBaseline_iff {tables : List String} {r : Except Fault Snapshot} :
    Attempt.Runs (h.captureBaseline tables) l t r l' ↔
      (∃ e, h.ReadUp .empty tables t (.error e) ∧ r = .error e ∧ l' = l) ∨
      ∃ s, h.ReadUp .empty tables t (.ok s) ∧
        if (l.baseline? h.family).isSome then
          r = .error (.invalidState "baseline captured" "capture_baseline") ∧ l' = l
        else r = .ok s ∧ l' = l.freeze h.family s := by
  have afterReading {s : Snapshot} {u : Trace Host} {l : Ledger} : Attempt.Runs (do
      if (← h.baseline?).isSome then
        throw (.invalidState "baseline captured" "capture_baseline")
      modify (·.freeze h.family s)
      return s) l u r l' ↔ u = [] ∧
        if (l.baseline? h.family).isSome then
          r = .error (.invalidState "baseline captured" "capture_baseline") ∧ l' = l
        else r = .ok s ∧ l' = l.freeze h.family s := by
    have look {f : Option Snapshot → Attempt Snapshot} : Attempt.Runs
        ((liftM h.baseline? : Attempt _) >>= f) l u r l' ↔
          Attempt.Runs (f (l.baseline? h.family)) l u r l' := by
      simp only [Attempt.runs_bind_iff, Attempt.runs_lift_iff, runs_baseline_iff]
      constructor
      · rintro (⟨_, v, _, _, rfl, ⟨_, ⟨⟩, rfl, rfl, rfl⟩, hv⟩ | ⟨_, _, _, ⟨⟩, _⟩)
        exact hv
      · exact fun hv => .inl ⟨[], u, _, l, rfl, ⟨_, rfl, rfl, rfl, rfl⟩, hv⟩
    refine look.trans ?_
    cases (l.baseline? h.family).isSome with
    | true => exact Attempt.runs_throw_iff
    | false =>
      show Attempt.Runs (modify (·.freeze h.family s) >>= fun _ => pure s) l u r l' ↔ _
      simp only [Attempt.runs_bind_iff, Attempt.runs_modify_iff, Attempt.runs_pure_iff]
      constructor
      · rintro (⟨_, _, _, _, rfl, ⟨rfl, -, rfl⟩, rfl, rfl, rfl⟩ | ⟨_, _, _, ⟨⟩, _⟩)
        exact ⟨rfl, rfl, rfl⟩
      · rintro ⟨rfl, rfl, rfl⟩
        exact .inl ⟨[], [], ⟨⟩, _, rfl, ⟨rfl, trivial, rfl⟩, rfl, rfl, rfl⟩
  rw [captureBaseline, Attempt.runs_bind_iff]
  simp only [runs_snapshot_iff]
  constructor
  · rintro (⟨u, v, s, _, rfl, ⟨rfl, hu⟩, hv⟩ | ⟨e, rfl, rfl, hu⟩)
    · obtain ⟨rfl, hend⟩ := afterReading.mp hv
      exact .inr ⟨s, by simpa using hu, hend⟩
    · exact .inl ⟨e, hu, rfl, rfl⟩
  · rintro (⟨e, hu, rfl, rfl⟩ | ⟨s, hu, hend⟩)
    · exact .inr ⟨e, rfl, rfl, hu⟩
    · exact .inl ⟨t, [], s, l, by simp, ⟨rfl, hu⟩, afterReading.mpr ⟨rfl, hend⟩⟩

/-! ## What reading asks -/

section Asks

variable {P : Query → Prop}

/-- `P` allows listing these tables and looking up every entry. -/
structure AllowsReads (P : Query → Prop) (db : Database) (tables : List String) : Prop where
  list : ∀ table ∈ tables, P (db.listing table)
  fetch : ∀ key, P (.fetch db key)

theorem asks_getKeys (hl : P (h.db.listing table)) :
    Attempt.Asks P (h.getKeys table) := by
  have raw : Attempt.Asks P (h.db.keys (h.tableKey table "" ++ "*")) := .mk (Lab.asks_ask hl)
  exact Attempt.Asks.bind (raw.bind fun _ => .pure) fun _ => .pure

theorem asks_getEntry (hf : ∀ key, P (.fetch h.db key)) : Attempt.Asks P (h.getEntry table key) :=
  .mk (Lab.asks_ask (hf _))

theorem asks_observeKeys (hl : P (h.db.listing table)) :
    Lab.Asks P (h.observeKeys table) := (asks_getKeys hl).outcome.bind fun _ => .pure

theorem asks_baseline : Lab.Asks P h.baseline? := Lab.asks_get.bind fun _ => .pure

theorem asks_snapshot {tables : List String} (hr : AllowsReads P h.db tables) :
    Attempt.Asks P (h.snapshot tables) := by
  rw [snapshot]
  generalize KeyMap.empty = s
  have hl := hr.list
  clear hr
  induction tables generalizing s with
  | nil => exact .pure
  | cons table tables ih =>
    rw [List.foldlM_cons]
    refine Attempt.Asks.bind ((asks_getKeys (hl table (by simp))).bind fun _ => .pure) fun s => ?_
    exact ih s fun table h => hl table (by simp [h])

theorem asks_captureBaseline {tables : List String} (hr : AllowsReads P h.db tables) :
    Attempt.Asks P (h.captureBaseline tables) := by
  refine (asks_snapshot hr).bind fun s => (Attempt.Asks.lift asks_baseline).bind fun b => ?_
  dsimp only
  split
  · exact .throw_bind
  · exact Attempt.asks_modify.bind fun _ => .pure

end Asks

end Handle

end SwitchLab
