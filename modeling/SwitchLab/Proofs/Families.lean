import SwitchLab.Proofs.Baseline
import SwitchLab.Proofs.Waiting

/-! Handles that share a baseline. A handle and all its copies are one family,
and whoever of them captures first does so for all. What later operations tell is
relative to that snapshot, whatever has become of the database, and of other
families. -/

namespace SwitchLab

variable {l l' : Ledger} {t : Trace Host}

/-! ## What is frozen -/

theorem Ledger.baseline?_freeze_of_ne {n family : Nat} {s : Snapshot} (h : n ≠ family) :
    (l.freeze family s).baseline? n = l.baseline? n := by
  have hb : (n == family) = false := by simpa using h
  rw [baseline?, baseline?, freeze, List.lookup_append]
  simp [List.lookup_cons, hb]

namespace Handle

variable {h : Handle} {tables : List String} {s₀ s : Snapshot} {r : Except Fault Snapshot}
  {b : Option Snapshot} {table : String}

theorem listing_inj {db : Database} {table table' : String}
    (he : db.listing table = db.listing table') : table = table' := by
  simpa [Database.listing, StoreName.tableKey, ← String.toList_inj] using he

/-- What a capture does if the family has this snapshot. -/
structure Freezes (h : Handle) (b : Option Snapshot) (tables : List String) (t : Trace Host)
    (r : Except Fault Snapshot) : Prop where
  /-- The tables are listed in their order, up to the first listing that fails. -/
  lists : t.map (·.request) <+: tables.map h.db.listing
  listsAll : (∀ x ∈ t, ¬ FailedRead x) → t.map (·.request) = tables.map h.db.listing
  succeeds_iff : (∃ s, r = .ok s) ↔ b = none ∧ ∀ x ∈ t, ¬ FailedRead x
  /-- The snapshot has the keys that each table showed when it was listed last. -/
  content : ∀ s, r = .ok s → ∀ table ∈ tables, ∃ u raw v,
    t = u ++ h.db.listed table (.ok raw) :: v ∧ (∀ x, h.db.listed table x ∉ v) ∧
      s.get? table = some (keySet (h.db.keysIn table raw))
  nothingElse : ∀ s, r = .ok s → ∀ table ∉ tables, s.get? table = none
  fails : ∀ table e, h.db.listed table (.error e) ∈ t → r = .error e
  refuses : b ≠ none → (∀ x ∈ t, ¬ FailedRead x) →
    r = .error (.invalidState "baseline captured" "capture_baseline")

namespace ReadUp

theorem lists (hr : h.ReadUp s₀ tables t r) : t.map (·.request) <+: tables.map h.db.listing := by
  induction hr with
  | done s => exact List.nil_prefix
  | next _ ih => exact List.cons_prefix_cons.mpr ⟨rfl, ih⟩
  | failed => exact List.cons_prefix_cons.mpr ⟨rfl, List.nil_prefix⟩

theorem mem_tables (hr : h.ReadUp s₀ tables t r) {x : Except Fault (List String)}
    (hx : h.db.listed table x ∈ t) : table ∈ tables := by
  have hq : h.db.listing table ∈ tables.map h.db.listing :=
    hr.lists.subset (List.mem_map.mpr ⟨_, hx, rfl⟩)
  obtain ⟨table', hm, he⟩ := List.mem_map.mp hq
  exact listing_inj he ▸ hm

/-- Either all tables could be read, or the reading ends with the failure. -/
theorem cases_failed (hr : h.ReadUp s₀ tables t r) :
    ((∃ s, r = .ok s) ∧ (∀ x ∈ t, ¬ FailedRead x) ∧
      t.map (·.request) = tables.map h.db.listing) ∨
    ∃ u table e, r = .error e ∧ t = u ++ [h.db.listed table (.error e)] ∧
      ∀ x ∈ u, ¬ FailedRead x := by
  induction hr with
  | done s => exact .inl ⟨⟨s, rfl⟩, by simp, rfl⟩
  | @next s table tables raw t r _ ih =>
    have good : ¬ FailedRead (h.db.listed table (.ok raw)) := by
      rw [Database.failedRead_listed]
      rintro ⟨e, ⟨⟩⟩
    rcases ih with ⟨hs, hall, hlists⟩ | ⟨u, table', e, rfl, rfl, hall⟩
    · refine .inl ⟨hs, List.forall_mem_cons.mpr ⟨good, hall⟩, ?_⟩
      rw [List.map_cons, List.map_cons, hlists]
      rfl
    · exact .inr ⟨_ :: u, table', e, rfl, rfl, List.forall_mem_cons.mpr ⟨good, hall⟩⟩
  | @failed s table tables e => exact .inr ⟨[], table, e, rfl, rfl, by simp⟩

theorem get? (hr : h.ReadUp s₀ tables t (.ok s)) :
    (∀ table ∈ tables, ∃ u raw v,
      t = u ++ h.db.listed table (.ok raw) :: v ∧ (∀ x, h.db.listed table x ∉ v) ∧
        s.get? table = some (keySet (h.db.keysIn table raw))) ∧
    ∀ table ∉ tables, s.get? table = s₀.get? table := by
  generalize hok : (.ok s : Except Fault Snapshot) = r at hr
  induction hr with
  | failed => cases hok
  | done s₀ =>
    cases hok
    exact ⟨by simp, fun _ _ => rfl⟩
  | @next s₀ table tables raw t r hr ih =>
    obtain ⟨hin, hout⟩ := ih hok
    constructor
    · intro table' hm
      by_cases hlater : table' ∈ tables
      · obtain ⟨u, raw', v, rfl, hv, hget⟩ := hin table' hlater
        exact ⟨_ :: u, raw', v, rfl, hv, hget⟩
      · -- it is not listed again
        obtain rfl : table' = table := (List.mem_cons.mp hm).resolve_right hlater
        refine ⟨[], raw, t, rfl, fun x hx => hlater (hr.mem_tables hx), ?_⟩
        rw [hout _ hlater, KeyMap.get?_insert, if_pos rfl]
    · intro table' hm
      rw [List.mem_cons, not_or] at hm
      rw [hout _ hm.2, KeyMap.get?_insert, if_neg (Ne.symm hm.1)]

/-- Every answer of the database is a possible one. -/
theorem exists_ok (h : Handle) (s₀ : Snapshot) (tables : List String)
    (raw : String → List String) : ∃ s,
    h.ReadUp s₀ tables (tables.map fun table => h.db.listed table (.ok (raw table))) (.ok s) := by
  induction tables generalizing s₀ with
  | nil => exact ⟨s₀, .done s₀⟩
  | cons table tables ih =>
    obtain ⟨s, hs⟩ := ih (s₀.insert table (keySet (h.db.keysIn table (raw table))))
    exact ⟨s, .next hs⟩

end ReadUp

theorem freezes_of_runs (hr : Attempt.Runs (h.captureBaseline tables) l t r l') :
    h.Freezes (l.baseline? h.family) tables t r := by
  rcases runs_captureBaseline_iff.mp hr with ⟨e, hread, rfl, rfl⟩ | ⟨s, hread, hend⟩
  · rcases hread.cases_failed with ⟨⟨_, ⟨⟩⟩, -⟩ | ⟨u, table, _, ⟨⟩, rfl, hall⟩
    have bad : FailedRead (h.db.listed table (.error e)) := Database.failedRead_listed.mpr ⟨e, rfl⟩
    have some_bad : ¬ ∀ x ∈ u ++ [h.db.listed table (.error e)], ¬ FailedRead x :=
      fun hnone => hnone _ (by simp) bad
    refine ⟨hread.lists, fun hnone => absurd hnone some_bad, ?_, nofun, nofun, ?_,
      fun _ hnone => absurd hnone some_bad⟩
    · constructor
      · rintro ⟨s, ⟨⟩⟩
      · exact fun hok => absurd hok.2 some_bad
    · intro table' e' hm
      rcases List.mem_append.mp hm with hm | hm
      · exact absurd (Database.failedRead_listed.mpr ⟨e', rfl⟩) (hall _ hm)
      · have he := List.mem_singleton.mp hm
        obtain rfl := listing_inj (congrArg Exchange.request he)
        cases Database.listed_inj.mp he
        rfl
  · rcases hread.cases_failed with ⟨-, hall, hlists⟩ | ⟨_, _, _, ⟨⟩, -⟩
    have fails : ∀ table e, h.db.listed table (.error e) ∈ t → r = .error e := fun table e hm =>
      absurd (Database.failedRead_listed.mpr ⟨e, rfl⟩) (hall _ hm)
    split at hend
    · rename_i hsome
      obtain ⟨rfl, -⟩ := hend
      have captured : l.baseline? h.family ≠ none := fun hnone => by simp [hnone] at hsome
      refine ⟨hread.lists, fun _ => hlists, ?_, nofun, nofun, fails, fun _ _ => rfl⟩
      constructor
      · rintro ⟨s, ⟨⟩⟩
      · exact fun hok => absurd hok.1 captured
    · rename_i hnone
      obtain ⟨rfl, -⟩ := hend
      have free : l.baseline? h.family = none := by simpa using hnone
      obtain ⟨hin, hout⟩ := hread.get?
      refine ⟨hread.lists, fun _ => hlists, ⟨fun _ => ⟨free, hall⟩, fun _ => ⟨s, rfl⟩⟩, ?_, ?_,
        fails, fun hsome => absurd free hsome⟩
      · rintro _ ⟨⟩
        exact hin
      · rintro _ ⟨⟩
        exact hout

end Handle

/-! ## The operations of a handle -/

/-- What can be done with a handle. -/
inductive HandleUse : Type 1 where
  | keysMatching (pattern : String)
  | getKeys (table : String)
  | getEntry (table key : String)
  | getRecord (α : Type) [TableRecord α] (key : String)
  | putEntry (table key : String) (fields : FieldValues)
  | putRecord (α : Type) [TableRecord α] (key : String) (record : α)
  | deleteEntry (table key : String)
  | deleteFields (table key : String) (fields : List String)
  | deleteTable (table : String)
  | waitForKeys (table : String) (n : Nat) (cfg : Polling)
  | waitForEntry (table key : String) (cfg : Polling)
  | waitForMatch (table key : String) (expected : FieldValues) (cfg : Polling)
  | waitForExactMatch (table key : String) (expected : FieldValues) (cfg : Polling)
  | waitForDeletedEntry (table key : String) (cfg : Polling)
  | waitForDeletedKeys (table : String) (keys : List String) (cfg : Polling)
  | describe
  | baseline
  | captureBaseline (tables : List String)
  | keysAdded (table : String)
  | keysRemoved (table : String)

namespace HandleUse

variable {h : Handle} {b : Option Snapshot}

def Answer : HandleUse → Type
  | keysMatching _ | getKeys _ | waitForKeys .. | waitForDeletedKeys .. | keysAdded _
  | keysRemoved _ => List String
  | getEntry .. | waitForEntry .. | waitForMatch .. | waitForExactMatch ..
  | waitForDeletedEntry .. => FieldValues
  | getRecord α _ => Option α
  | putEntry .. | putRecord .. | deleteEntry .. | deleteFields .. | deleteTable _ => Unit
  | describe => String
  | baseline => Option Snapshot
  | captureBaseline _ => Snapshot

def act (h : Handle) : (use : HandleUse) → Attempt use.Answer
  | keysMatching pattern => h.keysMatching pattern
  | getKeys table => h.getKeys table
  | getEntry table key => h.getEntry table key
  | getRecord α key => h.getRecord? α key
  | putEntry table key fields => h.putEntry table key fields
  | putRecord _ key record => h.putRecord key record
  | deleteEntry table key => h.deleteEntry table key
  | deleteFields table key fields => h.deleteFields table key fields
  | deleteTable table => h.deleteTable table
  | waitForKeys table n cfg => h.waitForKeys table n cfg
  | waitForEntry table key cfg => h.waitForEntry table key cfg
  | waitForMatch table key expected cfg => h.waitForMatch table key expected cfg
  | waitForExactMatch table key expected cfg => h.waitForExactMatch table key expected cfg
  | waitForDeletedEntry table key cfg => h.waitForDeletedEntry table key cfg
  | waitForDeletedKeys table keys cfg => h.waitForDeletedKeys table keys cfg
  | describe => liftM h.describe
  | baseline => liftM h.baseline?
  | captureBaseline tables => h.captureBaseline tables
  | keysAdded table => h.keysAdded table
  | keysRemoved table => h.keysRemoved table

/-- The snapshot of a capture that succeeds. -/
def captured? : (use : HandleUse) → Except Fault use.Answer → Option Snapshot
  | captureBaseline _, r => (r : Except Fault Snapshot).toOption
  | _, _ => none

/-- What an operation tells of the baseline, if the family has captured this one. -/
def Tells (h : Handle) (b : Option Snapshot) :
    (use : HandleUse) → Trace Host → Except Fault use.Answer → Prop
  | captureBaseline tables, t, r => h.Freezes b tables t r
  | keysAdded table, t, r =>
    h.Compares table (fun base now => now.filter (!base.contains ·)) (b.bind (·.get? table)) t r
  | keysRemoved table, t, r =>
    h.Compares table (fun base now => base.filter (!now.contains ·)) (b.bind (·.get? table)) t r
  | baseline, t, r => t = [] ∧ r = .ok b
  | describe, t, r =>
    let tables := b.map KeyMap.size
    t = [] ∧ r = .ok s!"DataStoreHandle \x7b store: {shown h.store}, baseline: {shown tables} \x7d"
  | _, _, _ => True

/-- Only a capture freezes anything. -/
theorem keepsLedger {use : HandleUse} (hu : ∀ tables, use ≠ captureBaseline tables) :
    (use.act h).KeepsLedger := by
  have keys (table : String) : (h.getKeys table).KeepsLedger := fun _ _ _ _ hr => by
    obtain ⟨_, _, _, hl⟩ := Handle.runs_getKeys_iff.mp hr
    exact hl
  have entry (table key : String) : (h.getEntry table key).KeepsLedger :=
    fun _ _ _ _ hr => (Handle.runs_getEntry_iff.mp hr).2
  have wait {α : Type} [Shown α] (what : String) (cfg : Polling) {probe : Lab (Bool × α)}
      (hp : probe.KeepsLedger) : (Handle.lastSeen what cfg probe).KeepsLedger :=
    Lab.KeepsLedger.bind (keepsLedger_poll hp) fun _ => .pure
  have baseline : h.baseline?.KeepsLedger := .bind .get fun _ => .pure
  have seenKeys {α : Type} (table : String) (judge : List String → Bool × α) :
      (do return judge (← h.observeKeys table) : Lab (Bool × α)).KeepsLedger :=
    Lab.KeepsLedger.bind (.bind (keys table) fun _ => .pure) fun _ => .pure
  have seenEntry {α : Type} (table key : String) (judge : FieldValues → Bool × α) :
      (do return judge (← h.observeEntry table key) : Lab (Bool × α)).KeepsLedger :=
    Lab.KeepsLedger.bind (.bind (entry table key) fun _ => .pure) fun _ => .pure
  cases use with
  | captureBaseline tables => exact absurd rfl (hu tables)
  | keysMatching pattern => exact Attempt.KeepsLedger.bind Lab.KeepsLedger.ask fun _ => .pure
  | getKeys table => exact keys table
  | getEntry table key => exact entry table key
  | getRecord α key =>
    rw [act, Handle.getRecord?]
    dsimp only
    split
    · exact .throw_bind
    · refine Attempt.KeepsLedger.bind (entry _ key) fun fields => ?_
      split
      · exact .pure
      · cases (TableRecord.ofFields key fields : Except Fault α) with
        | ok record => exact .pure
        | error e => exact .throw
  | putEntry | putRecord | deleteEntry | deleteFields => exact Lab.KeepsLedger.ask
  | deleteTable table =>
    exact (keys table).bind fun keys => .bind (.forIn fun _ => Lab.KeepsLedger.ask) fun _ => .pure
  | waitForKeys table _ cfg | waitForDeletedKeys table _ cfg =>
    exact wait (α := List String) _ cfg (seenKeys table _)
  | waitForEntry table key cfg | waitForMatch table key _ cfg | waitForExactMatch table key _ cfg
  | waitForDeletedEntry table key cfg =>
    exact wait (α := FieldValues) _ cfg (seenEntry table key _)
  | describe => exact .lift (.bind baseline fun _ => .pure)
  | baseline => exact .lift baseline
  | keysAdded table => exact fun _ _ _ _ hr => (Handle.runs_keysAdded_iff.mp hr).1
  | keysRemoved table => exact fun _ _ _ _ hr => (Handle.runs_keysRemoved_iff.mp hr).1

/-- One operation: what it tells, and what becomes of the baselines. -/
theorem outcome {use : HandleUse} {r : Except Fault use.Answer}
    (hr : Attempt.Runs (use.act h) l t r l') :
    use.Tells h (l.baseline? h.family) t r ∧
      (use.captured? r = none ∧ l' = l ∨
        ∃ s, use.captured? r = some s ∧ l.baseline? h.family = none ∧
          l' = l.freeze h.family s) := by
  cases use with
  | captureBaseline tables =>
    refine ⟨Handle.freezes_of_runs hr, ?_⟩
    rcases Handle.runs_captureBaseline_iff.mp hr with ⟨e, -, rfl, rfl⟩ | ⟨s, -, hend⟩
    · exact .inl ⟨rfl, rfl⟩
    · split at hend
      · obtain ⟨rfl, rfl⟩ := hend
        exact .inl ⟨rfl, rfl⟩
      · rename_i hnone
        obtain ⟨rfl, rfl⟩ := hend
        exact .inr ⟨s, rfl, by simpa using hnone, rfl⟩
  | keysAdded table =>
    obtain ⟨rfl, hc⟩ := Handle.runs_keysAdded_iff.mp hr
    exact ⟨hc, .inl ⟨rfl, rfl⟩⟩
  | keysRemoved table =>
    obtain ⟨rfl, hc⟩ := Handle.runs_keysRemoved_iff.mp hr
    exact ⟨hc, .inl ⟨rfl, rfl⟩⟩
  | baseline =>
    obtain ⟨b, rfl, hb⟩ := Attempt.runs_lift_iff.mp hr
    obtain ⟨rfl, rfl, rfl⟩ := Handle.runs_baseline_iff.mp hb
    exact ⟨⟨rfl, rfl⟩, .inl ⟨rfl, rfl⟩⟩
  | describe =>
    obtain ⟨text, rfl, hd⟩ := Attempt.runs_lift_iff.mp hr
    obtain ⟨_, _, b, _, rfl, hb, hp⟩ := Lab.runs_bind_iff.mp hd
    obtain ⟨rfl, rfl, rfl⟩ := Handle.runs_baseline_iff.mp hb
    obtain ⟨rfl, rfl, rfl⟩ := Lab.runs_pure_iff.mp hp
    exact ⟨⟨rfl, rfl⟩, .inl ⟨rfl, rfl⟩⟩
  | _ => exact ⟨trivial, .inl ⟨rfl, keepsLedger (by rintro _ ⟨⟩) _ _ _ _ hr⟩⟩

end HandleUse

/-! ## What happens to handles -/

inductive HandleEvent : Type 1 where
  /-- A handle is made, and starts a family. -/
  | opens (h : Handle)
  /-- A copy of a handle is that handle. -/
  | copies (h : Handle)
  | uses (h : Handle) (use : HandleUse) (t : Trace Host) (r : Except Fault use.Answer)

namespace HandleEvent

variable {h h' : Handle} {events more : List HandleEvent}

def made? : HandleEvent → Option Handle
  | opens h | copies h => some h
  | uses .. => none

/-- The handles that there are. -/
def made (events : List HandleEvent) : List Handle := events.filterMap made?

/-- The snapshot of a capture by a member of the family. -/
def captured? (h : Handle) : HandleEvent → Option Snapshot
  | uses h' use _ r => if h' = h then use.captured? r else none
  | _ => none

/-- The snapshot of the first capture in the family that succeeded. -/
def firstCapture (h : Handle) (events : List HandleEvent) : Option Snapshot :=
  events.findSome? (captured? h)

theorem firstCapture_concat {e : HandleEvent} :
    firstCapture h (events ++ [e]) = (firstCapture h events).or (e.captured? h) := by
  rw [firstCapture, List.findSome?_append, List.findSome?_singleton]
  rfl

theorem firstCapture_append {s : Snapshot} (hs : firstCapture h events = some s) :
    firstCapture h (events ++ more) = some s := by
  rw [firstCapture, List.findSome?_append]
  exact congrArg (Option.or · _) hs

theorem mem_made_append (hm : h ∈ made events) : h ∈ made (events ++ more) := by
  rw [made, List.filterMap_append]
  exact List.mem_append_left _ hm

theorem mem_made_concat {e : HandleEvent} :
    h ∈ made (events ++ [e]) ↔ h ∈ made events ∨ e.made? = some h := by
  simp [made, List.filterMap_append, List.filterMap_cons]
  cases e.made? <;> simp [eq_comm]

end HandleEvent

open HandleEvent

/-- What happens at a bench, from its start. Whatever the databases answer is possible, so others
may change them at any time. -/
inductive Course : List HandleEvent → Ledger → Prop where
  | start : Course [] .empty
  | opens {events : List HandleEvent} {l l' : Ledger} {t : Trace Host} {db : Database}
      {h : Handle} :
    Course events l → Lab.Runs (Handle.new db) l t h l' → Course (events ++ [.opens h]) l'
  | copies {events : List HandleEvent} {l : Ledger} {h : Handle} :
    Course events l → h ∈ made events → Course (events ++ [.copies h]) l
  | uses {events : List HandleEvent} {l l' : Ledger} {t : Trace Host} {h : Handle}
      {use : HandleUse} {r : Except Fault use.Answer} :
    Course events l → h ∈ made events → Attempt.Runs (use.act h) l t r l' →
    Course (events ++ [.uses h use t r]) l'

/-- The ledger has what happened: handles have the same number only if they are the same, and what
is frozen under it is the first capture of the family. -/
structure Recorded (events : List HandleEvent) (l : Ledger) : Prop where
  numbered : ∀ h ∈ made events, h.family < l.families
  distinct : ∀ h ∈ made events, ∀ h' ∈ made events, h.family = h'.family → h = h'
  frozen : ∀ h ∈ made events, l.baseline? h.family = firstCapture h events
  unused : ∀ n, l.families ≤ n → l.baseline? n = none
  fresh : ∀ h, l.families ≤ h.family → firstCapture h events = none

namespace Recorded

variable {events : List HandleEvent} {h : Handle}

theorem opens {db : Database} (hr : Recorded events l) :
    Recorded (events ++ [.opens ⟨db, l.families⟩]) l.withFamily := by
  have same (h : Handle) : firstCapture h (events ++ [.opens ⟨db, l.families⟩]) =
      firstCapture h events := firstCapture_concat.trans Option.or_none
  have known {h : Handle} (hm : h ∈ made (events ++ [.opens ⟨db, l.families⟩])) :
      h ∈ made events ∨ h = ⟨db, l.families⟩ := by
    rcases mem_made_concat.mp hm with hm | ⟨⟨⟩⟩
    · exact .inl hm
    · exact .inr rfl
  constructor
  · intro h hm
    rcases known hm with hm | rfl
    · exact Nat.lt_succ_of_lt (hr.numbered h hm)
    · exact Nat.lt_succ_self _
  · intro h₁ hm₁ h₂ hm₂ he
    rcases known hm₁ with hm₁ | rfl <;> rcases known hm₂ with hm₂ | rfl
    · exact hr.distinct _ hm₁ _ hm₂ he
    · exact absurd he (Nat.ne_of_lt (hr.numbered _ hm₁))
    · exact absurd he.symm (Nat.ne_of_lt (hr.numbered _ hm₂))
    · rfl
  · intro h hm
    rw [same]
    rcases known hm with hm | rfl
    · exact hr.frozen h hm
    · rw [hr.fresh _ (Nat.le_refl _)]
      exact hr.unused _ (Nat.le_refl _)
  · exact fun n hn => hr.unused n (Nat.le_of_succ_le hn)
  · exact fun h hn => (same h).trans (hr.fresh h (Nat.le_of_succ_le hn))

theorem copies (hr : Recorded events l) (hm : h ∈ made events) :
    Recorded (events ++ [.copies h]) l := by
  have same (h' : Handle) : firstCapture h' (events ++ [.copies h]) = firstCapture h' events :=
    firstCapture_concat.trans Option.or_none
  have known {h' : Handle} (hm' : h' ∈ made (events ++ [.copies h])) : h' ∈ made events := by
    rcases mem_made_concat.mp hm' with hm' | ⟨⟨⟩⟩
    · exact hm'
    · exact hm
  exact ⟨fun h' hm' => hr.numbered h' (known hm'),
    fun h₁ hm₁ h₂ hm₂ => hr.distinct h₁ (known hm₁) h₂ (known hm₂),
    fun h' hm' => (hr.frozen h' (known hm')).trans (same h').symm, hr.unused,
    fun h' hn => (same h').trans (hr.fresh h' hn)⟩

theorem uses {use : HandleUse} {r : Except Fault use.Answer} (hr : Recorded events l)
    (hm : h ∈ made events) (hrun : Attempt.Runs (use.act h) l t r l') :
    Recorded (events ++ [.uses h use t r]) l' := by
  have known {h' : Handle} (hm' : h' ∈ made (events ++ [.uses h use t r])) : h' ∈ made events := by
    rcases mem_made_concat.mp hm' with hm' | ⟨⟨⟩⟩
    exact hm'
  have others {h' : Handle} (hne : h ≠ h') :
      firstCapture h' (events ++ [.uses h use t r]) = firstCapture h' events := by
    rw [firstCapture_concat, HandleEvent.captured?, if_neg hne, Option.or_none]
  have distinct := fun h₁ hm₁ h₂ hm₂ => hr.distinct h₁ (known hm₁) h₂ (known hm₂)
  have fresh : ∀ h', l.families ≤ h'.family →
      firstCapture h' (events ++ [.uses h use t r]) = none := by
    intro h' hn
    have hne : h ≠ h' := by
      rintro rfl
      exact absurd (hr.numbered h hm) (Nat.not_lt.mpr hn)
    exact (others hne).trans (hr.fresh h' hn)
  rcases (HandleUse.outcome hrun).2 with ⟨hcap, rfl⟩ | ⟨s, hcap, hnone, rfl⟩
  · refine ⟨fun h' hm' => hr.numbered h' (known hm'), distinct, fun h' hm' => ?_, hr.unused, fresh⟩
    rw [hr.frozen h' (known hm'), firstCapture_concat, HandleEvent.captured?, hcap, ite_self,
      Option.or_none]
  · -- the number of the family is frozen, and no other one
    refine ⟨fun h' hm' => hr.numbered h' (known hm'), distinct, fun h' hm' => ?_, fun n hn => ?_,
      fresh⟩
    · by_cases he : h = h'
      · subst he
        rw [Ledger.baseline?_freeze hnone, firstCapture_concat, ← hr.frozen h hm, hnone,
          HandleEvent.captured?, if_pos rfl, hcap]
        rfl
      · have hne : h'.family ≠ h.family := fun hf => he (hr.distinct _ hm _ (known hm') hf.symm)
        rw [Ledger.baseline?_freeze_of_ne hne, others he, hr.frozen h' (known hm')]
    · have hne : n ≠ h.family := fun hf => absurd (hr.numbered h hm) (Nat.not_lt.mpr (hf ▸ hn))
      rw [Ledger.baseline?_freeze_of_ne hne]
      exact hr.unused n hn

end Recorded

/-- What the members of a family make of their baseline after these events. -/
structure FrozenOnce (h : Handle) (events : List HandleEvent) (l : Ledger) : Prop where
  tells : ∀ (use : HandleUse) t (r : Except Fault use.Answer) l',
    Attempt.Runs (use.act h) l t r l' → use.Tells h (firstCapture h events) t r
  /-- A capture that fails changes nothing, nor does anything else. -/
  unchanged : ∀ (use : HandleUse) t (r : Except Fault use.Answer) l',
    Attempt.Runs (use.act h) l t r l' → use.captured? r = none → l' = l
  /-- As long as no capture succeeded, whichever were tried, one does that can read the tables. -/
  capturable : firstCapture h events = none → ∀ tables (raw : String → List String), ∃ s l',
    Attempt.Runs (h.captureBaseline tables) l
      (tables.map fun table => h.db.listed table (.ok (raw table))) (.ok s) l'
  forever : ∀ s, firstCapture h events = some s → ∀ more l₁, Course (events ++ more) l₁ →
    ∀ (use : HandleUse) t (r : Except Fault use.Answer) l₂,
      Attempt.Runs (use.act h) l₁ t r l₂ → use.Tells h (some s) t r
  /-- The frozen keys of a table without those that are removed and with those that are added are
  the keys that there are. -/
  balanced : ∀ s table base, firstCapture h events = some s → s.get? table = some base →
    ∀ raw added removed l₁ l₂,
      Attempt.Runs (h.keysAdded table) l [h.db.listed table (.ok raw)] (.ok added) l₁ →
      Attempt.Runs (h.keysRemoved table) l [h.db.listed table (.ok raw)] (.ok removed) l₂ →
      ∀ key, key ∈ h.db.keysIn table raw ↔ key ∈ base ∧ key ∉ removed ∨ key ∈ added

namespace Course

variable {events more : List HandleEvent} {h : Handle}

theorem recorded (hc : Course events l) : Recorded events l := by
  induction hc with
  | start => exact ⟨by simp [made], by simp [made], by simp [made], fun _ _ => rfl, fun _ _ => rfl⟩
  | opens _ hr ih =>
    obtain ⟨rfl, rfl, rfl⟩ := Handle.runs_new_iff.mp hr
    exact ih.opens
  | copies _ hm ih => exact ih.copies hm
  | uses _ hm hr ih => exact ih.uses hm hr

theorem tells (hc : Course events l) (hm : h ∈ made events) {use : HandleUse}
    {r : Except Fault use.Answer} (hr : Attempt.Runs (use.act h) l t r l') :
    use.Tells h (firstCapture h events) t r := by
  rw [← hc.recorded.frozen h hm]
  exact (HandleUse.outcome hr).1

theorem balanced (hc : Course events l) (hm : h ∈ made events) {s : Snapshot} {table : String}
    {base raw added removed : List String} {l₁ l₂ : Ledger} (hs : firstCapture h events = some s)
    (hbase : s.get? table = some base)
    (ha : Attempt.Runs (h.keysAdded table) l [h.db.listed table (.ok raw)] (.ok added) l₁)
    (hr : Attempt.Runs (h.keysRemoved table) l [h.db.listed table (.ok raw)] (.ok removed) l₂)
    (key : String) :
    key ∈ h.db.keysIn table raw ↔ key ∈ base ∧ key ∉ removed ∨ key ∈ added := by
  have frozen : h.frozen? l table = some base := by
    rw [Handle.frozen?, hc.recorded.frozen h hm, hs]
    exact hbase
  obtain ⟨-, ha⟩ := Handle.runs_keysAdded_iff.mp ha
  obtain ⟨-, hr⟩ := Handle.runs_keysRemoved_iff.mp hr
  rw [frozen] at ha hr
  obtain ⟨x, hx, ha⟩ := ha
  obtain ⟨y, hy, hr⟩ := hr
  -- both looks show the same keys
  cases Database.listed_inj.mp (List.singleton_inj.mp hx)
  cases Database.listed_inj.mp (List.singleton_inj.mp hy)
  cases ha
  cases hr
  by_cases hb : key ∈ base <;> simp [hb]

/-- After any course of events, what a handle and its copies tell is relative to the first capture
of one of them that succeeded, and stays so. -/
theorem frozen_once (hc : Course events l) (hm : h ∈ made events) : FrozenOnce h events l where
  tells _ _ _ _ hr := hc.tells hm hr
  unchanged use t r l' hr hnone := by
    rcases (HandleUse.outcome hr).2 with ⟨-, hl⟩ | ⟨s, hsome, -⟩
    · exact hl
    · rw [hnone] at hsome
      cases hsome
  capturable hfree tables raw := by
    obtain ⟨s, hread⟩ := Handle.ReadUp.exists_ok h .empty tables raw
    refine ⟨s, l.freeze h.family s, Handle.runs_captureBaseline_iff.mpr (.inr ⟨s, hread, ?_⟩)⟩
    rw [hc.recorded.frozen h hm, hfree]
    exact ⟨rfl, rfl⟩
  forever s hs more l₁ hc₁ use t r l₂ hr := by
    rw [← firstCapture_append hs]
    exact hc₁.tells (mem_made_append hm) hr
  balanced _ _ _ hs hbase _ _ _ _ _ ha hr := hc.balanced hm hs hbase ha hr

end Course

end SwitchLab

/-! ## Two families -/

namespace SwitchLab.TwoFamilies

def config : Handle := ⟨⟨"redis.sock", .config⟩, 0⟩

def appl : Handle := ⟨⟨"redis.sock", .appl⟩, 1⟩

def lost : Fault := .store "connection reset"

def ports : Snapshot := .ofPairs [("PORT", ["Ethernet0", "Ethernet4"]), ("VLAN", [])]

def portTable : Snapshot := .ofPairs [("PORT_TABLE", ["Ethernet0"])]

/-- The first capture fails at its second table. Another family captures, and then the copy does,
which lists a table twice. -/
def events : List HandleEvent :=
  [.opens config, .copies config, .opens appl,
    .uses config (.captureBaseline ["PORT", "VLAN"])
      [config.db.listed "PORT" (.ok ["PORT|Ethernet0"]), config.db.listed "VLAN" (.error lost)]
      (.error lost),
    .uses appl (.captureBaseline ["PORT_TABLE"])
      [appl.db.listed "PORT_TABLE" (.ok ["PORT_TABLE:Ethernet0"])] (.ok portTable),
    .uses config (.captureBaseline ["PORT", "VLAN", "PORT"])
      [config.db.listed "PORT" (.ok ["PORT|Ethernet0"]), config.db.listed "VLAN" (.ok []),
        config.db.listed "PORT" (.ok ["PORT|Ethernet4", "PORT|Ethernet0"])] (.ok ports),
    .uses config (.captureBaseline []) []
      (.error (.invalidState "baseline captured" "capture_baseline")),
    .uses config (.keysAdded "PORT")
      [config.db.listed "PORT" (.ok ["PORT|Ethernet8", "PORT|Ethernet0"])] (.ok ["Ethernet8"])]

def ledger : Ledger := ⟨2, [(1, portTable), (0, ports)]⟩

theorem course : Course events ledger := by
  have first : Lab.Runs (Handle.new config.db) .empty [] config ⟨1, []⟩ :=
    Handle.runs_new_iff.mpr ⟨rfl, rfl, rfl⟩
  have second : Lab.Runs (Handle.new appl.db) ⟨1, []⟩ [] appl ⟨2, []⟩ :=
    Handle.runs_new_iff.mpr ⟨rfl, rfl, rfl⟩
  have failed : Attempt.Runs (config.captureBaseline ["PORT", "VLAN"]) ⟨2, []⟩
      [config.db.listed "PORT" (.ok ["PORT|Ethernet0"]), config.db.listed "VLAN" (.error lost)]
      (.error lost) ⟨2, []⟩ := Dialogue.runs_of_replay (by decide +kernel)
  have elsewhere : Attempt.Runs (appl.captureBaseline ["PORT_TABLE"]) ⟨2, []⟩
      [appl.db.listed "PORT_TABLE" (.ok ["PORT_TABLE:Ethernet0"])] (.ok portTable)
      ⟨2, [(1, portTable)]⟩ := Dialogue.runs_of_replay (by decide +kernel)
  have captured : Attempt.Runs (config.captureBaseline ["PORT", "VLAN", "PORT"])
      ⟨2, [(1, portTable)]⟩
      [config.db.listed "PORT" (.ok ["PORT|Ethernet0"]), config.db.listed "VLAN" (.ok []),
        config.db.listed "PORT" (.ok ["PORT|Ethernet4", "PORT|Ethernet0"])] (.ok ports) ledger :=
    Dialogue.runs_of_replay (by decide +kernel)
  have refused : Attempt.Runs (config.captureBaseline []) ledger []
      (.error (.invalidState "baseline captured" "capture_baseline")) ledger :=
    Dialogue.runs_of_replay (by decide +kernel)
  have added : Attempt.Runs (config.keysAdded "PORT") ledger
      [config.db.listed "PORT" (.ok ["PORT|Ethernet8", "PORT|Ethernet0"])] (.ok ["Ethernet8"])
      ledger := Dialogue.runs_of_replay (by decide +kernel)
  have opened : Course [.opens config, .copies config, .opens appl] ⟨2, []⟩ :=
    .opens (.copies (.opens .start first) (.head _)) second
  have failed := @Course.uses _ _ _ _ _ (.captureBaseline _) _ opened (.head _) failed
  have elsewhere :=
    @Course.uses _ _ _ _ _ (.captureBaseline _) _ failed (.tail _ (.tail _ (.head _))) elsewhere
  have captured := @Course.uses _ _ _ _ _ (.captureBaseline _) _ elsewhere (.head _) captured
  have refused := @Course.uses _ _ _ _ _ (.captureBaseline _) _ captured (.head _) refused
  exact @Course.uses _ _ _ _ _ (.keysAdded _) _ refused (.head _) added

theorem config_frozen_once : Course events ledger ∧ config ∈ HandleEvent.made events ∧
    FrozenOnce config events ledger :=
  ⟨course, .head _, course.frozen_once (.head _)⟩

example : HandleEvent.firstCapture config events = some ports := by decide +kernel

end SwitchLab.TwoFamilies
