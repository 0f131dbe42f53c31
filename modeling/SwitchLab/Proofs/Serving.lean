import SwitchLab.Bench.World
import SwitchLab.Proofs.Globs
import SwitchLab.Proofs.Keys

/-! A memory as the database behind store handles, and what the handles list of
it: the keys that match, each once and in order. The filter by the start of a
raw key makes up for the tables whose names are patterns themselves. -/

namespace SwitchLab

variable {α β : Type} {others : (q : Query) → q.Reply} {m m₁ : Memory} {l l₁ : Ledger}
  {h : Handle} {table key pattern : String}

/-! ## Work in given surroundings -/

theorem Dialogue.run_bind {I : Interface} {σ : Type} {answer : (q : I.Request) → σ → I.Reply q × σ}
    {p : Dialogue I α} {f : α → Dialogue I β} {s : σ} :
    (p.bind f).run answer s = (f (p.run answer s).1).run answer (p.run answer s).2 := by
  induction p generalizing s with
  | done a => rfl
  | ask q next ih =>
    rw [bind, run, run]
    exact ih _

/-- What happens in some surroundings is one of the runs. -/
theorem Dialogue.exists_runs_run {I : Interface} {σ : Type}
    {answer : (q : I.Request) → σ → I.Reply q × σ} {p : Dialogue I α} {s : σ} :
    ∃ t, p.Runs t (p.run answer s).1 := by
  induction p generalizing s with
  | done a => exact ⟨[], .done a⟩
  | ask q next ih =>
    obtain ⟨t, ht⟩ := ih (answer q s).1 (s := (answer q s).2)
    exact ⟨⟨q, (answer q s).1⟩ :: t, .ask ht⟩

namespace Attempt

variable {σ : Type}

/-- What the work gives in surroundings that answer from a state of their own, which anything may
change meanwhile. -/
def resultIn (answer : (q : Query) → σ → q.Reply × σ) (s : σ) (work : Attempt α) (l : Ledger) :
    Except Fault α × Ledger :=
  (Dialogue.run (I := Host) answer (work.run.run l) s).1

theorem exists_runs_resultIn (work : Attempt α) (l : Ledger)
    (answer : (q : Query) → σ → q.Reply × σ) (s : σ) : ∃ t,
    Attempt.Runs work l t (work.resultIn answer s l).1 (work.resultIn answer s l).2 :=
  Dialogue.exists_runs_run (I := Host)

end Attempt

namespace Memory

/-- A memory answers every call of a database client, whichever database it is for. What else is
asked, `others` answers. -/
def answer (others : (q : Query) → q.Reply) : (q : Query) → Memory → q.Reply × Memory
  | .keys _ pattern, m => (Except.ok (m.keys pattern), m)
  | .fetch _ key, m => (Except.ok (m.fetch key), m)
  | .merge _ key fields, m => (Except.ok (), m.merge key fields)
  | .dropFields _ key fields, m => (Except.ok (), m.dropFields key fields)
  | .dropKey _ key, m => (Except.ok (), m.dropKey key)
  | q, m => (others q, m)

/-- The work with the memory behind all its handles. -/
def perform (others : (q : Query) → q.Reply) (m : Memory) (work : Attempt α) (l : Ledger) :
    (Except Fault α × Ledger) × Memory :=
  Dialogue.run (I := Host) (answer others) (work.run.run l) m

theorem perform_bind {work : Attempt α} {f : α → Attempt β} :
    m.perform others (work >>= f) l = Dialogue.run (I := Host) (answer others)
      ((ExceptT.bindCont f (m.perform others work l).1.1).run (m.perform others work l).1.2)
      (m.perform others work l).2 := Dialogue.run_bind

theorem perform_bind_ok {work : Attempt α} {f : α → Attempt β} {a : α}
    (hw : m.perform others work l = ((.ok a, l₁), m₁)) :
    m.perform others (work >>= f) l = m₁.perform others (f a) l₁ := by
  rw [perform_bind, hw]
  rfl

theorem perform_bind_error {work : Attempt α} {f : α → Attempt β} {e : Fault}
    (hw : m.perform others work l = ((.error e, l₁), m₁)) :
    m.perform others (work >>= f) l = ((.error e, l₁), m₁) := by
  rw [perform_bind, hw]
  rfl

end Memory

/-! ## A memory in the world of a test -/

/-- The database that a call of a client is for. -/
def Query.served? : Query → Option Database
  | .keys db _ | .fetch db _ | .merge db _ _ | .dropFields db _ _ | .dropKey db _ => some db
  | _ => none

namespace StoreBench

variable {b : StoreBench} {call : StoreCall}

/-- No change is to come, and no call is to fail. -/
def Quiet (b : StoreBench) : Prop :=
  b.changes = [] ∧ ∀ call, (b.failures.lookup call).getD 0 = 0

theorem Quiet.tryCall_eq (hb : b.Quiet) : b.tryCall call = (.ok (), b) := by
  have hnone := hb.2 call
  rw [tryCall]
  cases hl : b.failures.lookup call with
  | none => rfl
  | some n =>
    rw [hl] at hnone
    obtain rfl : n = 0 := hnone
    rfl

theorem Quiet.beforeRead_eq (hb : b.Quiet) : b.beforeRead = { b with reads := b.reads + 1 } := by
  rw [beforeRead, hb.1]
  rfl

theorem Quiet.beforeRead (hb : b.Quiet) : b.beforeRead.Quiet := by
  rw [hb.beforeRead_eq]
  exact hb

end StoreBench

namespace World

variable {w : World} {s : StoreName} {b : StoreBench}

@[simp] theorem store_setStore : (w.setStore s b).store s = b := by
  simp [store, setStore]

theorem call_of_quiet {kind : StoreCall} {act : Memory → α × Memory} (hb : b.Quiet) :
    w.call s b kind act =
      (.ok (act b.memory).1, w.setStore s { b with memory := (act b.memory).2 }) := by
  rw [call, hb.tryCall_eq]

/-- A call of a client of a quiet database is answered by its memory, and the database stays
quiet. -/
theorem answer_of_quiet {q : Query} {db : Database} (hq : q.served? = some db)
    (hb : (w.store db.store).Quiet) :
    (answer q w).1 = (Memory.answer others q (w.store db.store).memory).1 ∧
      ((answer q w).2.store db.store).memory =
        (Memory.answer others q (w.store db.store).memory).2 ∧
      ((answer q w).2.store db.store).Quiet := by
  have hread := hb.beforeRead_eq
  cases q with
  | keys | fetch =>
    cases hq
    rw [answer, call_of_quiet hb.beforeRead, hread]
    exact ⟨rfl, by rw [store_setStore]; rfl, by rw [store_setStore]; exact hb⟩
  | merge | dropFields | dropKey =>
    cases hq
    rw [answer, call_of_quiet hb]
    exact ⟨rfl, by rw [store_setStore]; rfl, by rw [store_setStore]; exact hb⟩
  | _ => cases hq

end World

namespace Memory

/-! ## The operations of a handle -/

theorem perform_keysMatching : m.perform others (h.keysMatching pattern) l =
    ((.ok (sortKeys (m.keys pattern)), l), m) := rfl

theorem perform_getKeys : m.perform others (h.getKeys table) l =
    ((.ok (h.db.keysIn table (m.keys (h.tableKey table "" ++ "*"))), l), m) := rfl

theorem perform_getEntry : m.perform others (h.getEntry table key) l =
    ((.ok (m.fetch (h.tableKey table key)), l), m) := rfl

/-! ## The keys of a memory -/

theorem fetch_of_get? {record : FieldValues} (h : m.records.get? key = some record) :
    m.fetch key = record := by
  rw [fetch, h, Option.getD_some]

theorem contains_iff_mem : m.contains key = true ↔ key ∈ m.records.keys :=
  KeyMap.contains_iff_mem

theorem mem_keys_iff : key ∈ m.keys pattern ↔
    m.contains key = true ∧ globMatches pattern key = true := by
  rw [keys, List.mem_filter, contains_iff_mem]

theorem nodup_keys (hm : m.records.Ascending) : (m.keys pattern).Nodup := hm.nodup_keys.filter _

/-- No raw key has a star. -/
def Plain (m : Memory) : Prop := ∀ key, m.contains key = true → '*' ∉ key.toList

theorem Plain.of_keys (hkeys : ∀ key ∈ m.records.keys, '*' ∉ key.toList) : m.Plain :=
  fun key hkey => hkeys key (contains_iff_mem.mp hkey)

theorem mem_keys_iff_standsFor (hplain : m.Plain) : key ∈ m.keys pattern ↔
    m.contains key = true ∧ Glob.StandsFor pattern.toList key.toList := by
  rw [mem_keys_iff]
  constructor
  · rintro ⟨hc, hg⟩
    exact ⟨hc, (globMatches_iff (hplain key hc)).mp hg⟩
  · rintro ⟨hc, hs⟩
    exact ⟨hc, (globMatches_iff (hplain key hc)).mpr hs⟩

/-- The pattern of a table lets a key through that has no star. -/
theorem mem_keys_of_tableKey
    (hkey : m.contains (h.tableKey table key) = true → '*' ∉ (h.tableKey table key).toList) :
    h.tableKey table key ∈ m.keys (h.tableKey table "" ++ "*") ↔
      m.contains (h.tableKey table key) = true := by
  rw [mem_keys_iff]
  refine ⟨And.left, fun hc => ⟨hc, (globMatches_iff (hkey hc)).mpr ?_⟩⟩
  have whole : h.tableKey table key = h.tableKey table "" ++ key := Handle.tableKey_eq_append
  have hstart : '*' ∉ (h.tableKey table "").toList := by
    intro hmem
    refine hkey hc ?_
    rw [whole, String.toList_append]
    exact List.mem_append_left _ hmem
  rw [whole, String.toList_append, String.toList_append]
  exact Glob.standsFor_append_star hstart

/-- The keys that a table has in the memory. -/
def tableKeys (m : Memory) (db : Database) (table : String) : List String :=
  db.keysIn table (m.keys (db.store.tableKey table "" ++ "*"))

theorem mem_tableKeys_of_notMem {db : Database}
    (hkey : m.contains (db.store.tableKey table key) = true →
      '*' ∉ (db.store.tableKey table key).toList) :
    key ∈ m.tableKeys db table ↔ m.contains (db.store.tableKey table key) = true :=
  Database.mem_keysIn_iff.trans (mem_keys_of_tableKey (h := ⟨db, 0⟩) hkey)

theorem mem_keysIn_keys_iff (hplain : m.Plain) :
    key ∈ h.db.keysIn table (m.keys (h.tableKey table "" ++ "*")) ↔
      m.contains (h.tableKey table key) = true :=
  mem_tableKeys_of_notMem (hplain _)

/-- A listing by pattern shows the raw keys that the pattern stands for, and a listing by table
those keys whose raw keys are there; both ascend. -/
theorem listings_exact (others : (q : Query) → q.Reply) (h : Handle) (l : Ledger)
    (hm : m.records.Ascending) (hplain : m.Plain) :
    (∀ pattern, ∃ keys, m.perform others (h.keysMatching pattern) l = ((.ok keys, l), m) ∧
      keys.Pairwise (· < ·) ∧
      ∀ key, key ∈ keys ↔ m.contains key = true ∧ Glob.StandsFor pattern.toList key.toList) ∧
    ∀ table, ∃ keys, m.perform others (h.getKeys table) l = ((.ok keys, l), m) ∧
      keys.Pairwise (· < ·) ∧ ∀ key, key ∈ keys ↔ m.contains (h.tableKey table key) = true := by
  constructor
  · intro pattern
    refine ⟨_, perform_keysMatching, sortKeys_ascending (nodup_keys hm), fun key => ?_⟩
    rw [sortKeys_perm.mem_iff, mem_keys_iff_standsFor hplain]
  · intro table
    exact ⟨_, perform_getKeys, Database.keysIn_ascending (nodup_keys hm),
      fun key => mem_keysIn_keys_iff hplain⟩

end Memory

end SwitchLab

/-! ## A table whose name is a pattern -/

namespace SwitchLab.PatternTable

/-- Nothing else but the database answers. -/
def silence : (q : Query) → q.Reply
  | .now => Duration.zero
  | .pause _ => ()
  | .pathExists _ => false
  | .run _ | .spawn _ | .kill _ | .readFile _ | .makeDirectory _ | .writeFile _ _ | .connect _
  | .keys _ _ | .fetch _ _ | .merge _ _ _ | .dropFields _ _ _ | .dropKey _ _ | .subscribe _ _ =>
    (Except.error (.io "nobody there") : Except Fault _)

def memory : Memory := ⟨.ofPairs
  (["VLAN|Vlan10", "PORT|Ethernet4", "P?RT|Ethernet8", "PORT|Ethernet0"].map
    (·, .ofPairs [("mtu", "9100")]))⟩

def config : Handle := ⟨⟨"redis.sock", .config⟩, 0⟩

theorem keys_memory : memory.records.keys =
    ["P?RT|Ethernet8", "PORT|Ethernet0", "PORT|Ethernet4", "VLAN|Vlan10"] := by decide +kernel

theorem ascending : memory.records.Ascending := KeyMap.ascending_ofPairs

theorem plain : memory.Plain := by
  refine .of_keys ?_
  rw [keys_memory]
  decide +kernel

theorem memory_listings : memory.records.Ascending ∧ memory.Plain ∧
    (∀ pattern, ∃ keys,
      memory.perform silence (config.keysMatching pattern) .empty = ((.ok keys, .empty), memory) ∧
      keys.Pairwise (· < ·) ∧
      ∀ key, key ∈ keys ↔
        memory.contains key = true ∧ Glob.StandsFor pattern.toList key.toList) ∧
    ∀ table, ∃ keys,
      memory.perform silence (config.getKeys table) .empty = ((.ok keys, .empty), memory) ∧
      keys.Pairwise (· < ·) ∧
      ∀ key, key ∈ keys ↔ memory.contains (config.tableKey table key) = true :=
  ⟨ascending, plain, Memory.listings_exact silence config .empty ascending plain⟩

/-- The pattern of the table lets the keys of another one through, and the filter does not. -/
example : memory.keys "P?RT|*" = ["P?RT|Ethernet8", "PORT|Ethernet0", "PORT|Ethernet4"] ∧
    config.db.keysIn "P?RT" (memory.keys "P?RT|*") = ["Ethernet8"] := by decide +kernel

end SwitchLab.PatternTable
