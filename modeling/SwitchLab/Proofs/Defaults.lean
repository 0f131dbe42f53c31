import SwitchLab.Proofs.Baseline
import SwitchLab.Proofs.Serving

/-! What the baseline of a settled database holds, and when there is one. The database answers
from a memory that does not change; the default objects are there, but the records of the host
interfaces may lack fields. -/

namespace SwitchLab

variable {α β σ : Type} {others : (q : Query) → q.Reply} {m : Memory} {l : Ledger} {h : Handle}
  {table key : String}

/-! ## Work that only reads -/

namespace Memory

/-- With this memory behind the handles the work ends with `r`, and nothing is changed. -/
def Yields (others : (q : Query) → q.Reply) (m : Memory) (work : Attempt α) (r : Except Fault α) :
    Prop :=
  ∀ l, m.perform others work l = ((r, l), m)

namespace Yields

variable {work : Attempt α} {f : α → Attempt β} {a : α} {r : Except Fault β} {e : Fault}

theorem pure : m.Yields others (Pure.pure a) (.ok a) := fun _ => rfl

theorem throw : m.Yields others (MonadExcept.throw e : Attempt α) (.error e) := fun _ => rfl

theorem bind (hw : m.Yields others work (.ok a)) (hf : m.Yields others (f a) r) :
    m.Yields others (work >>= f) r := fun l =>
  (perform_bind_ok (hw l)).trans (hf l)

theorem bind_error (hw : m.Yields others work (.error e)) :
    m.Yields others (work >>= f) (.error e) := fun l =>
  perform_bind_error (hw l)

theorem foldlM {f : σ → α → Attempt σ} {g : σ → α → σ} {xs : List α} {s : σ}
    (h : ∀ s x, x ∈ xs → m.Yields others (f s x) (.ok (g s x))) :
    m.Yields others (xs.foldlM f s) (.ok (xs.foldl g s)) := by
  induction xs generalizing s with
  | nil => exact pure
  | cons x xs ih =>
    rw [List.foldlM_cons]
    exact (h s x (by simp)).bind (ih fun s y hy => h s y (by simp [hy]))

end Yields

/-- A probe that gets done in the first round ends the poll, however short its time is. -/
theorem Yields.poll [Shown α] {what : String} {cfg : Polling} {probe : Attempt (Bool × α)}
    {value : α} (hp : m.Yields others probe (.ok (true, value))) :
    m.Yields others (SwitchLab.poll what cfg probe) (.ok (.ok (true, value))) := by
  have time : m.Yields others (clock : Attempt Duration) (.ok (others .now)) := fun _ => rfl
  refine time.bind ?_
  cases cfg.moreRounds with
  | zero => exact hp.bind Yields.pure
  | succ more => exact hp.bind Yields.pure

/-! ## The tables -/

theorem yields_getKeys : m.Yields others (h.getKeys table) (.ok (m.tableKeys h.db table)) :=
  fun _ => perform_getKeys

theorem yields_getEntry :
    m.Yields others (h.getEntry table key) (.ok (m.fetch (h.tableKey table key))) :=
  fun _ => perform_getEntry

theorem mem_tableKeys_iff (hplain : m.Plain) :
    key ∈ m.tableKeys h.db table ↔ m.contains (h.tableKey table key) = true :=
  mem_keysIn_keys_iff hplain

theorem tableKeys_ascending (hm : m.records.Ascending) :
    (m.tableKeys h.db table).Pairwise (· < ·) :=
  Database.keysIn_ascending (nodup_keys hm)

theorem nodup_tableKeys (hm : m.records.Ascending) : (m.tableKeys h.db table).Nodup :=
  Database.nodup_keysIn (nodup_keys hm)

/-- The tables as they are, in one snapshot. -/
def snapshotOf (m : Memory) (h : Handle) (tables : List String) : Snapshot :=
  tables.foldl (fun s table => s.insert table (keySet (m.tableKeys h.db table))) .empty

theorem yields_snapshot {tables : List String} :
    m.Yields others (h.snapshot tables) (.ok (m.snapshotOf h tables)) :=
  Yields.foldlM fun _ _ _ => yields_getKeys.bind Yields.pure

theorem perform_captureBaseline {tables : List String} (hl : l.baseline? h.family = none) :
    m.perform others (h.captureBaseline tables) l =
      ((.ok (m.snapshotOf h tables), l.freeze h.family (m.snapshotOf h tables)), m) := by
  rw [Handle.captureBaseline, perform_bind_ok (yields_snapshot l)]
  have unfrozen : m.perform others (liftM h.baseline? : Attempt _) l = ((.ok none, l), m) := by
    rw [← hl]
    rfl
  rw [perform_bind_ok unfrozen]
  rfl

/-! ## The default objects -/

open Asic

/-- The default objects are made: one switch, and a virtual router at least. -/
structure HasDefaults (m : Memory) (h : Handle) (switchOid : String) : Prop where
  ascending : m.records.Ascending
  plain : m.Plain
  switch : ∀ key, m.contains (h.tableKey switchTable key) = true ↔ key = switchOid
  router : ∃ key, m.contains (h.tableKey virtualRouterTable key) = true

/-- The memory has a record of this host interface, with its name and its port. -/
structure HasHostIf (m : Memory) (h : Handle) (r : HostIf) : Prop where
  held : m.contains (h.tableKey hostIfTable r.oid) = true
  name : (m.fetch (h.tableKey hostIfTable r.oid)).get? "SAI_HOSTIF_ATTR_NAME" = some r.name
  port : (m.fetch (h.tableKey hostIfTable r.oid)).get? "SAI_HOSTIF_ATTR_OBJ_ID" = some r.portOid

/-- No record of a host interface lacks its name or its port. -/
def HostIfsComplete (m : Memory) (h : Handle) : Prop :=
  ∀ key, m.contains (h.tableKey hostIfTable key) = true → ∃ r, m.HasHostIf h r ∧ r.oid = key

/-- No two host interfaces agree on `f`. -/
def DistinctBy (m : Memory) (h : Handle) (f : HostIf → String) : Prop :=
  ∀ r r', m.HasHostIf h r → m.HasHostIf h r' → f r = f r' → r = r'

theorem distinctBy_oid : m.DistinctBy h HostIf.oid := by
  rintro ⟨oid, name, port⟩ ⟨oid', name', port'⟩ hr hr' ho
  obtain rfl : oid = oid' := ho
  obtain rfl : name = name' := Option.some.inj (hr.name.symm.trans hr'.name)
  obtain rfl : port = port' := Option.some.inj (hr.port.symm.trans hr'.port)
  rfl

namespace HasDefaults

variable {switchOid : String}

theorem switchKeys (hm : m.HasDefaults h switchOid) :
    m.tableKeys h.db switchTable = [switchOid] := by
  refine List.perm_singleton.mp ((List.perm_ext_iff_of_nodup (nodup_tableKeys hm.ascending)
    (List.nodup_singleton _)).mpr fun key => ?_)
  rw [mem_tableKeys_iff hm.plain, hm.switch, List.mem_singleton]

/-- The virtual router that comes first. -/
theorem routerKeys (hm : m.HasDefaults h switchOid) : ∃ router rest,
    m.tableKeys h.db virtualRouterTable = router :: rest ∧
      m.contains (h.tableKey virtualRouterTable router) = true ∧
      ∀ key, m.contains (h.tableKey virtualRouterTable key) = true → router ≤ key := by
  have hmem {key : String} : key ∈ m.tableKeys h.db virtualRouterTable ↔
      m.contains (h.tableKey virtualRouterTable key) = true := mem_tableKeys_iff hm.plain
  have hasc : (m.tableKeys h.db virtualRouterTable).Pairwise (· < ·) :=
    tableKeys_ascending hm.ascending
  obtain ⟨some, hsome⟩ := hm.router
  cases hkeys : m.tableKeys h.db virtualRouterTable with
  | nil =>
    rw [← hmem, hkeys] at hsome
    cases hsome
  | cons router rest =>
    rw [hkeys] at hmem hasc
    refine ⟨router, rest, rfl, hmem.mp (by simp), fun key hkey => ?_⟩
    rcases List.mem_cons.mp (hmem.mpr hkey) with rfl | hrest
    · exact String.le_refl _
    · exact Std.le_of_lt ((List.pairwise_cons.mp hasc).1 key hrest)

end HasDefaults

end Memory

/-! ## The reading of names -/

namespace AsicDb

open Asic Memory

variable {switchOid : String} {keys : List String}

theorem yields_awaitDefaults (timeout : Duration) (hm : m.HasDefaults h switchOid) :
    m.Yields others (awaitDefaults h timeout) (.ok ()) := by
  obtain ⟨router, rest, hrouters, -⟩ := hm.routerKeys
  have counts : m.Yields others (liftM (countDefaults h) : Attempt _)
      (.ok ((m.tableKeys h.db switchTable).length, (m.tableKeys h.db virtualRouterTable).length)) :=
    fun _ => rfl
  rw [hm.switchKeys, hrouters] at counts
  have probe : m.Yields others (do
      let counted ← countDefaults h
      return (counted.1 = 1 && 1 ≤ counted.2, counted))
      (.ok (true, 1, rest.length + 1)) := by
    refine counts.bind ?_
    simp only [List.length_cons, Nat.le_add_left, decide_true]
    exact Yields.pure
  exact probe.poll.bind Yields.pure

theorem yields_firstKey {whenNone : String} {rest : List String}
    (hk : m.tableKeys h.db table = key :: rest) :
    m.Yields others (firstKey h table whenNone) (.ok key) := by
  refine yields_getKeys.bind ?_
  rw [hk]
  exact Yields.pure

theorem yields_hostIf {r : HostIf} (hr : m.HasHostIf h r) :
    m.Yields others (hostIf h r.oid) (.ok r) := by
  refine yields_getEntry.bind ?_
  rw [ofFields_eq_ok_iff.mpr ⟨rfl, hr.name, hr.port⟩]
  exact Yields.pure

variable (others) in
theorem yields_hostIf_error (hc : m.contains (h.tableKey hostIfTable key) = true)
    (hnot : ¬∃ r, m.HasHostIf h r ∧ r.oid = key) :
    ∃ text, m.Yields others (hostIf h key) (.error (.baseline text)) := by
  cases hread : (TableRecord.ofFields key (m.fetch (h.tableKey hostIfTable key)) :
      Except Fault HostIf) with
  | ok r =>
    obtain ⟨rfl, hn, hp⟩ := ofFields_eq_ok_iff.mp hread
    exact absurd ⟨r, ⟨hc, hn, hp⟩, rfl⟩ hnot
  | error e =>
    refine ⟨s!"malformed host interface: {e.message}", yields_getEntry.bind ?_⟩
    rw [hread]
    exact Yields.throw

theorem yields_addHostIf {r : HostIf} (hr : m.HasHostIf h r) (names : AsicNames) :
    m.Yields others (do return names.addHostIf (← hostIf h r.oid)) (.ok (names.addHostIf r)) :=
  (yields_hostIf hr).bind Yields.pure

variable (others) in
/-- What is done for each host interface. -/
theorem yields_addHostIfs (hall : ∀ key ∈ keys, ∃ r, m.HasHostIf h r ∧ r.oid = key) :
    ∃ hostIfs : List HostIf, hostIfs.map (·.oid) = keys ∧ (∀ r ∈ hostIfs, m.HasHostIf h r) ∧
      ∀ names, m.Yields others
        (keys.foldlM (fun names key => do return names.addHostIf (← hostIf h key)) names)
        (.ok (hostIfs.foldl AsicNames.addHostIf names)) := by
  induction keys with
  | nil => exact ⟨[], rfl, by simp, fun _ => Yields.pure⟩
  | cons key keys ih =>
    obtain ⟨r, hr, rfl⟩ := hall key (by simp)
    obtain ⟨hostIfs, rfl, hin, hyields⟩ := ih fun key hk => hall key (by simp [hk])
    refine ⟨r :: hostIfs, rfl, by simpa [hr] using hin, fun names => ?_⟩
    rw [List.foldlM_cons]
    exact (yields_addHostIf hr names).bind (hyields _)

variable (others) in
/-- The first record that lacks a field ends the reading. -/
theorem yields_addHostIfs_error
    (hkeys : ∀ key ∈ keys, m.contains (h.tableKey hostIfTable key) = true)
    (hnot : ¬∀ key ∈ keys, ∃ r, m.HasHostIf h r ∧ r.oid = key) (names : AsicNames) :
    ∃ text, m.Yields others
      (keys.foldlM (fun names key => do return names.addHostIf (← hostIf h key)) names)
      (.error (.baseline text)) := by
  induction keys generalizing names with
  | nil => exact absurd (by simp) hnot
  | cons key keys ih =>
    rw [List.foldlM_cons]
    by_cases hr : ∃ r, m.HasHostIf h r ∧ r.oid = key
    · have hrest : ¬∀ key ∈ keys, ∃ r, m.HasHostIf h r ∧ r.oid = key := fun hall =>
        hnot (List.forall_mem_cons.mpr ⟨hr, hall⟩)
      obtain ⟨r, hr, rfl⟩ := hr
      obtain ⟨text, ht⟩ := ih (fun key hk => hkeys key (by simp [hk])) hrest (names.addHostIf r)
      exact ⟨text, (yields_addHostIf hr names).bind ht⟩
    · obtain ⟨text, ht⟩ := yields_hostIf_error others (hkeys key (by simp)) hr
      exact ⟨text, ht.bind_error.bind_error⟩

/-- The default router: the one that the switch names, or else the first that there is. -/
def RouterIs (m : Memory) (h : Handle) (switchOid routerOid : String) : Prop :=
  match (m.fetch (h.tableKey switchTable switchOid)).get? defaultRouterField with
  | some oid => routerOid = oid
  | none => m.contains (h.tableKey virtualRouterTable routerOid) = true ∧
    ∀ key, m.contains (h.tableKey virtualRouterTable key) = true → routerOid ≤ key

variable (others) in
/-- Up to the host interfaces nothing can fail. -/
theorem yields_readNames_of (hm : m.HasDefaults h switchOid) : ∃ routerOid,
    RouterIs m h switchOid routerOid ∧ ∀ r : Except Fault AsicNames,
      m.Yields others ((m.tableKeys h.db hostIfTable).foldlM
        (fun names key => do return names.addHostIf (← hostIf h key))
        (.ofSwitch switchOid routerOid)) r →
      m.Yields others (readNames h) r := by
  obtain ⟨router, rest, hrouters, hheld, hfirst⟩ := hm.routerKeys
  cases hf : (m.fetch (h.tableKey switchTable switchOid)).get? defaultRouterField with
  | some oid =>
    refine ⟨oid, by simp [RouterIs, hf], fun r hr => ?_⟩
    refine (yields_firstKey hm.switchKeys).bind (yields_getEntry.bind ?_)
    simp only [hf]
    exact Yields.pure.bind (yields_getKeys.bind hr)
  | none =>
    refine ⟨router, by simpa [RouterIs, hf] using ⟨hheld, hfirst⟩, fun r hr => ?_⟩
    refine (yields_firstKey hm.switchKeys).bind (yields_getEntry.bind ?_)
    simp only [hf]
    exact (yields_firstKey hrouters).bind (yields_getKeys.bind hr)

end AsicDb

/-! ## What is captured -/

namespace Memory

open Asic

/-- What was captured of the memory, and what is frozen of it. -/
structure Captured (m : Memory) (h : Handle) (switchOid : String) (a : AsicDb) (l : Ledger) :
    Prop where
  handle : a.handle = h
  switch : a.names.switchOid = switchOid
  router : AsicDb.RouterIs m h switchOid a.names.defaultRouterOid
  hostIfs : ∀ oid, a.names.hostIfOidToName.contains oid = true ↔
    m.contains (h.tableKey hostIfTable oid) = true
  named : ∀ oid name, a.names.hostIfOidToName.get? oid = some name ↔
    ∃ portOid, m.HasHostIf h ⟨oid, name, portOid⟩
  frozen : ∀ table ∈ baselineTables, ∃ keys, h.frozen? l table = some keys ∧
    ∀ key, key ∈ keys ↔ m.contains (h.tableKey table key) = true
  /-- If no two host interfaces have one name or one port, the maps have an entry for each of them
  and can be read both ways. -/
  maps : m.DistinctBy h HostIf.name → m.DistinctBy h HostIf.portOid →
    a.names.portOidToName.Inverse a.names.portNameToOid ∧
      a.names.hostIfOidToName.Inverse a.names.hostIfNameToOid ∧
      (∀ r, m.HasHostIf h r → a.names.portOidToName.get? r.portOid = some r.name) ∧
      ∃ keys : List String, keys.Pairwise (· < ·) ∧
        (∀ key, key ∈ keys ↔ m.contains (h.tableKey hostIfTable key) = true) ∧
        ∀ size ∈ [a.names.portOidToName.size, a.names.portNameToOid.size,
          a.names.hostIfOidToName.size, a.names.hostIfNameToOid.size], size = keys.length

theorem frozen?_freeze_snapshotOf {tables : List String} (hn : tables.Nodup)
    (hl : l.baseline? h.family = none) (ht : table ∈ tables) :
    h.frozen? (l.freeze h.family (m.snapshotOf h tables)) table =
      some (keySet (m.tableKeys h.db table)) := by
  rw [Handle.frozen?, Ledger.baseline?_freeze hl]
  have hn' : (tables.map id).Nodup := by rwa [List.map_id]
  exact KeyMap.get?_foldl_insert (f := id) (g := fun table => keySet (m.tableKeys h.db table))
    hn' ht

theorem HasDefaults.captured {switchOid routerOid : String} {hostIfs : List HostIf}
    (hm : m.HasDefaults h switchOid) (hl : l.baseline? h.family = none)
    (hrouter : AsicDb.RouterIs m h switchOid routerOid)
    (hoids : hostIfs.map (·.oid) = m.tableKeys h.db hostIfTable)
    (hin : ∀ r ∈ hostIfs, m.HasHostIf h r) :
    m.Captured h switchOid
      ⟨h, hostIfs.foldl AsicNames.addHostIf (.ofSwitch switchOid routerOid)⟩
      (l.freeze h.family (m.snapshotOf h baselineTables)) := by
  have hnodup : (hostIfs.map (·.oid)).Nodup := hoids ▸ nodup_tableKeys hm.ascending
  have hheld {oid : String} : m.contains (h.tableKey hostIfTable oid) = true ↔
      ∃ r ∈ hostIfs, r.oid = oid := by
    rw [← mem_tableKeys_iff hm.plain, ← hoids, List.mem_map]
  have hmem {r : HostIf} : r ∈ hostIfs ↔ m.HasHostIf h r := by
    refine ⟨hin r, fun hr => ?_⟩
    obtain ⟨r', hr', ho⟩ := hheld.mp hr.held
    rwa [distinctBy_oid r r' hr (hin r' hr') ho.symm]
  have hnamed (oid name : String) :
      (hostIfs.foldl AsicNames.addHostIf (.ofSwitch switchOid routerOid)).hostIfOidToName.get? oid =
        some name ↔ ∃ portOid, m.HasHostIf h ⟨oid, name, portOid⟩ := by
    rw [AsicNames.foldl_addHostIf_hostIfOidToName]
    refine (KeyMap.get?_foldl_insert_iff hnodup).trans ⟨?_, ?_⟩
    · rintro ⟨r, hr, rfl, rfl⟩
      exact ⟨r.portOid, hin r hr⟩
    · rintro ⟨portOid, hr⟩
      exact ⟨_, hmem.mpr hr, rfl, rfl⟩
  refine ⟨rfl, AsicNames.foldl_addHostIf_oids.1, ?_, ?_, hnamed, ?_, ?_⟩
  · rwa [AsicNames.foldl_addHostIf_oids.2]
  · intro oid
    rw [hheld, KeyMap.contains, Option.isSome_iff_exists]
    simp only [hnamed]
    constructor
    · rintro ⟨name, portOid, hr⟩
      exact ⟨_, hmem.mpr hr, rfl⟩
    · rintro ⟨r, hr, rfl⟩
      exact ⟨r.name, r.portOid, hin r hr⟩
  · intro table ht
    refine ⟨_, frozen?_freeze_snapshotOf (by decide) hl ht, fun key => ?_⟩
    rw [mem_keySet, mem_tableKeys_iff hm.plain]
  · intro hname hport
    have nodup {f : HostIf → String} (hf : m.DistinctBy h f) : (hostIfs.map f).Nodup :=
      List.Nodup.map_on (fun r hr r' hr' he => hf r r' (hin r hr) (hin r' hr') he)
        (List.Nodup.of_map _ hnodup)
    have hnames := nodup hname
    have hports := nodup hport
    rw [AsicNames.foldl_addHostIf_portOidToName, AsicNames.foldl_addHostIf_portNameToOid,
      AsicNames.foldl_addHostIf_hostIfOidToName, AsicNames.foldl_addHostIf_hostIfNameToOid]
    refine ⟨KeyMap.inverse_foldl_insert hports hnames, KeyMap.inverse_foldl_insert hnodup hnames,
      fun r hr => KeyMap.get?_foldl_insert hports (hmem.mpr hr), m.tableKeys h.db hostIfTable,
      tableKeys_ascending hm.ascending, fun key => mem_tableKeys_iff hm.plain, ?_⟩
    rw [← hoids, List.length_map]
    simpa using ⟨KeyMap.size_foldl_insert hports, KeyMap.size_foldl_insert hnames,
      KeyMap.size_foldl_insert hnodup, KeyMap.size_foldl_insert hnames⟩

end Memory

namespace AsicDb

open Asic Memory

variable {switchOid : String} (others)

theorem perform_new (timeout : Duration) (hm : m.HasDefaults h switchOid)
    (hl : l.baseline? h.family = none) (hc : m.HostIfsComplete h) : ∃ a l',
    m.perform others (AsicDb.new h timeout) l = ((.ok a, l'), m) ∧
      m.Captured h switchOid a l' := by
  obtain ⟨routerOid, hrouter, hread⟩ := yields_readNames_of others hm
  obtain ⟨hostIfs, hoids, hin, hfold⟩ := yields_addHostIfs others fun key hk =>
    hc key ((mem_tableKeys_iff hm.plain).mp hk)
  refine ⟨_, _, ?_, hm.captured hl hrouter hoids hin⟩
  rw [AsicDb.new, perform_bind_ok (yields_awaitDefaults timeout hm l),
    perform_bind_ok (hread _ (hfold _) l), perform_bind_ok (perform_captureBaseline hl)]
  rfl

/-- A record that lacks a field lets the whole fail before anything is frozen. -/
theorem perform_new_error (timeout : Duration) (l : Ledger) (hm : m.HasDefaults h switchOid)
    (hc : ¬m.HostIfsComplete h) : ∃ text,
    m.perform others (AsicDb.new h timeout) l = ((.error (.baseline text), l), m) := by
  obtain ⟨routerOid, -, hread⟩ := yields_readNames_of others hm
  have hnot : ¬∀ key ∈ m.tableKeys h.db hostIfTable, ∃ r, m.HasHostIf h r ∧ r.oid = key :=
    fun hall => hc fun key hk => hall key ((mem_tableKeys_iff hm.plain).mpr hk)
  obtain ⟨text, ht⟩ := yields_addHostIfs_error others
    (fun key hk => (mem_tableKeys_iff hm.plain).mp hk) hnot (.ofSwitch switchOid routerOid)
  refine ⟨text, ?_⟩
  rw [AsicDb.new, perform_bind_ok (yields_awaitDefaults timeout hm l)]
  exact perform_bind_error (hread _ ht l)

/-- The database can be taken into use if and only if no host interface lacks its name or its port.
What is captured then is what the memory has. A failure freezes nothing, so that each handle of the
family can try again once the records are complete. -/
theorem new_iff_complete (timeout : Duration)
    (hm : m.HasDefaults h switchOid) (hl : l.baseline? h.family = none) : ∃ r l',
    m.perform others (AsicDb.new h timeout) l = ((r, l'), m) ∧
      ((∃ a, r = .ok a) ↔ m.HostIfsComplete h) ∧
      (∀ a, r = .ok a → m.Captured h switchOid a l') ∧
      ∀ fault, r = .error fault → (∃ text, fault = .baseline text) ∧ l' = l ∧
        ∀ (h' : Handle) (m' : Memory) (switchOid' : String) (others' : (q : Query) → q.Reply)
          (timeout' : Duration), h'.family = h.family → m'.HasDefaults h' switchOid' →
          m'.HostIfsComplete h' → ∃ a l'',
            m'.perform others' (AsicDb.new h' timeout') l' = ((.ok a, l''), m') ∧
              m'.Captured h' switchOid' a l'' := by
  by_cases hc : m.HostIfsComplete h
  · obtain ⟨a, l', hp, hcap⟩ := perform_new others timeout hm hl hc
    refine ⟨.ok a, l', hp, ⟨fun _ => hc, fun _ => ⟨a, rfl⟩⟩, ?_, ?_⟩
    · rintro _ ⟨⟩
      exact hcap
    · rintro _ ⟨⟩
  · obtain ⟨text, hp⟩ := perform_new_error others timeout l hm hc
    refine ⟨.error (.baseline text), l, hp, ⟨?_, fun hall => absurd hall hc⟩, ?_, ?_⟩
    · rintro ⟨a, ⟨⟩⟩
    · rintro a ⟨⟩
    · rintro _ ⟨⟩
      refine ⟨⟨text, rfl⟩, rfl, fun h' m' switchOid' others' timeout' hf hm' hc' => ?_⟩
      exact perform_new others' timeout' hm' (hf ▸ hl) hc'

end AsicDb

end SwitchLab

/-! ## A settled switch -/

namespace SwitchLab.SettledHardware

open Asic Memory

def asic : Handle := ⟨⟨"redis.sock", .asic⟩, 0⟩

def hostIf (name portOid : String) : FieldValues :=
  .ofPairs [("SAI_HOSTIF_ATTR_NAME", name), ("SAI_HOSTIF_ATTR_OBJ_ID", portOid)]

/-- The switch does not name its default router. -/
def memory : Memory := ⟨.ofPairs
  [(asic.tableKey switchTable "oid:0x21", .ofPairs [("NULL", "NULL")]),
    (asic.tableKey virtualRouterTable "oid:0x4", .ofPairs [("NULL", "NULL")]),
    (asic.tableKey virtualRouterTable "oid:0x3", .ofPairs [("NULL", "NULL")]),
    (asic.tableKey hostIfTable "oid:0xd0", hostIf "Ethernet0" "oid:0x1"),
    (asic.tableKey hostIfTable "oid:0xd4", hostIf "Ethernet4" "oid:0x2")]⟩

/-- The port of one host interface is not known yet. -/
def unfinished : Memory :=
  ⟨memory.records.insert (asic.tableKey hostIfTable "oid:0xd4")
    (.ofPairs [("SAI_HOSTIF_ATTR_NAME", "Ethernet4")])⟩

/-- What there are records of, in both memories. -/
def keys : List String :=
  [asic.tableKey hostIfTable "oid:0xd0", asic.tableKey hostIfTable "oid:0xd4",
    asic.tableKey switchTable "oid:0x21", asic.tableKey virtualRouterTable "oid:0x3",
    asic.tableKey virtualRouterTable "oid:0x4"]

theorem keys_memory : memory.records.keys = keys := by decide +kernel

section Keys

variable {m : Memory} (hk : m.records.keys = keys)
include hk

theorem plain : m.Plain := by
  refine .of_keys ?_
  rw [hk]
  decide +kernel

theorem hasDefaults : m.HasDefaults asic "oid:0x21" := by
  refine ⟨?_, plain hk, fun key => ?_, "oid:0x3", contains_iff_mem.mpr (by simp [hk, keys])⟩
  · rw [KeyMap.Ascending, hk]
    decide +kernel
  · have switches : m.tableKeys asic.db switchTable = ["oid:0x21"] := by
      rw [tableKeys, Memory.keys, hk]
      decide +kernel
    rw [← mem_tableKeys_iff (plain hk), switches, List.mem_singleton]

theorem contains_hostIf {key : String} :
    m.contains (asic.tableKey hostIfTable key) = true ↔ key = "oid:0xd0" ∨ key = "oid:0xd4" := by
  have hostIfs : m.tableKeys asic.db hostIfTable = ["oid:0xd0", "oid:0xd4"] := by
    rw [tableKeys, Memory.keys, hk]
    decide +kernel
  rw [← mem_tableKeys_iff (plain hk), hostIfs, List.mem_pair]

end Keys

theorem keys_unfinished : unfinished.records.keys = keys :=
  (KeyMap.keys_insert (hasDefaults keys_memory).ascending (by simp [keys_memory, keys])).trans
    keys_memory

theorem hasHostIf {m : Memory} {oid name portOid : String}
    (held : m.contains (asic.tableKey hostIfTable oid) = true)
    (hrecord : m.fetch (asic.tableKey hostIfTable oid) = hostIf name portOid) :
    m.HasHostIf asic ⟨oid, name, portOid⟩ := by
  refine ⟨held, ?_, ?_⟩ <;> exact hrecord ▸ rfl

theorem complete : memory.HostIfsComplete asic := by
  have records : memory.fetch (asic.tableKey hostIfTable "oid:0xd0") =
      hostIf "Ethernet0" "oid:0x1" ∧
      memory.fetch (asic.tableKey hostIfTable "oid:0xd4") = hostIf "Ethernet4" "oid:0x2" := by
    decide +kernel
  intro key hkey
  rcases (contains_hostIf keys_memory).mp hkey with rfl | rfl
  · exact ⟨_, hasHostIf hkey records.1, rfl⟩
  · exact ⟨_, hasHostIf hkey records.2, rfl⟩

theorem incomplete : ¬unfinished.HostIfsComplete asic := by
  intro hall
  obtain ⟨r, hr, ho⟩ := hall "oid:0xd4" ((contains_hostIf keys_unfinished).mpr (.inr rfl))
  have hport := hr.port
  have record : unfinished.fetch (asic.tableKey hostIfTable "oid:0xd4") =
      .ofPairs [("SAI_HOSTIF_ATTR_NAME", "Ethernet4")] := by
    rw [fetch, unfinished, KeyMap.get?_insert, if_pos rfl, Option.getD_some]
  rw [ho, record] at hport
  cases hport

/-- The database cannot be taken into use while the port of a host interface is unknown, and can be
when it is known. -/
theorem new_memory : memory.HasDefaults asic "oid:0x21" ∧
    Ledger.empty.baseline? asic.family = none ∧ (∃ r l',
    memory.perform PatternTable.silence (AsicDb.new asic .zero) .empty = ((r, l'), memory) ∧
      ((∃ a, r = .ok a) ↔ memory.HostIfsComplete asic) ∧
      (∀ a, r = .ok a → memory.Captured asic "oid:0x21" a l') ∧
      ∀ fault, r = .error fault → (∃ text, fault = .baseline text) ∧ l' = .empty ∧
        ∀ (h' : Handle) (m' : Memory) (switchOid' : String) (others' : (q : Query) → q.Reply)
          (timeout' : Duration), h'.family = asic.family → m'.HasDefaults h' switchOid' →
          m'.HostIfsComplete h' → ∃ a l'',
            m'.perform others' (AsicDb.new h' timeout') l' = ((.ok a, l''), m') ∧
              m'.Captured h' switchOid' a l'') ∧
    memory.HostIfsComplete asic ∧
    unfinished.HasDefaults asic "oid:0x21" ∧ ¬unfinished.HostIfsComplete asic ∧
    ∃ text l',
      unfinished.perform PatternTable.silence (AsicDb.new asic .zero) .empty =
        ((.error (.baseline text), l'), unfinished) ∧
      ∃ a l'', memory.perform PatternTable.silence (AsicDb.new asic .zero) l' =
          ((.ok a, l''), memory) ∧
        memory.Captured asic "oid:0x21" a l'' := by
  refine ⟨hasDefaults keys_memory, rfl,
    AsicDb.new_iff_complete PatternTable.silence .zero (hasDefaults keys_memory) rfl, complete,
    hasDefaults keys_unfinished, incomplete, ?_⟩
  obtain ⟨r, l', hrun, hiff, -, hfailed⟩ :=
    AsicDb.new_iff_complete (l := .empty) PatternTable.silence .zero
      (hasDefaults keys_unfinished) rfl
  cases r with
  | ok a => exact absurd (hiff.mp ⟨a, rfl⟩) incomplete
  | error fault =>
    obtain ⟨⟨text, rfl⟩, -, hagain⟩ := hfailed fault rfl
    exact ⟨text, l', hrun, hagain asic memory "oid:0x21" PatternTable.silence .zero rfl
      (hasDefaults keys_memory) complete⟩

end SwitchLab.SettledHardware
