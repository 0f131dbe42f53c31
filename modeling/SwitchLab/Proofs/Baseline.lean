import SwitchLab.Proofs.Keys
import SwitchLab.Proofs.Ordering
import SwitchLab.Store.Glob

/-! What a ready switch knows of its default objects. The baseline and the names
are read while the database of the hardware is opened, which is before the port
gate; what the hardware makes in between is not in them. -/

namespace SwitchLab

variable {l l' : Ledger} {t : Trace Host}

/-! ## The reading of a baseline -/

theorem Ledger.baseline?_freeze {family : Nat} {s : Snapshot} (h : l.baseline? family = none) :
    (l.freeze family s).baseline? family = some s := by
  rw [baseline?] at h
  rw [baseline?, freeze, List.lookup_append, h]
  simp

namespace Handle

variable {h : Handle}

theorem frozen?_congr {table : String} (hl : l'.frozen = l.frozen) :
    h.frozen? l' table = h.frozen? l table := by
  rw [frozen?, frozen?, Ledger.baseline?, Ledger.baseline?, hl]

/-- Each table is listed once. Those that are not read keep what the snapshot had of them. -/
theorem ReadUp.content {tables : List String} {s₀ s : Snapshot} (hn : tables.Nodup)
    (hr : h.ReadUp s₀ tables t (.ok s)) :
    ∃ raw : String → List String,
      t = tables.map (fun table => h.db.listed table (.ok (raw table))) ∧
        (∀ table ∈ tables, s.get? table = some (keySet (h.db.keysIn table (raw table)))) ∧
        ∀ table ∉ tables, s.get? table = s₀.get? table := by
  generalize hok : (.ok s : Except Fault Snapshot) = r at hr
  induction hr with
  | failed => cases hok
  | done s₀ =>
    cases hok
    exact ⟨fun _ => [], rfl, by simp, fun _ _ => rfl⟩
  | @next s₀ table tables here t r hr ih =>
    obtain ⟨hnot, hn⟩ := List.nodup_cons.mp hn
    have hne {table' : String} (hm : table' ∈ tables) : table' ≠ table := fun he => hnot (he ▸ hm)
    obtain ⟨raw, rfl, hin, hout⟩ := ih hn hok
    refine ⟨fun table' => if table' = table then here else raw table', ?_, ?_, ?_⟩
    · have hmap : tables.map (fun table' => h.db.listed table'
          (.ok (if table' = table then here else raw table'))) =
          tables.map fun table' => h.db.listed table' (.ok (raw table')) :=
        List.map_congr_left fun table' hm => by rw [if_neg (hne hm)]
      simp [hmap]
    · intro table' hm
      rcases List.mem_cons.mp hm with rfl | hm
      · simp [hout _ hnot]
      · simp [hin _ hm, hne hm]
    · intro table' hm
      rw [List.mem_cons, not_or] at hm
      rw [hout _ hm.2, KeyMap.get?_insert, if_neg (Ne.symm hm.1)]

/-- The baseline of a family that had none. -/
theorem runs_captureBaseline_ok {tables : List String} {s : Snapshot} (hn : tables.Nodup)
    (hr : Attempt.Runs (h.captureBaseline tables) l t (.ok s) l') :
    ∃ raw : String → List String,
      t = tables.map (fun table => h.db.listed table (.ok (raw table))) ∧
        ∀ table ∈ tables, h.frozen? l' table = some (keySet (h.db.keysIn table (raw table))) := by
  rcases runs_captureBaseline_iff.mp hr with ⟨e, -, ⟨⟩, -⟩ | ⟨s', hread, hend⟩
  split at hend
  · cases hend.1
  · rename_i hnone
    obtain ⟨⟨⟩, rfl⟩ := hend
    obtain ⟨raw, rfl, hget, -⟩ := hread.content hn
    refine ⟨raw, rfl, fun table hm => ?_⟩
    rw [← hget table hm, frozen?, Ledger.baseline?_freeze (by simpa using hnone)]
    rfl

end Handle

/-! ## The reading of names -/

namespace AsicDb

open Asic

variable {h : Handle}

theorem ofFields_eq_ok_iff {key : String} {fields : FieldValues} {r : HostIf} :
    TableRecord.ofFields key fields = .ok r ↔ r.oid = key ∧
      fields.get? "SAI_HOSTIF_ATTR_NAME" = some r.name ∧
      fields.get? "SAI_HOSTIF_ATTR_OBJ_ID" = some r.portOid := by
  obtain ⟨oid, name, portOid⟩ := r
  cases hn : fields.get? "SAI_HOSTIF_ATTR_NAME" with
  | none => simp [TableRecord.ofFields, FieldValues.require, hn, bind, Except.bind]
  | some name =>
    cases hp : fields.get? "SAI_HOSTIF_ATTR_OBJ_ID" with
    | none => simp [TableRecord.ofFields, FieldValues.require, hn, hp, bind, Except.bind]
    | some portOid =>
      simp [TableRecord.ofFields, FieldValues.require, hn, hp, bind, Except.bind, pure,
        Except.pure, eq_comm]

theorem runs_hostIf_ok {key : String} {r : HostIf}
    (hr : Attempt.Runs (hostIf h key) l t (.ok r) l') :
    l' = l ∧ r.oid = key ∧ ∃ fields, t = [h.db.fetched hostIfTable key (.ok fields)] ∧
      TableRecord.ofFields key fields = .ok r := by
  obtain ⟨_, _, fields, l₁, rfl, hf, hp⟩ := Attempt.runs_bind_ok_iff.mp hr
  obtain ⟨rfl, rfl⟩ := Handle.runs_getEntry_iff.mp hf
  cases hx : (TableRecord.ofFields key fields : Except Fault HostIf) with
  | error e =>
    rw [hx] at hp
    cases (Attempt.runs_throw_iff.mp hp).2.1
  | ok r' =>
    rw [hx] at hp
    obtain ⟨rfl, he, rfl⟩ := Attempt.runs_pure_iff.mp hp
    cases he
    exact ⟨rfl, (ofFields_eq_ok_iff.mp hx).1, fields, rfl, hx⟩

/-- The records of the host interfaces, each with its look-up. -/
def HostIfsRead (db : Database) (keys : List String) (hostIfs : List HostIf) (t : Trace Host) :
    Prop :=
  hostIfs.map (·.oid) = keys ∧ ∀ r ∈ hostIfs, ∃ fields,
    db.fetched hostIfTable r.oid (.ok fields) ∈ t ∧
      TableRecord.ofFields r.oid fields = .ok r

theorem runs_addHostIfs_ok {keys : List String} {names names' : AsicNames}
    (hr : Attempt.Runs (keys.foldlM (fun names key => do
      return names.addHostIf (← hostIf h key)) names) l t (.ok names') l') :
    l' = l ∧ ∃ hostIfs, HostIfsRead h.db keys hostIfs t ∧
      names' = hostIfs.foldl AsicNames.addHostIf names := by
  induction keys generalizing names l t with
  | nil =>
    obtain ⟨rfl, hs, rfl⟩ := Attempt.runs_pure_iff.mp hr
    cases hs
    exact ⟨rfl, [], ⟨rfl, by simp⟩, rfl⟩
  | cons key keys ih =>
    rw [List.foldlM_cons] at hr
    obtain ⟨u, v, names₁, l₁, rfl, hu, hv⟩ := Attempt.runs_bind_ok_iff.mp hr
    obtain ⟨_, _, r, l₂, rfl, hk, hp⟩ := Attempt.runs_bind_ok_iff.mp hu
    obtain ⟨rfl, rfl, fields, rfl, hf⟩ := runs_hostIf_ok hk
    obtain ⟨rfl, hs, rfl⟩ := Attempt.runs_pure_iff.mp hp
    cases hs
    obtain ⟨rfl, hostIfs, ⟨hkeys, hin⟩, rfl⟩ := ih hv
    refine ⟨rfl, r :: hostIfs, ⟨by simp [hkeys], ?_⟩, rfl⟩
    intro r' hm
    rcases List.mem_cons.mp hm with rfl | hm
    · exact ⟨fields, by simp, hf⟩
    · obtain ⟨fields', hx, hf'⟩ := hin r' hm
      exact ⟨fields', by simp [hx], hf'⟩

/-- The names are those of the host interfaces in a listing, looked up one by one. -/
theorem runs_readNames_ok {names : AsicNames}
    (hr : Attempt.Runs (readNames h) l t (.ok names) l') :
    ∃ u raw v hostIfs switchOid routerOid, t = u ++ h.db.listed hostIfTable (.ok raw) :: v ∧
      HostIfsRead h.db (h.db.keysIn hostIfTable raw) hostIfs v ∧
      names = hostIfs.foldl AsicNames.addHostIf (.ofSwitch switchOid routerOid) := by
  have named {switchOid routerOid : String} {l t} (hr : Attempt.Runs (do
      (← h.getKeys hostIfTable).foldlM
        (fun names key => do return names.addHostIf (← hostIf h key))
        (AsicNames.ofSwitch switchOid routerOid)) l t (.ok names) l') :
      ∃ raw v hostIfs, t = h.db.listed hostIfTable (.ok raw) :: v ∧
        HostIfsRead h.db (h.db.keysIn hostIfTable raw) hostIfs v ∧
        names = hostIfs.foldl AsicNames.addHostIf (.ofSwitch switchOid routerOid) := by
    obtain ⟨_, v, keys, l₁, rfl, hk, hv⟩ := Attempt.runs_bind_ok_iff.mp hr
    obtain ⟨x, rfl, hx, rfl⟩ := Handle.runs_getKeys_iff.mp hk
    obtain ⟨rfl, hostIfs, hin, rfl⟩ := runs_addHostIfs_ok hv
    cases x with
    | error e => cases hx
    | ok raw =>
      cases hx
      exact ⟨raw, v, hostIfs, rfl, hin, rfl⟩
  obtain ⟨t₁, _, switchOid, l₁, rfl, -, hr⟩ := Attempt.runs_bind_ok_iff.mp hr
  obtain ⟨t₂, _, fields, l₂, rfl, -, hr⟩ := Attempt.runs_bind_ok_iff.mp hr
  dsimp only at hr
  split at hr
  · obtain ⟨t₃, _, routerOid, l₃, rfl, -, hr⟩ := Attempt.runs_bind_ok_iff.mp hr
    obtain ⟨raw, v, hostIfs, rfl, hin, hnames⟩ := named hr
    exact ⟨t₁ ++ (t₂ ++ t₃), raw, v, hostIfs, switchOid, routerOid, by simp, hin, hnames⟩
  · obtain ⟨t₃, _, routerOid, l₃, rfl, -, hr⟩ := Attempt.runs_bind_ok_iff.mp hr
    obtain ⟨raw, v, hostIfs, rfl, hin, hnames⟩ := named hr
    exact ⟨t₁ ++ (t₂ ++ t₃), raw, v, hostIfs, switchOid, routerOid, by simp, hin, hnames⟩

end AsicDb

/-! ## The translation of names -/

namespace AsicNames

variable {hostIfs : List HostIf} {n : AsicNames} {r : HostIf}

theorem foldl_addHostIf_portNameToOid :
    (hostIfs.foldl addHostIf n).portNameToOid =
      hostIfs.foldl (fun m r => m.insert r.name r.portOid) n.portNameToOid := by
  induction hostIfs generalizing n with
  | nil => rfl
  | cons r hostIfs ih => exact ih

theorem foldl_addHostIf_portOidToName :
    (hostIfs.foldl addHostIf n).portOidToName =
      hostIfs.foldl (fun m r => m.insert r.portOid r.name) n.portOidToName := by
  induction hostIfs generalizing n with
  | nil => rfl
  | cons r hostIfs ih => exact ih

theorem foldl_addHostIf_hostIfOidToName :
    (hostIfs.foldl addHostIf n).hostIfOidToName =
      hostIfs.foldl (fun m r => m.insert r.oid r.name) n.hostIfOidToName := by
  induction hostIfs generalizing n with
  | nil => rfl
  | cons r hostIfs ih => exact ih

theorem foldl_addHostIf_hostIfNameToOid :
    (hostIfs.foldl addHostIf n).hostIfNameToOid =
      hostIfs.foldl (fun m r => m.insert r.name r.oid) n.hostIfNameToOid := by
  induction hostIfs generalizing n with
  | nil => rfl
  | cons r hostIfs ih => exact ih

theorem foldl_addHostIf_oids :
    (hostIfs.foldl addHostIf n).switchOid = n.switchOid ∧
      (hostIfs.foldl addHostIf n).defaultRouterOid = n.defaultRouterOid := by
  induction hostIfs generalizing n with
  | nil => exact ⟨rfl, rfl⟩
  | cons r hostIfs ih => exact ih

end AsicNames

/-- Every host interface is found by the name of its port and by the port. -/
def AsicDb.Translates (a : AsicDb) (hostIfs : List HostIf) : Prop :=
  ∀ r ∈ hostIfs, a.portOid? r.name = some r.portOid ∧ a.portName? r.portOid = some r.name

theorem AsicDb.translates_of_nodup {h : Handle} {n : AsicNames} {hostIfs : List HostIf}
    (hname : (hostIfs.map (·.name)).Nodup) (hport : (hostIfs.map (·.portOid)).Nodup) :
    Translates ⟨h, hostIfs.foldl AsicNames.addHostIf n⟩ hostIfs := by
  intro r hr
  constructor
  · rw [portOid?, AsicNames.foldl_addHostIf_portNameToOid]
    exact KeyMap.get?_foldl_insert (f := (·.name)) (g := (·.portOid)) hname hr
  · rw [portName?, AsicNames.foldl_addHostIf_portOidToName]
    exact KeyMap.get?_foldl_insert (f := (·.portOid)) (g := (·.name)) hport hr

/-! ## A store that only gains keys -/

/-- A listing of the database: its pattern and what it shows. -/
def shown? (db : Database) : Exchange Host → Option (String × List String)
  | ⟨.keys db' pattern, r⟩ =>
    if db' = db then (r : Except Fault (List String)).toOption.map (pattern, ·) else none
  | _ => none

/-- A listing of the database shows the keys of `held` that match. -/
def AnswersFrom (db : Database) (held : List String) (x : Exchange Host) : Prop :=
  ∀ answer ∈ shown? db x, answer.2.Perm (held.filter (globMatches answer.1))

instance {db : Database} {held : List String} : DecidablePred (AnswersFrom db held) :=
  fun x => inferInstanceAs (Decidable (∀ answer ∈ shown? db x,
    answer.2.Perm (held.filter (globMatches answer.1))))

theorem AnswersFrom.listed {db : Database} {held raw : List String} {table : String}
    (h : AnswersFrom db held (db.listed table (.ok raw))) :
    raw.Perm (held.filter (globMatches (db.store.tableKey table "" ++ "*"))) :=
  h (_, raw) (by simp [shown?, Database.listed, Except.toOption])

/-- The database held `held` before the trace. Between the exchanges it may gain keys, and it
loses none. -/
inductive OnlyGains (db : Database) : List String → Trace Host → Prop where
  | nil {held : List String} : OnlyGains db held []
  | cons {held held' : List String} {x : Exchange Host} {t : Trace Host} :
    held ⊆ held' → held'.Nodup → AnswersFrom db held' x → OnlyGains db held' t →
    OnlyGains db held (x :: t)

namespace OnlyGains

variable {db : Database} {held held' base gate : List String} {table : String}
  {u v w : Trace Host}

theorem drop (h : OnlyGains db held (u ++ v)) : ∃ held', held ⊆ held' ∧ OnlyGains db held' v := by
  induction u generalizing held with
  | nil => exact ⟨held, fun _ h => h, h⟩
  | cons x u ih =>
    cases h with
    | cons hsub _ _ h =>
      obtain ⟨held', hsub', h⟩ := ih h
      exact ⟨held', fun _ hk => hsub' (hsub hk), h⟩

/-- What a listing shows, and what the database holds then. -/
theorem listed (h : OnlyGains db held (u ++ db.listed table (.ok base) :: v)) :
    ∃ held', held'.Nodup ∧ OnlyGains db held' v ∧
      base.Perm (held'.filter (globMatches (db.store.tableKey table "" ++ "*"))) := by
  obtain ⟨_, -, h⟩ := h.drop
  cases h with
  | cons _ hn ha h => exact ⟨_, hn, h, ha.listed⟩

/-- A later listing of a table shows all keys of an earlier one. -/
theorem listed_twice (h : OnlyGains db held
      (u ++ db.listed table (.ok base) :: (v ++ db.listed table (.ok gate) :: w))) :
    base.Nodup ∧ gate.Nodup ∧ ∀ key ∈ base, key ∈ gate := by
  obtain ⟨held₁, hn₁, h, hbase⟩ := h.listed
  obtain ⟨_, hsub, h⟩ := h.drop
  cases h with
  | @cons _ held₂ _ _ hsub' hn₂ ha h =>
    have hgate := ha.listed
    refine ⟨hbase.nodup_iff.mpr (hn₁.filter _), hgate.nodup_iff.mpr (hn₂.filter _), ?_⟩
    intro key hk
    obtain ⟨hheld, hmatch⟩ := List.mem_filter.mp (hbase.mem_iff.mp hk)
    exact hgate.mem_iff.mpr (List.mem_filter.mpr ⟨hsub' (hsub hheld), hmatch⟩)

theorem weaken (hsub : held ⊆ held') (h : OnlyGains db held' t) : OnlyGains db held t := by
  cases h with
  | nil => exact .nil
  | cons hs hn ha h => exact .cons (fun _ hk => hs (hsub hk)) hn ha h

/-- As long as every answer is from `held`, nothing is gained. -/
theorem of_forall (hn : held.Nodup) (hu : ∀ x ∈ u, AnswersFrom db held x)
    (hv : OnlyGains db held v) : OnlyGains db held (u ++ v) := by
  induction u with
  | nil => exact hv
  | cons x u ih =>
    exact .cons (fun _ hk => hk) hn (hu x (by simp)) (ih fun y hy => hu y (by simp [hy]))

end OnlyGains

/-! ## The baseline of a ready switch -/

namespace Device

open Asic

variable {spec : DeviceSpec}

theorem runs_applyBufferModel_ledger {stores : Stores} {r : Except Fault Unit}
    (hr : Attempt.Runs (applyBufferModel spec stores) l t r l') : l' = l := by
  rw [applyBufferModel] at hr
  split at hr
  · rcases Attempt.runs_bind_iff.mp hr with ⟨_, _, _, _, rfl, hm, hrest⟩ | ⟨_, rfl, hm⟩
    · obtain ⟨-, rfl⟩ := Database.runs_merge_iff.mp hm
      rcases Attempt.runs_bind_iff.mp hrest with ⟨_, _, _, _, rfl, hs, hp⟩ | ⟨_, rfl, hs⟩
      · obtain ⟨-, rfl⟩ := Lab.runs_ask_iff.mp hs
        exact (Attempt.runs_pure_iff.mp hp).2.2
      · exact (Lab.runs_ask_iff.mp hs).2
    · exact (Database.runs_merge_iff.mp hm).2
  · exact (Attempt.runs_pure_iff.mp hr).2.2

/-- The ports in the baseline are those of the listing `base`, and the port gate went by the
listing `gate`. -/
structure PortBaseline (spec : DeviceSpec) (stores : Stores) (l : Ledger)
    (base gate : List String) : Prop where
  frozen : ∃ keys, stores.asic.handle.frozen? l portTable = some keys ∧
    ∀ key, key ∈ keys ↔ key ∈ (spec.database .asic).keysIn portTable base
  kept : ∀ key ∈ (spec.database .asic).keysIn portTable base,
    key ∈ (spec.database .asic).keysIn portTable gate
  complete : (∀ key ∈ (spec.database .asic).keysIn portTable gate,
      key ∈ (spec.database .asic).keysIn portTable base) ↔
    ((spec.database .asic).keysIn portTable base).length = spec.numPorts + 1
  /-- As long as the baseline is frozen, new ports are those that it did not show. -/
  added : ∀ {l₁ l₂ : Ledger} {t : Trace Host} {r : Except Fault (List String)},
    stores.asic.handle.frozen? l₁ portTable = stores.asic.handle.frozen? l portTable →
    Attempt.Runs (stores.asic.newKeys portTable) l₁ t r l₂ →
    ∃ x, t = [(spec.database .asic).listed portTable x] ∧
      r = x.map fun raw => ((spec.database .asic).keysIn portTable raw).filter fun key =>
        !((spec.database .asic).keysIn portTable base).contains key

/-- The host interfaces of a listing in the trace were looked up, and are translated if no two of
them have one name or one port. -/
def HostIfsNamed (spec : DeviceSpec) (a : AsicDb) (t : Trace Host) : Prop :=
  ∃ u raw v hostIfs, t = u ++ (spec.database .asic).listed hostIfTable (.ok raw) :: v ∧
    AsicDb.HostIfsRead (spec.database .asic) ((spec.database .asic).keysIn hostIfTable raw)
      hostIfs v ∧
    ((hostIfs.map (·.name)).Nodup → (hostIfs.map (·.portOid)).Nodup → a.Translates hostIfs)

theorem HostIfsNamed.after {a : AsicDb} (u : Trace Host) (h : HostIfsNamed spec a t) :
    HostIfsNamed spec a (u ++ t) := by
  obtain ⟨v, raw, w, hostIfs, rfl, h⟩ := h
  exact ⟨u ++ v, raw, w, hostIfs, by simp, h⟩

theorem runs_new_baseline {a : AsicDb} {timeout : Duration} {h : Handle}
    (hh : h.db = spec.database .asic)
    (hr : Attempt.Runs (AsicDb.new h timeout) l t (.ok a) l') :
    a.handle = h ∧ ∃ before base after,
      t = before ++ (spec.database .asic).listed portTable (.ok base) :: after ∧
      h.frozen? l' portTable = some (keySet ((spec.database .asic).keysIn portTable base)) ∧
      HostIfsNamed spec a before := by
  obtain ⟨ha, u, v, w, l₁, l₂, s, rfl, -, hv, hw⟩ := AsicDb.runs_new_ok hr
  obtain ⟨u', raw, v', hostIfs, switchOid, routerOid, rfl, hin, hnames⟩ :=
    AsicDb.runs_readNames_ok hv
  obtain ⟨content, rfl, hfrozen⟩ := Handle.runs_captureBaseline_ok (by decide) hw
  rw [hh] at hin hfrozen ⊢
  let reading (table : String) : Exchange Host :=
    (spec.database .asic).listed table (.ok (content table))
  refine ⟨ha, u ++ (u' ++ (spec.database .asic).listed hostIfTable (.ok raw) :: v') ++
    [reading virtualRouterTable], content portTable, (baselineTables.drop 2).map reading, ?_,
    hfrozen portTable (by decide), ?_⟩
  · have split : baselineTables.map reading =
        [reading virtualRouterTable] ++ reading portTable :: (baselineTables.drop 2).map reading :=
      rfl
    rw [split]
    simp [reading]
  · refine ⟨u ++ u', raw, v' ++ [reading virtualRouterTable], hostIfs, by simp, ⟨hin.1, ?_⟩, ?_⟩
    · intro r hm
      obtain ⟨fields, hx, hf⟩ := hin.2 r hm
      exact ⟨fields, by simp [hx], hf⟩
    · intro hname hport
      obtain ⟨h, names⟩ := a
      cases hnames
      exact AsicDb.translates_of_nodup hname hport

/-- What the port gate leaves of the baseline's listing, if the database only gains keys. -/
theorem portBaseline_of_listings {stores : Stores} {held base gate app : List String}
    {u v w : Trace Host} (hs : Stores.Of spec stores)
    (hf : stores.asic.handle.frozen? l portTable =
      some (keySet ((spec.database .asic).keysIn portTable base)))
    (hp : PortsSeen spec [(spec.database .asic).listed portTable (.ok gate),
      (spec.database .appl).listed "PORT_TABLE" (.ok app)])
    (hg : OnlyGains (spec.database .asic) held (u ++ (spec.database .asic).listed portTable
      (.ok base) :: (v ++ (spec.database .asic).listed portTable (.ok gate) :: w))) :
    PortBaseline spec stores l base gate := by
  obtain ⟨hbase, hgate, hsub⟩ := hg.listed_twice
  obtain ⟨gate', app', he, hlength, -⟩ := hp
  obtain rfl : gate = gate' := by simpa using (List.cons.inj he).1
  refine ⟨⟨_, hf, fun key => mem_keySet⟩, fun key hk => Database.keysIn_mono hsub hk, ?_, ?_⟩
  · rw [Database.keysIn_eq_iff_length hbase hgate hsub, hlength]
  · intro l₁ l₂ t r hl hr
    obtain ⟨-, hr⟩ := Handle.runs_keysAdded_iff.mp hr
    rw [hl, hf, Handle.Compares, hs.asic] at hr
    obtain ⟨x, rfl, rfl⟩ := hr
    refine ⟨x, rfl, ?_⟩
    congr
    funext raw
    congr
    funext key
    rw [Bool.eq_iff_iff]
    simp [mem_keySet]

/-- A switch that becomes ready while its hardware only gains objects. The baseline has the ports
of a listing before the port gate. All of them are seen by the port gate; they are all that it
sees just if they were as many as it waits for. -/
theorem checkReady_baseline {d d' : Device} {held : List String} (hd : d.state ≠ .ready)
    (hr : On.Runs checkReady d l t (.ok ()) d' l')
    (hg : OnlyGains (d.spec.database .asic) held t) :
    ∃ stores before base between gate app after,
      d'.stores = some stores ∧
      t = before ++ (d.spec.database .asic).listed portTable (.ok base) ::
        (between ++ ([(d.spec.database .asic).listed portTable (.ok gate),
          (d.spec.database .appl).listed "PORT_TABLE" (.ok app)] ++ after)) ∧
      PortsSeen d.spec [(d.spec.database .asic).listed portTable (.ok gate),
        (d.spec.database .appl).listed "PORT_TABLE" (.ok app)] ∧
      PortBaseline d.spec stores l' base gate ∧
      HostIfsNamed d.spec stores.asic before := by
  rcases runs_checkReady hd hr with ⟨-, hne⟩ | ⟨u, v, x, l₁, rfl, hreach, -, hok⟩
  · exact absurd rfl (hne ())
  obtain ⟨stores, rfl, rfl, rfl, hstores⟩ := hok rfl
  obtain ⟨t₁, _, ⟨⟩, l₁, rfl, h₁, hreach⟩ := Attempt.runs_bind_ok_iff.mp hreach
  obtain ⟨t₂, _, stores₂, l₂, rfl, h₂, hreach⟩ := Attempt.runs_bind_ok_iff.mp hreach
  obtain ⟨t₃, _, ⟨⟩, l₃, rfl, h₃, hreach⟩ := Attempt.runs_bind_ok_iff.mp hreach
  obtain ⟨t₄, _, ⟨⟩, l₄, rfl, h₄, hreach⟩ := Attempt.runs_bind_ok_iff.mp hreach
  obtain ⟨rfl, hx, rfl⟩ := Attempt.runs_pure_iff.mp hreach
  cases hx
  obtain ⟨hs, -, u₂, v₂, l₅, rfl, -, hnew, hledger⟩ := runs_connectStores_ok h₂
  obtain ⟨-, before, base, after, rfl, hfrozen, hnamed⟩ := runs_new_baseline hs.asic hnew
  obtain ⟨rfl, u₃, v₃, rfl, gate, app, rfl, hports⟩ := runs_awaitPorts_ok hs h₃
  obtain rfl := runs_applyBufferModel_ledger h₄
  have hseen : PortsSeen d.spec [(d.spec.database .asic).listed portTable (.ok gate),
      (d.spec.database .appl).listed "PORT_TABLE" (.ok app)] := ⟨gate, app, rfl, hports⟩
  refine ⟨stores, t₁ ++ (u₂ ++ before), base, after ++ laterConnections d.spec ++ u₃, gate, app,
    t₄, hstores, by simp, hseen, ?_, ?_⟩
  · rw [← Handle.frozen?_congr hledger] at hfrozen
    have hgains : OnlyGains (d.spec.database .asic) held (t₁ ++ (u₂ ++ before) ++
        (d.spec.database .asic).listed portTable (.ok base) ::
          (after ++ laterConnections d.spec ++ u₃ ++
            (d.spec.database .asic).listed portTable (.ok gate) ::
              (d.spec.database .appl).listed "PORT_TABLE" (.ok app) :: t₄)) := by
      simpa using hg
    exact portBaseline_of_listings hs hfrozen hseen hgains
  · exact (hnamed.after u₂).after t₁

end Device

end SwitchLab

/-! ## What a baseline lacks

In the run with the late port, nothing but this port comes to the database of the hardware. -/

namespace SwitchLab.LatePort

open Asic Device

/-- The keys of the hardware before the front-panel port is made. -/
def held : List String :=
  [StoreName.asic.tableKey switchTable "oid:0x21",
    StoreName.asic.tableKey virtualRouterTable "oid:0x3",
    StoreName.asic.tableKey hostIfTable "oid:0xd", StoreName.asic.tableKey portTable "oid:0x9"]

def heldLater : List String := StoreName.asic.tableKey portTable "oid:0x1" :: held

theorem onlyGains : OnlyGains (spec.database .asic) held trace := by
  have later : OnlyGains (spec.database .asic) heldLater (ports ++ bufferModel ++ []) :=
    .of_forall (by decide +kernel) (by decide +kernel) .nil
  have hsub : held ⊆ heldLater := fun key hk => List.mem_cons_of_mem _ hk
  have early := OnlyGains.of_forall (u := supervisor ++
    ⟨.connect (spec.database .asic), (.ok () : Except Fault Unit)⟩ ::
      (asic ++ laterConnections spec)) (by decide +kernel) (by decide +kernel) (later.weaken hsub)
  simpa [trace] using early

theorem trace_baseline :
    device.state ≠ .ready ∧ On.Runs checkReady device .empty trace (.ok ()) readyDevice ledger ∧
    OnlyGains (spec.database .asic) held trace ∧
    ∃ stores before base between gate app after,
      readyDevice.stores = some stores ∧
      trace = before ++ (spec.database .asic).listed portTable (.ok base) ::
        (between ++ ([(spec.database .asic).listed portTable (.ok gate),
          (spec.database .appl).listed "PORT_TABLE" (.ok app)] ++ after)) ∧
      PortsSeen spec [(spec.database .asic).listed portTable (.ok gate),
        (spec.database .appl).listed "PORT_TABLE" (.ok app)] ∧
      PortBaseline spec stores ledger base gate ∧
      HostIfsNamed spec stores.asic before := by
  have hd : device.state ≠ .ready := by decide
  have h := checkReady_baseline hd runs_checkReady onlyGains
  rw [show device.spec = spec from rfl] at h
  exact ⟨hd, runs_checkReady, onlyGains, h⟩

/-- The switch is ready, the port gate has seen the late port, and the baseline lacks it: it counts
as new although nothing was made since. -/
theorem baseline_lacks_port :
    device.state ≠ .ready ∧ On.Runs checkReady device .empty trace (.ok ()) readyDevice ledger ∧
    OnlyGains (spec.database .asic) held trace ∧
    readyDevice.stores = some stores ∧
    PortsSeen spec (ports.drop 1) ∧
    ports.drop 1 = [listed .asic portTable ["oid:0x1", "oid:0x9"],
      listed .appl "PORT_TABLE" ["Ethernet0", "PortConfigDone", "PortInitDone"]] ∧
    stores.asic.handle.frozen? ledger portTable = some ["oid:0x9"] ∧
    Attempt.Runs (stores.asic.newKeys portTable) ledger
      [listed .asic portTable ["oid:0x1", "oid:0x9"]] (.ok ["oid:0x1"]) ledger := by
  refine ⟨by decide, runs_checkReady, onlyGains, rfl, ?_, rfl, by decide +kernel, ?_⟩
  · exact ⟨_, _, rfl, by decide +kernel, by decide +kernel, by decide +kernel⟩
  · exact Dialogue.runs_of_replay (by decide +kernel)

end SwitchLab.LatePort
