import SwitchLab.Proofs.Fields
import SwitchLab.Proofs.Serving

/-! What handles make of a memory that was empty at first. The reference is a map
from raw keys to records, and a record is what is left of all that was written
to it: each field stands where it came first, with the value that came last. -/

namespace SwitchLab

/-- A raw key starts like those of a table just if it is one of them. -/
theorem Handle.tableKey_prefix_iff {h : Handle} {table raw : String} :
    (h.tableKey table "").toList <+: raw.toList ↔ ∃ key, raw = h.tableKey table key := by
  constructor
  · rintro ⟨rest, hrest⟩
    refine ⟨.ofList rest, ?_⟩
    rw [Handle.tableKey_eq_append, ← String.toList_inj, String.toList_append,
      String.toList_ofList, hrest]
  · rintro ⟨key, rfl⟩
    refine ⟨key.toList, ?_⟩
    rw [← String.toList_append, ← Handle.tableKey_eq_append]

/-! ## The reference -/

/-- Records by raw key. -/
abbrev Records := String → Option (List (String × String))

namespace Records

variable {r : Records} {key k : String} {record : Option (List (String × String))}

def empty : Records := fun _ => none

def set (r : Records) (key : String) (record : Option (List (String × String))) : Records :=
  fun k => if k = key then record else r k

/-- A record that has no fields left is dropped. -/
def without (r : Records) (key : String) (fields : List String) : Records :=
  r.set key (((r key).map fun record => record.filter (·.1 ∉ fields)).filter (· ≠ []))

/-- All records go whose raw keys start with the text. -/
def withoutStart (r : Records) (start : String) : Records :=
  fun k => if start.toList <+: k.toList then none else r k

/-- Records have fields, each once. -/
def Clean (r : Records) : Prop := ∀ key record, r key = some record →
  record ≠ [] ∧ (record.map Prod.fst).Nodup

theorem set_self (h : r key = record) : r.set key record = r := by
  funext k
  rw [set]
  split
  · rename_i hk
    rw [hk, h]
  · rfl

theorem Clean.nodup (h : r.Clean) : (((r key).getD []).map Prod.fst).Nodup := by
  cases hr : r key with
  | none => exact List.nodup_nil
  | some record => exact (h key record hr).2

/-- There is nothing to remove of a record that is not there. -/
theorem without_of_none {names : List String} (h : r key = none) : r.without key names = r := by
  rw [without, h]
  exact set_self h

theorem Clean.without_nil (h : r.Clean) : r.without key [] = r := by
  refine set_self ?_
  cases hr : r key with
  | none => rfl
  | some record => simp [Option.filter_some, (h key record hr).1]

theorem Clean.set (h : r.Clean)
    (hrecord : ∀ x, record = some x → x ≠ [] ∧ (x.map Prod.fst).Nodup) :
    (r.set key record).Clean := by
  intro k x hx
  rw [Records.set] at hx
  split at hx
  · exact hrecord x hx
  · exact h k x hx

/-- Records have fields, each once, and their raw keys have no star. -/
def Sound (r : Records) : Prop := ∀ key record, r key = some record →
  record ≠ [] ∧ (record.map Prod.fst).Nodup ∧ '*' ∉ key.toList

theorem Sound.clean (h : r.Sound) : r.Clean := fun key x hx =>
  ⟨(h key x hx).1, (h key x hx).2.1⟩

theorem Sound.set (h : r.Sound) (hclean : (r.set key record).Clean)
    (hkey : record.isSome = true → '*' ∉ key.toList) : (r.set key record).Sound := by
  intro k x hx
  obtain ⟨hne, hn⟩ := hclean k x hx
  refine ⟨hne, hn, ?_⟩
  rw [Records.set] at hx
  split at hx
  · rename_i hk
    subst hk
    exact hkey (by rw [hx]; rfl)
  · exact (h k x hx).2.2

theorem Sound.withoutStart {start : String} (h : r.Sound) : (r.withoutStart start).Sound := by
  intro k x hx
  rw [Records.withoutStart] at hx
  split at hx
  · cases hx
  · exact h k x hx

end Records

/-- What can be done to a database through handles and clients of it. -/
inductive StoreWrite where
  /-- An entry is made or changed. -/
  | put (h : Handle) (table key : String) (fields : FieldValues)
  | deleteEntry (h : Handle) (table key : String)
  | deleteField (h : Handle) (table key field : String)
  /-- The same by raw key, for any number of fields. -/
  | dropFields (h : Handle) (rawKey : String) (fields : List String)
  | deleteTable (h : Handle) (table : String)

namespace StoreWrite

def act : StoreWrite → Attempt Unit
  | put h table key fields => h.putEntry table key fields
  | deleteEntry h table key => h.deleteEntry table key
  | deleteField h table key field => h.deleteFields table key [field]
  | dropFields h rawKey fields => h.db.dropFields rawKey fields
  | deleteTable h table => h.deleteTable table

/-- The raw key that is written to has no star. -/
def Plain : StoreWrite → Prop
  | put h table key _ => '*' ∉ (h.tableKey table key).toList
  | _ => True

instance : DecidablePred Plain
  | put h table key _ => inferInstanceAs (Decidable ('*' ∉ (h.tableKey table key).toList))
  | deleteEntry .. | deleteField .. | dropFields .. | deleteTable .. => .isTrue trivial

/-- A record without fields cannot be, so a field without meaning is written in their place. -/
def written (fields : FieldValues) : List (String × String) :=
  if fields.pairs = [] then [("NULL", "NULL")] else fields.pairs

theorem written_ne_nil {fields : FieldValues} : written fields ≠ [] := by
  rw [written]
  split
  · simp
  · assumption

/-- What becomes of the records. -/
def change (r : Records) : StoreWrite → Records
  | put h table key fields =>
    let raw := h.tableKey table key
    r.set raw (some (settled ((r raw).getD [] ++ written fields)))
  | deleteEntry h table key => r.set (h.tableKey table key) none
  | deleteField h table key field => r.without (h.tableKey table key) [field]
  | dropFields _ rawKey fields => r.without rawKey fields
  | deleteTable h table => r.withoutStart (h.tableKey table "")

/-- The records that the write is about. -/
def Touches (raw : String) : StoreWrite → Prop
  | put h table key _ | deleteEntry h table key | deleteField h table key _ =>
    raw = h.tableKey table key
  | dropFields _ rawKey _ => raw = rawKey
  | deleteTable h table => (h.tableKey table "").toList <+: raw.toList

theorem change_of_not_touches {w : StoreWrite} {r : Records} {raw : String}
    (h : ¬ w.Touches raw) : w.change r raw = r raw := by
  cases w <;> exact if_neg h

end StoreWrite

/-! ## One write -/

namespace Memory

variable {others : (q : Query) → q.Reply} {m : Memory} {r : Records} {l : Ledger} {h : Handle}
  {key table : String} {fields : FieldValues} {names : List String}
  {record : Option (List (String × String))}

/-- The memory shows these records, and each has fields. -/
structure Shows (m : Memory) (r : Records) : Prop where
  get? : ∀ key, m.records.get? key = (r key).map FieldValues.mk
  clean : r.Clean

namespace Shows

theorem contains_iff (hm : m.Shows r) :
    m.contains key = true ↔ ∃ record, r key = some record := by
  rw [contains, KeyMap.contains, hm.get? key, Option.isSome_map, Option.isSome_iff_exists]

theorem pairs_fetch (hm : m.Shows r) : (m.fetch key).pairs = (r key).getD [] := by
  rw [fetch, hm.get? key]
  cases r key <;> rfl

theorem empty : Memory.empty.Shows .empty where
  get? _ := rfl
  clean := by
    rintro _ _ ⟨⟩

theorem insert {x : FieldValues} (hm : m.Shows r) (hne : x.pairs ≠ [])
    (hn : (x.pairs.map Prod.fst).Nodup) :
    (Memory.mk (m.records.insert key x)).Shows (r.set key (some x.pairs)) where
  get? k := by
    rw [KeyMap.get?_insert, Records.set]
    by_cases hk : k = key
    · rw [if_pos hk.symm, if_pos hk]
      rfl
    · rw [if_neg (Ne.symm hk), if_neg hk, hm.get? k]
  clean := hm.clean.set (by
    rintro _ ⟨⟩
    exact ⟨hne, hn⟩)

/-- An entry is merged into what is there of it. -/
theorem merge (hm : m.Shows r) : (m.merge key fields).Shows
    (r.set key (some (settled ((r key).getD [] ++ StoreWrite.written fields)))) := by
  have start : (m.fetch key).pairs = settled ((r key).getD []) := by
    rw [hm.pairs_fetch, settled_of_nodup hm.clean.nodup]
  have merged : ((if fields.isEmpty then (m.fetch key).insert "NULL" "NULL" else m.fetch key).merge
      fields).pairs = settled ((r key).getD [] ++ StoreWrite.written fields) := by
    obtain ⟨pairs⟩ := fields
    cases pairs with
    | nil =>
      have filled : ((m.fetch key).insertAll [("NULL", "NULL")]).pairs =
          settled ((r key).getD [] ++ [("NULL", "NULL")]) := FieldValues.pairs_insertAll start
      exact filled
    | cons p pairs => exact FieldValues.pairs_insertAll start
  have hne : (r key).getD [] ++ StoreWrite.written fields ≠ [] :=
    List.append_ne_nil_of_right_ne_nil _ StoreWrite.written_ne_nil
  rw [← merged]
  exact hm.insert (merged ▸ settled_ne_nil hne) (merged ▸ nodup_settled)

theorem dropKey (hm : m.Shows r) : (m.dropKey key).Shows (r.set key none) where
  get? k := by
    rw [Memory.dropKey, KeyMap.get?_erase, Records.set]
    split
    · rfl
    · exact hm.get? k
  clean := hm.clean.set (by rintro _ ⟨⟩)

theorem dropFields (hm : m.Shows r) : (m.dropFields key names).Shows (r.without key names) := by
  rw [Memory.dropFields, hm.get? key]
  cases hx : r key with
  | none =>
    rw [Records.without_of_none hx]
    exact hm
  | some record =>
    have hn := (hm.clean key record hx).2
    have rest : (names.foldl FieldValues.erase ⟨record⟩).pairs =
        record.filter fun p => p.1 ∉ names := FieldValues.pairs_foldl_erase hn
    have left : r.without key names = r.set key
        ((some (record.filter fun p => p.1 ∉ names)).filter fun record => record ≠ []) := by
      rw [Records.without, hx, Option.map_some]
    rw [left]
    simp only [Option.map_some]
    by_cases he : record.filter (fun p => p.1 ∉ names) = []
    · have hempty : (names.foldl FieldValues.erase ⟨record⟩).isEmpty = true := by
        rw [FieldValues.isEmpty, rest, he]
        rfl
      rw [if_pos hempty, Option.filter_some, if_neg (by simpa using he)]
      exact hm.dropKey
    · have hfull : (names.foldl FieldValues.erase ⟨record⟩).isEmpty = false := by
        rw [FieldValues.isEmpty, rest]
        simpa using he
      rw [if_neg (by simp [hfull]), Option.filter_some, if_pos (by simpa using he), ← rest]
      exact hm.insert (rest ▸ he) (rest ▸ hn.sublist (List.filter_sublist.map Prod.fst))

end Shows

theorem ascending_dropFields (hm : m.records.Ascending) :
    (m.dropFields key names).records.Ascending := by
  rw [Memory.dropFields]
  cases m.records.get? key with
  | none => exact hm
  | some record =>
    dsimp only
    split
    · exact hm.erase
    · exact hm.insert

/-- The memory holds just these records. -/
structure Holds (m : Memory) (r : Records) : Prop where
  ascending : m.records.Ascending
  get? : ∀ key, m.records.get? key = (r key).map FieldValues.mk
  sound : r.Sound

namespace Holds

theorem shows (hm : m.Holds r) : m.Shows r := ⟨hm.get?, hm.sound.clean⟩

theorem plain (hm : m.Holds r) : m.Plain := by
  intro key hkey
  obtain ⟨record, hrecord⟩ := hm.shows.contains_iff.mp hkey
  exact (hm.sound key record hrecord).2.2

theorem empty : Memory.empty.Holds .empty where
  ascending := KeyMap.ascending_empty
  get? _ := rfl
  sound := by
    rintro _ _ ⟨⟩

theorem merge (hm : m.Holds r) (hkey : '*' ∉ key.toList) : (m.merge key fields).Holds
    (r.set key (some (settled ((r key).getD [] ++ StoreWrite.written fields)))) where
  ascending := hm.ascending.insert
  get? := hm.shows.merge.get?
  sound := hm.sound.set hm.shows.merge.clean fun _ => hkey

theorem dropKey (hm : m.Holds r) : (m.dropKey key).Holds (r.set key none) where
  ascending := hm.ascending.erase
  get? := hm.shows.dropKey.get?
  sound := hm.sound.set hm.shows.dropKey.clean nofun

theorem dropFields (hm : m.Holds r) : (m.dropFields key names).Holds (r.without key names) where
  ascending := ascending_dropFields hm.ascending
  get? := hm.shows.dropFields.get?
  sound := by
    refine hm.sound.set hm.shows.dropFields.clean fun hsome => ?_
    cases hx : r key with
    | none => simp [hx] at hsome
    | some record => exact (hm.sound key record hx).2.2

end Holds

/-! ## The keys of a table dropped one by one -/

theorem get?_foldl_dropKey {keys : List String} {f : String → String} :
    (keys.foldl (fun m key => m.dropKey (f key)) m).records.get? key =
      if key ∈ keys.map f then none else m.records.get? key := by
  induction keys generalizing m with
  | nil => simp
  | cons k keys ih =>
    rw [List.foldl_cons, ih, dropKey, KeyMap.get?_erase]
    by_cases hk : key = f k <;> by_cases hm : key ∈ keys.map f <;> simp [hk, hm]

theorem ascending_foldl_dropKey {keys : List String} {f : String → String}
    (hm : m.records.Ascending) :
    (keys.foldl (fun m key => m.dropKey (f key)) m).records.Ascending := by
  induction keys generalizing m with
  | nil => exact hm
  | cons k keys ih => exact ih hm.erase

theorem perform_deleteTable : m.perform others (h.deleteTable table) l =
    ((.ok (), l), (h.db.keysIn table (m.keys (h.tableKey table "" ++ "*"))).foldl
      (fun m key => m.dropKey (h.tableKey table key)) m) := by
  have each (keys : List String) (m : Memory) : m.perform others
      (forIn keys PUnit.unit fun key _ => do
        h.deleteEntry table key
        return ForInStep.yield PUnit.unit) l =
      ((.ok PUnit.unit, l), keys.foldl (fun m key => m.dropKey (h.tableKey table key)) m) := by
    induction keys generalizing m with
    | nil => rfl
    | cons key keys ih =>
      rw [List.forIn_cons, List.foldl_cons]
      have first : m.perform others (do
          h.deleteEntry table key
          return ForInStep.yield PUnit.unit) l =
        ((.ok (ForInStep.yield PUnit.unit), l), m.dropKey (h.tableKey table key)) := rfl
      rw [perform_bind_ok first]
      exact ih _
  rw [Handle.deleteTable, perform_bind_ok perform_getKeys]
  exact perform_bind_ok (each _ m)

/-- A table that is deleted takes the records with it whose raw keys start with its name and a
separator, also where the name starts that of another table. -/
theorem Holds.deleteTable (hm : m.Holds r) : ∃ m',
    m.perform others (h.deleteTable table) l = ((.ok (), l), m') ∧
      m'.Holds (r.withoutStart (h.tableKey table "")) := by
  refine ⟨_, perform_deleteTable, ascending_foldl_dropKey hm.ascending, fun raw => ?_,
    hm.sound.withoutStart⟩
  rw [get?_foldl_dropKey, Records.withoutStart, hm.get? raw]
  cases hr : r raw with
  | none => simp
  | some record =>
    have there : m.contains raw = true := hm.shows.contains_iff.mpr ⟨record, hr⟩
    have gone : raw ∈ (h.db.keysIn table (m.keys (h.tableKey table "" ++ "*"))).map
        (h.tableKey table) ↔ (h.tableKey table "").toList <+: raw.toList := by
      simp only [List.mem_map, mem_keysIn_keys_iff hm.plain, Handle.tableKey_prefix_iff]
      constructor
      · rintro ⟨key, -, rfl⟩
        exact ⟨key, rfl⟩
      · rintro ⟨key, rfl⟩
        exact ⟨key, there, rfl⟩
    simp only [gone]
    split <;> rfl

end Memory

namespace StoreWrite

variable {others : (q : Query) → q.Reply} {m : Memory} {r : Records} {l : Ledger} {w : StoreWrite}
  {writes : List StoreWrite}

theorem act_holds (hm : m.Holds r) (hw : w.Plain) : ∃ m',
    m.perform others w.act l = ((.ok (), l), m') ∧ m'.Holds (w.change r) := by
  cases w with
  | put h table key fields => exact ⟨_, rfl, hm.merge hw⟩
  | deleteEntry h table key => exact ⟨_, rfl, hm.dropKey⟩
  | deleteField h table key field => exact ⟨_, rfl, hm.dropFields⟩
  | dropFields h rawKey fields => exact ⟨_, rfl, hm.dropFields⟩
  | deleteTable h table => exact hm.deleteTable

/-- The writes one after the other. -/
def history (writes : List StoreWrite) : Attempt Unit := writes.forM act

/-- What the writes make of no records at all. -/
def reference (writes : List StoreWrite) : Records := writes.foldl change .empty

theorem history_holds (hm : m.Holds r) (hw : ∀ w ∈ writes, w.Plain) : ∃ m',
    m.perform others (history writes) l = ((.ok (), l), m') ∧
      m'.Holds (writes.foldl change r) := by
  induction writes generalizing m r with
  | nil => exact ⟨m, rfl, hm⟩
  | cons w writes ih =>
    obtain ⟨m₁, first, hm₁⟩ := act_holds hm (hw w (by simp))
    obtain ⟨m', rest, hm'⟩ := ih hm₁ fun w' hw' => hw w' (by simp [hw'])
    refine ⟨m', ?_, hm'⟩
    exact (Memory.perform_bind_ok first).trans rest

end StoreWrite

namespace Memory.Holds

variable {others : (q : Query) → q.Reply} {m : Memory} {r : Records} {l : Ledger} {w : StoreWrite}

/-- A write leaves all records as they are that it is not about. -/
theorem act_elsewhere (hm : m.Holds r) (hw : w.Plain) : ∃ m',
    m.perform others w.act l = ((.ok (), l), m') ∧
      ∀ raw, ¬ w.Touches raw → m'.records.get? raw = m.records.get? raw := by
  obtain ⟨m', done, hm'⟩ := StoreWrite.act_holds hm hw
  refine ⟨m', done, fun raw hraw => ?_⟩
  rw [hm'.get? raw, StoreWrite.change_of_not_touches hraw, hm.get? raw]

/-- A key is listed just if its entry is not empty. -/
theorem mem_keysIn_keys_iff_fetch {h : Handle} {table key : String} (hm : m.Holds r) :
    key ∈ h.db.keysIn table (m.keys (h.tableKey table "" ++ "*")) ↔
      (m.fetch (h.tableKey table key)).isEmpty = false := by
  rw [mem_keysIn_keys_iff hm.plain, hm.shows.contains_iff, FieldValues.isEmpty,
    hm.shows.pairs_fetch]
  cases hr : r (h.tableKey table key) with
  | none => simp
  | some record => simpa using (hm.sound _ record hr).1

end Memory.Holds

/-- After any writes to an empty memory it holds the records that the reference has. A further
write leaves those alone that it is not about, and what a table lists is what is not empty. -/
theorem StoreWrite.history_refines (others : (q : Query) → q.Reply) (l : Ledger)
    (writes : List StoreWrite) (hwrites : ∀ w ∈ writes, w.Plain) :
    ∃ m, Memory.empty.perform others (history writes) l = ((.ok (), l), m) ∧
      m.Holds (reference writes) ∧
      (∀ w : StoreWrite, w.Plain → ∃ m', m.perform others w.act l = ((.ok (), l), m') ∧
        ∀ raw, ¬ w.Touches raw → m'.records.get? raw = m.records.get? raw) ∧
      ∀ (h : Handle) (table : String), ∃ keys,
        m.perform others (h.getKeys table) l = ((.ok keys, l), m) ∧
        ∀ key, ∃ record, m.perform others (h.getEntry table key) l = ((.ok record, l), m) ∧
          (key ∈ keys ↔ record.isEmpty = false) := by
  obtain ⟨m, done, hm⟩ := history_holds Memory.Holds.empty hwrites
  refine ⟨m, done, hm, fun w hw => hm.act_elsewhere hw, fun h table => ?_⟩
  refine ⟨_, Memory.perform_getKeys, fun key => ?_⟩
  exact ⟨_, Memory.perform_getEntry, hm.mem_keysIn_keys_iff_fetch⟩

end SwitchLab

/-! ## Tables that start alike -/

namespace SwitchLab.VlanWrites

def config : Handle := ⟨⟨"redis.sock", .config⟩, 0⟩

def appl : Handle := ⟨⟨"redis.sock", .appl⟩, 1⟩

/-- The members have a separator in their keys, and their table starts with the name of the
other one. -/
def writes : List StoreWrite :=
  [.put config "VLAN" "Vlan10" (.ofPairs [("vlanid", "10"), ("mtu", "9100")]),
    .put config "VLAN_MEMBER" "Vlan10|Ethernet0" (.ofPairs []),
    .put config "VLAN_MEMBER" "Vlan10|Ethernet4" (.ofPairs [("tagging_mode", "tagged")]),
    .put config "VLAN" "Vlan10" (.ofPairs [("mtu", "1500"), ("vlanid", "10")]),
    .put appl "VLAN" "Vlan10" (.ofPairs [("state", "ok")]),
    .deleteField config "VLAN_MEMBER" "Vlan10|Ethernet4" "tagging_mode",
    .dropFields config "VLAN|Vlan10" ["mtu", "mtu"],
    .deleteEntry appl "VLAN" "Vlan20",
    .deleteTable appl "VLAN_MEMBER"]

theorem vlan_history_refined : (∀ w ∈ writes, w.Plain) ∧
    ∃ m, Memory.empty.perform PatternTable.silence (StoreWrite.history writes) .empty =
        ((.ok (), .empty), m) ∧
      m.Holds (StoreWrite.reference writes) ∧
      (∀ w : StoreWrite, w.Plain →
        ∃ m', m.perform PatternTable.silence w.act .empty = ((.ok (), .empty), m') ∧
          ∀ raw, ¬ w.Touches raw → m'.records.get? raw = m.records.get? raw) ∧
      ∀ (h : Handle) (table : String), ∃ keys,
        m.perform PatternTable.silence (h.getKeys table) .empty = ((.ok keys, .empty), m) ∧
        ∀ key, ∃ record,
          m.perform PatternTable.silence (h.getEntry table key) .empty =
            ((.ok record, .empty), m) ∧
          (key ∈ keys ↔ record.isEmpty = false) := by
  have plain : ∀ w ∈ writes, w.Plain := by decide +kernel
  exact ⟨plain, StoreWrite.history_refines PatternTable.silence .empty writes plain⟩

example :
    let r := StoreWrite.reference writes
    r "VLAN|Vlan10" = some [("vlanid", "10")] ∧
      r "VLAN_MEMBER|Vlan10|Ethernet0" = some [("NULL", "NULL")] ∧
      r "VLAN_MEMBER|Vlan10|Ethernet4" = none ∧
      StoreWrite.change r (.deleteTable config "VLAN") "VLAN|Vlan10" = none ∧
      StoreWrite.change r (.deleteTable config "VLAN") "VLAN_MEMBER|Vlan10|Ethernet0" =
        some [("NULL", "NULL")] := by decide +kernel

end SwitchLab.VlanWrites
