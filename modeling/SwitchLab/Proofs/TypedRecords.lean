import SwitchLab.Proofs.Fields
import SwitchLab.Proofs.Serving

/-! Records with a known meaning that are put on one key, one after the other. Each
put is merged into what is there, so what is read back has each attribute from
the last put in which it was set. -/

namespace SwitchLab

/-! ## Attributes -/

/-- The value of an attribute in the last record in which it is set. -/
def lastSet {α β : Type} (value : α → Option β) (records : List α) : Option β :=
  (records.filterMap value).getLast?

section LastSet

variable {α β γ : Type} {value : α → Option β} {records : List α} {r : α}

theorem lastSet_concat :
    lastSet value (records ++ [r]) = (value r).or (lastSet value records) := by
  rw [lastSet, List.filterMap_append, List.getLast?_append]
  cases h : value r <;> simp [h, lastSet]

theorem lastSet_some {f : α → β} : lastSet (fun r => some (f r)) (records ++ [r]) = some (f r) :=
  lastSet_concat

theorem lastSet_map {f : β → γ} :
    lastSet (fun r => (value r).map f) records = (lastSet value records).map f := by
  rw [lastSet, lastSet, ← List.getLast?_map, List.map_filterMap]

/-- It is set in one of the records. -/
theorem exists_of_lastSet {b : β} (h : lastSet value records = some b) :
    ∃ r ∈ records, value r = some b :=
  List.mem_filterMap.mp (List.mem_of_getLast? h)

/-- In none of the records after that one is it set. -/
theorem lastSet_eq_some_iff {b : β} : lastSet value records = some b ↔
    ∃ before r after, records = before ++ r :: after ∧ value r = some b ∧
      ∀ x ∈ after, value x = none := by
  rw [lastSet, List.getLast?_eq_some_iff]
  constructor
  · rintro ⟨bs, h⟩
    obtain ⟨first, second, rfl, -, hlast⟩ := List.filterMap_eq_append_iff.mp h
    obtain ⟨skipped, r, after, rfl, -, hr, hafter⟩ := List.filterMap_eq_cons_iff.mp hlast
    refine ⟨first ++ skipped, r, after, (List.append_assoc ..).symm, hr, ?_⟩
    exact List.filterMap_eq_nil_iff.mp hafter
  · rintro ⟨before, r, after, rfl, hr, hafter⟩
    refine ⟨before.filterMap value, ?_⟩
    rw [List.filterMap_append, List.filterMap_cons_some hr, List.filterMap_eq_nil_iff.mpr hafter]

theorem lastSet_eq_none_iff : lastSet value records = none ↔ ∀ r ∈ records, value r = none := by
  rw [lastSet, List.getLast?_eq_none_iff, List.filterMap_eq_nil_iff]

theorem lastSet_filterMap {f : γ → Option α} {xs : List γ} :
    lastSet value (xs.filterMap f) = lastSet (fun x => (f x).bind value) xs := by
  rw [lastSet, lastSet, List.filterMap_filterMap]

end LastSet

/-- Of several pairs with one key the last counts. -/
theorem KeyMap.get?_ofPairs {β : Type} {pairs : List (String × β)} {key : String} :
    (KeyMap.ofPairs pairs).get? key =
      lastSet (fun p => if p.1 = key then some p.2 else none) pairs := by
  induction pairs using List.reverseRecOn with
  | nil => rfl
  | append_singleton pairs p ih =>
    rw [KeyMap.ofPairs, List.foldl_concat, KeyMap.get?_insert, lastSet_concat, ← ih]
    split <;> rfl

/-! ## Records in a memory -/

namespace Memory

variable {m : Memory} {raw field : String} {fields : FieldValues}

theorem fetch_merge : (m.merge raw fields).fetch raw = FieldValues.merge
    (if fields.isEmpty then (m.fetch raw).insert "NULL" "NULL" else m.fetch raw) fields :=
  fetch_of_get? (KeyMap.get?_insert.trans (if_pos rfl))

/-- Also what is written without fields is there afterwards. -/
theorem isEmpty_fetch_merge : ((m.merge raw fields).fetch raw).isEmpty = false := by
  rw [fetch_merge]
  obtain ⟨pairs⟩ := fields
  cases pairs with
  | nil => exact FieldValues.isEmpty_insert
  | cons p pairs =>
    have rest : (((m.fetch raw).insert p.1 p.2).insertAll pairs).isEmpty = false :=
      FieldValues.isEmpty_insertAll FieldValues.isEmpty_insert
    exact rest

/-- The field that stands for none at all is no attribute. -/
theorem get?_fetch_merge (hfields : fields.names.Nodup) (hfield : field ≠ "NULL") :
    ((m.merge raw fields).fetch raw).get? field =
      (fields.get? field).or ((m.fetch raw).get? field) := by
  rw [fetch_merge, FieldValues.get?_merge hfields]
  split
  · rw [FieldValues.get?_insert, if_neg (Ne.symm hfield)]
  · rfl

end Memory

/-- The raw key of the record with this key. -/
def TableRecord.rawKey (α : Type) [TableRecord α] (key : String) : String :=
  (TableRecord.store α).tableKey (TableRecord.table α) key

/-- What tells that a record is not in the database of a handle. -/
def TableRecord.elsewhere (α : Type) [TableRecord α] (h : Handle) : Fault :=
  .invalidValue
    s!"{TableRecord.table α} lives in {(TableRecord.store α).name}, not {h.store.name}"

/-- A record, and a handle of its own store to put it through. -/
structure TypedPut (α : Type) [TableRecord α] where
  handle : Handle
  record : α
  own : handle.store = TableRecord.store α

namespace TypedPut

variable {α : Type} [TableRecord α] {others : (q : Query) → q.Reply} {m : Memory} {l : Ledger}
  {h : Handle} {key field : String} {puts : List (TypedPut α)} {p : TypedPut α} {record : α}

open TableRecord

def act (key : String) (p : TypedPut α) : Attempt Unit := p.handle.putRecord key p.record

def actAll (key : String) (puts : List (TypedPut α)) : Attempt Unit := puts.forM (act key)

/-- The memory after the puts. -/
def leave (key : String) (m : Memory) (puts : List (TypedPut α)) : Memory :=
  puts.foldl (fun m p => m.merge (rawKey α key) (toFields p.record)) m

theorem perform_act :
    m.perform others (p.act key) l = ((.ok (), l), m.merge (rawKey α key) (toFields p.record)) := by
  have raw : p.handle.tableKey (table α) key = rawKey α key := by
    rw [Handle.tableKey, p.own, rawKey]
  rw [← raw]
  rfl

theorem perform_actAll :
    m.perform others (actAll key puts) l = ((.ok (), l), leave key m puts) := by
  induction puts generalizing m with
  | nil => rfl
  | cons p puts ih => exact (Memory.perform_bind_ok perform_act).trans ih

theorem leave_concat : leave key m (puts ++ [p]) =
    (leave key m puts).merge (rawKey α key) (toFields p.record) := List.foldl_concat ..

/-- Each field is as in the last record that has it. -/
theorem get?_leave (hfields : ∀ r : α, (toFields r).names.Nodup) (hfield : field ≠ "NULL")
    (habsent : m.records.get? (rawKey α key) = none) :
    ((leave key m puts).fetch (rawKey α key)).get? field =
      lastSet (fun p => (toFields p.record).get? field) puts := by
  induction puts using List.reverseRecOn with
  | nil =>
    show (m.fetch (rawKey α key)).get? field = none
    rw [Memory.fetch, habsent]
    rfl
  | append_singleton puts p ih =>
    rw [leave_concat, Memory.get?_fetch_merge (hfields _) hfield, ih, lastSet_concat]

theorem isEmpty_leave :
    ((leave key m (puts ++ [p])).fetch (rawKey α key)).isEmpty = false := by
  rw [leave_concat]
  exact Memory.isEmpty_fetch_merge

end TypedPut

/-! ## Reading -/

section Reading

variable {α : Type} [TableRecord α] {others : (q : Query) → q.Reply} {m : Memory} {l : Ledger}
  {h : Handle} {key : String} {record : α}

open TableRecord

theorem perform_getRecord?_own (hh : h.store = store α)
    (hfull : (m.fetch (rawKey α key)).isEmpty = false)
    (hdecoded : ofFields key (m.fetch (rawKey α key)) = .ok record) :
    m.perform others (h.getRecord? α key) l = ((.ok (some record), l), m) := by
  have raw : h.tableKey (table α) key = rawKey α key := by rw [Handle.tableKey, hh, rawKey]
  have entry : m.perform others (h.getEntry (table α) key) l =
      ((.ok (m.fetch (rawKey α key)), l), m) := by
    rw [← raw]
    exact Memory.perform_getEntry
  rw [Handle.getRecord?, if_neg (not_not.mpr hh.symm)]
  refine (Memory.perform_bind_ok entry).trans ?_
  rw [if_neg (by simp [hfull]), hdecoded]
  rfl

theorem perform_getRecord?_elsewhere (hh : h.store ≠ store α) :
    m.perform others (h.getRecord? α key) l = ((.error (elsewhere α h), l), m) := by
  rw [Handle.getRecord?, if_pos hh.symm]
  rfl

end Reading

/-! ## What is read back -/

open TypedPut

theorem AdminStatus.ofText?_text (a : AdminStatus) : AdminStatus.ofText? a.text = some a := by
  cases a <;> rfl

theorem AdminStatus.ofText?_comp_text : AdminStatus.ofText? ∘ AdminStatus.text = some :=
  funext AdminStatus.ofText?_text

section ReadsBack

variable {α β : Type} [TableRecord α] {others : (q : Query) → q.Reply} {l : Ledger} {m : Memory}
  {key : String}

/-- After the puts every handle on their store reads this record, and the others are refused. -/
def ReadsBack (others : (q : Query) → q.Reply) (l : Ledger) (m : Memory) (key : String)
    (puts : List (TypedPut α)) (record : α) : Prop :=
  ∃ m', m.perform others (actAll key puts) l = ((.ok (), l), m') ∧
    (∀ h : Handle, h.store = TableRecord.store α →
      m'.perform others (h.getRecord? α key) l = ((.ok (some record), l), m')) ∧
    ∀ h : Handle, h.store ≠ TableRecord.store α →
      m'.perform others (h.getRecord? α key) l = ((.error (TableRecord.elsewhere α h), l), m')

theorem readsBack_of_decoded {puts : List (TypedPut α)} {p : TypedPut α} {record : α}
    (hdecoded : TableRecord.ofFields key
      ((leave key m (puts ++ [p])).fetch (TableRecord.rawKey α key)) = .ok record) :
    ReadsBack others l m key (puts ++ [p]) record :=
  ⟨_, perform_actAll, fun _ hh => perform_getRecord?_own hh isEmpty_leave hdecoded,
    fun _ hh => perform_getRecord?_elsewhere hh⟩

/-- An attribute that is written as text in a field of its own. -/
theorem get?_leave_text {puts : List (TypedPut α)} {field : String} {value : α → Option β}
    {text : β → String} (hfields : ∀ r : α, (TableRecord.toFields r).names.Nodup)
    (habsent : m.records.get? (TableRecord.rawKey α key) = none) (hfield : field ≠ "NULL")
    (hvalue : ∀ r : α, (TableRecord.toFields r).get? field = (value r).map text) :
    ((leave key m puts).fetch (TableRecord.rawKey α key)).get? field =
      (lastSet (fun p => value p.record) puts).map text := by
  rw [get?_leave hfields hfield habsent, ← lastSet_map]
  simp only [hvalue]

end ReadsBack

section Kinds

variable {others : (q : Query) → q.Reply} {l : Ledger} {m : Memory} {key : String}

namespace HostIf

variable {puts : List (TypedPut HostIf)} {p : TypedPut HostIf}

theorem get?_toFields (r : HostIf) :
    (TableRecord.toFields r).get? "SAI_HOSTIF_ATTR_NAME" = some r.name ∧
      (TableRecord.toFields r).get? "SAI_HOSTIF_ATTR_OBJ_ID" = some r.portOid := ⟨rfl, rfl⟩

theorem readsBack (habsent : m.records.get? (TableRecord.rawKey HostIf key) = none) :
    ReadsBack others l m key (puts ++ [p]) ⟨key, p.record.name, p.record.portOid⟩ := by
  have field {field : String} {value : HostIf → String} (hfield : field ≠ "NULL")
      (hvalue : ∀ r : HostIf, (TableRecord.toFields r).get? field = some (value r)) :
      ((leave key m (puts ++ [p])).fetch (TableRecord.rawKey HostIf key)).require key field =
        .ok (value p.record) := by
    rw [FieldValues.require, get?_leave (fun _ => FieldValues.nodup_ofPairs) hfield habsent]
    simp only [hvalue, lastSet_some]
  refine readsBack_of_decoded ?_
  show (do
    let name ← FieldValues.require _ key "SAI_HOSTIF_ATTR_NAME"
    let portOid ← FieldValues.require _ key "SAI_HOSTIF_ATTR_OBJ_ID"
    return HostIf.mk key name portOid) = _
  have name := field (by decide) fun r => (get?_toFields r).1
  have portOid := field (by decide) fun r => (get?_toFields r).2
  rw [name, portOid]
  rfl

end HostIf

namespace ConfigPort

variable {puts : List (TypedPut ConfigPort)} {p : TypedPut ConfigPort}

theorem get?_toFields (r : ConfigPort) :
    (TableRecord.toFields r).get? "admin_status" = some r.admin.text ∧
      (TableRecord.toFields r).get? "mtu" = r.mtu.map toString := by
  obtain ⟨name, admin, mtu⟩ := r
  cases mtu <;> exact ⟨rfl, rfl⟩

theorem readsBack (habsent : m.records.get? (TableRecord.rawKey ConfigPort key) = none)
    (hmtu : ∀ q ∈ puts ++ [p], ∀ mtu ∈ q.record.mtu, mtu < Text.wordSize 32) :
    ReadsBack others l m key (puts ++ [p])
      ⟨key, p.record.admin, lastSet (fun q => q.record.mtu) (puts ++ [p])⟩ := by
  have hfields (r : ConfigPort) : (TableRecord.toFields r).names.Nodup := FieldValues.nodup_ofPairs
  have admin : adminOfFields key ((leave key m (puts ++ [p])).fetch
      (TableRecord.rawKey ConfigPort key)) = .ok p.record.admin := by
    rw [adminOfFields, get?_leave hfields (by decide) habsent]
    simp only [fun r => (get?_toFields r).1, lastSet_some, AdminStatus.ofText?_text]
  have mtu : mtuOfFields key ((leave key m (puts ++ [p])).fetch
      (TableRecord.rawKey ConfigPort key)) =
        .ok (lastSet (fun q => q.record.mtu) (puts ++ [p])) := by
    rw [mtuOfFields, get?_leave_text hfields habsent (by decide) fun r => (get?_toFields r).2]
    cases hlast : lastSet (fun q => q.record.mtu) (puts ++ [p]) with
    | none => rfl
    | some mtu =>
      obtain ⟨q, hq, hset⟩ := exists_of_lastSet hlast
      simp only [Option.map_some, Text.unsigned?_toString (hmtu q hq mtu hset)]
  refine readsBack_of_decoded ?_
  show (do
    let admin ← adminOfFields key _
    let mtu ← mtuOfFields key _
    return ConfigPort.mk key admin mtu) = _
  rw [admin, mtu]
  rfl

end ConfigPort

namespace AppPort

variable {puts : List (TypedPut AppPort)} {p : TypedPut AppPort}

theorem get?_toFields (r : AppPort) :
    (TableRecord.toFields r).get? "admin_status" = r.admin.map AdminStatus.text ∧
      (TableRecord.toFields r).get? "oper_status" = r.oper.map AdminStatus.text := by
  obtain ⟨name, admin, oper⟩ := r
  cases admin <;> cases oper <;> exact ⟨rfl, rfl⟩

theorem readsBack (habsent : m.records.get? (TableRecord.rawKey AppPort key) = none) :
    ReadsBack others l m key (puts ++ [p])
      ⟨key, lastSet (fun q => q.record.admin) (puts ++ [p]),
        lastSet (fun q => q.record.oper) (puts ++ [p])⟩ := by
  have status {field : String} {value : AppPort → Option AdminStatus} (hfield : field ≠ "NULL")
      (hvalue : ∀ r : AppPort,
        (TableRecord.toFields r).get? field = (value r).map AdminStatus.text) :
      (((leave key m (puts ++ [p])).fetch (TableRecord.rawKey AppPort key)).get? field).bind
        AdminStatus.ofText? = lastSet (fun q => value q.record) (puts ++ [p]) := by
    rw [get?_leave_text (fun _ => FieldValues.nodup_ofPairs) habsent hfield hvalue,
      Option.bind_map, AdminStatus.ofText?_comp_text, Option.bind_fun_some]
  have admin := status (by decide) fun r => (get?_toFields r).1
  have oper := status (by decide) fun r => (get?_toFields r).2
  refine readsBack_of_decoded (congrArg Except.ok ?_)
  rw [admin, oper]

end AppPort

end Kinds

/-- Records that are put on a key that was not there are read back from the last put, and what
need not be set, from the last put in which it was. -/
theorem puts_readBack (others : (q : Query) → q.Reply) (l : Ledger) (m : Memory) (key : String) :
    (∀ (puts : List (TypedPut HostIf)) (p : TypedPut HostIf),
      m.records.get? (TableRecord.rawKey HostIf key) = none →
      ReadsBack others l m key (puts ++ [p]) ⟨key, p.record.name, p.record.portOid⟩) ∧
    (∀ (puts : List (TypedPut ConfigPort)) (p : TypedPut ConfigPort),
      m.records.get? (TableRecord.rawKey ConfigPort key) = none →
      (∀ q ∈ puts ++ [p], ∀ mtu ∈ q.record.mtu, mtu < Text.wordSize 32) →
      ReadsBack others l m key (puts ++ [p])
        ⟨key, p.record.admin, lastSet (fun q => q.record.mtu) (puts ++ [p])⟩) ∧
    ∀ (puts : List (TypedPut AppPort)) (p : TypedPut AppPort),
      m.records.get? (TableRecord.rawKey AppPort key) = none →
      ReadsBack others l m key (puts ++ [p])
        ⟨key, lastSet (fun q => q.record.admin) (puts ++ [p]),
          lastSet (fun q => q.record.oper) (puts ++ [p])⟩ :=
  ⟨fun _ _ => HostIf.readsBack, fun _ _ => ConfigPort.readsBack, fun _ _ => AppPort.readsBack⟩

end SwitchLab

/-! ## One port in three tables -/

namespace SwitchLab.OnePort

open PatternTable (silence)

/-- Another port is there. -/
def memory : Memory := ⟨.ofPairs
  [("PORT|Ethernet4", .ofPairs [("admin_status", "up"), ("mtu", "9100")]),
    ("PORT_TABLE:Ethernet4", .ofPairs [("oper_status", "down")])]⟩

def database (store : StoreName) : Handle := ⟨⟨"redis.sock", store⟩, 0⟩

def hostPut (portOid : String) : TypedPut HostIf :=
  ⟨database .asic, ⟨"oid:0xd1", "Ethernet0", portOid⟩, rfl⟩

def configPut (admin : AdminStatus) (mtu : Option Nat) : TypedPut ConfigPort :=
  ⟨database .config, ⟨"Ethernet0", admin, mtu⟩, rfl⟩

def appPut (admin oper : Option AdminStatus) : TypedPut AppPort :=
  ⟨database .appl, ⟨"Ethernet0", admin, oper⟩, rfl⟩

theorem port_readsBack :
    (memory.records.get? (TableRecord.rawKey HostIf "oid:0xd1") = none ∧
      ReadsBack silence .empty memory "oid:0xd1" ([hostPut "oid:0x10"] ++ [hostPut "oid:0x11"])
        ⟨"oid:0xd1", "Ethernet0", "oid:0x11"⟩) ∧
    (memory.records.get? (TableRecord.rawKey ConfigPort "Ethernet0") = none ∧
      (∀ q ∈ [configPut .up (some 4294967295)] ++ [configPut .down none],
        ∀ mtu ∈ q.record.mtu, mtu < Text.wordSize 32) ∧
      ReadsBack silence .empty memory "Ethernet0"
        ([configPut .up (some 4294967295)] ++ [configPut .down none])
        ⟨"Ethernet0", .down, some 4294967295⟩) ∧
    memory.records.get? (TableRecord.rawKey AppPort "Ethernet0") = none ∧
      ReadsBack silence .empty memory "Ethernet0"
        ([appPut none none, appPut (some .up) none] ++ [appPut none none])
        ⟨"Ethernet0", some .up, none⟩ := by
  have hosts : memory.records.get? (TableRecord.rawKey HostIf "oid:0xd1") = none := by
    decide +kernel
  have ports : memory.records.get? (TableRecord.rawKey ConfigPort "Ethernet0") = none := by
    decide +kernel
  have states : memory.records.get? (TableRecord.rawKey AppPort "Ethernet0") = none := by
    decide +kernel
  have fits : ∀ q ∈ [configPut .up (some 4294967295)] ++ [configPut .down none],
      ∀ mtu ∈ q.record.mtu, mtu < Text.wordSize 32 := by
    have largest : 4294967295 < Text.wordSize 32 := by decide
    simpa [configPut] using largest
  exact ⟨⟨hosts, (puts_readBack silence .empty memory "oid:0xd1").1 _ _ hosts⟩,
    ⟨ports, fits, (puts_readBack silence .empty memory "Ethernet0").2.1 _ _ ports fits⟩, states,
    (puts_readBack silence .empty memory "Ethernet0").2.2 _ _ states⟩

end SwitchLab.OnePort
