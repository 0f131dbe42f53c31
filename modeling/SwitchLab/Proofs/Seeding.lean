import SwitchLab.Proofs.Defaults
import SwitchLab.Proofs.Fields
import SwitchLab.Proofs.Provisioning

/-! The hardware of a switch that has converged, as a test seeds it, for any number of ports: which
records there are, what names are read from them, and how many. Objects are named by numbers in
texts; they are told apart by reading the numbers back. -/

namespace SwitchLab

/-! ## Numbers read back -/

namespace Text

theorem hexValue?_digitChar {d : Nat} (h : d < 16) : hexValue? (Nat.digitChar d) = some d := by
  have all : ∀ d : Fin 16, hexValue? (Nat.digitChar d) = some d.val := by decide
  exact all ⟨d, h⟩

/-- Zeros in front of a number do not count. -/
theorem hexNumber?_zeros_append_toDigits {zeros n : Nat} :
    hexNumber? (List.replicate zeros '0' ++ Nat.toDigits 16 n) = some n := by
  have digits : (Nat.toDigits 16 n).foldlM (fun n c => (hexValue? c).map (16 * n + ·)) 0 =
      some n := by
    induction n using Nat.strongRecOn with
    | ind n ih =>
      rw [Nat.toDigits_eq_if (by decide)]
      split
      · rename_i hn
        simp [hexValue?_digitChar hn]
      · rename_i hn
        have last : n % 16 < 16 := Nat.mod_lt n (by decide)
        rw [List.foldlM_append, ih (n / 16) (by omega)]
        simp [hexValue?_digitChar last, Nat.div_add_mod]
  have none : (List.replicate zeros '0').foldlM (fun n c => (hexValue? c).map (16 * n + ·)) 0 =
      some 0 := by
    induction zeros with
    | zero => rfl
    | succ zeros ih => exact ih
  have some : ¬(List.replicate zeros '0' ++ Nat.toDigits 16 n).isEmpty := by simp
  rw [hexNumber?, if_neg some, List.foldlM_append, none]
  exact digits

theorem toList_padZeros_hex (width n : Nat) : ∃ zeros,
    (padZeros width (hex n)).toList = List.replicate zeros '0' ++ Nat.toDigits 16 n :=
  ⟨_, by rw [padZeros, String.toList_append, String.toList_ofList, hex, String.toList_ofList]⟩

theorem padZeros_hex_inj (width : Nat) {m n : Nat} :
    padZeros width (hex m) = padZeros width (hex n) ↔ m = n := by
  constructor
  · intro h
    obtain ⟨zeros, hm⟩ := toList_padZeros_hex width m
    obtain ⟨zeros', hn⟩ := toList_padZeros_hex width n
    have same := congrArg hexNumber? (hm.symm.trans ((congrArg String.toList h).trans hn))
    rw [hexNumber?_zeros_append_toDigits, hexNumber?_zeros_append_toDigits] at same
    exact Option.some.inj same
  · rintro rfl
    rfl

theorem hex_inj {m n : Nat} : hex m = hex n ↔ m = n := by
  have plain {s : String} : padZeros 0 s = s := by simp [padZeros]
  rw [← padZeros_hex_inj 0, plain, plain]

theorem mem_toDigits_hex {n : Nat} {c : Char} (h : c ∈ Nat.toDigits 16 n) :
    ∃ d < 16, c = Nat.digitChar d := by
  induction n using Nat.strongRecOn with
  | ind n ih =>
    rw [Nat.toDigits_eq_if (by decide)] at h
    split at h
    · rename_i hn
      exact ⟨n, hn, List.mem_singleton.mp h⟩
    · rename_i hn
      rcases List.mem_append.mp h with h | h
      · exact ih (n / 16) (by omega) h
      · exact ⟨n % 16, Nat.mod_lt n (by decide), List.mem_singleton.mp h⟩

/-- No digit is a star. -/
theorem star_notMem_hex {n : Nat} : '*' ∉ (hex n).toList := by
  rw [hex, String.toList_ofList]
  intro h
  obtain ⟨d, hd, hstar⟩ := mem_toDigits_hex h
  have none : hexValue? '*' = some d := hstar ▸ hexValue?_digitChar hd
  cases none

end Text

/-! ## Records that are put into a memory -/

namespace Memory

variable {m : Memory} {h : Handle} {r : HostIf} {key raw : String} {fields : FieldValues}

theorem contains_insert :
    (m.insert raw fields).contains key = true ↔ key = raw ∨ m.contains key = true := by
  rw [contains, contains, insert, KeyMap.contains, KeyMap.contains, KeyMap.get?_insert]
  split
  · rename_i he
    simp [he]
  · rename_i hne
    simp [Ne.symm hne]

theorem fetch_insert : (m.insert raw fields).fetch key =
    if raw = key then (m.fetch raw).merge fields else m.fetch key := by
  rw [fetch, insert, KeyMap.get?_insert]
  split
  · rfl
  · rfl

theorem HasHostIf.insert (hr : m.HasHostIf h r) (hne : raw ≠ h.tableKey Asic.hostIfTable r.oid) :
    (m.insert raw fields).HasHostIf h r where
  held := contains_insert.mpr (.inr hr.held)
  name := by rw [fetch_insert, if_neg hne, hr.name]
  port := by rw [fetch_insert, if_neg hne, hr.port]

theorem hasHostIf_insert_toFields :
    (m.insert (h.tableKey Asic.hostIfTable r.oid) (TableRecord.toFields r)).HasHostIf h r where
  held := contains_insert.mpr (.inl rfl)
  name := by
    have written : (TableRecord.toFields r).names.Nodup := FieldValues.nodup_ofPairs
    rw [fetch_insert, if_pos rfl, FieldValues.get?_merge written]
    rfl
  port := by
    have written : (TableRecord.toFields r).names.Nodup := FieldValues.nodup_ofPairs
    rw [fetch_insert, if_pos rfl, FieldValues.get?_merge written]
    rfl

end Memory

/-! ## The seeded objects -/

namespace World

open Asic

def switchOid : String := "oid:0x21000000000000"

def routerOid : String := "oid:0x3000000000022"

/-- The port of the processor. -/
def cpuPortOid : String := "oid:0x1000000000000"

def portOid (i : Nat) : String := "oid:0x" ++ Text.hex (0x1000000000000 + i + 1)

def portName (i : Nat) : String := s!"Ethernet{4 * i}"

def hostIfOid (i : Nat) : String := "oid:0xd00000000" ++ Text.padZeros 4 (Text.hex (i + 1))

/-- The host interface of a port. -/
def hostIf (i : Nat) : HostIf := ⟨hostIfOid i, portName i, portOid i⟩

/-- The default objects of so many ports, and a record of the port of the processor. -/
def convergedAsic (ports : Nat) (cpuPort : FieldValues) : Memory :=
  (seedAsic .empty ports).insert (StoreName.asic.tableKey portTable cpuPortOid) cpuPort

/-- The tables and keys of the objects. -/
def seeded (ports : Nat) : List (String × String) :=
  [(switchTable, switchOid), (virtualRouterTable, routerOid), (portTable, cpuPortOid)] ++
    (List.range ports).flatMap fun i => [(portTable, portOid i), (hostIfTable, hostIfOid i)]

variable {m : Memory} {ports i j : Nat} {cpuPort : FieldValues} {raw table key : String}

theorem portOid_inj : portOid i = portOid j ↔ i = j :=
  (String.append_right_inj _).trans (Text.hex_inj.trans (by omega))

theorem portOid_ne_cpuPortOid : portOid i ≠ cpuPortOid := by
  have cpu : cpuPortOid = "oid:0x" ++ Text.hex 0x1000000000000 := by decide
  rw [cpu, portOid, Ne, String.append_right_inj, Text.hex_inj]
  omega

theorem portName_inj : portName i = portName j ↔ i = j :=
  (String.append_right_inj _).trans (natRepr_inj.trans (by omega))

theorem hostIfOid_inj : hostIfOid i = hostIfOid j ↔ i = j :=
  (String.append_right_inj _).trans ((Text.padZeros_hex_inj 4).trans (by omega))

theorem seedPort_eq : seedPort m i =
    (m.insert (StoreName.asic.tableKey portTable (portOid i))
      (.ofPairs [("SAI_PORT_ATTR_ADMIN_STATE", "false")])).insert
      (StoreName.asic.tableKey hostIfTable (hostIfOid i)) (TableRecord.toFields (hostIf i)) := by
  rw [seedPort, hostIf, portName, Nat.mul_comm 4 i]
  rfl

theorem seedAsic_succ : seedAsic m (ports + 1) = seedPort (seedAsic m ports) ports := by
  rw [seedAsic, List.range_succ, List.foldl_append]
  rfl

/-! The tables. -/

/-- The tables that have objects. -/
def seededTables : List String := [switchTable, virtualRouterTable, portTable, hostIfTable]

theorem mem_seededTables (h : (table, key) ∈ seeded ports) : table ∈ seededTables := by
  simp only [seeded, seededTables, List.mem_append, List.mem_cons, List.mem_flatMap,
    Prod.mk.injEq] at h ⊢
  rcases h with (h | h | h | h) | ⟨_, _, h | h | h⟩
  all_goals first | simp [h.1] | cases h

/-- No raw key belongs to two of the tables. -/
theorem tableKey_inj {table' key' : String} (ht : table ∈ seededTables)
    (ht' : table' ∈ seededTables) :
    StoreName.asic.tableKey table key = StoreName.asic.tableKey table' key' ↔
      table = table' ∧ key = key' := by
  have apart : ∀ t ∈ seededTables, ∀ t' ∈ seededTables,
      (StoreName.asic.tableKey t "").toList <+: (StoreName.asic.tableKey t' "").toList →
        t = t' := by decide +kernel
  have split (t k : String) : StoreName.asic.tableKey t k = StoreName.asic.tableKey t "" ++ k :=
    StoreName.tableKey_eq_append
  rw [split table, split table']
  constructor
  · intro h
    have hlist := congrArg String.toList h
    rw [String.toList_append, String.toList_append] at hlist
    have same : table = table' := by
      rcases List.prefix_or_prefix_of_prefix (List.prefix_append _ _)
        (hlist ▸ List.prefix_append _ _) with hp | hp
      · exact (apart _ ht' _ ht hp).symm
      · exact apart _ ht _ ht' hp
    subst same
    exact ⟨rfl, (String.append_right_inj _).mp h⟩
  · rintro ⟨rfl, rfl⟩
    rfl

theorem contains_seedAsic_iff : (seedAsic .empty ports).contains raw = true ↔
    raw = StoreName.asic.tableKey switchTable switchOid ∨
      raw = StoreName.asic.tableKey virtualRouterTable routerOid ∨
      ∃ i < ports, raw = StoreName.asic.tableKey portTable (portOid i) ∨
        raw = StoreName.asic.tableKey hostIfTable (hostIfOid i) := by
  induction ports with
  | zero =>
    have none : Memory.empty.contains raw = false := rfl
    have first : seedAsic .empty 0 = (Memory.empty.insert
        (StoreName.asic.tableKey switchTable switchOid)
        (.ofPairs [(defaultRouterField, routerOid)])).insert
        (StoreName.asic.tableKey virtualRouterTable routerOid) (.ofPairs [("NULL", "NULL")]) := rfl
    rw [first, Memory.contains_insert, Memory.contains_insert, none]
    simp [or_comm]
  | succ ports ih =>
    rw [seedAsic_succ, seedPort_eq, Memory.contains_insert, Memory.contains_insert, ih,
      Nat.exists_lt_succ_right]
    simp only [or_assoc, or_comm, or_left_comm]

theorem contains_convergedAsic_iff : (convergedAsic ports cpuPort).contains raw = true ↔
    ∃ p ∈ seeded ports, raw = StoreName.asic.tableKey p.1 p.2 := by
  rw [convergedAsic, Memory.contains_insert, contains_seedAsic_iff]
  simp only [seeded, List.mem_append, List.mem_cons, List.mem_flatMap, List.mem_range,
    List.not_mem_nil, or_false]
  constructor
  · rintro (rfl | rfl | rfl | ⟨i, hi, rfl | rfl⟩)
    · exact ⟨(portTable, cpuPortOid), by simp, rfl⟩
    · exact ⟨(switchTable, switchOid), by simp, rfl⟩
    · exact ⟨(virtualRouterTable, routerOid), by simp, rfl⟩
    · exact ⟨(portTable, portOid i), .inr ⟨i, hi, .inl rfl⟩, rfl⟩
    · exact ⟨(hostIfTable, hostIfOid i), .inr ⟨i, hi, .inr rfl⟩, rfl⟩
  · rintro ⟨p, (rfl | rfl | rfl) | ⟨i, hi, rfl | rfl⟩, rfl⟩
    · exact .inr (.inl rfl)
    · exact .inr (.inr (.inl rfl))
    · exact .inl rfl
    · exact .inr (.inr (.inr ⟨i, hi, .inl rfl⟩))
    · exact .inr (.inr (.inr ⟨i, hi, .inr rfl⟩))

theorem contains_tableKey_iff (ht : table ∈ seededTables) :
    (convergedAsic ports cpuPort).contains (StoreName.asic.tableKey table key) = true ↔
      (table, key) ∈ seeded ports := by
  rw [contains_convergedAsic_iff]
  constructor
  · rintro ⟨⟨table', key'⟩, hp, he⟩
    obtain ⟨rfl, rfl⟩ := (tableKey_inj ht (mem_seededTables hp)).mp he
    exact hp
  · exact fun hp => ⟨_, hp, rfl⟩

theorem mem_seeded_switch_iff : (switchTable, key) ∈ seeded ports ↔ key = switchOid := by
  simp [seeded, switchTable, virtualRouterTable, portTable, hostIfTable]

theorem mem_seeded_router : (virtualRouterTable, routerOid) ∈ seeded ports := by
  simp [seeded]

theorem mem_seeded_port_iff :
    (portTable, key) ∈ seeded ports ↔ key ∈ cpuPortOid :: (List.range ports).map portOid := by
  simp [seeded, switchTable, virtualRouterTable, portTable, hostIfTable, eq_comm]

theorem mem_seeded_hostIf_iff :
    (hostIfTable, key) ∈ seeded ports ↔ key ∈ (List.range ports).map hostIfOid := by
  simp [seeded, switchTable, virtualRouterTable, portTable, hostIfTable, eq_comm]

/-! The memory is one that `AsicDb.new` can take into use. -/

theorem ascending_convergedAsic : (convergedAsic ports cpuPort).records.Ascending := by
  have seeds : (seedAsic .empty ports).records.Ascending := by
    induction ports with
    | zero => exact KeyMap.ascending_empty.insert.insert
    | succ ports ih =>
      rw [seedAsic_succ]
      exact ih.insert.insert
  exact seeds.insert

theorem plain_convergedAsic : (convergedAsic ports cpuPort).Plain := by
  have padded (i : Nat) : '*' ∉ (Text.padZeros 4 (Text.hex (i + 1))).toList := by
    simp only [Text.padZeros, String.toList_append, String.toList_ofList, List.mem_append, not_or]
    exact ⟨by simp, Text.star_notMem_hex⟩
  intro raw hraw
  obtain ⟨p, hp, rfl⟩ := contains_convergedAsic_iff.mp hraw
  have key : '*' ∉ p.2.toList := by
    simp only [seeded, List.mem_append, List.mem_cons, List.mem_flatMap, List.not_mem_nil,
      or_false] at hp
    rcases hp with (rfl | rfl | rfl) | ⟨i, -, rfl | rfl⟩
    · decide
    · decide
    · decide
    · simpa [portOid] using Text.star_notMem_hex
    · simpa [hostIfOid] using padded i
  have table : ∀ table ∈ seededTables, '*' ∉ (StoreName.asic.tableKey table "").toList := by
    decide +kernel
  rw [StoreName.tableKey_eq_append, String.toList_append, List.mem_append, not_or]
  exact ⟨table _ (mem_seededTables hp), key⟩

section Handles

variable {h : Handle} (hs : h.db.store = .asic) {r : HostIf}

include hs

theorem hasDefaults_convergedAsic : (convergedAsic ports cpuPort).HasDefaults h switchOid where
  ascending := ascending_convergedAsic
  plain := plain_convergedAsic
  switch key := by
    rw [Handle.tableKey, Handle.store, hs, contains_tableKey_iff (by simp [seededTables]),
      mem_seeded_switch_iff]
  router := by
    refine ⟨routerOid, ?_⟩
    rw [Handle.tableKey, Handle.store, hs, contains_tableKey_iff (by simp [seededTables])]
    exact mem_seeded_router

theorem contains_hostIf_iff :
    (convergedAsic ports cpuPort).contains (h.tableKey hostIfTable key) = true ↔
      key ∈ (List.range ports).map hostIfOid := by
  rw [Handle.tableKey, Handle.store, hs, contains_tableKey_iff (by simp [seededTables]),
    mem_seeded_hostIf_iff]

theorem hasHostIf_hostIf (hi : i < ports) :
    (convergedAsic ports cpuPort).HasHostIf h (hostIf i) := by
  have key (table : String) (key : String) :
      h.tableKey table key = StoreName.asic.tableKey table key := by
    rw [Handle.tableKey, Handle.store, hs]
  have other (key' : String) : StoreName.asic.tableKey portTable key' ≠
      h.tableKey hostIfTable (hostIf i).oid := by
    rw [key, Ne, tableKey_inj (by simp [seededTables]) (by simp [seededTables])]
    exact fun he => absurd he.1 (by decide)
  have seeds : (seedAsic .empty ports).HasHostIf h (hostIf i) := by
    induction ports with
    | zero => cases hi
    | succ ports ih =>
      rw [seedAsic_succ, seedPort_eq, ← key hostIfTable]
      by_cases he : i = ports
      · subst he
        exact Memory.hasHostIf_insert_toFields (r := hostIf i)
      · have later : h.tableKey hostIfTable (hostIfOid ports) ≠
            h.tableKey hostIfTable (hostIf i).oid := by
          rw [key, key, Ne, tableKey_inj (by simp [seededTables]) (by simp [seededTables])]
          exact fun h => he (hostIfOid_inj.mp h.2).symm
        exact ((ih (by omega)).insert (other _)).insert later
  exact seeds.insert (other _)

theorem hasHostIf_iff :
    (convergedAsic ports cpuPort).HasHostIf h r ↔ ∃ i < ports, r = hostIf i := by
  constructor
  · intro hr
    obtain ⟨i, hi, ho⟩ := List.mem_map.mp ((contains_hostIf_iff hs).mp hr.held)
    rw [List.mem_range] at hi
    exact ⟨i, hi, Memory.distinctBy_oid _ _ hr (hasHostIf_hostIf hs hi) ho.symm⟩
  · rintro ⟨i, hi, rfl⟩
    exact hasHostIf_hostIf hs hi

theorem hostIfsComplete_convergedAsic : (convergedAsic ports cpuPort).HostIfsComplete h := by
  intro key hkey
  obtain ⟨i, hi, rfl⟩ := List.mem_map.mp ((contains_hostIf_iff hs).mp hkey)
  exact ⟨hostIf i, hasHostIf_hostIf hs (List.mem_range.mp hi), rfl⟩

theorem distinctBy_name : (convergedAsic ports cpuPort).DistinctBy h HostIf.name := by
  intro r r' hr hr' he
  obtain ⟨i, -, rfl⟩ := (hasHostIf_iff hs).mp hr
  obtain ⟨j, -, rfl⟩ := (hasHostIf_iff hs).mp hr'
  rw [portName_inj.mp he]

theorem distinctBy_portOid : (convergedAsic ports cpuPort).DistinctBy h HostIf.portOid := by
  intro r r' hr hr' he
  obtain ⟨i, -, rfl⟩ := (hasHostIf_iff hs).mp hr
  obtain ⟨j, -, rfl⟩ := (hasHostIf_iff hs).mp hr'
  rw [portOid_inj.mp he]

/-- The hardware shows the ports, and the one of the processor. -/
theorem length_portKeys :
    ((convergedAsic ports cpuPort).tableKeys h.db portTable).length = ports + 1 := by
  have objects : (cpuPortOid :: (List.range ports).map portOid).Nodup := by
    refine List.nodup_cons.mpr ⟨?_, List.nodup_range.map fun i j he => portOid_inj.mp he⟩
    simp [portOid_ne_cpuPortOid]
  have listed : ((convergedAsic ports cpuPort).tableKeys h.db portTable).Nodup :=
    Memory.nodup_tableKeys ascending_convergedAsic
  have same := (List.perm_ext_iff_of_nodup listed objects).mpr fun key => by
    rw [Memory.mem_tableKeys_iff (h := h) plain_convergedAsic, Handle.tableKey, Handle.store, hs,
      contains_tableKey_iff (by simp [seededTables]), mem_seeded_port_iff]
  simpa using same.length_eq

/-- What is captured of the hardware names every port, both ways, and nothing else. -/
theorem names_of_captured {a : AsicDb} {l : Ledger}
    (ha : (convergedAsic ports cpuPort).Captured h switchOid a l) :
    (∀ i < ports, a.portOid? (portName i) = some (portOid i) ∧
      a.portName? (portOid i) = some (portName i)) ∧
    a.names.portOidToName.size = ports ∧ a.names.portNameToOid.size = ports := by
  obtain ⟨hports, -, hnamed, keys, hasc, hkeys, hsizes⟩ :=
    ha.maps (distinctBy_name hs) (distinctBy_portOid hs)
  refine ⟨fun i hi => ?_, ?_⟩
  · have name := hnamed _ (hasHostIf_hostIf hs hi)
    exact ⟨(hports _ _).mp name, name⟩
  · have nodup : keys.Nodup := hasc.imp fun hlt => Std.ne_of_lt hlt
    have objects : ((List.range ports).map hostIfOid).Nodup :=
      List.nodup_range.map fun i j he => hostIfOid_inj.mp he
    have same := (List.perm_ext_iff_of_nodup nodup objects).mpr fun key => by
      rw [hkeys, contains_hostIf_iff hs]
    have count : keys.length = ports := by simpa using same.length_eq
    simp only [List.forall_mem_cons, count] at hsizes
    exact ⟨hsizes.1, hsizes.2.1⟩

end Handles

end World

end SwitchLab
