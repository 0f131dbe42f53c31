import SwitchLab.Proofs.Databases
import SwitchLab.Proofs.Dismantling
import SwitchLab.Proofs.Histories
import SwitchLab.Proofs.Verification

/-! What a verification leaves in the configurations of the switches: each port
has the status that was declared last for it, and addresses have their entries.
The commands may have any answers. -/

namespace SwitchLab

variable {l l' : Ledger} {t : Trace Host} {w w' : Memories} {db : Database}
  {name port key raw : String} {status : AdminStatus}

/-! ## What is declared -/

/-- The entries that the address of an endpoint takes. -/
def Endpoint.interfaceKeys (e : Endpoint) : List String :=
  match e.port, e.address with
  | some port, some address => [port, s!"{port}|{address}"]
  | _, _ => []

namespace Topology

/-- The status that is declared for a whole node. -/
def nodeStatus? (t : Topology) (name : String) : Option AdminStatus :=
  (t.nodes.filterMap fun n => if n.name = name then n.admin else none).getLast?

/-- The status that endpoints declare for a port of a node; the last of them counts. -/
def portStatus? (t : Topology) (name port : String) : Option AdminStatus :=
  (t.endpoints.filterMap fun e =>
    if e.node = name ∧ e.port = some port then e.admin else none).getLast?

/-- The entries that the addresses at a node take. -/
def interfaceKeys (t : Topology) (name : String) : List String :=
  (t.endpoints.filter (·.node = name)).flatMap Endpoint.interfaceKeys

/-- As a rule, a name is given to one node. -/
theorem nodeStatus?_of_nodup {t : Topology} {n : Node} (h : (t.nodes.map (·.name)).Nodup)
    (hn : n ∈ t.nodes) : t.nodeStatus? n.name = n.admin := by
  obtain ⟨before, after, hnodes⟩ := List.append_of_mem hn
  rw [hnodes, List.map_append, List.map_cons, List.nodup_middle, List.nodup_cons,
    ← List.map_append] at h
  have others : ∀ x ∈ before ++ after, (if x.name = n.name then x.admin else none) = none :=
    fun x hx => if_neg fun he : x.name = n.name =>
      h.1 (he ▸ List.mem_map_of_mem (f := Node.name) hx)
  obtain ⟨first, last⟩ := List.forall_mem_append.mp others
  rw [nodeStatus?, hnodes, List.filterMap_append, List.filterMap_eq_nil_iff.mpr first]
  cases hadmin : n.admin <;> simp [hadmin, List.filterMap_eq_nil_iff.mpr last]

end Topology

namespace Database

def portKey (db : Database) (port : String) : String := db.store.tableKey "PORT" port

def interfaceKey (db : Database) (key : String) : String := db.store.tableKey "INTERFACE" key

@[simp] theorem portKey_inj {port' : String} :
    db.portKey port = db.portKey port' ↔ port = port' := by
  simp [portKey, StoreName.tableKey]

@[simp] theorem interfaceKey_inj {key' : String} :
    db.interfaceKey key = db.interfaceKey key' ↔ key = key' := by
  simp [interfaceKey, StoreName.tableKey]

theorem portKey_ne_interfaceKey {db' : Database} : db.portKey port ≠ db'.interfaceKey key := by
  intro h
  have hfirst := congrArg (fun s : String => s.toList.head?) h
  simp [portKey, interfaceKey, StoreName.tableKey] at hfirst

theorem star_notMem_portKey (h : '*' ∉ port.toList) : '*' ∉ (db.portKey port).toList := by
  rw [portKey, StoreName.tableKey, String.toList_append, String.toList_append]
  cases db.store <;> simpa [StoreName.separator] using h

end Database

/-- What becomes of the configuration `m` of a node. -/
structure Topology.Configures (t : Topology) (name : String) (db : Database) (m m' : Memory) :
    Prop where
  /-- The status that an endpoint declares for a port counts before that of the node, which is
  only for ports that were there. -/
  admin : ∀ port, (m'.fetch (db.portKey port)).get? "admin_status" =
    (((t.portStatus? name port).or
      (if m.contains (db.portKey port) = true then t.nodeStatus? name else none)).map
        AdminStatus.text).or ((m.fetch (db.portKey port)).get? "admin_status")
  interfaces : ∀ key ∈ t.interfaceKeys name,
    (m'.fetch (db.interfaceKey key)).get? "NULL" = some "NULL"
  /-- No other field changes. -/
  untouched : ∀ raw field, (m'.fetch raw).get? field ≠ (m.fetch raw).get? field →
    (∃ port, raw = db.portKey port ∧ field = "admin_status") ∨
      ∃ key ∈ t.interfaceKeys name, raw = db.interfaceKey key ∧ field = "NULL"
  /-- No record goes, and none is made but for ports and addresses of endpoints. -/
  records : ∀ raw, m'.contains raw = true ↔ m.contains raw = true ∨
    (∃ port, (t.portStatus? name port).isSome = true ∧ raw = db.portKey port) ∨
      ∃ key ∈ t.interfaceKeys name, raw = db.interfaceKey key

namespace Put

def ofStatus (db : Database) (port : String) (status : AdminStatus) : Put :=
  ⟨db, db.portKey port, "admin_status", status.text⟩

def ofInterface (db : Database) (key : String) : Put := ⟨db, db.interfaceKey key, "NULL", "NULL"⟩

end Put

/-! ## What is written -/

namespace Controller

variable {c : Controller} {count : Nat} {n : Node} {e : Endpoint}

/-- The configuration of a node. -/
def configOf? (c : Controller) (name : String) : Option Database :=
  ((c.node? name).bind (·.stores)).map (·.config.db)

/-- No two nodes have one configuration. -/
def SeparateConfigs (c : Controller) : Prop :=
  ∀ a b db, c.configOf? a = some db → c.configOf? b = some db → a = b

/-- Ports of a node get the status that is declared, if one is. -/
def statusPuts (c : Controller) (name : String) (admin : Option AdminStatus)
    (ports : Database → List String) : List Put :=
  admin.elim [] fun status => (c.configOf? name).elim [] fun db =>
    (ports db).map (Put.ofStatus db · status)

def nodePuts (c : Controller) (w : Memories) (n : Node) : List Put :=
  c.statusPuts n.name n.admin fun db => (w db).tableKeys db "PORT"

def endpointPuts (c : Controller) (e : Endpoint) : List Put :=
  c.statusPuts e.node e.admin fun _ => e.port.toList

def addressPuts (c : Controller) (e : Endpoint) : List Put :=
  (c.configOf? e.node).elim [] fun db => e.interfaceKeys.map (Put.ofInterface db)

theorem mem_statusPuts_iff {admin : Option AdminStatus} {ports : Database → List String}
    {p : Put} : p ∈ c.statusPuts name admin ports ↔ ∃ status db port,
      admin = some status ∧ c.configOf? name = some db ∧ port ∈ ports db ∧
        p = Put.ofStatus db port status := by
  rw [statusPuts]
  cases admin <;> cases c.configOf? name <;> simp [eq_comm]

theorem mem_addressPuts_iff {p : Put} : p ∈ c.addressPuts e ↔ ∃ db,
    c.configOf? e.node = some db ∧ ∃ key ∈ e.interfaceKeys, p = Put.ofInterface db key := by
  rw [addressPuts]
  cases c.configOf? e.node <;> simp [eq_comm]

/-- All that a verification writes. -/
def verifyPuts (c : Controller) (w : Memories) : List Put :=
  c.topology.nodes.flatMap (c.nodePuts w) ++
    (c.topology.endpoints.flatMap c.endpointPuts ++ c.topology.endpoints.flatMap c.addressPuts)

theorem writes_failureText {α : Type} {describe : Fault → String} {work : Attempt α}
    {puts : List Put} (h : work.outcome.Writes w puts) :
    (failureText describe work).Writes w puts := by
  have told : (failureText describe work).Writes w (puts ++ []) := by
    refine h.bind fun r => ?_
    cases r <;> exact .pure
  rwa [List.append_nil] at told

/-- What is done with the configuration of a node is not done without it. -/
theorem writes_configDb_bind {α : Type} {node : Device} {f : Handle → Attempt α}
    {puts : Database → List Put} (hf : ∀ h : Handle, (f h).outcome.Writes w (puts h.db)) :
    (node.configDb >>= f).outcome.Writes w ((node.stores.map (·.config.db)).elim [] puts) := by
  intro l t r l' w' hr hs
  rcases Attempt.runs_bind_iff.mp hr with ⟨u, v, h, l₁, rfl, hget, hr⟩ | ⟨fault, rfl, hget⟩
  · obtain ⟨rfl, rfl, hh⟩ := Device.runs_configDb_iff.mp hget
    cases hstores : node.stores with
    | none => simp [hstores] at hh
    | some stores =>
      obtain rfl : h = stores.config := by simpa [hstores] using hh
      exact hf _ _ _ _ _ _ hr hs
  · obtain ⟨rfl, rfl, hh⟩ := Device.runs_configDb_iff.mp hget
    cases hstores : node.stores with
    | none =>
      cases hs
      rfl
    | some stores => simp [hstores] at hh

theorem writes_putEntry {h : Handle} {table key field value : String} :
    (h.putEntry table key (.ofPairs [(field, value)])).outcome.Writes w
      [⟨h.db, h.db.store.tableKey table key, field, value⟩] := by
  intro l t r l' w' hr hs
  obtain ⟨rfl, -⟩ := Handle.runs_putEntry_iff.mp hr
  exact (Served.merged_iff.mp hs).2

theorem writes_setAdmin {node : Device} : (setAdmin node port status).Writes w
    ((node.stores.map (·.config.db)).elim [] fun db => [Put.ofStatus db port status]) :=
  writes_failureText (writes_configDb_bind fun _ => writes_putEntry)

theorem writes_setEndpointAdmin : (c.setEndpointAdmin e).Writes w (c.endpointPuts e) := by
  rw [setEndpointAdmin, endpointPuts, statusPuts, configOf?]
  cases e.admin with
  | none => cases e.port <;> exact .pure
  | some status =>
    cases c.node? e.node with
    | none => cases e.port <;> exact .pure
    | some node =>
      cases e.port with
      | none =>
        dsimp only [Option.bind_some, Option.elim_some]
        cases node.stores <;> exact .pure
      | some port => exact writes_setAdmin

theorem writes_addIpAddress {node : Device} {cidr : String} :
    (node.addIpAddress port cidr).outcome.Writes w
      ((node.stores.map (·.config.db)).elim [] fun db =>
        [Put.ofInterface db port, Put.ofInterface db s!"{port}|{cidr}"]) := by
  refine writes_configDb_bind fun h => ?_
  show Lab.Writes _ w [Put.ofInterface h.db port, Put.ofInterface h.db s!"{port}|{cidr}"]
  intro l t r l' w' hr hs
  rcases Attempt.runs_bind_iff.mp hr with ⟨u, v, ⟨⟩, l₁, rfl, hfirst, hr⟩ | ⟨fault, rfl, hfirst⟩
  · obtain ⟨w₁, hu, hv⟩ := Served.append_iff.mp hs
    obtain rfl := writes_putEntry _ _ _ _ _ hfirst hu
    exact writes_putEntry _ _ _ _ _ hr hv
  · obtain ⟨rfl, -⟩ := Handle.runs_putEntry_iff.mp hfirst
    cases (Served.merged_iff.mp hs).1

theorem writes_addressPort : (c.addressPort e).Writes w (c.addressPuts e) := by
  have nothing {o : Option Database} :
      (o.elim [] fun db => ([] : List String).map (Put.ofInterface db)) = [] := by
    cases o <;> rfl
  rw [addressPort, addressPuts, configOf?, Endpoint.interfaceKeys]
  cases e.address with
  | none =>
    cases e.port <;>
    · dsimp only
      rw [nothing]
      exact .pure
  | some address =>
    cases e.port with
    | none =>
      dsimp only
      rw [nothing]
      exact .pure
    | some port =>
      cases c.node? e.node with
      | none => exact .pure
      | some node => exact writes_failureText writes_addIpAddress

theorem nodePuts_congr {w₁ : Memories} (hw : ∀ db, (w₁ db).records.keys = (w db).records.keys) :
    c.nodePuts w₁ = c.nodePuts w := by
  have same (db : Database) : (w₁ db).tableKeys db "PORT" = (w db).tableKeys db "PORT" := by
    rw [Memory.tableKeys, Memory.tableKeys, Memory.keys, Memory.keys, hw]
  funext n
  simp only [nodePuts, statusPuts, same]

theorem writes_setNodeAdmin : (c.setNodeAdmin n).Writes w (c.nodePuts w n) := by
  rw [setNodeAdmin, nodePuts, statusPuts, configOf?]
  cases n.admin with
  | none => exact .pure
  | some status =>
    cases c.node? n.name with
    | none => exact .pure
    | some node =>
      intro l t r l' w' hr hs
      obtain ⟨u, _, x, l₁, rfl, hports, hr⟩ := Lab.runs_bind_iff.mp hr
      obtain ⟨w₁, hu, hv⟩ := Served.append_iff.mp hs
      have each (ports : List String) (w : Memories) :
          (ports.mapM fun port => setAdmin node port status).Writes w
            (ports.flatMap fun port => (node.stores.map (·.config.db)).elim [] fun db =>
              [Put.ofStatus db port status]) :=
        .mapM_of_forall fun _ _ => writes_setAdmin
      have done := ((each _ w₁).bind fun _ => Lab.Writes.pure) _ _ _ _ _ hr hv
      rcases runs_configuredPorts hports with ⟨hstores, rfl, hx⟩ | ⟨stores, y, hstores, rfl, rfl⟩
      · cases hu
        simpa [hstores, hx] using done
      · obtain ⟨rfl, rfl⟩ := Served.listed_iff.mp hu
        simpa [hstores, Except.map, Except.toOption, Memory.tableKeys, List.map_eq_flatMap]
          using done

/-! The other steps call no database. -/

theorem writes_bringUp : (c.bringUp e).Writes w [] := by
  rw [bringUp]
  split
  · exact .pure
  · split
    · exact .pure
    · refine writes_failureText (.of_asks (Attempt.Asks.outcome ?_))
      have hR := allows_noStoreCall.use.runs
      refine (NetScope.asks_setLink hR).bind fun _ => (NetScope.asks_setLink hR).bind fun _ => ?_
      split
      · exact NetScope.asks_addAddress hR
      · exact .pure

theorem writes_probe {link : Link} {source target : Endpoint} :
    (c.probe count link source target).Writes w [] := by
  have ping (address : String) : (c.pingFrom source address count).outcome.Writes w [] := by
    refine .of_asks (Attempt.Asks.outcome ?_)
    rw [pingFrom]
    split
    · split
      · have hrun {c : Command} : Attempt.Asks (fun q => q.isStoreCall = false) (Host.run c) :=
          asks_run rfl
        exact hrun.bind fun _ => .pure
      · exact .throw
    · exact .throw
  rw [probe]
  split
  · exact .pure
  · refine (ping _).bind fun r => ?_
    cases r <;> exact .pure

theorem writes_probeLink {link : Link} : (c.probeLink count link).Writes w [] :=
  writes_probe.bind fun _ => writes_probe.bind fun _ => .pure

theorem writes_scanLog {node : Device} : (scanLog node).Writes w [] := by
  have logs : node.logs.outcome.Writes w [] :=
    .of_asks (Device.asks_logs allows_noStoreCall.containers).outcome
  refine logs.bind fun r => ?_
  cases r <;> exact .pure

/-- A status that is set makes no record, so that each node finds the ports that it had. -/
theorem writes_setNodeAdmins (hw : ∀ db, (w db).records.Ascending) :
    (c.topology.nodes.mapM c.setNodeAdmin).Writes w (c.topology.nodes.flatMap (c.nodePuts w)) := by
  refine Lab.Writes.mapM (I := fun w₁ => (∀ db, (w₁ db).records.Ascending) ∧
    ∀ db, (w₁ db).records.keys = (w db).records.keys) ⟨hw, fun _ => rfl⟩ ?_
  rintro n - w₁ ⟨hw₁, hkeys⟩
  have there : ∀ p ∈ c.nodePuts w₁ n, p.raw ∈ (w₁ p.db).records.keys := by
    intro p hp
    obtain ⟨status, db, port, -, -, hport, rfl⟩ := mem_statusPuts_iff.mp hp
    exact (List.mem_filter.mp (Database.mem_keysIn_iff.mp hport)).1
  rw [← nodePuts_congr hkeys]
  refine ⟨writes_setNodeAdmin, Put.ascending_actAll hw₁, fun db => ?_⟩
  rw [Put.keys_actAll hw₁ there, hkeys]

theorem writes_verify (hw : ∀ db, (w db).records.Ascending) :
    (c.verify count).Writes w (c.verifyPuts w) := by
  have none {α β : Type} {f : β → Lab α} {xs : List β} {w : Memories}
      (hf : ∀ x w, (f x).Writes w []) : (xs.mapM f).Writes w [] := by
    have nothing : xs.flatMap (fun _ => ([] : List Put)) = [] := List.flatMap_eq_nil_iff.mpr
      fun _ _ => rfl
    exact nothing ▸ .mapM_of_forall hf
  have done : (c.verify count).Writes w ([] ++ (c.topology.nodes.flatMap (c.nodePuts w) ++
      (c.topology.endpoints.flatMap c.endpointPuts ++
        (c.topology.endpoints.flatMap c.addressPuts ++ ([] ++ ([] ++ [])))))) := by
    refine (none fun _ _ => writes_bringUp).bind fun _ => (writes_setNodeAdmins hw).bind fun _ => ?_
    refine (Lab.Writes.mapM_of_forall fun _ _ => writes_setEndpointAdmin).bind fun _ => ?_
    refine (Lab.Writes.mapM_of_forall fun _ _ => writes_addressPort).bind fun _ => ?_
    refine (none fun _ _ => writes_probeLink).bind fun _ => ?_
    exact (none fun _ _ => writes_scanLog).bind fun _ => .pure
  simpa [verifyPuts] using done

/-! ## What is written last -/

variable {p : Put}

theorem mem_verifyPuts (hp : p ∈ c.verifyPuts w) : ∃ name, c.configOf? name = some p.db ∧
    ((∃ port status, p = .ofStatus p.db port status) ∨
      ∃ key ∈ c.topology.interfaceKeys name, p = .ofInterface p.db key) := by
  simp only [verifyPuts, List.mem_append, List.mem_flatMap] at hp
  rcases hp with ⟨n, -, hp⟩ | ⟨e, -, hp⟩ | ⟨e, he, hp⟩
  · obtain ⟨status, db, port, -, hdb, -, rfl⟩ := mem_statusPuts_iff.mp hp
    exact ⟨n.name, hdb, .inl ⟨port, status, rfl⟩⟩
  · obtain ⟨status, db, port, -, hdb, -, rfl⟩ := mem_statusPuts_iff.mp hp
    exact ⟨e.node, hdb, .inl ⟨port, status, rfl⟩⟩
  · obtain ⟨db, hdb, key, hkey, rfl⟩ := mem_addressPuts_iff.mp hp
    refine ⟨e.node, hdb, .inr ⟨key, ?_, rfl⟩⟩
    exact List.mem_flatMap.mpr ⟨e, List.mem_filter.mpr ⟨he, by simp⟩, hkey⟩

theorem consistent_verifyPuts : Put.Consistent (c.verifyPuts w) := by
  intro p hp q hq hraw
  obtain ⟨-, -, ⟨port, status, hp⟩ | ⟨key, -, hp⟩⟩ := mem_verifyPuts hp <;>
  obtain ⟨-, -, ⟨port', status', hq⟩ | ⟨key', -, hq⟩⟩ := mem_verifyPuts hq <;>
  rw [hp, hq] at hraw ⊢
  · rfl
  · exact absurd hraw Database.portKey_ne_interfaceKey
  · exact absurd hraw.symm Database.portKey_ne_interfaceKey
  · rfl

/-- No port of a node has a star in its name, be it declared or configured. -/
structure PlainPorts (c : Controller) (w : Memories) : Prop where
  declared : ∀ e ∈ c.topology.endpoints, ∀ port, e.port = some port → '*' ∉ port.toList
  configured : ∀ name db, c.configOf? name = some db → ∀ port,
    (w db).contains (db.portKey port) = true → '*' ∉ port.toList

theorem PlainPorts.mem_tableKeys_iff (h : c.PlainPorts w) (hdb : c.configOf? name = some db) :
    port ∈ (w db).tableKeys db "PORT" ↔ (w db).contains (db.portKey port) = true :=
  Memory.mem_tableKeys_of_notMem fun hport =>
    Database.star_notMem_portKey (h.configured name db hdb port hport)

section

variable (hsep : c.SeparateConfigs) (hdb : c.configOf? name = some db)

include hsep hdb

theorem last?_statusPuts {α : Type} {xs : List α} {names : α → String}
    {admins : α → Option AdminStatus} {ports : α → Database → List String} :
    Put.last? (xs.flatMap fun x => c.statusPuts (names x) (admins x) (ports x)) db
        (db.portKey port) =
      (xs.filterMap fun x =>
        if names x = name ∧ port ∈ ports x db then admins x else none).getLast?.map
          (.ofStatus db port) := by
  have one (x : α) : Put.last? (c.statusPuts (names x) (admins x) (ports x)) db (db.portKey port) =
      (if names x = name ∧ port ∈ ports x db then admins x else none).map
        (.ofStatus db port) := by
    refine Put.last?_eq_of_mem_iff fun p => ?_
    rw [mem_statusPuts_iff, Option.map_eq_some_iff]
    constructor
    · rintro ⟨⟨status, db', port', hadmin, hdb', hport, rfl⟩, rfl, hraw⟩
      obtain rfl := Database.portKey_inj.mp hraw
      exact ⟨status, by rw [if_pos ⟨hsep _ _ _ hdb' hdb, hport⟩, hadmin], rfl⟩
    · rintro ⟨status, hsome, rfl⟩
      obtain ⟨⟨rfl, hport⟩, hadmin⟩ := Option.ite_none_right_eq_some.mp hsome
      exact ⟨⟨status, db, port, hadmin, hdb, hport, rfl⟩, rfl, rfl⟩
  simp only [Put.last?_flatMap, one]
  rw [← List.getLast?_map, List.map_filterMap]

/-- The status that a port gets: that of an endpoint, or of the node if the port was there. -/
theorem last?_verifyPuts_port (hplain : c.PlainPorts w) :
    Put.last? (c.verifyPuts w) db (db.portKey port) =
      ((c.topology.portStatus? name port).or
        (if (w db).contains (db.portKey port) = true then c.topology.nodeStatus? name
          else none)).map (.ofStatus db port) := by
  have nodes : Put.last? (c.topology.nodes.flatMap (c.nodePuts w)) db (db.portKey port) =
      (if (w db).contains (db.portKey port) = true then c.topology.nodeStatus? name
        else none).map (.ofStatus db port) := by
    refine (last?_statusPuts hsep hdb).trans (congrArg _ ?_)
    simp only [hplain.mem_tableKeys_iff hdb]
    split
    case isTrue h => simp only [h, and_true, Topology.nodeStatus?]
    case isFalse h => simp [h]
  have endpoints : Put.last? (c.topology.endpoints.flatMap c.endpointPuts) db (db.portKey port) =
      (c.topology.portStatus? name port).map (.ofStatus db port) := by
    refine (last?_statusPuts hsep hdb).trans (congrArg _ ?_)
    simp only [Option.mem_toList, Topology.portStatus?]
  have addresses :
      Put.last? (c.topology.endpoints.flatMap c.addressPuts) db (db.portKey port) = none := by
    refine Put.last?_eq_none_iff.mpr fun p hp _ hraw => ?_
    obtain ⟨e, -, hp⟩ := List.mem_flatMap.mp hp
    obtain ⟨db', -, key, -, rfl⟩ := mem_addressPuts_iff.mp hp
    exact Database.portKey_ne_interfaceKey hraw.symm
  rw [verifyPuts, Put.last?_append, Put.last?_append, addresses, Option.none_or, endpoints, nodes,
    Option.map_or]

theorem last?_verifyPuts_interface {key : String} :
    Put.last? (c.verifyPuts w) db (db.interfaceKey key) =
      if key ∈ c.topology.interfaceKeys name then some (.ofInterface db key) else none := by
  refine Put.last?_eq_of_mem_iff fun p => ?_
  split
  case isTrue h =>
    obtain ⟨e, he, hkey⟩ := List.mem_flatMap.mp h
    obtain ⟨hmem, hname⟩ := List.mem_filter.mp he
    obtain rfl : e.node = name := by simpa using hname
    constructor
    · rintro ⟨hp, rfl, hraw⟩
      obtain ⟨-, -, ⟨port, status, hp⟩ | ⟨key', -, hp⟩⟩ := mem_verifyPuts hp
      · rw [hp] at hraw
        exact absurd hraw Database.portKey_ne_interfaceKey
      · rw [hp] at hraw ⊢
        rw [Database.interfaceKey_inj.mp hraw]
        rfl
    · rintro ⟨⟩
      refine ⟨?_, rfl, rfl⟩
      simp only [verifyPuts, List.mem_append, List.mem_flatMap]
      exact .inr (.inr ⟨e, hmem, mem_addressPuts_iff.mpr ⟨db, hdb, key, hkey, rfl⟩⟩)
  case isFalse h =>
    refine ⟨?_, nofun⟩
    rintro ⟨hp, rfl, hraw⟩
    obtain ⟨name', hdb', ⟨port, status, hp⟩ | ⟨key', hkey, hp⟩⟩ := mem_verifyPuts hp
    · rw [hp] at hraw
      exact absurd hraw Database.portKey_ne_interfaceKey
    · rw [hp] at hraw
      obtain rfl := Database.interfaceKey_inj.mp hraw
      exact absurd (hsep _ _ _ hdb' hdb ▸ hkey) h

end

/-! ## What is left -/

variable (hsep : c.SeparateConfigs)

include hsep

theorem isSome_last?_verifyPuts (hplain : c.PlainPorts w) (hdb : c.configOf? name = some db)
    (hnew : ¬ (w db).contains raw = true) : (Put.last? (c.verifyPuts w) db raw).isSome = true ↔
      (∃ port, (c.topology.portStatus? name port).isSome = true ∧ raw = db.portKey port) ∨
        ∃ key ∈ c.topology.interfaceKeys name, raw = db.interfaceKey key := by
  constructor
  · intro hsome
    obtain ⟨p, hlast⟩ := Option.isSome_iff_exists.mp hsome
    obtain ⟨hp, rfl, rfl⟩ := Put.last?_eq_some hlast
    obtain ⟨name', hdb', ⟨port, status, hp⟩ | ⟨key, hkey, hp⟩⟩ := mem_verifyPuts hp
    · have hraw : p.raw = p.db.portKey port := congrArg Put.raw hp
      rw [hraw] at hnew hsome
      rw [last?_verifyPuts_port hsep hdb hplain, if_neg hnew, Option.or_none,
        Option.isSome_map] at hsome
      exact .inl ⟨port, hsome, hraw⟩
    · obtain rfl := hsep _ _ _ hdb' hdb
      exact .inr ⟨key, hkey, congrArg Put.raw hp⟩
  · rintro (⟨port, hport, rfl⟩ | ⟨key, hkey, rfl⟩)
    · rw [last?_verifyPuts_port hsep hdb hplain]
      simp [hport]
    · rw [last?_verifyPuts_interface hsep hdb, if_pos hkey]
      rfl

theorem configures_verifyPuts (hplain : c.PlainPorts w) (hdb : c.configOf? name = some db) :
    c.topology.Configures name db (w db) (Put.actAll (c.verifyPuts w) w db) := by
  refine ⟨fun port => ?_, fun key hkey => ?_, fun raw field hne => ?_, fun raw => ?_⟩
  · rw [Put.get?_fetch_actAll consistent_verifyPuts, last?_verifyPuts_port hsep hdb hplain]
    cases (c.topology.portStatus? name port).or _ <;> rfl
  · rw [Put.get?_fetch_actAll consistent_verifyPuts, last?_verifyPuts_interface hsep hdb,
      if_pos hkey]
    rfl
  · rw [Put.get?_fetch_actAll consistent_verifyPuts] at hne
    cases hput : (Put.last? (c.verifyPuts w) db raw).filter (·.field = field) with
    | none => simp [hput] at hne
    | some p =>
      obtain ⟨hlast, hfield⟩ := Option.filter_eq_some_iff.mp hput
      obtain ⟨hp, rfl, rfl⟩ := Put.last?_eq_some hlast
      obtain rfl : p.field = field := by simpa using hfield
      obtain ⟨name', hdb', ⟨port, status, hp⟩ | ⟨key, hkey, hp⟩⟩ := mem_verifyPuts hp
      · exact .inl ⟨port, congrArg Put.raw hp, congrArg Put.field hp⟩
      · obtain rfl := hsep _ _ _ hdb' hdb
        exact .inr ⟨key, hkey, congrArg Put.raw hp, congrArg Put.field hp⟩
  · rw [Put.contains_actAll consistent_verifyPuts, or_comm]
    exact or_congr_right' (isSome_last?_verifyPuts hsep hplain hdb)

theorem PlainPorts.verifyPuts (hplain : c.PlainPorts w) :
    c.PlainPorts (Put.actAll (c.verifyPuts w) w) := by
  refine ⟨hplain.declared, fun name db hdb port hport => ?_⟩
  rcases ((configures_verifyPuts hsep hplain hdb).records _).mp hport with
    hold | ⟨port', hstatus, hraw⟩ | ⟨key, -, hraw⟩
  · exact hplain.configured name db hdb port hold
  · obtain rfl := Database.portKey_inj.mp hraw
    obtain ⟨status, hlast⟩ := Option.isSome_iff_exists.mp hstatus
    obtain ⟨e, he, hadmin⟩ := List.mem_filterMap.mp (List.mem_of_getLast? hlast)
    obtain ⟨⟨-, hname⟩, -⟩ := Option.ite_none_right_eq_some.mp hadmin
    exact hplain.declared e he port hname
  · exact absurd hraw Database.portKey_ne_interfaceKey

/-- The ports that are there only since a verification have their status from endpoints. -/
theorem last?_verifyPuts_again (hplain : c.PlainPorts w) {p : Put}
    (hlast : Put.last? (c.verifyPuts (Put.actAll (c.verifyPuts w) w)) db raw = some p) :
    Put.last? (c.verifyPuts w) db raw = some p := by
  rw [← hlast]
  obtain ⟨hp, rfl, rfl⟩ := Put.last?_eq_some hlast
  obtain ⟨name, hdb, ⟨port, status, hp⟩ | ⟨key, -, hp⟩⟩ := mem_verifyPuts hp
  · have hraw : p.raw = p.db.portKey port := congrArg Put.raw hp
    rw [hraw, last?_verifyPuts_port hsep hdb hplain,
      last?_verifyPuts_port hsep hdb (hplain.verifyPuts hsep)]
    cases hstatus : c.topology.portStatus? name port with
    | some status => rfl
    | none =>
      have same : (Put.actAll (c.verifyPuts w) w p.db).contains (p.db.portKey port) = true ↔
          (w p.db).contains (p.db.portKey port) = true := by
        rw [(configures_verifyPuts hsep hplain hdb).records]
        simp [Database.portKey_ne_interfaceKey, hstatus]
      simp only [same]
  · have hraw : p.raw = p.db.interfaceKey key := congrArg Put.raw hp
    rw [hraw, last?_verifyPuts_interface hsep hdb, last?_verifyPuts_interface hsep hdb]

theorem actAll_verifyPuts_again (hplain : c.PlainPorts w)
    (hw : ∀ db, (w db).records.Ascending) :
    Put.actAll (c.verifyPuts (Put.actAll (c.verifyPuts w) w)) (Put.actAll (c.verifyPuts w) w) =
      Put.actAll (c.verifyPuts w) w := by
  have once (db : Database) : (Put.actAll (c.verifyPuts w) w db).records.Ascending :=
    Put.ascending_actAll hw db
  funext db
  suffices h : (Put.actAll (c.verifyPuts (Put.actAll (c.verifyPuts w) w))
      (Put.actAll (c.verifyPuts w) w) db).records = (Put.actAll (c.verifyPuts w) w db).records from
    congrArg Memory.mk h
  refine (Put.ascending_actAll once db).ext (once db) fun raw => ?_
  rw [Put.get?_actAll consistent_verifyPuts]
  cases hlast : Put.last? (c.verifyPuts (Put.actAll (c.verifyPuts w) w)) db raw with
  | none => rfl
  | some p =>
    have first : (Put.actAll (c.verifyPuts w) w db).records.get? raw = _ :=
      Put.get?_actAll consistent_verifyPuts
    rw [last?_verifyPuts_again hsep hplain hlast] at first
    show some _ = _
    rw [Memory.fetch_of_get? first, FieldValues.insert_insert, first]

omit hsep

/-! ## A topology that was built -/

variable {c' : Controller} {shared : Namespace} {steps : List BuildStep} {r : Except Fault Unit}

theorem holdsStores_act {a : BuildStep} (h : ∀ d ∈ c.nodes, d.HoldsStores)
    (hr : On.Runs (a.act shared) c l t r c' l') : ∀ d ∈ c'.nodes, d.HoldsStores := by
  cases a with
  | share => rcases runs_share hr with ⟨rfl, -⟩ | ⟨rfl, -⟩ <;> exact h
  | bridge =>
    obtain rfl := runs_bridge hr
    exact h
  | node n =>
    obtain ⟨_, _, running, _, rfl, -, ⟨d, hcreate, -, rfl⟩ | ⟨_, -, -, rfl⟩⟩ := runs_node_cases hr
    · have made := Device.making_of_setUp (Device.runs_create_ok hcreate)
      refine List.forall_mem_append.mpr ⟨h, List.forall_mem_singleton.mpr ?_⟩
      simp [Device.HoldsStores, made.state, made.stores]
    · exact h
  | wire index side e => rcases runs_wire hr with ⟨rfl, -⟩ | ⟨-, -, rfl⟩ <;> exact h
  | ready index =>
    have hr := On.runs_bind_get_iff.mp hr
    split at hr
    case h_1 d hd =>
      obtain ⟨d', hcheck, rfl⟩ := On.runs_part_iff.mp hr
      have outcome : Device.Outcome .checkReady d t r d' := Device.act_outcome hcheck
      intro x hx
      rcases List.mem_or_eq_of_mem_set hx with hx | rfl
      · exact h x hx
      · exact outcome.holdsStores (h d (List.mem_of_getElem? hd))
    case h_2 =>
      obtain ⟨-, -, rfl, -⟩ := On.runs_pure_iff.mp hr
      exact h

theorem holdsStores_carriedOut (h : ∀ d ∈ c.nodes, d.HoldsStores)
    (hrun : CarriedOut (BuildStep.act shared) steps c t r c') : ∀ d ∈ c'.nodes, d.HoldsStores := by
  induction hrun with
  | done c => exact h
  | step ha _ ih => exact ih (holdsStores_act h ha)
  | stopped ha => exact holdsStores_act h ha

/-- Each node of a topology that was built has its configuration. -/
theorem exists_configOf {topology : Topology} {options : Options} {retryInterval : Duration}
    (hr : On.Runs build { new topology options with retryInterval } l t (.ok ()) c l')
    (hn : n ∈ topology.nodes) : ∃ db, c.configOf? n.name = some db := by
  have fresh : Empty topology { new topology options with retryInterval } :=
    ⟨rfl, rfl, rfl, rfl, rfl, rfl⟩
  cases (runs_build fresh rfl hr).1 with
  | stands hrun hstands =>
    have hold := holdsStores_carriedOut (List.forall_mem_nil _) hrun
    have hname : n.name ∈ c.nodes.map (·.name) := hstands.names ▸ List.mem_map_of_mem hn
    obtain ⟨d, hd, hsame⟩ := List.mem_map.mp hname
    have hfound : (c.node? n.name).isSome = true :=
      List.find?_isSome.mpr ⟨d, hd, decide_eq_true hsame⟩
    obtain ⟨d', hfound⟩ := Option.isSome_iff_exists.mp hfound
    have hd' : d' ∈ c.nodes := List.mem_of_find?_eq_some hfound
    obtain ⟨stores, hstores⟩ :=
      Option.isSome_iff_exists.mp ((hold d' hd').mpr (hstands.ready d' hd'))
    exact ⟨stores.config.db, by simp [configOf?, hfound, hstores]⟩

/-- Of the statuses that are declared for a port, the last one of an endpoint stays; the status of
a node goes to the ports that it had. Nothing else changes but the entries of addresses, and another
verification changes nothing. -/
theorem verify_configures {report : Report} (hsep : c.SeparateConfigs) (hplain : c.PlainPorts w)
    (hw : ∀ db, (w db).records.Ascending) (hr : Lab.Runs (c.verify count) l t report l')
    (hs : Served w t w') :
    (∀ name db, c.configOf? name = some db →
      c.topology.Configures name db (w db) (w' db)) ∧
    (∀ db, (∀ name, c.configOf? name ≠ some db) → w' db = w db) ∧
    (∀ again l₁ t' report' l₂ w'', Lab.Runs (c.verify again) l₁ t' report' l₂ →
      Served w' t' w'' → w'' = w') ∧
    ∀ n ∈ c.topology.nodes,
      ((c.topology.nodes.map (·.name)).Nodup → c.topology.nodeStatus? n.name = n.admin) ∧
      ∀ options retryInterval l₁ t' l₂,
        On.Runs build { new c.topology options with retryInterval } l₁ t' (.ok ()) c l₂ →
          ∃ db, c.configOf? n.name = some db := by
  obtain rfl := writes_verify hw _ _ _ _ _ hr hs
  refine ⟨fun name db => configures_verifyPuts hsep hplain, fun db hnone => ?_,
    fun again l₁ t' report' l₂ w'' hagain hserved => ?_,
    fun n hn => ⟨fun hnames => Topology.nodeStatus?_of_nodup hnames hn,
      fun options retryInterval l₁ t' l₂ hbuild => exists_configOf hbuild hn⟩⟩
  · refine Put.actAll_of_forall_ne fun p hp hdb => ?_
    obtain ⟨name, hname, -⟩ := mem_verifyPuts hp
    exact hnone name (hdb ▸ hname)
  · have done := writes_verify (Put.ascending_actAll hw) _ _ _ _ _ hagain hserved
    exact done.trans (actAll_verifyPuts_again hsep hplain hw)

end Controller

end SwitchLab

/-! ## The looped switch, with two ports

One of them is named by no endpoint. -/

namespace SwitchLab.LoopedSwitch

open Controller

def ports : Memory :=
  (Memory.empty.merge (config.portKey "Ethernet0") (.ofPairs [("lanes", "1")])).merge
    (config.portKey "Ethernet4") (.ofPairs [("admin_status", "down"), ("lanes", "2")])

def memories (db : Database) : Memory := if db = config then ports else .empty

theorem configOf_iff {name : String} {db : Database} :
    controller.configOf? name = some db ↔ name = "dut" ∧ db = config := by
  have hconfig : controller.configOf? "dut" = some config := by decide
  by_cases hname : name = "dut"
  · subst hname
    rw [hconfig, Option.some_inj, eq_comm]
    simp
  · have hne : ¬ LatePort.readyDevice.name = name := Ne.symm hname
    have hnone : controller.node? name = none :=
      List.find?_eq_none.mpr (by simpa [controller] using hne)
    simp [configOf?, hnone, hname]

theorem separateConfigs : controller.SeparateConfigs := by
  intro a b db ha hb
  rw [(configOf_iff.mp ha).1, (configOf_iff.mp hb).1]

theorem plainPorts : controller.PlainPorts memories := by
  refine ⟨by decide, fun name db hdb port hport => ?_⟩
  obtain ⟨-, rfl⟩ := configOf_iff.mp hdb
  have hkey := Memory.contains_iff_mem.mp hport
  have hkeys : (memories config).records.keys =
      [config.portKey "Ethernet0", config.portKey "Ethernet4"] := by decide +kernel
  rw [hkeys] at hkey
  simp only [List.mem_cons, Database.portKey_inj, List.not_mem_nil, or_false] at hkey
  rcases hkey with rfl | rfl <;> decide

theorem ascending_memories (db : Database) : (memories db).records.Ascending := by
  rw [memories]
  split
  · exact (KeyMap.ascending_empty.insert).insert
  · exact KeyMap.ascending_empty

theorem verify_configures_looped : ∃ t report l' w',
    Lab.Runs (controller.verify 1) .empty t report l' ∧ Served memories t w' ∧
    ((w' config).fetch (config.portKey "Ethernet0")).get? "admin_status" = some "down" ∧
    ((w' config).fetch (config.portKey "Ethernet4")).get? "admin_status" = some "up" ∧
    ((w' config).fetch (config.interfaceKey "Ethernet0|10.0.1.1/24")).get? "NULL" = some "NULL" ∧
    ∀ db, db ≠ config → w' db = .empty := by
  obtain ⟨t, report, l', w', hr, hs⟩ :=
    exists_served_run (fun _ => default) (controller.verify 1) .empty memories
  obtain ⟨configured, others, -⟩ :=
    verify_configures separateConfigs plainPorts ascending_memories hr hs
  have dut := configured "dut" config (configOf_iff.mpr ⟨rfl, rfl⟩)
  refine ⟨t, report, l', w', hr, hs, ?_, ?_, dut.interfaces _ (by decide), fun db hne => ?_⟩
  · rw [dut.admin]
    decide +kernel
  · rw [dut.admin]
    decide +kernel
  · rw [others db fun name h => hne (configOf_iff.mp h).2, memories, if_neg hne]

end SwitchLab.LoopedSwitch
