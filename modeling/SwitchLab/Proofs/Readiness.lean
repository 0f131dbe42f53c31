import SwitchLab.Proofs.Asic
import SwitchLab.Proofs.Lifecycle
import SwitchLab.Proofs.Traces

/-! The stages of readiness: what each of them asks, and the order in which a
run goes through them. -/

namespace SwitchLab

variable {P : Query → Prop} {spec : DeviceSpec} {l l' : Ledger} {t : Trace Host}

/-- A database of the switch. -/
def DeviceSpec.database (spec : DeviceSpec) (store : StoreName) : Database :=
  ⟨spec.socketPath, store⟩

namespace AsicDb

open Asic

/-- The tables that are listed until the database can be used. -/
def startTables : List String := switchTable :: baselineTables

theorem ensures_new {h : Handle} {timeout : Duration} (hP : AllowsContainers P)
    (hr : Handle.AllowsReads P h.db startTables) :
    Attempt.Ensures P (fun a => a.handle = h) (AsicDb.new h timeout) := by
  have reads (tables : List String) (ht : ∀ table ∈ tables, table ∈ startTables) :
      Handle.AllowsReads P h.db tables :=
    ⟨fun table h => hr.list table (ht table h), hr.fetch⟩
  have await : Attempt.Asks P (awaitDefaults h timeout) :=
    asks_awaitDefaults hP.now hP.pause (reads _ (by simp [startTables, baselineTables]))
  have names : Attempt.Asks P (readNames h) :=
    asks_readNames (reads _ (by simp [startTables, baselineTables]))
  have baseline : Attempt.Asks P (h.captureBaseline baselineTables) :=
    Handle.asks_captureBaseline (reads _ fun _ h => List.mem_cons_of_mem _ h)
  refine Attempt.Ensures.bind await fun _ _ => Attempt.Ensures.bind names fun _ _ => ?_
  exact Attempt.Ensures.bind baseline fun _ _ => .pure rfl

end AsicDb

namespace Device

/-! ## What the stages ask -/

section Asks

variable (hP : AllowsContainers P)

include hP

theorem asks_pendingPrograms {name : String} : Lab.Asks P (pendingPrograms name) := by
  refine (asks_shell hP).outcome.bind fun r => ?_
  cases r <;> exact .pure

theorem asks_awaitSupervisor : Attempt.Asks P (awaitSupervisor spec) :=
  .mk ((asks_poll hP.now hP.pause ((asks_pendingPrograms hP).bind fun _ => .pure)).bind
    fun _ => .pure)

omit hP in
theorem ensures_openStore {store : StoreName} (hc : P (.connect (spec.database store))) :
    Attempt.Ensures P (fun h => h.db = spec.database store) (openStore spec store) := by
  have connect : Attempt.Asks P (spec.database store).connect := .mk (Lab.asks_ask hc)
  have handle : Lab.Ensures P (fun h => h.db = spec.database store)
      (Handle.new (spec.database store)) :=
    Lab.Ensures.bind Lab.asks_get fun _ _ => Lab.Ensures.bind Lab.asks_set fun _ _ => .pure rfl
  exact Attempt.Ensures.bind connect fun _ _ => .lift handle

/-- `P` allows what it takes to open the databases of a switch. -/
structure AllowsOpening (P : Query → Prop) (spec : DeviceSpec) : Prop where
  connect : ∀ store, P (.connect (spec.database store))
  reads : Handle.AllowsReads P (spec.database .asic) AsicDb.startTables

/-- `P` allows the calls of databases that all stages make. -/
structure AllowsStages (P : Query → Prop) (spec : DeviceSpec) : Prop
    extends AllowsOpening P spec where
  ports : P ((spec.database .asic).listing Asic.portTable)
  app : P ((spec.database .appl).listing "PORT_TABLE")
  config : ∀ key fields, P (.merge (spec.database .config) key fields)

omit hP in
theorem allowsStages_of_stores (hs : AllowsStores P) : AllowsStages P spec :=
  ⟨⟨fun _ => hs _ rfl, fun _ _ => hs _ rfl, fun _ => hs _ rfl⟩, hs _ rfl, hs _ rfl,
    fun _ _ => hs _ rfl⟩

/-- The handles that the later stages use are handles on the switch's own databases. -/
structure Stores.Of (spec : DeviceSpec) (stores : Stores) : Prop where
  app : stores.app.db = spec.database .appl
  asic : stores.asic.handle.db = spec.database .asic
  config : stores.config.db = spec.database .config

theorem ensures_connectStores (ho : AllowsOpening P spec) :
    Attempt.Ensures P (Stores.Of spec) (connectStores spec) := by
  refine (ensures_openStore (ho.connect _)).bind fun h hh => ?_
  have new : Attempt.Ensures P (fun a => a.handle.db = spec.database .asic)
      (AsicDb.new h spec.timeouts.asicInit) := by
    have hr : Handle.AllowsReads P h.db AsicDb.startTables := by
      rw [hh]
      exact ho.reads
    refine (AsicDb.ensures_new hP hr).weaken fun a ha => ?_
    rw [ha, hh]
  refine new.bind fun asic ha => (ensures_openStore (ho.connect _)).bind fun app hb => ?_
  refine (ensures_openStore (ho.connect _)).bind fun counters _ => ?_
  refine (ensures_openStore (ho.connect _)).bind fun config hc => ?_
  refine (ensures_openStore (ho.connect _)).bind fun flex _ => ?_
  refine (ensures_openStore (ho.connect _)).bind fun state _ => ?_
  exact .pure ⟨hb, ha, hc⟩

/-- What a round of the port gate looks at. -/
def portProbe (spec : DeviceSpec) (stores : Stores) : Lab (Bool × PortProgress) := do
  let p ← portProgress stores
  return (p.hardware = spec.numPorts + 1 && p.initDone && p.configDone, p)

theorem asks_awaitPorts {stores : Stores} (hs : Stores.Of spec stores)
    (ha : P ((spec.database .asic).listing Asic.portTable))
    (hb : P ((spec.database .appl).listing "PORT_TABLE")) :
    Attempt.Asks P (awaitPorts spec stores) := by
  rw [← hs.asic] at ha
  rw [← hs.app] at hb
  have hardware : Lab.Asks P (stores.asic.handle.observeKeys Asic.portTable) :=
    Handle.asks_observeKeys ha
  have app : Lab.Asks P (stores.app.observeKeys "PORT_TABLE") := Handle.asks_observeKeys hb
  have probe : Lab.Asks P (portProbe spec stores) :=
    (hardware.bind fun _ => app.bind fun _ => .pure).bind fun _ => .pure
  exact .mk ((asks_poll hP.now hP.pause probe).bind fun _ => .pure)

theorem asks_applyBufferModel {stores : Stores} (hs : Stores.Of spec stores)
    (hw : ∀ key fields, P (.merge (spec.database .config) key fields)) :
    Attempt.Asks P (applyBufferModel spec stores) := by
  rw [applyBufferModel]
  split
  · refine Attempt.Asks.bind (.mk (Lab.asks_ask ?_)) fun _ => (asks_shell hP).bind fun _ => .pure
    rw [hs.config]
    exact hw _ _
  · exact .pure

theorem asks_reachReady_of (hs : AllowsStages P spec) : Attempt.Asks P (reachReady spec) := by
  refine (asks_awaitSupervisor hP).bind fun _ => ?_
  refine Attempt.Ensures.bind (ensures_connectStores hP hs.toAllowsOpening) fun stores ho => ?_
  refine (asks_awaitPorts hP ho hs.ports hs.app).bind fun _ => ?_
  exact (asks_applyBufferModel hP ho hs.config).bind fun _ => .pure

theorem asks_reachReady (hs : AllowsStores P) : Attempt.Asks P (reachReady spec) :=
  asks_reachReady_of hP (allowsStages_of_stores hs)

omit hP in
theorem keeps_checkReady_of (hP : AllowsRemoval P) (hd : AllowsDirectory P spec)
    (hs : AllowsStages P spec) : On.Keeps P (HasSpec spec) checkReady := by
  have stages (d : Device) (hspec : HasSpec spec d) : On.Keeps P (HasSpec spec) (do
      setState .checkingReadiness
      let stores ← orDestroy (reachReady d.spec)
      modify fun d => { d with stores := some stores, state := .ready }) := by
    obtain rfl : d.spec = spec := hspec
    refine On.Keeps.bind (.modify fun _ h => h) fun _ => ?_
    refine On.Keeps.bind (keeps_orDestroy hP hd (.lift (asks_reachReady_of hP.toAllows.containers
      hs))) fun _ => ?_
    exact .modify fun _ h => h
  refine On.Keeps.bind_get fun d hspec => ?_
  split
  · exact .pure
  · exact .throw
  · exact .throw
  · exact stages d hspec
  · exact stages d hspec

omit hP in
theorem keeps_checkReady (hP : AllowsRemoval P) (hd : AllowsDirectory P spec)
    (hs : AllowsStores P) : On.Keeps P (HasSpec spec) checkReady :=
  keeps_checkReady_of hP hd (allowsStages_of_stores hs)

omit hP in
theorem asks_starting (hP : AllowsRemoval P) (hd : AllowsDirectory P spec)
    (hs : AllowsStages P spec) : Attempt.Asks P (start spec) := by
  refine Attempt.Ensures.bind (ensures_create hP hd) fun d hspec => ?_
  refine Attempt.Ensures.bind (.lift (keeps_checkReady_of hP hd hs d hspec)) ?_
  rintro ⟨r, d'⟩ hspec'
  cases r with
  | ok a => exact .pure trivial
  | error fault => exact (Attempt.Asks.lift (asks_drop hP hd hspec')).bind fun _ => .throw

end Asks

/-! ## Runs of the stages -/

/-- The supervisor answers that every required daemon runs and the start script has ended. -/
def SupervisorUp (name : String) (t : Trace Host) : Prop :=
  ∃ output : Output,
    t = [⟨.run ⟨"docker", ["exec", name, "bash", "-c", "supervisorctl status"]⟩,
      (.ok output : Except Fault Output)⟩] ∧
    (∀ daemon ∈ Supervisor.requiredDaemons,
      Supervisor.stateOf (Supervisor.statuses output.stdout) daemon = "RUNNING") ∧
    Supervisor.stateOf (Supervisor.statuses output.stdout) Supervisor.startScript = "EXITED"

theorem pending_eq_nil_iff {status : KeyMap String} :
    Supervisor.pending status = [] ↔
      (∀ daemon ∈ Supervisor.requiredDaemons, Supervisor.stateOf status daemon = "RUNNING") ∧
        Supervisor.stateOf status Supervisor.startScript = "EXITED" := by
  simp only [Supervisor.pending, List.append_eq_nil_iff, List.map_eq_nil_iff,
    List.filter_eq_nil_iff]
  constructor
  · rintro ⟨hd, hs⟩
    refine ⟨fun daemon h => by simpa using hd daemon h, ?_⟩
    by_cases he : Supervisor.stateOf status Supervisor.startScript = "EXITED"
    · exact he
    · simp [he] at hs
  · rintro ⟨hd, hs⟩
    exact ⟨fun daemon h => by simp [hd daemon h], by simp [hs]⟩

theorem runs_pendingPrograms_iff {name : String} {pending : List String} :
    Lab.Runs (pendingPrograms name) l t pending l' ↔
      ∃ r : Except Fault Output,
        t = [⟨.run ⟨"docker", ["exec", name, "bash", "-c", "supervisorctl status"]⟩, r⟩] ∧
        l' = l ∧ pending = match r with
          | .ok output => Supervisor.pending (Supervisor.statuses output.stdout)
          | .error fault => [fault.message] := by
  have shell {u : Trace Host} {l₁ : Ledger} {r : Except Fault Output} :
      Attempt.Runs (Container.shell name "supervisorctl status") l u r l₁ ↔
        u = [⟨.run ⟨"docker", ["exec", name, "bash", "-c", "supervisorctl status"]⟩, r⟩] ∧ l₁ = l :=
    Lab.runs_ask_iff
  rw [pendingPrograms, Lab.runs_bind_iff]
  simp only [Attempt.runs_outcome_iff, shell]
  constructor
  · rintro ⟨_, _, r, _, rfl, ⟨rfl, rfl⟩, hv⟩
    refine ⟨r, ?_⟩
    cases r with
    | ok output =>
      obtain ⟨rfl, rfl, rfl⟩ := Lab.runs_pure_iff.mp hv
      exact ⟨rfl, rfl, rfl⟩
    | error fault =>
      obtain ⟨rfl, rfl, rfl⟩ := Lab.runs_pure_iff.mp hv
      exact ⟨rfl, rfl, rfl⟩
  · rintro ⟨r, rfl, rfl, rfl⟩
    refine ⟨[_], [], r, l', rfl, ⟨rfl, rfl⟩, ?_⟩
    cases r <;> exact Lab.runs_pure_iff.mpr ⟨rfl, rfl, rfl⟩

/-- What a round of the first stage looks at. -/
def statusProbe (name : String) : Lab (Bool × List String) := do
  let pending ← pendingPrograms name
  return (pending.isEmpty, pending)

theorem runs_statusProbe_iff {name : String} {x : Bool × List String} :
    Lab.Runs (statusProbe name) l t x l' ↔
      x.1 = x.2.isEmpty ∧ Lab.Runs (pendingPrograms name) l t x.2 l' := by
  rw [statusProbe, bind_pure_comp, Lab.runs_map_iff]
  constructor
  · rintro ⟨pending, rfl, hr⟩
    exact ⟨rfl, hr⟩
  · rintro ⟨hx, hr⟩
    exact ⟨x.2, Prod.ext hx rfl, hr⟩

theorem runs_awaitSupervisor_ok (hr : Attempt.Runs (awaitSupervisor spec) l t (.ok ()) l') :
    l' = l ∧ ∃ u v, t = u ++ v ∧ SupervisorUp spec.name v := by
  have keeps (u : Trace Host) (x : Bool × List String) (l₁ : Ledger)
      (h : Lab.Runs (statusProbe spec.name) l u x l₁) : l₁ = l := by
    obtain ⟨-, -, hl, -⟩ := runs_pendingPrograms_iff.mp (runs_statusProbe_iff.mp h).2
    exact hl
  obtain ⟨rfl, u, v, x, rfl, hd, -, hlast⟩ := runs_pollMap_ok rfl keeps hr
  obtain ⟨hx, hlast⟩ := runs_statusProbe_iff.mp hlast
  obtain ⟨r, rfl, -, hp⟩ := runs_pendingPrograms_iff.mp hlast
  have hnone : x.2 = [] := List.isEmpty_iff.mp (hx.symm.trans hd)
  refine ⟨rfl, u, _, rfl, ?_⟩
  cases r with
  | error fault => simp [hnone] at hp
  | ok output => exact ⟨output, rfl, pending_eq_nil_iff.mp (hp.symm.trans hnone)⟩

/-- The stage is over at the first look if no program is pending then. -/
theorem runs_awaitSupervisor_of {output : Output}
    (hnone : Supervisor.pending (Supervisor.statuses output.stdout) = []) :
    Attempt.Runs (awaitSupervisor spec) l
      [⟨.now, .zero⟩, ⟨.run ⟨"docker", ["exec", spec.name, "bash", "-c", "supervisorctl status"]⟩,
        (.ok output : Except Fault Output)⟩] (.ok ()) l := by
  have probe : Lab.Runs (statusProbe spec.name) l
      [⟨.run ⟨"docker", ["exec", spec.name, "bash", "-c", "supervisorctl status"]⟩,
        (.ok output : Except Fault Output)⟩] (true, []) l :=
    runs_statusProbe_iff.mpr ⟨rfl, runs_pendingPrograms_iff.mpr
      ⟨.ok output, rfl, rfl, hnone.symm⟩⟩
  refine Attempt.runs_mk_iff.mpr (Lab.runs_bind_iff.mpr
    ⟨_, [], .ok (true, []), l, (List.append_nil _).symm, ?_, Lab.runs_pure_iff.mpr ⟨rfl, rfl, rfl⟩⟩)
  exact runs_poll_iff.mpr ⟨.zero, 0, [], _, [], true, [], l, Nat.zero_le _, rfl, .none _, probe,
    .inl ⟨rfl, rfl, rfl⟩⟩

/-- A connection to a database is made. -/
def Connected (db : Database) (t : Trace Host) : Prop :=
  t = [⟨.connect db, (.ok () : Except Fault Unit)⟩]

theorem runs_openStore_ok {store : StoreName} {h : Handle}
    (hr : Attempt.Runs (openStore spec store) l t (.ok h) l') :
    Connected (spec.database store) t ∧ h = ⟨spec.database store, l.families⟩ ∧
      l' = l.withFamily := by
  obtain ⟨u, v, _, l₁, rfl, hu, hv⟩ := Attempt.runs_bind_ok_iff.mp hr
  obtain ⟨rfl, rfl⟩ := Database.runs_connect_iff.mp hu
  obtain ⟨_, hh, hv⟩ := Attempt.runs_lift_iff.mp hv
  cases hh
  obtain ⟨rfl, rfl, rfl⟩ := Handle.runs_new_iff.mp hv
  exact ⟨rfl, rfl, rfl⟩

/-- The databases that are opened after the one of the hardware, in their order. -/
def laterStores : List StoreName := [.appl, .counters, .config, .flex, .state]

/-- The connections to them, all made. -/
def laterConnections (spec : DeviceSpec) : Trace Host :=
  laterStores.map fun store => ⟨.connect (spec.database store), (.ok () : Except Fault Unit)⟩

theorem runs_connectStores_ok {stores : Stores}
    (hr : Attempt.Runs (connectStores spec) l t (.ok stores) l') :
    Stores.Of spec stores ∧ stores.asic.handle.family = l.families ∧ ∃ u v l₁,
      t = u ++ (v ++ laterConnections spec) ∧ Connected (spec.database .asic) u ∧
      Attempt.Runs (AsicDb.new stores.asic.handle spec.timeouts.asicInit) l.withFamily v
        (.ok stores.asic) l₁ ∧
      l'.frozen = l₁.frozen := by
  obtain ⟨t₁, _, h, l₁, rfl, hconn, hr⟩ := Attempt.runs_bind_ok_iff.mp hr
  obtain ⟨ht₁, rfl, rfl⟩ := runs_openStore_ok hconn
  obtain ⟨t₂, _, asic, l₂, rfl, hnew, hr⟩ := Attempt.runs_bind_ok_iff.mp hr
  obtain ⟨hasic, -⟩ := AsicDb.runs_new_ok hnew
  obtain ⟨_, _, app, _, rfl, happ, hr⟩ := Attempt.runs_bind_ok_iff.mp hr
  obtain ⟨rfl, rfl, rfl⟩ := runs_openStore_ok happ
  obtain ⟨_, _, counters, _, rfl, hcounters, hr⟩ := Attempt.runs_bind_ok_iff.mp hr
  obtain ⟨rfl, rfl, rfl⟩ := runs_openStore_ok hcounters
  obtain ⟨_, _, config, _, rfl, hconfig, hr⟩ := Attempt.runs_bind_ok_iff.mp hr
  obtain ⟨rfl, rfl, rfl⟩ := runs_openStore_ok hconfig
  obtain ⟨_, _, flex, _, rfl, hflex, hr⟩ := Attempt.runs_bind_ok_iff.mp hr
  obtain ⟨rfl, rfl, rfl⟩ := runs_openStore_ok hflex
  obtain ⟨_, _, state, _, rfl, hstate, hr⟩ := Attempt.runs_bind_ok_iff.mp hr
  obtain ⟨rfl, rfl, rfl⟩ := runs_openStore_ok hstate
  obtain ⟨rfl, hs, rfl⟩ := Attempt.runs_pure_iff.mp hr
  cases hs
  refine ⟨⟨rfl, by rw [hasic], rfl⟩, by rw [hasic], t₁, t₂, l₂, ?_, ht₁, ?_, rfl⟩
  · simp [laterConnections, laterStores]
  · rw [hasic]
    exact hnew

/-! The port gate. -/

/-- Two readings, one after the other, that show the port objects of the hardware, and both marks
of the port daemon. -/
def PortsSeen (spec : DeviceSpec) (t : Trace Host) : Prop :=
  ∃ hardware app,
    t = [(spec.database .asic).listed Asic.portTable (.ok hardware),
      (spec.database .appl).listed "PORT_TABLE" (.ok app)] ∧
    ((spec.database .asic).keysIn Asic.portTable hardware).length = spec.numPorts + 1 ∧
    "PortInitDone" ∈ (spec.database .appl).keysIn "PORT_TABLE" app ∧
    "PortConfigDone" ∈ (spec.database .appl).keysIn "PORT_TABLE" app

theorem runs_portProbe_iff {stores : Stores} {x : Bool × PortProgress} :
    Lab.Runs (portProbe spec stores) l t x l' ↔
      ∃ r₁ r₂ : Except Fault (List String),
        t = [stores.asic.handle.db.listed Asic.portTable r₁,
          stores.app.db.listed "PORT_TABLE" r₂] ∧ l' = l ∧
        x.2 = (let app := (r₂.map (stores.app.db.keysIn "PORT_TABLE")).toOption.getD []
          ⟨((r₁.map (stores.asic.handle.db.keysIn Asic.portTable)).toOption.getD []).length,
            app.contains "PortInitDone", app.contains "PortConfigDone"⟩) ∧
        x.1 = (x.2.hardware = spec.numPorts + 1 && x.2.initDone && x.2.configDone) := by
  simp only [portProbe, portProgress, bind_assoc, pure_bind, Lab.runs_bind_iff,
    Handle.runs_observeKeys_iff, Lab.runs_pure_iff]
  constructor
  · rintro ⟨_, _, _, _, rfl, ⟨r₁, rfl, rfl, rfl⟩, _, _, _, _, rfl, ⟨r₂, rfl, rfl, rfl⟩, rfl, rfl,
      rfl⟩
    exact ⟨r₁, r₂, rfl, rfl, rfl, rfl⟩
  · rintro ⟨r₁, r₂, rfl, rfl, hx, hd⟩
    refine ⟨[_], [_], _, l', rfl, ⟨r₁, rfl, rfl, rfl⟩, [_], [], _, l', rfl, ⟨r₂, rfl, rfl, rfl⟩,
      rfl, ?_, rfl⟩
    rw [hx] at hd
    exact Prod.ext hd hx

theorem runs_awaitPorts_ok {stores : Stores} (hs : Stores.Of spec stores)
    (hr : Attempt.Runs (awaitPorts spec stores) l t (.ok ()) l') :
    l' = l ∧ ∃ u v, t = u ++ v ∧ PortsSeen spec v := by
  have keeps (u : Trace Host) (x : Bool × PortProgress) (l₁ : Ledger)
      (h : Lab.Runs (portProbe spec stores) l u x l₁) : l₁ = l := by
    obtain ⟨-, -, -, hl, -⟩ := runs_portProbe_iff.mp h
    exact hl
  obtain ⟨rfl, u, v, x, rfl, hd, -, hlast⟩ := runs_pollMap_ok rfl keeps hr
  obtain ⟨r₁, r₂, rfl, -, hx, hx'⟩ := runs_portProbe_iff.mp hlast
  rw [hs.asic, hs.app] at hx
  refine ⟨rfl, u, _, rfl, ?_⟩
  rw [hs.asic, hs.app]
  rw [hd, hx] at hx'
  simp only [Bool.true_eq, Bool.and_eq_true, decide_eq_true_eq, List.contains_iff_mem] at hx'
  -- a listing that failed would have shown no keys
  cases r₁ with
  | error e => simp [Except.map, Except.toOption] at hx'
  | ok hardware =>
    cases r₂ with
    | error e => simp [Except.map, Except.toOption] at hx'
    | ok app => exact ⟨hardware, app, rfl, hx'.1.1, hx'.1.2, hx'.2⟩

end Device

end SwitchLab
