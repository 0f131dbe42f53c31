import SwitchLab.Proofs.Readiness
import SwitchLab.Proofs.Teardown

/-! The order of the stages. A switch becomes ready only by way of all of them,
and whatever fails, nothing of a later stage is done before the earlier ones
are through. -/

namespace SwitchLab

variable {spec : DeviceSpec} {l l' : Ledger} {t u : Trace Host}

namespace Query

def isConnect : Query → Bool
  | connect _ => true
  | _ => false

def writesTo (store : StoreName) : Query → Bool
  | merge db _ _ | dropFields db _ _ | dropKey db _ => db.store = store
  | _ => false

/-- The request lists this table of the database. -/
def lists (db : Database) (table : String) : Query → Bool
  | keys db' pattern => db' = db && pattern = db.store.tableKey table "" ++ "*"
  | _ => false

variable {q : Query} (h : q.isStoreCall = false)

include h

theorem isConnect_of_noStoreCall : q.isConnect = false := by
  cases q <;> simp_all [isConnect, isStoreCall]

theorem writesTo_of_noStoreCall {store : StoreName} : q.writesTo store = false := by
  cases q <;> simp_all [writesTo, isStoreCall]

theorem lists_of_noStoreCall {db : Database} {table : String} : q.lists db table = false := by
  cases q <;> simp_all [lists, isStoreCall]

end Query

theorem lists_listing {db : Database} {table table' : String} :
    (db.listing table).lists db table' = decide (table = table') := by
  simp [Database.listing, Query.lists, StoreName.tableKey]

/-! ## The ports are listed once before the port gate -/

namespace Handle

variable {h : Handle} {table : String}

theorem getKeys_atMost {table' : String} :
    Attempt.AsksAtMost (Query.lists h.db table) (if table' = table then 1 else 0)
      (h.getKeys table') := by
  intro l t r l' hr
  obtain ⟨x, rfl, -, -⟩ := runs_getKeys_iff.mp hr
  have hl : (h.db.listed table' x).request.lists h.db table = decide (table' = table) :=
    lists_listing
  simp only [List.countP_singleton, hl, decide_eq_true_eq]
  exact Nat.le_refl _

theorem snapshot_atMost {tables : List String} :
    Attempt.AsksAtMost (Query.lists h.db table) (tables.count table) (h.snapshot tables) := by
  rw [snapshot]
  generalize KeyMap.empty = s
  induction tables generalizing s with
  | nil => exact .of_asks .pure
  | cons table' tables ih =>
    rw [List.foldlM_cons, List.count_cons, Nat.add_comm]
    refine Attempt.AsksAtMost.bind ?_ fun s => ih s
    have one : Attempt.AsksAtMost (Query.lists h.db table) (if table' = table then 1 else 0)
        (h.getKeys table') := getKeys_atMost
    have hk := one.bind (m := 0) (f := fun keys => pure (s.insert table' (keySet keys)))
      fun _ => .of_asks .pure
    simpa using hk

end Handle

theorem AsicDb.new_atMost {h : Handle} {timeout : Duration} :
    Attempt.AsksAtMost (Query.lists h.db Asic.portTable) 1 (AsicDb.new h timeout) := by
  have reads (tables : List String) (ht : Asic.portTable ∉ tables) :
      Handle.AllowsReads (fun q => q.lists h.db Asic.portTable = false) h.db tables := by
    refine ⟨fun table hm => ?_, fun _ => rfl⟩
    rw [lists_listing, decide_eq_false_iff_not]
    rintro rfl
    exact ht hm
  have await : Attempt.AsksAtMost (Query.lists h.db Asic.portTable) 0 (awaitDefaults h timeout) :=
    .of_asks (asks_awaitDefaults (P := fun q => q.lists h.db Asic.portTable = false) rfl
      (fun _ => rfl) (reads _ (by decide)))
  have names : Attempt.AsksAtMost (Query.lists h.db Asic.portTable) 0 (readNames h) :=
    .of_asks (asks_readNames (reads _ (by decide)))
  have baseline : Attempt.AsksAtMost (Query.lists h.db Asic.portTable) 1
      (h.captureBaseline Asic.baselineTables) := by
    intro l t r l' hr
    obtain ⟨s, hs⟩ | ⟨s, hs⟩ := Handle.runs_captureBaseline_iff.mp hr
    · exact Handle.snapshot_atMost l _ _ l (Handle.runs_snapshot_iff.mpr ⟨rfl, hs.1⟩)
    · exact Handle.snapshot_atMost l _ _ l (Handle.runs_snapshot_iff.mpr ⟨rfl, hs.1⟩)
  exact await.bind fun _ => names.bind fun _ => baseline.bind (m := 0) fun _ => .of_asks .pure

namespace Device

theorem connectStores_atMost :
    Attempt.AsksAtMost (Query.lists (spec.database .asic) Asic.portTable) 1
      (connectStores spec) := by
  have opens (store : StoreName) : Attempt.Asks
      (fun q => q.lists (spec.database .asic) Asic.portTable = false) (openStore spec store) :=
    (ensures_openStore (P := fun q => q.lists (spec.database .asic) Asic.portTable = false)
      rfl).asks
  have later (asic : AsicDb) : Attempt.Asks
      (fun q => q.lists (spec.database .asic) Asic.portTable = false) (do
        let app ← openStore spec .appl
        let counters ← openStore spec .counters
        let config ← openStore spec .config
        let flex ← openStore spec .flex
        let state ← openStore spec .state
        return (⟨app, asic, counters, config, flex, state⟩ : Stores)) := by
    refine (opens .appl).bind fun app => (opens .counters).bind fun counters => ?_
    refine (opens .config).bind fun config => (opens .flex).bind fun flex => ?_
    exact (opens .state).bind fun state => .pure
  have none {α : Type} {work : Attempt α} (ha : Attempt.Asks
      (fun q => q.lists (spec.database .asic) Asic.portTable = false) work)
      {l t r l'} (hr : Attempt.Runs work l t r l') :
      t.countP (·.request.lists (spec.database .asic) Asic.portTable) = 0 :=
    Nat.le_zero.mp (Attempt.AsksAtMost.of_asks ha l t r l' hr)
  intro l t r l' hr
  rcases Attempt.runs_bind_iff.mp hr with ⟨t₁, _, h, l₁, rfl, h₁, hr⟩ | ⟨e, -, h₁⟩
  · obtain ⟨-, rfl, -⟩ := runs_openStore_ok h₁
    rcases Attempt.runs_bind_iff.mp hr with ⟨t₂, t₃, asic, l₂, rfl, h₂, h₃⟩ | ⟨e, -, h₂⟩
    · have hnew := AsicDb.new_atMost _ _ _ _ h₂
      have hlater := none (later asic) h₃
      rw [List.countP_append, List.countP_append, none (opens .asic) h₁, hlater]
      simpa using hnew
    · have hnew := AsicDb.new_atMost _ _ _ _ h₂
      rw [List.countP_append, none (opens .asic) h₁]
      simpa using hnew
  · rw [none (opens .asic) h₁]
    exact Nat.zero_le 1

/-! ## The milestones of a run -/

def statusMilestones (spec : DeviceSpec) : List (Trace Host → Prop) := [SupervisorUp spec.name]

def storeMilestones (spec : DeviceSpec) : List (Trace Host → Prop) :=
  [Connected (spec.database .asic), AsicDb.DefaultsSeen (spec.database .asic)] ++
    laterStores.map fun store => Connected (spec.database store)

def portMilestones (spec : DeviceSpec) : List (Trace Host → Prop) := [PortsSeen spec]

theorem laterConnections_inOrder :
    InOrder (laterStores.map fun store => Connected (spec.database store))
      (laterConnections spec) := by
  rw [laterConnections]
  induction laterStores with
  | nil => trivial
  | cons store stores ih =>
    exact (InOrder.single (M := Connected (spec.database store)) (v := [_]) rfl).append ih

theorem connectStores_inOrder {stores : Stores}
    (hr : Attempt.Runs (connectStores spec) l t (.ok stores) l') :
    InOrder (storeMilestones spec) t := by
  obtain ⟨hs, -, u, v, l₁, rfl, hu, hnew, -⟩ := runs_connectStores_ok hr
  obtain ⟨-, w, x, y, l₂, l₃, s, rfl, hw, -⟩ := AsicDb.runs_new_ok hnew
  obtain ⟨-, w, z, rfl, hz⟩ := AsicDb.runs_awaitDefaults_ok hw
  rw [hs.asic] at hz
  have asic : InOrder [Connected (spec.database .asic)] u := .single hu
  have defaults : InOrder [AsicDb.DefaultsSeen (spec.database .asic)] (w ++ z ++ (x ++ y)) :=
    (InOrder.single hz).before.after
  exact asic.append (defaults.append laterConnections_inOrder)

/-- A request of the port gate: it lists the ports as the port daemon sees them, or those of the
hardware after they were listed for the baseline. -/
def IsPortGateRead (spec : DeviceSpec) (u : Trace Host) (x : Exchange Host) : Prop :=
  x.request.lists (spec.database .appl) "PORT_TABLE" = true ∨
    (x.request.lists (spec.database .asic) Asic.portTable = true ∧
      ∃ y ∈ u, y.request.lists (spec.database .asic) Asic.portTable = true)

/-- What has to be in `u` before the exchange `x`. -/
structure InTime (spec : DeviceSpec) (u : Trace Host) (x : Exchange Host) : Prop where
  connect : x.request.isConnect = true → InOrder (statusMilestones spec) u
  portRead : IsPortGateRead spec u x → InOrder (statusMilestones spec ++ storeMilestones spec) u
  write : x.request.writesTo .config = true →
    InOrder (statusMilestones spec ++ storeMilestones spec ++ portMilestones spec) u

/-- A request that is none of those that have to wait. -/
theorem InTime.of_other {x : Exchange Host} (h : x.request.isStoreCall = false) :
    InTime spec u x := by
  refine ⟨fun hq => ?_, ?_, fun hq => ?_⟩
  · simp [Query.isConnect_of_noStoreCall h] at hq
  · rintro (hq | ⟨hq, -⟩) <;> simp [Query.lists_of_noStoreCall h] at hq
  · simp [Query.writesTo_of_noStoreCall h] at hq

/-! ## Each stage asks in time -/

theorem gated_of_noStoreCall (h : ∀ x ∈ t, x.request.isStoreCall = false) :
    Gated (InTime spec) u t := .of_forall fun x hx _ => .of_other (h x hx)

theorem gated_connectStores {r : Except Fault Stores} (hu : InOrder (statusMilestones spec) u)
    (hports : ∀ y ∈ u, y.request.lists (spec.database .asic) Asic.portTable = false)
    (hr : Attempt.Runs (connectStores spec) l t r l') : Gated (InTime spec) u t := by
  have asks : Attempt.Asks (fun q => q.lists (spec.database .appl) "PORT_TABLE" = false ∧
      q.writesTo .config = false) (connectStores spec) := by
    have other : Allows fun q => q.lists (spec.database .appl) "PORT_TABLE" = false ∧
        q.writesTo .config = false := allows_noStoreCall.toAllows.mono fun q h =>
      ⟨Query.lists_of_noStoreCall h, Query.writesTo_of_noStoreCall h⟩
    have list (table : String) : ((spec.database .asic).listing table).lists
        (spec.database .appl) "PORT_TABLE" = false := by
      simp [Query.lists, Database.listing, DeviceSpec.database]
    exact (ensures_connectStores other.containers ⟨fun _ => ⟨rfl, rfl⟩,
      ⟨fun table _ => ⟨list table, rfl⟩, fun _ => ⟨rfl, rfl⟩⟩⟩).asks
  rintro v x w rfl
  obtain ⟨happ, hwrite⟩ := (asks.of_runs hr).1 x (by simp)
  refine ⟨fun _ => hu.after, ?_, fun h => by simp [hwrite] at h⟩
  rintro (h | ⟨hx, y, hy, hl⟩)
  · simp [happ] at h
  · -- the only listing of the ports in this stage is that of the baseline
    have hcount := connectStores_atMost _ _ _ _ hr
    rcases List.mem_append.mp hy with hy | hy
    · simp [hports y hy] at hl
    · have : 0 < v.countP (·.request.lists (spec.database .asic) Asic.portTable) :=
        List.countP_pos_iff.mpr ⟨y, hy, hl⟩
      rw [List.countP_append, List.countP_cons, if_pos hx] at hcount
      omega

theorem gated_awaitPorts {stores : Stores} {r : Except Fault Unit} (hs : Stores.Of spec stores)
    (hu : InOrder (statusMilestones spec ++ storeMilestones spec) u)
    (hr : Attempt.Runs (awaitPorts spec stores) l t r l') : Gated (InTime spec) u t := by
  have other : Allows fun q => q.isConnect = false ∧ q.writesTo .config = false :=
    allows_noStoreCall.toAllows.mono fun q h =>
      ⟨Query.isConnect_of_noStoreCall h, Query.writesTo_of_noStoreCall h⟩
  have asks := asks_awaitPorts other.containers hs ⟨rfl, rfl⟩ ⟨rfl, rfl⟩
  refine .of_forall fun x hx v => ?_
  obtain ⟨hconnect, hwrite⟩ := (asks.of_runs hr).1 x hx
  exact ⟨fun h => by simp [hconnect] at h, fun _ => hu.after, fun h => by simp [hwrite] at h⟩

theorem gated_applyBufferModel {stores : Stores} {r : Except Fault Unit}
    (hs : Stores.Of spec stores)
    (hu : InOrder (statusMilestones spec ++ storeMilestones spec ++ portMilestones spec) u)
    (hr : Attempt.Runs (applyBufferModel spec stores) l t r l') : Gated (InTime spec) u t := by
  have other : Allows fun q => q.isConnect = false :=
    allows_noStoreCall.toAllows.mono fun q h => Query.isConnect_of_noStoreCall h
  have asks := asks_applyBufferModel other.containers hs fun _ _ => rfl
  refine .of_forall fun x hx v => ?_
  have hconnect := (asks.of_runs hr).1 x hx
  exact ⟨fun h => by simp [hconnect] at h, fun _ => hu.left.after, fun _ => hu.after⟩

/-- All connections, made in this order. -/
def connections (spec : DeviceSpec) : Trace Host :=
  ⟨.connect (spec.database .asic), (.ok () : Except Fault Unit)⟩ :: laterConnections spec

def connectsOf (t : Trace Host) : Trace Host := t.filter (·.request.isConnect)

theorem connectsOf_eq_nil (h : ∀ x ∈ t, x.request.isConnect = false) : connectsOf t = [] := by
  rw [connectsOf, List.filter_eq_nil_iff]
  intro x hx
  simp [h x hx]

theorem connectsOf_append : connectsOf (t ++ u) = connectsOf t ++ connectsOf u :=
  List.filter_append ..

theorem connectsOf_connectStores {stores : Stores}
    (hr : Attempt.Runs (connectStores spec) l t (.ok stores) l') :
    connectsOf t = connections spec := by
  obtain ⟨hs, -, u, v, l₁, rfl, rfl, hnew, -⟩ := runs_connectStores_ok hr
  have other : Allows fun q => q.isConnect = false :=
    allows_noStoreCall.toAllows.mono fun q h => Query.isConnect_of_noStoreCall h
  have asks : Attempt.Ensures (fun q => q.isConnect = false)
      (fun a => a.handle = stores.asic.handle)
      (AsicDb.new stores.asic.handle spec.timeouts.asicInit) :=
    AsicDb.ensures_new other.containers ⟨fun _ _ => rfl, fun _ => rfl⟩
  rw [connectsOf_append, connectsOf_append, connectsOf_eq_nil (asks.of_runs hnew).1]
  rfl

theorem awaitSupervisor_noStoreCall {r : Except Fault Unit}
    (hr : Attempt.Runs (awaitSupervisor spec) l t r l') :
    ∀ x ∈ t, x.request.isStoreCall = false :=
  ((asks_awaitSupervisor allows_noStoreCall.toAllows.containers).of_runs hr).1

theorem awaitSupervisor_inOrder (hr : Attempt.Runs (awaitSupervisor spec) l t (.ok ()) l') :
    InOrder (statusMilestones spec) t := by
  obtain ⟨-, u, v, rfl, hv⟩ := runs_awaitSupervisor_ok hr
  exact (InOrder.single hv).before

theorem awaitPorts_inOrder {stores : Stores} (hs : Stores.Of spec stores)
    (hr : Attempt.Runs (awaitPorts spec stores) l t (.ok ()) l') :
    InOrder (portMilestones spec) t := by
  obtain ⟨-, u, v, rfl, hv⟩ := runs_awaitPorts_ok hs hr
  exact (InOrder.single hv).before

/-! ## All stages -/

theorem gated_reachReady {r : Except Fault Stores}
    (hr : Attempt.Runs (reachReady spec) l t r l') : Gated (InTime spec) [] t := by
  refine Gated.bind hr (fun h₁ => gated_of_noStoreCall (awaitSupervisor_noStoreCall h₁)) ?_
  intro t₁ _ l₁ h₁ _ hr
  have hstatus := awaitSupervisor_inOrder h₁
  have hports : ∀ y ∈ t₁, y.request.lists (spec.database .asic) Asic.portTable = false :=
    fun y hy => Query.lists_of_noStoreCall (awaitSupervisor_noStoreCall h₁ y hy)
  refine Gated.bind hr (fun h₂ => gated_connectStores hstatus hports h₂) ?_
  intro t₂ stores l₂ h₂ _ hr
  have hs : Stores.Of spec stores := (runs_connectStores_ok h₂).1
  have hstores := hstatus.append (connectStores_inOrder h₂)
  refine Gated.bind hr (fun h₃ => gated_awaitPorts hs hstores h₃) ?_
  intro t₃ _ l₃ h₃ _ hr
  have hall := hstores.append (awaitPorts_inOrder hs h₃)
  refine Gated.bind hr (fun h₄ => gated_applyBufferModel hs hall h₄) ?_
  intro t₄ _ l₄ _ _ hr
  obtain ⟨rfl, -⟩ := Attempt.runs_pure_iff.mp hr
  exact .nil

theorem reachReady_inOrder {stores : Stores}
    (hr : Attempt.Runs (reachReady spec) l t (.ok stores) l') :
    InOrder (statusMilestones spec ++ storeMilestones spec ++ portMilestones spec) t ∧
      connectsOf t = connections spec := by
  obtain ⟨t₁, _, ⟨⟩, l₁, rfl, h₁, hr⟩ := Attempt.runs_bind_ok_iff.mp hr
  obtain ⟨t₂, _, stores, l₂, rfl, h₂, hr⟩ := Attempt.runs_bind_ok_iff.mp hr
  obtain ⟨t₃, _, ⟨⟩, l₃, rfl, h₃, hr⟩ := Attempt.runs_bind_ok_iff.mp hr
  obtain ⟨t₄, _, ⟨⟩, l₄, rfl, h₄, hr⟩ := Attempt.runs_bind_ok_iff.mp hr
  obtain ⟨rfl, -⟩ := Attempt.runs_pure_iff.mp hr
  have hs : Stores.Of spec stores := (runs_connectStores_ok h₂).1
  have other : Allows fun q => q.isConnect = false :=
    allows_noStoreCall.toAllows.mono fun q h => Query.isConnect_of_noStoreCall h
  constructor
  · have hall := (awaitSupervisor_inOrder h₁).append (connectStores_inOrder h₂)
    have hall := (hall.append (awaitPorts_inOrder hs h₃)).after (u := t₄ ++ [])
    simpa only [List.append_assoc] using hall
  · have none₁ := connectsOf_eq_nil ((asks_awaitSupervisor other.containers).of_runs h₁).1
    have none₃ := connectsOf_eq_nil ((asks_awaitPorts other.containers hs rfl rfl).of_runs h₃).1
    have none₄ := connectsOf_eq_nil
      ((asks_applyBufferModel other.containers hs fun _ _ => rfl).of_runs h₄).1
    simp only [connectsOf_append, none₁, none₃, none₄, connectsOf_connectStores h₂]
    simp [connectsOf]

/-! ## The whole operation -/

/-- The end of a switch calls no database. -/
theorem Ended.noStoreCall {d d' : Device} (h : d.Ended t d') :
    ∀ x ∈ t, x.request.isStoreCall = false := by
  obtain ⟨u, v, l₁, l₂, l₃, r, rfl, hlogs, hdestroy⟩ := h
  have directory : AllowsDirectory (fun q => q.isStoreCall = false) d.spec := ⟨rfl, rfl⟩
  have logs := (asks_captureLogs allows_noStoreCall.toAllows.containers).of_runs hlogs
  have destroy := (keeps_destroy allows_noStoreCall directory d rfl).of_runs hdestroy
  exact List.forall_mem_append.mpr ⟨logs.1, destroy.1⟩

theorem runs_checkReady_of {d : Device} {stores : Stores}
    (hd : d.state = .creating ∨ d.state = .checkingReadiness)
    (hr : Attempt.Runs (reachReady d.spec) l t (.ok stores) l') :
    On.Runs checkReady d l t (.ok ()) { d with stores := some stores, state := .ready } l' := by
  have stages : On.Runs (do
      setState .checkingReadiness
      let stores ← orDestroy (reachReady d.spec)
      modify fun d => { d with stores := some stores, state := .ready }) d l t (.ok ())
      { d with stores := some stores, state := .ready } l' := by
    refine On.runs_bind_iff.mpr (.inl ⟨[], t, (), { d with state := .checkingReadiness }, l, rfl,
      On.runs_modify_iff.mpr ⟨rfl, rfl, rfl, rfl⟩, ?_⟩)
    refine On.runs_bind_iff.mpr (.inl ⟨t, [], stores, { d with state := .checkingReadiness }, l',
      (List.append_nil t).symm, ?_,
      On.runs_modify_iff.mpr ⟨rfl, rfl, rfl, rfl⟩⟩)
    refine On.runs_bind_iff.mpr (.inl ⟨t, [], .ok stores, _, l', (List.append_nil t).symm, ?_,
      On.runs_pure_iff.mpr ⟨rfl, rfl, rfl, rfl⟩⟩)
    exact On.runs_result_iff.mpr ⟨_, rfl, On.runs_lift_iff.mpr ⟨rfl, hr⟩⟩
  refine On.runs_bind_get_iff.mpr ?_
  rcases hd with hd | hd
  · rw [hd]
    exact stages
  · rw [hd]
    exact stages

/-- The run of a switch that was not ready: the stages, and if they fail the teardown. -/
theorem runs_checkReady {d d' : Device} {r : Except Fault Unit} (hd : d.state ≠ .ready)
    (hr : On.Runs checkReady d l t r d' l') :
    (t = [] ∧ ∀ a, r ≠ .ok a) ∨
    ∃ u v x l₁, t = u ++ v ∧ Attempt.Runs (reachReady d.spec) l u x l₁ ∧
      (∀ y ∈ v, y.request.isStoreCall = false) ∧
      (r = .ok () → ∃ stores, x = .ok stores ∧ v = [] ∧ l' = l₁ ∧ d'.stores = some stores) := by
  rcases runs_checkReady_cases hr with ⟨hs, -⟩ | ⟨-, rfl, rfl, -⟩ |
    ⟨-, ⟨stores, hreach, rfl, rfl⟩ | ⟨fault, u, v, l₁, rfl, rfl, hreach, hend⟩⟩
  · exact absurd hs hd
  · exact .inl ⟨rfl, fun a h => by cases h⟩
  · exact .inr ⟨t, [], .ok stores, l', by simp, hreach, by simp,
      fun _ => ⟨stores, rfl, rfl, rfl, rfl⟩⟩
  · exact .inr ⟨u, v, .error fault, l₁, rfl, hreach, hend.noStoreCall, fun h => by cases h⟩

/-- A switch that becomes ready has passed all milestones in their order, and made just the six
connections. Whatever fails, no connection is made before the supervisor is content, no request
of the port gate before the databases are open, and nothing is written to the configuration
before the ports were seen. -/
theorem checkReady_inOrder {d d' : Device} {r : Except Fault Unit} (hd : d.state ≠ .ready)
    (hr : On.Runs checkReady d l t r d' l') :
    (r = .ok () →
      InOrder (statusMilestones d.spec ++ storeMilestones d.spec ++ portMilestones d.spec) t ∧
        connectsOf t = connections d.spec) ∧
    ∀ u x v, t = u ++ x :: v → InTime d.spec u x := by
  rcases runs_checkReady hd hr with ⟨rfl, hne⟩ | ⟨u, v, x, l₁, rfl, hreach, hv, hok⟩
  · exact ⟨fun h => absurd h (hne ()), fun u x v h => by simp at h⟩
  · constructor
    · intro h
      obtain ⟨stores, rfl, rfl, -⟩ := hok h
      simpa using reachReady_inOrder hreach
    · have gated : Gated (InTime d.spec) [] (u ++ v) :=
        (gated_reachReady hreach).append (gated_of_noStoreCall hv)
      intro v₁ y v₂ h
      simpa using gated v₁ y v₂ h

end Device

end SwitchLab

/-! ## A switch with a late port

The baseline is read when the hardware shows the port of the processor only. The front-panel port
is there when the port gate looks. -/

namespace SwitchLab.LatePort

open Device

def spec : DeviceSpec :=
  DeviceSpec.named "dut"
    { Options.default with numPorts := 1, mountRoot := "/m", bufferModel := .dynamic }

/-- What the supervisor prints, as characters. -/
def listingChars : List Char :=
  ("start.sh".toList ++ " EXITED\n".toList) ++
    Supervisor.requiredDaemons.flatMap fun daemon => daemon.toList ++ " RUNNING\n".toList

def listing : Output := ⟨0, String.ofList listingChars, ""⟩

theorem pending_listing : Supervisor.pending (Supervisor.statuses listing.stdout) = [] := by
  rw [Supervisor.statuses, listing, String.toList_ofList]
  decide +kernel

def supervisor : Trace Host :=
  [⟨.now, .zero⟩, ⟨.run ⟨"docker", ["exec", "dut", "bash", "-c", "supervisorctl status"]⟩,
    (.ok listing : Except Fault Output)⟩]

def listed (store : StoreName) (table : String) (keys : List String) : Exchange Host :=
  (spec.database store).listed table (.ok (keys.map (store.tableKey table)))

def fetched (table key : String) (pairs : List (String × String)) : Exchange Host :=
  (spec.database .asic).fetched table key (.ok (.ofPairs pairs))

def asic : Trace Host :=
  [⟨.now, .zero⟩, listed .asic Asic.switchTable ["oid:0x21"],
    listed .asic Asic.virtualRouterTable ["oid:0x3"],
    listed .asic Asic.switchTable ["oid:0x21"],
    fetched Asic.switchTable "oid:0x21" [(Asic.defaultRouterField, "oid:0x3")],
    listed .asic Asic.hostIfTable ["oid:0xd"],
    fetched Asic.hostIfTable "oid:0xd"
      [("SAI_HOSTIF_ATTR_NAME", "Ethernet0"), ("SAI_HOSTIF_ATTR_OBJ_ID", "oid:0x1")],
    listed .asic Asic.virtualRouterTable ["oid:0x3"], listed .asic Asic.portTable ["oid:0x9"],
    listed .asic Asic.hostIfTable ["oid:0xd"], listed .asic Asic.aclTableTable [],
    listed .asic Asic.aclEntryTable [], listed .asic Asic.trapGroupTable []]

def ports : Trace Host :=
  [⟨.now, .zero⟩, listed .asic Asic.portTable ["oid:0x1", "oid:0x9"],
    listed .appl "PORT_TABLE" ["Ethernet0", "PortConfigDone", "PortInitDone"]]

def bufferModel : Trace Host :=
  [⟨.merge (spec.database .config) "DEVICE_METADATA|localhost"
      (.ofPairs [("buffer_model", "dynamic")]), (.ok () : Except Fault Unit)⟩,
    ⟨.run ⟨"docker", ["exec", "dut", "bash", "-c", "supervisorctl restart buffermgrd"]⟩,
      (.ok .silent : Except Fault Output)⟩]

def trace : Trace Host :=
  supervisor ++ (⟨.connect (spec.database .asic), (.ok () : Except Fault Unit)⟩ ::
    (asic ++ laterConnections spec) ++ (ports ++ bufferModel))

def handle (store : StoreName) (family : Nat) : Handle := ⟨spec.database store, family⟩

def names : AsicNames :=
  ⟨"oid:0x21", "oid:0x3", .ofPairs [("oid:0x1", "Ethernet0")], .ofPairs [("Ethernet0", "oid:0x1")],
    .ofPairs [("oid:0xd", "Ethernet0")], .ofPairs [("Ethernet0", "oid:0xd")]⟩

def stores : Stores :=
  ⟨handle .appl 1, ⟨handle .asic 0, names⟩, handle .counters 2, handle .config 3, handle .flex 4,
    handle .state 5⟩

def ledger : Ledger :=
  ⟨6, [(0, .ofPairs [(Asic.virtualRouterTable, ["oid:0x3"]), (Asic.portTable, ["oid:0x9"]),
    (Asic.hostIfTable, ["oid:0xd"]), (Asic.aclTableTable, []), (Asic.aclEntryTable, []),
    (Asic.trapGroupTable, [])])]⟩

theorem runs_supervisor :
    Attempt.Runs (awaitSupervisor spec) .empty supervisor (.ok ()) .empty :=
  runs_awaitSupervisor_of pending_listing

set_option maxRecDepth 4000 in
theorem runs_stores : Attempt.Runs (connectStores spec) .empty
    (⟨.connect (spec.database .asic), (.ok () : Except Fault Unit)⟩ ::
      (asic ++ laterConnections spec)) (.ok stores) ledger :=
  Dialogue.runs_of_replay (by decide +kernel)

theorem runs_ports : Attempt.Runs (awaitPorts spec stores) ledger ports (.ok ()) ledger :=
  Dialogue.runs_of_replay (by decide +kernel)

theorem runs_bufferModel :
    Attempt.Runs (applyBufferModel spec stores) ledger bufferModel (.ok ()) ledger :=
  Dialogue.runs_of_replay (by decide +kernel)

theorem runs_reachReady : Attempt.Runs (reachReady spec) .empty trace (.ok stores) ledger := by
  refine Attempt.runs_bind_ok_iff.mpr ⟨_, _, (), _, rfl, runs_supervisor, ?_⟩
  refine Attempt.runs_bind_ok_iff.mpr ⟨_, _, stores, _, rfl, runs_stores, ?_⟩
  refine Attempt.runs_bind_ok_iff.mpr ⟨_, _, (), _, rfl, runs_ports, ?_⟩
  refine Attempt.runs_bind_ok_iff.mpr ⟨_, [], (), _, (List.append_nil _).symm, runs_bufferModel, ?_⟩
  exact Attempt.runs_pure_iff.mpr ⟨rfl, rfl, rfl⟩

def device : Device := { absent spec with state := .creating, pid := some 7 }

def readyDevice : Device := { device with stores := some stores, state := .ready }

theorem runs_checkReady :
    On.Runs checkReady device .empty trace (.ok ()) readyDevice ledger :=
  runs_checkReady_of (.inl rfl) runs_reachReady

theorem trace_inOrder :
    device.state ≠ .ready ∧ On.Runs checkReady device .empty trace (.ok ()) readyDevice ledger ∧
    InOrder (statusMilestones spec ++ storeMilestones spec ++ portMilestones spec) trace ∧
    connectsOf trace = connections spec ∧
    ∀ u x v, trace = u ++ x :: v → InTime spec u x := by
  have hd : device.state ≠ .ready := by decide
  obtain ⟨hok, htime⟩ := checkReady_inOrder hd runs_checkReady
  exact ⟨hd, runs_checkReady, (hok rfl).1, (hok rfl).2, htime⟩

end SwitchLab.LatePort
