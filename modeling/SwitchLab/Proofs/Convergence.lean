import SwitchLab.Proofs.Seeding
import SwitchLab.Proofs.Startup

/-! A switch whose databases have converged. It passes each stage of readiness at the first look,
and its baseline is what the hardware has; so a switch that starts in such a world becomes ready,
and nothing is new in it. -/

namespace SwitchLab

variable {α : Type} {others : (q : Query) → q.Reply} {spec : DeviceSpec}
  {memories : StoreName → Memory} {db : Database} {h : Handle} {l l' : Ledger} {t : Trace Host}
  {table key switchOid : String}

/-! ## Answers from a memory that stands still -/

/-- A run in which all answers come from one state is what happens in it. -/
theorem Dialogue.run_of_runs {I : Interface} {σ : Type}
    {answer : (q : I.Request) → σ → I.Reply q × σ} {p : Dialogue I α} {t : Trace I} {a : α} {s : σ}
    (hr : p.Runs t a) (ht : ∀ x ∈ t, answer x.request s = (x.reply, s)) :
    p.run answer s = (a, s) := by
  induction hr with
  | done a => rfl
  | @ask q next r t a _ ih =>
    obtain ⟨hx, ht⟩ := List.forall_mem_cons.mp ht
    rw [run, hx]
    exact ih ht

/-- A request that only reads from this database. -/
def Query.reads (db : Database) : Query → Prop
  | .keys db' _ | .fetch db' _ => db' = db
  | _ => False

namespace Memory

variable {m : Memory}

theorem perform_of_runs {work : Attempt α} {r : Except Fault α} (hr : Attempt.Runs work l t r l')
    (ht : ∀ x ∈ t, answer others x.request m = (x.reply, m)) :
    m.perform others work l = ((r, l'), m) := Dialogue.run_of_runs (I := Host) hr ht

theorem answer_of_reads {q : Query} (hq : q.reads db) :
    answer others q m = ((m.respond q).1, m) := by
  cases q <;> first | rfl | cases hq

end Memory

theorem Query.reads.served? {q : Query} (hq : q.reads db) : q.served? = some db := by
  cases q <;> first | exact congrArg some hq | cases hq

theorem Query.reads.noCommand {q : Query} (hq : q.reads db) : q.command? = none := by
  cases q <;> first | rfl | cases hq

theorem Exchange.Helps.listed {r : Except Fault (List String)}
    (hx : (db.listed table r).Helps spec memories) (hs : db.store ≠ .config) :
    r = .ok ((memories db.store).keys (db.store.tableKey table "" ++ "*")) :=
  hx.reads db rfl hs

theorem Memory.Captured.of_frozen {m : Memory} {a : AsicDb} (h' : m.Captured h switchOid a l)
    (hl : l'.frozen = l.frozen) : m.Captured h switchOid a l' :=
  { h' with
    frozen := fun table ht => by
      rw [Handle.frozen?_congr hl]
      exact h'.frozen table ht }

/-! ## Work whose answers help -/

/-- Where all answers help, the work succeeds, and `Q` holds of what happened, of the result and of
what is noted of the databases then. -/
def Attempt.Attains (spec : DeviceSpec) (memories : StoreName → Memory) (work : Attempt α)
    (l : Ledger) (Q : Trace Host → α → Ledger → Prop) : Prop :=
  ∀ t r l', Runs work l t r l' → (∀ x ∈ t, x.Helps spec memories) → ∃ a, r = .ok a ∧ Q t a l'

open Attempt (Attains)

namespace Attempt.Attains

variable {β : Type} {work : Attempt α} {f : α → Attempt β} {Q : Trace Host → α → Ledger → Prop}
  {R : Trace Host → β → Ledger → Prop}

theorem pure {a : α} (h : Q [] a l) : Attains spec memories (pure a) l Q := by
  intro t r l' hr _
  obtain ⟨rfl, rfl, rfl⟩ := runs_pure_iff.mp hr
  exact ⟨a, rfl, h⟩

/-- The rest may use what the first step attains. -/
theorem bind (hw : Attains spec memories work l Q)
    (hf : ∀ u a l₁, Q u a l₁ → Attains spec memories (f a) l₁ fun v b l' => R (u ++ v) b l') :
    Attains spec memories (work >>= f) l R := by
  intro t r l' hr ht
  rcases runs_bind_iff.mp hr with ⟨u, v, x, l₁, rfl, hu, hv⟩ | ⟨e, -, he⟩
  · obtain ⟨hfirst, hrest⟩ := List.forall_mem_append.mp ht
    obtain ⟨_, ⟨⟩, hq⟩ := hw _ _ _ hu hfirst
    exact hf u x l₁ hq v r l' hv hrest
  · obtain ⟨_, hx, -⟩ := hw _ _ _ he ht
    cases hx

end Attempt.Attains

/-! ## The stages at their first look -/

/-- The hardware has its default objects and all ports, and the port daemon is done. -/
structure Settled (spec : DeviceSpec) (memories : StoreName → Memory) (switchOid : String) :
    Prop where
  defaults : ∀ h : Handle, h.db.store = .asic → (memories .asic).HasDefaults h switchOid
  hostIfs : ∀ h : Handle, h.db.store = .asic → (memories .asic).HostIfsComplete h
  ports : ((memories .asic).tableKeys (spec.database .asic) Asic.portTable).length =
    spec.numPorts + 1
  initDone : (memories .appl).contains (StoreName.appl.tableKey "PORT_TABLE" "PortInitDone") = true
  configDone :
    (memories .appl).contains (StoreName.appl.tableKey "PORT_TABLE" "PortConfigDone") = true

namespace AsicDb

open Asic Memory

variable {timeout : Duration}

/-- The default objects are seen at the first look. -/
theorem attains_awaitDefaults (hs : h.db.store ≠ .config)
    (hm : (memories h.db.store).HasDefaults h switchOid) :
    Attains spec memories (awaitDefaults h timeout) l fun t _ _ =>
      ∃ start u, t = ⟨.now, start⟩ :: u ∧ ∀ x ∈ u, x.request.reads h.db := by
  obtain ⟨router, rest, hrouters, -⟩ := hm.routerKeys
  have seen (l : Ledger) (u : Trace Host) (x : Bool × Nat × Nat) (l₁ : Ledger)
      (hr : Lab.Runs (defaultsProbe h) l u x l₁) (hu : ∀ y ∈ u, y.Helps spec memories) :
      x.1 = true := by
    obtain ⟨r₁, r₂, rfl, -, rfl⟩ := runs_defaultsProbe_iff.mp hr
    obtain rfl := (hu _ List.mem_cons_self).listed hs
    obtain rfl := (hu _ (List.mem_cons_of_mem _ List.mem_cons_self)).listed hs
    have switches := congrArg List.length hm.switchKeys
    have routers := congrArg List.length hrouters
    rw [tableKeys] at switches routers
    simp [Except.map, Except.toOption, switches, routers]
  intro t r l' hr ht
  rw [awaitDefaults_eq] at hr
  obtain ⟨u, v, x, l₁, rfl, hpoll, hr⟩ := Attempt.runs_bind_lift_iff.mp hr
  obtain ⟨start, u, value, rfl, rfl, hprobe⟩ :=
    runs_poll_first seen (List.forall_mem_append.mp ht).1 hpoll
  obtain ⟨rfl, rfl, -⟩ := Attempt.runs_pure_iff.mp hr
  obtain ⟨r₁, r₂, rfl, -, -⟩ := runs_defaultsProbe_iff.mp hprobe
  refine ⟨(), rfl, start, _, rfl, ?_⟩
  exact List.forall_mem_cons.mpr ⟨rfl, List.forall_mem_singleton.mpr rfl⟩

/-- What follows the look at the default objects only reads. -/
theorem asks_capture : Attempt.Asks (Query.reads h.db) (do
    let names ← readNames h
    let _ ← h.captureBaseline baselineTables
    return (⟨h, names⟩ : AsicDb)) := by
  have reads (tables : List String) : Handle.AllowsReads (Query.reads h.db) h.db tables :=
    ⟨fun _ _ => rfl, fun _ => rfl⟩
  refine (asks_readNames (reads _)).bind fun names => ?_
  exact (Handle.asks_captureBaseline (reads _)).bind fun _ => .pure

/-- The clock shows this. -/
def showing (d : Duration) : (q : Query) → q.Reply
  | .now => d
  | _ => default

/-- The database is taken into use, with all that the memory has. -/
theorem attains_new (hs : h.db.store ≠ .config) (hm : (memories h.db.store).HasDefaults h switchOid)
    (hc : (memories h.db.store).HostIfsComplete h) (hl : l.baseline? h.family = none) :
    Attains spec memories (AsicDb.new h timeout) l fun t a l' =>
      (memories h.db.store).Captured h switchOid a l' ∧ ∀ x ∈ t, x.request.command? = none := by
  intro t r l' hr ht
  have shape : ∃ start u, t = ⟨.now, start⟩ :: u ∧ ∀ x ∈ u, x.request.reads h.db := by
    rcases Attempt.runs_bind_iff.mp hr with ⟨u, v, ⟨⟩, l₁, rfl, hawait, hcapture⟩ | ⟨e, -, hawait⟩
    · obtain ⟨_, -, start, u, rfl, hreads⟩ := attains_awaitDefaults hs hm _ _ _ hawait
        (List.forall_mem_append.mp ht).1
      exact ⟨start, u ++ v, rfl, List.forall_mem_append.mpr
        ⟨hreads, (asks_capture.of_runs hcapture).1⟩⟩
    · obtain ⟨_, hx, -⟩ := attains_awaitDefaults hs hm _ _ _ hawait ht
      cases hx
  obtain ⟨start, u, rfl, hreads⟩ := shape
  -- All that is asked after the look at the clock is answered from the memory as it is.
  have performed : (memories h.db.store).perform (showing start) (AsicDb.new h timeout) l =
      ((r, l'), memories h.db.store) := by
    refine perform_of_runs hr (List.forall_mem_cons.mpr ⟨rfl, fun x hx => ?_⟩)
    have read := hreads x hx
    rw [answer_of_reads read, (ht x (List.mem_cons_of_mem _ hx)).reads h.db read.served? hs]
  obtain ⟨a, l₁, hperform, hcaptured⟩ := perform_new (showing start) timeout hm hl hc
  have same : (r, l') = (.ok a, l₁) := congrArg Prod.fst (performed.symm.trans hperform)
  cases same
  exact ⟨a, rfl, hcaptured, List.forall_mem_cons.mpr ⟨rfl, fun x hx => (hreads x hx).noCommand⟩⟩

end AsicDb

namespace Device

open Asic

/-- The looks at the daemons. -/
def statusLooks (spec : DeviceSpec) (t : Trace Host) : Nat :=
  t.countP (·.request = .run (World.statusCommand spec.name))

theorem statusLooks_append {u : Trace Host} :
    statusLooks spec (t ++ u) = statusLooks spec t + statusLooks spec u := List.countP_append

theorem statusLooks_eq_zero (ht : ∀ x ∈ t, x.request ≠ .run (World.statusCommand spec.name)) :
    statusLooks spec t = 0 := by
  rw [statusLooks, List.countP_eq_zero]
  intro x hx
  simpa using ht x hx

theorem statusLooks_of_noCommand (ht : ∀ x ∈ t, x.request.command? = none) :
    statusLooks spec t = 0 := by
  refine statusLooks_eq_zero fun x hx he => ?_
  have none := ht x hx
  rw [he] at none
  cases none

theorem statusLooks_of_prepares (ht : ∀ x ∈ t, x.request.prepares = true) :
    statusLooks spec t = 0 := by
  refine statusLooks_eq_zero fun x hx he => ?_
  have prepares := ht x hx
  rw [he] at prepares
  simp [Query.prepares, World.statusCommand] at prepares

theorem connectsOf_of_prepares (ht : ∀ x ∈ t, x.request.prepares = true) : connectsOf t = [] := by
  refine connectsOf_eq_nil fun ⟨q, reply⟩ hx => ?_
  have prepares := ht _ hx
  cases q with
  | connect db => cases prepares
  | _ => rfl

/-- The daemons are found well at the first look. -/
theorem attains_awaitSupervisor : Attains spec memories (awaitSupervisor spec) l fun t _ l' =>
    l' = l ∧ statusLooks spec t = 1 := by
  have seen (l : Ledger) (u : Trace Host) (x : Bool × List String) (l₁ : Ledger)
      (hr : Lab.Runs (statusProbe spec.name) l u x l₁) (hu : ∀ y ∈ u, y.Helps spec memories) :
      x.1 = true := by
    obtain ⟨hdone, hlook⟩ := runs_statusProbe_iff.mp hr
    obtain ⟨reply, rfl, -, hpending⟩ := runs_pendingPrograms_iff.mp hlook
    have good := (hu _ (List.mem_singleton_self _)).supervisor rfl
    cases reply with
    | error fault => cases good
    | ok output => rw [hdone, hpending, ← good, Exchange.showsAllGood]
  intro t r l' hr ht
  obtain ⟨start, u, value, rfl, rfl, hprobe⟩ := runs_pollMap_first seen ht hr
  obtain ⟨reply, rfl, rfl, -⟩ := runs_pendingPrograms_iff.mp (runs_statusProbe_iff.mp hprobe).2
  refine ⟨(), rfl, rfl, ?_⟩
  simp [statusLooks, World.statusCommand]

/-- A database is opened. -/
theorem attains_openStore {store : StoreName} :
    Attains spec memories (openStore spec store) l fun t h l' =>
      h = ⟨spec.database store, l.families⟩ ∧ l' = l.withFamily ∧
      ∀ x ∈ t, x.request.command? = none := by
  intro t r l' hr ht
  rcases Attempt.runs_bind_iff.mp hr with ⟨u, v, _, l₁, rfl, -, hnew⟩ | ⟨e, -, hconnect⟩
  · obtain ⟨h, rfl, -⟩ := Attempt.runs_lift_iff.mp hnew
    obtain ⟨hopened, hh, hl⟩ := runs_openStore_ok hr
    rw [hopened]
    exact ⟨h, rfl, hh, hl, List.forall_mem_singleton.mpr rfl⟩
  · obtain ⟨rfl, -⟩ := Database.runs_connect_iff.mp hconnect
    cases (ht _ (List.mem_singleton_self _)).accepts

/-- All databases are opened, and the baseline is what the hardware has. -/
theorem attains_connectStores (hm : Settled spec memories switchOid)
    (hl : l.baseline? l.families = none) :
    Attains spec memories (connectStores spec) l fun t stores l' => Stores.Of spec stores ∧
      (memories .asic).Captured stores.asic.handle switchOid stores.asic l' ∧
      ∀ x ∈ t, x.request.command? = none := by
  refine attains_openStore.bind ?_
  rintro t₁ _ _ ⟨rfl, rfl, none₁⟩
  refine (AsicDb.attains_new (h := ⟨spec.database .asic, l.families⟩) (l := l.withFamily) nofun
    (hm.defaults _ rfl) (hm.hostIfs _ rfl) hl).bind ?_
  rintro t₂ asic l₂ ⟨hcaptured, none₂⟩
  refine attains_openStore.bind ?_
  rintro t₃ _ _ ⟨rfl, rfl, none₃⟩
  refine attains_openStore.bind ?_
  rintro t₄ _ _ ⟨rfl, rfl, none₄⟩
  refine attains_openStore.bind ?_
  rintro t₅ _ _ ⟨rfl, rfl, none₅⟩
  refine attains_openStore.bind ?_
  rintro t₆ _ _ ⟨rfl, rfl, none₆⟩
  refine attains_openStore.bind ?_
  rintro t₇ _ _ ⟨rfl, rfl, none₇⟩
  refine .pure ⟨⟨rfl, congrArg Handle.db hcaptured.handle, rfl⟩, ?_, ?_⟩
  · rw [hcaptured.handle]
    exact hcaptured.of_frozen rfl
  · simp only [List.forall_mem_append]
    exact ⟨none₁, none₂, none₃, none₄, none₅, none₆, none₇, List.forall_mem_nil _⟩

/-- The ports are seen at the first look. -/
theorem attains_awaitPorts {stores : Stores} (hm : Settled spec memories switchOid)
    (hs : Stores.Of spec stores) : Attains spec memories (awaitPorts spec stores) l fun t _ l' =>
      l' = l ∧ ∀ x ∈ t, x.request.command? = none := by
  have marked {mark : String} (hstar : '*' ∉ (StoreName.appl.tableKey "PORT_TABLE" mark).toList)
      (hmark : (memories .appl).contains (StoreName.appl.tableKey "PORT_TABLE" mark) = true) :
      mark ∈ (memories .appl).tableKeys (spec.database .appl) "PORT_TABLE" := by
    refine (Memory.mem_tableKeys_of_notMem ?_).mpr ?_
    · exact fun _ => hstar
    · exact hmark
  have seen (l : Ledger) (u : Trace Host) (x : Bool × PortProgress) (l₁ : Ledger)
      (hr : Lab.Runs (portProbe spec stores) l u x l₁) (hu : ∀ y ∈ u, y.Helps spec memories) :
      x.1 = true := by
    obtain ⟨r₁, r₂, rfl, -, hx, hdone⟩ := runs_portProbe_iff.mp hr
    rw [hs.asic, hs.app] at hu hx
    obtain rfl := (hu _ List.mem_cons_self).listed nofun
    obtain rfl := (hu _ (List.mem_cons_of_mem _ List.mem_cons_self)).listed nofun
    rw [hdone, hx]
    have ports := hm.ports
    have init := List.contains_iff_mem.mpr (marked (by decide) hm.initDone)
    have config := List.contains_iff_mem.mpr (marked (by decide) hm.configDone)
    rw [Memory.tableKeys] at ports init config
    simp only [Bool.and_eq_true, decide_eq_true_eq]
    exact ⟨⟨ports, init⟩, config⟩
  intro t r l' hr ht
  obtain ⟨start, u, value, rfl, rfl, hprobe⟩ := runs_pollMap_first seen ht hr
  obtain ⟨r₁, r₂, rfl, rfl, -⟩ := runs_portProbe_iff.mp hprobe
  refine ⟨(), rfl, rfl, List.forall_mem_cons.mpr ⟨rfl, List.forall_mem_cons.mpr ⟨rfl, ?_⟩⟩⟩
  exact List.forall_mem_singleton.mpr rfl

/-- The buffer model is written, and its daemon restarted, if need be. -/
theorem attains_applyBufferModel {stores : Stores} :
    Attains spec memories (applyBufferModel spec stores) l fun t _ l' =>
      l' = l ∧ statusLooks spec t = 0 := by
  have write {h : Handle} {fields : FieldValues} : Attains spec memories
      (h.putEntry "DEVICE_METADATA" "localhost" fields) l fun t _ l' =>
        l' = l ∧ statusLooks spec t = 0 := by
    intro t r l' hr ht
    obtain ⟨rfl, rfl⟩ := Handle.runs_putEntry_iff.mp hr
    cases r with
    | ok => exact ⟨(), rfl, rfl, rfl⟩
    | error => cases (ht _ (List.mem_singleton_self _)).accepts
  have restart : Attains spec memories
      (Container.shell spec.name "supervisorctl restart buffermgrd") l fun t _ l' =>
        l' = l ∧ statusLooks spec t = 0 := by
    intro t r l' hr ht
    obtain ⟨rfl, rfl⟩ := Lab.runs_ask_iff.mp hr
    cases r with
    | ok output => exact ⟨output, rfl, rfl, by simp [statusLooks, World.statusCommand]⟩
    | error => cases (ht _ (List.mem_singleton_self _)).succeeds
  rw [applyBufferModel]
  split
  · refine write.bind ?_
    rintro t₁ _ _ ⟨rfl, none₁⟩
    refine restart.bind ?_
    rintro t₂ _ _ ⟨rfl, none₂⟩
    refine .pure ⟨rfl, ?_⟩
    rw [statusLooks_append, statusLooks_append, none₁, none₂]
    rfl
  · exact .pure ⟨rfl, rfl⟩

/-- All stages are passed, with one look at the daemons. -/
theorem attains_reachReady (hm : Settled spec memories switchOid)
    (hl : l.baseline? l.families = none) :
    Attains spec memories (reachReady spec) l fun t stores l' => Stores.Of spec stores ∧
      (memories .asic).Captured stores.asic.handle switchOid stores.asic l' ∧
      statusLooks spec t = 1 := by
  refine attains_awaitSupervisor.bind ?_
  rintro t₁ _ _ ⟨rfl, once⟩
  refine (attains_connectStores hm hl).bind ?_
  rintro t₂ stores l₂ ⟨hs, hcaptured, none₂⟩
  refine (attains_awaitPorts hm hs).bind ?_
  rintro t₃ _ _ ⟨rfl, none₃⟩
  refine attains_applyBufferModel.bind ?_
  rintro t₄ _ _ ⟨rfl, none₄⟩
  refine .pure ⟨hs, hcaptured, ?_⟩
  simp only [statusLooks_append, once, none₄, statusLooks_of_noCommand none₂,
    statusLooks_of_noCommand none₃]
  rfl

/-- A switch of its own is made and becomes ready. -/
theorem attains_start (hown : spec.attach = false) (hm : Settled spec memories switchOid)
    (hl : l.baseline? l.families = none) :
    Attains spec memories (start spec) l fun t d l' => ∃ stores, d.spec = spec ∧
      d.state = .ready ∧ d.stores = some stores ∧ Stores.Of spec stores ∧
      (memories .asic).Captured stores.asic.handle switchOid stores.asic l' ∧
      statusLooks spec t = 1 ∧ connectsOf t = connections spec := by
  have made : Attains spec memories (create spec) l fun t d l' => d.spec = spec ∧
      d.state = .creating ∧ l' = l ∧ ∀ x ∈ t, x.request.prepares = true :=
    fun t r l' => runs_create_prepared hown
  refine made.bind ?_
  rintro u d _ ⟨hspec, hstate, rfl, prepares⟩
  intro v r l' hrest ht
  obtain ⟨v, w, ⟨x, d'⟩, l₂, rfl, hcheck, hend⟩ := Attempt.runs_bind_lift_iff.mp hrest
  obtain ⟨hv, -⟩ := List.forall_mem_append.mp ht
  have ready := attains_reachReady hm hl
  rw [← hspec] at ready
  rcases runs_checkReady_cases hcheck with ⟨hready, -⟩ | ⟨hgone, -⟩ |
    ⟨-, ⟨stores, hreach, rfl, rfl⟩ | ⟨fault, v, y, l₃, -, rfl, hreach, -⟩⟩
  · simp [hstate] at hready
  · simp [hstate] at hgone
  · obtain ⟨rfl, rfl, rfl⟩ := Attempt.runs_pure_iff.mp hend
    obtain ⟨_, ⟨⟩, hs, hcaptured, once⟩ := ready _ _ _ hreach (hspec ▸ hv)
    rw [hspec] at hs once
    refine ⟨_, rfl, stores, hspec, rfl, rfl, hs, hcaptured, ?_, ?_⟩
    · rw [List.append_nil, statusLooks_append, statusLooks_of_prepares prepares, once]
    · rw [List.append_nil, connectsOf_append, connectsOf_of_prepares prepares,
        (reachReady_inOrder hreach).2, hspec]
      rfl
  · obtain ⟨_, hx, -⟩ := ready _ _ _ hreach (hspec ▸ (List.forall_mem_append.mp hv).1)
    cases hx

end Device

/-! ## A converged world -/

/-- Nothing is new as long as the hardware keeps what was captured. -/
theorem AsicDb.runs_newKeys_settled {a : AsicDb} {r : Except Fault (List String)}
    (hs : a.handle.db.store = .asic) (hm : (memories .asic).Plain)
    (ha : (memories .asic).Captured a.handle switchOid a l) (htable : table ∈ Asic.baselineTables)
    (hr : Attempt.Runs (a.newKeys table) l t r l') (ht : ∀ x ∈ t, x.Helps spec memories) :
    r = .ok [] := by
  obtain ⟨base, hfrozen, hbase⟩ := ha.frozen table htable
  obtain ⟨-, hcompare⟩ := Handle.runs_keysAdded_iff.mp hr
  rw [hfrozen] at hcompare
  obtain ⟨x, rfl, rfl⟩ := hcompare
  obtain rfl := (ht _ (List.mem_singleton_self _)).listed (by simp [hs])
  rw [hs]
  refine congrArg Except.ok (List.filter_eq_nil_iff.mpr fun key hkey => ?_)
  have held : (memories .asic).contains (a.handle.tableKey table key) = true := by
    refine (Memory.mem_tableKeys_iff hm).mp ?_
    rw [Memory.tableKeys, hs]
    exact hkey
  simpa using (hbase key).mpr held

namespace World

open Asic

variable {w w' : World}

theorem writesConfigOnly_of_noStoreCall {q : Query} (h : q.isStoreCall = false) :
    q.WritesConfigOnly := fun _ _ => Query.writesTo_of_noStoreCall h

/-- A switch writes only to its configuration while it starts. -/
theorem asks_start_writesConfigOnly :
    Attempt.Asks Query.WritesConfigOnly (Device.start spec) := by
  have removal : AllowsRemoval Query.WritesConfigOnly :=
    ⟨allows_noStoreCall.toAllows.mono fun _ => writesConfigOnly_of_noStoreCall,
      fun _ _ _ => rfl, fun _ _ _ => rfl⟩
  have stages : Device.AllowsStages Query.WritesConfigOnly spec :=
    ⟨⟨fun _ _ _ => rfl, fun _ _ _ _ => rfl, fun _ _ _ => rfl⟩, fun _ _ => rfl, fun _ _ => rfl,
      fun _ _ _ hs => decide_eq_false (Ne.symm hs)⟩
  exact Device.asks_starting removal ⟨fun _ _ => rfl, fun _ _ => rfl⟩ stages

theorem runs_newKeys_writesConfigOnly {a : AsicDb} {r : Except Fault (List String)}
    (hr : Attempt.Runs (a.newKeys table) l t r l') : ∀ x ∈ t, x.request.WritesConfigOnly := by
  have hcompare := (Handle.runs_keysAdded_iff.mp hr).2
  cases hfrozen : a.handle.frozen? l table with
  | none =>
    rw [hfrozen] at hcompare
    obtain ⟨rfl, -⟩ := hcompare
    exact List.forall_mem_nil _
  | some base =>
    rw [hfrozen] at hcompare
    obtain ⟨x, rfl, -⟩ := hcompare
    exact List.forall_mem_singleton.mpr fun _ _ => rfl

/-- The hardware has what comes with so many ports, and the port daemon is done. -/
structure Converged (spec : DeviceSpec) (w : World) : Prop extends w.Healthy spec where
  asic : ∃ cpuPort, w.held .asic = convergedAsic spec.numPorts cpuPort
  initDone : (w.held .appl).contains (StoreName.appl.tableKey "PORT_TABLE" "PortInitDone") = true
  configDone :
    (w.held .appl).contains (StoreName.appl.tableKey "PORT_TABLE" "PortConfigDone") = true

/-- The work has a run in the world, and each of them ends with `Q`. -/
def Brings (w : World) (work : Attempt α) (l : Ledger)
    (Q : Trace Host → Except Fault α → Ledger → World → Prop) : Prop :=
  (∃ t r l' w', Attempt.Runs work l t r l' ∧ w.Answers t w') ∧
    ∀ t r l' w', Attempt.Runs work l t r l' → w.Answers t w' → Q t r l' w'

theorem Converged.settled (hw : w.Converged spec) : Settled spec w.held World.switchOid := by
  obtain ⟨cpuPort, hasic⟩ := hw.asic
  refine ⟨fun h hs => ?_, fun h hs => ?_, ?_, hw.initDone, hw.configDone⟩
  · rw [hasic]
    exact hasDefaults_convergedAsic hs
  · rw [hasic]
    exact hostIfsComplete_convergedAsic hs
  · rw [hasic]
    exact length_portKeys (h := ⟨spec.database .asic, 0⟩) rfl

/-- In a converged world a switch of its own becomes ready, with one look at the daemons and six
connections. It knows the ports by their names and the names by their ports, and nothing is new. -/
theorem Converged.brings_start (hw : w.Converged spec) (hown : spec.attach = false)
    (hl : l.baseline? l.families = none) :
    w.Brings (Device.start spec) l fun t r l' w' => ∃ d stores,
      r = .ok d ∧ d.spec = spec ∧ d.state = .ready ∧ d.stores = some stores ∧
      Device.statusLooks spec t = 1 ∧ w'.connects = w.connects + 6 ∧
      (∀ i < spec.numPorts, stores.asic.portOid? s!"Ethernet{4 * i}" = some (portOid i) ∧
        stores.asic.portName? (portOid i) = some s!"Ethernet{4 * i}") ∧
      stores.asic.names.portOidToName.size = spec.numPorts ∧
      stores.asic.names.portNameToOid.size = spec.numPorts ∧
      ∀ table ∈ baselineTables,
        w'.Brings (stores.asic.newKeys table) l' fun _ r _ _ => r = .ok [] := by
  refine ⟨exists_answers_run _ l w, fun t r l' w' hr ha => ?_⟩
  obtain ⟨hw', hheld, hconnects, hhelps⟩ :=
    ha.helps hw.toHealthy (asks_start_writesConfigOnly.of_runs hr).1
  obtain ⟨d, rfl, stores, hspec, hready, hstores, hs, hcaptured, hlooks, hsix⟩ :=
    Device.attains_start hown hw.settled hl t r l' hr hhelps
  obtain ⟨cpuPort, hasic⟩ := hw.asic
  have store : stores.asic.handle.db.store = .asic := by
    rw [hs.asic]
    rfl
  have six : t.countP (·.request.isConnect) = 6 := by
    rw [List.countP_eq_length_filter]
    exact congrArg List.length hsix
  have same : w'.held .asic = w.held .asic := hheld .asic nofun
  obtain ⟨hnames, hsizes⟩ := names_of_captured store (hasic ▸ hcaptured)
  refine ⟨d, stores, rfl, hspec, hready, hstores, hlooks, by rw [hconnects, six], hnames,
    hsizes.1, hsizes.2, fun table htable => ⟨exists_answers_run _ l' w', ?_⟩⟩
  intro u r l₁ w₁ hr ha
  obtain ⟨-, -, -, hhelps⟩ := ha.helps hw' (runs_newKeys_writesConfigOnly hr)
  refine AsicDb.runs_newKeys_settled store ?_ (same.symm ▸ hcaptured) htable hr hhelps
  rw [same, hasic]
  exact plain_convergedAsic

end World

end SwitchLab

/-! ## A switch with two ports -/

namespace SwitchLab.TwoPorts

def spec : DeviceSpec := { LatePort.spec with numPorts := 2 }

def runner : ScriptedRunner :=
  (ScriptedRunner.new.on "\x7b\x7b.State.Pid\x7d\x7d" [⟨0, "4242\n", ""⟩]).on
    "supervisorctl status" [LatePort.listing]

def nothing : FieldValues := .ofPairs [("NULL", "NULL")]

/-- What the port daemon leaves when it is done. -/
def marks : Memory :=
  (Memory.empty.insert "PORT_TABLE:PortInitDone" (.ofPairs [("lanes", "0")])).insert
    "PORT_TABLE:PortConfigDone" (.ofPairs [("count", "2")])

def world : World :=
  { World.new with
    runner
    stores := [(.asic, ⟨World.convergedAsic 2 nothing, 0, [], []⟩), (.appl, ⟨marks, 0, [], []⟩)] }

theorem healthy : world.Healthy spec where
  reachable := rfl
  launches := rfl
  quiet s := by cases s <;> exact ⟨rfl, fun call => rfl⟩
  succeeds line := ScriptedRunner.forall_mem_outputs (by decide +kernel) rfl
  process := by decide +kernel
  supervisor := by
    have told : ScriptedRunner.outputs (World.statusCommand spec.name).render world.runner.rules =
        [LatePort.listing] := by
      have found : Text.occursIn "supervisorctl status"
          (World.statusCommand spec.name).render = true := by decide +kernel
      exact if_pos found
    rw [told]
    exact List.forall_mem_singleton.mpr LatePort.pending_listing

theorem converged : world.Converged spec where
  toHealthy := healthy
  asic := ⟨nothing, rfl⟩
  initDone := by decide +kernel
  configDone := by decide +kernel

theorem world_brings_start :
    world.Converged spec ∧ spec.attach = false ∧
    Ledger.empty.baseline? Ledger.empty.families = none ∧
    world.Brings (Device.start spec) .empty fun t r l' w' => ∃ d stores,
      r = .ok d ∧ d.spec = spec ∧ d.state = .ready ∧ d.stores = some stores ∧
      Device.statusLooks spec t = 1 ∧ w'.connects = 6 ∧
      (∀ i < 2, stores.asic.portOid? s!"Ethernet{4 * i}" = some (World.portOid i) ∧
        stores.asic.portName? (World.portOid i) = some s!"Ethernet{4 * i}") ∧
      stores.asic.names.portOidToName.size = 2 ∧ stores.asic.names.portNameToOid.size = 2 ∧
      ∀ table ∈ Asic.baselineTables,
        w'.Brings (stores.asic.newKeys table) l' fun _ r _ _ => r = .ok [] :=
  ⟨converged, rfl, rfl, converged.brings_start rfl rfl⟩

example : World.portOid 1 = "oid:0x1000000000002" := by decide +kernel

end SwitchLab.TwoPorts
