import SwitchLab.Proofs.Sessions

/-! The namespaces of servers. One that was there before stays. One that was made
for a server is deleted once, when the life of its switch is over, unless the
session leaves a switch that it had attached to. -/

namespace SwitchLab

variable {l l' : Ledger} {t u v : Trace Host} {dir : String}

/-! ## What is deleted -/

namespace Namespace

variable {ns : Namespace}

/-- The host says that there is no such namespace. -/
def AbsentIn (ns : Namespace) (dir : String) (t : Trace Host) : Prop :=
  (⟨.pathExists (Text.joinPath dir ns.name), false⟩ : Exchange Host) ∈ t

theorem AbsentIn.before (h : ns.AbsentIn dir t) : ns.AbsentIn dir (u ++ t) :=
  List.mem_append_right u h

theorem AbsentIn.append (h : ns.AbsentIn dir t) : ns.AbsentIn dir (t ++ u) :=
  List.mem_append_left u h

theorem removes_delete : (Query.run ns.deleteCommand).removes = true := by
  simp [Query.removes, deleteCommand, Command.removes]

theorem deleteCommand_inj {ns' : Namespace} :
    Query.run ns.deleteCommand = .run ns'.deleteCommand ↔ ns = ns' := by
  constructor
  · intro h
    cases ns
    cases ns'
    simpa [deleteCommand] using h
  · rintro rfl
    rfl

end Namespace

/-- A namespace is deleted only after the host has said that there is none, so only if it was made
since then. -/
def SparesFound (dir : String) (t : Trace Host) : Prop :=
  ∀ before e after ns, t = before ++ e :: after → e.request = .run (Namespace.deleteCommand ns) →
    ns.AbsentIn dir before

namespace SparesFound

/-- What is deleted later was found absent before that. -/
theorem append_of (ht : SparesFound dir t)
    (hu : ∀ between e after ns, u = between ++ e :: after →
      e.request = .run (Namespace.deleteCommand ns) → ns.AbsentIn dir (t ++ between)) :
    SparesFound dir (t ++ u) := by
  intro before e after ns hsplit he
  rcases List.append_eq_append_iff.mp hsplit with
    ⟨between, rfl, hlate⟩ | ⟨between, hearly, hlate⟩
  · exact hu between e after ns hlate he
  · cases between with
    | nil =>
      have habsent := hu [] e after ns (by simpa using hlate.symm) he
      simpa [hearly] using habsent
    | cons e' between =>
      obtain ⟨rfl, -⟩ := List.cons.inj hlate
      exact ht before e between ns hearly he

theorem append (ht : SparesFound dir t) (hu : SparesFound dir u) : SparesFound dir (t ++ u) :=
  ht.append_of fun between e after ns hsplit he => (hu between e after ns hsplit he).before

theorem of_spares (h : Spares t) : SparesFound dir t := by
  rintro before e after ns rfl he
  exact absurd he (Namespace.not_deletes_of_spares h e (by simp))

/-- All that is deleted was asked for, and is absent, at the beginning. -/
theorem of_absent {ns : Namespace}
    (h : ∀ e ∈ t, e.request.removes = true → e.request = .run ns.deleteCommand) :
    SparesFound dir (⟨.pathExists (Text.joinPath dir ns.name), false⟩ :: t) := by
  intro before e after ns' hsplit he
  cases before with
  | nil =>
    obtain ⟨rfl, -⟩ := List.cons.inj hsplit
    cases he
  | cons e' before =>
    obtain ⟨rfl, rfl⟩ := List.cons.inj hsplit
    have hsame := h e (by simp) (he ▸ Namespace.removes_delete)
    rw [he, Namespace.deleteCommand_inj] at hsame
    rw [hsame]
    exact List.mem_cons_self

end SparesFound

/-! ## One server -/

/-- Nothing is removed for a server that is found. -/
theorem Spares.found {path : String} {isPresent : Bool} (h : ∀ e ∈ t, e.request.IsKilling) :
    Spares (⟨.pathExists path, isPresent⟩ :: t) :=
  List.forall_mem_cons.mpr ⟨rfl, fun e he => allows_spares.use.killing (h e he)⟩

namespace VirtualServer

variable {container : String} {pid index : Nat}

/-- A server is adopted if its namespace is there, and then only processes are killed. Else it is
made, by its own commands. -/
theorem runs_create_cases {r : Except Fault VirtualServer}
    (hr : Attempt.Runs (create dir container pid index) l t r l') :
    (∃ u, t = ⟨.pathExists (Text.joinPath dir (namespaceName container index)), true⟩ :: u ∧
      (∀ e ∈ u, e.request.IsKilling) ∧ ∀ s, r = .ok s → s.provision = .adopted) ∨
    (∃ u, t = ⟨.pathExists (Text.joinPath dir (namespaceName container index)), false⟩ :: u ∧
      (∀ e ∈ u, ∃ c, e.request = .run c ∧
        (e.request.meddles = true → c ∈ (new container index .created).arrangement pid)) ∧
      ∀ s, r = .ok s → s.provision = .created) := by
  have asked {isPresent : Bool} {w : Trace Host} {l₁ : Ledger}
      (h : Attempt.Runs (liftM (Namespace.isPresent dir (namespaceName container index))) l w
        (.ok isPresent) l₁) :
      w = [⟨.pathExists (Text.joinPath dir (namespaceName container index)), isPresent⟩] := by
    obtain ⟨_, hx, hask⟩ := Attempt.runs_lift_iff.mp h
    cases hx
    exact (Lab.runs_ask_iff.mp hask).1
  rcases Attempt.runs_bind_iff.mp hr with
    ⟨w, x, isPresent, l₁, rfl, hpresent, hrest⟩ | ⟨e, -, hpresent⟩
  case inr =>
    obtain ⟨_, hx, -⟩ := Attempt.runs_lift_iff.mp hpresent
    cases hx
  obtain rfl := asked hpresent
  cases isPresent with
  | true =>
    left
    rcases Attempt.runs_bind_iff.mp hrest with
      ⟨y, z, ⟨⟨⟩, s⟩, l₂, rfl, hkill, hrest⟩ | ⟨e, -, hkill⟩
    · obtain ⟨_, hx, hkill⟩ := Attempt.runs_lift_iff.mp hkill
      cases hx
      obtain ⟨rfl, rfl, -⟩ := Attempt.runs_pure_iff.mp hrest
      obtain ⟨hkilling, hmade, -⟩ := runs_killAll hkill
      rw [List.append_nil]
      refine ⟨y, rfl, hkilling, fun s' hs => ?_⟩
      cases hs
      exact congrArg VirtualServer.provision hmade
    · obtain ⟨_, hx, -⟩ := Attempt.runs_lift_iff.mp hkill
      cases hx
  | false =>
    right
    have runs : AllowsRuns fun q => ∃ c, q = .run c ∧
        (q.meddles = true → c ∈ (new container index .created).arrangement pid) :=
      fun c hc => ⟨c, rfl, fun hm => by simp [hc] at hm⟩
    refine ⟨x, rfl, ((asks_build runs fun c hc => ⟨c, rfl, fun _ => hc⟩).of_runs hrest).1,
      fun s hs => ?_⟩
    subst hs
    obtain ⟨_, _, _, _, rfl, -, hrest⟩ := Attempt.runs_bind_ok_iff.mp hrest
    obtain ⟨_, _, wired, _, rfl, -, hrest⟩ := Attempt.runs_bind_ok_iff.mp hrest
    cases wired with
    | ok a =>
      obtain ⟨-, hs, -⟩ := Attempt.runs_pure_iff.mp hrest
      cases hs
      rfl
    | error fault =>
      obtain ⟨_, _, _, _, -, -, hrest⟩ := Attempt.runs_bind_ok_iff.mp hrest
      cases (Attempt.runs_throw_iff.mp hrest).2.1

end VirtualServer

/-! ## All servers of a switch -/

namespace Device

variable {spec : DeviceSpec} {d d' : Device}

/-- The servers from `index` on that were made, or adopted, and what was asked for it. -/
structure ServersMade (spec : DeviceSpec) (index : Nat) (servers : List VirtualServer)
    (t : Trace Host) : Prop where
  spared : SparesFound spec.netnsDir t
  removed : ∀ e ∈ t, e.request.removes = true → ∃ i, index ≤ i ∧
    e.request = .run (Namespace.deleteCommand ⟨VirtualServer.namespaceName spec.name i⟩)
  named : ∀ s ∈ servers, ∃ i, index ≤ i ∧ s.ns.name = VirtualServer.namespaceName spec.name i
  adopted : ∀ s ∈ servers, s.provision = .adopted → ∀ e ∈ t, e.request ≠ .run s.ns.deleteCommand
  created : ∀ s ∈ servers, s.provision = .created → s.ns.AbsentIn spec.netnsDir t

namespace ServersMade

variable {servers : List VirtualServer} {index : Nat}

theorem of_spares (h : Spares t) : ServersMade spec index [] t where
  spared := .of_spares h
  removed e he hr := by simp [h e he] at hr
  named := by simp
  adopted := by simp
  created := by simp

theorem before (h : ServersMade spec index servers t) (hu : Spares u) :
    ServersMade spec index servers (u ++ t) where
  spared := (SparesFound.of_spares hu).append h.spared
  removed e he hr := by
    rcases List.mem_append.mp he with he | he
    · simp [hu e he] at hr
    · exact h.removed e he hr
  named := h.named
  adopted s hs ha := List.forall_mem_append.mpr
    ⟨Namespace.not_deletes_of_spares hu, h.adopted s hs ha⟩
  created s hs hc := (h.created s hs hc).before

theorem append (h : ServersMade spec index servers t) (hu : Spares u) :
    ServersMade spec index servers (t ++ u) where
  spared := h.spared.append (SparesFound.of_spares hu)
  removed e he hr := by
    rcases List.mem_append.mp he with he | he
    · exact h.removed e he hr
    · simp [hu e he] at hr
  named := h.named
  adopted s hs ha := List.forall_mem_append.mpr
    ⟨h.adopted s hs ha, Namespace.not_deletes_of_spares hu⟩
  created s hs hc := (h.created s hs hc).append

/-- What is asked for one server says nothing of the others. -/
theorem others {s : VirtualServer} {i : Nat}
    (hs : s.ns.name = VirtualServer.namespaceName spec.name i)
    (hu : ∀ e ∈ u, e.request.removes = true → ∃ j, j ≠ i ∧
      e.request = .run (Namespace.deleteCommand ⟨VirtualServer.namespaceName spec.name j⟩)) :
    ∀ e ∈ u, e.request ≠ .run s.ns.deleteCommand := by
  intro e he hdel
  obtain ⟨j, hne, hj⟩ := hu e he (hdel ▸ Namespace.removes_delete)
  rw [hdel, Namespace.deleteCommand_inj] at hj
  rw [hj] at hs
  exact hne (VirtualServer.namespaceName_inj.mp hs)

/-- A server that could not be made. -/
theorem failed {pid : Nat} {r : Except Fault VirtualServer}
    (hr : Attempt.Runs (VirtualServer.create spec.netnsDir spec.name pid index) l t r l') :
    ServersMade spec index [] t := by
  have removes := VirtualServer.removes_create hr
  refine ⟨?_, fun e he hremoves => ⟨index, Nat.le_refl _, removes e he hremoves⟩, by simp,
    by simp, by simp⟩
  rcases VirtualServer.runs_create_cases hr with ⟨u, rfl, hkilling, -⟩ | ⟨u, rfl, -⟩
  · exact .of_spares (Spares.found hkilling)
  · exact .of_absent fun e he => removes e (List.mem_cons_of_mem _ he)

/-- One server, and then the others. -/
theorem cons {pid : Nat} {s : VirtualServer}
    (hr : Attempt.Runs (VirtualServer.create spec.netnsDir spec.name pid index) l t (.ok s) l')
    (h : ServersMade spec (index + 1) servers u) :
    ServersMade spec index (s :: servers) (t ++ u) := by
  have first : ServersMade spec index [] t := failed hr
  have removes := VirtualServer.removes_create hr
  have name := (VirtualServer.runs_create_ok hr).1
  have later {s' : VirtualServer} (hs : s' ∈ servers) :
      ∀ e ∈ t, e.request ≠ .run s'.ns.deleteCommand := by
    obtain ⟨i, hi, hname⟩ := h.named s' hs
    exact others hname fun e he hremoves => ⟨index, by omega, removes e he hremoves⟩
  have earlier : ∀ e ∈ u, e.request ≠ .run s.ns.deleteCommand :=
    others name fun e he hremoves => by
      obtain ⟨j, hj, hdel⟩ := h.removed e he hremoves
      exact ⟨j, by omega, hdel⟩
  constructor
  · exact first.spared.append h.spared
  · intro e he hremoves
    rcases List.mem_append.mp he with he | he
    · exact first.removed e he hremoves
    · obtain ⟨i, hi, hdel⟩ := h.removed e he hremoves
      exact ⟨i, by omega, hdel⟩
  · intro s' hs
    rcases List.mem_cons.mp hs with rfl | hs
    · exact ⟨index, Nat.le_refl _, name⟩
    · obtain ⟨i, hi, hname⟩ := h.named s' hs
      exact ⟨i, by omega, hname⟩
  · intro s' hs hadopted
    rcases List.mem_cons.mp hs with rfl | hs
    · refine List.forall_mem_append.mpr ⟨?_, earlier⟩
      rcases VirtualServer.runs_create_cases hr with ⟨_, rfl, hkilling, -⟩ | ⟨_, -, -, hcreated⟩
      · exact Namespace.not_deletes_of_spares (Spares.found hkilling)
      · simp [hcreated s' rfl] at hadopted
    · exact List.forall_mem_append.mpr ⟨later hs, h.adopted s' hs hadopted⟩
  · intro s' hs hcreated
    rcases List.mem_cons.mp hs with rfl | hs
    · refine Namespace.AbsentIn.append ?_
      rcases VirtualServer.runs_create_cases hr with ⟨_, -, -, hadopted⟩ | ⟨_, rfl, -⟩
      · simp [hadopted s' rfl] at hcreated
      · rw [Namespace.AbsentIn, name]
        exact List.mem_cons_self
    · exact (h.created s' hs hcreated).before

end ServersMade

theorem runs_createServers {pid count index : Nat} :
    ∀ {d l t r d' l'}, On.Runs (createServers pid index count) d l t r d' l' →
      ∃ servers, d'.servers = d.servers ++ servers ∧ ServersMade d.spec index servers t := by
  induction count generalizing index with
  | zero =>
    intro d l t r d' l' hr
    obtain ⟨rfl, -, rfl, -⟩ := On.runs_pure_iff.mp hr
    exact ⟨[], by simp, .of_spares Spares.nil⟩
  | succ count ih =>
    intro d l t r d' l' hr
    rcases On.runs_bind_lift_iff.mp (On.runs_bind_get_iff.mp hr) with
      ⟨u, v, s, l₁, rfl, hcreate, hrest⟩ | ⟨e, -, rfl, hcreate⟩
    · obtain ⟨servers, hservers, hmade⟩ := ih (On.runs_bind_modify_iff.mp hrest)
      exact ⟨s :: servers, by simpa using hservers, .cons hcreate hmade⟩
    · exact ⟨[], by simp, .failed hcreate⟩

/-- Nothing is removed when the servers are there and the container of the switch is made. -/
theorem runs_afterServers {d d' : Device} {r : Except Fault Unit} (hr : On.Runs (do
    let _ ← Container.create (switchSpec spec)
    if let some config := spec.defaultConfig then
      Container.copyIn config spec.name "/etc/sonic/config_db.json"
    Container.start spec.name : On Device Unit) d l t r d' l') :
    Spares t ∧ d'.servers = d.servers :=
  (keeps_switchContainer (K := fun d' => d'.servers = d.servers) allows_spares.making d
    rfl).of_runs hr

/-- A step that removes nothing before any server is there, and what comes after it. -/
theorem ServersMade.bind_lift {α β : Type} {work : Attempt α} {f : α → On Device β}
    {r : Except Fault β} (hw : Attempt.Asks (fun q => q.removes = false) work)
    (hr : On.Runs ((liftM work : On Device α) >>= f) d l t r d' l') (hd : d.servers = [])
    (hf : ∀ {a v l₁}, On.Runs (f a) d l₁ v r d' l' → ServersMade spec 0 d'.servers v) :
    ServersMade spec 0 d'.servers t := by
  rcases On.runs_bind_lift_iff.mp hr with ⟨u, v, a, l₁, rfl, hwork, hrest⟩ | ⟨e, -, rfl, hwork⟩
  · exact (hf hrest).before (hw.of_runs hwork).1
  · rw [hd]
    exact .of_spares (hw.of_runs hwork).1

theorem serversMade_provision {r : Except Fault Unit} (hd : d.servers = [])
    (hr : On.Runs provision d l t r d' l') : ServersMade d.spec 0 d'.servers t := by
  refine .bind_lift (asks_check rfl) (On.runs_bind_get_iff.mp hr) hd fun hr => ?_
  refine .bind_lift (asks_createAndStart allows_spares.making) (On.runs_bind_modify_iff.mp hr)
    hd fun hr => ?_
  refine .bind_lift (asks_pid allows_spares.containers) hr hd fun hr => ?_
  have hr := On.runs_bind_modify_iff.mp hr
  dsimp only at hr
  split at hr
  case isTrue =>
    rcases On.runs_bind_iff.mp hr with ⟨u, v, ⟨⟩, d₁, l₄, rfl, hservers, hr⟩ | ⟨e, -, hservers⟩
    · obtain ⟨servers, heq, hmade⟩ := runs_createServers hservers
      obtain ⟨hspares, hsame⟩ := runs_afterServers hr
      rw [hsame, heq, hd]
      exact hmade.append hspares
    · obtain ⟨servers, heq, hmade⟩ := runs_createServers hservers
      rw [heq, hd]
      exact hmade
  case isFalse =>
    obtain ⟨hspares, hsame⟩ := runs_afterServers hr
    rw [hsame, hd]
    exact .of_spares hspares

theorem serversMade_attach {r : Except Fault Unit} (hd : d.servers = [])
    (hr : On.Runs attach d l t r d' l') : ServersMade d.spec 0 d'.servers t := by
  obtain ⟨u, v, isRunning, l₁, rfl, hrunning, hr⟩ :=
    On.runs_bind_liftLab_iff.mp (On.runs_bind_get_iff.mp hr)
  have none (hsame : d'.servers = d.servers) : ServersMade d.spec 0 d'.servers [] := by
    rw [hsame, hd]
    exact .of_spares Spares.nil
  refine .before ?_ ((asks_isRunning allows_spares.containers).of_runs hrunning).1
  cases isRunning with
  | false =>
    obtain ⟨rfl, -, rfl, -⟩ := On.runs_throw_bind_iff.mp hr
    exact none rfl
  | true =>
    refine .bind_lift (asks_pid allows_spares.containers) hr hd fun hr => ?_
    refine .bind_lift (NetScope.asks_ip allows_spares rfl) (On.runs_bind_modify_iff.mp hr) hd
      fun hr => ?_
    dsimp only at hr
    split at hr
    · obtain ⟨rfl, -, rfl, -⟩ := On.runs_throw_bind_iff.mp hr
      exact none rfl
    · split at hr
      · obtain ⟨servers, heq, hmade⟩ := runs_createServers hr
        rw [heq, hd]
        exact hmade
      · obtain ⟨rfl, -, rfl, -⟩ := On.runs_pure_iff.mp hr
        exact none rfl

/-! ## The whole life -/

/-- The steps at the end are among those that take back all that was made. -/
theorem backSteps_sublist : d.backSteps.Sublist d.ownSteps := by
  refine List.Sublist.append ?_ (List.Sublist.refl _)
  split
  · exact List.nil_sublist _
  · exact List.Sublist.refl _

theorem mem_backSteps_delete {ns : Namespace} :
    Query.run ns.deleteCommand ∈ d.backSteps.map (Query.run ·.command) ↔
      ∃ s ∈ d.servers, s.provision = .created ∧ s.ns = ns := by
  have containers : Query.run ns.deleteCommand ∉ d.containerSteps.map (Query.run ·.command) := by
    simp [containerSteps, TeardownStep.removeContainer, TeardownStep.removeDirectory,
      Namespace.deleteCommand]
  have first : Query.run ns.deleteCommand ∉
      (if d.spec.attach then [] else d.containerSteps).map (Query.run ·.command) := by
    split
    · simp
    · exact containers
  have owned (s : VirtualServer) : s.provision.cleanupOwned = true ↔ s.provision = .created := by
    cases s.provision <;> simp [Provision.cleanupOwned]
  rw [backSteps, List.map_append, List.mem_append, or_iff_right first, List.map_map]
  simp only [List.mem_map, List.mem_filter, owned, Function.comp_apply]
  constructor
  · rintro ⟨s, ⟨hs, hcreated⟩, heq⟩
    exact ⟨s, hs, hcreated, Namespace.deleteCommand_inj.mp heq⟩
  · rintro ⟨s, hs, hcreated, rfl⟩
    exact ⟨s, ⟨hs, hcreated⟩, rfl⟩

namespace Life

variable {x : Life}

/-- What becomes of the namespaces of servers during the life of their switch. -/
structure ServersEnd (x : Life) : Prop where
  /-- One that was made for a server is deleted once after that, but not if the switch is left
  running. -/
  created : ∀ s ∈ x.first.servers, s.provision = .created →
    ∃ u v, x.trace = u ++ v ∧ s.ns.MadeIn u ∧
      (¬ x.Detached → (v.map (·.request)).count (.run s.ns.deleteCommand) = 1) ∧
      (x.Detached → ∀ e ∈ v, e.request ≠ .run s.ns.deleteCommand)
  adopted : ∀ s ∈ x.first.servers, s.provision = .adopted →
    ∀ e ∈ x.trace, e.request ≠ .run s.ns.deleteCommand
  /-- No namespace is deleted that the host had and this switch was not the one to make. -/
  found : SparesFound x.spec.netnsDir x.trace

/-- The servers are the same after a failure. -/
theorem Begun.server (h : x.Begun d u v) {s : VirtualServer} (hs : s ∈ x.first.servers) :
    ∃ s' ∈ d.servers, s'.ns = s.ns ∧ s'.provision = s.provision :=
  mem_servers_of_made h.same hs

/-- The commands at the end are all different. -/
theorem Begun.nodup_backSteps (h : x.Begun d u v) :
    (x.first.backSteps.map (Query.run ·.command)).Nodup := by
  have commands : (x.first.backSteps.map (·.command)).Nodup := by
    rw [← h.backSteps_eq]
    exact h.making.nodup_steps.sublist (backSteps_sublist.map _)
  have run_inj : Function.Injective Query.run := fun _ _ heq => by cases heq; rfl
  have hmap := List.Nodup.map run_inj commands
  rwa [List.map_map] at hmap

/-- Only what was made for the servers is deleted in the end. -/
theorem Begun.made_of_deleted (h : x.Begun d u v)
    (hends : RemovedOnce x.first.backSteps t ∨ (x.Detached ∧ Spares t)) {e : Exchange Host}
    {ns : Namespace} (he : e ∈ t) (hdel : e.request = .run ns.deleteCommand) :
    ∃ s ∈ d.servers, s.provision = .created ∧ s.ns = ns := by
  rcases hends with hremoved | ⟨-, hspares⟩
  · have hmem : Query.run ns.deleteCommand ∈ removals t :=
      hdel ▸ mem_removals he (hdel ▸ Namespace.removes_delete)
    rw [hremoved.removals backSteps_remove, ← h.backSteps_eq] at hmem
    exact mem_backSteps_delete.mp hmem
  · exact absurd hdel (Namespace.not_deletes_of_spares hspares e he)

/-- Whatever the host answers and whatever is done with a switch, attached to or not, its servers
end well. -/
theorem lived_serversEnd (hx : x.Lived) : x.ServersEnd := by
  obtain ⟨d, u, v, h, hmade, -⟩ := hx.begun_of
    (I := fun d _ t => ServersMade x.spec 0 d.servers t) fun {_ _ _ _ _} hr => by
      split at hr
      · exact serversMade_attach rfl hr
      · exact serversMade_provision rfl hr
  have hends := hx.ends h
  have hspared := hx.spares_of_detached h
  have htrace : x.trace = u ++ (v ++ (x.events.flatMap (·.trace) ++ x.dropping)) := by
    rw [Life.trace, h.trace, List.append_assoc]
  generalize v ++ (x.events.flatMap (·.trace) ++ x.dropping) = tail at hends hspared htrace
  constructor
  · intro s hs hcreated
    refine ⟨u, tail, htrace, h.making.madeIn h.same s hs hcreated, fun hheld => ?_, fun hleft => ?_⟩
    · rcases hends with hremoved | ⟨hdetached, -⟩
      · rw [← count_removals Namespace.removes_delete, hremoved.removals backSteps_remove]
        exact List.count_eq_one_of_mem h.nodup_backSteps
          (mem_backSteps_delete.mpr ⟨s, hs, hcreated, rfl⟩)
      · exact absurd hdetached hheld
    · exact Namespace.not_deletes_of_spares (hspared hleft)
  · intro s hs hadopted
    obtain ⟨s', hs', hns, hprovision⟩ := h.server hs
    rw [htrace]
    refine List.forall_mem_append.mpr ⟨?_, fun e he hdel => ?_⟩
    · rw [← hns]
      exact hmade.adopted s' hs' (hprovision.trans hadopted)
    · obtain ⟨s'', hs'', hcreated, hsame⟩ := h.made_of_deleted hends he hdel
      have heq : s'' = s' := List.inj_on_of_nodup_map h.making.nodup_names hs'' hs'
        (by rw [hsame, hns])
      rw [heq, hprovision, hadopted] at hcreated
      cases hcreated
  · rw [htrace]
    refine hmade.spared.append_of fun between e after ns hsplit hdel => ?_
    obtain ⟨s, hs, hcreated, rfl⟩ := h.made_of_deleted hends (by simp [hsplit]) hdel
    exact (hmade.created s hs hcreated).append

end Life

end Device

namespace Fixture

/-! ## The end of a session -/

variable {f₀ f : Fixture} {past : List Device.Life} {now : Option Device.Life} {detaches : Prop}

/-- The switches of a session with all that was asked, when `f` is shut down at its end. -/
structure Closed (f : Fixture) (lives : List Device.Life) (t : Trace Host) : Prop where
  lived : ∀ x ∈ lives, x.Lived
  trace : t = lives.flatMap (·.trace)
  /-- Only a switch that was attached to, and is held to the end, is left. -/
  left : ∀ x ∈ lives, x.Detached → x.spec.attach = true ∧
    ∃ d, f.current = some d ∧ d.state ≠ .destroyed ∧ d ∈ x.moments

theorem Tenancy.undetached (h : Tenancy f₀ detaches past now f t) (hnone : ¬ detaches)
    {x : Device.Life} (hx : x ∈ past ++ now.toList) : ¬ x.Detached := by
  rintro ⟨e, he, hop, -⟩
  exact hnone (h.detached x hx e he hop)

theorem Tenancy.closed {f' : Fixture} (h : Tenancy f₀ detaches past none f' t)
    (hnone : ¬ detaches) : f.Closed past t where
  lived := h.lived
  trace := by simpa using h.trace
  left x hx hleft := absurd hleft (h.undetached hnone (by simpa using hx))

/-- The switch that is held last is detached or destroyed. -/
theorem Tenancy.shutdown {r : Except Fault Unit} (h : Tenancy f₀ detaches past now f t)
    (hkeep : f₀.options.keepTestbed = false) (hnone : ¬ detaches)
    (hr : Attempt.Runs f.shutdown l u r l') : ∃ lives, f.Closed lives (t ++ u) := by
  have hcurrent := h.current
  rw [Fixture.shutdown, hcurrent] at hr
  cases now with
  | none =>
    obtain ⟨rfl, -, -⟩ := Attempt.runs_pure_iff.mp hr
    rw [List.append_nil]
    exact ⟨past, h.closed hnone⟩
  | some x =>
    dsimp only [Option.map_some] at hr
    rw [h.options, hkeep, Bool.false_or] at hr
    split at hr
    case isTrue hattach =>
      obtain ⟨_, -, hdrop⟩ := Attempt.runs_lift_iff.mp hr
      have hran : Event.Ran Device.Operation.act ⟨.detach, x.last, [], .ok (), x.last.detach⟩ :=
        ⟨.empty, .empty, On.runs_modify_iff.mpr ⟨rfl, rfl, rfl, rfl⟩⟩
      have hwider : Tenancy f₀ True past (some x) f t := h.mono fun _ => trivial
      have hend := hwider.letGo (History.single hran) (fun _ _ _ => trivial) hdrop
      refine ⟨_, hend.lived, by simpa using hend.trace, fun y hy hleft => ?_⟩
      rcases List.mem_append.mp hy with hy | hy
      · exact absurd hleft (h.undetached hnone (List.mem_append_left _ hy))
      · obtain rfl := List.mem_singleton.mp hy
        have hheld := h.held x rfl
        refine ⟨?_, x.last, hcurrent, ?_, Device.Life.moments_goOn hheld.last_mem_moments⟩
        · show x.spec.attach = true
          rw [← hheld.spec_eq]
          exact hattach
        · obtain ⟨e, he, hop, hstate⟩ := hleft
          rcases List.mem_append.mp he with he | he
          · exact absurd ⟨e, he, hop, hstate⟩ (h.undetached hnone (by simp))
          · obtain rfl := List.mem_singleton.mp he
            exact hstate
    case isFalse =>
      rcases Attempt.runs_bind_iff.mp hr with ⟨v, w, y, l₁, rfl, hdestroy, hr⟩ | ⟨_, -, hdestroy⟩
      · obtain ⟨rfl, -, -⟩ := Attempt.runs_pure_iff.mp hr
        obtain ⟨y, -, hend⟩ := h.destroyed hdestroy
        rw [List.append_nil]
        exact ⟨_, hend.closed hnone⟩
      · obtain ⟨y, -, hend⟩ := h.destroyed hdestroy
        exact ⟨_, hend.closed hnone⟩

/-- However a session went whose user detaches no switch: when it is shut down, and the testbed is
not to be kept, then all servers of all its switches have ended well, and no switch of its own is
left. -/
theorem shutdown_serversEnd {events : List (Event Operation Fixture)} {r : Except Fault Unit}
    (hf : f₀.current = none) (hkeep : f₀.options.keepTestbed = false)
    (h : History Operation.act f₀ events f) (hnone : ¬ Detaches events)
    (hr : Attempt.Runs f.shutdown l t r l') :
    ∃ lives, f.Closed lives (events.flatMap (·.trace) ++ t) ∧ ∀ x ∈ lives, x.ServersEnd := by
  obtain ⟨past, now, hend⟩ := tenancy h (.start hf)
  obtain ⟨lives, hclosed⟩ := hend.shutdown hkeep (by simpa using hnone) hr
  refine ⟨lives, by simpa using hclosed, fun x hx => ?_⟩
  exact Device.Life.lived_serversEnd (hclosed.lived x hx)

end Fixture

end SwitchLab

/-! ## A server that goes

The session that made its switch destroys it when it is shut down, and the server with it. -/

namespace SwitchLab.OwnSwitch

open Device

def teardown : Trace Host :=
  [silently "docker" ["rm", "-f", "dvs00"], silently "docker" ["rm", "-f", "dvs00-ns"],
    silently "rm" ["-rf", "/m/dvs00"],
    Command.ran ⟨"ip", ["netns", "pids", "dvs00-srv0"]⟩ (.ok .silent),
    silently "ip" ["netns", "del", "dvs00-srv0"]]

theorem runs_shutdown : Attempt.Runs serving.shutdown ledger teardown (.ok ()) ledger :=
  Dialogue.runs_of_replay (by decide +kernel)

theorem undetached : ¬ Fixture.Detaches events := by
  rintro ⟨e, he, hop⟩
  simp only [events, List.mem_cons, List.not_mem_nil, or_false] at he
  rcases he with rfl | rfl | rfl <;> cases hop

/-- The namespace of the server is there up to the end. -/
theorem madeIn_server : server.ns.MadeIn (events.flatMap (·.trace)) :=
  ⟨making.take 6, silently "ip" ["netns", "add", "dvs00-srv0"],
    making.drop 7 ++ readying ++ cleaning, rfl, ⟨.silent, rfl, rfl⟩, by decide +kernel⟩

end SwitchLab.OwnSwitch

/-! ## A server that stays

The session that attached to a switch made a server for it. When it is shut down, it leaves the
switch, and the server with it. -/

namespace SwitchLab.Attached

open Device

theorem history_acquiring : History Fixture.Operation.act fixture [acquiring] serving :=
  .single ran_acquire

theorem runs_shutdown :
    Attempt.Runs serving.shutdown LatePort.ledger [] (.ok ()) LatePort.ledger :=
  Dialogue.runs_of_replay (by decide +kernel)

/-- Both sessions are closed. The one leaves its switch with the server, the other deletes the
namespace of its server once. -/
theorem shutdown_closed :
    fixture.current = none ∧ fixture.options.keepTestbed = false ∧
    History Fixture.Operation.act fixture [acquiring] serving ∧
    ¬ Fixture.Detaches [acquiring] ∧
    Attempt.Runs serving.shutdown LatePort.ledger [] (.ok ()) LatePort.ledger ∧
    (∃ lives, serving.Closed lives ([acquiring].flatMap (·.trace) ++ []) ∧
      ∀ x ∈ lives, x.ServersEnd) ∧
    OwnSwitch.fixture.current = none ∧ OwnSwitch.fixture.options.keepTestbed = false ∧
    History Fixture.Operation.act OwnSwitch.fixture OwnSwitch.events OwnSwitch.serving ∧
    ¬ Fixture.Detaches OwnSwitch.events ∧
    Attempt.Runs OwnSwitch.serving.shutdown OwnSwitch.ledger OwnSwitch.teardown (.ok ())
      OwnSwitch.ledger ∧
    OwnSwitch.server ∈ OwnSwitch.usedDevice.servers ∧ OwnSwitch.server.provision = .created ∧
    OwnSwitch.server.ns.MadeIn (OwnSwitch.events.flatMap (·.trace)) ∧
    (OwnSwitch.teardown.map (·.request)).count (.run OwnSwitch.server.ns.deleteCommand) = 1 ∧
    ∃ lives, OwnSwitch.serving.Closed lives
        (OwnSwitch.events.flatMap (·.trace) ++ OwnSwitch.teardown) ∧
      ∀ x ∈ lives, x.ServersEnd := by
  have undetached : ¬ Fixture.Detaches [acquiring] := by
    rintro ⟨e, he, hop⟩
    obtain rfl := List.mem_singleton.mp he
    cases hop
  refine ⟨rfl, rfl, history_acquiring, undetached, runs_shutdown,
    Fixture.shutdown_serversEnd rfl rfl history_acquiring undetached runs_shutdown, rfl, rfl,
    OwnSwitch.history, OwnSwitch.undetached, OwnSwitch.runs_shutdown, List.mem_singleton_self _,
    rfl, OwnSwitch.madeIn_server, by decide +kernel, ?_⟩
  exact Fixture.shutdown_serversEnd rfl rfl OwnSwitch.history OwnSwitch.undetached
    OwnSwitch.runs_shutdown

/-- In this session the namespace of the server is made, and not deleted after that. -/
theorem server_stays :
    History Fixture.Operation.act (.new options 0) [acquiring] serving ∧
    options.keepTestbed = false ∧
    Attempt.Runs serving.shutdown LatePort.ledger [] (.ok ()) LatePort.ledger ∧
    LatePort.server ∈ usedDevice.servers ∧ serving.current = some usedDevice ∧
    LatePort.server.provision = .created ∧
    LatePort.server.ns.MadeIn ([acquiring].flatMap (·.trace) ++ []) := by
  refine ⟨history_acquiring, rfl, runs_shutdown, List.mem_singleton_self _, rfl, rfl, ?_⟩
  refine ⟨making.take 5, silently "ip" ["netns", "add", "dut-srv0"],
    making.drop 6 ++ LatePort.trace, ?_, ⟨.silent, rfl, rfl⟩, by decide +kernel⟩
  rw [List.append_nil, List.flatMap_singleton]
  rfl

end SwitchLab.Attached
