import SwitchLab.Proofs.Removal
import SwitchLab.Proofs.Servers

/-! Failures of a switch. Making it, and making it ready, are plans of steps, and
the fault that is reported is that of the first step that fails, whatever becomes
of the logs and of the teardown. Only a restart that fails tears nothing down. -/

namespace SwitchLab

variable {l l' : Ledger} {t u v : Trace Host} {fault : Fault}

/-! ## Plans that begin with a step -/

namespace CarriedOut

variable {ω σ α : Type} {act : ω → On σ Unit} {s s' : σ} {a : ω} {rest : List ω}
  {r : Except Fault Unit}

theorem single (hr : On.Runs (act a) s l t r s' l') : CarriedOut act [a] s t r s' := by
  cases r with
  | ok =>
    have h := CarriedOut.step hr (.done s')
    rwa [List.append_nil] at h
  | error fault => exact .stopped hr

section First

variable {work : Attempt α} {f : α → On σ Unit} {s₁ : σ} {g : α → σ → σ}

variable (act) in
/-- Work that begins with one step: the step is taken, or the work stops with it. `s₁` is what the
step makes of the object before its own work, and `g` what it does with the result. -/
theorem first_or_stopped (hr : On.Runs ((liftM work : On σ α) >>= f) s₁ l t r s' l')
    (hact : ∀ {u x s₂ l₂},
      On.Runs ((liftM work : On σ α) >>= fun b => modify (g b)) s₁ l u x s₂ l₂ →
      On.Runs (act a) s l u x s₂ l₂) :
    (∃ u v b l₁, t = u ++ v ∧ On.Runs (act a) s l u (.ok ()) (g b s₁) l₁ ∧
      On.Runs (f b) s₁ l₁ v r s' l') ∨
    ∃ e, r = .error e ∧ On.Runs (act a) s l t (.error e) s' l' := by
  rcases On.runs_bind_lift_iff.mp hr with ⟨u, v, b, l₁, rfl, hwork, hrest⟩ | ⟨e, rfl, rfl, hwork⟩
  · refine .inl ⟨u, v, b, l₁, rfl, hact (On.runs_bind_lift_iff.mpr (.inl ?_)), hrest⟩
    exact ⟨u, [], b, l₁, (List.append_nil u).symm, hwork,
      On.runs_modify_iff.mpr ⟨rfl, rfl, rfl, rfl⟩⟩
  · exact .inr ⟨e, rfl, hact (On.runs_bind_lift_iff.mpr (.inr ⟨e, rfl, rfl, hwork⟩))⟩

/-- A step that leaves the object as it is. -/
theorem runs_lift_of_bind {work : Attempt Unit}
    (hr : On.Runs ((liftM work : On σ Unit) >>= fun _ => modify id) s l t r s' l') :
    On.Runs (liftM work : On σ Unit) s l t r s' l' := by
  rcases On.runs_bind_lift_iff.mp hr with ⟨u, v, ⟨⟩, l₁, rfl, hwork, hrest⟩ | ⟨e, rfl, rfl, hwork⟩
  · obtain ⟨rfl, rfl, rfl, rfl⟩ := On.runs_modify_iff.mp hrest
    rw [List.append_nil]
    exact On.runs_lift_iff.mpr ⟨rfl, hwork⟩
  · exact On.runs_lift_iff.mpr ⟨rfl, hwork⟩

theorem bind_lift (hr : On.Runs ((liftM work : On σ α) >>= f) s₁ l t r s' l')
    (hact : ∀ {u x s₂ l₂},
      On.Runs ((liftM work : On σ α) >>= fun b => modify (g b)) s₁ l u x s₂ l₂ →
      On.Runs (act a) s l u x s₂ l₂)
    (hf : ∀ {b u l₁}, On.Runs (f b) s₁ l₁ u r s' l' → CarriedOut act rest (g b s₁) u r s') :
    CarriedOut act (a :: rest) s t r s' := by
  rcases first_or_stopped act hr hact with ⟨u, v, b, l₁, rfl, hstep, hrest⟩ | ⟨e, rfl, hstep⟩
  · exact .step hstep (hf hrest)
  · exact .stopped hstep

end First

end CarriedOut

namespace Device

variable {spec : DeviceSpec} {d d' : Device} {r : Except Fault Unit}

/-! ## Making a switch -/

inductive MakingStep where
  /-- Makes the directory that the host and the switch share. -/
  | directory
  | holder
  /-- Finds the switch to attach to. -/
  | running
  /-- Notes the first process of a container. -/
  | process (container : String)
  /-- Finds the interfaces of the switch to attach to. -/
  | interfaces
  | server (index : Nat)
  | container
  | configuration (path : String)
  | start

namespace MakingStep

/-- Interfaces and servers are those of the namespace that the noted process holds. -/
def act : MakingStep → On Device Unit
  | directory => do
    let _ ← Host.check ⟨"mkdir", ["-p", (← get).spec.mountDir]⟩
  | holder => do
    let spec := (← get).spec
    modify fun d => { d with holder := some spec.holderName }
    let _ ← Container.createAndStart (holderSpec spec)
  | running => do
    let spec := (← get).spec
    if !(← Container.isRunning spec.name) then
      throw (.provision spec.name "no running container to attach to")
  | process name => do
    let pid ← Container.pid name
    modify fun d => { d with pid := some pid }
  | interfaces => do
    let spec := (← get).spec
    if let some pid := (← get).pid then
      let output ← (NetScope.ofPid pid).ip ["-o", "link", "show"]
      let ports := frontPanelCount (linkNames output.stdout)
      if ports = 0 ∨ spec.numPorts < ports then
        throw (.invalidValue
          s!"{spec.name}: {ports} front-panel interfaces, expected 1..={spec.numPorts}")
  | server index => do
    let spec := (← get).spec
    if let some pid := (← get).pid then
      let server ← VirtualServer.create spec.netnsDir spec.name pid index
      modify fun d => { d with servers := d.servers ++ [server] }
  | container => do
    let _ ← Container.create (switchSpec (← get).spec)
  | configuration path => do
    Container.copyIn path (← get).spec.name "/etc/sonic/config_db.json"
  | start => do
    Container.start (← get).spec.name

end MakingStep

/-- Servers for as many ports, if the switch is to have servers. -/
def serverPlan (spec : DeviceSpec) (ports : Nat) : List MakingStep :=
  if spec.withServers then (List.range ports).map .server else []

/-- The containers, with the servers between them. -/
def provisionPlan (spec : DeviceSpec) : List MakingStep :=
  .directory :: .holder :: .process spec.holderName :: (serverPlan spec spec.numPorts ++
    .container :: (spec.defaultConfig.toList.map .configuration ++ [.start]))

/-- How many ports there are is found on the way. -/
def attachPlan (spec : DeviceSpec) (ports : Nat) : List MakingStep :=
  .running :: .process spec.name :: .interfaces :: serverPlan spec ports

theorem carriedOut_createServers {pid index count : Nat} (hd : d.pid = some pid)
    (hr : On.Runs (createServers pid index count) d l t r d' l') :
    CarriedOut MakingStep.act ((List.range' index count).map .server) d t r d' := by
  induction count generalizing index d l t with
  | zero =>
    obtain ⟨rfl, rfl, rfl, -⟩ := On.runs_pure_iff.mp hr
    exact .done d'
  | succ count ih =>
    refine .bind_lift (On.runs_bind_get_iff.mp hr) (g := fun s d =>
      { d with servers := d.servers ++ [s] }) (fun hserver => ?_) fun hrest => ?_
    · refine On.runs_bind_get_iff.mpr (On.runs_bind_get_iff.mpr ?_)
      rw [hd]
      exact hserver
    · exact ih hd (On.runs_bind_modify_iff.mp hrest)

theorem carriedOut_serverPlan {pid ports : Nat} (hd : d.pid = some pid)
    (hr : On.Runs (if spec.withServers then createServers pid 0 ports else pure ()) d l t r d' l') :
    CarriedOut MakingStep.act (serverPlan spec ports) d t r d' := by
  by_cases hw : spec.withServers = true
  · rw [if_pos hw] at hr
    rw [serverPlan, if_pos hw, List.range_eq_range']
    exact carriedOut_createServers hd hr
  · rw [if_neg hw] at hr
    obtain ⟨rfl, rfl, rfl, -⟩ := On.runs_pure_iff.mp hr
    rw [serverPlan, if_neg hw]
    exact .done d'

/-- The servers, if there are to be any, and what comes after them. -/
theorem carriedOut_servers {pid ports : Nat} {f : On Device Unit} {rest : List MakingStep}
    (hd : d.pid = some pid)
    (hr : On.Runs (do
      if spec.withServers then createServers pid 0 ports
      f) d l t r d' l')
    (hf : ∀ {d₁ u l₁}, d₁.spec = d.spec → On.Runs f d₁ l₁ u r d' l' →
      CarriedOut MakingStep.act rest d₁ u r d') :
    CarriedOut MakingStep.act (serverPlan spec ports ++ rest) d t r d' := by
  have hbind : On.Runs ((if spec.withServers then createServers pid 0 ports else pure ()) >>=
      fun _ => f) d l t r d' l' := by
    dsimp only at hr
    split at hr
    case isTrue hw => rwa [if_pos hw]
    case isFalse hw =>
      rw [if_neg hw, pure_bind]
      exact hr
  have keeps : On.Keeps (fun q => q.isStoreCall = false) (fun d' => d'.spec = d.spec)
      (if spec.withServers then createServers pid 0 ports else pure ()) := by
    split
    · exact keeps_createServers allows_noStoreCall.servers fun _ _ h => h
    · exact .pure
  refine CarriedOut.bind hbind (fun {u x d₁ l₁} hservers => ?_) fun hservers _ hrest => ?_
  · cases x <;> exact carriedOut_serverPlan hd hservers
  · exact hf ((keeps d rfl).of_runs hservers).2 hrest

theorem carriedOut_switchContainer (hd : d.spec = spec) (hr : On.Runs (do
    let _ ← Container.create (switchSpec spec)
    if let some config := spec.defaultConfig then
      Container.copyIn config spec.name "/etc/sonic/config_db.json"
    Container.start spec.name : On Device Unit) d l t r d' l') :
    CarriedOut MakingStep.act
      (.container :: (spec.defaultConfig.toList.map .configuration ++ [.start])) d t r d' := by
  subst hd
  refine .bind_lift hr (g := fun _ d => d) id fun hr => ?_
  cases hc : d.spec.defaultConfig with
  | none =>
    simp only [hc] at hr
    exact .single hr
  | some config =>
    simp only [hc] at hr
    exact .bind_lift hr (g := fun _ => id) CarriedOut.runs_lift_of_bind fun hr => .single hr

theorem carriedOut_provision (hr : On.Runs provision d l t r d' l') :
    CarriedOut MakingStep.act (provisionPlan d.spec) d t r d' := by
  refine .bind_lift (On.runs_bind_get_iff.mp hr) (g := fun _ d => d) id fun hr => ?_
  refine .bind_lift (On.runs_bind_modify_iff.mp hr) (g := fun _ d => d) id fun hr => ?_
  refine .bind_lift hr (g := fun pid d => { d with pid := some pid }) id fun hr => ?_
  exact carriedOut_servers rfl (On.runs_bind_modify_iff.mp hr) carriedOut_switchContainer

/-- The interfaces are counted, and then there may be servers behind them. -/
theorem carriedOut_interfaces {pid : Nat} (hd : d.pid = some pid) (hr : On.Runs (do
    let output ← (NetScope.ofPid pid).ip ["-o", "link", "show"]
    let ports := frontPanelCount (linkNames output.stdout)
    if ports = 0 ∨ d.spec.numPorts < ports then
      throw (.invalidValue
        s!"{d.spec.name}: {ports} front-panel interfaces, expected 1..={d.spec.numPorts}")
    if d.spec.withServers then createServers pid 0 ports : On Device Unit) d l t r d' l') :
    ∃ ports, CarriedOut MakingStep.act (.interfaces :: serverPlan d.spec ports) d t r d' := by
  have looked {u : Trace Host} {x : Except Fault Unit} {output : Output} {l₁ : Ledger}
      (hshow : Attempt.Runs ((NetScope.ofPid pid).ip ["-o", "link", "show"]) l u (.ok output) l₁)
      (hx : On.Runs (do
        let ports := frontPanelCount (linkNames output.stdout)
        if ports = 0 ∨ d.spec.numPorts < ports then
          throw (.invalidValue
            s!"{d.spec.name}: {ports} front-panel interfaces, expected 1..={d.spec.numPorts}") :
        On Device Unit) d l₁ [] x d l₁) : On.Runs MakingStep.interfaces.act d l u x d l₁ := by
    refine On.runs_bind_get_iff.mpr (On.runs_bind_get_iff.mpr ?_)
    rw [hd]
    exact On.runs_bind_lift_iff.mpr
      (.inl ⟨u, [], output, l₁, (List.append_nil u).symm, hshow, hx⟩)
  rcases On.runs_bind_lift_iff.mp hr with
    ⟨u, v, output, l₁, rfl, hshow, hrest⟩ | ⟨e, rfl, rfl, hshow⟩
  · dsimp only at hrest looked
    split at hrest
    case isTrue hports =>
      obtain ⟨rfl, rfl, rfl, rfl⟩ := On.runs_throw_bind_iff.mp hrest
      rw [List.append_nil]
      refine ⟨0, .stopped (looked hshow ?_)⟩
      rw [if_pos hports]
      exact On.runs_throw_iff.mpr ⟨rfl, rfl, rfl, rfl⟩
    case isFalse hports =>
      refine ⟨frontPanelCount (linkNames output.stdout), .step (looked hshow ?_) ?_⟩
      · rw [if_neg hports]
        exact On.runs_pure_iff.mpr ⟨rfl, rfl, rfl, rfl⟩
      · exact carriedOut_serverPlan hd hrest
  · have hstep : On.Runs MakingStep.interfaces.act d' l t (.error e) d' l' := by
      refine On.runs_bind_get_iff.mpr (On.runs_bind_get_iff.mpr ?_)
      rw [hd]
      exact On.runs_bind_lift_iff.mpr (.inr ⟨e, rfl, rfl, hshow⟩)
    exact ⟨0, .stopped hstep⟩

theorem carriedOut_attach (hr : On.Runs attach d l t r d' l') :
    ∃ ports, CarriedOut MakingStep.act (attachPlan d.spec ports) d t r d' := by
  obtain ⟨u, v, isRunning, l₁, rfl, hrunning, hr⟩ :=
    On.runs_bind_liftLab_iff.mp (On.runs_bind_get_iff.mp hr)
  have looked {x : Except Fault Unit} (hx : On.Runs (do
      if !isRunning then
        throw (.provision d.spec.name "no running container to attach to") : On Device Unit)
      d l₁ [] x d l₁) : On.Runs MakingStep.running.act d l u x d l₁ :=
    On.runs_bind_get_iff.mpr (On.runs_bind_liftLab_iff.mpr
      ⟨u, [], isRunning, l₁, (List.append_nil u).symm, hrunning, hx⟩)
  cases isRunning with
  | false =>
    obtain ⟨rfl, rfl, rfl, rfl⟩ := On.runs_throw_bind_iff.mp hr
    rw [List.append_nil]
    exact ⟨0, .stopped (looked (On.runs_throw_iff.mpr ⟨rfl, rfl, rfl, rfl⟩))⟩
  | true =>
    have hstep := looked (On.runs_pure_iff.mpr ⟨rfl, rfl, rfl, rfl⟩)
    rcases CarriedOut.first_or_stopped MakingStep.act (a := .process d.spec.name) (s := d) hr
        (g := fun pid d => { d with pid := some pid }) id with
      ⟨v, w, pid, l₂, rfl, hprocess, hrest⟩ | ⟨e, rfl, hprocess⟩
    · obtain ⟨ports, hports⟩ := carriedOut_interfaces rfl (On.runs_bind_modify_iff.mp hrest)
      exact ⟨ports, .step hstep (.step hprocess hports)⟩
    · exact ⟨0, .step hstep (.stopped hprocess)⟩

/-- The steps for a switch of this kind. -/
def IsPlanOf (plan : List MakingStep) (spec : DeviceSpec) : Prop :=
  if spec.attach then ∃ ports, plan = attachPlan spec ports else plan = provisionPlan spec

theorem carriedOut_making (hr : On.Runs (if spec.attach then attach else provision) d l t r d' l')
    (hd : d.spec = spec) :
    ∃ plan, IsPlanOf plan spec ∧ CarriedOut MakingStep.act plan d t r d' := by
  subst hd
  split at hr
  case isTrue hattach =>
    obtain ⟨ports, h⟩ := carriedOut_attach hr
    exact ⟨_, by rw [IsPlanOf, if_pos hattach]; exact ⟨ports, rfl⟩, h⟩
  case isFalse hown =>
    exact ⟨_, by rw [IsPlanOf, if_neg hown], carriedOut_provision hr⟩

/-! ## Making a switch ready -/

/-- The stages of readiness, and the buffer model that is set in the end. -/
inductive Gate where
  | supervisor
  | databases
  | ports
  | bufferModel

namespace Gate

def all : List Gate := [supervisor, databases, ports, bufferModel]

/-- The databases that were reached are what later stages work with. -/
def act (spec : DeviceSpec) : Gate → On (Option Stores) Unit
  | supervisor => do awaitSupervisor spec
  | databases => do
    let stores ← connectStores spec
    modify fun _ => some stores
  | ports => do
    if let some stores := ← get then awaitPorts spec stores
  | bufferModel => do
    if let some stores := ← get then applyBufferModel spec stores

end Gate

theorem carriedOut_reachReady {x : Except Fault Stores}
    (hr : Attempt.Runs (reachReady spec) l t x l') :
    ∃ reached, CarriedOut (Gate.act spec) Gate.all none t (x.map fun _ => ()) reached := by
  have ran {work : Attempt Unit} {reached : Option Stores} {u : Trace Host} {y : Except Fault Unit}
      {l₁ l₂ : Ledger} (h : Attempt.Runs work l₁ u y l₂) :
      On.Runs (liftM work : On (Option Stores) Unit) reached l₁ u y reached l₂ :=
    On.runs_lift_iff.mpr ⟨rfl, h⟩
  have connected {reached : Option Stores} {u : Trace Host} {stores : Stores} {l₁ l₂ : Ledger}
      (h : Attempt.Runs (connectStores spec) l₁ u (.ok stores) l₂) :
      On.Runs (Gate.act spec .databases) reached l₁ u (.ok ()) (some stores) l₂ :=
    On.runs_bind_lift_iff.mpr (.inl ⟨u, [], stores, l₂, (List.append_nil u).symm, h,
      On.runs_modify_iff.mpr ⟨rfl, rfl, rfl, rfl⟩⟩)
  rcases Attempt.runs_bind_iff.mp hr with ⟨t₁, u₁, ⟨⟩, _, rfl, hfirst, hr₁⟩ | ⟨e, rfl, hfirst⟩
  case inr => exact ⟨none, .stopped (ran hfirst)⟩
  rcases Attempt.runs_bind_iff.mp hr₁ with
    ⟨t₂, u₂, stores, _, rfl, hsecond, hr₂⟩ | ⟨e, rfl, hsecond⟩
  case inr =>
    exact ⟨none, .step (ran hfirst) (.stopped (On.runs_bind_lift_iff.mpr
      (.inr ⟨e, rfl, rfl, hsecond⟩)))⟩
  rcases Attempt.runs_bind_iff.mp hr₂ with ⟨t₃, u₃, ⟨⟩, _, rfl, hthird, hr₃⟩ | ⟨e, rfl, hthird⟩
  case inr =>
    exact ⟨some stores, .step (ran hfirst) (.step (connected hsecond) (.stopped (ran hthird)))⟩
  rcases Attempt.runs_bind_iff.mp hr₃ with ⟨t₄, u₄, ⟨⟩, _, rfl, hfourth, hr₄⟩ | ⟨e, rfl, hfourth⟩
  case inr =>
    exact ⟨some stores, .step (ran hfirst) (.step (connected hsecond) (.step (ran hthird)
      (.stopped (ran hfourth))))⟩
  obtain ⟨rfl, rfl, rfl⟩ := Attempt.runs_pure_iff.mp hr₄
  exact ⟨some stores, .step (ran hfirst) (.step (connected hsecond) (.step (ran hthird)
    (.step (ran hfourth) (.done _))))⟩

/-! ## The end of a switch -/

/-- All that is done when a failure ends the switch. Its logs are asked for, which removes nothing,
and then each step of its teardown is tried, in order and once. -/
def TakenDown (d : Device) (t : Trace Host) (d' : Device) : Prop :=
  d'.Gone ∧ d'.made = d.made ∧ ∃ u v l₁ l₂ failures, t = u ++ v ∧
    Lab.Runs d.captureLogs l₁ u () l₂ ∧ Spares u ∧
    Attempted Query.IsKilling d.teardownSteps v failures ∧
    removals v = d.teardownSteps.map (Query.run ·.command)

theorem Ended.takenDown (h : d.Ended t d') (hd : d.state ≠ .destroyed) : d.TakenDown t d' := by
  obtain ⟨u, v, l₁, l₂, l₃, r, rfl, hlogs, hdestroy⟩ := h
  have logs : Spares u := ((asks_captureLogs allows_spares.containers).of_runs hlogs).1
  obtain ⟨htorn, hmade, hgone⟩ := runs_destroy hdestroy
  have hremovals := htorn.removals hd
  rw [TornDown, if_neg hd] at htorn
  rw [if_neg hd] at hgone
  obtain ⟨failures, hattempted, -⟩ := htorn
  exact ⟨hgone, hmade, u, v, l₁, l₂, failures, rfl, hlogs, logs, hattempted, hremovals⟩

theorem Making.nodup_teardownSteps (h : Making spec d t) :
    (d.teardownSteps.map (·.command)).Nodup := by
  rw [h.alive.teardownSteps_eq]
  exact h.nodup_steps.sublist (List.Sublist.map _ backSteps_sublist)

/-! ## Restarts -/

/-- The command that restarts a switch, and how a fault shows it. -/
def restartCall (d : Device) : Command × String :=
  if d.spec.attach then
    (⟨"docker", ["exec", d.name, "bash", "-c", "supervisorctl restart all"]⟩,
      "supervisorctl restart all")
  else (⟨"docker", ["restart", d.name]⟩, Command.render ⟨"docker", ["restart", d.name]⟩)

theorem calls_restartCommand : Attempt.Calls d.restartCommand d.restartCall.1 fun reply =>
    (checked d.restartCall.2 reply).map fun _ => () := by
  rw [restartCommand, restartCall]
  split
  case isTrue =>
    have shell : Attempt.Calls (Container.shell d.name "supervisorctl restart all")
        ⟨"docker", ["exec", d.name, "bash", "-c", "supervisorctl restart all"]⟩ id := calls_run
    have judged := (shell.bind (·.orFault "supervisorctl restart all")).discard
    rwa [bind_assoc] at judged
  case isFalse => exact Container.calls_docker.discard

/-- The command that restarts the switch comes first. If it fails, nothing else is done. -/
theorem runs_restart_failed (habsent : d.state ≠ .absent) (hd : d.state ≠ .destroyed)
    (hr : On.Runs restart d l t r d' l') :
    ∃ reply rest, t = d.restartCall.1.ran reply :: rest ∧
      ∀ fault, checked d.restartCall.2 reply = .error fault → rest = [] ∧ r = .error fault ∧
        l' = l ∧ d' = { d with stores := none, state := .checkingReadiness } := by
  rcases runs_restart_cases hr with ⟨hs, -⟩ |
    ⟨-, -, ⟨fault, rfl, hcommand, rfl⟩ | ⟨u, v, l₁, rfl, hcommand, -⟩⟩
  · rcases hs with hs | hs
    · exact absurd hs habsent
    · exact absurd hs hd
  · obtain ⟨reply, rfl, rfl, hreply⟩ := (calls_restartCommand _ _ _ _).mp hcommand
    refine ⟨reply, [], rfl, fun fault hfault => ⟨rfl, hreply.trans ?_, rfl, rfl⟩⟩
    dsimp only
    rw [hfault]
    rfl
  · obtain ⟨reply, rfl, -, hreply⟩ := (calls_restartCommand _ _ _ _).mp hcommand
    refine ⟨reply, v, rfl, fun fault hfault => ?_⟩
    dsimp only at hreply
    rw [hfault] at hreply
    cases hreply

/-! ## Which fault is reported -/

/-- Whatever the host answers: a switch that cannot be made, or does not become ready, reports the
fault of the first step that failed, and is then taken down, each step of its teardown once. If it
cannot be restarted, it reports that, and nothing is taken down: it can become ready later. -/
theorem failures_reported :
    (∀ {spec l t fault l'}, Attempt.Runs (create spec) l t (.error fault) l' →
      ∃ plan u v d d', IsPlanOf plan spec ∧ t = u ++ v ∧
        CarriedOut MakingStep.act plan { absent spec with state := .creating } u (.error fault) d ∧
        (d.teardownSteps.map (·.command)).Nodup ∧ d.TakenDown v d' ∧
        On.Runs setUp (absent spec) l t (.error fault) d' l') ∧
    (∀ {d l t fault d' l'}, d.state = .creating ∨ d.state = .checkingReadiness →
      On.Runs checkReady d l t (.error fault) d' l' →
      ∃ u v reached, t = u ++ v ∧
        CarriedOut (Gate.act d.spec) Gate.all none u (.error fault) reached ∧
        TakenDown { d with state := .checkingReadiness } v d') ∧
    ∀ {d l t r d' l'}, d.state ≠ .absent → d.state ≠ .destroyed →
      On.Runs restart d l t r d' l' →
      ∃ reply rest, t = d.restartCall.1.ran reply :: rest ∧
        ∀ fault, checked d.restartCall.2 reply = .error fault →
          r = .error fault ∧ d' = { d with stores := none, state := .checkingReadiness } ∧
          rest = [] ∧ Spares t ∧
          ∀ {l u stores l'}, Attempt.Runs (reachReady d.spec) l u (.ok stores) l' →
            On.Runs checkReady d' l u (.ok ()) { d' with stores := some stores, state := .ready }
              l' := by
  refine ⟨fun {spec l t fault l'} hr => ?_, fun {d l t fault d' l'} hs hr => ?_,
    fun {d l t r d' l'} habsent hd hr => ?_⟩
  · obtain ⟨x, d', hsetUp, hx⟩ := runs_create hr
    cases x with
    | ok a => cases hx
    | error e =>
      cases hx
      rcases runs_orDestroy_cases (runs_setUp_iff.mp hsetUp) with
        ⟨_, hx, -⟩ | ⟨_, u, v, d, _, hx, rfl, hwork, hend⟩
      · cases hx
      · cases hx
        have making := making_of_work hwork
        obtain ⟨plan, hplan, hcarried⟩ := carriedOut_making hwork rfl
        exact ⟨plan, u, v, d, d', hplan, rfl, hcarried, making.nodup_teardownSteps,
          hend.takenDown making.alive.held, hsetUp⟩
  · rcases runs_checkReady_cases hr with ⟨hready, -⟩ | ⟨hnot, -⟩ |
      ⟨-, ⟨_, -, hx, -⟩ | ⟨_, u, v, _, hx, rfl, hreach, hend⟩⟩
    · rcases hs with hs | hs <;> simp [hs] at hready
    · rcases hs with hs | hs <;> simp [hs] at hnot
    · cases hx
    · cases hx
      obtain ⟨reached, hcarried⟩ := carriedOut_reachReady hreach
      exact ⟨u, v, reached, rfl, hcarried, hend.takenDown nofun⟩
  · obtain ⟨reply, rest, rfl, hfailed⟩ := runs_restart_failed habsent hd hr
    refine ⟨reply, rest, rfl, fun fault hfault => ?_⟩
    obtain ⟨rfl, rfl, -, rfl⟩ := hfailed fault hfault
    have spares : Spares [d.restartCall.1.ran reply] :=
      spares_restartCommand ((calls_restartCommand l _ _ l).mpr ⟨reply, rfl, rfl, rfl⟩)
    exact ⟨rfl, rfl, rfl, spares,
      fun {l u stores l'} hreach => runs_checkReady_of (.inr rfl) hreach⟩

end Device

end SwitchLab

/-! ## Three failures

The switch with the late port cannot be started, nobody can look at its supervisor, or it cannot be
restarted. When it is taken down, there are no logs, and the directory cannot be removed. -/

namespace SwitchLab.LatePort

open Device

def ending : Trace Host :=
  Command.ran ⟨"docker", ["logs", "dut"]⟩ (.ok ⟨1, "", "Error: No such container: dut"⟩) :: teardown

def unstarted : Trace Host :=
  making.dropLast ++
    Command.ran ⟨"docker", ["start", "dut"]⟩ (.ok ⟨1, "", "cannot start dut"⟩) :: ending

def notStarted : Fault := .command "docker start dut" 1 "cannot start dut"

theorem runs_create_unstarted :
    Attempt.Runs (create spec) .empty unstarted (.error notStarted) .empty :=
  Dialogue.runs_of_replay (by decide +kernel)

def unwatched : Trace Host :=
  [⟨.now, .zero⟩, ⟨.run ⟨"docker", ["exec", "dut", "bash", "-c", "supervisorctl status"]⟩,
    (.error (.io "docker: not found") : Except Fault Output)⟩, ⟨.now, .ofSecs 120⟩] ++ ending

def timedOut : Fault :=
  .pollTimeout "dut supervisor daemons" (.ofSecs 120) "[\"io error: docker: not found\"]"

theorem runs_checkReady_unwatched :
    On.Runs checkReady madeDevice .empty unwatched (.error timedOut) goneDevice .empty :=
  Dialogue.runs_of_replay (by decide +kernel)

def notRestarted : Except Fault Output := .ok ⟨1, "", "cannot restart dut"⟩

def haltedDevice : Device := { madeDevice with state := .checkingReadiness }

theorem runs_restart_halted : On.Runs restart madeDevice .empty
    [Command.ran ⟨"docker", ["restart", "dut"]⟩ notRestarted]
    (.error (.command "docker restart dut" 1 "cannot restart dut")) haltedDevice .empty :=
  Dialogue.runs_of_replay (by decide +kernel)

/-- Of the switch that could not be restarted all is still there, and it becomes ready after all. -/
theorem lateFailures_reported :
    (Attempt.Runs (create spec) .empty unstarted (.error notStarted) .empty ∧
      ∃ plan u v d d', IsPlanOf plan spec ∧ unstarted = u ++ v ∧ CarriedOut MakingStep.act plan
        { absent spec with state := .creating } u (.error notStarted) d ∧ d.TakenDown v d') ∧
    (On.Runs checkReady madeDevice .empty unwatched (.error timedOut) goneDevice .empty ∧
      ∃ u v reached, unwatched = u ++ v ∧ CarriedOut (Gate.act spec) Gate.all none u
        (.error timedOut) reached ∧ haltedDevice.TakenDown v goneDevice) ∧
    On.Runs restart madeDevice .empty
      [Command.ran ⟨"docker", ["restart", "dut"]⟩ notRestarted]
      (.error (.command "docker restart dut" 1 "cannot restart dut")) haltedDevice .empty ∧
    On.Runs checkReady haltedDevice .empty trace (.ok ())
      { haltedDevice with stores := some stores, state := .ready } ledger := by
  obtain ⟨plan, u, v, d, d', hplan, htrace, hcarried, -, htaken, -⟩ :=
    failures_reported.1 runs_create_unstarted
  have hdown := failures_reported.2.1 (d := madeDevice) (.inl rfl) runs_checkReady_unwatched
  obtain ⟨reply, rest, hx, hfailed⟩ :=
    failures_reported.2.2 (by decide) (by decide) runs_restart_halted
  obtain ⟨-, rfl⟩ := Command.ran_inj.mp (List.cons.inj hx).1
  obtain ⟨-, -, -, -, hlater⟩ :=
    hfailed (.command "docker restart dut" 1 "cannot restart dut") (by decide +kernel)
  exact ⟨⟨runs_create_unstarted, plan, u, v, d, d', hplan, htrace, hcarried, htaken⟩,
    ⟨runs_checkReady_unwatched, hdown⟩,
    runs_restart_halted, hlater runs_reachReady⟩

end SwitchLab.LatePort
