import SwitchLab.Proofs.Ordering
import SwitchLab.Proofs.Teardown

/-! The operations of a switch that was made, and what each of them can do to
it. All later reasoning about what becomes of a switch goes by these cases. -/

namespace SwitchLab

variable {l l' : Ledger} {t : Trace Host} {P : Query → Prop}

/-! ## Operations -/

/-- What a caller may do with a server of a switch, short of destroying it. -/
inductive ServerJob where
  | runShell (script : String)
  | spawnShell (script : String)
  | killAll
  | setIpv6 (on : Bool)
  | setArp (on : Bool)
  | addAddress (cidr : String)
  | ping (address : String) (count : Nat)

def ServerJob.act : ServerJob → On VirtualServer Unit
  | runShell script => do let _ ← (← get).runShell script
  | spawnShell script => do let _ ← VirtualServer.spawnShell script
  | killAll => VirtualServer.killAll
  | setIpv6 on => do (← get).setIpv6 on
  | setArp on => do (← get).setArp on
  | addAddress cidr => do (← get).addAddress cidr
  | ping address count => do let _ ← (← get).ping address count

/-- The name of the operation that gives access to a database. -/
def StoreName.accessor : StoreName → String
  | appl => "app_db"
  | asic => "asic_db"
  | counters => "counters_db"
  | config => "config_db"
  | flex => "flex_db"
  | state => "state_db"

namespace Device

/-- Asks for the handle of a database. -/
def access (d : Device) : StoreName → Attempt Unit
  | .appl => do let _ ← d.appDb
  | .asic => do let _ ← d.asicDb
  | .counters => do let _ ← d.countersDb
  | .config => do let _ ← d.configDb
  | .flex => do let _ ← d.flexDb
  | .state => do let _ ← d.stateDb

inductive Operation where
  | checkReady
  | restart
  | destroy
  | detach
  | networkCleanup
  | access (store : StoreName)
  | setInterfaceAdmin (port : String) (isUp : Bool)
  | addIpAddress (port cidr : String)
  | runShell (script : String)
  | logs
  | saveLogs (dir : String)
  | server (index : Nat) (job : ServerJob)

namespace Operation

def act : Operation → On Device Unit
  | checkReady => Device.checkReady
  | restart => Device.restart
  | destroy => Device.destroy
  | detach => modify Device.detach
  | networkCleanup => do let _ ← (← get).networkCleanup
  | access store => do (← get).access store
  | setInterfaceAdmin port isUp => do (← get).setInterfaceAdmin port isUp
  | addIpAddress port cidr => do (← get).addIpAddress port cidr
  | runShell script => do let _ ← (← get).runShell script
  | logs => do let _ ← (← get).logs
  | saveLogs dir => do let _ ← (← get).saveLogs dir
  | server index job => do
    if let some s := (← get).servers[index]? then
      On.part (fun _ => s) (fun s d => { d with servers := d.servers.set index s }) job.act

/-- The operations after which a switch is no longer as ready as before. -/
def interrupts : Operation → Bool
  | restart | destroy | detach => true
  | _ => false

end Operation

/-! ## Access to databases -/

theorem access_eq {d : Device} {store : StoreName} : d.access store =
    d.stores.elim (throw (d.refuse store.accessor)) fun _ => pure () := by
  cases store <;> cases h : d.stores <;>
    simp only [access, appDb, asicDb, countersDb, configDb, flexDb, stateDb, storesFor, h] <;> rfl

theorem runs_access_iff {d : Device} {store : StoreName} {r : Except Fault Unit} :
    Attempt.Runs (d.access store) l t r l' ↔
      t = [] ∧ r = d.stores.elim (.error (d.refuse store.accessor)) (fun _ => .ok ()) ∧ l' = l := by
  rw [access_eq]
  cases d.stores with
  | none => exact Attempt.runs_throw_iff
  | some stores => exact Attempt.runs_pure_iff

/-! ## What the operations ask -/

section Asks

/-- A switch that was attached to is restarted from within. -/
theorem asks_restartCommand {d : Device} (hP : AllowsContainers P)
    (h : d.spec.attach = false → P (.run ⟨"docker", ["restart", d.name]⟩)) :
    Attempt.Asks P d.restartCommand := by
  rw [restartCommand]
  split
  case isTrue =>
    refine (asks_shell hP).bind fun output => ?_
    exact Attempt.Asks.bind (.mk .pure) fun _ => .pure
  case isFalse hown => exact asks_restart (h (Bool.not_eq_true _ ▸ hown))

theorem asks_networkCleanup {d : Device} (hP : AllowsRuns P)
    (h : ∀ pid link, P (.run ((NetScope.ofPid pid).enter ⟨"ip", ["link", "del", link]⟩))) :
    Attempt.Asks P d.networkCleanup := by
  rw [networkCleanup]
  split
  · exact .throw
  · refine (NetScope.asks_ip_of (hP _ rfl)).bind fun output => ?_
    refine (Attempt.Asks.forIn fun link => ?_).bind fun _ => .pure
    exact NetScope.asks_deleteLink_of (h _ link)

variable (hs : AllowsStores P)

include hs

theorem asks_putEntry {h : Handle} {table key : String} {fields : FieldValues} :
    Attempt.Asks P (h.putEntry table key fields) := .mk (Lab.asks_ask (hs _ rfl))

omit hs in
theorem asks_configDb {d : Device} : Attempt.Asks P d.configDb := by
  rw [configDb, storesFor]
  cases d.stores with
  | none => exact .throw_bind
  | some stores => exact .pure

theorem asks_setInterfaceAdmin {d : Device} {port : String} {isUp : Bool} :
    Attempt.Asks P (d.setInterfaceAdmin port isUp) :=
  asks_configDb.bind fun _ => asks_putEntry hs

theorem asks_addIpAddress {d : Device} {port cidr : String} :
    Attempt.Asks P (d.addIpAddress port cidr) :=
  asks_configDb.bind fun _ => (asks_putEntry hs).bind fun _ => asks_putEntry hs

end Asks

/-! ## Operations that leave a switch as it is -/

/-- All is as before, but for the processes of the servers. -/
structure Alike (d d' : Device) : Prop where
  state : d'.state = d.state
  stores : d'.stores = d.stores
  made : d'.made = d.made
  destroyed : d'.servers.map (·.destroyed) = d.servers.map (·.destroyed)

theorem Alike.refl (d : Device) : Alike d d := ⟨rfl, rfl, rfl, rfl⟩

/-- A job leaves a server what it is. -/
theorem keeps_job (hP : AllowsUse P) (job : ServerJob) (s : VirtualServer) :
    On.Keeps P (fun s' => s'.made = s.made ∧ s'.destroyed = s.destroyed) job.act := by
  cases job with
  | runShell script =>
    refine On.Keeps.bind_get fun s _ => ?_
    have shell : Attempt.Asks P (s.runShell script) := asks_run (hP _ rfl rfl)
    exact On.Keeps.bind_lift shell fun _ _ => .pure
  | spawnShell script =>
    refine On.Keeps.bind (On.Keeps.bind_get fun s _ => ?_) fun _ => .pure
    have spawn : Attempt.Asks P (s.ns.spawnShell script) :=
      Attempt.Asks.mk (Lab.asks_ask (hP _ rfl rfl))
    exact On.Keeps.bind_lift spawn fun pid _ => On.Keeps.bind (.modify fun _ h => h) fun _ => .pure
  | killAll =>
    have kill := VirtualServer.keeps_killAll (K := fun s' : VirtualServer =>
      s'.made = s.made ∧ s'.destroyed = s.destroyed) (fun _ h => h)
    exact .liftState fun s' hs => (kill s' hs).mono (fun _ hq => hP.killing hq) fun _ h => h
  | setIpv6 on => exact On.Keeps.bind_get fun s _ => .lift (NetScope.asks_setIpv6 hP.runs)
  | setArp on => exact On.Keeps.bind_get fun s _ => .lift (NetScope.asks_setArp hP.runs)
  | addAddress cidr => exact On.Keeps.bind_get fun s _ => .lift (NetScope.asks_addAddress hP.runs)
  | ping address count =>
    refine On.Keeps.bind_get fun s _ => ?_
    have ping : Attempt.Asks P (s.ping address count) :=
      (asks_run (hP _ rfl rfl)).bind fun _ => .pure
    exact On.Keeps.bind_lift ping fun _ _ => .pure

/-- Putting a server back that is what it was changes nothing. -/
theorem Alike.setServer {d d₀ d' : Device} {index : Nat} {s s' : VirtualServer}
    (h : Alike d d₀) (hs : d₀.servers[index]? = some s) (hmade : s'.made = s.made)
    (hdestroyed : s'.destroyed = s.destroyed) (h' : Alike d d') :
    Alike d { d' with servers := d'.servers.set index s' } := by
  have same {β : Type} {f : VirtualServer → β} (hf : f s' = f s)
      (hd : d'.servers.map f = d.servers.map f) (hd₀ : d₀.servers.map f = d.servers.map f) :
      (d'.servers.set index s').map f = d.servers.map f := by
    have hget : (d.servers.map f)[index]? = some (f s) := by
      rw [← hd₀, List.getElem?_map, hs]
      rfl
    obtain ⟨hi, he⟩ := List.getElem?_eq_some_iff.mp hget
    rw [List.map_set, hd, hf, ← he, List.set_getElem_self]
  have hservers : d'.servers.map (·.made) = d.servers.map (·.made) :=
    congrArg Device.servers h'.made
  have hservers₀ : d₀.servers.map (·.made) = d.servers.map (·.made) :=
    congrArg Device.servers h.made
  refine ⟨h'.state, h'.stores, ?_, same hdestroyed h'.destroyed h.destroyed⟩
  calc ({ d' with servers := d'.servers.set index s' } : Device).made
      = { d'.made with servers := (d'.servers.set index s').map (·.made) } := rfl
    _ = { d.made with servers := d.servers.map (·.made) } := by
      rw [same hmade hservers hservers₀, h'.made]
    _ = d.made := rfl

/-- The operations that only look at a switch, or work on its host, databases and servers. -/
theorem keeps_alike (hP : AllowsUse P) (hs : AllowsStores P) {op : Operation} {d : Device}
    (hop : op.interrupts = false) (hcheck : op ≠ .checkReady)
    (hclean : op = .networkCleanup → ∀ pid link,
      P (.run ((NetScope.ofPid pid).enter ⟨"ip", ["link", "del", link]⟩))) :
    On.Keeps P (Alike d) op.act := by
  cases op with
  | checkReady => exact absurd rfl hcheck
  | restart | destroy | detach => cases hop
  | networkCleanup =>
    exact On.Keeps.bind_get fun d _ =>
      On.Keeps.bind_lift (asks_networkCleanup hP.runs (hclean rfl)) fun _ _ => .pure
  | access store =>
    refine On.Keeps.bind_get fun d _ => .lift ?_
    rw [access_eq]
    cases d.stores with
    | none => exact .throw
    | some stores => exact .pure
  | setInterfaceAdmin port isUp =>
    exact On.Keeps.bind_get fun d _ => .lift (asks_setInterfaceAdmin hs)
  | addIpAddress port cidr => exact On.Keeps.bind_get fun d _ => .lift (asks_addIpAddress hs)
  | runShell script =>
    exact On.Keeps.bind_get fun d _ =>
      On.Keeps.bind_lift (asks_shell hP.containers) fun _ _ => .pure
  | logs =>
    exact On.Keeps.bind_get fun d _ =>
      On.Keeps.bind_lift (asks_logs hP.containers) fun _ _ => .pure
  | saveLogs dir =>
    exact On.Keeps.bind_get fun d _ =>
      On.Keeps.bind_lift (asks_saveLogs hP.containers) fun _ _ => .pure
  | server index job =>
    refine On.Keeps.bind_get fun d₀ h => ?_
    split
    case h_1 s hserver =>
      refine On.Keeps.part (keeps_job hP job s) (fun _ _ => ⟨rfl, rfl⟩) fun d' s' h' hs' => ?_
      exact h.setServer hserver hs'.1 hs'.2 h'
    case h_2 => exact .pure

/-! ## What becomes of a switch -/

/-- What an operation can do to a switch. -/
inductive Outcome (op : Operation) (d : Device) :
    Trace Host → Except Fault Unit → Device → Prop where
  /-- It stays what it is. -/
  | kept {t : Trace Host} {r : Except Fault Unit} {d' : Device} :
    Spares t → Alike d d' → (op = .restart → d.state ≠ .ready) → Outcome op d t r d'
  /-- It is ready, after all stages. -/
  | passed {t : Trace Host} {stores : Stores} :
    (op = .checkReady ∨ op = .restart) → d.state ≠ .destroyed → Spares t →
    InOrder (statusMilestones d.spec ++ storeMilestones d.spec ++ portMilestones d.spec) t →
    Outcome op d t (.ok ()) { d with stores := some stores, state := .ready }
  /-- It could not be restarted. -/
  | halted {t : Trace Host} {r : Except Fault Unit} :
    op = .restart → d.state ≠ .destroyed → Spares t →
    Outcome op d t r { d with stores := none, state := .checkingReadiness }
  | detached : op = .detach → Outcome op d [] (.ok ()) d.detach
  /-- It is torn down. -/
  | tornDown {u v : Trace Host} {r : Except Fault Unit} {d' : Device} {failures : List String} :
    d.state ≠ .destroyed → (d.state = .ready → op.interrupts = true) → Spares u →
    Attempted Query.IsKilling d.teardownSteps v failures → d'.Gone → d'.made = d.made →
    Outcome op d (u ++ v) r d'

theorem spares_reachReady {spec : DeviceSpec} {r : Except Fault Stores}
    (hr : Attempt.Runs (reachReady spec) l t r l') : Spares t :=
  ((asks_reachReady allows_spares.containers allowsStores_spares).of_runs hr).1

theorem Outcome.of_destroy {op : Operation} {d d₁ d' : Device} {u v : Trace Host}
    {r r' : Except Fault Unit} (hd : d.state ≠ .destroyed)
    (hop : d.state = .ready → op.interrupts = true) (hu : Spares u)
    (hd₁ : d₁.state ≠ .destroyed) (hsteps : d₁.teardownSteps = d.teardownSteps)
    (hmade : d₁.made = d.made) (hr : On.Runs Device.destroy d₁ l v r' d' l') :
    Outcome op d (u ++ v) r d' := by
  obtain ⟨htorn, hmade', hgone⟩ := runs_destroy hr
  rw [TornDown, if_neg hd₁] at htorn
  rw [if_neg hd₁] at hgone
  obtain ⟨failures, hattempted, -⟩ := htorn
  rw [hsteps] at hattempted
  exact .tornDown hd hop hu hattempted hgone (hmade'.trans hmade)

theorem Ended.outcome {op : Operation} {d d₁ d' : Device} {u v : Trace Host}
    {r : Except Fault Unit} (h : d₁.Ended v d') (hd : d.state ≠ .destroyed)
    (hop : d.state = .ready → op.interrupts = true) (hu : Spares u)
    (hd₁ : d₁.state ≠ .destroyed) (hsteps : d₁.teardownSteps = d.teardownSteps)
    (hmade : d₁.made = d.made) : Outcome op d (u ++ v) r d' := by
  obtain ⟨w, x, l₁, l₂, l₃, r', rfl, hlogs, hdestroy⟩ := h
  have hw : Spares w := ((asks_captureLogs allows_spares.containers).of_runs hlogs).1
  rw [← List.append_assoc]
  exact .of_destroy hd hop (hu.append hw) hd₁ hsteps hmade hdestroy

theorem spares_restartCommand {d : Device} {r : Except Fault Unit}
    (hr : Attempt.Runs d.restartCommand l t r l') : Spares t :=
  ((asks_restartCommand allows_spares.containers fun _ => rfl).of_runs hr).1

theorem outcome_restart {d d' : Device} {r : Except Fault Unit}
    (hr : On.Runs Device.restart d l t r d' l') : Outcome .restart d t r d' := by
  rcases runs_restart_cases hr with ⟨hs, rfl, rfl⟩ |
    ⟨habsent, hd, ⟨fault, rfl, hcommand, rfl⟩ | ⟨u, v, l₁, rfl, hcommand, hcheck⟩⟩
  · refine .kept Spares.nil (.refl _) fun _ hready => ?_
    rcases hs with hs | hs <;> simp [hs] at hready
  · exact .halted rfl hd (spares_restartCommand hcommand)
  · have hu : Spares u := spares_restartCommand hcommand
    -- the switch is not ready when the stages begin
    rcases runs_checkReady_cases hcheck with ⟨hs, -⟩ | ⟨hs | hs, -⟩ |
      ⟨-, ⟨stores, hreach, rfl, rfl⟩ | ⟨fault, w, x, l₂, rfl, rfl, hreach, hend⟩⟩
    · cases hs
    · cases hs
    · cases hs
    · exact .passed (.inr rfl) hd (hu.append (spares_reachReady hreach))
        (reachReady_inOrder hreach).1.before
    · rw [← List.append_assoc]
      exact hend.outcome hd (fun _ => rfl) (hu.append (spares_reachReady hreach)) (by simp) rfl rfl

/-- Every operation does one of these. -/
theorem act_outcome {op : Operation} {d d' : Device} {r : Except Fault Unit}
    (hr : On.Runs op.act d l t r d' l') : Outcome op d t r d' := by
  by_cases hcheck : op = .checkReady
  · subst hcheck
    rcases runs_checkReady_cases hr with ⟨hs, rfl, rfl, rfl⟩ | ⟨hs, rfl, rfl, rfl⟩ |
      ⟨hs, ⟨stores, hreach, rfl, rfl⟩ | ⟨fault, u, v, l₁, rfl, rfl, hreach, hend⟩⟩
    · exact .kept Spares.nil (.refl _) fun h => by cases h
    · exact .kept Spares.nil (.refl _) fun h => by cases h
    · refine .passed (.inl rfl) ?_ (spares_reachReady hreach) (reachReady_inOrder hreach).1
      rcases hs with hs | hs <;> simp [hs]
    · refine hend.outcome ?_ (fun hready => ?_) (spares_reachReady hreach) (by simp) rfl rfl
      · rcases hs with hs | hs <;> simp [hs]
      · rcases hs with hs | hs <;> simp [hs] at hready
  · cases hop : op.interrupts with
    | false =>
      obtain ⟨hspares, halike⟩ :=
        (keeps_alike allows_spares.use allowsStores_spares hop hcheck (fun _ _ _ => rfl) d
          (.refl d)).of_runs hr
      exact .kept hspares halike fun h => by simp [h, Operation.interrupts] at hop
    | true =>
      cases op with
      | restart => exact outcome_restart hr
      | destroy =>
        by_cases hd : d.state = .destroyed
        · obtain ⟨htorn, -, hsame⟩ := runs_destroy hr
          rw [TornDown, if_pos hd] at htorn
          rw [if_pos hd] at hsame
          obtain ⟨rfl, -⟩ := htorn
          rw [hsame]
          exact .kept Spares.nil (.refl _) fun h => by cases h
        · exact .of_destroy hd (fun _ => rfl) Spares.nil hd rfl rfl hr
      | detach =>
        obtain ⟨rfl, rfl, rfl, -⟩ := On.runs_modify_iff.mp hr
        exact .detached rfl
      | _ => cases hop

end Device

end SwitchLab
