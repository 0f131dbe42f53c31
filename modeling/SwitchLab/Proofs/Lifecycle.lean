import SwitchLab.Proofs.Polling
import SwitchLab.Proofs.Requests

/-! What a switch asks of the host when it is made, becomes ready and is torn
down. All of it leaves the spec of the switch as it is. -/

namespace SwitchLab

variable {P : Query → Prop} {α : Type} {spec : DeviceSpec}

/-- `P` allows the commands that make and remove the shared directory of a switch. -/
structure AllowsDirectory (P : Query → Prop) (spec : DeviceSpec) : Prop where
  make : P (.run ⟨"mkdir", ["-p", spec.mountDir]⟩)
  remove : P (.run ⟨"rm", ["-rf", spec.mountDir]⟩)

/-- `P` allows the calls of databases too. -/
def AllowsStores (P : Query → Prop) : Prop := ∀ q : Query, q.isStoreCall = true → P q

theorem allowsStores_spares : AllowsStores fun q => q.removes = false := by
  intro q hq
  cases q <;> first | rfl | cases hq

namespace Device

def HasSpec (spec : DeviceSpec) (d : Device) : Prop := d.spec = spec

/-! ## Logs -/

section Logs

variable (hP : AllowsContainers P)

include hP

theorem asks_logs {d : Device} : Attempt.Asks P d.logs := SwitchLab.asks_logs hP

theorem asks_saveLogs {d : Device} {dir : String} : Attempt.Asks P (d.saveLogs dir) := by
  refine Attempt.Asks.bind (.mk (Lab.asks_ask (hP.makeDirectory _))) fun _ => ?_
  refine (asks_logs hP).bind fun text => ?_
  refine Attempt.Asks.bind (.mk (Lab.asks_ask (hP.writeFile _ _))) fun _ => ?_
  exact (asks_copyOut hP).result.bind fun _ => .pure

theorem asks_captureLogs {d : Device} : Lab.Asks P d.captureLogs := by
  rw [captureLogs]
  split
  · exact (asks_saveLogs hP).outcome.bind fun _ => .pure
  · exact (asks_logs hP).outcome.bind fun _ => .pure

end Logs

/-! ## Teardown -/

variable (hP : AllowsRemoval P)

include hP

theorem asks_removeContainers {d : Device} (hd : P (.run ⟨"rm", ["-rf", d.spec.mountDir]⟩)) :
    Lab.Asks P d.removeContainers := by
  have remove (name : String) :
      Lab.Asks P (Cleanup.step s!"remove {name}" (Container.remove name)) :=
    asks_step (asks_remove (hP.container name))
  have directory : Lab.Asks P (Cleanup.step s!"remove {d.spec.mountDir}" do
      let _ ← Host.check ⟨"rm", ["-rf", d.spec.mountDir]⟩) :=
    asks_step ((asks_check hd).bind fun _ => .pure)
  rw [removeContainers]
  cases d.holder with
  | none => exact (remove _).bind fun _ => Lab.Asks.pure.bind fun _ => directory.bind fun _ => .pure
  | some holder =>
    exact (remove _).bind fun _ => (remove _).bind fun _ => directory.bind fun _ => .pure

theorem asks_destroyServers {servers : List VirtualServer} :
    Lab.Asks P (destroyServers servers) := by
  induction servers with
  | nil => exact .pure
  | cons s rest ih =>
    rw [destroyServers]
    refine ((VirtualServer.keeps_destroy hP s trivial).asks).bind fun x => ?_
    refine (asks_step (.mk .pure)).bind fun _ => ?_
    exact ih.bind fun _ => .pure

variable (hd : AllowsDirectory P spec)

include hd

theorem keeps_destroy : On.Keeps P (HasSpec spec) destroy := by
  refine On.Keeps.bind_get fun d hs => ?_
  split
  · exact .pure
  · have hm : P (.run ⟨"rm", ["-rf", d.spec.mountDir]⟩) := by
      rw [show d.spec = spec from hs]
      exact hd.remove
    refine On.Keeps.bind (.modify fun _ h => h) fun _ => ?_
    dsimp only
    split
    case' isTrue => refine On.Keeps.bind .pure fun _ => ?_
    case' isFalse => refine On.Keeps.liftLab (asks_removeContainers hP hm) fun _ _ => ?_
    -- the servers go whether there was a container to remove or not
    all_goals
      refine On.Keeps.liftLab (asks_destroyServers hP) fun _ _ => ?_
      exact On.Keeps.bind (.modify fun _ h => h) fun _ => .mk_pure

theorem asks_drop {d : Device} (hs : HasSpec spec d) : Lab.Asks P d.drop := by
  rw [drop]
  split
  · exact (keeps_destroy hP hd d hs).asks.bind fun _ => .pure
  · exact .pure

/-- What is done about a failure. -/
theorem keeps_afterFailure {fault : Fault} :
    On.Keeps P (HasSpec spec) (do
      (← get).captureLogs
      let _ ← destroy.result
      throw fault : On Device α) := by
  refine On.Keeps.bind_get fun d _ => ?_
  refine On.Keeps.liftLab (asks_captureLogs hP.toAllows.containers) fun _ _ => ?_
  exact On.Keeps.bind (keeps_destroy hP hd).result fun _ => .throw

theorem keeps_orDestroy {work : On Device α} (hw : On.Keeps P (HasSpec spec) work) :
    On.Keeps P (HasSpec spec) (orDestroy work) := by
  refine On.Keeps.bind hw.result fun r => ?_
  cases r with
  | ok a => exact .pure
  | error fault => exact keeps_afterFailure hP hd

/-! ## Making a switch -/

section Making

omit hP hd

theorem keeps_createServers {K : Device → Prop} {pid index count : Nat} (hS : AllowsServers P)
    (hK : ∀ d s, K d → K { d with servers := d.servers ++ [s] }) :
    On.Keeps P K (createServers pid index count) := by
  induction count generalizing index with
  | zero => exact .pure
  | succ count ih =>
    rw [createServers]
    refine On.Keeps.bind_get fun d _ => ?_
    refine On.Keeps.bind_lift (VirtualServer.asks_create hS.toAllows (hS.netns _)) fun s _ => ?_
    exact On.Keeps.bind (.modify fun d h => hK d s h) fun _ => ih

theorem keeps_attach (hC : AllowsContainers P) (hS : spec.withServers = true → AllowsServers P)
    (hshow : ∀ pid, P (.run ((NetScope.ofPid pid).enter ⟨"ip", ["-o", "link", "show"]⟩))) :
    On.Keeps P (HasSpec spec) attach := by
  refine On.Keeps.bind_get fun d hs => On.Keeps.liftLab (asks_isRunning hC) fun isRunning _ => ?_
  dsimp only
  split
  · exact .throw_bind
  · refine On.Keeps.bind_lift (asks_pid hC) fun pid _ => ?_
    refine On.Keeps.bind (.modify fun _ h => h) fun _ => ?_
    refine On.Keeps.bind_lift (NetScope.asks_ip_of (hshow pid)) fun output _ => ?_
    split
    · exact .throw_bind
    · split
      case isTrue hw =>
        rw [show d.spec = spec from hs] at hw
        exact keeps_createServers (hS hw) fun _ _ h => h
      case isFalse => exact .pure

variable (hM : AllowsMaking P)

include hM

theorem keeps_switchContainer {K : Device → Prop} : On.Keeps P K (do
    let _ ← Container.create (switchSpec spec)
    if let some config := spec.defaultConfig then
      Container.copyIn config spec.name "/etc/sonic/config_db.json"
    Container.start spec.name : On Device Unit) := by
  refine On.Keeps.bind_lift (asks_create hM) fun _ _ => ?_
  split
  · exact On.Keeps.bind_lift (asks_copyIn hM.toAllowsContainers) fun _ _ =>
      On.Keeps.lift (asks_start hM)
  · exact On.Keeps.lift (asks_start hM)

variable (hS : spec.withServers = true → AllowsServers P)

include hS

/-- What is left to do when the namespace is there. -/
theorem keeps_afterHolder {K : Device → Prop} {pid : Nat}
    (hK : ∀ d s, K d → K { d with servers := d.servers ++ [s] }) : On.Keeps P K (do
    if spec.withServers then createServers pid 0 spec.numPorts
    let _ ← Container.create (switchSpec spec)
    if let some config := spec.defaultConfig then
      Container.copyIn config spec.name "/etc/sonic/config_db.json"
    Container.start spec.name : On Device Unit) := by
  dsimp only
  split
  case isTrue hw =>
    exact On.Keeps.bind (keeps_createServers (hS hw) hK) fun _ => keeps_switchContainer hM
  case isFalse => exact keeps_switchContainer hM

theorem keeps_provision (hm : P (.run ⟨"mkdir", ["-p", spec.mountDir]⟩)) :
    On.Keeps P (HasSpec spec) provision := by
  refine On.Keeps.bind_get fun d hs => ?_
  obtain rfl : d.spec = spec := hs
  refine On.Keeps.bind_lift (asks_check hm) fun _ _ => ?_
  refine On.Keeps.bind (.modify fun _ h => h) fun _ => ?_
  refine On.Keeps.bind_lift (asks_createAndStart hM) fun _ _ => ?_
  refine On.Keeps.bind_lift (asks_pid hM.toAllowsContainers) fun pid _ => ?_
  refine On.Keeps.bind (.modify fun _ h => h) fun _ => ?_
  exact keeps_afterHolder hM hS fun _ _ h => h

end Making

theorem keeps_setUp : On.Keeps P (HasSpec spec) setUp := by
  refine On.Keeps.bind (.modify fun _ h => h) fun _ => On.Keeps.bind_get fun d _ => ?_
  apply keeps_orDestroy hP hd
  split
  · exact keeps_attach hP.toAllows.containers (fun _ => hP.servers)
      fun _ => hP.run _ rfl rfl
  · exact keeps_provision hP.toAllows.making (fun _ => hP.servers) hd.make

theorem ensures_create : Attempt.Ensures P (HasSpec spec) (create spec) := by
  refine Lab.Ensures.bind (keeps_setUp hP hd (absent spec) rfl) ?_
  rintro ⟨r, d⟩ hs
  apply Lab.Ensures.pure
  intro d' hr
  cases r with
  | error fault => cases hr
  | ok a =>
    cases hr
    exact hs

end Device

end SwitchLab
