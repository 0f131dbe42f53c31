import SwitchLab.Device.Basic
import SwitchLab.Proofs.Contract

/-! What the operations of a bench ask of the host. Commands that make or remove
directories, and the calls of databases, are looked at elsewhere; here is what
all other requests have in common. -/

namespace SwitchLab

variable {P : Query → Prop} {α : Type}

/-- A call of a database. -/
def Query.isStoreCall : Query → Bool
  | connect _ | keys _ _ | fetch _ _ | merge _ _ _ | dropFields _ _ _ | dropKey _ _
  | subscribe _ _ => true
  | _ => false

/-- A command that makes or removes directories. -/
def Command.handlesDirectories (c : Command) : Bool := c.program = "mkdir" || c.program = "rm"

/-- A command that removes a container or a named namespace. -/
def Command.removes (c : Command) : Bool :=
  (c.program = "docker" && c.args.head? = some "rm") ||
    (c.program = "ip" && c.args.take 2 = ["netns", "del"])

/-- Where a command works, and what it does there. -/
def Command.located : Command → Option String × Command
  | ⟨"ip", "netns" :: "exec" :: name :: program :: args⟩ => (some name, ⟨program, args⟩)
  | ⟨"nsenter", "-t" :: pid :: "-n" :: program :: args⟩ => (some pid, ⟨program, args⟩)
  | c => (none, c)

/-- A command that makes, starts or removes a container, or handles directories. -/
def Command.handlesSwitches (c : Command) : Bool :=
  (c.program = "docker" && c.args.head?.any (["create", "start", "restart", "rm"].contains ·)) ||
    c.handlesDirectories

/-- A command that makes or removes a named namespace, or makes, moves, renames or removes a link.
`dev` is not a link, but a word before its name. -/
def Command.arranges : Command → Bool
  | ⟨"ip", "netns" :: verb :: _⟩ => verb = "add" || verb = "del"
  | ⟨"ip", "link" :: "set" :: "dev" :: _ :: word :: _⟩ => word = "netns" || word = "name"
  | ⟨"ip", "link" :: "set" :: _ :: word :: _⟩ => word = "netns" || word = "name"
  | ⟨"ip", "link" :: verb :: _⟩ => verb = "add" || verb = "del"
  | _ => false

namespace Query

/-- The command that is run or started. -/
def command? : Query → Option Command
  | run c | spawn c => some c
  | _ => none

/-- A command handles switches, wherever it works. -/
def handlesSwitches (q : Query) : Bool := q.command?.any (·.located.2.handlesSwitches)

/-- A command arranges namespaces or links, wherever it works. -/
def arranges (q : Query) : Bool := q.command?.any (·.located.2.arranges)

/-- A command that does more than use what is there. -/
def meddles (q : Query) : Bool := q.handlesSwitches || q.arranges

theorem meddles_of_arranges {q : Query} (h : q.arranges = true) : q.meddles = true := by
  rw [meddles, h, Bool.or_true]

theorem meddles_of_handlesSwitches {q : Query} (h : q.handlesSwitches = true) :
    q.meddles = true := by
  rw [meddles, h, Bool.true_or]

theorem meddles_eq_false_iff {q : Query} :
    q.meddles = false ↔ q.handlesSwitches = false ∧ q.arranges = false := Bool.or_eq_false_iff

theorem meddles_of_storeCall {q : Query} (h : q.isStoreCall = true) : q.meddles = false := by
  cases q <;> first | rfl | cases h

/-- What uses what is there neither handles directories nor removes anything. -/
theorem plain_of_meddles {c : Command} (h : (Query.run c).meddles = false) :
    c.handlesDirectories = false ∧ c.removes = false := by
  simp only [meddles, handlesSwitches, arranges, command?, Option.any_some, Bool.or_eq_false_iff]
    at h
  rw [Command.located.eq_def] at h
  split at h
  · exact ⟨rfl, rfl⟩
  · exact ⟨rfl, rfl⟩
  · obtain ⟨hs, ha⟩ := h
    obtain ⟨hdocker, hd⟩ := Bool.or_eq_false_iff.mp hs
    refine ⟨hd, Bool.eq_false_iff.mpr fun hr => ?_⟩
    obtain ⟨program, args⟩ := c
    simp only [Command.removes, Bool.or_eq_true, Bool.and_eq_true, decide_eq_true_eq] at hr
    rcases hr with ⟨rfl, hr⟩ | ⟨rfl, hr⟩
    · simp [hr] at hdocker
    · obtain ⟨rest, rfl⟩ : ∃ rest, args = "netns" :: "del" :: rest :=
        ⟨args.drop 2, by rw [← List.take_append_drop 2 args, hr]; rfl⟩
      cases ha

end Query

/-- `P` allows every request that neither calls a database, nor handles directories, nor removes
anything. -/
structure Allows (P : Query → Prop) : Prop where
  run : ∀ c : Command, c.handlesDirectories = false → c.removes = false → P (.run c)
  other : ∀ q : Query, q.isStoreCall = false → (∀ c, q ≠ .run c) → P q

/-- `P` allows what it takes to look at containers and to work in them. -/
structure AllowsContainers (P : Query → Prop) : Prop where
  docker : ∀ verb args, verb ∈ ["inspect", "exec", "logs", "cp"] →
    P (.run ⟨"docker", verb :: args⟩)
  now : P .now
  pause : ∀ d, P (.pause d)
  makeDirectory : ∀ path, P (.makeDirectory path)
  writeFile : ∀ path text, P (.writeFile path text)

/-- `P` allows the other commands that work on containers too, if they remove none. -/
structure AllowsMaking (P : Query → Prop) : Prop extends AllowsContainers P where
  make : ∀ args, Command.removes ⟨"docker", args⟩ = false → P (.run ⟨"docker", args⟩)

/-- `P` allows the commands that use what is there. -/
def AllowsRuns (P : Query → Prop) : Prop := ∀ c, (Query.run c).meddles = false → P (.run c)

/-- `P` allows every request that calls no database and only uses what is there. -/
def AllowsUse (P : Query → Prop) : Prop :=
  ∀ q : Query, q.isStoreCall = false → q.meddles = false → P q

theorem AllowsUse.runs (hP : AllowsUse P) : AllowsRuns P := fun _ => hP _ rfl

theorem AllowsUse.containers (hP : AllowsUse P) : AllowsContainers P where
  docker verb args h := by
    simp only [List.mem_cons, List.not_mem_nil, or_false] at h
    rcases h with rfl | rfl | rfl | rfl <;> exact hP _ rfl rfl
  now := hP _ rfl rfl
  pause _ := hP _ rfl rfl
  makeDirectory _ := hP _ rfl rfl
  writeFile _ _ := hP _ rfl rfl

theorem Allows.use (hP : Allows P) : AllowsUse P := by
  intro q hs hm
  cases q with
  | run c =>
    obtain ⟨hd, hr⟩ := Query.plain_of_meddles hm
    exact hP.run c hd hr
  | _ => exact hP.other _ hs nofun

theorem Allows.containers (hP : Allows P) : AllowsContainers P := hP.use.containers

theorem Allows.making (hP : Allows P) : AllowsMaking P := ⟨hP.containers, fun _ => hP.run _ rfl⟩

/-- `P` allows what it takes to make servers. -/
structure AllowsServers (P : Query → Prop) : Prop extends Allows P where
  netns : ∀ name, P (.run ⟨"ip", ["netns", "del", name]⟩)

/-- `P` allows the removal of containers and namespaces too. -/
structure AllowsRemoval (P : Query → Prop) : Prop extends Allows P where
  container : ∀ name, P (.run ⟨"docker", ["rm", "-f", name]⟩)
  netns : ∀ name, P (.run ⟨"ip", ["netns", "del", name]⟩)

theorem AllowsRemoval.servers (hP : AllowsRemoval P) : AllowsServers P := ⟨hP.toAllows, hP.netns⟩

theorem Allows.mono {P' : Query → Prop} (hP : Allows P) (h : ∀ q, P q → P' q) : Allows P' :=
  ⟨fun c hc hr => h _ (hP.run c hc hr), fun q hq hr => h _ (hP.other q hq hr)⟩

/-- A request that removes a container, a named namespace or files. -/
def Query.removes : Query → Bool
  | run c => c.removes || c.program = "rm"
  | _ => false

/-- Nothing is removed. -/
def Spares (t : Trace Host) : Prop := ∀ x ∈ t, x.request.removes = false

theorem Spares.nil : Spares [] := List.forall_mem_nil _

theorem Spares.append {t u : Trace Host} (ht : Spares t) (hu : Spares u) : Spares (t ++ u) :=
  List.forall_mem_append.mpr ⟨ht, hu⟩

theorem allows_spares : Allows fun q => q.removes = false := by
  constructor
  · intro c hd hr
    simp only [Command.handlesDirectories, Bool.or_eq_false_iff] at hd
    simp [Query.removes, hr, hd.2]
  · intro q _ hq
    cases q with
    | run c => exact absurd rfl (hq c)
    | _ => rfl

theorem allows_noStoreCall : AllowsRemoval fun q => q.isStoreCall = false :=
  ⟨⟨fun _ _ _ => rfl, fun _ h _ => h⟩, fun _ => rfl, fun _ => rfl⟩

/-! ## Commands -/

theorem asks_run {c : Command} (h : P (.run c)) : Attempt.Asks P (Host.run c) :=
  .mk (Lab.asks_ask h)

theorem asks_check {c : Command} (h : P (.run c)) : Attempt.Asks P (Host.check c) :=
  (asks_run h).bind fun _ => .mk .pure

theorem asks_step {what : String} {work : Attempt Unit} (hw : Attempt.Asks P work) :
    Lab.Asks P (Cleanup.step what work) := by
  refine hw.outcome.bind fun r => ?_
  cases r <;> exact .pure

theorem asks_allowMissing {work : Attempt α} (hw : Attempt.Asks P work) :
    Attempt.Asks P (allowMissing work) := by
  refine hw.result.bind fun r => ?_
  cases r with
  | ok a => exact .pure
  | error fault =>
    dsimp only
    split
    · exact .pure
    · exact .throw

section Commands

variable (hP : AllowsContainers P)

include hP

theorem asks_docker {verb : String} {args : List String}
    (h : verb ∈ ["inspect", "exec", "logs", "cp"]) :
    Attempt.Asks P (Container.docker (verb :: args)) := asks_check (hP.docker _ _ h)

theorem asks_shell {name script : String} : Attempt.Asks P (Container.shell name script) :=
  asks_run (hP.docker _ _ (by simp))

theorem asks_isRunning {name : String} : Lab.Asks P (Container.isRunning name) := by
  refine (asks_run (hP.docker _ _ (by simp))).outcome.bind fun r => ?_
  cases r <;> exact .pure

theorem asks_pid {name : String} : Attempt.Asks P (Container.pid name) := by
  refine (asks_docker hP (by simp)).bind fun output => ?_
  dsimp only
  split
  · exact .pure
  · exact .throw

omit hP in
theorem asks_remove {name : String} (h : P (.run ⟨"docker", ["rm", "-f", name]⟩)) :
    Attempt.Asks P (Container.remove name) := by
  refine (asks_check h).result.bind fun r => ?_
  cases r with
  | ok a => exact .pure
  | error fault =>
    dsimp only
    split
    · exact .pure
    · exact .throw

theorem asks_logs {name : String} : Attempt.Asks P (Container.logs name) :=
  (asks_docker hP (by simp)).bind fun _ => .pure

theorem asks_copyOut {source name target : String} :
    Attempt.Asks P (Container.copyOut source name target) :=
  (asks_docker hP (by simp)).bind fun _ => .pure

theorem asks_copyIn {source name target : String} :
    Attempt.Asks P (Container.copyIn source name target) :=
  (asks_docker hP (by simp)).bind fun _ => .pure

omit hP

theorem asks_restart {name : String} (h : P (.run ⟨"docker", ["restart", name]⟩)) :
    Attempt.Asks P (Container.restart name) := (asks_check h).bind fun _ => .pure

variable (hM : AllowsMaking P)

include hM

theorem asks_create {spec : ContainerSpec} : Attempt.Asks P (Container.create spec) := by
  have h : Command.removes ⟨"docker", spec.createArgs⟩ = false := by
    simp [Command.removes, ContainerSpec.createArgs]
  exact (asks_check (hM.make _ h)).bind fun _ => .pure

theorem asks_start {name : String} : Attempt.Asks P (Container.start name) :=
  (asks_check (hM.make _ rfl)).bind fun _ => .pure

theorem asks_createAndStart {spec : ContainerSpec} :
    Attempt.Asks P (Container.createAndStart spec) :=
  (asks_create hM).bind fun _ => (asks_start hM).bind fun _ => .pure

end Commands

/-! ## Links and namespaces -/

namespace NetScope

theorem enter_handlesDirectories {s : NetScope} {c : Command} (hc : c.handlesDirectories = false) :
    (s.enter c).handlesDirectories = false := by
  cases s with
  | host => exact hc
  | named name => rfl
  | ofPid pid => rfl

theorem enter_removes {s : NetScope} {c : Command} (hc : c.removes = false) :
    (s.enter c).removes = false := by
  cases s with
  | host => exact hc
  | named name => rfl
  | ofPid pid => rfl

variable {s : NetScope}

theorem asks_check_of {c : Command} (h : P (.run (s.enter c))) : Attempt.Asks P (s.check c) :=
  (SwitchLab.asks_run h).bind fun _ => .mk .pure

theorem asks_ip_of {args : List String} (h : P (.run (s.enter ⟨"ip", args⟩))) :
    Attempt.Asks P (s.ip args) := asks_check_of h

theorem asks_run_of {args : List String} (h : P (.run (s.enter ⟨"ip", args⟩))) :
    Attempt.Asks P (s.run args) := (asks_ip_of h).bind fun _ => .pure

theorem asks_deleteLink_of {link : String} (h : P (.run (s.enter ⟨"ip", ["link", "del", link]⟩))) :
    Attempt.Asks P (s.deleteLink link) := asks_allowMissing (asks_ip_of h)

section Use

variable (hR : AllowsRuns P) {link : String}

include hR

theorem asks_addAddress {cidr : String} : Attempt.Asks P (s.addAddress link cidr) := by
  refine (SwitchLab.asks_run (hR _ (by cases s <;> rfl))).bind fun output => ?_
  split
  · exact .pure
  · exact .throw

theorem asks_setLink {isUp : Bool} : Attempt.Asks P (s.setLink link isUp) :=
  asks_run_of (hR _ (by cases s <;> cases isUp <;> rfl))

theorem asks_setIpv6 {on : Bool} : Attempt.Asks P (s.setIpv6 link on) :=
  (asks_check_of (hR _ (by cases s <;> rfl))).bind fun _ => .pure

theorem asks_setArp {on : Bool} : Attempt.Asks P (s.setArp link on) :=
  asks_run_of (hR _ (by cases s <;> rfl))

end Use

variable (hP : Allows P)

include hP

theorem asks_exec {c : Command} (hd : c.handlesDirectories = false) (hr : c.removes = false) :
    Attempt.Asks P (s.exec c) :=
  asks_run (hP.run _ (enter_handlesDirectories hd) (enter_removes hr))

theorem asks_ip {args : List String} (h : Command.removes ⟨"ip", args⟩ = false) :
    Attempt.Asks P (s.ip args) :=
  asks_ip_of (hP.run _ (enter_handlesDirectories rfl) (enter_removes h))

theorem asks_run {args : List String} (h : Command.removes ⟨"ip", args⟩ = false) :
    Attempt.Asks P (s.run args) := (asks_ip hP h).bind fun _ => .pure

theorem asks_deleteLink {link : String} : Attempt.Asks P (s.deleteLink link) :=
  asks_deleteLink_of (hP.run _ (enter_handlesDirectories rfl) (enter_removes rfl))

end NetScope

namespace Namespace

def deleteCommand (ns : Namespace) : Command := ⟨"ip", ["netns", "del", ns.name]⟩

variable {ns : Namespace} (hP : Allows P)

include hP

omit hP in
theorem asks_delete (h : P (.run ⟨"ip", ["netns", "del", ns.name]⟩)) : Attempt.Asks P ns.delete :=
  asks_allowMissing (SwitchLab.asks_check h)

omit hP in
theorem asks_create_of {name : String} (hdel : P (.run ⟨"ip", ["netns", "del", name]⟩))
    (hadd : P (.run ⟨"ip", ["netns", "add", name]⟩))
    (hup : P (.run ((NetScope.named name).enter ⟨"ip", ["link", "set", "lo", "up"]⟩))) :
    Attempt.Asks P (create name) := by
  refine (asks_delete hdel).bind fun _ => (SwitchLab.asks_check hadd).bind fun _ => ?_
  exact Attempt.Asks.bind (Attempt.Asks.result (SwitchLab.asks_run hup)) fun _ => .pure

theorem asks_create {name : String} (h : P (.run ⟨"ip", ["netns", "del", name]⟩)) :
    Attempt.Asks P (create name) := asks_create_of h (hP.run _ rfl rfl) (hP.run _ rfl rfl)

omit hP in
theorem asks_addBridge_of {bridge : String}
    (hdel : P (.run (ns.scope.enter ⟨"ip", ["link", "del", bridge]⟩)))
    (hadd : P (.run (ns.scope.enter ⟨"ip", ["link", "add", bridge, "type", "bridge"]⟩)))
    (hup : P (.run (ns.scope.enter ⟨"ip", ["link", "set", "dev", bridge, "up"]⟩))) :
    Attempt.Asks P (ns.addBridge bridge) :=
  (NetScope.asks_deleteLink_of hdel).bind fun _ => (NetScope.asks_run_of hadd).bind fun _ =>
    NetScope.asks_run_of hup

theorem asks_addBridge {bridge : String} : Attempt.Asks P (ns.addBridge bridge) :=
  asks_addBridge_of (hP.run _ rfl rfl) (hP.run _ rfl rfl) (hP.run _ rfl rfl)

end Namespace

/-! ## Servers -/

/-- What is asked to end the processes of a server. -/
inductive Query.IsKilling : Query → Prop where
  | kill (pid : Nat) : IsKilling (.kill pid)
  | list (ns : Namespace) : IsKilling (.run ⟨"ip", ["netns", "pids", ns.name]⟩)
  | signal (pid : Nat) : IsKilling (.run ⟨"kill", ["-9", toString pid]⟩)

theorem Query.IsKilling.meddles {q : Query} (h : q.IsKilling) : q.meddles = false := by
  cases h <;> rfl

theorem AllowsUse.killing (hP : AllowsUse P) {q : Query} (h : q.IsKilling) : P q := by
  refine hP q ?_ h.meddles
  cases h <;> rfl

namespace VirtualServer

theorem asks_killListed_of {P : Query → Prop} {ns : Namespace}
    (hlist : P (.run ⟨"ip", ["netns", "pids", ns.name]⟩))
    (hsignal : ∀ pid : Nat, P (.run ⟨"kill", ["-9", toString pid]⟩)) :
    Lab.Asks P (killListed ns) := by
  have pids : Attempt.Asks P ns.pids := by
    refine (SwitchLab.asks_run hlist).bind fun output => ?_
    split <;> exact .pure
  refine pids.outcome.bind fun r => ?_
  induction r.toOption.getD [] with
  | nil => exact .pure
  | cons pid pids ih =>
    rw [List.forIn_cons, bind_assoc]
    refine (SwitchLab.asks_run (hsignal pid)).outcome.bind fun _ => ?_
    simpa using ih

theorem asks_killListed {ns : Namespace} : Lab.Asks Query.IsKilling (killListed ns) :=
  asks_killListed_of (.list ns) .signal

/-- Only the list of processes changes. -/
theorem keeps_killAll {K : VirtualServer → Prop} (hK : ∀ s, K s → K { s with processes := [] }) :
    KeepsOn Query.IsKilling K killAll := by
  refine KeepsOn.bind ?_ fun _ => KeepsOn.get.bind fun _ => KeepsOn.lift asks_killListed
  refine KeepsOn.get.bind fun s => (KeepsOn.modify hK).bind fun _ => ?_
  refine KeepsOn.bind ?_ fun _ => KeepsOn.pure
  refine KeepsOn.forIn fun pid => KeepsOn.lift ?_
  exact (Attempt.Asks.mk (Lab.asks_ask (.kill pid))).outcome

/-- The commands that join a server to the switch whose namespace the process `pid` holds. -/
def linkCommands (s : VirtualServer) (pid : Nat) : List Command :=
  let switch := NetScope.ofPid pid
  let (serverEnd, switchEnd) := s.transientEnds pid
  [⟨"ip", ["link", "del", serverEnd]⟩,
    switch.enter ⟨"ip", ["link", "del", s.device]⟩,
    ⟨"ip", ["link", "add", serverEnd, "type", "veth", "peer", "name", switchEnd]⟩,
    ⟨"ip", ["link", "set", serverEnd, "netns", s.ns.name]⟩,
    ⟨"ip", ["link", "set", switchEnd, "netns", toString pid]⟩,
    s.ns.scope.enter ⟨"ip", ["link", "set", "dev", serverEnd, "name", s.peer]⟩,
    switch.enter ⟨"ip", ["link", "set", "dev", switchEnd, "name", s.device]⟩]

/-- The commands that arrange the namespace and the links of a server. -/
def arrangement (s : VirtualServer) (pid : Nat) : List Command :=
  s.ns.deleteCommand :: ⟨"ip", ["netns", "add", s.ns.name]⟩ :: s.linkCommands pid

variable {s : VirtualServer} {pid : Nat}

section Runs

variable (hR : AllowsRuns P)

include hR

theorem asks_disableOffload {scope : NetScope} {link : String} :
    Attempt.Asks P (disableOffload scope link) :=
  (NetScope.asks_check_of (hR _ (by cases scope <;> rfl))).result.bind fun _ => .pure

theorem asks_wire (h : ∀ c ∈ s.linkCommands pid, P (.run c)) : Attempt.Asks P (s.wire pid) := by
  simp only [linkCommands, List.forall_mem_cons] at h
  obtain ⟨hstale, hdevice, hadd, hmove, hjoin, hpeer, hname, -⟩ := h
  refine (NetScope.asks_deleteLink_of hstale).bind fun _ => ?_
  refine (NetScope.asks_deleteLink_of hdevice).bind fun _ => ?_
  refine (NetScope.asks_run_of hadd).bind fun _ => (NetScope.asks_run_of hmove).bind fun _ => ?_
  refine (NetScope.asks_run_of hjoin).bind fun _ => (NetScope.asks_run_of hpeer).bind fun _ => ?_
  refine (NetScope.asks_setLink hR).bind fun _ => (NetScope.asks_setIpv6 hR).result.bind fun _ => ?_
  refine (NetScope.asks_run_of hname).bind fun _ => (NetScope.asks_setLink hR).bind fun _ => ?_
  exact (asks_disableOffload hR).bind fun _ => asks_disableOffload hR

/-- A server whose namespace is absent is made, or what was made of it is taken back. -/
theorem asks_build (h : ∀ c ∈ s.arrangement pid, P (.run c)) : Attempt.Asks P (do
    let _ ← Namespace.create s.ns.name
    match ← (s.wire pid).result with
    | .ok _ => return s
    | .error fault =>
      s.unwire pid
      throw fault : Attempt VirtualServer) := by
  obtain ⟨hdel, hadd, hlinks⟩ : P (.run s.ns.deleteCommand) ∧
      P (.run ⟨"ip", ["netns", "add", s.ns.name]⟩) ∧ ∀ c ∈ s.linkCommands pid, P (.run c) := by
    simpa only [arrangement, List.forall_mem_cons] using h
  have hstale : P (.run ⟨"ip", ["link", "del", (s.transientEnds pid).1]⟩) :=
    hlinks _ List.mem_cons_self
  refine (Namespace.asks_create_of hdel hadd (hR _ rfl)).bind fun _ => ?_
  refine (asks_wire hR hlinks).result.bind fun r => ?_
  cases r with
  | ok a => exact .pure
  | error fault =>
    have unwire : Lab.Asks P (s.unwire pid) :=
      (NetScope.asks_deleteLink_of hstale).outcome.bind fun _ =>
        (Namespace.asks_delete hdel).outcome.bind fun _ => .pure
    exact (Attempt.Asks.lift unwire).bind fun _ => .throw

end Runs

variable (hP : Allows P)

include hP

theorem allows_linkCommands : ∀ c ∈ s.linkCommands pid, P (.run c) := by
  simp only [linkCommands, List.forall_mem_cons]
  exact ⟨hP.run _ rfl rfl, hP.run _ rfl rfl, hP.run _ rfl rfl, hP.run _ rfl rfl, hP.run _ rfl rfl,
    hP.run _ rfl rfl, hP.run _ rfl rfl, List.forall_mem_nil _⟩

theorem asks_create {netnsDir container : String} {index : Nat}
    (h : P (.run ⟨"ip", ["netns", "del", namespaceName container index]⟩)) :
    Attempt.Asks P (create netnsDir container pid index) := by
  have present : Lab.Asks P (Namespace.isPresent netnsDir (namespaceName container index)) :=
    Lab.asks_ask (hP.other _ rfl nofun)
  refine (Attempt.Asks.lift present).bind fun isPresent => ?_
  cases isPresent with
  | true =>
    have kill (s : VirtualServer) : Lab.Asks P (killAll.run s) :=
      (keeps_killAll (K := fun _ => True) (fun _ h => h) s trivial).mono
        (fun _ hq => hP.use.killing hq) fun _ _ => trivial
    exact (Attempt.Asks.lift (kill _)).bind fun _ => .pure
  | false =>
    exact asks_build hP.use.runs (List.forall_mem_cons.mpr
      ⟨h, List.forall_mem_cons.mpr ⟨hP.run _ rfl rfl, allows_linkCommands hP⟩⟩)

omit hP in
theorem keeps_destroy (hP : AllowsRemoval P) : On.Keeps P (fun _ => True) destroy := by
  refine On.Keeps.bind_get fun s _ => ?_
  split
  · exact .pure
  · refine On.Keeps.bind (.modify fun _ _ => trivial) fun _ => ?_
    split
    · have kill : On.Keeps P (fun _ => True) (liftM killAll : On VirtualServer Unit) :=
        .liftState fun s _ => (keeps_killAll (K := fun _ => True) (fun _ h => h) s trivial).mono
          (fun _ hq => hP.use.killing hq) fun _ _ => trivial
      exact kill.bind fun _ => On.Keeps.lift (Namespace.asks_delete (hP.netns _))
    · exact .pure

end VirtualServer

end SwitchLab
