import SwitchLab.Proofs.Removal

/-! A topology that was built and left running, and a second build of it. The new
build begins with the shared namespace, and with the old one go all pairs. So
there is no front-panel interface left in a node when it is attached to. -/

namespace SwitchLab

variable {α β : Type} {held : String → List String} {l l' : Ledger} {t u v : Trace Host}

/-! ## Commands that succeed -/

/-- A command was run and did not end with success. -/
def Exchange.fails : Exchange Host → Bool
  | ⟨.run _, .ok output⟩ => !output.success
  | ⟨.run _, .error _⟩ => true
  | _ => false

theorem Exchange.succeeded_of_run {x : Exchange Host} {c : Command} (hx : x.request = .run c)
    (h : x.fails = false) : x.succeeded = true := by
  obtain ⟨q, reply⟩ := x
  obtain rfl : q = .run c := hx
  match reply, h with
  | .ok output, h => simpa [fails, succeeded] using h

theorem Command.checked_of_ran {c : Command} {reply : Except Fault Output} (line : String)
    (h : (c.ran reply).fails = false) : ∃ output, checked line reply = .ok output := by
  cases reply with
  | error fault => cases h
  | ok output => exact ⟨output, checked_eq_ok_iff.mpr ⟨rfl, by simpa [ran, Exchange.fails] using h⟩⟩

namespace Attempt

/-- The work succeeds if all its commands do. -/
def Reliable (work : Attempt α) : Prop :=
  ∀ l t r l', Runs work l t r l' → (∀ x ∈ t, x.fails = false) → ∃ a, r = .ok a

namespace Reliable

variable {work : Attempt α} {f : α → Attempt β}

theorem pure {a : α} : Reliable (pure a : Attempt α) :=
  fun _ _ _ _ hr _ => ⟨a, (runs_pure_iff.mp hr).2.1⟩

theorem bind (hw : Reliable work) (hf : ∀ a, Reliable (f a)) : Reliable (work >>= f) := by
  intro l t r l' hr ht
  rcases runs_bind_iff.mp hr with ⟨u, v, a, l₁, rfl, -, hv⟩ | ⟨e, rfl, hu⟩
  · exact hf a _ _ _ _ hv fun x hx => ht x (List.mem_append_right u hx)
  · obtain ⟨a, ha⟩ := hw _ _ _ _ hu ht
    cases ha

theorem result : Reliable work.result := by
  intro l t r l' hr _
  obtain ⟨x, rfl, -⟩ := runs_result_iff.mp hr
  exact ⟨x, rfl⟩

/-- Work that is one command. -/
theorem of_calls {c : Command} {judge : Except Fault Output → Except Fault α} (line : String)
    (h : work.Calls c judge) (hj : ∀ reply output, checked line reply = .ok output →
      ∃ a, judge reply = .ok a) : Reliable work := by
  intro l t r l' hr ht
  obtain ⟨reply, rfl, -, rfl⟩ := (h _ _ _ _).mp hr
  obtain ⟨output, houtput⟩ := Command.checked_of_ran line (ht _ (List.mem_singleton_self _))
  exact hj reply output houtput

theorem check {c : Command} : Reliable (Host.check c) :=
  of_calls _ calls_check fun _ output h => ⟨output, h⟩

end Reliable

end Attempt

open Attempt (Reliable)

namespace NetScope

variable {s : NetScope}

theorem reliable_ip {args : List String} : Reliable (s.ip args) :=
  .of_calls _ calls_ip fun _ output h => ⟨output, h⟩

theorem reliable_run {args : List String} : Reliable (s.run args) :=
  reliable_ip.bind fun _ => .pure

theorem reliable_deleteLink {link : String} : Reliable (s.deleteLink link) :=
  .of_calls _ calls_deleteLink fun _ _ h => ⟨(), by rw [h]; rfl⟩

end NetScope

namespace Namespace

variable {ns : Namespace}

theorem reliable_delete : Reliable ns.delete :=
  .of_calls _ calls_delete fun _ _ h => ⟨(), by rw [h]; rfl⟩

theorem reliable_create {name : String} : Reliable (create name) :=
  reliable_delete.bind fun _ => Reliable.check.bind fun _ => Reliable.result.bind fun _ => .pure

theorem reliable_addBridge {bridge : String} : Reliable (ns.addBridge bridge) :=
  NetScope.reliable_deleteLink.bind fun _ => NetScope.reliable_run.bind fun _ =>
    NetScope.reliable_run

/-- What there is of a namespace is deleted first. -/
theorem runs_create_deletes {name : String} {r : Except Fault Namespace}
    (hr : Attempt.Runs (create name) l t r l') :
    ∃ x ∈ t, x.request = .run (deleteCommand ⟨name⟩) := by
  rcases Attempt.runs_bind_iff.mp hr with ⟨u, v, _, l₁, rfl, hdelete, -⟩ | ⟨_, -, hdelete⟩
  · obtain ⟨reply, rfl, -, -⟩ := (calls_delete _ _ _ _).mp hdelete
    exact ⟨_, List.mem_append_left v (List.mem_singleton_self _), rfl⟩
  · obtain ⟨reply, rfl, -, -⟩ := (calls_delete _ _ _ _).mp hdelete
    exact ⟨_, List.mem_singleton_self _, rfl⟩

end Namespace

/-! ## What a node shows -/

/-- The ends in a namespace, by their names. -/
def endsIn (pairs : List VethPair) (place : String) : List String :=
  (pairs.flatMap fun p => [p.first, p.second]).filterMap fun e =>
    if e.place = some place then some e.name else none

/-- The look at a container that tells its first process. -/
def Container.processCommand (name : String) : Command :=
  ⟨"docker", ["inspect", "--format", "\x7b\x7b.State.Pid\x7d\x7d", name]⟩

namespace Exchange

/-- The links that are listed in the namespace of a process. -/
def listing? : Exchange Host → Option (String × List String)
  | ⟨.run ⟨"nsenter", ["-t", place, "-n", "ip", "-o", "link", "show"]⟩, .ok output⟩ =>
    some (place, linkNames output.stdout)
  | _ => none

/-- The front-panel interfaces in a listing are the ends of pairs that are there. -/
def listsEnds (pairs : List VethPair) (x : Exchange Host) : Bool :=
  x.listing?.all fun (place, names) =>
    (names.filter Device.isFrontPanel).isPerm ((endsIn pairs place).filter Device.isFrontPanel)

theorem listsEnds_nil {x : Exchange Host} {place : String} {names : List String}
    (h : x.listsEnds [] = true) (hx : x.listing? = some (place, names)) :
    Device.frontPanelCount names = 0 := by
  rw [listsEnds, hx, Option.all_some] at h
  have hperm : (names.filter Device.isFrontPanel).Perm [] := List.isPerm_iff.mp h
  rw [Device.frontPanelCount, hperm.eq_nil]
  rfl

/-- A look at the process of the container that finds it. -/
def findsProcess (name : String) : Exchange Host → Bool
  | ⟨.run c, .ok output⟩ =>
    c = Container.processCommand name && output.success &&
      (Text.unsigned? 32 (Text.trim output.stdout)).any (0 < ·)
  | _ => false

end Exchange

/-- Whenever it is looked at, the container is running. -/
structure Container.KeptRunning (name : String) (t : Trace Host) : Prop where
  running : ∀ x ∈ t, x.request = .run (lookCommand name) → x.findsRunning name = true
  process : ∀ x ∈ t, x.request = .run (processCommand name) → x.findsProcess name = true

namespace Container

variable {name : String}

theorem KeptRunning.left (h : KeptRunning name (t ++ u)) : KeptRunning name t :=
  ⟨fun x hx => h.running x (List.mem_append_left u hx),
    fun x hx => h.process x (List.mem_append_left u hx)⟩

theorem KeptRunning.right (h : KeptRunning name (t ++ u)) : KeptRunning name u :=
  ⟨fun x hx => h.running x (List.mem_append_right t hx),
    fun x hx => h.process x (List.mem_append_right t hx)⟩

theorem KeptRunning.runs_isRunning {running : Bool} (h : KeptRunning name t)
    (hr : Lab.Runs (isRunning name) l t running l') : running = true := by
  obtain ⟨x, rfl, hx, rfl⟩ := Container.runs_isRunning hr
  exact h.running x (List.mem_singleton_self x) hx

/-- The process that a look at a container shows. -/
def processOf (name : String) (output : Output) : Except Fault Nat :=
  match Text.unsigned? 32 (Text.trim output.stdout) with
  | some (n + 1) => .ok (n + 1)
  | _ => .error (.provision name
      s!"container has no running process (pid {shown (Text.trim output.stdout)})")

theorem calls_pid : Attempt.Calls (pid name) (processCommand name) fun reply =>
    (checked (processCommand name).render reply).bind (processOf name) := by
  have heq : pid name = docker (processCommand name).args >>= fun output =>
      ExceptT.mk (pure (processOf name output)) := by
    refine bind_congr fun output => ?_
    dsimp only [processOf]
    generalize Text.unsigned? 32 (Text.trim output.stdout) = number
    rcases number with _ | _ | n <;> rfl
  rw [heq]
  exact calls_docker.bind _

theorem exists_process_of_found {reply : Except Fault Output}
    (h : ((processCommand name).ran reply).findsProcess name = true) :
    ∃ process, (checked (processCommand name).render reply).bind (processOf name) =
      .ok process := by
  cases reply with
  | error fault => cases h
  | ok output =>
    simp only [Exchange.findsProcess, Command.ran, Bool.and_eq_true, decide_eq_true_eq,
      Option.any_eq_true] at h
    obtain ⟨⟨-, hs⟩, n, hn, hpos⟩ := h
    obtain ⟨m, rfl⟩ := Nat.exists_eq_succ_of_ne_zero (Nat.pos_iff_ne_zero.mp hpos)
    have hprocess : processOf name output = .ok (m + 1) := by
      dsimp only [processOf]
      -- the text of the number would be taken apart otherwise
      generalize Text.unsigned? 32 (Text.trim output.stdout) = number at hn ⊢
      subst hn
      rfl
    rw [checked_eq_ok_iff.mpr ⟨rfl, hs⟩, Except.bind, hprocess]
    exact ⟨m + 1, rfl⟩

theorem KeptRunning.runs_pid {r : Except Fault Nat} (h : KeptRunning name t)
    (hr : Attempt.Runs (pid name) l t r l') : ∃ process, r = .ok process := by
  obtain ⟨reply, rfl, -, rfl⟩ := (calls_pid _ _ _ _).mp hr
  exact exists_process_of_found (h.process _ (List.mem_singleton_self _) rfl)

end Container

/-! ## Attaching to a node without interfaces -/

/-- The refusal of a switch that shows no front-panel interface. -/
def DeviceSpec.refusal (spec : DeviceSpec) : Fault :=
  .invalidValue s!"{spec.name}: {0} front-panel interfaces, expected 1..={spec.numPorts}"

namespace Device

variable {spec : DeviceSpec} {d d' : Device} {r : Except Fault Unit}

theorem runs_attach_refused (hr : On.Runs attach d l t r d' l') (ht : ∀ x ∈ t, x.fails = false)
    (hrunning : Container.KeptRunning d.spec.name t) (hlists : ∀ x ∈ t, x.listsEnds [] = true) :
    r = .error d.spec.refusal := by
  obtain ⟨u, v, running, l₁, rfl, hlook, hr⟩ :=
    On.runs_bind_liftLab_iff.mp (On.runs_bind_get_iff.mp hr)
  obtain rfl := hrunning.left.runs_isRunning hlook
  rcases On.runs_bind_lift_iff.mp hr with ⟨v, w, pid, l₂, rfl, -, hr⟩ | ⟨e, rfl, -, hpid⟩
  case inr =>
    obtain ⟨_, hx⟩ := hrunning.right.runs_pid hpid
    cases hx
  rcases On.runs_bind_lift_iff.mp (On.runs_bind_modify_iff.mp hr) with
    ⟨w, rest, output, l₃, rfl, hshow, hcount⟩ | ⟨e, rfl, -, hshow⟩
  case inr =>
    obtain ⟨_, hx⟩ := NetScope.reliable_ip _ _ _ _ hshow fun x hx => ht x (by simp [hx])
    cases hx
  obtain ⟨reply, rfl, -, hreply⟩ := (NetScope.calls_ip _ _ _ _).mp hshow
  obtain ⟨rfl, -⟩ := checked_eq_ok_iff.mp hreply.symm
  have bare : frontPanelCount (linkNames output.stdout) = 0 := by
    refine Exchange.listsEnds_nil (hlists _ (List.mem_append_right u (List.mem_append_right v
      (List.mem_append_left rest (List.mem_singleton_self _))))) rfl
  simp only [bare, true_or, if_true] at hcount
  exact (On.runs_throw_bind_iff.mp hcount).2.1

theorem runs_create_refused {x : Except Fault Device} (ha : spec.attach = true)
    (hr : Attempt.Runs (create spec) l t x l') (ht : ∀ x ∈ t, x.fails = false)
    (hrunning : Container.KeptRunning spec.name t) (hlists : ∀ x ∈ t, x.listsEnds [] = true) :
    x = .error spec.refusal := by
  obtain ⟨r, d, hsetUp, rfl⟩ := runs_create hr
  have hsetUp := runs_setUp_iff.mp hsetUp
  rw [ha] at hsetUp
  rcases runs_orDestroy_cases hsetUp with ⟨⟨⟩, rfl, hwork⟩ | ⟨fault, u, v, _, _, rfl, rfl, hwork, -⟩
  · cases runs_attach_refused hwork ht hrunning hlists
  · cases runs_attach_refused hwork (fun x hx => ht x (List.mem_append_left v hx)) hrunning.left
      fun x hx => hlists x (List.mem_append_left v hx)
    rfl

end Device

/-! ## A second build -/

variable (held) in
/-- In a trace that goes on from `u`, every listing shows the ends of pairs that are there then. -/
def ListsPairs (u t : Trace Host) : Prop :=
  Gated (fun before x => x.listsEnds (pairsAfter held [] before) = true) u t

instance decidableListsPairs : Decidable (ListsPairs held u t) :=
  inferInstanceAs (Decidable (Gated _ u t))

namespace OnlyRemoves

/-- With a namespace go all pairs that have an end in it. -/
theorem cleared {name : String} {pairs : List VethPair} {x : Exchange Host}
    (h : OnlyRemoves held t) (hp : Anchored (some name) pairs) (hx : x ∈ t)
    (hrequest : x.request = .run (Namespace.deleteCommand ⟨name⟩)) (hs : x.succeeded = true) :
    pairsAfter held pairs t = [] := by
  rw [h.pairsAfter_eq, List.filter_eq_nil_iff]
  intro p hmem
  have htakes : x.takes held p = true := (Exchange.takes_of_netns hrequest).trans (hp p hmem)
  have htaken : takenIn held t p = true := List.any_eq_true.mpr ⟨x, hx, by rw [hs, htakes]; rfl⟩
  rw [htaken]
  exact Bool.false_ne_true

end OnlyRemoves

namespace ListsPairs

theorem left (h : ListsPairs held u (t ++ v)) : ListsPairs held u t := Gated.left h

theorem right (h : ListsPairs held u (t ++ v)) : ListsPairs held (u ++ t) v := Gated.right h

/-- There is nothing to show when there are no pairs. -/
theorem nil (h : ListsPairs held u t) (hu : pairsAfter held [] u = []) (ht : OnlyRemoves held t) :
    ∀ x ∈ t, x.listsEnds [] = true := by
  intro x hx
  obtain ⟨v, w, rfl⟩ := List.append_of_mem hx
  have hv : OnlyRemoves held v := fun y hy => ht y (List.mem_append_left _ hy)
  have none : pairsAfter held [] (u ++ v) = [] := by
    rw [pairsAfter_append, hu, hv.pairsAfter_nil]
  have hlists : x.listsEnds (pairsAfter held [] (u ++ v)) = true := h v x w rfl
  rwa [none] at hlists

end ListsPairs

namespace Controller

variable {topology : Topology} {options : Options} {shared : Namespace} {c c' : Controller}
  {r : Except Fault Unit}

/-- The pairs of a topology that stands have an end in its shared namespace. -/
theorem anchored_of_built {retryInterval : Duration}
    (hr : On.Runs build { new topology options with retryInterval } l t (.ok ()) c l') :
    Anchored (some (sharedNameOf topology options)) (pairsAfter held [] t) := by
  have fresh : Empty topology { new topology options with retryInterval } :=
    ⟨rfl, rfl, rfl, rfl, rfl, rfl⟩
  cases (runs_build fresh rfl hr).1 with
  | stands hrun =>
    have begun : Steady ⟨sharedNameOf topology options⟩ []
        { { new topology options with retryInterval } with built := true } :=
      ⟨rfl, .nil, List.forall_mem_nil _⟩
    exact (begun.carriedOut held hrun).anchored

variable (held) in
theorem runs_share_clears {pairs : List VethPair} (hc : c.adjust = id)
    (hp : Anchored (some shared.name) pairs) (ht : ∀ x ∈ t, x.fails = false)
    (hr : On.Runs (BuildStep.share.act shared) c l t r c' l') :
    r = .ok () ∧ c' = { c with shared := some shared } ∧ pairsAfter held pairs t = [] := by
  have removes : OnlyRemoves held t := onlyRemoves_act rfl hc hr
  rcases On.runs_bind_lift_iff.mp hr with ⟨u, v, ns, l₁, rfl, hcreate, hr⟩ | ⟨_, _, _, hcreate⟩
  · obtain ⟨-, rfl, rfl, -⟩ := On.runs_modify_iff.mp hr
    obtain ⟨rfl, -⟩ := Namespace.runs_create_ok hcreate
    obtain ⟨x, hx, hrequest⟩ := Namespace.runs_create_deletes hcreate
    have hmem := List.mem_append_left v hx
    exact ⟨rfl, rfl, removes.cleared hp hmem hrequest
      (Exchange.succeeded_of_run hrequest (ht x hmem))⟩
  · obtain ⟨_, hx⟩ := Namespace.reliable_create _ _ _ _ hcreate ht
    cases hx

theorem runs_bridge_ok (ht : ∀ x ∈ t, x.fails = false)
    (hr : On.Runs (BuildStep.bridge.act shared) c l t r c' l') : r = .ok () := by
  obtain ⟨⟨⟩, hx⟩ := Namespace.reliable_addBridge _ _ _ _ (On.runs_lift_iff.mp hr).2 ht
  exact hx

theorem runs_node_refused {n : Node} (hc : c.adjust = id) (ht : ∀ x ∈ t, x.fails = false)
    (hrunning : Container.KeptRunning n.name t) (hlists : ∀ x ∈ t, x.listsEnds [] = true)
    (hr : On.Runs ((BuildStep.node n).act shared) c l t r c' l') :
    r = .error (c.nodeSpec n true).refusal := by
  obtain ⟨u, v, running, l₁, rfl, hlook, hr⟩ := runs_node_cases hr
  obtain rfl := hrunning.left.runs_isRunning hlook
  have hname : (c.nodeSpec n true).name = n.name := by
    rw [nodeSpec_of_unadjusted hc]
    rfl
  have hattach : (c.nodeSpec n true).attach = true := by rw [nodeSpec_of_unadjusted hc]
  have refused {x : Except Fault Device}
      (h : Attempt.Runs (Device.create (c.nodeSpec n true)) l₁ v x l') :
      x = .error (c.nodeSpec n true).refusal :=
    Device.runs_create_refused hattach h (fun x hx => ht x (List.mem_append_right u hx))
      (hname ▸ hrunning.right) fun x hx => hlists x (List.mem_append_right u hx)
  rcases hr with ⟨d, hcreate, -⟩ | ⟨e, hcreate, rfl, -⟩
  · cases refused hcreate
  · cases refused hcreate
    rfl

theorem carriedOut_refused {n : Node} {steps : List BuildStep} (hc : c.adjust = id)
    (hrun : CarriedOut (BuildStep.act shared) (.share :: .bridge :: .node n :: steps) c t r c')
    (hp : Anchored (some shared.name) (pairsAfter held [] u)) (ht : ∀ x ∈ t, x.fails = false)
    (hrunning : Container.KeptRunning n.name t) (hlists : ListsPairs held u t) :
    r = .error (c.nodeSpec n true).refusal := by
  cases hrun with
  | stopped hshare => cases (runs_share_clears held hc hp ht hshare).1
  | @step _ _ _ c₁ _ _ _ first later _ hshare hrun =>
    obtain ⟨hfirst, hlater⟩ := List.forall_mem_append.mp ht
    obtain ⟨-, hshared, hcleared⟩ := runs_share_clears held hc hp hfirst hshare
    rw [← pairsAfter_append] at hcleared
    have unadjusted : c₁.adjust = id := by rw [hshared, hc]
    have hspec : c₁.nodeSpec n true = c.nodeSpec n true := by rw [hshared, nodeSpec, nodeSpec]
    cases hrun with
    | stopped hbridge => cases runs_bridge_ok hlater hbridge
    | @step _ _ _ c₂ _ _ _ second third _ hbridge hrun =>
      obtain rfl := runs_bridge hbridge
      have bridged : OnlyRemoves held second := onlyRemoves_act rfl unadjusted hbridge
      have none : pairsAfter held [] ((u ++ first) ++ second) = [] := by
        rw [pairsAfter_append, hcleared, bridged.pairsAfter_nil]
      have refused {w : Trace Host} {x : Except Fault Unit} {c₃ : Controller} {l₁ l₂ : Ledger}
          (hw : w <+: third) (h : On.Runs ((BuildStep.node n).act shared) c₂ l₁ w x c₃ l₂) :
          x = .error (c.nodeSpec n true).refusal := by
        obtain ⟨rest, rfl⟩ := hw
        obtain ⟨-, hlater⟩ := List.forall_mem_append.mp hlater
        have asked : OnlyRemoves held w := onlyRemoves_act rfl unadjusted h
        rw [← hspec]
        exact runs_node_refused unadjusted (List.forall_mem_append.mp hlater).1
          hrunning.right.right.left (hlists.right.right.left.nil none asked) h
      cases hrun with
      | stopped hnode => exact refused (List.prefix_refl _) hnode
      | step hnode hrun => cases refused (List.prefix_append _ _) hnode

/-- A topology that was built and left running is not attached to again: all commands succeed, and
the listing of the first node shows no interface. -/
theorem rebuild_refused (retryInterval again : Duration) {n : Node} {rest : List Node}
    {l₁ l₂ l₃ : Ledger} {c c' : Controller} (hnodes : topology.nodes = n :: rest)
    (hbuild : On.Runs build { new topology options with retryInterval } l u (.ok ()) c l₁)
    (hrebuild : On.Runs build { new topology options with retryInterval := again } l₂ v r c' l₃)
    (hsucceed : ∀ x ∈ v, x.fails = false) (hrunning : Container.KeptRunning n.name v)
    (hlists : ListsPairs held u v) :
    r = .error ((new topology options).nodeSpec n true).refusal := by
  have begun : Empty topology { { new topology options with retryInterval := again } with
      built := true } := ⟨rfl, rfl, rfl, rfl, rfl, rfl⟩
  have hr := On.runs_bind_modify_iff.mp (On.runs_bind_get_iff.mp hrebuild)
  obtain ⟨w, z, x, c₁, l₄, rfl, hall, hr⟩ := On.runs_bind_result_iff.mp hr
  have hrun := runs_buildAll begun rfl hall
  have plan : topology.plan = .share :: .bridge :: .node n :: (rest.map .node ++
      (Topology.wireSteps 0 topology.links ++ (List.range topology.nodes.length).map .ready)) := by
    simp [Topology.plan, Topology.construction, hnodes]
  rw [plan] at hrun
  have hx := carriedOut_refused rfl hrun (anchored_of_built hbuild)
    (List.forall_mem_append.mp hsucceed).1 hrunning.left hlists.left
  subst hx
  obtain ⟨_, _, _, _, _, -, -, hr⟩ := On.runs_bind_result_iff.mp hr
  exact (On.runs_throw_iff.mp hr).2.1

end Controller

end SwitchLab

/-! ## The lone switch, built again

Its interface is there until the old namespace is deleted. -/

namespace SwitchLab.LoneSwitch

open Controller
open HalfWired (inShared inspected sharing runs_of_face allowsAll allowsAllMounts)

/-- The node is found running, and only its own links are listed. -/
def attaching : Trace Host :=
  [inspected "Running" "dut" "true\n", inspected "Running" "dut" "true\n",
    inspected "Pid" "dut" "7\n",
    Command.ran ⟨"nsenter", ["-t", "7", "-n", "ip", "-o", "link", "show"]⟩
      (.ok ⟨0, "1: lo: <LOOPBACK>\n2: eth0@if5: <BROADCAST>\n", ""⟩)]

/-- The second build. The logs are asked for, and what was made is removed. -/
def again : Trace Host :=
  sharing ++ (attaching ++ [silently "docker" ["logs", "dut"], inShared ["del", "topobr0"],
    silently "ip" ["netns", "del", "lab-topo"]])

def refusal : Fault := .invalidValue "dut: 0 front-panel interfaces, expected 1..=1"

def ended : Controller := { new topology options with built := true, tornDown := true }

theorem runs_rebuild :
    On.Runs build (new topology options) .empty again (.error refusal) ended .empty :=
  runs_of_face (keeps_build allowsAll allowsAllMounts fun _ _ => trivial)
    (manages rfl rfl rfl (List.forall_mem_nil _)) rfl (by decide +kernel)

theorem again_succeeds : ∀ x ∈ again, x.fails = false := by decide +kernel

theorem again_keptRunning : Container.KeptRunning "dut" again :=
  ⟨by decide +kernel, by decide +kernel⟩

theorem again_lists : ListsPairs built.heldBy trace again := by decide +kernel

def node : Node := ⟨"dut", none, none, none⟩

theorem rebuild_refused_lone :
    topology.nodes = node :: [] ∧
    On.Runs build { new topology options with retryInterval := .ofSecs 1 } .empty trace (.ok ())
      built LatePort.ledger ∧
    On.Runs build { new topology options with retryInterval := .ofSecs 1 } .empty again
      (.error refusal) ended .empty ∧
    (∀ x ∈ again, x.fails = false) ∧ Container.KeptRunning node.name again ∧
    ListsPairs built.heldBy trace again ∧
    (.error refusal : Except Fault Unit) =
      .error ((new topology options).nodeSpec node true).refusal :=
  ⟨rfl, runs_build, runs_rebuild, again_succeeds, again_keptRunning, again_lists,
    rebuild_refused (.ofSecs 1) (.ofSecs 1) rfl runs_build runs_rebuild again_succeeds
      again_keptRunning again_lists⟩

def document : TopologyInput where
  name := "lab"
  nodes := [⟨"dut", none, none, none⟩]
  links := [⟨"l", ⟨"dut:eth1", none, none, none⟩, ⟨"dut:up0", none, none, none⟩⟩]

/-- The front-panel interfaces of a node that the links of a topology name. -/
def frontPanelEnds (n : Node) : List String :=
  (topology.endpoints.filter fun e => e.node = n.name && Device.isFrontPanel e.iface).map (·.iface)

/-- The switch has its one interface when the second build begins. All commands of it succeed, and
the switch is refused for having none. -/
theorem standing_refused :
    TopologyInput.validate document = .ok topology ∧
    (∀ n ∈ topology.nodes, (frontPanelEnds n).length = 1 ∧ n.ports.getD options.numPorts = 1) ∧
    On.Runs build (new topology options) .empty trace (.ok ()) built LatePort.ledger ∧
    (endsIn (pairsAfter built.heldBy [] trace) "7").filter Device.isFrontPanel = ["eth1"] ∧
    (∀ x ∈ again, x.fails = false) ∧ Container.KeptRunning "dut" again ∧
    ListsPairs built.heldBy trace again ∧
    On.Runs build (new topology options) .empty again (.error refusal) ended .empty :=
  ⟨by decide +kernel, by decide +kernel, runs_build, by decide +kernel, again_succeeds,
    again_keptRunning, again_lists, runs_rebuild⟩

end SwitchLab.LoneSwitch
