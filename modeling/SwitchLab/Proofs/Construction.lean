import SwitchLab.Proofs.Building
import SwitchLab.Proofs.Events
import SwitchLab.Proofs.Histories

/-! How a topology is built: a plan of steps, what each of them does to the
controller, and how far the controller is when some of them are done. -/

namespace SwitchLab

variable {l l' : Ledger} {t : Trace Host} {topology : Topology} {shared : Namespace}

/-! ## The plan -/

inductive BuildStep where
  | share
  | bridge
  | node (node : Node)
  | wire (index : Nat) (side : Char) (e : Endpoint)
  | ready (index : Nat)

namespace BuildStep

def act (shared : Namespace) : BuildStep → On Controller Unit
  | share => do
    let ns ← Namespace.create shared.name
    modify fun c => { c with shared := some ns }
  | bridge => do shared.addBridge Controller.bridge
  | node n => Controller.buildNode n
  | wire index side e => Controller.wire index side e shared
  | ready index => do
    if let some d := (← get).nodes[index]? then
      On.part (fun _ => d) (fun d c => { c with nodes := c.nodes.set index d }) Device.checkReady

/-- The name of the node that a step makes. -/
def node? : BuildStep → Option String
  | node n => some n.name
  | _ => none

end BuildStep

namespace Topology

/-- The plan for some links, the first of which has the number `index`. -/
def wireSteps (index : Nat) (links : List Link) : List BuildStep :=
  (links.zipIdx index).flatMap fun (link, index) =>
    [.wire index 'a' link.a, .wire index 'b' link.b]

/-- The shared namespace and its bridge, the nodes, and the ends of the links. -/
def construction (topology : Topology) : List BuildStep :=
  [.share, .bridge] ++ (topology.nodes.map .node ++ wireSteps 0 topology.links)

/-- All is made in the order of the document, and then the nodes become ready, in this order too. -/
def plan (topology : Topology) : List BuildStep :=
  topology.construction ++ (List.range topology.nodes.length).map .ready

/-- What is noted of the end of a link. -/
def wiredEnd (topology : Topology) (index : Nat) (side : Char) (e : Endpoint) : WiredEnd where
  node := (topology.nodes.map (·.name)).idxOf e.node
  iface := e.iface
  nodeEnd := Veth.name (Veth.stem topology.name) index side 0
  sharedEnd := Veth.name (Veth.stem topology.name) index side 1

/-- Two ends for each link, in the order of the document. -/
def wiring (topology : Topology) : List WiredEnd :=
  topology.links.zipIdx.flatMap fun (link, index) =>
    [topology.wiredEnd index 'a' link.a, topology.wiredEnd index 'b' link.b]

/-- The end that a step wires. -/
def end? (topology : Topology) : BuildStep → Option WiredEnd
  | .wire index side e => some (topology.wiredEnd index side e)
  | _ => none

/-- What a plan has for nodes, and for ends of links. -/
theorem filterMap_construction {β : Type} {f : BuildStep → Option β} (hshare : f .share = none)
    (hbridge : f .bridge = none) :
    topology.construction.filterMap f = topology.nodes.filterMap (fun n => f (.node n)) ++
      topology.links.zipIdx.flatMap fun (link, index) =>
        [f (.wire index 'a' link.a), f (.wire index 'b' link.b)].filterMap id := by
  have nodes : (topology.nodes.map .node).filterMap f =
      topology.nodes.filterMap fun n => f (.node n) := List.filterMap_map
  have links : (wireSteps 0 topology.links).filterMap f =
      topology.links.zipIdx.flatMap fun (link, index) =>
        [f (.wire index 'a' link.a), f (.wire index 'b' link.b)].filterMap id := by
    simp [wireSteps, List.filterMap_flatMap, List.filterMap_cons]
  rw [construction, List.filterMap_append, List.filterMap_append, nodes, links]
  simp [hshare, hbridge]

theorem filterMap_plan {β : Type} {f : BuildStep → Option β} (hready : ∀ i, f (.ready i) = none) :
    topology.plan.filterMap f = topology.construction.filterMap f := by
  simp [plan, List.filterMap_map, hready]

theorem construction_nodes :
    topology.construction.filterMap BuildStep.node? = topology.nodes.map (·.name) := by
  rw [filterMap_construction rfl rfl]
  simp [BuildStep.node?]

theorem plan_nodes : topology.plan.filterMap BuildStep.node? = topology.nodes.map (·.name) := by
  rw [filterMap_plan fun _ => rfl, construction_nodes]

theorem plan_ends : topology.plan.filterMap topology.end? = topology.wiring := by
  rw [filterMap_plan fun _ => rfl, filterMap_construction rfl rfl]
  simp [end?, wiring]

/-- All that the plan has for nodes, and for ends of links, up to a step. -/
theorem nodes_of_step {done rest : List BuildStep} {a : BuildStep}
    (h : done ++ a :: rest = topology.plan) :
    (done ++ [a]).filterMap BuildStep.node? <+: topology.nodes.map (·.name) := by
  rw [← plan_nodes, ← h]
  exact List.IsPrefix.filterMap _ ⟨rest, by simp⟩

theorem ends_of_step {done rest : List BuildStep} {a : BuildStep}
    (h : done ++ a :: rest = topology.plan) :
    (done ++ [a]).filterMap topology.end? <+: topology.wiring := by
  rw [← plan_ends, ← h]
  exact List.IsPrefix.filterMap _ ⟨rest, by simp⟩

theorem ready_not_mem_construction (index : Nat) : .ready index ∉ topology.construction := by
  simp [construction, wireSteps]

/-- The stages come after all nodes are made. -/
theorem nodes_of_ready {done rest : List BuildStep} {index : Nat}
    (h : done ++ .ready index :: rest = topology.plan) :
    done.filterMap BuildStep.node? = topology.nodes.map (·.name) ∧
      index < topology.nodes.length := by
  have hmem : BuildStep.ready index ∈ topology.plan := by simp [← h]
  have hindex : index < topology.nodes.length := by
    simpa [plan, topology.ready_not_mem_construction] using hmem
  refine ⟨?_, hindex⟩
  rcases List.append_eq_append_iff.mp h with ⟨late, hfirst, hlate⟩ | ⟨early, rfl, hready⟩
  · cases late with
    | nil => rw [← construction_nodes, hfirst, List.append_nil]
    | cons a late =>
      -- a stage before all nodes and ends are made
      obtain ⟨rfl, -⟩ := List.cons.inj hlate
      exact absurd (by simp [hfirst]) (topology.ready_not_mem_construction index)
  · have stages : early.filterMap BuildStep.node? = [] := by
      rw [List.filterMap_eq_nil_iff]
      intro a ha
      have hstage : a ∈ (List.range topology.nodes.length).map BuildStep.ready := by
        rw [hready]
        exact List.mem_append_left _ ha
      obtain ⟨i, -, rfl⟩ := List.mem_map.mp hstage
      rfl
    rw [List.filterMap_append, stages, List.append_nil, construction_nodes]

end Topology

namespace Controller

variable {c c' : Controller} {r : Except Fault Unit}

/-! ## What the steps do -/

theorem runs_share (hr : On.Runs (BuildStep.share.act shared) c l t r c' l') :
    (c' = c ∧ r ≠ .ok ()) ∨ (c' = { c with shared := some shared } ∧ r = .ok ()) := by
  rcases On.runs_bind_lift_iff.mp hr with ⟨u, v, ns, l₁, rfl, hcreate, hr⟩ | ⟨e, rfl, rfl, -⟩
  · obtain ⟨-, rfl, rfl, -⟩ := On.runs_modify_iff.mp hr
    obtain ⟨rfl, -⟩ := Namespace.runs_create_ok hcreate
    exact .inr ⟨rfl, rfl⟩
  · exact .inl ⟨rfl, nofun⟩

theorem runs_bridge (hr : On.Runs (BuildStep.bridge.act shared) c l t r c' l') : c' = c :=
  (On.runs_lift_iff.mp hr).1

/-- The node is looked at, and then made, or attached to if it is running. -/
theorem runs_node_cases {n : Node}
    (hr : On.Runs ((BuildStep.node n).act shared) c l t r c' l') :
    ∃ u v running l₁, t = u ++ v ∧ Lab.Runs (Container.isRunning n.name) l u running l₁ ∧
      ((∃ d, Attempt.Runs (Device.create (c.nodeSpec n running)) l₁ v (.ok d) l' ∧ r = .ok () ∧
        c' = { c with nodes := c.nodes ++ [d] }) ∨
      ∃ e, Attempt.Runs (Device.create (c.nodeSpec n running)) l₁ v (.error e) l' ∧
        r = .error e ∧ c' = c) := by
  obtain ⟨u, v, running, l₁, rfl, hlook, hr⟩ := On.runs_bind_liftLab_iff.mp hr
  refine ⟨u, v, running, l₁, rfl, hlook, ?_⟩
  rcases On.runs_bind_lift_iff.mp (On.runs_bind_get_iff.mp hr) with
    ⟨w, x, d, l₂, rfl, hcreate, hr⟩ | ⟨e, rfl, rfl, hcreate⟩
  · obtain ⟨rfl, rfl, rfl, rfl⟩ := On.runs_modify_iff.mp hr
    rw [List.append_nil]
    exact .inl ⟨d, hcreate, rfl, rfl⟩
  · exact .inr ⟨e, hcreate, rfl, rfl⟩

theorem runs_node {n : Node} (hc : c.adjust = id)
    (hr : On.Runs ((BuildStep.node n).act shared) c l t r c' l') :
    (c' = c ∧ r ≠ .ok ()) ∨
    ∃ d, d.name = n.name ∧ d.HasPid ∧ c' = { c with nodes := c.nodes ++ [d] } ∧ r = .ok () := by
  obtain ⟨u, v, running, l₁, rfl, -, ⟨d, hcreate, rfl, rfl⟩ | ⟨e, -, rfl, rfl⟩⟩ :=
    runs_node_cases hr
  · have hsetUp := Device.runs_create_ok hcreate
    refine .inr ⟨d, ?_, Device.hasPid_of_setUp hsetUp, rfl, rfl⟩
    rw [Device.name, (Device.making_of_setUp hsetUp).forSpec, nodeSpec_of_unadjusted hc]
    rfl
  · exact .inl ⟨rfl, nofun⟩

theorem runs_wire {index : Nat} {side : Char} {e : Endpoint}
    (hr : On.Runs ((BuildStep.wire index side e).act shared) c l t r c' l') :
    (c' = c ∧ r ≠ .ok ()) ∨
    ∃ node, c.nodes.findIdx? (·.name = e.node) = some node ∧
      c' = { c with wired := c.wired ++ [{
        node
        iface := e.iface
        nodeEnd := Veth.name (Veth.stem c.topology.name) index side 0
        sharedEnd := Veth.name (Veth.stem c.topology.name) index side 1 }] } := by
  have hr := On.runs_bind_get_iff.mp hr
  split at hr
  case h_2 =>
    obtain ⟨-, rfl, rfl, -⟩ := On.runs_throw_iff.mp hr
    exact .inl ⟨rfl, nofun⟩
  case h_1 node hnode =>
    split at hr
    case h_2 =>
      obtain ⟨-, rfl, rfl, -⟩ := On.runs_throw_iff.mp hr
      exact .inl ⟨rfl, nofun⟩
    case h_1 pid hpid =>
      rcases On.runs_bind_lift_iff.mp hr with ⟨_, _, _, _, -, -, hr⟩ | ⟨_, rfl, rfl, -⟩
      case inr => exact .inl ⟨rfl, nofun⟩
      rcases On.runs_bind_lift_iff.mp hr with ⟨_, _, _, _, -, -, hr⟩ | ⟨_, rfl, rfl, -⟩
      case inr => exact .inl ⟨rfl, nofun⟩
      rcases On.runs_bind_lift_iff.mp hr with ⟨_, _, _, _, -, -, hr⟩ | ⟨_, rfl, rfl, -⟩
      case inr => exact .inl ⟨rfl, nofun⟩
      rcases On.runs_bind_lift_iff.mp hr with ⟨_, _, _, _, -, -, hr⟩ | ⟨_, rfl, rfl, -⟩
      case inr => exact .inl ⟨rfl, nofun⟩
      -- from here on the pair is there
      refine .inr ⟨node, hnode, ?_⟩
      exact (keeps_fasten (K := fun c' => c' = _) allows_noStoreCall _ rfl).of_runs
        (On.runs_bind_modify_iff.mp hr) |>.2

theorem runs_ready {index : Nat}
    (hr : On.Runs ((BuildStep.ready index).act shared) c l t r c' l') :
    (c' = c ∧ c.nodes[index]? = none) ∨
    ∃ d d', c.nodes[index]? = some d ∧ d'.made = d.made ∧ (r = .ok () → d'.state = .ready) ∧
      c' = { c with nodes := c.nodes.set index d' } := by
  have hr := On.runs_bind_get_iff.mp hr
  split at hr
  case h_2 h =>
    obtain ⟨-, -, rfl, -⟩ := On.runs_pure_iff.mp hr
    refine .inl ⟨rfl, ?_⟩
    cases hd : c'.nodes[index]? with
    | none => rfl
    | some d => exact absurd hd (h d)
  case h_1 d hd =>
    obtain ⟨d', hcheck, rfl⟩ := On.runs_part_iff.mp hr
    have outcome : Device.Outcome .checkReady d t r d' := Device.act_outcome hcheck
    refine .inr ⟨d, d', hd, outcome.made, ?_, rfl⟩
    rintro rfl
    rcases Device.runs_checkReady_cases hcheck with ⟨hs, -, -, rfl⟩ | ⟨-, -, hx, -⟩ |
      ⟨-, ⟨stores, -, -, rfl⟩ | ⟨_, _, _, _, hx, -⟩⟩
    · exact hs
    · cases hx
    · rfl
    · cases hx

/-! ## How far the controller is -/

/-- A controller that is building, or has built: all that it notes is part of the plan. -/
structure Sound (topology : Topology) (shared : Namespace) (c : Controller) : Prop where
  forTopology : c.topology = topology
  unadjusted : c.adjust = id
  begun : c.built = true
  held : c.tornDown = false
  shared : c.shared = some shared
  names : c.nodes.map (·.name) <+: topology.nodes.map (·.name)
  pids : ∀ d ∈ c.nodes, d.HasPid
  wired : c.wired <+: topology.wiring
  ends : ∀ w ∈ c.wired, w.node < c.nodes.length

/-- The steps `done` of the plan were taken. -/
structure Progress (topology : Topology) (shared : Namespace) (done : List BuildStep)
    (c : Controller) : Prop extends Sound topology shared c where
  namesDone : c.nodes.map (·.name) = done.filterMap BuildStep.node?
  wiredDone : c.wired = done.filterMap topology.end?
  ready : ∀ i, .ready i ∈ done → ∃ d, c.nodes[i]? = some d ∧ d.state = .ready

variable {done rest : List BuildStep}

theorem Sound.addNode {d : Device} (h : Sound topology shared c) (hd : d.HasPid)
    (hnames : (c.nodes ++ [d]).map (·.name) <+: topology.nodes.map (·.name)) :
    Sound topology shared { c with nodes := c.nodes ++ [d] } where
  forTopology := h.forTopology
  unadjusted := h.unadjusted
  begun := h.begun
  held := h.held
  shared := h.shared
  names := hnames
  pids := List.forall_mem_append.mpr ⟨h.pids, by simpa using hd⟩
  wired := h.wired
  ends w hw := by
    have := h.ends w hw
    simp only [List.length_append]
    omega

theorem Sound.addEnd {w : WiredEnd} (h : Sound topology shared c) (hw : w.node < c.nodes.length)
    (hwired : c.wired ++ [w] <+: topology.wiring) :
    Sound topology shared { c with wired := c.wired ++ [w] } where
  forTopology := h.forTopology
  unadjusted := h.unadjusted
  begun := h.begun
  held := h.held
  shared := h.shared
  names := h.names
  pids := h.pids
  wired := hwired
  ends := List.forall_mem_append.mpr ⟨h.ends, by simpa using hw⟩

/-- Putting a node in its own place that is made as before. -/
theorem Sound.setNode {i : Nat} {d d' : Device} (h : Sound topology shared c)
    (hd : c.nodes[i]? = some d) (hmade : d'.made = d.made) :
    Sound topology shared { c with nodes := c.nodes.set i d' } ∧
      (c.nodes.set i d').map (·.name) = c.nodes.map (·.name) := by
  obtain ⟨hi, hget⟩ := List.getElem?_eq_some_iff.mp hd
  have hspec : d'.spec = d.spec := by
    have hsame := congrArg Device.spec hmade
    exact hsame
  have hpid : d'.pid = d.pid := by
    have hsame := congrArg Device.pid hmade
    exact hsame
  have names : (c.nodes.set i d').map (·.name) = c.nodes.map (·.name) := by
    have hi' : i < (c.nodes.map (·.name)).length := by simpa using hi
    have hname : d'.name = (c.nodes.map (·.name))[i] := by
      rw [List.getElem_map, hget, Device.name, Device.name, hspec]
    rw [List.map_set, hname, List.set_getElem_self]
  refine ⟨⟨h.forTopology, h.unadjusted, h.begun, h.held, h.shared, names ▸ h.names, ?_, h.wired,
    by simpa using h.ends⟩, names⟩
  intro x hx
  rcases List.mem_or_eq_of_mem_set hx with hx | rfl
  · exact h.pids x hx
  · rw [Device.HasPid, hpid]
    exact h.pids d (hget ▸ List.getElem_mem hi)

/-- A node that is found among those made so far has its place in the document. -/
theorem Sound.findIdx {name : String} {node : Nat} (h : Sound topology shared c)
    (hfind : c.nodes.findIdx? (·.name = name) = some node) :
    node = (topology.nodes.map (·.name)).idxOf name ∧ node < c.nodes.length := by
  obtain ⟨hlt, hidx⟩ := List.findIdx?_eq_some_iff_findIdx_eq.mp hfind
  have made : (c.nodes.map (·.name)).idxOf name = node := by
    rw [← hidx, List.idxOf, List.findIdx_map]
    rfl
  have hmem : name ∈ c.nodes.map (·.name) := by
    rw [← List.idxOf_lt_length_iff, made]
    simpa using hlt
  obtain ⟨later, hnames⟩ := h.names
  rw [← hnames, List.idxOf_append, if_pos hmem, made]
  exact ⟨rfl, hlt⟩

namespace Progress

theorem bridge (h : Progress topology shared done c) :
    Progress topology shared (done ++ [.bridge]) c :=
  { h with
    namesDone := by simpa [List.filterMap_cons, BuildStep.node?] using h.namesDone
    wiredDone := by simpa [List.filterMap_cons, Topology.end?] using h.wiredDone
    ready := fun i hi => h.ready i (by simpa using hi) }

theorem node {n : Node} {d : Device} (h : Progress topology shared done c)
    (hplan : done ++ .node n :: rest = topology.plan) (hname : d.name = n.name)
    (hpid : d.HasPid) :
    Progress topology shared (done ++ [.node n]) { c with nodes := c.nodes ++ [d] } := by
  have names : (c.nodes ++ [d]).map (·.name) =
      (done ++ [BuildStep.node n]).filterMap BuildStep.node? := by
    simp [h.namesDone, hname, BuildStep.node?]
  have sound := h.toSound.addNode hpid (names ▸ Topology.nodes_of_step hplan)
  refine { sound with
    namesDone := names
    wiredDone := by simpa [List.filterMap_cons, Topology.end?] using h.wiredDone
    ready := fun i hi => ?_ }
  obtain ⟨d', hd', hs⟩ := h.ready i (by simpa using hi)
  exact ⟨d', List.getElem?_append_left (List.getElem?_eq_some_iff.mp hd').1 ▸ hd', hs⟩

theorem wire {index : Nat} {side : Char} {e : Endpoint} (h : Progress topology shared done c)
    (hplan : done ++ .wire index side e :: rest = topology.plan)
    (hnode : (topology.nodes.map (·.name)).idxOf e.node < c.nodes.length) :
    Progress topology shared (done ++ [.wire index side e])
      { c with wired := c.wired ++ [topology.wiredEnd index side e] } := by
  have wired : c.wired ++ [topology.wiredEnd index side e] =
      (done ++ [BuildStep.wire index side e]).filterMap topology.end? := by
    simp [h.wiredDone, Topology.end?]
  have hends := Topology.ends_of_step hplan
  rw [← wired] at hends
  exact { h.toSound.addEnd hnode hends with
    namesDone := by simpa [List.filterMap_cons, BuildStep.node?] using h.namesDone
    wiredDone := wired
    ready := fun i hi => h.ready i (by simpa using hi) }

theorem setNode {i : Nat} {d d' : Device} (h : Progress topology shared done c)
    (hd : c.nodes[i]? = some d) (hmade : d'.made = d.made) (hs : d'.state = .ready) :
    Progress topology shared (done ++ [.ready i]) { c with nodes := c.nodes.set i d' } := by
  obtain ⟨sound, hsame⟩ := h.toSound.setNode hd hmade
  have hi := (List.getElem?_eq_some_iff.mp hd).1
  refine { sound with
    namesDone := by simpa [List.filterMap_cons, BuildStep.node?, hsame] using h.namesDone
    wiredDone := by simpa [List.filterMap_cons, Topology.end?] using h.wiredDone
    ready := fun j hj => ?_ }
  by_cases hij : j = i
  · subst hij
    exact ⟨d', by simp [hi], hs⟩
  · rw [List.getElem?_set_ne (Ne.symm hij)]
    exact h.ready j (by simpa [hij] using hj)

/-- What a step of the plan does, after those before it were taken. -/
theorem act {a : BuildStep} (h : Progress topology shared done c) (ha : a ≠ .share)
    (hplan : done ++ a :: rest = topology.plan) (hr : On.Runs (a.act shared) c l t r c' l') :
    Sound topology shared c' ∧ (r = .ok () → Progress topology shared (done ++ [a]) c') := by
  cases a with
  | share => exact absurd rfl ha
  | bridge =>
    obtain rfl := runs_bridge hr
    exact ⟨h.toSound, fun _ => h.bridge⟩
  | node n =>
    rcases runs_node h.unadjusted hr with ⟨rfl, hne⟩ | ⟨d, hname, hpid, rfl, -⟩
    · exact ⟨h.toSound, fun hok => absurd hok hne⟩
    · have progress := h.node hplan hname hpid
      exact ⟨progress.toSound, fun _ => progress⟩
  | wire index side e =>
    rcases runs_wire hr with ⟨rfl, hne⟩ | ⟨node, hfind, rfl⟩
    · exact ⟨h.toSound, fun hok => absurd hok hne⟩
    · obtain ⟨rfl, hnode⟩ := h.toSound.findIdx hfind
      obtain rfl := h.forTopology
      have progress := h.wire hplan hnode
      exact ⟨progress.toSound, fun _ => progress⟩
  | ready index =>
    rcases runs_ready hr with ⟨-, hnone⟩ | ⟨d, d', hd, hmade, hready, rfl⟩
    · -- all nodes were made before
      obtain ⟨hall, hindex⟩ := Topology.nodes_of_ready hplan
      have hlength := congrArg List.length (h.namesDone.trans hall)
      simp only [List.length_map] at hlength
      rw [List.getElem?_eq_none_iff] at hnone
      omega
    · exact ⟨(h.toSound.setNode hd hmade).1, fun hok => h.setNode hd hmade (hready hok)⟩

end Progress

/-- The steps of a part of the plan. -/
theorem Progress.carriedOut {steps : List BuildStep}
    (hrun : CarriedOut (BuildStep.act shared) steps c t r c')
    (h : Progress topology shared done c) (hs : .share ∉ steps)
    (hplan : done ++ steps ++ rest = topology.plan) :
    Sound topology shared c' ∧ (r = .ok () → Progress topology shared (done ++ steps) c') := by
  induction hrun generalizing done with
  | done c => exact ⟨h.toSound, fun _ => by rwa [List.append_nil]⟩
  | @step a steps c c₁ c' _ _ _ _ r ha _ ih =>
    obtain ⟨hne, hs⟩ := List.ne_and_not_mem_of_not_mem_cons hs
    have hnext := (h.act hne.symm (by simpa using hplan) ha).2 rfl
    obtain ⟨hsound, hok⟩ := ih hnext hs (by simpa using hplan)
    exact ⟨hsound, fun hr => by simpa using hok hr⟩
  | @stopped a steps c c' _ _ _ _ ha =>
    obtain ⟨hne, -⟩ := List.ne_and_not_mem_of_not_mem_cons hs
    exact ⟨(h.act hne.symm (by simpa using hplan) ha).1, nofun⟩

/-! ## Building is carrying out the plan -/

theorem carriedOut_buildShared {x : Except Fault Namespace}
    (hr : On.Runs buildShared c l t x c' l') :
    CarriedOut (BuildStep.act ⟨c.sharedName⟩) [.share, .bridge] c t (x.map fun _ => ()) c' ∧
      ∀ ns, x = .ok ns → ns = ⟨c.sharedName⟩ := by
  rcases On.runs_bind_lift_iff.mp (On.runs_bind_get_iff.mp hr) with
    ⟨u, v, ns, l₁, rfl, hcreate, hr⟩ | ⟨e, rfl, rfl, hcreate⟩
  · obtain ⟨rfl, -⟩ := Namespace.runs_create_ok hcreate
    have hr := On.runs_bind_modify_iff.mp hr
    have share : On.Runs (BuildStep.share.act ⟨c.sharedName⟩) c l u (.ok ())
        { c with shared := some ⟨c.sharedName⟩ } l₁ :=
      On.runs_bind_lift_iff.mpr (.inl ⟨u, [], _, l₁, (List.append_nil u).symm, hcreate,
        On.runs_modify_iff.mpr ⟨rfl, rfl, rfl, rfl⟩⟩)
    rcases On.runs_bind_lift_iff.mp hr with
      ⟨v, w, ⟨⟩, l₂, rfl, hbridge, hr⟩ | ⟨e, rfl, rfl, hbridge⟩
    · obtain ⟨rfl, rfl, rfl, -⟩ := On.runs_pure_iff.mp hr
      refine ⟨.step share (.step (On.runs_lift_iff.mpr ⟨rfl, hbridge⟩) (.done _)), ?_⟩
      rintro _ ⟨⟩
      rfl
    · exact ⟨.step share (.stopped (On.runs_lift_iff.mpr ⟨rfl, hbridge⟩)), nofun⟩
  · have share : On.Runs (BuildStep.share.act ⟨c'.sharedName⟩) c' l t (.error e) c' l' :=
      On.runs_bind_lift_iff.mpr (.inr ⟨e, rfl, rfl, hcreate⟩)
    exact ⟨.stopped share, nofun⟩

theorem carriedOut_nodes {nodes : List Node}
    (hr : On.Runs (ForIn.forIn nodes PUnit.unit fun node _ => do
      buildNode node
      pure (ForInStep.yield PUnit.unit)) c l t r c' l') :
    CarriedOut (BuildStep.act shared) (nodes.map .node) c t (r.map fun _ => ()) c' := by
  induction nodes generalizing c l t with
  | nil =>
    obtain ⟨rfl, rfl, rfl, -⟩ := On.runs_pure_iff.mp hr
    exact .done _
  | cons node nodes ih =>
    rw [List.forIn_cons, bind_assoc] at hr
    simp only [pure_bind] at hr
    rcases On.runs_bind_iff.mp hr with ⟨u, v, ⟨⟩, c₁, l₁, rfl, hnode, hr⟩ | ⟨e, rfl, hnode⟩
    · exact .step hnode (ih hr)
    · exact .stopped hnode

theorem carriedOut_wireLinks {links : List Link} {index : Nat}
    (hr : On.Runs (wireLinks shared index links) c l t r c' l') :
    CarriedOut (BuildStep.act shared) (Topology.wireSteps index links) c t (r.map fun _ => ())
      c' := by
  induction links generalizing c l t index with
  | nil =>
    obtain ⟨rfl, rfl, rfl, -⟩ := On.runs_pure_iff.mp hr
    exact .done _
  | cons link links ih =>
    have hsteps : Topology.wireSteps index (link :: links) =
        .wire index 'a' link.a :: .wire index 'b' link.b ::
          Topology.wireSteps (index + 1) links := by
      simp [Topology.wireSteps, List.zipIdx_cons]
    rw [hsteps]
    rcases On.runs_bind_iff.mp hr with ⟨u, v, ⟨⟩, c₁, l₁, rfl, ha, hr⟩ | ⟨e, rfl, ha⟩
    · rcases On.runs_bind_iff.mp hr with ⟨v, w, ⟨⟩, c₂, l₂, rfl, hb, hr⟩ | ⟨e, rfl, hb⟩
      · exact .step ha (.step hb (ih hr))
      · exact .step ha (.stopped hb)
    · exact .stopped ha

theorem runs_ready_of (shared : Namespace) {before after : List Device} {d d' : Device}
    (hc : c.nodes = before ++ d :: after) (hr : On.Runs Device.checkReady d l t r d' l') :
    On.Runs ((BuildStep.ready before.length).act shared) c l t r
      { c with nodes := before ++ d' :: after } l' := by
  have hget : c.nodes[before.length]? = some d := by simp [hc]
  refine On.runs_bind_get_iff.mpr ?_
  simp only [hget]
  exact On.runs_part_iff.mpr ⟨d', hr, by simp [hc]⟩

theorem carriedOut_readyAll (shared : Namespace) {before devices devices' : List Device}
    (hc : c.nodes = before ++ devices) (hr : Lab.Runs (readyAll devices) l t (r, devices') l') :
    CarriedOut (BuildStep.act shared)
      ((List.range' before.length devices.length).map .ready) c t r
      { c with nodes := before ++ devices' } := by
  induction devices generalizing before c l t devices' with
  | nil =>
    obtain ⟨rfl, hx, -⟩ := Lab.runs_pure_iff.mp hr
    cases hx
    rw [← hc]
    exact .done c
  | cons d devices ih =>
    obtain ⟨u, v, ⟨x, d'⟩, l₁, rfl, hcheck, hr⟩ := Lab.runs_bind_iff.mp hr
    rw [List.length_cons, List.range'_succ, List.map_cons]
    have hstep := runs_ready_of shared hc hcheck
    cases x with
    | error fault =>
      obtain ⟨rfl, hx, -⟩ := Lab.runs_pure_iff.mp hr
      cases hx
      rw [List.append_nil]
      exact .stopped hstep
    | ok a =>
      obtain ⟨v, w, ⟨y, rest⟩, l₂, rfl, hrest, hr⟩ := Lab.runs_bind_iff.mp hr
      obtain ⟨rfl, hx, rfl⟩ := Lab.runs_pure_iff.mp hr
      cases hx
      have hnodes : ({ c with nodes := before ++ d' :: devices } : Controller).nodes =
          (before ++ [d']) ++ devices := by simp
      have hlater := ih hnodes hrest
      simp only [List.length_append, List.length_singleton, List.append_assoc,
        List.singleton_append] at hlater
      rw [List.append_nil]
      exact .step hstep hlater

theorem share_not_mem {steps : List BuildStep} (hplan : .share :: steps ++ rest = topology.plan) :
    .share ∉ steps := by
  intro hs
  have hrest : steps ++ rest = topology.plan.tail := congrArg List.tail hplan
  have hmem : BuildStep.share ∈ steps ++ rest := List.mem_append_left rest hs
  rw [hrest] at hmem
  simp [Topology.plan, Topology.construction, Topology.wireSteps] at hmem

/-- A controller that has nothing yet. -/
structure Empty (topology : Topology) (c : Controller) : Prop where
  forTopology : c.topology = topology
  unadjusted : c.adjust = id
  held : c.tornDown = false
  shared : c.shared = none
  nodes : c.nodes = []
  wired : c.wired = []

/-- How far a controller is that began with nothing. -/
theorem Empty.carriedOut {steps : List BuildStep} (hc : Empty topology c) (hb : c.built = true)
    (hrun : CarriedOut (BuildStep.act shared) (.share :: steps) c t r c')
    (hplan : .share :: steps ++ rest = topology.plan) :
    (c' = c ∧ r ≠ .ok ()) ∨
    Sound topology shared c' ∧ (r = .ok () → Progress topology shared (.share :: steps) c') := by
  have start : Progress topology shared [.share] { c with shared := some shared } :=
    { forTopology := hc.forTopology
      unadjusted := hc.unadjusted
      begun := hb
      held := hc.held
      shared := rfl
      names := by simp [hc.nodes]
      pids := by simp [hc.nodes]
      wired := by simp [hc.wired]
      ends := by simp [hc.wired]
      namesDone := by simp [hc.nodes, List.filterMap_cons, BuildStep.node?]
      wiredDone := by simp [hc.wired, List.filterMap_cons, Topology.end?]
      ready := by simp }
  cases hrun with
  | step hshare hrun =>
    rcases runs_share hshare with ⟨-, hne⟩ | ⟨rfl, -⟩
    · exact absurd rfl hne
    · exact .inr (start.carriedOut hrun (share_not_mem hplan) hplan)
  | stopped hshare =>
    rcases runs_share hshare with ⟨rfl, -⟩ | ⟨-, hx⟩
    · exact .inl ⟨rfl, nofun⟩
    · cases hx

/-- A part of the plan that was carried out in full. -/
theorem Empty.progress {steps : List BuildStep} (hc : Empty topology c) (hb : c.built = true)
    (hrun : CarriedOut (BuildStep.act shared) (.share :: steps) c t (.ok ()) c')
    (hplan : .share :: steps ++ rest = topology.plan) :
    Progress topology shared (.share :: steps) c' := by
  rcases hc.carriedOut hb hrun hplan with ⟨-, hne⟩ | ⟨-, hok⟩
  · exact absurd rfl hne
  · exact hok rfl

/-- Building takes the steps of the plan. -/
theorem runs_buildAll (hc : Empty topology c) (hb : c.built = true)
    (hr : On.Runs buildAll c l t r c' l') :
    CarriedOut (BuildStep.act ⟨c.sharedName⟩) topology.plan c t r c' := by
  have plan : topology.plan = [.share, .bridge] ++ (topology.nodes.map .node ++
      (Topology.wireSteps 0 topology.links ++ (List.range topology.nodes.length).map .ready)) := by
    simp [Topology.plan, Topology.construction]
  rw [plan]
  refine .bind hr (fun hshared => (carriedOut_buildShared hshared).1)
    fun {_ _ ns c₁ _} hshared hfirst hr => ?_
  obtain rfl := (carriedOut_buildShared hshared).2 ns rfl
  have hr := On.runs_bind_get_iff.mp hr
  rw [(hc.progress hb hfirst plan.symm).forTopology] at hr
  refine .bind hr (fun hnodes => carriedOut_nodes hnodes) fun _ hsecond hr => ?_
  refine .bind hr (fun hwires => carriedOut_wireLinks hwires) fun {_ _ _ c₃ _} _ hthird hr => ?_
  have hlength : c₃.nodes.length = topology.nodes.length := by
    have made := (hc.progress hb (hfirst.append (hsecond.append hthird)) rfl).namesDone
    have hlen := congrArg List.length (made.trans topology.construction_nodes)
    simpa using hlen
  obtain ⟨v, w, ⟨x, devices⟩, l₄, rfl, hready, hr⟩ :=
    On.runs_bind_liftLab_iff.mp (On.runs_bind_get_iff.mp hr)
  obtain ⟨rfl, rfl, rfl, -⟩ := On.runs_mk_pure_iff.mp (On.runs_bind_modify_iff.mp hr)
  have hnodes : c₃.nodes = [] ++ c₃.nodes := rfl
  have hcarried := carriedOut_readyAll ⟨c.sharedName⟩ hnodes hready
  rw [hlength, List.length_nil, ← List.range_eq_range'] at hcarried
  rwa [List.append_nil]

end Controller

end SwitchLab
