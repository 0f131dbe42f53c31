import SwitchLab.Proofs.Readiness
import SwitchLab.Topology.Controller

/-! What a topology asks of the host when it is built, torn down, and removed by
a later session. The directories it handles are those of its nodes. -/

namespace SwitchLab

variable {P : Query → Prop} {topology : Topology} {options : Options} {dirs : List String}

/-- The directories that the host shares with the nodes. -/
def Topology.mountDirs (topology : Topology) (options : Options) : List String :=
  topology.nodes.map fun node => Text.joinPath options.mountRoot node.name

/-- `P` allows the commands that make and remove these directories. -/
structure AllowsMounts (P : Query → Prop) (dirs : List String) : Prop where
  make : ∀ dir ∈ dirs, P (.run ⟨"mkdir", ["-p", dir]⟩)
  remove : ∀ dir ∈ dirs, P (.run ⟨"rm", ["-rf", dir]⟩)

theorem AllowsMounts.directory {spec : DeviceSpec} (h : AllowsMounts P dirs)
    (hs : spec.mountDir ∈ dirs) : AllowsDirectory P spec := ⟨h.make _ hs, h.remove _ hs⟩

namespace Controller

/-- The controller builds this topology, and its nodes share directories of the topology. -/
structure Manages (topology : Topology) (options : Options) (c : Controller) : Prop where
  forTopology : c.topology = topology
  withOptions : c.options = options
  unadjusted : c.adjust = id
  nodes : ∀ d ∈ c.nodes, d.spec.mountDir ∈ topology.mountDirs options

theorem nodeSpec_of_unadjusted {c : Controller} {node : Node} {running : Bool}
    (hc : c.adjust = id) :
    c.nodeSpec node running = { DeviceSpec.named node.name c.options with
      attach := running
      withServers := false
      defaultConfig := node.config
      numPorts := node.ports.getD c.options.numPorts } := by
  rw [nodeSpec, hc]
  rfl

theorem Manages.mountDir_mem {c : Controller} {node : Node} {running : Bool}
    (hc : Manages topology options c) (hn : node ∈ topology.nodes) :
    (c.nodeSpec node running).mountDir ∈ topology.mountDirs options := by
  rw [nodeSpec_of_unadjusted hc.unadjusted, hc.withOptions]
  exact List.mem_map_of_mem hn

variable (hP : AllowsRemoval P)

include hP

/-! ## Building -/

theorem keeps_buildShared : On.Keeps P (Manages topology options) buildShared := by
  have create {name : String} : Attempt.Asks P (Namespace.create name) :=
    Namespace.asks_create hP.toAllows (hP.netns name)
  refine On.Keeps.bind_get fun c _ => On.Keeps.bind_lift create fun _ _ => ?_
  refine On.Keeps.bind (.modify fun _ h => { h with }) fun _ => ?_
  exact On.Keeps.bind_lift (Namespace.asks_addBridge hP.toAllows) fun _ _ => .pure

/-- The ends of a pair are put where they belong. -/
theorem keeps_fasten {K : Controller → Prop} {inside : NetScope} {shared : Namespace}
    {nodeEnd sharedEnd iface : String} : On.Keeps P K (do
      NetScope.host.moveLink nodeEnd inside
      NetScope.host.moveLink sharedEnd shared.scope
      inside.renameLink nodeEnd iface
      inside.setLink iface true
      shared.scope.setMaster sharedEnd bridge
      shared.scope.setLink sharedEnd true : On Controller Unit) := by
  have run {s : NetScope} {args : List String} (h : Command.removes ⟨"ip", args⟩ = false) :
      Attempt.Asks P (s.run args) := NetScope.asks_run hP.toAllows h
  refine On.Keeps.bind_lift (run rfl) fun _ _ => On.Keeps.bind_lift (run rfl) fun _ _ => ?_
  refine On.Keeps.bind_lift (run rfl) fun _ _ => On.Keeps.bind_lift (run rfl) fun _ _ => ?_
  exact On.Keeps.bind_lift (run rfl) fun _ _ => .lift (run rfl)

theorem keeps_wire {index : Nat} {side : Char} {e : Endpoint} {shared : Namespace} :
    On.Keeps P (Manages topology options) (wire index side e shared) := by
  have delete {s : NetScope} {link : String} : Attempt.Asks P (s.deleteLink link) :=
    NetScope.asks_deleteLink hP.toAllows
  have pair {s : NetScope} {a b : String} : Attempt.Asks P (s.addVethPair a b) :=
    NetScope.asks_run hP.toAllows rfl
  refine On.Keeps.bind_get fun c _ => ?_
  split
  · split
    · refine On.Keeps.bind_lift delete fun _ _ => On.Keeps.bind_lift delete fun _ _ => ?_
      refine On.Keeps.bind_lift delete fun _ _ => On.Keeps.bind_lift pair fun _ _ => ?_
      exact On.Keeps.bind (.modify fun _ h => { h with }) fun _ => keeps_fasten hP
    · exact .throw
  · exact .throw

theorem keeps_wireLinks {shared : Namespace} {index : Nat} {links : List Link} :
    On.Keeps P (Manages topology options) (wireLinks shared index links) := by
  induction links generalizing index with
  | nil => exact .pure
  | cons link links ih =>
    exact On.Keeps.bind (keeps_wire hP) fun _ => On.Keeps.bind (keeps_wire hP) fun _ => ih

variable (hd : AllowsMounts P (topology.mountDirs options))

include hd

theorem keeps_buildNode {node : Node} (hn : node ∈ topology.nodes) :
    On.Keeps P (Manages topology options) (buildNode node) := by
  refine On.Keeps.liftLab (asks_isRunning hP.toAllows.containers) fun running _ => ?_
  refine On.Keeps.bind_get fun c hc => ?_
  have hm : (c.nodeSpec node running).mountDir ∈ topology.mountDirs options := hc.mountDir_mem hn
  refine On.Keeps.bind_lift (Device.ensures_create hP (hd.directory hm)) fun d hspec => ?_
  refine .modify fun c h => { h with nodes := fun d' hd' => ?_ }
  rcases List.mem_append.mp hd' with hd' | hd'
  · exact h.nodes d' hd'
  · obtain rfl := List.mem_singleton.mp hd'
    rw [show d'.spec = _ from hspec]
    exact hm

variable (hs : AllowsStores P)

include hs

theorem ensures_readyAll {devices : List Device}
    (hall : ∀ d ∈ devices, d.spec.mountDir ∈ topology.mountDirs options) :
    Lab.Ensures P (fun x => ∀ d ∈ x.2, d.spec.mountDir ∈ topology.mountDirs options)
      (readyAll devices) := by
  induction devices with
  | nil => exact Lab.Ensures.pure hall
  | cons d devices ih =>
    have hdir := hall d (by simp)
    have hrest : ∀ d ∈ devices, d.spec.mountDir ∈ topology.mountDirs options :=
      fun d hm => hall d (by simp [hm])
    refine Lab.Ensures.bind (Device.keeps_checkReady hP (hd.directory hdir) hs d rfl) ?_
    rintro ⟨r, d'⟩ hspec
    have hdir' : d'.spec.mountDir ∈ topology.mountDirs options := by
      rw [show d'.spec = d.spec from hspec]
      exact hdir
    cases r with
    | error fault => exact Lab.Ensures.pure (List.forall_mem_cons.mpr ⟨hdir', hrest⟩)
    | ok a =>
      refine Lab.Ensures.bind (ih hrest) fun x hx => ?_
      exact Lab.Ensures.pure (List.forall_mem_cons.mpr ⟨hdir', hx⟩)

theorem keeps_buildAll : On.Keeps P (Manages topology options) buildAll := by
  refine On.Keeps.bind (keeps_buildShared hP) fun shared => On.Keeps.bind_get fun c hc => ?_
  refine On.Keeps.bind (.forIn fun node hn => keeps_buildNode hP hd ?_) fun _ => ?_
  · rwa [hc.forTopology] at hn
  · refine On.Keeps.bind (keeps_wireLinks hP) fun _ => On.Keeps.bind_get fun c hc => ?_
    refine On.Keeps.liftLab (ensures_readyAll hP hd hs hc.nodes) fun x hx => ?_
    exact On.Keeps.bind (.modify fun _ h => { h with nodes := hx }) fun _ => .mk_pure

/-! ## Teardown -/

omit hd hs in
theorem asks_unwireAll {places : List (NetScope × String)} : Lab.Asks P (unwireAll places) := by
  induction places with
  | nil => exact .pure
  | cons place places ih =>
    refine (asks_step (NetScope.asks_deleteLink hP.toAllows)).bind fun _ => ?_
    exact ih.bind fun _ => .pure

omit hs in
theorem asks_destroyAll {devices : List Device}
    (hall : ∀ d ∈ devices, d.spec.mountDir ∈ topology.mountDirs options) :
    Lab.Asks P (destroyAll devices) := by
  induction devices with
  | nil => exact .pure
  | cons d devices ih =>
    have hdir := hd.directory (hall d (by simp))
    refine Lab.Ensures.bind (Device.keeps_destroy hP hdir d rfl) ?_
    rintro ⟨r, d'⟩ hspec
    refine (asks_step (.mk .pure)).bind fun _ => ?_
    refine (Device.asks_drop hP hdir hspec).bind fun _ => ?_
    exact (ih fun d hm => hall d (by simp [hm])).bind fun _ => .pure

omit hd hs in
theorem asks_deleteShared {shared : Namespace} : Lab.Asks P (deleteShared shared) :=
  (asks_step (NetScope.asks_deleteLink hP.toAllows)).bind fun _ =>
    (asks_step (Namespace.asks_delete (hP.netns _))).bind fun _ => .pure

omit hs in
theorem keeps_teardown : On.Keeps P (Manages topology options) teardown := by
  refine On.Keeps.bind_get fun c hc => ?_
  split
  · exact .pure
  · have hall : ∀ d ∈ c.nodes.reverse, d.spec.mountDir ∈ topology.mountDirs options :=
      fun d hm => hc.nodes d (List.mem_reverse.mp hm)
    have hnone : ∀ d ∈ ([] : List Device), d.spec.mountDir ∈ topology.mountDirs options :=
      fun _ hm => nomatch hm
    refine On.Keeps.bind (.modify fun _ _ => { hc with nodes := hnone }) fun _ => ?_
    refine On.Keeps.liftLab (asks_unwireAll hP) fun _ _ => ?_
    refine On.Keeps.liftLab (asks_destroyAll hP hd hall) fun _ _ => ?_
    split
    · exact On.Keeps.liftLab (asks_deleteShared hP) fun _ _ => .mk_pure
    · exact On.Keeps.bind .pure fun _ => .mk_pure

theorem keeps_build : On.Keeps P (Manages topology options) build := by
  refine On.Keeps.bind_get fun c hc => ?_
  dsimp only
  split
  · exact .throw_bind
  · split
    · exact .throw_bind
    · refine On.Keeps.bind (.modify fun _ h => { h with }) fun _ => ?_
      refine On.Keeps.bind (keeps_buildAll hP hd hs).result fun r => ?_
      cases r with
      | ok a => exact .pure
      | error fault => exact On.Keeps.bind (keeps_teardown hP hd).result fun _ => .throw

/-! ## What an earlier session left -/

omit hs in
theorem asks_removeNodes {nodes : List Node} (hall : ∀ node ∈ nodes, node ∈ topology.nodes) :
    Lab.Asks P (removeNodes options nodes) := by
  induction nodes with
  | nil => exact .pure
  | cons node nodes ih =>
    have hdir : Text.joinPath options.mountRoot node.name ∈ topology.mountDirs options :=
      List.mem_map_of_mem (hall node (by simp))
    have here : Lab.Asks P (removeNode options node) := by
      refine (asks_step (asks_remove (hP.container _))).bind fun _ => ?_
      refine (asks_step (asks_remove (hP.container _))).bind fun _ => ?_
      refine (asks_step ?_).bind fun _ => .pure
      exact (asks_check (hd.remove _ hdir)).bind fun _ => .pure
    refine here.bind fun _ => ?_
    exact (ih fun node hm => hall node (by simp [hm])).bind fun _ => .pure

omit hs in
theorem asks_down : Attempt.Asks P (down topology options) := by
  refine .mk ?_
  refine (asks_removeNodes hP hd fun node hm => List.mem_reverse.mp hm).bind fun _ => ?_
  exact (asks_step (Namespace.asks_delete (hP.netns _))).bind fun _ => .pure

end Controller

end SwitchLab
