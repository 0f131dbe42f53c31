import SwitchLab.Proofs.Building
import SwitchLab.Proofs.Paths
import SwitchLab.Proofs.Validation
import SwitchLab.Topology.Document

/-! The directories of the host that a topology handles. They are those of its
nodes, so all depends on the names of these; a document may give a node any
name that is not empty and not taken. -/

namespace SwitchLab

variable {topology : Topology} {options : Options} {dir : String} {dirs : List String}
  {l l' : Ledger} {t : Trace Host}

/-! ## Names of nodes -/

theorem Topology.ofJson_names {text : String} (h : ofJson text = .ok topology) :
    (topology.nodes.map (·.name)).Nodup ∧ ∀ node ∈ topology.nodes, node.name ≠ "" := by
  rw [ofJson] at h
  split at h
  · obtain ⟨hvalid, hmeans⟩ := TopologyInput.validate_eq_ok_iff.mp h
    rw [hmeans.names]
    refine ⟨hvalid.distinctNodes, fun node hn he => TopologyInput.notMem_names hvalid.nodes ?_⟩
    rw [← hmeans.names, ← he]
    exact List.mem_map_of_mem hn
  · cases h

/-! ## Requests about directories -/

/-- The directories that a request makes or removes. -/
def Query.directories : Query → List String
  | .run ⟨"mkdir", "-p" :: paths⟩ | .run ⟨"rm", "-rf" :: paths⟩ => paths
  | _ => []

/-- The request makes and removes none but these directories. -/
def HandlesOnly (dirs : List String) (q : Query) : Prop := ∀ dir ∈ q.directories, dir ∈ dirs

theorem directories_eq_nil {c : Command} (h : c.handlesDirectories = false) :
    (Query.run c).directories = [] := by
  unfold Query.directories
  split <;> simp_all [Command.handlesDirectories]

theorem allows_handlesOnly : AllowsRemoval (HandlesOnly dirs) := by
  refine ⟨⟨fun c hc _ dir hm => ?_, fun q _ hq dir hm => ?_⟩, fun name dir hm => ?_,
    fun name dir hm => ?_⟩
  · simp [directories_eq_nil hc] at hm
  · unfold Query.directories at hm
    split at hm <;> simp_all
  · cases hm
  · cases hm

theorem allowsStores_handlesOnly : AllowsStores (HandlesOnly dirs) := by
  intro q hq dir hm
  unfold Query.directories at hm
  split at hm <;> simp_all [Query.isStoreCall]

theorem allowsMounts_handlesOnly : AllowsMounts (HandlesOnly dirs) dirs := by
  constructor
  · intro dir hdir dir' hm
    rwa [List.mem_singleton.mp hm]
  · intro dir hdir dir' hm
    rwa [List.mem_singleton.mp hm]

/-! ## What a topology handles -/

namespace Controller

/-- A controller for the topology, after any of its operations, whatever became of them. -/
inductive Reached (topology : Topology) (options : Options) : Controller → Prop where
  | new (retryInterval : Duration) :
    Reached topology options { new topology options with retryInterval }
  | build {c c' : Controller} {l l' : Ledger} {t : Trace Host} {r : Except Fault Unit} :
    Reached topology options c → On.Runs build c l t r c' l' → Reached topology options c'
  | teardown {c c' : Controller} {l l' : Ledger} {t : Trace Host} {r : Except Fault Unit} :
    Reached topology options c → On.Runs teardown c l t r c' l' → Reached topology options c'
  | detach {c : Controller} : Reached topology options c → Reached topology options c.detach

/-- A request that is made when the topology is built, torn down, or removed later. -/
inductive Requests (topology : Topology) (options : Options) : Query → Prop where
  | build {c c' : Controller} {l l' : Ledger} {t : Trace Host} {r : Except Fault Unit}
      {x : Exchange Host} : Reached topology options c → On.Runs build c l t r c' l' → x ∈ t →
    Requests topology options x.request
  | teardown {c c' : Controller} {l l' : Ledger} {t : Trace Host} {r : Except Fault Unit}
      {x : Exchange Host} : Reached topology options c → On.Runs teardown c l t r c' l' → x ∈ t →
    Requests topology options x.request
  | down {l l' : Ledger} {t : Trace Host} {r : Except Fault Unit} {x : Exchange Host} :
    Attempt.Runs (down topology options) l t r l' → x ∈ t → Requests topology options x.request

theorem Manages.detach {c : Controller} (h : Manages topology options c) :
    Manages topology options c.detach := by
  refine ⟨h.forTopology, h.withOptions, h.unadjusted, fun d hd => ?_⟩
  obtain ⟨d', hd', rfl⟩ := List.mem_map.mp hd
  have hspec : d'.detach.spec = d'.spec := by
    rw [Device.detach]
    split <;> rfl
  rw [hspec]
  exact h.nodes d' hd'

theorem Reached.manages {c : Controller} (h : Reached topology options c) :
    Manages topology options c := by
  induction h with
  | new retryInterval => exact ⟨rfl, rfl, rfl, fun _ hd => nomatch hd⟩
  | build _ hr ih =>
    exact ((keeps_build allows_handlesOnly allowsMounts_handlesOnly allowsStores_handlesOnly _
      ih).of_runs hr).2
  | teardown _ hr ih =>
    exact ((keeps_teardown allows_handlesOnly allowsMounts_handlesOnly _ ih).of_runs hr).2
  | detach _ ih => exact ih.detach

theorem Requests.handlesOnly {q : Query} (h : Requests topology options q) :
    HandlesOnly (topology.mountDirs options) q := by
  cases h with
  | build hc hr hx =>
    exact ((keeps_build allows_handlesOnly allowsMounts_handlesOnly allowsStores_handlesOnly _
      hc.manages).of_runs hr).1 _ hx
  | teardown hc hr hx =>
    exact ((keeps_teardown allows_handlesOnly allowsMounts_handlesOnly _ hc.manages).of_runs hr).1
      _ hx
  | down hr hx => exact ((asks_down allows_handlesOnly allowsMounts_handlesOnly).of_runs hr).1 _ hx

theorem surely_check {c : Command} : Attempt.Surely (.run c) (Host.check c) := by
  have run : Attempt.Surely (.run c) (Host.run c) := Lab.surely_ask
  exact run.bind

theorem surely_removeNode {node : Node} :
    Lab.Surely (.run ⟨"rm", ["-rf", Text.joinPath options.mountRoot node.name]⟩)
      (removeNode options node) := by
  refine Lab.Surely.after fun _ => Lab.Surely.after fun _ => Lab.Surely.bind ?_
  exact Lab.Surely.bind (Attempt.Surely.bind surely_check)

/-- Whatever fails, the directory of every node is removed. -/
theorem surely_removeNodes {nodes : List Node} {node : Node} (hn : node ∈ nodes) :
    Lab.Surely (.run ⟨"rm", ["-rf", Text.joinPath options.mountRoot node.name]⟩)
      (removeNodes options nodes) := by
  induction nodes with
  | nil => cases hn
  | cons head nodes ih =>
    rcases List.mem_cons.mp hn with rfl | hn
    · exact surely_removeNode.bind
    · exact Lab.Surely.after fun _ => (ih hn).bind

/-- The directories that are made or removed are those of the nodes, all of them. -/
theorem handled_iff :
    (∃ q, Requests topology options q ∧ dir ∈ q.directories) ↔
      dir ∈ topology.mountDirs options := by
  constructor
  · rintro ⟨q, hq, hdir⟩
    exact hq.handlesOnly dir hdir
  · intro hdir
    obtain ⟨node, hn, rfl⟩ := List.mem_map.mp hdir
    have hdown : Attempt.Surely (.run ⟨"rm", ["-rf", Text.joinPath options.mountRoot node.name]⟩)
        (down topology options) := (surely_removeNodes (List.mem_reverse.mpr hn)).bind
    obtain ⟨t, r, l', hr⟩ := Lab.exists_runs (down topology options).run .empty
    obtain ⟨x, hx, he⟩ := hdown _ _ _ _ hr
    refine ⟨x.request, .down hr hx, ?_⟩
    rw [he]
    exact List.mem_singleton.mpr rfl

end Controller

open Controller in
/-- A document is taken with any names that are not empty and not taken. All directories that are
made or removed lie in the root just if each of the names stands for something in it. -/
theorem Topology.handled_isChild_iff {text : String} (hdoc : ofJson text = .ok topology)
    (hroot : Text.isAbsolutePath options.mountRoot = true) :
    (topology.nodes.map (·.name)).Nodup ∧ (∀ node ∈ topology.nodes, node.name ≠ "") ∧
    ((∀ q, Requests topology options q → ∀ dir ∈ q.directories,
        Text.IsChild options.mountRoot dir) ↔
      ∀ node ∈ topology.nodes, Text.NamesChild options.mountRoot node.name) := by
  obtain ⟨hnodup, hnames⟩ := ofJson_names hdoc
  refine ⟨hnodup, hnames, ?_⟩
  have hdirs : (∀ q, Requests topology options q → ∀ dir ∈ q.directories,
      Text.IsChild options.mountRoot dir) ↔
      ∀ dir ∈ topology.mountDirs options, Text.IsChild options.mountRoot dir := by
    constructor
    · intro h dir hdir
      obtain ⟨q, hq, hin⟩ := handled_iff.mpr hdir
      exact h q hq dir hin
    · exact fun h q hq dir hin => h dir (hq.handlesOnly dir hin)
  rw [hdirs, mountDirs, List.forall_mem_map]
  simp only [Text.isChild_joinPath_iff hroot]

end SwitchLab

/-! ## Topologies of one node

What becomes of the host depends on the name of the node. -/

namespace SwitchLab.OneNode

open Controller

/-- A document with one node and nothing else. -/
def document (name : String) : String :=
  "\x7b\"name\":\"lab\",\"nodes\":[\x7b\"name\":\"" ++ name ++ "\"\x7d]\x7d"

def topology (name : String) : Topology := ⟨"lab", [⟨name, none, none, none⟩], []⟩

def options : Options := { Options.default with mountRoot := "/mnt/vs" }

theorem switch_handled :
    Topology.ofJson (document "sw1") = .ok (topology "sw1") ∧
    Text.isAbsolutePath options.mountRoot = true ∧
    ((topology "sw1").nodes.map (·.name)).Nodup ∧
    (∀ node ∈ (topology "sw1").nodes, node.name ≠ "") ∧
    ((∀ q, Requests (topology "sw1") options q → ∀ dir ∈ q.directories,
        Text.IsChild options.mountRoot dir) ↔
      ∀ node ∈ (topology "sw1").nodes, Text.NamesChild options.mountRoot node.name) := by
  have hdoc : Topology.ofJson (document "sw1") = .ok (topology "sw1") := by decide +kernel
  have hroot : Text.isAbsolutePath options.mountRoot = true := by decide
  exact ⟨hdoc, hroot, Topology.handled_isChild_iff hdoc hroot⟩

/-- What `down` asks for the node `..`. -/
def parentRemoved : Trace Host :=
  [["docker", "rm", "-f", ".."], ["docker", "rm", "-f", "..-ns"], ["rm", "-rf", "/mnt/vs/.."],
    ["ip", "netns", "del", "lab-topo"]].map fun words =>
      ⟨.run ⟨words.headD "", words.tail⟩, (.ok .silent : Except Fault Output)⟩

/-- The document is taken, and with the node goes all that is beside the root. -/
theorem parent_removed :
    Topology.ofJson (document "..") = .ok (topology "..") ∧
    Text.isAbsolutePath options.mountRoot = true ∧
    Attempt.Runs (down (topology "..") options) .empty parentRemoved (.ok ()) .empty ∧
    (∃ x ∈ parentRemoved, "/mnt/vs/.." ∈ x.request.directories) ∧
    ¬ Text.IsChild options.mountRoot "/mnt/vs/.." := by
  refine ⟨by decide +kernel, by decide, Dialogue.runs_of_replay (by decide +kernel),
    by decide +kernel, ?_⟩
  rintro ⟨-, part, hpart, hparts⟩
  have parent : Text.pathParts "/mnt/vs/.." = Text.pathParts options.mountRoot ++ [['.', '.']] := by
    decide +kernel
  rw [parent] at hparts
  exact hpart (List.singleton_inj.mp (List.append_cancel_left hparts)).symm

end SwitchLab.OneNode
