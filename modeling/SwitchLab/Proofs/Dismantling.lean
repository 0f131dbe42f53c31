import SwitchLab.Proofs.Construction
import SwitchLab.Proofs.Lives

/-! A topology is built once and taken apart once. Whatever the host answers, all
that was built is taken apart in reverse order, and after that nothing is
asked. -/

namespace SwitchLab

variable {l l' : Ledger} {t : Trace Host} {topology : Topology} {options : Options}
  {shared : Namespace} {failures : List String}

/-- Switches are torn down one after the other. What is reported of each is one part. -/
inductive DestroyedAll : List Device → Trace Host → List String → Prop where
  | nil : DestroyedAll [] [] []
  | cons {d : Device} {devices : List Device} {t u : Trace Host} {r : Except Fault Unit}
      {failures : List String} :
    d.TornDown t r → DestroyedAll devices u failures →
    DestroyedAll (d :: devices) (t ++ u) (Cleanup.told s!"destroy {d.name}" r ++ failures)

namespace Controller

variable {c c' : Controller} {r : Except Fault Unit}

/-! ## Teardown -/

/-- The steps that take the links apart. The end that was wired last comes first. -/
def unwireSteps (c : Controller) : List TeardownStep :=
  (c.wired.reverse.flatMap c.wiredPlaces).map fun (scope, link) =>
    .deleteLink s!"delete {link} in {scope.text}" scope link

def sharedSteps (c : Controller) : List TeardownStep :=
  c.shared.toList.flatMap fun shared =>
    [.deleteLink s!"delete {bridge}" shared.scope bridge,
      .deleteNamespace s!"delete namespace {shared.name}" shared]

/-- The links are taken apart, the nodes are destroyed in reverse order, and the shared namespace
is deleted; the result tells what failed. -/
def Dismantled (c : Controller) (t : Trace Host) (r : Except Fault Unit) : Prop :=
  ∃ u v w links nodes rest, t = u ++ (v ++ w) ∧
    Attempted (fun _ => False) c.unwireSteps u links ∧
    DestroyedAll c.nodes.reverse v nodes ∧
    Attempted (fun _ => False) c.sharedSteps w rest ∧
    r = Cleanup.verdict (links ++ nodes ++ rest)

/-- The controller after its teardown. -/
def bare (c : Controller) : Controller :=
  { c with tornDown := true, wired := [], nodes := [], shared := none }

theorem runs_unwireAll {places : List (NetScope × String)}
    (hr : Lab.Runs (unwireAll places) l t failures l') :
    Attempted (fun _ => False) (places.map fun (scope, link) =>
      .deleteLink s!"delete {link} in {scope.text}" scope link) t failures := by
  induction places generalizing l l' t failures with
  | nil =>
    obtain ⟨rfl, rfl, -⟩ := Lab.runs_pure_iff.mp hr
    exact .nil
  | cons place places ih =>
    obtain ⟨u, v, first, l₁, rfl, hfirst, hr⟩ := Lab.runs_bind_iff.mp hr
    obtain ⟨v, w, more, l₂, rfl, hmore, hr⟩ := Lab.runs_bind_iff.mp hr
    obtain ⟨rfl, rfl, -⟩ := Lab.runs_pure_iff.mp hr
    have first : Attempted (fun _ => False) _ _ _ := .of_step TeardownStep.deleteLink_doneBy hfirst
    rw [List.append_nil]
    exact first.append (ih hmore)

theorem runs_destroyAll {devices : List Device}
    (hr : Lab.Runs (destroyAll devices) l t failures l') : DestroyedAll devices t failures := by
  induction devices generalizing l l' t failures with
  | nil =>
    obtain ⟨rfl, rfl, -⟩ := Lab.runs_pure_iff.mp hr
    exact .nil
  | cons d devices ih =>
    obtain ⟨u, v, ⟨r, d'⟩, l₁, rfl, hdestroy, hr⟩ := Lab.runs_bind_iff.mp hr
    obtain ⟨v, w, first, l₂, rfl, hstep, hr⟩ := Lab.runs_bind_iff.mp hr
    obtain ⟨w, x, ⟨⟩, l₃, rfl, hdrop, hr⟩ := Lab.runs_bind_iff.mp hr
    obtain ⟨x, y, more, l₄, rfl, hmore, hr⟩ := Lab.runs_bind_iff.mp hr
    obtain ⟨rfl, rfl, -⟩ := Lab.runs_pure_iff.mp hr
    obtain ⟨_, hpure, rfl⟩ := Cleanup.runs_step_iff.mp hstep
    obtain ⟨rfl, rfl, -⟩ := Lab.runs_pure_iff.mp hpure
    obtain ⟨htorn, hmade, hgone⟩ := Device.runs_destroy hdestroy
    have hname : d'.name = d.name := by
      have hspec := congrArg Device.spec hmade
      exact congrArg DeviceSpec.name hspec
    have hstate : d'.state = .destroyed := by
      split at hgone
      case isTrue hd => rw [hgone, hd]
      case isFalse => exact hgone.state
    have hsilent := Device.runs_drop hdrop
    rw [if_pos (.inr hstate)] at hsilent
    rw [hsilent, hname]
    simpa using DestroyedAll.cons htorn (ih hmore)

theorem runs_deleteShared (hr : Lab.Runs (deleteShared shared) l t failures l') :
    Attempted (fun _ => False) [.deleteLink s!"delete {bridge}" shared.scope bridge,
      .deleteNamespace s!"delete namespace {shared.name}" shared] t failures := by
  obtain ⟨u, v, first, l₁, rfl, hfirst, hr⟩ := Lab.runs_bind_iff.mp hr
  obtain ⟨v, w, second, l₂, rfl, hsecond, hr⟩ := Lab.runs_bind_iff.mp hr
  obtain ⟨rfl, rfl, -⟩ := Lab.runs_pure_iff.mp hr
  have first : Attempted (fun _ => False) _ _ _ := .of_step TeardownStep.deleteLink_doneBy hfirst
  have second : Attempted (fun _ => False) _ _ _ :=
    .of_step TeardownStep.deleteNamespace_doneBy hsecond
  rw [List.append_nil]
  exact first.append second

theorem runs_teardown (hr : On.Runs teardown c l t r c' l') :
    if c.tornDown then t = [] ∧ r = .ok () ∧ c' = c else c.Dismantled t r ∧ c' = c.bare := by
  have hr := On.runs_bind_get_iff.mp hr
  split at hr
  case isTrue h =>
    obtain ⟨rfl, rfl, rfl, -⟩ := On.runs_pure_iff.mp hr
    rw [if_pos h]
    exact ⟨rfl, rfl, rfl⟩
  case isFalse h =>
    rw [if_neg h]
    obtain ⟨u, v, links, l₁, rfl, hlinks, hr⟩ :=
      On.runs_bind_liftLab_iff.mp (On.runs_bind_modify_iff.mp hr)
    obtain ⟨v, w, nodes, l₂, rfl, hnodes, hr⟩ := On.runs_bind_liftLab_iff.mp hr
    have links := runs_unwireAll hlinks
    have nodes := runs_destroyAll hnodes
    cases hs : c.shared with
    | none =>
      simp only [hs] at hr
      obtain ⟨rfl, rfl, rfl, -⟩ := On.runs_mk_pure_iff.mp hr
      refine ⟨⟨u, v, [], _, _, [], rfl, links, nodes, ?_, rfl⟩, rfl⟩
      rw [sharedSteps, hs]
      exact .nil
    | some shared =>
      simp only [hs] at hr
      obtain ⟨w, x, rest, l₃, rfl, hrest, hr⟩ := On.runs_bind_liftLab_iff.mp hr
      obtain ⟨rfl, rfl, rfl, -⟩ := On.runs_mk_pure_iff.mp hr
      refine ⟨⟨u, v, w, _, _, rest, by simp, links, nodes, ?_, rfl⟩, rfl⟩
      rw [sharedSteps, hs]
      exact runs_deleteShared hrest

/-! ## Building -/

/-- All of the document is there. -/
structure Stands (topology : Topology) (shared : Namespace) (c : Controller) : Prop where
  shared : c.shared = some shared
  names : c.nodes.map (·.name) = topology.nodes.map (·.name)
  ready : ∀ d ∈ c.nodes, d.state = .ready
  wired : c.wired = topology.wiring

/-- What is there is part of the document, and each end that was wired can be taken apart at its
three places. -/
structure Retraceable (topology : Topology) (c : Controller) : Prop where
  names : c.nodes.map (·.name) <+: topology.nodes.map (·.name)
  wired : c.wired <+: topology.wiring
  places : ∀ w ∈ c.wired, ∃ shared d pid, c.shared = some shared ∧ c.nodes[w.node]? = some d ∧
    d.pid = some pid ∧ c.wiredPlaces w =
      [(.host, w.nodeEnd), (shared.scope, w.sharedEnd), (.ofPid pid, w.iface)]

theorem Empty.retraceable (h : Empty topology c) : Retraceable topology c where
  names := by simp [h.nodes]
  wired := by simp [h.wired]
  places := by simp [h.wired]

theorem Sound.retraceable (h : Sound topology shared c) : Retraceable topology c where
  names := h.names
  wired := h.wired
  places w hw := by
    have hnode := h.ends w hw
    have hget : c.nodes[w.node]? = some c.nodes[w.node] := List.getElem?_eq_getElem hnode
    obtain ⟨pid, hpid⟩ := h.pids _ (List.getElem_mem hnode)
    exact ⟨shared, _, pid, h.shared, hget, hpid, by simp [wiredPlaces, h.shared, hget, hpid]⟩

theorem Progress.stands (h : Progress topology shared topology.plan c) :
    Stands topology shared c where
  shared := h.shared
  names := h.namesDone.trans topology.plan_nodes
  wired := h.wiredDone.trans topology.plan_ends
  ready d hd := by
    obtain ⟨i, hi, rfl⟩ := List.mem_iff_getElem.mp hd
    have hlength := congrArg List.length (h.namesDone.trans topology.plan_nodes)
    simp only [List.length_map] at hlength
    have hplan : BuildStep.ready i ∈ topology.plan := by
      simp [Topology.plan, ← hlength, hi]
    obtain ⟨d', hd', hs⟩ := h.ready i hplan
    rw [List.getElem?_eq_getElem hi, Option.some.injEq] at hd'
    rw [hd', hs]

/-- What becomes of a topology that is built. -/
inductive Built (topology : Topology) (shared : Namespace) (c : Controller) :
    Trace Host → Except Fault Unit → Controller → Prop where
  /-- All steps are taken, and all of the document is there. -/
  | stands {t : Trace Host} {c' : Controller} :
    CarriedOut (BuildStep.act shared) topology.plan { c with built := true } t (.ok ()) c' →
    Stands topology shared c' → Built topology shared c t (.ok ()) c'
  /-- A step fails after all before it were taken, and what is there then is taken apart. The fault
  is the one of this step. -/
  | failed {done rest : List BuildStep} {a : BuildStep} {u v w : Trace Host} {c₁ c₂ : Controller}
      {l l' : Ledger} {fault : Fault} {r : Except Fault Unit} :
    done ++ a :: rest = topology.plan →
    CarriedOut (BuildStep.act shared) done { c with built := true } u (.ok ()) c₁ →
    On.Runs (a.act shared) c₁ l v (.error fault) c₂ l' →
    Retraceable topology c₂ → c₂.Dismantled w r →
    Built topology shared c (u ++ v ++ w) (.error fault) c₂.bare

theorem runs_build_refused (hc : c.tornDown = true ∨ c.built = true)
    (hr : On.Runs build c l t r c' l') :
    t = [] ∧ r = .error (.invalidState (if c.tornDown then "torn down" else "built") "build") ∧
      c' = c := by
  have hr := On.runs_bind_get_iff.mp hr
  dsimp only at hr
  split at hr
  case isTrue h =>
    obtain ⟨rfl, rfl, rfl, -⟩ := On.runs_throw_bind_iff.mp hr
    exact ⟨rfl, by rw [if_pos h], rfl⟩
  case isFalse h =>
    rw [if_pos (hc.resolve_left h)] at hr
    obtain ⟨rfl, rfl, rfl, -⟩ := On.runs_throw_bind_iff.mp hr
    exact ⟨rfl, by rw [if_neg h], rfl⟩

theorem runs_build (hc : Empty topology c) (hb : c.built = false)
    (hr : On.Runs build c l t r c' l') :
    Built topology ⟨c.sharedName⟩ c t r c' ∧
      (r = .ok () → Progress topology ⟨c.sharedName⟩ topology.plan c') := by
  have hr := On.runs_bind_get_iff.mp hr
  simp only [hc.held, hb, Bool.false_eq_true, if_false] at hr
  have begun : Empty topology { c with built := true } := { hc with }
  obtain ⟨u, v, x, c₁, l₁, rfl, hall, hr⟩ :=
    On.runs_bind_result_iff.mp (On.runs_bind_modify_iff.mp hr)
  have hrun := runs_buildAll begun rfl hall
  have hplan : topology.plan ++ [] = topology.plan := List.append_nil _
  cases x with
  | ok a =>
    obtain ⟨rfl, rfl, rfl, -⟩ := On.runs_pure_iff.mp hr
    have progress := begun.progress rfl hrun hplan
    rw [List.append_nil]
    exact ⟨.stands hrun progress.stands, fun _ => progress⟩
  | error fault =>
    have retraceable : Retraceable topology c₁ ∧ c₁.tornDown = false := by
      rcases begun.carriedOut rfl hrun hplan with ⟨rfl, -⟩ | ⟨hsound, -⟩
      · exact ⟨begun.retraceable, begun.held⟩
      · exact ⟨hsound.retraceable, hsound.held⟩
    obtain ⟨v, w, y, c₂, l₂, rfl, hteardown, hr⟩ := On.runs_bind_result_iff.mp hr
    obtain ⟨rfl, rfl, rfl, -⟩ := On.runs_throw_iff.mp hr
    have hdismantled := runs_teardown hteardown
    rw [retraceable.2, if_neg Bool.false_ne_true] at hdismantled
    obtain ⟨hdismantled, rfl⟩ := hdismantled
    obtain ⟨done, a, rest, u, z, c₀, l₃, l₄, hplan, rfl, hdone, hstep⟩ := hrun.stopped_at
    rw [List.append_nil]
    exact ⟨.failed hplan.symm hdone hstep retraceable.1 hdismantled, nofun⟩

theorem Built.ended (h : Built topology shared c t r c') (hr : r ≠ .ok ()) :
    c'.tornDown = true ∧ c'.nodes = [] := by
  cases h with
  | stands => exact absurd rfl hr
  | failed => exact ⟨rfl, rfl⟩

/-! ## All operations -/

inductive Operation where
  | build
  | teardown
  | detach

def Operation.act : Operation → On Controller Unit
  | build => Controller.build
  | teardown => Controller.teardown
  | detach => modify Controller.detach

/-- A topology is built once and taken apart once. -/
inductive Phase (topology : Topology) (options : Options) (c : Controller) : Prop where
  | fresh : Empty topology c → c.options = options → c.built = false → Phase topology options c
  | standing :
    Progress topology ⟨sharedNameOf topology options⟩ topology.plan c → Phase topology options c
  | ended : c.tornDown = true → (∀ d ∈ c.nodes, d.state = .destroyed) → Phase topology options c

variable {e : Event Operation Controller} {events : List (Event Operation Controller)}

theorem Phase.retraceable (h : Phase topology options c) (hc : c.tornDown = false) :
    Retraceable topology c := by
  cases h with
  | fresh hempty _ _ => exact hempty.retraceable
  | standing hprogress => exact hprogress.toSound.retraceable
  | ended htorn _ => simp [hc] at htorn

theorem Phase.destroyed (h : Phase topology options c) (hc : c.tornDown = true) :
    ∀ d ∈ c.nodes, d.state = .destroyed := by
  cases h with
  | fresh hempty _ _ => simp [hempty.held] at hc
  | standing hprogress => exact absurd hc (by simp [hprogress.held])
  | ended _ hnodes => exact hnodes

/-- The first build. -/
theorem Phase.runs_build (h : Phase topology options c) (hb : c.built = false)
    (hc : c.tornDown = false) (hr : On.Runs build c l t r c' l') :
    Built topology ⟨sharedNameOf topology options⟩ c t r c' ∧ Phase topology options c' := by
  cases h with
  | fresh hempty hoptions _ =>
    have hname : c.sharedName = sharedNameOf topology options := by
      rw [sharedName, hempty.forTopology, hoptions]
    obtain ⟨hbuilt, hok⟩ := Controller.runs_build hempty hb hr
    rw [hname] at hbuilt hok
    refine ⟨hbuilt, ?_⟩
    cases r with
    | ok a => exact .standing (hok rfl)
    | error fault =>
      obtain ⟨hended, hnodes⟩ := hbuilt.ended nofun
      exact .ended hended (by simp [hnodes])
  | standing hprogress => exact absurd hprogress.begun (by simp [hb])
  | ended htorn _ => simp [hc] at htorn

theorem Phase.after (he : e.Ran Operation.act) (h : Phase topology options e.before) :
    Phase topology options e.after := by
  obtain ⟨l, l', hr⟩ := he
  cases hop : e.operation with
  | build =>
    rw [hop] at hr
    by_cases hc : e.before.tornDown = true ∨ e.before.built = true
    · rwa [(runs_build_refused hc hr).2.2]
    · rw [not_or, Bool.not_eq_true, Bool.not_eq_true] at hc
      exact (h.runs_build hc.2 hc.1 hr).2
  | teardown =>
    rw [hop] at hr
    have hend := runs_teardown hr
    split at hend
    case isTrue => rwa [hend.2.2]
    case isFalse =>
      rw [hend.2]
      exact .ended rfl (List.forall_mem_nil _)
  | detach =>
    rw [hop] at hr
    obtain ⟨-, -, hafter, -⟩ := On.runs_modify_iff.mp hr
    rw [hafter]
    refine .ended rfl (List.forall_mem_map.mpr fun d _ => ?_)
    rw [Device.detach]
    split
    case isTrue hd => exact hd
    case isFalse => rfl

/-- The operations after which a topology is over. -/
def Ends (e : Event Operation Controller) : Prop :=
  e.operation = .teardown ∨ e.operation = .detach ∨
    e.operation = .build ∧ e.before.built = false ∧ e.before.tornDown = false ∧ e.result ≠ .ok ()

theorem Phase.ends (h : Phase topology options e.before) (he : e.Ran Operation.act)
    (hends : Ends e) : e.after.tornDown = true := by
  obtain ⟨l, l', hr⟩ := he
  rcases hends with hop | hop | ⟨hop, hb, hc, hresult⟩
  · rw [hop] at hr
    have hend := runs_teardown hr
    split at hend
    case isTrue hc => rw [hend.2.2, hc]
    case isFalse =>
      rw [hend.2]
      rfl
  · rw [hop] at hr
    rw [(On.runs_modify_iff.mp hr).2.2.1]
    rfl
  · rw [hop] at hr
    exact ((h.runs_build hb hc hr).1.ended hresult).1

/-- A topology that was torn down or detached stays so, and nothing is asked. -/
theorem silent_of_ran (he : e.Ran Operation.act) (hc : e.before.tornDown = true) :
    e.after.tornDown = true ∧ e.trace = [] ∧ (e.operation = .teardown → e.result = .ok ()) := by
  obtain ⟨l, l', hr⟩ := he
  cases hop : e.operation with
  | build =>
    rw [hop] at hr
    obtain ⟨htrace, -, hafter⟩ := runs_build_refused (.inl hc) hr
    exact ⟨hafter ▸ hc, htrace, nofun⟩
  | teardown =>
    rw [hop] at hr
    have hend := runs_teardown hr
    rw [if_pos hc] at hend
    obtain ⟨htrace, hresult, hafter⟩ := hend
    exact ⟨hafter ▸ hc, htrace, fun _ => hresult⟩
  | detach =>
    rw [hop] at hr
    obtain ⟨htrace, -, hafter, -⟩ := On.runs_modify_iff.mp hr
    rw [hafter]
    exact ⟨rfl, htrace, nofun⟩

theorem runs_drop (hr : Lab.Runs c.drop l t () l') :
    if c.built = true ∧ c.tornDown = false then ∃ r, c.Dismantled t r else t = [] := by
  rw [drop] at hr
  split at hr
  case isTrue h =>
    rw [Bool.not_eq_true'] at h
    obtain ⟨u, v, ⟨r, c'⟩, l₁, rfl, hteardown, hr⟩ := Lab.runs_bind_iff.mp hr
    obtain ⟨rfl, -⟩ := Lab.runs_pure_iff.mp hr
    have hend := runs_teardown hteardown
    rw [h.2, if_neg Bool.false_ne_true] at hend
    rw [if_pos h, List.append_nil]
    exact ⟨r, hend.1⟩
  case isFalse h =>
    rw [Bool.not_eq_true'] at h
    rw [if_neg h]
    exact (Lab.runs_pure_iff.mp hr).1

/-- When a topology is over, all that may still follow is silent. -/
theorem Phase.silent {c₀ : Controller} (h : Phase topology options c)
    (hh : History Operation.act c₀ events c) (hc : c₀.tornDown = true) :
    (∀ m ∈ events, m.trace = [] ∧ (m.operation = .teardown → m.result = .ok ())) ∧
    (∀ l t l', Lab.Runs c.drop l t () l' → t = []) ∧
    ∀ d ∈ c.nodes, ∀ l t l', Lab.Runs d.drop l t () l' → t = [] := by
  obtain ⟨hstays, hend⟩ := hh.keeps (I := fun c => c.tornDown = true)
    (fun m hm h => (silent_of_ran hm h).1) hc
  refine ⟨fun m hm => (silent_of_ran (hh.ran m hm) (hstays m hm).1).2, ?_, ?_⟩
  · intro l t l' hr
    have hdrop := runs_drop hr
    rwa [if_neg (by simp [hend])] at hdrop
  · intro d hd l t l' hr
    have hdrop := Device.runs_drop hr
    rwa [if_pos (.inr (h.destroyed hend d hd))] at hdrop

end Controller

end SwitchLab

/-! ## A topology that cannot be wired

One of its two nodes is found running. The interface of the other has the name of another one. -/

namespace SwitchLab.HalfWired

open Controller

def topology : Topology where
  name := "lab"
  nodes := [⟨"a", none, none, none⟩, ⟨"b", none, none, none⟩]
  links := [⟨"l", ⟨"a", "eth1", none, none, none⟩, ⟨"b", "eth2", none, none, none⟩⟩]

def options : Options := { Options.default with mountRoot := "/m" }

/-- A command in the shared namespace. -/
def inShared (args : List String) : Exchange Host :=
  silently "ip" (["netns", "exec", "lab-topo", "ip", "link"] ++ args)

def inspected (state name printed : String) : Exchange Host :=
  Command.ran ⟨"docker", ["inspect", "--format", "\x7b\x7b.State." ++ state ++ "\x7d\x7d", name]⟩
    (.ok ⟨0, printed, ""⟩)

def sharing : Trace Host :=
  [silently "ip" ["netns", "del", "lab-topo"], silently "ip" ["netns", "add", "lab-topo"],
    inShared ["set", "lo", "up"], inShared ["del", "topobr0"],
    inShared ["add", "topobr0", "type", "bridge"], inShared ["set", "dev", "topobr0", "up"]]

def attaching : Trace Host :=
  [inspected "Running" "a" "true\n", inspected "Running" "a" "true\n",
    inspected "Pid" "a" "7\n",
    Command.ran ⟨"nsenter", ["-t", "7", "-n", "ip", "-o", "link", "show"]⟩
      (.ok ⟨0, "1: lo: <LOOPBACK>\n2: eth1@if3: <BROADCAST>\n", ""⟩)]

def making : Trace Host :=
  [inspected "Running" "b" "", silently "mkdir" ["-p", "/m/b"],
    silently "docker" ["create", "--name", "b-ns", "--privileged", "-i", "debian:bookworm", "bash"],
    silently "docker" ["start", "b-ns"], inspected "Pid" "b-ns" "9\n",
    silently "docker" ["create", "--name", "b", "--privileged", "--network", "container:b-ns",
      "--cpus", "2", "-v", "/m/b:/var/run/redis", "docker-sonic-vs:latest"],
    silently "docker" ["start", "b"]]

/-- The first half of what it takes to wire an end. -/
def pairing (node pid iface : String) : Trace Host :=
  [silently "ip" ["link", "del", "lab0" ++ node ++ "0"], inShared ["del", "lab0" ++ node ++ "1"],
    silently "nsenter" ["-t", pid, "-n", "ip", "link", "del", iface],
    silently "ip"
      ["link", "add", "lab0" ++ node ++ "0", "type", "veth", "peer", "name", "lab0" ++ node ++ "1"],
    silently "ip" ["link", "set", "lab0" ++ node ++ "0", "netns", pid],
    silently "ip" ["link", "set", "lab0" ++ node ++ "1", "netns", "lab-topo"]]

def wiring : Trace Host :=
  pairing "a" "7" "eth1" ++
  [silently "nsenter" ["-t", "7", "-n", "ip", "link", "set", "dev", "lab0a0", "name", "eth1"],
    silently "nsenter" ["-t", "7", "-n", "ip", "link", "set", "dev", "eth1", "up"],
    inShared ["set", "dev", "lab0a1", "master", "topobr0"],
    inShared ["set", "dev", "lab0a1", "up"]] ++
  pairing "b" "9" "eth2" ++
  [Command.ran
    ⟨"nsenter", ["-t", "9", "-n", "ip", "link", "set", "dev", "lab0b0", "name", "eth2"]⟩
    (.ok ⟨2, "", "RTNETLINK answers: File exists"⟩)]

/-- An end is gone already, and the directory of the node is in use. -/
def dismantling : Trace Host :=
  [Command.ran ⟨"ip", ["link", "del", "lab0b0"]⟩ (.ok ⟨1, "", "Cannot find device"⟩),
    inShared ["del", "lab0b1"], silently "nsenter" ["-t", "9", "-n", "ip", "link", "del", "eth2"],
    silently "ip" ["link", "del", "lab0a0"], inShared ["del", "lab0a1"],
    silently "nsenter" ["-t", "7", "-n", "ip", "link", "del", "eth1"],
    silently "docker" ["rm", "-f", "b"], silently "docker" ["rm", "-f", "b-ns"],
    Command.ran ⟨"rm", ["-rf", "/m/b"]⟩ (.ok ⟨1, "", "Device or resource busy"⟩),
    inShared ["del", "topobr0"], silently "ip" ["netns", "del", "lab-topo"]]

def trace : Trace Host := sharing ++ attaching ++ making ++ wiring ++ dismantling

def fault : Fault :=
  .command "[pid 9] ip link set dev lab0b0 name eth2" 2 "RTNETLINK answers: File exists"

def ended : Controller := { new topology options with built := true, tornDown := true }

/-- All that can be seen of a controller. -/
structure Face where
  topology : Topology
  options : Options
  shared : Option Namespace
  nodes : List Device
  wired : List WiredEnd
  retryInterval : Duration
  built : Bool
  tornDown : Bool
  deriving DecidableEq

def face (c : Controller) : Face :=
  ⟨c.topology, c.options, c.shared, c.nodes, c.wired, c.retryInterval, c.built, c.tornDown⟩

theorem eq_of_face {c c' : Controller} (h : face c = face c') (hadjust : c.adjust = c'.adjust) :
    c = c' := by
  cases c
  cases c'
  simp only [face, Face.mk.injEq] at h
  simp_all

theorem runs_of_face {α : Type} {topology : Topology} {options : Options}
    {work : On Controller α} {c c' : Controller} {t : Trace Host} {r : Except Fault α}
    (hwork : On.Keeps (fun _ => True) (Manages topology options) work)
    (hc : Manages topology options c) (hadjust : c'.adjust = id)
    (hreplay : ((work.perform c .empty).replay t).map (fun x => (x.1.1, face x.1.2, x.2)) =
      some (r, face c', .empty)) : On.Runs work c .empty t r c' .empty := by
  obtain ⟨⟨⟨r', d⟩, l⟩, hr, hface⟩ := Dialogue.exists_runs_of_replay hreplay
  simp only [Prod.mk.injEq] at hface
  obtain ⟨rfl, hd, rfl⟩ := hface
  have unadjusted : d.adjust = id := ((hwork c hc).of_runs hr).2.unadjusted
  rwa [eq_of_face hd (unadjusted.trans hadjust.symm)] at hr

theorem allowsAll : AllowsRemoval fun _ => True :=
  ⟨⟨fun _ _ _ => trivial, fun _ _ _ => trivial⟩, fun _ => trivial, fun _ => trivial⟩

theorem allowsAllMounts {dirs : List String} : AllowsMounts (fun _ => True) dirs :=
  ⟨fun _ _ => trivial, fun _ _ => trivial⟩

theorem runs_build :
    On.Runs build (new topology options) .empty trace (.error fault) ended .empty :=
  runs_of_face (keeps_build allowsAll allowsAllMounts fun _ _ => trivial)
    ⟨rfl, rfl, rfl, List.forall_mem_nil _⟩ rfl (by decide +kernel)

def events : List (Event Operation Controller) :=
  [⟨.build, new topology options, trace, .error fault, ended⟩,
    ⟨.teardown, ended, [], .ok (), ended⟩,
    ⟨.build, ended, [], .error (.invalidState "torn down" "build"), ended⟩]

theorem history : History Operation.act (new topology options) events ended := by
  have first : (⟨.build, new topology options, trace, .error fault, ended⟩ :
      Event Operation Controller).Ran Operation.act := ⟨.empty, .empty, runs_build⟩
  have second : (⟨.teardown, ended, [], .ok (), ended⟩ :
      Event Operation Controller).Ran Operation.act :=
    ⟨.empty, .empty, On.runs_pure_iff.mpr ⟨rfl, rfl, rfl, rfl⟩⟩
  have last : (⟨.build, ended, [], .error (.invalidState "torn down" "build"), ended⟩ :
      Event Operation Controller).Ran Operation.act :=
    ⟨.empty, .empty, On.runs_throw_iff.mpr ⟨rfl, rfl, rfl, rfl⟩⟩
  exact .cons first (.cons second (.cons last (.nil _)))

end SwitchLab.HalfWired
