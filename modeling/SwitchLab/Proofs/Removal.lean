import SwitchLab.Proofs.Wiring

/-! A topology that was built can be removed by the controller that built it, or
by a later session that has just the document and the options. Both remove the
same, and tell whether something of it failed. -/

namespace SwitchLab

variable {l l' : Ledger} {t u v : Trace Host} {failures : List String} {topology : Topology}
  {options : Options} {shared : Namespace}

/-! ## Removals that fail -/

/-- The failures of a removal that pass for success. -/
def Command.forgives? (c : Command) : Option (Fault → Bool) :=
  match c.located.2 with
  | ⟨"docker", ["rm", "-f", _]⟩ => some Container.isGone
  | ⟨"rm", ["-rf", _]⟩ => some fun _ => false
  | ⟨"ip", ["netns", "del", _]⟩ | ⟨"ip", ["link", "del", _]⟩ => some Fault.isMissing
  | _ => none

/-- A removal failed, and not because there was nothing to remove. -/
def Exchange.failsToRemove : Exchange Host → Bool
  | ⟨.run c, reply⟩ => c.forgives?.any fun forgives =>
    !(forgiven forgives (checked c.render reply)).isOk
  | _ => false

theorem Query.IsKilling.failsToRemove {x : Exchange Host} (h : x.request.IsKilling) :
    x.failsToRemove = false := by
  obtain ⟨q, reply⟩ := x
  cases h <;> rfl

namespace Command

variable {c : Command} {forgives : Fault → Bool} {reply : Except Fault Output}

theorem forgives_line (h : c.forgives? = some forgives) (line : String) {code : Int}
    {output : String} :
    forgives (.command line code output) = forgives (.command c.render code output) := by
  rw [forgives?] at h
  split at h <;> cases h <;> rfl

/-- Whether a removal fails does not depend on how a fault shows the command. -/
theorem isOk_forgiven (h : c.forgives? = some forgives) (line : String) :
    (forgiven forgives (checked line reply)).isOk = !(c.ran reply).failsToRemove := by
  have hfails : (c.ran reply).failsToRemove = c.forgives?.any fun forgives =>
      !(forgiven forgives (checked c.render reply)).isOk := rfl
  rw [hfails, h, Option.any_some, Bool.not_not]
  cases reply with
  | error fault => rfl
  | ok output =>
    simp only [checked, Except.bind, Output.orFault]
    cases output.success with
    | true => rfl
    | false =>
      simp only [forgiven, Bool.false_eq_true, if_false, forgives_line h line]
      split <;> rfl

end Command

/-- Something is reported of a step just if its removal fails. -/
theorem TeardownStep.failure_eq_nil_iff_removed {s : TeardownStep} {reply : Except Fault Output}
    (hs : s.command.forgives? = some s.forgives) :
    s.failure reply = [] ↔ (s.command.ran reply).failsToRemove = false := by
  rw [← Bool.not_eq_true', ← Command.isOk_forgiven hs s.line, failure, Cleanup.told_eq_nil_iff]
  cases forgiven s.forgives (checked s.line reply) <;> simp [Except.isOk, Except.toBool]

/-- Nothing is reported just if no removal fails. -/
theorem Attempted.failures_eq_nil_iff {between : Query → Prop} {steps : List TeardownStep}
    (h : Attempted between steps t failures)
    (hb : ∀ x : Exchange Host, between x.request → x.failsToRemove = false)
    (hs : ∀ s ∈ steps, s.command.forgives? = some s.forgives) :
    failures = [] ↔ ∀ x ∈ t, x.failsToRemove = false := by
  induction h with
  | nil => simp
  | @cons s steps reply t u failures hu _ ih =>
    obtain ⟨hstep, hrest⟩ := List.forall_mem_cons.mp hs
    have between : ∀ x ∈ u, x.failsToRemove = false := fun x hx => hb x (hu x hx)
    rw [List.append_eq_nil_iff, TeardownStep.failure_eq_nil_iff_removed hstep, ih hrest,
      List.forall_mem_append, List.forall_mem_cons]
    exact (and_iff_right between).symm

/-! ## Teardowns -/

namespace Device

variable {d : Device} {r : Except Fault Unit}

theorem teardownSteps_remove : ∀ s ∈ d.teardownSteps, (Query.run s.command).removes = true := by
  intro s hs
  rcases teardownSteps_cases hs with ⟨_, rfl⟩ | ⟨_, rfl⟩ | ⟨_, _, rfl⟩ <;> rfl

theorem teardownSteps_forgive : ∀ s ∈ d.teardownSteps, s.command.forgives? = some s.forgives := by
  intro s hs
  rcases teardownSteps_cases hs with ⟨_, rfl⟩ | ⟨_, rfl⟩ | ⟨_, _, rfl⟩ <;> rfl

theorem TornDown.removals (h : d.TornDown t r) (hd : d.state ≠ .destroyed) :
    removals t = d.teardownSteps.map (Query.run ·.command) := by
  rw [TornDown, if_neg hd] at h
  obtain ⟨failures, h, -⟩ := h
  exact h.removals teardownSteps_remove

theorem TornDown.ok_iff (h : d.TornDown t r) : r = .ok () ↔ ∀ x ∈ t, x.failsToRemove = false := by
  rw [TornDown] at h
  split at h
  · obtain ⟨rfl, rfl⟩ := h
    simp
  · obtain ⟨failures, h, rfl⟩ := h
    rw [Cleanup.verdict_eq_ok_iff]
    exact h.failures_eq_nil_iff (fun _ hq => hq.failsToRemove) teardownSteps_forgive

end Device

namespace DestroyedAll

variable {devices : List Device}

theorem removals (h : DestroyedAll devices t failures) (hd : ∀ d ∈ devices, d.state ≠ .destroyed) :
    removals t = (devices.flatMap (·.teardownSteps)).map (Query.run ·.command) := by
  induction h with
  | nil => rfl
  | cons htorn _ ih =>
    obtain ⟨hd, hrest⟩ := List.forall_mem_cons.mp hd
    rw [removals_append, htorn.removals hd, ih hrest, List.flatMap_cons, List.map_append]

theorem failures_eq_nil_iff (h : DestroyedAll devices t failures) :
    failures = [] ↔ ∀ x ∈ t, x.failsToRemove = false := by
  induction h with
  | nil => simp
  | cons htorn _ ih =>
    rw [List.append_eq_nil_iff, Cleanup.told_eq_nil_iff, htorn.ok_iff, ih, List.forall_mem_append]

end DestroyedAll

namespace Controller

variable {c c' : Controller} {r : Except Fault Unit}

namespace Dismantled

theorem unwireSteps_spare : ∀ s ∈ c.unwireSteps, (Query.run s.command).removes = false ∧
    s.command.forgives? = some s.forgives := by
  intro s hs
  obtain ⟨⟨scope, link⟩, -, rfl⟩ := List.mem_map.mp hs
  cases scope <;> exact ⟨rfl, rfl⟩

/-- The nodes are removed, and the shared namespace after them. -/
theorem removals (h : c.Dismantled t r) (hd : ∀ d ∈ c.nodes, d.state ≠ .destroyed) :
    removals t = (c.nodes.reverse.flatMap (·.teardownSteps)).map (Query.run ·.command) ++
      c.shared.toList.map (Query.run ·.deleteCommand) := by
  obtain ⟨u, v, w, _, _, _, rfl, hlinks, hnodes, hshared, -⟩ := h
  have links : SwitchLab.removals u = [] := by
    rw [hlinks.removals_eq fun _ => False.elim, List.filter_eq_nil_iff, List.forall_mem_map]
    intro s hs
    simp [(unwireSteps_spare s hs).1]
  have shared : SwitchLab.removals w = c.shared.toList.map (Query.run ·.deleteCommand) := by
    rw [hshared.removals_eq fun _ => False.elim, sharedSteps]
    cases c.shared <;> rfl
  rw [removals_append, removals_append, links, shared,
    hnodes.removals fun d hmem => hd d (List.mem_reverse.mp hmem), List.nil_append]

theorem ok_iff (h : c.Dismantled t r) : r = .ok () ↔ ∀ x ∈ t, x.failsToRemove = false := by
  obtain ⟨u, v, w, links, nodes, rest, rfl, hlinks, hnodes, hshared, rfl⟩ := h
  have hs : ∀ s ∈ c.sharedSteps, s.command.forgives? = some s.forgives := by
    rw [sharedSteps]
    cases c.shared with
    | none => exact List.forall_mem_nil _
    | some ns => simp [TeardownStep.deleteLink, TeardownStep.deleteNamespace, Namespace.scope,
        NetScope.enter, Command.forgives?, Command.located]
  rw [Cleanup.verdict_eq_ok_iff, List.append_eq_nil_iff, List.append_eq_nil_iff,
    hlinks.failures_eq_nil_iff (fun _ => False.elim) fun s hs => (unwireSteps_spare s hs).2,
    hnodes.failures_eq_nil_iff, hshared.failures_eq_nil_iff (fun _ => False.elim) hs,
    List.forall_mem_append, List.forall_mem_append, and_assoc]

end Dismantled

end Controller

/-! ## What a later session removes -/

/-- What there is of a node: its container, the container that holds its namespace, and its
directory. -/
def Options.nodeRemoval (options : Options) (name : String) : List Command :=
  [⟨"docker", ["rm", "-f", name]⟩, ⟨"docker", ["rm", "-f", s!"{name}-ns"]⟩,
    ⟨"rm", ["-rf", Text.joinPath options.mountRoot name]⟩]

/-- What there is of a topology. The last node comes first, and the shared namespace at the end. -/
def Topology.removal (topology : Topology) (options : Options) : List Command :=
  topology.nodes.reverse.flatMap (fun n => options.nodeRemoval n.name) ++
    [⟨"ip", ["netns", "del", Controller.sharedNameOf topology options]⟩]

/-- All of a topology is removed, whatever fails of it, and the result tells whether something
failed. -/
structure Topology.Removed (topology : Topology) (options : Options) (t : Trace Host)
    (r : Except Fault Unit) : Prop where
  removals : removals t = (topology.removal options).map .run
  ok_iff : r = .ok () ↔ ∀ x ∈ t, x.failsToRemove = false

namespace Controller

variable {c c' : Controller} {r : Except Fault Unit}

/-- The steps that remove what an earlier session left of a node. -/
def leftoverSteps (options : Options) (n : Node) : List TeardownStep :=
  [{ TeardownStep.removeContainer n.name with what := n.name },
    { TeardownStep.removeContainer s!"{n.name}-ns" with what := n.name },
    { TeardownStep.removeDirectory (Text.joinPath options.mountRoot n.name) with what := n.name }]

theorem runs_removeNode {n : Node} (hr : Lab.Runs (removeNode options n) l t failures l') :
    Attempted (fun _ => False) (leftoverSteps options n) t failures := by
  obtain ⟨u, _, first, l₁, rfl, hfirst, hr⟩ := Lab.runs_bind_iff.mp hr
  obtain ⟨v, _, second, l₂, rfl, hsecond, hr⟩ := Lab.runs_bind_iff.mp hr
  obtain ⟨w, _, third, l₃, rfl, hthird, hr⟩ := Lab.runs_bind_iff.mp hr
  obtain ⟨rfl, rfl, -⟩ := Lab.runs_pure_iff.mp hr
  have switch : Attempted (fun _ => False)
      [{ TeardownStep.removeContainer n.name with what := n.name }] u first :=
    .of_step TeardownStep.removeContainer_doneBy hfirst
  have holder : Attempted (fun _ => False)
      [{ TeardownStep.removeContainer s!"{n.name}-ns" with what := n.name }] v second :=
    .of_step TeardownStep.removeContainer_doneBy hsecond
  have directory : Attempted (fun _ => False)
      [{ TeardownStep.removeDirectory (Text.joinPath options.mountRoot n.name) with
        what := n.name }] w third :=
    .of_step TeardownStep.removeDirectory_doneBy hthird
  simpa [leftoverSteps] using switch.append (holder.append directory)

theorem runs_removeNodes {nodes : List Node}
    (hr : Lab.Runs (removeNodes options nodes) l t failures l') :
    Attempted (fun _ => False) (nodes.flatMap (leftoverSteps options)) t failures := by
  induction nodes generalizing l l' t failures with
  | nil =>
    obtain ⟨rfl, rfl, -⟩ := Lab.runs_pure_iff.mp hr
    exact .nil
  | cons n nodes ih =>
    obtain ⟨u, _, first, l₁, rfl, hfirst, hr⟩ := Lab.runs_bind_iff.mp hr
    obtain ⟨v, _, more, l₂, rfl, hmore, hr⟩ := Lab.runs_bind_iff.mp hr
    obtain ⟨rfl, rfl, -⟩ := Lab.runs_pure_iff.mp hr
    rw [List.append_nil, List.flatMap_cons]
    exact (runs_removeNode hfirst).append (ih hmore)

theorem leftoverSteps_remove {n : Node} : ∀ s ∈ leftoverSteps options n,
    (Query.run s.command).removes = true ∧ s.command.forgives? = some s.forgives := by
  simp only [leftoverSteps, List.forall_mem_cons]
  exact ⟨⟨rfl, rfl⟩, ⟨rfl, rfl⟩, ⟨rfl, rfl⟩, List.forall_mem_nil _⟩

theorem runs_down (hr : Attempt.Runs (down topology options) l t r l') :
    topology.Removed options t r := by
  obtain ⟨u, _, nodes, l₁, rfl, hnodes, hr⟩ := Lab.runs_bind_iff.mp (Attempt.runs_mk_iff.mp hr)
  obtain ⟨v, _, rest, l₂, rfl, hrest, hr⟩ := Lab.runs_bind_iff.mp hr
  obtain ⟨rfl, rfl, -⟩ := Lab.runs_pure_iff.mp hr
  have shared : Attempted (fun _ => False) _ v rest :=
    .of_step TeardownStep.deleteNamespace_doneBy hrest
  have all := (runs_removeNodes hnodes).append shared
  have hs : ∀ s ∈ topology.nodes.reverse.flatMap (leftoverSteps options) ++
      [.deleteNamespace s!"delete namespace {sharedNameOf topology options}"
        ⟨sharedNameOf topology options⟩],
      (Query.run s.command).removes = true ∧ s.command.forgives? = some s.forgives := by
    refine List.forall_mem_append.mpr ⟨fun s hs => ?_, List.forall_mem_singleton.mpr ⟨rfl, rfl⟩⟩
    obtain ⟨n, -, hs⟩ := List.mem_flatMap.mp hs
    exact leftoverSteps_remove s hs
  refine ⟨?_, ?_⟩
  · rw [List.append_nil, all.removals_eq fun _ => False.elim, List.filter_eq_self.mpr
      (List.forall_mem_map.mpr fun s hmem => (hs s hmem).1)]
    simp [Topology.removal, List.map_flatMap, leftoverSteps, Options.nodeRemoval,
      TeardownStep.removeContainer, TeardownStep.removeDirectory, TeardownStep.deleteNamespace]
  · rw [Cleanup.verdict_eq_ok_iff, List.append_nil]
    exact all.failures_eq_nil_iff (fun _ => False.elim) fun s hmem => (hs s hmem).2

end Controller

/-! ## What a build makes -/

/-- The look at a container that tells whether it is running. -/
def Container.lookCommand (name : String) : Command :=
  ⟨"docker", ["inspect", "--format", "\x7b\x7b.State.Running\x7d\x7d", name]⟩

/-- A look at the container that finds it running. -/
def Exchange.findsRunning (name : String) : Exchange Host → Bool
  | ⟨.run c, .ok output⟩ =>
    c = Container.lookCommand name && output.success && Text.trim output.stdout = "true"
  | _ => false

theorem Container.runs_isRunning {name : String} {running : Bool}
    (hr : Lab.Runs (isRunning name) l t running l') :
    ∃ x, t = [x] ∧ x.request = .run (lookCommand name) ∧ running = x.findsRunning name := by
  obtain ⟨u, v, r, l₁, rfl, hlook, hanswer⟩ := Lab.runs_bind_iff.mp hr
  obtain ⟨_, rfl, -, rfl⟩ := (calls_run _ _ _ _).mp hlook
  refine ⟨(lookCommand name).ran r, ?_⟩
  cases r with
  | error fault =>
    obtain ⟨rfl, rfl, -⟩ := Lab.runs_pure_iff.mp hanswer
    exact ⟨rfl, rfl, rfl⟩
  | ok output =>
    obtain ⟨rfl, rfl, -⟩ := Lab.runs_pure_iff.mp hanswer
    refine ⟨rfl, rfl, ?_⟩
    simp [Exchange.findsRunning, Command.ran]

namespace Device

variable {spec : DeviceSpec} {d d' : Device}

/-- The node was made here, and no server for it. -/
structure MadeHere (options : Options) (d : Device) : Prop where
  own : d.spec.attach = false
  mountRoot : d.spec.mountRoot = options.mountRoot
  holder : d.holder = some d.spec.holderName
  servers : d.servers = []

theorem MadeHere.of_made (h : d.MadeHere options) (hmade : d'.made = d.made) :
    d'.MadeHere options := by
  have hspec : d'.spec = d.spec := show d'.made.spec = d.made.spec from congrArg Device.spec hmade
  have hholder : d'.holder = d.holder :=
    show d'.made.holder = d.made.holder from congrArg Device.holder hmade
  have hservers : d'.servers.map (·.made) = d.servers.map (·.made) := congrArg Device.servers hmade
  rw [h.servers, List.map_nil, List.map_eq_nil_iff] at hservers
  exact ⟨hspec ▸ h.own, hspec ▸ h.mountRoot, by rw [hholder, hspec, h.holder], hservers⟩

/-- What its teardown removes is told by its name. -/
theorem MadeHere.teardownSteps_eq (h : d.MadeHere options) :
    d.teardownSteps.map (·.command) = options.nodeRemoval d.name := by
  rw [teardownSteps, containerSteps, DeviceSpec.mountDir, h.own, h.mountRoot, h.holder, h.servers]
  rfl

/-- A switch without servers that was provisioned. -/
theorem runs_provision_ok (hw : d.spec.withServers = false)
    (hr : On.Runs provision d l t (.ok ()) d' l') :
    ∃ pid, d' = { d with holder := some d.spec.holderName, pid := some pid } := by
  obtain ⟨_, _, _, _, -, -, hr⟩ := On.runs_bind_lift_ok_iff.mp (On.runs_bind_get_iff.mp hr)
  obtain ⟨_, _, _, _, -, -, hr⟩ := On.runs_bind_lift_ok_iff.mp (On.runs_bind_modify_iff.mp hr)
  obtain ⟨_, _, pid, _, -, -, hr⟩ := On.runs_bind_lift_ok_iff.mp hr
  have hr := On.runs_bind_modify_iff.mp hr
  simp only [hw, Bool.false_eq_true, if_false] at hr
  exact ⟨pid, ((keeps_switchContainer (K := fun d' => d' = _)
    allows_noStoreCall.toAllows.making _ rfl).of_runs hr).2⟩

theorem madeHere_of_setUp (hroot : spec.mountRoot = options.mountRoot)
    (hown : spec.attach = false) (hw : spec.withServers = false)
    (hr : On.Runs setUp (absent spec) l t (.ok ()) d l') : d.MadeHere options := by
  have hwork := runs_setUp_ok hr
  rw [hown] at hwork
  obtain ⟨pid, rfl⟩ := runs_provision_ok hw hwork
  exact ⟨hown, hroot, rfl, rfl⟩

end Device

namespace Controller

variable {c c' : Controller} {r : Except Fault Unit}

/-- All nodes were made here. -/
structure AllMade (options : Options) (c : Controller) : Prop where
  withOptions : c.options = options
  unadjusted : c.adjust = id
  nodes : ∀ d ∈ c.nodes, d.MadeHere options

namespace AllMade

variable {a : BuildStep} {steps : List BuildStep}

/-- A node that is not found running is made. -/
theorem node {n : Node} (h : AllMade options c) (hfound : ∀ x ∈ t, x.findsRunning n.name = false)
    (hr : On.Runs ((BuildStep.node n).act shared) c l t (.ok ()) c' l') : AllMade options c' := by
  obtain ⟨u, v, running, l₁, rfl, hlook, ⟨d, hcreate, -, rfl⟩ | ⟨_, -, hx, -⟩⟩ :=
    runs_node_cases hr
  case inr => cases hx
  obtain ⟨look, rfl, -, rfl⟩ := Container.runs_isRunning hlook
  rw [hfound look (by simp)] at hcreate
  rw [nodeSpec_of_unadjusted h.unadjusted, h.withOptions] at hcreate
  have made : d.MadeHere options :=
    Device.madeHere_of_setUp rfl rfl rfl (Device.runs_create_ok hcreate)
  exact ⟨h.withOptions, h.unadjusted,
    List.forall_mem_append.mpr ⟨h.nodes, List.forall_mem_singleton.mpr made⟩⟩

theorem act (h : AllMade options c)
    (hfound : ∀ n, a = .node n → ∀ x ∈ t, x.findsRunning n.name = false)
    (hr : On.Runs (a.act shared) c l t (.ok ()) c' l') : AllMade options c' := by
  cases a with
  | share =>
    rcases runs_share hr with ⟨-, hne⟩ | ⟨rfl, -⟩
    · exact absurd rfl hne
    · exact ⟨h.withOptions, h.unadjusted, h.nodes⟩
  | bridge =>
    obtain rfl := runs_bridge hr
    exact h
  | node n => exact h.node (hfound n rfl) hr
  | wire index side e =>
    rcases runs_wire hr with ⟨-, hne⟩ | ⟨_, -, rfl⟩
    · exact absurd rfl hne
    · exact ⟨h.withOptions, h.unadjusted, h.nodes⟩
  | ready index =>
    rcases runs_ready hr with ⟨rfl, -⟩ | ⟨d, d', hd, hmade, -, rfl⟩
    · exact h
    · refine ⟨h.withOptions, h.unadjusted, fun x hx => ?_⟩
      rcases List.mem_or_eq_of_mem_set hx with hx | rfl
      · exact h.nodes x hx
      · exact (h.nodes d (List.mem_of_getElem? hd)).of_made hmade

theorem carriedOut (h : AllMade options c)
    (hfound : ∀ n, .node n ∈ steps → ∀ x ∈ t, x.findsRunning n.name = false)
    (hrun : CarriedOut (BuildStep.act shared) steps c t (.ok ()) c') : AllMade options c' := by
  generalize hr : (.ok () : Except Fault Unit) = ok at hrun
  induction hrun with
  | done c => exact h
  | step ha _ ih =>
    refine ih (h.act (fun n hn x hx => ?_) ha) (fun n hn x hx => ?_) hr
    · exact hfound n (hn ▸ List.mem_cons_self) x (List.mem_append_left _ hx)
    · exact hfound n (List.mem_cons_of_mem _ hn) x (List.mem_append_right _ hx)
  | stopped => cases hr

end AllMade

theorem Dismantled.removed (h : c.Dismantled t r) (hmade : AllMade options c)
    (hc : Stands topology ⟨sharedNameOf topology options⟩ c) : topology.Removed options t r := by
  have held : ∀ d ∈ c.nodes, d.state ≠ .destroyed := fun d hd => by simp [hc.ready d hd]
  refine ⟨?_, h.ok_iff⟩
  have steps : (c.nodes.reverse.flatMap (·.teardownSteps)).map (·.command) =
      (c.nodes.reverse.map (·.name)).flatMap options.nodeRemoval := by
    rw [List.map_flatMap, List.flatMap_map]
    exact List.flatMap_congr fun d hd => (hmade.nodes d (List.mem_reverse.mp hd)).teardownSteps_eq
  have removal : topology.removal options =
      (c.nodes.reverse.flatMap (·.teardownSteps)).map (·.command) ++
        [⟨"ip", ["netns", "del", sharedNameOf topology options]⟩] := by
    rw [steps, List.map_reverse, hc.names, ← List.map_reverse, List.flatMap_map]
    rfl
  rw [h.removals held, hc.shared, removal, List.map_append, List.map_map]
  rfl

/-- Whatever fails of it, a topology that was built, with no node found running, is removed by its
teardown just as by a session that comes later. -/
theorem down_removes_built (retryInterval : Duration) {c c' : Controller} {l₁ l₂ l₃ l₄ : Ledger}
    {r r' : Except Fault Unit}
    (hbuild : On.Runs build { new topology options with retryInterval } l t (.ok ()) c l')
    (hfresh : ∀ n ∈ topology.nodes, ∀ x ∈ t, x.findsRunning n.name = false)
    (hteardown : On.Runs teardown c l₁ u r c' l₂)
    (hdown : Attempt.Runs (down topology options) l₃ v r' l₄) :
    topology.Removed options u r ∧ topology.Removed options v r' ∧ removals u = removals v := by
  have fresh : Empty topology { new topology options with retryInterval } :=
    ⟨rfl, rfl, rfl, rfl, rfl, rfl⟩
  obtain ⟨hbuilt, hprogress⟩ := runs_build fresh rfl hbuild
  have progress := hprogress rfl
  have hend := runs_teardown hteardown
  rw [progress.held, if_neg Bool.false_ne_true] at hend
  have made : AllMade options c := by
    cases hbuilt with
    | stands hrun =>
      have start : AllMade options
          { { new topology options with retryInterval } with built := true } :=
        ⟨rfl, rfl, List.forall_mem_nil _⟩
      refine start.carriedOut (fun n hn => hfresh n ?_) hrun
      simpa [Topology.plan, Topology.construction, Topology.wireSteps] using hn
  have removed := hend.1.removed made progress.stands
  have later := runs_down hdown
  exact ⟨removed, later, removed.removals.trans later.removals.symm⟩

end Controller

end SwitchLab

/-! ## A topology of one switch

Both ends of its link are at the switch. It is built, and then its directory is in use. -/

namespace SwitchLab.LoneSwitch

open Controller
open HalfWired (inShared inspected sharing pairing runs_of_face allowsAll allowsAllMounts)

def topology : Topology where
  name := "lab"
  nodes := [⟨"dut", none, none, none⟩]
  links := [⟨"l", ⟨"dut", "eth1", none, none, none⟩, ⟨"dut", "up0", none, none, none⟩⟩]

def options : Options :=
  { Options.default with numPorts := 1, mountRoot := "/m", bufferModel := .dynamic }

def making : Trace Host :=
  [inspected "Running" "dut" "", silently "mkdir" ["-p", "/m/dut"],
    silently "docker"
      ["create", "--name", "dut-ns", "--privileged", "-i", "debian:bookworm", "bash"],
    silently "docker" ["start", "dut-ns"], inspected "Pid" "dut-ns" "7\n",
    silently "docker" ["create", "--name", "dut", "--privileged", "--network", "container:dut-ns",
      "--cpus", "2", "-v", "/m/dut:/var/run/redis", "docker-sonic-vs:latest"],
    silently "docker" ["start", "dut"]]

/-- The ends of a pair get their names and come up. -/
def fastening (side iface : String) : Trace Host :=
  [silently "nsenter"
      ["-t", "7", "-n", "ip", "link", "set", "dev", "lab0" ++ side ++ "0", "name", iface],
    silently "nsenter" ["-t", "7", "-n", "ip", "link", "set", "dev", iface, "up"],
    inShared ["set", "dev", "lab0" ++ side ++ "1", "master", "topobr0"],
    inShared ["set", "dev", "lab0" ++ side ++ "1", "up"]]

def wiring : Trace Host :=
  pairing "a" "7" "eth1" ++ fastening "a" "eth1" ++ (pairing "b" "7" "up0" ++ fastening "b" "up0")

def trace : Trace Host := sharing ++ (making ++ (wiring ++ LatePort.trace))

/-- The controller when the nodes are made, with these ends of links. -/
def standing (nodes : List Device) (wired : List WiredEnd) : Controller :=
  { new topology options with shared := some ⟨"lab-topo"⟩, nodes, wired, built := true }

def madeDevice : Device :=
  { Device.absent ((new topology options).nodeSpec ⟨"dut", none, none, none⟩ false) with
    state := .creating
    pid := some 7
    holder := some "dut-ns" }

def readyDevice : Device := { madeDevice with stores := some LatePort.stores, state := .ready }

def ends : List WiredEnd := [⟨0, "eth1", "lab0a0", "lab0a1"⟩, ⟨0, "up0", "lab0b0", "lab0b1"⟩]

def built : Controller := standing [readyDevice] ends

theorem manages {c : Controller} (hc : c.topology = topology) (ho : c.options = options)
    (ha : c.adjust = id) (hd : ∀ d ∈ c.nodes, d.spec.mountDir = "/m/dut") :
    Manages topology options c :=
  ⟨hc, ho, ha, fun d hmem => by rw [hd d hmem]; decide⟩

theorem runs_buildAll : On.Runs buildAll { new topology options with built := true } .empty trace
    (.ok ()) built LatePort.ledger := by
  have shared : On.Runs buildShared { new topology options with built := true } .empty sharing
      (.ok ⟨"lab-topo"⟩) (standing [] []) .empty :=
    runs_of_face (keeps_buildShared allowsAll) (manages rfl rfl rfl (by simp [new])) rfl
      (by decide +kernel)
  have nodes : On.Runs (ForIn.forIn topology.nodes PUnit.unit fun node _ => do
      buildNode node
      pure (ForInStep.yield PUnit.unit)) (standing [] []) .empty making (.ok ())
      (standing [madeDevice] []) .empty :=
    runs_of_face (.forIn fun node hn => keeps_buildNode allowsAll allowsAllMounts hn)
      (manages rfl rfl rfl (by simp [standing])) rfl (by decide +kernel)
  have wires : On.Runs (wireLinks ⟨"lab-topo"⟩ 0 topology.links) (standing [madeDevice] []) .empty
      wiring (.ok ()) (standing [madeDevice] ends) .empty :=
    runs_of_face (keeps_wireLinks allowsAll) (manages rfl rfl rfl (by decide)) rfl
      (by decide +kernel)
  have ready : Lab.Runs (readyAll [madeDevice]) .empty LatePort.trace (.ok (), [readyDevice])
      LatePort.ledger := by
    have check : On.Runs Device.checkReady madeDevice .empty LatePort.trace (.ok ()) readyDevice
        LatePort.ledger := Device.runs_checkReady_of (.inl rfl) LatePort.runs_reachReady
    have none : Lab.Runs (readyAll []) LatePort.ledger [] (.ok (), []) LatePort.ledger :=
      Lab.runs_pure_iff.mpr ⟨rfl, rfl, rfl⟩
    refine Lab.runs_bind_iff.mpr
      ⟨_, [], (.ok (), readyDevice), _, (List.append_nil _).symm, check, ?_⟩
    exact Lab.runs_bind_iff.mpr ⟨[], [], _, _, rfl, none, Lab.runs_pure_iff.mpr ⟨rfl, rfl, rfl⟩⟩
  refine On.runs_bind_iff.mpr (.inl ⟨_, _, _, _, _, rfl, shared, On.runs_bind_get_iff.mpr ?_⟩)
  refine On.runs_bind_iff.mpr (.inl ⟨_, _, (), _, _, rfl, nodes, ?_⟩)
  refine On.runs_bind_iff.mpr (.inl ⟨_, _, (), _, _, rfl, wires, On.runs_bind_get_iff.mpr ?_⟩)
  refine On.runs_bind_liftLab_iff.mpr ⟨_, [], _, _, (List.append_nil _).symm, ready, ?_⟩
  exact On.runs_bind_modify_iff.mpr (On.runs_mk_pure_iff.mpr ⟨rfl, rfl, rfl, rfl⟩)

theorem runs_build :
    On.Runs build (new topology options) .empty trace (.ok ()) built LatePort.ledger := by
  refine On.runs_bind_get_iff.mpr (On.runs_bind_modify_iff.mpr ?_)
  exact On.runs_bind_result_iff.mpr ⟨trace, [], .ok (), built, _, (List.append_nil _).symm,
    runs_buildAll, On.runs_pure_iff.mpr ⟨rfl, rfl, rfl, rfl⟩⟩

/-- An end takes the other end of its pair with it. -/
def unwiring : Trace Host :=
  [Command.ran ⟨"ip", ["link", "del", "lab0b0"]⟩ (.ok ⟨1, "", "Cannot find device"⟩),
    inShared ["del", "lab0b1"],
    Command.ran ⟨"nsenter", ["-t", "7", "-n", "ip", "link", "del", "up0"]⟩
      (.ok ⟨1, "", "Cannot find device"⟩),
    Command.ran ⟨"ip", ["link", "del", "lab0a0"]⟩ (.ok ⟨1, "", "Cannot find device"⟩),
    inShared ["del", "lab0a1"],
    Command.ran ⟨"nsenter", ["-t", "7", "-n", "ip", "link", "del", "eth1"]⟩
      (.ok ⟨1, "", "Cannot find device"⟩)]

/-- The containers go, but not the directory. -/
def removing : Trace Host :=
  [silently "docker" ["rm", "-f", "dut"],
    Command.ran ⟨"docker", ["rm", "-f", "dut-ns"]⟩
      (.ok ⟨1, "", "Error: No such container: dut-ns"⟩),
    Command.ran ⟨"rm", ["-rf", "/m/dut"]⟩ (.ok ⟨1, "", "Device or resource busy"⟩)]

def deleting : Trace Host := [silently "ip" ["netns", "del", "lab-topo"]]

/-- The links, the node and the shared namespace, with its bridge before it. -/
def dismantling : Trace Host := unwiring ++ removing ++ (inShared ["del", "topobr0"] :: deleting)

def busy (what : String) : Fault :=
  .cleanup [what ++ "command `rm -rf /m/dut` exited with 1: Device or resource busy"]

theorem runs_teardown : On.Runs teardown built .empty dismantling
    (.error (busy "destroy dut: cleanup incomplete: remove /m/dut: ")) built.bare .empty :=
  runs_of_face (keeps_teardown allowsAll allowsAllMounts) (manages rfl rfl rfl (by decide)) rfl
    (by decide +kernel)

theorem runs_down : Attempt.Runs (down topology options) .empty
    (removing ++ deleting) (.error (busy "dut: ")) .empty :=
  Dialogue.runs_of_replay (by decide +kernel)

theorem down_removes_lone :
    On.Runs build { new topology options with retryInterval := .ofSecs 1 } .empty trace (.ok ())
      built LatePort.ledger ∧
    (∀ n ∈ topology.nodes, ∀ x ∈ trace, x.findsRunning n.name = false) ∧
    topology.Removed options dismantling
      (.error (busy "destroy dut: cleanup incomplete: remove /m/dut: ")) ∧
    topology.Removed options (removing ++ deleting) (.error (busy "dut: ")) ∧
    removals dismantling = removals (removing ++ deleting) := by
  have fresh : ∀ n ∈ topology.nodes, ∀ x ∈ trace, x.findsRunning n.name = false := by
    decide +kernel
  exact ⟨runs_build, fresh,
    down_removes_built (.ofSecs 1) runs_build fresh runs_teardown runs_down⟩

end SwitchLab.LoneSwitch
