import SwitchLab.Device.Basic
import SwitchLab.Proofs.Commands
import SwitchLab.Proofs.Requests

/-! Teardowns. All steps are tried in their order, whatever becomes of them, and
the failures are reported in that order. -/

namespace SwitchLab

variable {l l' : Ledger} {t u : Trace Host} {failures more : List String}

/-! ## Steps -/

namespace Cleanup

/-- What is reported of a step that ends so. -/
def told (what : String) : Except Fault Unit → List String
  | .ok _ => []
  | .error fault => [s!"{what}: {fault.message}"]

theorem told_eq_nil_iff {what : String} {r : Except Fault Unit} :
    told what r = [] ↔ r = .ok () := by
  cases r <;> simp [told]

theorem verdict_eq_ok_iff : verdict failures = .ok () ↔ failures = [] := by
  cases failures <;> simp [verdict]

theorem runs_step_iff {what : String} {work : Attempt Unit} :
    Lab.Runs (step what work) l t failures l' ↔
      ∃ r, Attempt.Runs work l t r l' ∧ failures = told what r := by
  rw [step, Lab.runs_bind_iff]
  constructor
  · rintro ⟨u, v, r, l₁, rfl, hu, hv⟩
    cases r with
    | ok a =>
      obtain ⟨rfl, rfl, rfl⟩ := Lab.runs_pure_iff.mp hv
      exact ⟨.ok a, by rwa [List.append_nil], rfl⟩
    | error fault =>
      obtain ⟨rfl, rfl, rfl⟩ := Lab.runs_pure_iff.mp hv
      exact ⟨.error fault, by rwa [List.append_nil], rfl⟩
  · rintro ⟨r, hr, rfl⟩
    refine ⟨t, [], r, l', (List.append_nil t).symm, hr, ?_⟩
    cases r <;> exact Lab.runs_pure_iff.mpr ⟨rfl, rfl, rfl⟩

end Cleanup

/-- A step of a teardown that is one command. -/
structure TeardownStep where
  /-- The name under which a failure is told. -/
  what : String
  command : Command
  /-- How a fault shows the command. -/
  line : String
  /-- The failures that pass for success. -/
  forgives : Fault → Bool

namespace TeardownStep

/-- What is reported of the step after this answer to its command. -/
def failure (s : TeardownStep) (reply : Except Fault Output) : List String :=
  Cleanup.told s.what (forgiven s.forgives (checked s.line reply))

def removeContainer (name : String) : TeardownStep where
  what := s!"remove {name}"
  command := ⟨"docker", ["rm", "-f", name]⟩
  line := Command.render ⟨"docker", ["rm", "-f", name]⟩
  forgives := Container.isGone

def removeDirectory (dir : String) : TeardownStep where
  what := s!"remove {dir}"
  command := ⟨"rm", ["-rf", dir]⟩
  line := Command.render ⟨"rm", ["-rf", dir]⟩
  forgives _ := false

def deleteNamespace (what : String) (ns : Namespace) : TeardownStep where
  what := what
  command := ⟨"ip", ["netns", "del", ns.name]⟩
  line := Command.render ⟨"ip", ["netns", "del", ns.name]⟩
  forgives := Fault.isMissing

def deleteLink (what : String) (scope : NetScope) (link : String) : TeardownStep where
  what := what
  command := scope.enter ⟨"ip", ["link", "del", link]⟩
  line := scope.shownLine ⟨"ip", ["link", "del", link]⟩
  forgives := Fault.isMissing

/-- The work is the command of the step. -/
def DoneBy (s : TeardownStep) (work : Attempt Unit) : Prop :=
  work.Calls s.command fun reply => forgiven s.forgives (checked s.line reply)

theorem runs_step {s : TeardownStep} {work : Attempt Unit} (h : s.DoneBy work)
    (hr : Lab.Runs (Cleanup.step s.what work) l t failures l') :
    ∃ reply, t = [s.command.ran reply] ∧ failures = s.failure reply := by
  obtain ⟨r, hwork, rfl⟩ := Cleanup.runs_step_iff.mp hr
  obtain ⟨reply, rfl, -, rfl⟩ := (h _ _ _ _).mp hwork
  exact ⟨reply, rfl, rfl⟩

theorem removeContainer_doneBy {name : String} :
    (removeContainer name).DoneBy (Container.remove name) := Container.calls_remove

theorem removeDirectory_doneBy {dir : String} :
    (removeDirectory dir).DoneBy (do let _ ← Host.check ⟨"rm", ["-rf", dir]⟩) := by
  intro l t r l'
  refine (calls_check.discard l t r l').trans (exists_congr fun reply => ?_)
  cases h : checked (Command.render ⟨"rm", ["-rf", dir]⟩) reply <;>
    simp [removeDirectory, h, forgiven, Except.map]

theorem deleteNamespace_doneBy {what : String} {ns : Namespace} :
    (deleteNamespace what ns).DoneBy ns.delete := Namespace.calls_delete

theorem deleteLink_doneBy {what : String} {scope : NetScope} {link : String} :
    (deleteLink what scope link).DoneBy (scope.deleteLink link) := NetScope.calls_deleteLink

end TeardownStep

/-! ## All steps, whatever fails -/

/-- The steps are tried one after the other, whatever becomes of them, with only requests between
them that satisfy `between`. What is reported is what failed, in order. -/
inductive Attempted (between : Query → Prop) :
    List TeardownStep → Trace Host → List String → Prop where
  | nil : Attempted between [] [] []
  | cons {s : TeardownStep} {steps : List TeardownStep} {reply : Except Fault Output}
      {t u : Trace Host} {failures : List String} :
    (∀ x ∈ u, between x.request) → Attempted between steps t failures →
    Attempted between (s :: steps) (u ++ s.command.ran reply :: t) (s.failure reply ++ failures)

namespace Attempted

variable {between between' : Query → Prop} {steps steps' : List TeardownStep}

theorem append (h : Attempted between steps t failures)
    (h' : Attempted between steps' u more) :
    Attempted between (steps ++ steps') (t ++ u) (failures ++ more) := by
  induction h with
  | nil => exact h'
  | cons hu _ ih =>
    rw [List.append_assoc, List.append_assoc]
    exact cons hu ih

/-- No step is left out. -/
theorem mem {s : TeardownStep} (h : Attempted between steps t failures) (hs : s ∈ steps) :
    ∃ x ∈ t, x.request = .run s.command := by
  induction h with
  | nil => cases hs
  | @cons first steps reply t u failures hu _ ih =>
    rcases List.mem_cons.mp hs with rfl | hs
    · exact ⟨s.command.ran reply, by simp, rfl⟩
    · obtain ⟨x, hx, hrequest⟩ := ih hs
      exact ⟨x, by simp [hx], hrequest⟩

/-- Nothing else is asked. -/
theorem requests (h : Attempted between steps t failures) :
    ∀ x ∈ t, between x.request ∨ ∃ s ∈ steps, x.request = .run s.command := by
  induction h with
  | nil => exact List.forall_mem_nil _
  | @cons s steps reply t u failures hu _ ih =>
    refine List.forall_mem_append.mpr ⟨fun x hx => .inl (hu x hx), List.forall_mem_cons.mpr
      ⟨.inr ⟨s, List.mem_cons_self, rfl⟩, fun x hx => (ih x hx).imp_right ?_⟩⟩
    rintro ⟨s', hs, hrequest⟩
    exact ⟨s', List.mem_cons_of_mem _ hs, hrequest⟩

theorem single {s : TeardownStep} {reply : Except Fault Output}
    (hu : ∀ x ∈ u, between x.request) :
    Attempted between [s] (u ++ [s.command.ran reply]) (s.failure reply) := by
  have h : Attempted between [s] (u ++ [s.command.ran reply]) (s.failure reply ++ []) := cons hu nil
  rwa [List.append_nil] at h

theorem of_step {s : TeardownStep} {work : Attempt Unit} (hs : s.DoneBy work)
    (hr : Lab.Runs (Cleanup.step s.what work) l t failures l') :
    Attempted between [s] t failures := by
  obtain ⟨reply, rfl, rfl⟩ := s.runs_step hs hr
  exact single (u := []) (by simp)

end Attempted

/-- All steps are tried, and the result tells which of them failed. -/
def TakenBack (steps : List TeardownStep) (t : Trace Host) (r : Except Fault Unit) : Prop :=
  ∃ failures, Attempted Query.IsKilling steps t failures ∧ r = Cleanup.verdict failures

/-! ## Servers -/

namespace VirtualServer

/-- The server as it was made. -/
def made (s : VirtualServer) : VirtualServer := { s with processes := [], destroyed := false }

/-- A namespace that was made here is deleted, once. -/
def teardownSteps (s : VirtualServer) : List TeardownStep :=
  if !s.destroyed && s.provision.cleanupOwned then
    [.deleteNamespace s!"destroy {s.ns.name}" s.ns]
  else []

theorem runs_killAll {s s' : VirtualServer} {a : Unit}
    (hr : Lab.Runs (killAll.run s) l t (a, s') l') :
    (∀ x ∈ t, x.request.IsKilling) ∧ s'.made = s.made ∧ s'.destroyed = s.destroyed := by
  have keeps := keeps_killAll (K := fun s' : VirtualServer =>
    s'.made = s.made ∧ s'.destroyed = s.destroyed) (fun _ h => h)
  exact (keeps s ⟨rfl, rfl⟩).of_runs hr

theorem runs_destroy {s s' : VirtualServer} {r : Except Fault Unit}
    (hr : On.Runs destroy s l t r s' l') :
    Attempted Query.IsKilling s.teardownSteps t (Cleanup.told s!"destroy {s.ns.name}" r) ∧
      s'.made = s.made ∧ s'.destroyed = true := by
  have hr := On.runs_bind_get_iff.mp hr
  split at hr
  case isTrue hd =>
    obtain ⟨rfl, rfl, rfl, -⟩ := On.runs_pure_iff.mp hr
    refine ⟨?_, rfl, hd⟩
    rw [teardownSteps, hd]
    exact .nil
  case isFalse hd =>
    rw [Bool.not_eq_true] at hd
    have hr := On.runs_bind_modify_iff.mp hr
    split at hr
    case isTrue ho =>
      rcases On.runs_bind_iff.mp hr with ⟨u, v, ⟨⟩, s₂, l₂, rfl, hkill, hdel⟩ | ⟨_, _, hkill⟩
      · obtain ⟨_, -, hrun⟩ := On.runs_liftState_iff.mp hkill
        obtain ⟨hkilling, hmade, hd₂⟩ := runs_killAll hrun
        obtain ⟨rfl, hdelete⟩ := On.runs_lift_iff.mp hdel
        obtain ⟨reply, rfl, -, rfl⟩ := (Namespace.calls_delete _ _ _ _).mp hdelete
        refine ⟨?_, hmade, hd₂⟩
        rw [teardownSteps, hd, ho]
        exact .single (s := .deleteNamespace s!"destroy {s.ns.name}" s.ns) hkilling
      · obtain ⟨_, hx, -⟩ := On.runs_liftState_iff.mp hkill
        cases hx
    case isFalse ho =>
      obtain ⟨rfl, rfl, rfl, -⟩ := On.runs_pure_iff.mp hr
      refine ⟨?_, rfl, rfl⟩
      rw [teardownSteps, Bool.not_eq_true _ |>.mp ho, Bool.and_false]
      exact .nil

end VirtualServer

namespace Device

theorem runs_destroyServers {servers : List VirtualServer}
    {x : List VirtualServer × List String}
    (hr : Lab.Runs (destroyServers servers) l t x l') :
    Attempted Query.IsKilling (servers.flatMap (·.teardownSteps)) t x.2 ∧
      x.1.map (·.made) = servers.map (·.made) ∧ ∀ s ∈ x.1, s.destroyed = true := by
  induction servers generalizing l l' t x with
  | nil =>
    obtain ⟨rfl, rfl, -⟩ := Lab.runs_pure_iff.mp hr
    exact ⟨.nil, rfl, by simp⟩
  | cons s rest ih =>
    obtain ⟨u, _, ⟨r, s'⟩, l₁, rfl, hs, hr⟩ := Lab.runs_bind_iff.mp hr
    obtain ⟨v, _, failures, l₂, rfl, hstep, hr⟩ := Lab.runs_bind_iff.mp hr
    obtain ⟨w, _, ⟨rest', more⟩, l₃, rfl, hrest, hr⟩ := Lab.runs_bind_iff.mp hr
    obtain ⟨rfl, rfl, -⟩ := Lab.runs_pure_iff.mp hr
    obtain ⟨_, hpure, rfl⟩ := Cleanup.runs_step_iff.mp hstep
    obtain ⟨rfl, rfl, -⟩ := Lab.runs_pure_iff.mp hpure
    obtain ⟨hsteps, hmade, hd⟩ := VirtualServer.runs_destroy hs
    obtain ⟨hsteps', hmade', hd'⟩ := ih hrest
    refine ⟨?_, by simp [hmade, hmade'], by simpa [hd] using hd'⟩
    simpa using hsteps.append hsteps'

/-! ## Switches -/

/-- The containers and the directory that a switch has made. -/
def containerSteps (d : Device) : List TeardownStep :=
  .removeContainer d.name :: d.holder.toList.map .removeContainer ++
    [.removeDirectory d.spec.mountDir]

theorem runs_removeContainers {d : Device} (hr : Lab.Runs d.removeContainers l t failures l') :
    Attempted Query.IsKilling d.containerSteps t failures := by
  rw [removeContainers] at hr
  obtain ⟨u, v, first, l₁, rfl, hfirst, hr⟩ := Lab.runs_bind_iff.mp hr
  have first : Attempted Query.IsKilling [.removeContainer d.name] u first :=
    .of_step TeardownStep.removeContainer_doneBy hfirst
  have directory {w : Trace Host} {third : List String} {l₂ l₃ : Ledger}
      (h : Lab.Runs (Cleanup.step s!"remove {d.spec.mountDir}" do
        let _ ← Host.check ⟨"rm", ["-rf", d.spec.mountDir]⟩) l₂ w third l₃) :
      Attempted Query.IsKilling [.removeDirectory d.spec.mountDir] w third :=
    .of_step TeardownStep.removeDirectory_doneBy h
  cases hh : d.holder with
  | none =>
    simp only [hh, pure_bind] at hr
    obtain ⟨w, _, third, l₂, rfl, hthird, hr⟩ := Lab.runs_bind_iff.mp hr
    obtain ⟨rfl, rfl, -⟩ := Lab.runs_pure_iff.mp hr
    simpa [containerSteps, hh] using first.append (directory hthird)
  | some holder =>
    simp only [hh] at hr
    obtain ⟨w, _, second, l₂, rfl, hsecond, hr⟩ := Lab.runs_bind_iff.mp hr
    obtain ⟨x, _, third, l₃, rfl, hthird, hr⟩ := Lab.runs_bind_iff.mp hr
    obtain ⟨rfl, rfl, -⟩ := Lab.runs_pure_iff.mp hr
    have second : Attempted Query.IsKilling [.removeContainer holder] w second :=
      .of_step TeardownStep.removeContainer_doneBy hsecond
    simpa [containerSteps, hh] using first.append (second.append (directory hthird))

/-- All steps of a teardown: the containers and the directory unless the switch was attached to,
then the servers. -/
def teardownSteps (d : Device) : List TeardownStep :=
  (if d.spec.attach then [] else d.containerSteps) ++ d.servers.flatMap (·.teardownSteps)

/-- A teardown removes containers, directories and namespaces. -/
theorem teardownSteps_cases {d : Device} {s : TeardownStep} (hs : s ∈ d.teardownSteps) :
    (∃ name, s = .removeContainer name) ∨ (∃ dir, s = .removeDirectory dir) ∨
      ∃ what ns, s = .deleteNamespace what ns := by
  rcases List.mem_append.mp hs with hs | hs
  · split at hs
    · cases hs
    · simp only [containerSteps, List.mem_append, List.mem_cons, List.mem_map, List.not_mem_nil,
        or_false] at hs
      rcases hs with (rfl | ⟨_, _, rfl⟩) | rfl
      · exact .inl ⟨_, rfl⟩
      · exact .inl ⟨_, rfl⟩
      · exact .inr (.inl ⟨_, rfl⟩)
  · obtain ⟨server, -, hs⟩ := List.mem_flatMap.mp hs
    rw [VirtualServer.teardownSteps] at hs
    split at hs
    · exact .inr (.inr ⟨_, _, List.mem_singleton.mp hs⟩)
    · cases hs

/-- The switch is torn down, unless that was done before. -/
def TornDown (d : Device) (t : Trace Host) (r : Except Fault Unit) : Prop :=
  if d.state = .destroyed then t = [] ∧ r = .ok () else TakenBack d.teardownSteps t r

/-- The switch as it was made. -/
def made (d : Device) : Device :=
  { d with state := .creating, stores := none, servers := d.servers.map (·.made) }

/-- The servers are those of any other switch that was made so. -/
theorem server_of_made {d d' : Device} {s : VirtualServer} {i : Nat} (hmade : d'.made = d.made)
    (hs : d'.servers[i]? = some s) :
    ∃ s', d.servers[i]? = some s' ∧ s'.ns = s.ns ∧ s'.provision = s.provision := by
  have servers : d'.servers.map (·.made) = d.servers.map (·.made) := congrArg Device.servers hmade
  have hget : (d.servers.map (·.made))[i]? = some s.made := by
    rw [← servers, List.getElem?_map, hs]
    rfl
  rw [List.getElem?_map] at hget
  obtain ⟨s', hs', heq⟩ := Option.map_eq_some_iff.mp hget
  have hns := congrArg VirtualServer.ns heq
  have hprovision := congrArg VirtualServer.provision heq
  exact ⟨s', hs', hns, hprovision⟩

theorem mem_servers_of_made {d d' : Device} {s : VirtualServer} (hmade : d'.made = d.made)
    (hs : s ∈ d'.servers) : ∃ s' ∈ d.servers, s'.ns = s.ns ∧ s'.provision = s.provision := by
  obtain ⟨i, hi⟩ := List.mem_iff_getElem?.mp hs
  obtain ⟨s', hs', hsame⟩ := server_of_made hmade hi
  exact ⟨s', List.mem_of_getElem? hs', hsame⟩

/-- The switch is destroyed, and all its servers with it. -/
structure Gone (d : Device) : Prop where
  state : d.state = .destroyed
  stores : d.stores = none
  servers : ∀ s ∈ d.servers, s.destroyed = true

theorem runs_destroy {d d' : Device} {r : Except Fault Unit}
    (hr : On.Runs destroy d l t r d' l') :
    d.TornDown t r ∧ d'.made = d.made ∧ if d.state = .destroyed then d' = d else d'.Gone := by
  have hr := On.runs_bind_get_iff.mp hr
  split at hr
  case isTrue hd =>
    obtain ⟨rfl, rfl, rfl, -⟩ := On.runs_pure_iff.mp hr
    rw [TornDown, if_pos hd, if_pos hd]
    exact ⟨⟨rfl, rfl⟩, rfl, rfl⟩
  case isFalse hd =>
    have hr := On.runs_bind_modify_iff.mp hr
    -- the servers go whether there was a container to remove or not
    have servers (first : List String) {u : Trace Host} {l₂ : Ledger} (h : On.Runs (do
        let gone ← (destroyServers d.servers : Lab _)
        modify fun d => { d with servers := gone.1 }
        ExceptT.mk (pure (Cleanup.verdict (first ++ gone.2))) : On Device Unit)
        { d with state := .destroyed, stores := none } l₂ u r d' l') :
        ∃ more, Attempted Query.IsKilling (d.servers.flatMap (·.teardownSteps)) u more ∧
          r = Cleanup.verdict (first ++ more) ∧ d'.made = d.made ∧ d'.Gone := by
      obtain ⟨v, w, ⟨gone, more⟩, l₃, rfl, hv, hw⟩ := On.runs_bind_liftLab_iff.mp h
      obtain ⟨hsteps, hmade, hgone⟩ := runs_destroyServers hv
      obtain ⟨rfl, rfl, rfl, -⟩ := On.runs_mk_pure_iff.mp (On.runs_bind_modify_iff.mp hw)
      refine ⟨more, by simpa using hsteps, rfl, ?_, ⟨rfl, rfl, hgone⟩⟩
      simp [made, hmade]
    rw [TornDown, if_neg hd, if_neg hd, teardownSteps]
    split at hr
    case isTrue ha =>
      obtain ⟨more, hsteps, rfl, hmade, hgone⟩ := servers [] hr
      exact ⟨⟨more, by simpa [ha] using hsteps, by simp⟩, hmade, hgone⟩
    case isFalse ha =>
      obtain ⟨u, v, first, l₂, rfl, hu, hv⟩ := On.runs_bind_liftLab_iff.mp hr
      obtain ⟨more, hsteps, rfl, hmade, hgone⟩ := servers first hv
      refine ⟨⟨first ++ more, ?_, rfl⟩, hmade, hgone⟩
      simpa [ha] using (runs_removeContainers hu).append hsteps

/-! ## Failures that end a switch -/

/-- The logs are saved, and the switch is destroyed. -/
def Ended (d : Device) (t : Trace Host) (d' : Device) : Prop :=
  ∃ u v l₁ l₂ l₃ r, t = u ++ v ∧ Lab.Runs d.captureLogs l₁ u () l₂ ∧ On.Runs destroy d l₂ v r d' l₃

/-- The work succeeds, or it fails, and then the switch is destroyed. The fault is the one of the
work. -/
theorem runs_orDestroy_cases {α : Type} {work : On Device α} {d d' : Device} {r : Except Fault α}
    (hr : On.Runs (orDestroy work) d l t r d' l') :
    (∃ a, r = .ok a ∧ On.Runs work d l t (.ok a) d' l') ∨
    ∃ fault u v d₁ l₁, r = .error fault ∧ t = u ++ v ∧
      On.Runs work d l u (.error fault) d₁ l₁ ∧ d₁.Ended v d' := by
  obtain ⟨u, v, x, d₁, l₁, rfl, hwork, hr⟩ := On.runs_bind_result_iff.mp hr
  cases x with
  | ok a =>
    obtain ⟨rfl, rfl, rfl, rfl⟩ := On.runs_pure_iff.mp hr
    exact .inl ⟨a, rfl, by rwa [List.append_nil]⟩
  | error fault =>
    obtain ⟨v, w, ⟨⟩, l₂, rfl, hlogs, hr⟩ :=
      On.runs_bind_liftLab_iff.mp (On.runs_bind_get_iff.mp hr)
    obtain ⟨w, x, y, d₂, l₃, rfl, hdestroy, hr⟩ := On.runs_bind_result_iff.mp hr
    obtain ⟨rfl, rfl, rfl, rfl⟩ := On.runs_throw_iff.mp hr
    refine .inr ⟨fault, u, v ++ w, d₁, l₁, rfl, by simp, hwork, ?_⟩
    exact ⟨v, w, l₁, l₂, l', y, rfl, hlogs, hdestroy⟩

theorem runs_orDestroy_ok {α : Type} {work : On Device α} {d d' : Device} {a : α}
    (hr : On.Runs (orDestroy work) d l t (.ok a) d' l') : On.Runs work d l t (.ok a) d' l' := by
  rcases runs_orDestroy_cases hr with ⟨a, hx, hwork⟩ | ⟨_, _, _, _, _, hx, -⟩
  · cases hx
    exact hwork
  · cases hx

/-- What `checkReady` can do, by the state of the switch. -/
theorem runs_checkReady_cases {d d' : Device} {r : Except Fault Unit}
    (hr : On.Runs checkReady d l t r d' l') :
    (d.state = .ready ∧ t = [] ∧ r = .ok () ∧ d' = d) ∨
    ((d.state = .absent ∨ d.state = .destroyed) ∧ t = [] ∧ r = .error (d.refuse "check_ready") ∧
      d' = d) ∨
    ((d.state = .creating ∨ d.state = .checkingReadiness) ∧
      ((∃ stores, Attempt.Runs (reachReady d.spec) l t (.ok stores) l' ∧ r = .ok () ∧
        d' = { d with stores := some stores, state := .ready }) ∨
      ∃ fault u v l₁, r = .error fault ∧ t = u ++ v ∧
        Attempt.Runs (reachReady d.spec) l u (.error fault) l₁ ∧
        Ended { d with state := .checkingReadiness } v d')) := by
  have hr := On.runs_bind_get_iff.mp hr
  have stages (h : On.Runs (do
      setState .checkingReadiness
      let stores ← orDestroy (reachReady d.spec)
      modify fun d => { d with stores := some stores, state := .ready }) d l t r d' l') :
      (∃ stores, Attempt.Runs (reachReady d.spec) l t (.ok stores) l' ∧ r = .ok () ∧
        d' = { d with stores := some stores, state := .ready }) ∨
      ∃ fault u v l₁, r = .error fault ∧ t = u ++ v ∧
        Attempt.Runs (reachReady d.spec) l u (.error fault) l₁ ∧
        Ended { d with state := .checkingReadiness } v d' := by
    rcases On.runs_bind_iff.mp (On.runs_bind_modify_iff.mp h) with
      ⟨u, v, stores, d₁, l₁, rfl, ho, hm⟩ | ⟨e, rfl, ho⟩
    · obtain ⟨rfl, rfl, rfl, rfl⟩ := On.runs_modify_iff.mp hm
      rcases runs_orDestroy_cases ho with ⟨_, hx, hwork⟩ | ⟨_, _, _, _, _, hx, _⟩
      · cases hx
        obtain ⟨rfl, hreach⟩ := On.runs_lift_iff.mp hwork
        exact .inl ⟨stores, by rwa [List.append_nil], rfl, rfl⟩
      · cases hx
    · rcases runs_orDestroy_cases ho with ⟨_, hx, _⟩ | ⟨fault, u, v, d₁, l₁, hx, rfl, hwork, hend⟩
      · cases hx
      · cases hx
        obtain ⟨rfl, hreach⟩ := On.runs_lift_iff.mp hwork
        exact .inr ⟨e, u, v, l₁, rfl, rfl, hreach, hend⟩
  cases hstate : d.state with
  | ready =>
    rw [hstate] at hr
    obtain ⟨rfl, rfl, rfl, -⟩ := On.runs_pure_iff.mp hr
    exact .inl ⟨rfl, rfl, rfl, rfl⟩
  | absent | destroyed =>
    rw [hstate] at hr
    obtain ⟨rfl, rfl, rfl, -⟩ := On.runs_throw_iff.mp hr
    exact .inr (.inl ⟨by simp, rfl, rfl, rfl⟩)
  | creating | checkingReadiness =>
    rw [hstate] at hr
    exact .inr (.inr ⟨by simp, stages hr⟩)

/-- What `restart` can do: the switch is not ready before it has gone through the stages again. -/
theorem runs_restart_cases {d d' : Device} {r : Except Fault Unit}
    (hr : On.Runs restart d l t r d' l') :
    ((d.state = .absent ∨ d.state = .destroyed) ∧ t = [] ∧ d' = d) ∨
    (d.state ≠ .absent ∧ d.state ≠ .destroyed ∧
      ((∃ fault, r = .error fault ∧ Attempt.Runs d.restartCommand l t (.error fault) l' ∧
        d' = { d with stores := none, state := .checkingReadiness }) ∨
      ∃ u v l₁, t = u ++ v ∧ Attempt.Runs d.restartCommand l u (.ok ()) l₁ ∧
        On.Runs checkReady { d with stores := none, state := .checkingReadiness } l₁ v r d'
          l')) := by
  have hr := On.runs_bind_get_iff.mp hr
  split at hr
  case isTrue hs =>
    obtain ⟨rfl, -, rfl, -⟩ := On.runs_throw_bind_iff.mp hr
    exact .inl ⟨hs, rfl, rfl⟩
  case isFalse hs =>
    rw [not_or] at hs
    refine .inr ⟨hs.1, hs.2, ?_⟩
    rcases On.runs_bind_lift_iff.mp (On.runs_bind_modify_iff.mp hr) with
      ⟨u, v, ⟨⟩, l₁, rfl, hcommand, hcheck⟩ | ⟨e, rfl, rfl, hcommand⟩
    · exact .inr ⟨u, v, l₁, rfl, hcommand, hcheck⟩
    · exact .inl ⟨e, rfl, hcommand, rfl⟩

end Device

end SwitchLab
