import Mathlib.Data.List.Nodup
import SwitchLab.Proofs.Histories

/-! The whole life of a switch: it is made or not, things are done with it, and
at last nobody holds it any more. All that was made for it is removed once. -/

namespace SwitchLab

variable {l l' : Ledger} {t u v : Trace Host} {failures : List String}

/-! ## What is removed -/

/-- The requests that remove something, in their order. -/
def removals (t : Trace Host) : List Query := (t.map (·.request)).filter (·.removes)

@[simp] theorem removals_append : removals (t ++ u) = removals t ++ removals u := by
  simp [removals]

theorem mem_removals {e : Exchange Host} (he : e ∈ t) (hr : e.request.removes = true) :
    e.request ∈ removals t :=
  List.mem_filter.mpr ⟨List.mem_map_of_mem he, hr⟩

theorem count_removals {q : Query} (hq : q.removes = true) :
    (removals t).count q = (t.map (·.request)).count q := List.count_filter hq

theorem Spares.removals (h : Spares t) : removals t = [] := by
  rw [SwitchLab.removals, List.filter_eq_nil_iff]
  intro q hq
  obtain ⟨x, hx, rfl⟩ := List.mem_map.mp hq
  rw [h x hx]
  exact Bool.false_ne_true

/-- All that is removed while steps are tried is what they remove. -/
theorem Attempted.removals_eq {between : Query → Prop} {steps : List TeardownStep}
    (h : Attempted between steps t failures) (hb : ∀ q, between q → q.removes = false) :
    removals t = (steps.map (Query.run ·.command)).filter (·.removes) := by
  induction h with
  | nil => rfl
  | @cons s steps reply t u failures hu _ ih =>
    have spares : Spares u := fun x hx => hb _ (hu x hx)
    rw [removals_append, spares.removals, List.nil_append, List.map_cons, List.filter_cons, ← ih,
      SwitchLab.removals, List.map_cons, List.filter_cons]
    rfl

theorem Attempted.removals {steps : List TeardownStep}
    (h : Attempted Query.IsKilling steps t failures)
    (hs : ∀ s ∈ steps, (Query.run s.command).removes = true) :
    removals t = steps.map (Query.run ·.command) := by
  rw [h.removals_eq fun _ hq => allows_spares.use.killing hq, List.filter_eq_self]
  exact List.forall_mem_map.mpr hs

/-- The steps are tried once, and nothing else is removed. -/
def RemovedOnce (steps : List TeardownStep) (t : Trace Host) : Prop :=
  ∃ u v w failures, t = u ++ (v ++ w) ∧ Spares u ∧ Spares w ∧
    Attempted Query.IsKilling steps v failures

namespace RemovedOnce

variable {steps : List TeardownStep}

theorem before (h : RemovedOnce steps t) (hu : Spares u) : RemovedOnce steps (u ++ t) := by
  obtain ⟨v, w, x, failures, rfl, hv, hx, hsteps⟩ := h
  exact ⟨u ++ v, w, x, failures, by simp, hu.append hv, hx, hsteps⟩

theorem append (h : RemovedOnce steps t) (hu : Spares u) : RemovedOnce steps (t ++ u) := by
  obtain ⟨v, w, x, failures, rfl, hv, hx, hsteps⟩ := h
  exact ⟨v, w, x ++ u, failures, by simp, hv, hx.append hu, hsteps⟩

theorem removals (h : RemovedOnce steps t)
    (hs : ∀ s ∈ steps, (Query.run s.command).removes = true) :
    removals t = steps.map (Query.run ·.command) := by
  obtain ⟨u, v, w, failures, rfl, hu, hw, hsteps⟩ := h
  rw [removals_append, removals_append, hu.removals, hw.removals, hsteps.removals hs]
  simp

end RemovedOnce

/-- The two containers of a switch have different names. -/
theorem DeviceSpec.name_ne_holderName (spec : DeviceSpec) : spec.name ≠ spec.holderName := by
  intro heq
  have hlength : spec.name.length = spec.name.length + 3 :=
    (congrArg String.length heq).trans (String.length_append ..)
  omega

namespace Device

variable {d d' : Device}

/-! ## What was made for a switch -/

/-- The steps that take back what was made for a switch: its containers, its directory, and the
namespaces of its servers in their order. -/
def ownSteps (d : Device) : List TeardownStep :=
  d.containerSteps ++ (d.servers.filter (·.provision.cleanupOwned)).map fun s =>
    .deleteNamespace s!"destroy {s.ns.name}" s.ns

/-- The steps at the end of a switch. One that was attached to stays, but not the servers that were
made for it. -/
def backSteps (d : Device) : List TeardownStep :=
  (if d.spec.attach then [] else d.containerSteps) ++
    (d.servers.filter (·.provision.cleanupOwned)).map fun s =>
      .deleteNamespace s!"destroy {s.ns.name}" s.ns

theorem backSteps_of_own (hown : d.spec.attach = false) : d.backSteps = d.ownSteps := by
  rw [backSteps, hown]
  rfl

theorem backSteps_made : d.made.backSteps = d.backSteps := by
  simp only [backSteps, made, List.filter_map, List.map_map]
  rfl

theorem backSteps_remove : ∀ s ∈ d.backSteps, (Query.run s.command).removes = true := by
  simp only [backSteps, List.forall_mem_append, List.forall_mem_map]
  refine ⟨?_, fun _ _ => rfl⟩
  split
  · exact List.forall_mem_nil _
  · simp only [containerSteps, List.forall_mem_append, List.forall_mem_cons, List.forall_mem_map]
    exact ⟨⟨rfl, fun _ _ => rfl⟩, rfl, List.forall_mem_nil _⟩

theorem ownSteps_made : d.made.ownSteps = d.ownSteps := by
  simp only [ownSteps, made, List.filter_map, List.map_map]
  rfl

/-- A switch that was made and not destroyed, nor were its servers. -/
structure Alive (d : Device) : Prop where
  made : d.state ≠ .absent
  held : d.state ≠ .destroyed
  servers : ∀ s ∈ d.servers, s.destroyed = false

/-- Each server that was made and is still there has one step. -/
theorem flatMap_teardownSteps {servers : List VirtualServer}
    (h : ∀ s ∈ servers, s.destroyed = false) :
    servers.flatMap (·.teardownSteps) = (servers.filter (·.provision.cleanupOwned)).map fun s =>
      .deleteNamespace s!"destroy {s.ns.name}" s.ns := by
  induction servers with
  | nil => rfl
  | cons s servers ih =>
    obtain ⟨hs, hrest⟩ := List.forall_mem_cons.mp h
    rw [List.flatMap_cons, ih hrest, VirtualServer.teardownSteps, hs, List.filter_cons]
    cases s.provision.cleanupOwned <;> rfl

theorem Alive.teardownSteps_eq (h : d.Alive) : d.teardownSteps = d.backSteps := by
  rw [teardownSteps, backSteps, flatMap_teardownSteps h.servers]

theorem Making.alive {spec : DeviceSpec} (h : Making spec d t) : d.Alive :=
  ⟨by simp [h.state], by simp [h.state], fun s hs => (h.servers s hs).1⟩

/-! ## The end of a switch -/

theorem runs_drop {a : Unit} (hr : Lab.Runs d.drop l t a l') :
    if d.state = .absent ∨ d.state = .destroyed then t = [] else ∃ r, d.TornDown t r := by
  rw [drop] at hr
  split at hr
  case isTrue h =>
    obtain ⟨u, v, ⟨r, d'⟩, l₁, rfl, hdestroy, hr⟩ := Lab.runs_bind_iff.mp hr
    obtain ⟨rfl, -⟩ := Lab.runs_pure_iff.mp hr
    rw [if_neg (by simp [h.1, h.2]), List.append_nil]
    exact ⟨r, (runs_destroy hdestroy).1⟩
  case isFalse h =>
    obtain ⟨rfl, -⟩ := Lab.runs_pure_iff.mp hr
    rw [if_pos (by simpa [Decidable.or_iff_not_imp_left] using h)]

/-- A failure while the switch is alive ends it. -/
theorem Ended.ends (h : d.Ended t d') (hd : d.Alive) :
    d'.Gone ∧ d'.made = d.made ∧ RemovedOnce d.backSteps t := by
  obtain ⟨u, v, l₁, l₂, l₃, r, rfl, hlogs, hdestroy⟩ := h
  have logs : Spares u := ((asks_captureLogs allows_spares.containers).of_runs hlogs).1
  obtain ⟨htorn, hmade, hgone⟩ := runs_destroy hdestroy
  rw [TornDown, if_neg hd.held] at htorn
  rw [if_neg hd.held] at hgone
  obtain ⟨failures, hattempted, -⟩ := htorn
  rw [hd.teardownSteps_eq] at hattempted
  exact ⟨hgone, hmade, u, v, [], failures, by simp, logs, Spares.nil, hattempted⟩

/-! ## One operation -/

namespace Outcome

variable {op : Operation} {r : Except Fault Unit}

/-- Nothing is removed for a switch that is destroyed already. -/
theorem afterwards (h : Outcome op d t r d') (hd : d.state = .destroyed) : Spares t := by
  cases h with
  | kept hspares _ _ => exact hspares
  | passed _ hne _ _ | halted _ hne _ => exact absurd hd hne
  | detached => exact Spares.nil
  | tornDown hne _ _ _ _ _ => exact absurd hd hne

/-- A switch stays alive and nothing is removed, or it is detached, or all is taken back. -/
theorem alive (h : Outcome op d t r d') (hd : d.Alive) :
    (d'.Alive ∧ Spares t) ∨
    (d'.state = .destroyed ∧ (RemovedOnce d.backSteps t ∨ op = .detach ∧ Spares t)) := by
  cases h with
  | kept hspares halike _ =>
    have servers : ∀ s ∈ d'.servers, s.destroyed = false := by
      intro s hs
      have hmem : s.destroyed ∈ d.servers.map (·.destroyed) :=
        halike.destroyed ▸ List.mem_map_of_mem hs
      obtain ⟨s', hs', he⟩ := List.mem_map.mp hmem
      rw [← he]
      exact hd.servers s' hs'
    refine .inl ⟨⟨?_, ?_, servers⟩, hspares⟩
    · rw [halike.state]
      exact hd.made
    · rw [halike.state]
      exact hd.held
  | passed _ _ hspares _ => exact .inl ⟨⟨nofun, nofun, hd.servers⟩, hspares⟩
  | halted _ _ hspares => exact .inl ⟨⟨nofun, nofun, hd.servers⟩, hspares⟩
  | detached hop =>
    rw [detach, if_neg hd.held]
    exact .inr ⟨rfl, .inr ⟨hop, Spares.nil⟩⟩
  | @tornDown u v _ _ failures _ _ hspares hattempted hgone _ =>
    rw [hd.teardownSteps_eq] at hattempted
    exact .inr ⟨hgone.state, .inl ⟨u, v, [], failures, by simp, hspares, Spares.nil, hattempted⟩⟩

end Outcome

/-- The switch is alive or destroyed, and what was made for it is the same as for `d₀`. -/
structure Owned (d₀ d : Device) : Prop where
  state : d.Alive ∨ d.state = .destroyed
  own : d.spec.attach = false
  steps : d.ownSteps = d₀.ownSteps

theorem Owned.after {d₀ : Device} {e : Event Operation Device} (he : e.Ran Operation.act)
    (h : Owned d₀ e.before) : Owned d₀ e.after := by
  have hmade := (outcome_of_ran he).made
  have hspec := congrArg Device.spec hmade
  refine ⟨?_, (congrArg DeviceSpec.attach hspec).trans h.own, ?_⟩
  · rcases h.state with hd | hd
    · rcases (outcome_of_ran he).alive hd with ⟨hd', -⟩ | ⟨hd', -⟩
      · exact .inl hd'
      · exact .inr hd'
    · exact .inr ((outcome_of_ran he).destroyed hd)
  · rw [← h.steps, ← ownSteps_made, hmade, ownSteps_made]

/-- While it is not destroyed, its teardown has all steps. -/
theorem Owned.tornDown {d₀ : Device} {r : Except Fault Unit} (h : Owned d₀ d)
    (hd : d.state ≠ .destroyed) (htorn : d.TornDown t r) : TakenBack d₀.ownSteps t r := by
  have alive : d.Alive := h.state.resolve_right hd
  rwa [TornDown, if_neg hd, alive.teardownSteps_eq, backSteps_of_own h.own, h.steps] at htorn

/-! ## All operations -/

variable {events : List (Event Operation Device)} {e : Event Operation Device}

/-- Once a switch is destroyed, it stays so, and nothing is removed. -/
theorem spares_afterwards (h : History Operation.act d events d') (hd : d.state = .destroyed) :
    d'.state = .destroyed ∧ Spares (events.flatMap (·.trace)) := by
  induction h with
  | nil d => exact ⟨hd, Spares.nil⟩
  | @cons e events d' he _ ih =>
    obtain ⟨hd', hrest⟩ := ih ((outcome_of_ran he).destroyed hd)
    rw [List.flatMap_cons]
    exact ⟨hd', ((outcome_of_ran he).afterwards hd).append hrest⟩

/-- What all operations take back. A switch that lives through them had nothing removed; else all
was taken back, once, unless it was detached. -/
theorem alive_or_over (h : History Operation.act d events d') (hd : d.Alive) :
    (d'.Alive ∧ Spares (events.flatMap (·.trace))) ∨
    (d'.state = .destroyed ∧
      (RemovedOnce d.backSteps (events.flatMap (·.trace)) ∨
        (∃ e ∈ events, e.operation = .detach ∧ e.before.state ≠ .destroyed) ∧
          Spares (events.flatMap (·.trace)))) := by
  induction h with
  | nil d => exact .inl ⟨hd, Spares.nil⟩
  | @cons e events d' he hrest ih =>
    rw [List.flatMap_cons]
    rcases (outcome_of_ran he).alive hd with ⟨hd', hnone⟩ | ⟨hgone, hend⟩
    · have hsteps : e.after.backSteps = e.before.backSteps := by
        rw [← backSteps_made, (outcome_of_ran he).made, backSteps_made]
      rw [← hsteps]
      rcases ih hd' with ⟨hd', h⟩ | ⟨hgone, h | ⟨⟨m, hm, hop⟩, h⟩⟩
      · exact .inl ⟨hd', hnone.append h⟩
      · exact .inr ⟨hgone, .inl (h.before hnone)⟩
      · exact .inr ⟨hgone, .inr ⟨⟨m, List.mem_cons_of_mem _ hm, hop⟩, hnone.append h⟩⟩
    · obtain ⟨hgone', hnone⟩ := spares_afterwards hrest hgone
      rcases hend with h | ⟨hop, h⟩
      · exact .inr ⟨hgone', .inl (h.append hnone)⟩
      · exact .inr ⟨hgone', .inr ⟨⟨e, List.mem_cons_self, hop, hd.held⟩, h.append hnone⟩⟩

/-- Nothing is removed of a switch that is detached while it is alive. -/
theorem spares_of_detached (h : History Operation.act d events d') (hd : d.Alive)
    (hdetached : ∃ e ∈ events, e.operation = .detach ∧ e.before.state ≠ .destroyed) :
    Spares (events.flatMap (·.trace)) ∧ d'.state = .destroyed := by
  induction h with
  | nil d => simp at hdetached
  | @cons e events d' he hrest ih =>
    rw [List.flatMap_cons]
    obtain ⟨m, hm, hop, hstate⟩ := hdetached
    rcases (outcome_of_ran he).alive hd with ⟨hd', hnone⟩ | ⟨hgone, -⟩
    · rcases List.mem_cons.mp hm with rfl | hm
      · obtain ⟨l, l', hr⟩ := he
        rw [hop] at hr
        obtain ⟨-, -, hafter, -⟩ := On.runs_modify_iff.mp hr
        rw [hafter, detach, if_neg hstate] at hd'
        exact absurd rfl hd'.held
      · obtain ⟨hspares, hend⟩ := ih hd' ⟨m, hm, hop, hstate⟩
        exact ⟨hnone.append hspares, hend⟩
    · obtain ⟨hend, hspares⟩ := spares_afterwards hrest hgone
      refine ⟨?_, hend⟩
      rcases List.mem_cons.mp hm with rfl | hm
      · obtain ⟨l, l', hr⟩ := he
        rw [hop] at hr
        obtain ⟨htrace, -⟩ := On.runs_modify_iff.mp hr
        rw [htrace]
        exact Spares.nil.append hspares
      · -- it stays destroyed
        exact absurd ((hrest.keeps (I := fun d => d.state = .destroyed)
          (fun e he hd => (outcome_of_ran he).destroyed hd) hgone).1 m hm).1 hstate

theorem tornDown_of_ran (h : e.Ran Operation.act) (hop : e.operation = .destroy) :
    e.before.TornDown e.trace e.result ∧ e.after.state = .destroyed := by
  obtain ⟨l, l', hr⟩ := h
  rw [hop] at hr
  obtain ⟨htorn, -, hend⟩ := runs_destroy hr
  refine ⟨htorn, ?_⟩
  split at hend
  case isTrue hd => rw [hend, hd]
  case isFalse => exact hend.state

/-! ## The whole life -/

/-- The life of a switch: how it was made, what was done with it, and what was asked when nobody
held it any more. -/
structure Life where
  spec : DeviceSpec
  making : Trace Host
  made : Except Fault Unit
  first : Device
  events : List (Event Operation Device)
  last : Device
  dropping : Trace Host

namespace Life

/-- A switch that could not be made is dropped at once. -/
structure Lived (x : Life) : Prop where
  made : ∃ l l', On.Runs setUp (absent x.spec) l x.making x.made x.first l'
  used : History Operation.act x.first x.events x.last
  failed : x.made ≠ .ok () → x.events = []
  dropped : ∃ l l', Lab.Runs x.last.drop l x.dropping () l'

def trace (x : Life) : Trace Host := x.making ++ (x.events.flatMap (·.trace) ++ x.dropping)

/-- The switch is left running by its user. -/
def Detached (x : Life) : Prop :=
  ∃ e ∈ x.events, e.operation = .detach ∧ e.before.state ≠ .destroyed

/-- The steps that take back what was made. -/
def steps (x : Life) : List TeardownStep := x.first.ownSteps

/-- What was made is taken back, once. -/
structure EndsOnce (x : Life) : Prop where
  forSpec : x.first.spec = x.spec
  /-- The container that holds the namespace is noted under its name, or there is none. -/
  holder : x.first.holder = none ∨ x.first.holder = some x.spec.holderName
  /-- The servers are in the order of their numbers. -/
  numbered : x.first.servers.map (·.ns.name) =
    (List.range x.first.servers.length).map (VirtualServer.namespaceName x.spec.name)
  distinct : (x.steps.map (·.command)).Nodup
  /-- The first time that the switch is destroyed, or dropped, all steps are tried. -/
  destroyed : ∀ e ∈ x.events, e.operation = .destroy → e.before.state ≠ .destroyed →
    TakenBack x.steps e.trace e.result
  dropped : x.last.state ≠ .destroyed → ∃ r, TakenBack x.steps x.dropping r
  /-- After that nothing is asked. -/
  repeated : ∀ earlier e later, x.events = earlier ++ e :: later → e.operation = .destroy →
    (∀ m ∈ later, m.operation = .destroy → m.trace = [] ∧ m.result = .ok ()) ∧ x.dropping = []
  /-- While the switch is made, only namespaces are removed, and none that was made for a server.
  Later just the steps are taken, each once and in their order, or none if it is detached. -/
  once : ∃ u v, x.trace = u ++ v ∧
    (∀ y ∈ u, y.request.removes = true → ∃ ns : Namespace, y.request = .run ns.deleteCommand) ∧
    (∀ s ∈ x.first.servers, s.provision = .created → s.ns.MadeIn u) ∧
    (removals v = x.steps.map (Query.run ·.command) ∨
      (∃ e ∈ x.events, e.operation = .detach) ∧ removals v = [])

end Life

theorem Making.nodup_names {spec : DeviceSpec} (h : Making spec d t) :
    (d.servers.map (·.ns.name)).Nodup := by
  rw [h.names]
  exact List.Nodup.map (fun _ _ => VirtualServer.namespaceName_inj.mp) List.nodup_range

/-- What is made for a switch is removed by commands that are all different. -/
theorem Making.nodup_steps {spec : DeviceSpec} (h : Making spec d t) :
    (d.ownSteps.map (·.command)).Nodup := by
  have made : ((d.servers.filter (·.provision.cleanupOwned)).map (·.ns.name)).Nodup :=
    h.nodup_names.sublist (List.filter_sublist.map _)
  have delete_inj : Function.Injective fun name => Namespace.deleteCommand ⟨name⟩ :=
    fun _ _ heq => by simpa [Namespace.deleteCommand] using heq
  have servers := List.Nodup.map delete_inj made
  have holder : d.name ≠ spec.holderName := by
    rw [name, h.forSpec]
    exact spec.name_ne_holderName
  have containers : (d.containerSteps.map (·.command)).Nodup := by
    rcases h.holder with hh | hh <;>
      simp [containerSteps, hh, TeardownStep.removeContainer, TeardownStep.removeDirectory, holder]
  have apart : ∀ c ∈ d.containerSteps.map (·.command), c.program ≠ "ip" := by
    simp only [containerSteps, List.map_append, List.map_cons, List.map_map,
      List.forall_mem_append, List.forall_mem_cons, List.forall_mem_map]
    simp [TeardownStep.removeContainer, TeardownStep.removeDirectory]
  rw [List.map_map] at servers
  rw [ownSteps, List.map_append, List.map_map, List.nodup_append]
  refine ⟨containers, servers, fun c hc c' hc' heq => apart c hc ?_⟩
  obtain ⟨s, -, rfl⟩ := List.mem_map.mp hc'
  rw [heq]
  rfl

/-- The namespaces that were made for the servers stay the same. -/
theorem Making.madeIn {spec : DeviceSpec} (h : Making spec d t) (hmade : d'.made = d.made) :
    ∀ s ∈ d'.servers, s.provision = .created → s.ns.MadeIn t := by
  intro s hs hc
  obtain ⟨s', hs', hns, hprovision⟩ := mem_servers_of_made hmade hs
  rw [← hns]
  exact (h.servers s' hs').2 (hprovision.trans hc)

namespace Life

variable {x : Life}

/-- How a life begins: `d` is what was there of the switch after `u`. Either this is the switch, or
making it has failed then, and `d` was torn down. -/
structure Begun (x : Life) (d : Device) (u v : Trace Host) : Prop where
  making : Making x.spec d u
  trace : x.making = u ++ v
  same : x.first.made = d.made
  first : x.first = d ∧ v = [] ∨ x.first.Gone ∧ RemovedOnce d.backSteps v

/-- How a life begins, and all that is known of the work of making the switch. -/
theorem Lived.begun_of {I : Device → Except Fault Unit → Trace Host → Prop} (hx : x.Lived)
    (hI : ∀ {l t r d l'}, On.Runs (if x.spec.attach then attach else provision)
      { absent x.spec with state := .creating } l t r d l' → I d r t) :
    ∃ d u v, x.Begun d u v ∧ I d x.made u ∧ (x.made ≠ .ok () → x.first.state = .destroyed) := by
  obtain ⟨l, l', hr⟩ := hx.made
  rcases runs_orDestroy_cases (runs_setUp_iff.mp hr) with
    ⟨⟨⟩, hok, hwork⟩ | ⟨fault, u, v, d, l₁, hfault, htrace, hwork, hend⟩
  · rw [hok]
    exact ⟨x.first, x.making, [], ⟨making_of_work hwork, by simp, rfl, .inl ⟨rfl, rfl⟩⟩, hI hwork,
      fun hne => absurd rfl hne⟩
  · have hmaking := making_of_work hwork
    obtain ⟨hgone, hmade, hremoved⟩ := hend.ends hmaking.alive
    rw [hfault]
    exact ⟨d, u, v, ⟨hmaking, htrace, hmade, .inr ⟨hgone, hremoved⟩⟩, hI hwork,
      fun _ => hgone.state⟩

theorem Lived.begun (hx : x.Lived) : ∃ d u v, x.Begun d u v := by
  obtain ⟨d, u, v, h, -⟩ := hx.begun_of (I := fun _ _ _ => True) fun _ => trivial
  exact ⟨d, u, v, h⟩

theorem Begun.steps_eq (h : x.Begun d u v) : x.steps = d.ownSteps := by
  rw [steps, ← ownSteps_made, h.same, ownSteps_made]

theorem Begun.backSteps_eq (h : x.Begun d u v) : d.backSteps = x.first.backSteps := by
  rw [← backSteps_made, ← h.same, backSteps_made]

theorem Begun.spec_eq (h : x.Begun d u v) : x.first.spec = x.spec := by
  have hsame := congrArg Device.spec h.same
  exact hsame.trans h.making.forSpec

theorem Begun.holder_eq (h : x.Begun d u v) : x.first.holder = d.holder := by
  have hsame := congrArg Device.holder h.same
  exact hsame

theorem Begun.names_eq (h : x.Begun d u v) :
    x.first.servers.map (·.ns.name) = d.servers.map (·.ns.name) := by
  have hsame := congrArg (fun d => d.servers.map (·.ns.name)) h.same
  simpa [Device.made, VirtualServer.made, Function.comp_def] using hsame

theorem Begun.owned (h : x.Begun d u v) (hown : x.spec.attach = false) :
    Owned x.first x.first := by
  refine ⟨?_, by rw [h.spec_eq, hown], rfl⟩
  rcases h.first with ⟨hd, -⟩ | ⟨hgone, -⟩
  · exact .inl (hd ▸ h.making.alive)
  · exact .inr hgone.state

/-- A switch that is destroyed is dropped in silence. -/
theorem Lived.silent (hx : x.Lived) (hd : x.last.state = .destroyed) : x.dropping = [] := by
  obtain ⟨l, l', hdrop⟩ := hx.dropped
  have h := runs_drop hdrop
  rwa [if_pos (.inr hd)] at h

/-- Any other switch is torn down when it is dropped. -/
theorem Lived.torn (hx : x.Lived) (hlast : x.last.Alive) :
    ∃ r, TakenBack x.last.backSteps x.dropping r := by
  obtain ⟨l, l', hdrop⟩ := hx.dropped
  have h := runs_drop hdrop
  rw [if_neg (not_or.mpr ⟨hlast.made, hlast.held⟩)] at h
  obtain ⟨r, htorn⟩ := h
  rw [TornDown, if_neg hlast.held, hlast.teardownSteps_eq] at htorn
  exact ⟨r, htorn⟩

theorem Lived.takenBack (hx : x.Lived) (hlast : Owned x.first x.last)
    (hd : x.last.state ≠ .destroyed) : ∃ r, TakenBack x.steps x.dropping r := by
  have htorn := hx.torn (hlast.state.resolve_right hd)
  rwa [backSteps_of_own hlast.own, hlast.steps] at htorn

theorem Lived.repeated (hx : x.Lived) {earlier later : List (Event Operation Device)}
    {e : Event Operation Device} (hsplit : x.events = earlier ++ e :: later)
    (hop : e.operation = .destroy) :
    (∀ m ∈ later, m.operation = .destroy → m.trace = [] ∧ m.result = .ok ()) ∧
      x.dropping = [] := by
  have hused := hx.used
  rw [hsplit] at hused
  obtain ⟨d₁, -, hrest⟩ := hused.of_append
  cases hrest with
  | cons he hrest =>
    obtain ⟨hstays, hend⟩ := hrest.keeps (I := fun d => d.state = .destroyed)
      (fun m hm hd => (outcome_of_ran hm).destroyed hd) (tornDown_of_ran he hop).2
    refine ⟨fun m hm hagain => ?_, hx.silent hend⟩
    have htorn := (tornDown_of_ran (hrest.ran m hm) hagain).1
    rwa [TornDown, if_pos (hstays m hm).1] at htorn

/-- After the switch was made, or could not be made, all is taken back once, or it is detached. -/
theorem Lived.ends (hx : x.Lived) (h : x.Begun d u v) :
    RemovedOnce x.first.backSteps (v ++ (x.events.flatMap (·.trace) ++ x.dropping)) ∨
      x.Detached ∧ Spares (v ++ (x.events.flatMap (·.trace) ++ x.dropping)) := by
  rcases h.first with ⟨rfl, rfl⟩ | ⟨hgone, hremoved⟩
  · rcases alive_or_over hx.used h.making.alive with
      ⟨halive, hnone⟩ | ⟨hend, hremoved | ⟨hdetached, hnone⟩⟩
    · obtain ⟨r, failures, hattempted, -⟩ := hx.torn halive
      have hmade := (hx.used.keeps (I := fun d => d.made = x.first.made)
        (fun e he hd => (outcome_of_ran he).made.trans hd) rfl).2
      rw [← backSteps_made, hmade, backSteps_made] at hattempted
      exact .inl ⟨_, _, [], failures, by simp, hnone, Spares.nil, hattempted⟩
    · rw [hx.silent hend, List.append_nil]
      exact .inl hremoved
    · rw [hx.silent hend, List.append_nil]
      exact .inr ⟨hdetached, hnone⟩
  · obtain ⟨hend, hnone⟩ := spares_afterwards hx.used hgone.state
    rw [hx.silent hend, List.append_nil, ← h.backSteps_eq]
    exact .inl (hremoved.append hnone)

theorem Lived.spares_of_detached (hx : x.Lived) (h : x.Begun d u v) (hdetached : x.Detached) :
    Spares (v ++ (x.events.flatMap (·.trace) ++ x.dropping)) := by
  rcases h.first with ⟨rfl, rfl⟩ | ⟨hgone, -⟩
  · obtain ⟨hspares, hend⟩ := Device.spares_of_detached hx.used h.making.alive hdetached
    rw [hx.silent hend, List.append_nil]
    exact hspares
  · obtain ⟨e, he, -, hstate⟩ := hdetached
    exact absurd ((hx.used.keeps (I := fun d => d.state = .destroyed)
      (fun e he hd => (outcome_of_ran he).destroyed hd) hgone.state).1 e he).1 hstate

/-- The same for what is removed of a switch of its own. -/
theorem Lived.removals (hx : x.Lived) (h : x.Begun d u v) (hown : x.spec.attach = false) :
    removals (v ++ (x.events.flatMap (·.trace) ++ x.dropping)) =
        x.steps.map (Query.run ·.command) ∨
      (∃ e ∈ x.events, e.operation = .detach) ∧
        removals (v ++ (x.events.flatMap (·.trace) ++ x.dropping)) = [] := by
  have hfirst : x.first.spec.attach = false := by rw [h.spec_eq, hown]
  rcases hx.ends h with hremoved | ⟨⟨e, he, hop, -⟩, hnone⟩
  · rw [hremoved.removals backSteps_remove, backSteps_of_own hfirst]
    exact .inl rfl
  · exact .inr ⟨⟨e, he, hop⟩, hnone.removals⟩

/-- The life of a switch of its own ends well, whatever its host and its databases answer and
whatever is done with it: its teardown tries all steps, whichever of them fail, and what was made is
removed once. -/
theorem lived_endsOnce (hx : x.Lived) (hown : x.spec.attach = false) : x.EndsOnce := by
  obtain ⟨d, u, v, h⟩ := hx.begun
  obtain ⟨hevents, hlast⟩ := hx.used.keeps (fun e he => Owned.after he) (h.owned hown)
  refine
    { forSpec := h.spec_eq
      holder := ?_
      numbered := ?_
      distinct := ?_
      destroyed := fun e he hop hd =>
        (hevents e he).1.tornDown hd (tornDown_of_ran (hx.used.ran e he) hop).1
      dropped := hx.takenBack hlast
      repeated := fun _ _ _ => hx.repeated
      once := ⟨u, _, ?_, h.making.removed, h.making.madeIn h.same, hx.removals h hown⟩ }
  · rw [h.holder_eq]
    exact h.making.holder
  · have hlength := congrArg List.length h.names_eq
    simp only [List.length_map] at hlength
    rw [h.names_eq, hlength]
    exact h.making.names
  · rw [h.steps_eq]
    exact h.making.nodup_steps
  · rw [trace, h.trace, List.append_assoc]

end Life

end Device

end SwitchLab

/-! ## From the beginning to the end

The switch with the late port is destroyed, and then dropped. -/

namespace SwitchLab.LatePort

open Device

def life : Life where
  spec := spec
  making := making
  made := .ok ()
  first := madeDevice
  events := events
  last := goneDevice
  dropping := []

theorem lived : life.Lived where
  made := ⟨.empty, .empty, runs_create_ok runs_create⟩
  used := history
  failed h := absurd rfl h
  dropped := ⟨ledger, ledger, Dialogue.runs_of_replay (by decide +kernel)⟩

theorem life_endsOnce : life.Lived ∧ life.spec.attach = false ∧ life.EndsOnce :=
  ⟨lived, rfl, Life.lived_endsOnce lived rfl⟩

end SwitchLab.LatePort
