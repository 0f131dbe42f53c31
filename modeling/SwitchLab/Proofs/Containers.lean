import SwitchLab.Proofs.Lives

/-! The containers that a switch removes. They are its own two, and each was made
by the switch before, unless making the switch stopped before that. -/

namespace SwitchLab

variable {l l' : Ledger} {t u v : Trace Host} {spec : DeviceSpec}

/-! ## Containers that are made -/

namespace Container

def removeCommand (name : String) : Command := ⟨"docker", ["rm", "-f", name]⟩

/-- A container of this name is asked for. -/
def TriedIn (name : String) (t : Trace Host) : Prop :=
  ∃ x ∈ t, ∃ spec : ContainerSpec, spec.name = name ∧
    x.request = .run ⟨"docker", spec.createArgs⟩

/-- A container of this name is asked for, and made. -/
def MadeIn (name : String) (t : Trace Host) : Prop :=
  ∃ x ∈ t, ∃ spec : ContainerSpec, spec.name = name ∧ Command.Done ⟨"docker", spec.createArgs⟩ x

variable {name : String}

theorem TriedIn.append_left (h : TriedIn name t) : TriedIn name (t ++ u) := by
  obtain ⟨x, hx, hspec⟩ := h
  exact ⟨x, List.mem_append_left u hx, hspec⟩

theorem TriedIn.append_right (h : TriedIn name u) : TriedIn name (t ++ u) := by
  obtain ⟨x, hx, hspec⟩ := h
  exact ⟨x, List.mem_append_right t hx, hspec⟩

theorem MadeIn.append_left (h : MadeIn name t) : MadeIn name (t ++ u) := by
  obtain ⟨x, hx, hspec⟩ := h
  exact ⟨x, List.mem_append_left u hx, hspec⟩

theorem MadeIn.append_right (h : MadeIn name u) : MadeIn name (t ++ u) := by
  obtain ⟨x, hx, hspec⟩ := h
  exact ⟨x, List.mem_append_right t hx, hspec⟩

theorem calls_create {spec : ContainerSpec} :
    Attempt.Calls (create spec) ⟨"docker", spec.createArgs⟩ fun reply =>
      (checked (Command.render ⟨"docker", spec.createArgs⟩) reply).bind fun output =>
        .ok (Text.trim output.stdout) := calls_docker.bind _

theorem runs_create {spec : ContainerSpec} {r : Except Fault String}
    (hr : Attempt.Runs (create spec) l t r l') :
    TriedIn spec.name t ∧ ∀ id, r = .ok id → MadeIn spec.name t := by
  obtain ⟨reply, rfl, -, rfl⟩ := (calls_create _ _ _ _).mp hr
  refine ⟨⟨_, List.mem_singleton_self _, spec, rfl, rfl⟩, fun id hid => ?_⟩
  cases hc : checked (Command.render ⟨"docker", spec.createArgs⟩) reply with
  | error fault => simp [hc, Except.bind] at hid
  | ok output =>
    obtain ⟨rfl, hsuccess⟩ := checked_eq_ok_iff.mp hc
    exact ⟨_, List.mem_singleton_self _, spec, rfl, output, rfl, hsuccess⟩

theorem runs_createAndStart {spec : ContainerSpec} {r : Except Fault String}
    (hr : Attempt.Runs (createAndStart spec) l t r l') :
    TriedIn spec.name t ∧ ∀ id, r = .ok id → MadeIn spec.name t := by
  rcases Attempt.runs_bind_iff.mp hr with ⟨u, v, id, l₁, rfl, hcreate, -⟩ | ⟨e, rfl, hcreate⟩
  · obtain ⟨htried, hmade⟩ := runs_create hcreate
    exact ⟨htried.append_left, fun _ _ => (hmade id rfl).append_left⟩
  · exact ⟨(runs_create hcreate).1, nofun⟩

end Container

namespace Device

/-! ## Making a switch -/

/-- A container is noted before it is asked for. When all is done, both are made. -/
structure Boxed (spec : DeviceSpec) (d : Device) (r : Except Fault Unit) (t : Trace Host) :
    Prop where
  tried : d.holder = some spec.holderName → Container.TriedIn spec.holderName t
  holder : r = .ok () → Container.MadeIn spec.holderName t
  switch : r = .ok () → Container.MadeIn spec.name t

theorem runs_switchContainer {d d' : Device} (hr : On.Runs (do
    let _ ← Container.create (switchSpec spec)
    if let some config := spec.defaultConfig then
      Container.copyIn config spec.name "/etc/sonic/config_db.json"
    Container.start spec.name : On Device Unit) d l t (.ok ()) d' l') :
    Container.MadeIn spec.name t := by
  obtain ⟨u, v, id, l₁, rfl, hcreate, -⟩ := On.runs_bind_lift_ok_iff.mp hr
  exact ((Container.runs_create hcreate).2 id rfl).append_left

/-- The steps after the namespace is there end with the container of the switch. -/
theorem runs_afterHolder {pid : Nat} {d d' : Device} (hr : On.Runs (do
    if spec.withServers then createServers pid 0 spec.numPorts
    let _ ← Container.create (switchSpec spec)
    if let some config := spec.defaultConfig then
      Container.copyIn config spec.name "/etc/sonic/config_db.json"
    Container.start spec.name : On Device Unit) d l t (.ok ()) d' l') :
    Container.MadeIn spec.name t := by
  dsimp only at hr
  split at hr
  case isTrue =>
    rcases On.runs_bind_iff.mp hr with ⟨u, v, _, d₁, l₁, rfl, -, hr⟩ | ⟨_, hx, -⟩
    · exact (runs_switchContainer hr).append_right
    · cases hx
  case isFalse => exact runs_switchContainer hr

theorem runs_provision {d d' : Device} {r : Except Fault Unit} (hd : d.holder = none)
    (hr : On.Runs provision d l t r d' l') : Boxed d.spec d' r t := by
  rcases On.runs_bind_lift_iff.mp (On.runs_bind_get_iff.mp hr) with
    ⟨u, w, _, l₁, rfl, -, hr⟩ | ⟨e, rfl, rfl, -⟩
  case inr => exact ⟨fun h => by simp [hd] at h, nofun, nofun⟩
  rcases On.runs_bind_lift_iff.mp (On.runs_bind_modify_iff.mp hr) with
    ⟨v, w, id, l₂, rfl, hholder, hr⟩ | ⟨e, rfl, rfl, hholder⟩
  case inr =>
    exact ⟨fun _ => (Container.runs_createAndStart hholder).1.append_right, nofun, nofun⟩
  obtain ⟨htried, hmade⟩ := Container.runs_createAndStart hholder
  refine ⟨fun _ => htried.append_left.append_right, ?_, ?_⟩
  · rintro rfl
    exact (hmade id rfl).append_left.append_right
  · rintro rfl
    obtain ⟨x, y, pid, l₃, rfl, -, hr⟩ := On.runs_bind_lift_ok_iff.mp hr
    have switch := runs_afterHolder (On.runs_bind_modify_iff.mp hr)
    exact switch.append_right.append_right.append_right

namespace Life

variable {x : Life}

/-! ## The whole life -/

/-- How the life of a switch of its own begins, and what of its containers is there then. -/
theorem Lived.boxed (hx : x.Lived) (hown : x.spec.attach = false) :
    ∃ d u v, x.Begun d u v ∧ Boxed x.spec d x.made u ∧
      (x.made ≠ .ok () → x.first.state = .destroyed) := by
  refine hx.begun_of fun hr => ?_
  rw [hown] at hr
  exact runs_provision rfl hr

/-- The switch removes just its own two containers, and each was made for it before. It is different
only while making the switch fails: then there may be less than there is to remove, and the
container that holds the namespace is removed once it was asked for. -/
def RemovesOwn (x : Life) : Prop :=
  ∀ before e after name, x.trace = before ++ e :: after →
    e.request = .run (Container.removeCommand name) →
    (name = x.spec.name ∨ name = x.spec.holderName) ∧
    (Container.MadeIn name before ∨
      x.made ≠ .ok () ∧ before ++ [e] <+: x.making ∧
        (name = x.spec.holderName → Container.TriedIn name before))

end Life

/-- The containers among what is made for a switch. -/
theorem mem_ownSteps {d : Device} {name : String}
    (h : Query.run (Container.removeCommand name) ∈ d.ownSteps.map (Query.run ·.command)) :
    name = d.name ∨ d.holder = some name := by
  obtain ⟨s, hs, hcommand⟩ := List.mem_map.mp h
  simp only [ownSteps, containerSteps, List.mem_append, List.mem_cons, List.mem_map,
    Option.mem_toList] at hs
  rcases hs with ((rfl | ⟨holder, hholder, rfl⟩) | rfl | hs) | ⟨s, -, rfl⟩
  · simp_all [TeardownStep.removeContainer, Container.removeCommand]
  · simp_all [TeardownStep.removeContainer, Container.removeCommand]
  · simp [TeardownStep.removeDirectory, Container.removeCommand] at hcommand
  · cases hs
  · simp [TeardownStep.deleteNamespace, Container.removeCommand] at hcommand

namespace Life

variable {x : Life}

/-- Nothing but namespaces is removed before the switch is there, or cannot be made. -/
theorem Begun.late {d : Device} (h : x.Begun d u v) {before after : Trace Host} {e : Exchange Host}
    (htrace : x.trace = before ++ e :: after) (hremoves : e.request.removes = true)
    (hcontainer : ∀ ns : Namespace, e.request ≠ .run ns.deleteCommand) :
    ∃ between, before = u ++ between ∧
      v ++ (x.events.flatMap (·.trace) ++ x.dropping) = between ++ e :: after := by
  rw [Life.trace, h.trace, List.append_assoc] at htrace
  rcases List.append_eq_append_iff.mp htrace with
    ⟨between, hbefore, hlate⟩ | ⟨between, hu, hlate⟩
  · exact ⟨between, hbefore, hlate⟩
  · cases between with
    | nil => exact ⟨[], by simpa using hu.symm, by simpa using hlate.symm⟩
    | cons e' between =>
      obtain ⟨rfl, -⟩ := List.cons.inj hlate
      obtain ⟨ns, hns⟩ := h.making.removed e (by simp [hu]) hremoves
      exact absurd hns (hcontainer ns)

/-- A switch that could not be made is destroyed then, is not used, and is dropped in silence. -/
theorem Lived.trace_failed (hx : x.Lived) (hmade : x.made ≠ .ok ())
    (hgone : x.first.state = .destroyed) : x.trace = x.making := by
  have hused := hx.used
  rw [hx.failed hmade] at hused
  have hlast := (hused.keeps (I := fun d => d.state = .destroyed)
    (fun e he hd => (outcome_of_ran he).destroyed hd) hgone).2
  rw [Life.trace, hx.failed hmade, hx.silent hlast]
  exact List.append_nil _

/-- Whatever the host answers and whatever is done with a switch of its own, no container is
removed that it did not make, but for what a failure leaves while the switch is made. -/
theorem lived_removesOwn (hx : x.Lived) (hown : x.spec.attach = false) : x.RemovesOwn := by
  intro before e after name htrace he
  obtain ⟨d, u, v, hbegun, hboxed, hfailed⟩ := hx.boxed hown
  have hremoves : e.request.removes = true := by
    rw [he]
    rfl
  obtain ⟨between, rfl, hlate⟩ := hbegun.late htrace hremoves fun ns => by
    simp [he, Container.removeCommand, Namespace.deleteCommand]
  have hmem : Query.run (Container.removeCommand name) ∈ d.ownSteps.map (Query.run ·.command) := by
    have hin := mem_removals (t := v ++ (x.events.flatMap (·.trace) ++ x.dropping)) (e := e)
      (by simp [hlate]) hremoves
    rcases hx.removals hbegun hown with hsteps | ⟨-, hnone⟩
    · rwa [hsteps, he, hbegun.steps_eq] at hin
    · simp [hnone] at hin
  have hname : name = x.spec.name ∨ d.holder = some name ∧ name = x.spec.holderName := by
    rcases mem_ownSteps hmem with rfl | hholder
    · exact .inl (congrArg DeviceSpec.name hbegun.making.forSpec)
    · rcases hbegun.making.holder with hnone | hsome
      · simp [hnone] at hholder
      · rw [hholder] at hsome
        exact .inr ⟨hholder, Option.some.inj hsome⟩
  refine ⟨hname.imp_right And.right, ?_⟩
  by_cases hmade : x.made = .ok ()
  · left
    rcases hname with rfl | ⟨-, rfl⟩
    · exact (hboxed.switch hmade).append_left
    · exact (hboxed.holder hmade).append_left
  · right
    refine ⟨hmade, ?_, fun heq => ?_⟩
    · rw [← hx.trace_failed hmade (hfailed hmade), htrace]
      exact ⟨after, by simp⟩
    · rcases hname with rfl | ⟨hholder, rfl⟩
      · exact absurd heq x.spec.name_ne_holderName
      · exact (hboxed.tried hholder).append_left

end Life

end Device

end SwitchLab

/-! ## A name that is taken

A container of someone else has the name of the one that would hold the namespace. It is removed all
the same, and so is whatever has the name of the switch. -/

namespace SwitchLab.NameTaken

open Device

def spec : DeviceSpec := LatePort.spec

/-- What comes before the first container is removed. -/
def refused : Trace Host :=
  [silently "mkdir" ["-p", "/m/dut"],
    Command.ran ⟨"docker", (holderSpec spec).createArgs⟩
      (.ok ⟨125, "", "Conflict. The container name is already in use"⟩),
    Command.ran ⟨"docker", ["logs", "dut"]⟩ (.ok ⟨1, "", "Error: No such container: dut"⟩),
    Command.ran ⟨"docker", ["rm", "-f", "dut"]⟩ (.ok ⟨1, "", "Error: No such container: dut"⟩)]

def making : Trace Host :=
  refused ++ [silently "docker" ["rm", "-f", "dut-ns"], silently "rm" ["-rf", "/m/dut"]]

def conflict : Fault :=
  .command (Command.render ⟨"docker", (holderSpec spec).createArgs⟩) 125
    "Conflict. The container name is already in use"

def gone : Device := { absent spec with state := .destroyed, holder := some "dut-ns" }

def life : Life where
  spec := spec
  making := making
  made := .error conflict
  first := gone
  events := []
  last := gone
  dropping := []

theorem lived : life.Lived where
  made := ⟨.empty, .empty, Dialogue.runs_of_replay (by decide +kernel)⟩
  used := .nil _
  failed _ := rfl
  dropped := ⟨.empty, .empty, Dialogue.runs_of_replay (by decide +kernel)⟩

theorem life_removesOwn : life.Lived ∧ life.spec.attach = false ∧ life.RemovesOwn :=
  ⟨lived, rfl, Life.lived_removesOwn lived rfl⟩

/-- The container that holds the namespace is removed, and it was not made here. -/
theorem holder_removed :
    life.Lived ∧ life.spec.attach = false ∧
    ∃ before e after, life.trace = before ++ e :: after ∧
      Command.Done (Container.removeCommand life.spec.holderName) e ∧
      ¬ Container.MadeIn life.spec.holderName before := by
  refine ⟨lived, rfl, refused, silently "docker" ["rm", "-f", "dut-ns"],
    [silently "rm" ["-rf", "/m/dut"]], rfl, ⟨.silent, rfl, rfl⟩, ?_⟩
  rintro ⟨e, he, made, -, output, rfl, hsuccess⟩
  simp only [refused, silently, List.mem_cons, List.not_mem_nil, or_false, Command.ran_inj,
    Command.mk.injEq] at he
  rcases he with ⟨⟨hprogram, -⟩, -⟩ | ⟨-, hreply⟩ | ⟨⟨-, hargs⟩, -⟩ | ⟨⟨-, hargs⟩, -⟩
  · simp at hprogram
  · cases hreply
    simp [Output.success] at hsuccess
  · simp [ContainerSpec.createArgs] at hargs
  · simp [ContainerSpec.createArgs] at hargs

end SwitchLab.NameTaken
