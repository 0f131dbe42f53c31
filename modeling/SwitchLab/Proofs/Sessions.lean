import SwitchLab.Fixture
import SwitchLab.Proofs.Keys
import SwitchLab.Proofs.Lives

/-! The switches of a test session. There is one at a time: the next is begun
when the life of the one before is over, and a module gets one that is ready. -/

namespace SwitchLab

variable {l l' : Ledger} {t u v : Trace Host} {env : KeyMap String}

namespace Device

variable {d d' : Device} {spec : DeviceSpec}

/-- A switch that is dropped is destroyed. -/
theorem destroyed_of_drop (hr : Lab.Runs d.drop l t () l') (hd : d.Alive ∨ d.state = .destroyed) :
    ∃ r d', On.Runs destroy d l t r d' l' ∧ d'.state = .destroyed := by
  rcases hd with hd | hd
  · rw [drop, if_pos ⟨hd.made, hd.held⟩] at hr
    obtain ⟨u, v, ⟨r, d'⟩, l₁, rfl, hdestroy, hr⟩ := Lab.runs_bind_iff.mp hr
    obtain ⟨rfl, -, rfl⟩ := Lab.runs_pure_iff.mp hr
    have hgone := (runs_destroy hdestroy).2.2
    rw [if_neg hd.held] at hgone
    exact ⟨r, d', by rwa [List.append_nil], hgone.state⟩
  · rw [drop, if_neg (by simp [hd])] at hr
    obtain ⟨rfl, -, rfl⟩ := Lab.runs_pure_iff.mp hr
    refine ⟨.ok (), d, On.runs_bind_get_iff.mpr ?_, hd⟩
    rw [if_pos hd]
    exact On.runs_pure_iff.mpr ⟨rfl, rfl, rfl, rfl⟩

theorem runs_drop_destroyed (hd : d.state = .destroyed) : Lab.Runs d.drop l [] () l := by
  rw [drop, if_neg (by simp [hd])]
  exact Lab.runs_pure_iff.mpr ⟨rfl, rfl, rfl⟩

/-! ## Lives that go on -/

namespace Life

variable {x y : Life}

/-- The switch at all times of its life. -/
def moments (x : Life) : List Device := x.first :: x.events.map (·.after)

/-- More is done with a switch, and then it is dropped with `w` or still held. -/
def goOn (x : Life) (more : List (Event Operation Device)) (d : Device) (w : Trace Host) : Life :=
  { x with events := x.events ++ more, last := d, dropping := w }

/-- What is known of the life of a switch that is held. -/
structure Held (x : Life) : Prop where
  ok : x.made = .ok ()
  made : ∃ l l', On.Runs setUp (absent x.spec) l x.making (.ok ()) x.first l'
  used : History Operation.act x.first x.events x.last
  undropped : x.dropping = []

/-- How a life is over. -/
structure Over (x : Life) : Prop where
  /-- The switch is destroyed, at the latest when it is dropped. -/
  destroyed : ∃ l r d l', On.Runs Device.destroy x.last l x.dropping r d l' ∧ d.state = .destroyed
  /-- It was torn down, or detached. -/
  ended : (∃ u v, x.trace = u ++ v ∧ RemovedOnce x.first.backSteps v) ∨ x.Detached

section Held

variable {more : List (Event Operation Device)} {w : Trace Host}

theorem Held.trace_goOn (hx : x.Held) :
    (x.goOn more d w).trace = x.trace ++ (more.flatMap (·.trace) ++ w) := by
  simp [Life.trace, goOn, hx.undropped]

theorem Held.last_mem_moments (hx : x.Held) : x.last ∈ x.moments := by
  have hlast : ∀ {d events d'}, History Operation.act d events d' →
      d' ∈ d :: events.map (·.after) := by
    intro d events d' h
    induction h with
    | nil d => exact List.mem_cons_self
    | cons _ _ ih => exact List.mem_cons_of_mem _ ih
  exact hlast hx.used

theorem moments_goOn : x.moments ⊆ (x.goOn more d w).moments := by
  simp [moments, goOn]

theorem Held.spec_eq (hx : x.Held) : x.last.spec = x.spec := by
  obtain ⟨l, l', hr⟩ := hx.made
  have hmade := (hx.used.keeps (I := fun d => d.made = x.first.made)
    (fun e he hd => (outcome_of_ran he).made.trans hd) rfl).2
  rcases runs_setUp_cases hr with ⟨-, hmaking⟩ | ⟨_, _, _, _, hfailed, -⟩
  · exact (congrArg Device.spec hmade).trans hmaking.forSpec
  · cases hfailed

theorem Held.goOn (hx : x.Held) (h : History Operation.act x.last more d) :
    (x.goOn more d []).Held :=
  ⟨hx.ok, hx.made, hx.used.append h, rfl⟩

/-- A switch that is held no more is dropped. -/
theorem Held.lived (hx : x.Held) (h : History Operation.act x.last more d)
    (hdrop : Lab.Runs d.drop l w () l') : (x.goOn more d w).Lived where
  made := by
    rw [Life.goOn, hx.ok]
    exact hx.made
  used := hx.used.append h
  failed hne := absurd hx.ok hne
  dropped := ⟨l, l', hdrop⟩

end Held

/-- Every life is over in the end. -/
theorem Lived.isOver (hx : x.Lived) : x.Over := by
  obtain ⟨d, u, v, h⟩ := hx.begun
  have hlast : x.last.Alive ∨ x.last.state = .destroyed := by
    rcases h.first with ⟨rfl, -⟩ | ⟨hgone, -⟩
    · exact (alive_or_over hx.used h.making.alive).imp And.left And.left
    · exact .inr (spares_afterwards hx.used hgone.state).1
  refine ⟨?_, ?_⟩
  · obtain ⟨l, l', hdrop⟩ := hx.dropped
    obtain ⟨r, d', hdestroy, hd⟩ := destroyed_of_drop hdrop hlast
    exact ⟨l, r, d', l', hdestroy, hd⟩
  · rcases hx.ends h with hremoved | ⟨hdetached, -⟩
    · refine .inl ⟨u, _, ?_, hremoved⟩
      rw [Life.trace, h.trace, List.append_assoc]
    · exact .inr hdetached

/-- The life of a switch that was just made, or could not be made. -/
def begin (spec : DeviceSpec) (made : Except Fault Unit) (t : Trace Host) (d : Device) : Life :=
  ⟨spec, t, made, d, [], d, []⟩

end Life

/-! ## What a session does with its switch -/

/-- Work that fails after the switch was dropped. -/
theorem runs_drop_throw {α : Type} {fault : Fault} {r : Except Fault α}
    (hr : Attempt.Runs (do d.drop; throw fault) l t r l') :
    r = .error fault ∧ Lab.Runs d.drop l t () l' := by
  rcases Attempt.runs_bind_iff.mp hr with ⟨u, v, ⟨⟩, l₁, rfl, hdrop, hr⟩ | ⟨e, -, hdrop⟩
  · obtain ⟨_, hx, hdrop⟩ := Attempt.runs_lift_iff.mp hdrop
    cases hx
    obtain ⟨rfl, rfl, rfl⟩ := Attempt.runs_throw_iff.mp hr
    exact ⟨rfl, by rwa [List.append_nil]⟩
  · obtain ⟨_, hx, -⟩ := Attempt.runs_lift_iff.mp hdrop
    cases hx

theorem ready_of_checkReady {a : Unit} (hr : On.Runs checkReady d l t (.ok a) d' l') :
    d'.state = .ready := by
  rcases runs_checkReady_cases hr with ⟨hd, -, -, rfl⟩ | ⟨-, -, hx, -⟩ |
    ⟨-, ⟨stores, -, -, rfl⟩ | ⟨_, _, _, _, hx, -⟩⟩
  · exact hd
  · cases hx
  · rfl
  · cases hx

/-- Saving the logs is one of the operations, whatever becomes of it. -/
theorem ran_saveLogs {dir : String} {r : Except Fault String}
    (hr : Attempt.Runs (d.saveLogs dir) l t r l') :
    Event.Ran Operation.act ⟨.saveLogs dir, d, t, r.map fun _ => (), d⟩ := by
  refine ⟨l, l', On.runs_bind_get_iff.mpr (On.runs_bind_lift_iff.mpr ?_)⟩
  cases r with
  | ok path =>
    exact .inl ⟨t, [], path, l', (List.append_nil t).symm, hr,
      On.runs_pure_iff.mpr ⟨rfl, rfl, rfl, rfl⟩⟩
  | error fault => exact .inr ⟨fault, rfl, rfl, hr⟩

/-- A switch that is started is ready, or its life is over. -/
theorem runs_start {r : Except Fault Device} (hr : Attempt.Runs (start spec) l t r l') :
    ∃ x : Life, x.spec = spec ∧ x.trace = t ∧ (∀ e ∈ x.events, e.operation ≠ .detach) ∧
      ((x.Held ∧ r = .ok x.last ∧ x.last.state = .ready) ∨
        (x.Lived ∧ ∃ fault, r = .error fault)) := by
  rcases Attempt.runs_bind_iff.mp hr with ⟨u, v, d, l₁, rfl, hcreate, hr⟩ | ⟨fault, rfl, hcreate⟩
  · obtain ⟨x, d, hsetUp, hx⟩ := runs_create hcreate
    cases x with
    | error fault => cases hx
    | ok a =>
      cases hx
      have held : (Life.begin spec (.ok ()) u d).Held := ⟨rfl, ⟨_, _, hsetUp⟩, .nil _, rfl⟩
      rcases Attempt.runs_bind_iff.mp hr with ⟨v, w, ⟨y, d'⟩, l₂, rfl, hcheck, hr⟩ | ⟨e, -, hcheck⟩
      case inr =>
        obtain ⟨_, hx, -⟩ := Attempt.runs_lift_iff.mp hcheck
        cases hx
      obtain ⟨_, hy, hcheck⟩ := Attempt.runs_lift_iff.mp hcheck
      cases hy
      have hran : Event.Ran Operation.act ⟨.checkReady, d, v, y, d'⟩ := ⟨_, _, hcheck⟩
      have history := History.single hran
      cases y with
      | ok a =>
        obtain ⟨rfl, rfl, -⟩ := Attempt.runs_pure_iff.mp hr
        refine ⟨(Life.begin spec (.ok ()) u d).goOn _ d' [], rfl, ?_, ?_,
          .inl ⟨held.goOn history, rfl, ready_of_checkReady hcheck⟩⟩
        · rw [held.trace_goOn]
          simp [Life.trace, Life.begin]
        · simp [Life.goOn, Life.begin]
      | error fault =>
        obtain ⟨rfl, hdrop⟩ := runs_drop_throw hr
        refine ⟨(Life.begin spec (.ok ()) u d).goOn _ d' w, rfl, ?_, ?_,
          .inr ⟨held.lived history hdrop, fault, rfl⟩⟩
        · rw [held.trace_goOn]
          simp [Life.trace, Life.begin]
        · simp [Life.goOn, Life.begin]
  · obtain ⟨x, d, hsetUp, hx⟩ := runs_create hcreate
    cases x with
    | ok a => cases hx
    | error fault' =>
      cases hx
      rcases runs_setUp_cases hsetUp with ⟨hok, -⟩ | ⟨_, _, _, d₁, -, -, hmaking, hend⟩
      · cases hok
      · have lived : (Life.begin spec (.error fault) t d).Lived :=
          ⟨⟨_, _, hsetUp⟩, .nil _, fun _ => rfl, .empty, .empty,
            runs_drop_destroyed (hend.ends hmaking.alive).1.state⟩
        exact ⟨_, rfl, by simp [Life.trace, Life.begin], by simp [Life.begin],
          .inr ⟨lived, fault, rfl⟩⟩

/-- A switch is started when it is made and becomes ready. -/
theorem runs_start_of {l₁ : Ledger} (hcreate : Attempt.Runs (create spec) l t (.ok d) l₁)
    (hready : On.Runs checkReady d l₁ u (.ok ()) d' l') :
    Attempt.Runs (start spec) l (t ++ u) (.ok d') l' := by
  refine Attempt.runs_bind_ok_iff.mpr ⟨t, u, d, l₁, rfl, hcreate, ?_⟩
  exact Attempt.runs_bind_ok_iff.mpr ⟨u, [], (.ok (), d'), l', (List.append_nil u).symm,
    Attempt.runs_lift_iff.mpr ⟨_, rfl, hready⟩, Attempt.runs_pure_iff.mpr ⟨rfl, rfl, rfl⟩⟩

end Device

namespace Fixture

theorem runs_holding_cases {α : Type} {d : Device} {work : On Device α}
    {r : Except Fault (α × Device)} (hr : Attempt.Runs (holding d work) l t r l') :
    (∃ a d', r = .ok (a, d') ∧ On.Runs work d l t (.ok a) d' l') ∨
    ∃ fault d' u v l₁, r = .error fault ∧ t = u ++ v ∧ On.Runs work d l u (.error fault) d' l₁ ∧
      Lab.Runs d'.drop l₁ v () l' := by
  rcases Attempt.runs_bind_iff.mp hr with ⟨u, v, ⟨x, d'⟩, l₁, rfl, hwork, hr⟩ | ⟨e, -, hwork⟩
  · obtain ⟨_, hx, hwork⟩ := Attempt.runs_lift_iff.mp hwork
    cases hx
    cases x with
    | ok a =>
      obtain ⟨rfl, rfl, rfl⟩ := Attempt.runs_pure_iff.mp hr
      exact .inl ⟨a, d', rfl, by rwa [List.append_nil]⟩
    | error fault =>
      obtain ⟨rfl, hdrop⟩ := Device.runs_drop_throw hr
      exact .inr ⟨fault, d', u, v, l₁, rfl, rfl, hwork, hdrop⟩
  · obtain ⟨_, hx, -⟩ := Attempt.runs_lift_iff.mp hwork
    cases hx

theorem runs_reuse_cases {d : Device} {r : Except Fault Device}
    (hr : Attempt.Runs (reuse d) l t r l') :
    ∃ more d' w, History Device.Operation.act d more d' ∧ (∀ e ∈ more, e.operation ≠ .detach) ∧
      t = more.flatMap (·.trace) ++ w ∧
      ((r = .ok d' ∧ w = [] ∧ d'.state = .ready) ∨
        ((∃ fault, r = .error fault) ∧ ∃ l l', Lab.Runs d'.drop l w () l')) := by
  have work {u : Trace Host} {x : Except Fault Unit} {d' : Device} {l₁ : Ledger}
      (h : On.Runs (do
        Device.checkReady
        let _ ← (← get).networkCleanup) d l u x d' l₁) :
      ∃ more, History Device.Operation.act d more d' ∧ (∀ e ∈ more, e.operation ≠ .detach) ∧
        u = more.flatMap (·.trace) ∧ (x = .ok () → d'.state = .ready) := by
    rcases On.runs_bind_iff.mp h with ⟨v, w, a, d₁, l₂, rfl, hcheck, hclean⟩ | ⟨fault, rfl, hcheck⟩
    · have first : Event.Ran Device.Operation.act ⟨.checkReady, d, v, .ok a, d₁⟩ := ⟨_, _, hcheck⟩
      have second : Event.Ran Device.Operation.act ⟨.networkCleanup, d₁, w, x, d'⟩ :=
        ⟨_, _, hclean⟩
      refine ⟨_, .cons first (.single second), by simp, by simp, fun _ => ?_⟩
      exact (Device.outcome_of_ran second).staysReady rfl (Device.ready_of_checkReady hcheck)
    · have first : Event.Ran Device.Operation.act ⟨.checkReady, d, u, .error fault, d'⟩ :=
        ⟨_, _, hcheck⟩
      exact ⟨_, .single first, by simp, by simp, nofun⟩
  rcases Attempt.runs_bind_iff.mp hr with ⟨u, v, x, l₁, rfl, hholding, hr⟩ | ⟨e, rfl, hholding⟩
  · obtain ⟨rfl, rfl, rfl⟩ := Attempt.runs_pure_iff.mp hr
    rcases runs_holding_cases hholding with ⟨a, d', hx, hwork⟩ | ⟨_, _, _, _, _, hx, -⟩
    · cases hx
      obtain ⟨more, hmore, hkept, rfl, hready⟩ := work hwork
      exact ⟨more, d', [], hmore, hkept, rfl, .inl ⟨rfl, rfl, hready rfl⟩⟩
    · cases hx
  · rcases runs_holding_cases hholding with ⟨_, _, hx, -⟩ | ⟨_, d', u, w, l₁, -, rfl, hwork, hdrop⟩
    · cases hx
    · obtain ⟨more, hmore, hkept, rfl, -⟩ := work hwork
      exact ⟨more, d', w, hmore, hkept, rfl, .inr ⟨⟨e, rfl⟩, l₁, l', hdrop⟩⟩

theorem runs_holding_destroy {d : Device} {r : Except Fault (Unit × Device)}
    (hr : Attempt.Runs (holding d Device.destroy) l t r l') :
    ∃ x d', Event.Ran Device.Operation.act ⟨.destroy, d, t, x, d'⟩ ∧ d'.state = .destroyed := by
  rcases runs_holding_cases hr with ⟨a, d', -, hwork⟩ | ⟨fault, d', u, v, l₁, -, rfl, hwork, hdrop⟩
  · have hran : Event.Ran Device.Operation.act ⟨.destroy, d, t, .ok a, d'⟩ := ⟨_, _, hwork⟩
    exact ⟨_, d', hran, (Device.tornDown_of_ran hran rfl).2⟩
  · have hran : Event.Ran Device.Operation.act ⟨.destroy, d, u, .error fault, d'⟩ := ⟨_, _, hwork⟩
    have hd := (Device.tornDown_of_ran hran rfl).2
    have hsilent := Device.runs_drop hdrop
    rw [if_pos (.inr hd)] at hsilent
    rw [hsilent, List.append_nil]
    exact ⟨_, d', hran, hd⟩

/-! ## All that may be done in a session -/

/-- What a session is asked for. Between the modules' beginnings and ends, its switch may be
used. -/
inductive Operation where
  | acquire (env : KeyMap String)
  | release (module : String)
  | use (op : Device.Operation)

def Operation.act : Operation → On Fixture Unit
  | acquire env => do let _ ← Fixture.acquire env
  | release module => Fixture.release module
  | use op => do
    if let some d := (← get).current then
      On.part (fun _ => d) (fun d f => { f with current := some d }) op.act

/-! ## One switch at a time -/

/-- The switches of a session up to now: the lives that are over, in their order, and the life of
the switch that is held now. -/
structure Tenancy (f₀ : Fixture) (detaches : Prop) (past : List Device.Life)
    (now : Option Device.Life) (f : Fixture) (t : Trace Host) : Prop where
  options : f.options = f₀.options
  adjust : f.adjust = f₀.adjust
  current : f.current = now.map (·.last)
  lived : ∀ x ∈ past, x.Lived
  held : ∀ x ∈ now, x.Held
  trace : t = (past ++ now.toList).flatMap (·.trace)
  /-- The switch was made for the environment that is noted. -/
  spec : ∀ x ∈ now, ∃ f₁ : Fixture, f₁.options = f₀.options ∧ f₁.adjust = f₀.adjust ∧
    x.spec = f₁.nextSpec f.currentEnv
  /-- A switch is detached only if its user wants it. -/
  detached : ∀ x ∈ past ++ now.toList, ∀ e ∈ x.events, e.operation = .detach → detaches

namespace Tenancy

variable {f₀ f f' : Fixture} {detaches detaches' : Prop} {past : List Device.Life}
  {now : Option Device.Life} {x : Device.Life} {d : Device} {w : Trace Host}
  {more : List (Event Device.Operation Device)}

theorem mono (h : Tenancy f₀ detaches past now f t) (hd : detaches → detaches') :
    Tenancy f₀ detaches' past now f t :=
  { h with detached := fun x hx e he hop => hd (h.detached x hx e he hop) }

theorem detached_past (h : Tenancy f₀ detaches past now f t) :
    ∀ x ∈ past, ∀ e ∈ x.events, e.operation = .detach → detaches :=
  fun x hx => h.detached x (List.mem_append_left _ hx)

theorem detached_goOn (h : Tenancy f₀ detaches past (some x) f t)
    (hop : ∀ e ∈ more, e.operation = .detach → detaches) :
    ∀ e ∈ (x.goOn more d w).events, e.operation = .detach → detaches :=
  List.forall_mem_append.mpr ⟨h.detached x (by simp), hop⟩

/-- The switch is used and still held. -/
theorem goOn (h : Tenancy f₀ detaches past (some x) f t)
    (hh : History Device.Operation.act x.last more d)
    (hop : ∀ e ∈ more, e.operation = .detach → detaches) :
    Tenancy f₀ detaches past (some (x.goOn more d [])) { f with current := some d }
      (t ++ more.flatMap (·.trace)) where
  options := h.options
  adjust := h.adjust
  current := rfl
  lived := h.lived
  held y hy := by
    cases hy
    exact (h.held x rfl).goOn hh
  trace := by
    rw [h.trace]
    simp [(h.held x rfl).trace_goOn]
  spec y hy := by
    cases hy
    exact h.spec x rfl
  detached := List.forall_mem_append.mpr
    ⟨h.detached_past, List.forall_mem_singleton.mpr (h.detached_goOn hop)⟩

/-- The switch is used for the last time, and dropped. -/
theorem letGo (h : Tenancy f₀ detaches past (some x) f t)
    (hh : History Device.Operation.act x.last more d)
    (hop : ∀ e ∈ more, e.operation = .detach → detaches) (hdrop : Lab.Runs d.drop l w () l') :
    Tenancy f₀ detaches (past ++ [x.goOn more d w]) none { f with current := none }
      (t ++ (more.flatMap (·.trace) ++ w)) where
  options := h.options
  adjust := h.adjust
  current := rfl
  lived := List.forall_mem_append.mpr
    ⟨h.lived, List.forall_mem_singleton.mpr ((h.held x rfl).lived hh hdrop)⟩
  held y hy := by cases hy
  trace := by
    rw [h.trace]
    simp [(h.held x rfl).trace_goOn]
  spec y hy := by cases hy
  detached := by
    rw [Option.toList_none, List.append_nil]
    exact List.forall_mem_append.mpr
      ⟨h.detached_past, List.forall_mem_singleton.mpr (h.detached_goOn hop)⟩

/-- A new switch. -/
theorem begun (h : Tenancy f₀ detaches past none f t) (hx : x.Held)
    (hspec : x.spec = f.nextSpec env) (hop : ∀ e ∈ x.events, e.operation = .detach → detaches)
    (hoptions : f'.options = f.options) (hadjust : f'.adjust = f.adjust)
    (hcurrent : f'.current = some x.last) (henv : f'.currentEnv = env) :
    Tenancy f₀ detaches past (some x) f' (t ++ x.trace) where
  options := hoptions.trans h.options
  adjust := hadjust.trans h.adjust
  current := hcurrent
  lived := h.lived
  held y hy := by
    cases hy
    exact hx
  trace := by
    rw [h.trace]
    simp
  spec y hy := by
    cases hy
    exact ⟨f, h.options, h.adjust, henv ▸ hspec⟩
  detached := List.forall_mem_append.mpr ⟨h.detached_past, List.forall_mem_singleton.mpr hop⟩

/-- A switch that could not be started. -/
theorem failed (h : Tenancy f₀ detaches past none f t) (hx : x.Lived)
    (hop : ∀ e ∈ x.events, e.operation = .detach → detaches)
    (hoptions : f'.options = f.options) (hadjust : f'.adjust = f.adjust)
    (hcurrent : f'.current = none) :
    Tenancy f₀ detaches (past ++ [x]) none f' (t ++ x.trace) where
  options := hoptions.trans h.options
  adjust := hadjust.trans h.adjust
  current := hcurrent
  lived := List.forall_mem_append.mpr ⟨h.lived, List.forall_mem_singleton.mpr hx⟩
  held y hy := by cases hy
  trace := by
    rw [h.trace]
    simp
  spec y hy := by cases hy
  detached := by
    rw [Option.toList_none, List.append_nil]
    exact List.forall_mem_append.mpr ⟨h.detached_past, List.forall_mem_singleton.mpr hop⟩

end Tenancy

/-! ## What the operations do -/

theorem runs_bind_take_iff {α : Type} {g : Option Device → On Fixture α} {f f' : Fixture}
    {r : Except Fault α} : On.Runs (take >>= g) f l t r f' l' ↔
      On.Runs (g f.current) { f with current := none } l t r f' l' := Iff.rfl

theorem runs_startNew_cases {f f' : Fixture} {r : Except Fault Device}
    (hr : On.Runs (startNew env) f l t r f' l') :
    Attempt.Runs (Device.start (f.nextSpec env)) l t r l' ∧ f'.options = f.options ∧
      f'.adjust = f.adjust ∧ f'.current = f.current ∧ ((∃ d, r = .ok d) → f'.currentEnv = env) := by
  have hr := On.runs_bind_get_iff.mp hr
  have started {f₁ : Fixture} (h : On.Runs (do
      let d ← Device.start (f.nextSpec env)
      modify fun f => { f with currentEnv := env }
      return d : On Fixture Device) f₁ l t r f' l') :
      Attempt.Runs (Device.start (f.nextSpec env)) l t r l' ∧ f'.options = f₁.options ∧
        f'.adjust = f₁.adjust ∧ f'.current = f₁.current ∧
        ((∃ d, r = .ok d) → f'.currentEnv = env) := by
    rcases On.runs_bind_lift_iff.mp h with ⟨u, v, d, l₁, rfl, hstart, h⟩ | ⟨e, rfl, rfl, hstart⟩
    · have h := On.runs_bind_modify_iff.mp h
      obtain ⟨rfl, rfl, rfl, rfl⟩ := On.runs_pure_iff.mp h
      rw [List.append_nil]
      exact ⟨hstart, rfl, rfl, rfl, fun _ => rfl⟩
    · exact ⟨hstart, rfl, rfl, rfl, fun h => by cases h; contradiction⟩
  dsimp only at hr
  split at hr
  · have h := started (On.runs_bind_modify_iff.mp hr)
    exact h
  · exact started hr

/-- A session without a switch has one for the module when that is started. -/
theorem ran_acquire_of_start {f : Fixture} {d : Device} (hf : f.current = none)
    (hstart : Attempt.Runs (Device.start (f.nextSpec env)) l t (.ok d) l') :
    Event.Ran Operation.act ⟨.acquire env, f, t, .ok (), { f with
      current := some d
      currentEnv := env
      made := if f.options.attachName.isNone then f.made + 1 else f.made }⟩ := by
  have started {f₁ : Fixture} : On.Runs (do
      let d ← Device.start (f.nextSpec env)
      modify fun f => { f with currentEnv := env }
      return d : On Fixture Device) f₁ l t (.ok d) { f₁ with currentEnv := env } l' :=
    On.runs_bind_lift_iff.mpr (.inl ⟨t, [], d, l', (List.append_nil t).symm, hstart,
      On.runs_pure_iff.mpr ⟨rfl, rfl, rfl, rfl⟩⟩)
  have new : On.Runs (startNew env) { f with current := none } l t (.ok d)
      { f with
        current := none
        currentEnv := env
        made := if f.options.attachName.isNone then f.made + 1 else f.made } l' := by
    refine On.runs_bind_get_iff.mpr ?_
    dsimp only
    split
    · exact On.runs_bind_modify_iff.mpr started
    · exact started
  refine ⟨l, l', On.runs_bind_iff.mpr (.inl ⟨t, [], d, _, l', (List.append_nil t).symm, ?_,
    On.runs_pure_iff.mpr ⟨rfl, rfl, rfl, rfl⟩⟩)⟩
  refine On.runs_bind_get_iff.mpr ?_
  rw [if_neg (by simp [mustRecreate, hf])]
  refine runs_bind_take_iff.mpr ?_
  rw [hf]
  exact On.runs_bind_iff.mpr (.inl ⟨t, [], d, _, l', (List.append_nil t).symm, new,
    On.runs_pure_iff.mpr ⟨rfl, rfl, rfl, rfl⟩⟩)

namespace Tenancy

variable {f₀ f f' : Fixture} {detaches : Prop} {past : List Device.Life}
  {now : Option Device.Life}

/-- What a session has after a module asked for a switch: one that is ready, made for the
environment that was asked for unless it was attached to, or none. -/
def Served {α : Type} (env : KeyMap String) (now : Option Device.Life) (f : Fixture)
    (r : Except Fault α) : Prop :=
  (∃ x, now = some x ∧ (∃ a, r = .ok a) ∧ x.last.state = .ready ∧
    (x.spec.attach = false → f.currentEnv = env)) ∨ (now = none ∧ ∃ fault, r = .error fault)

theorem startNew {r : Except Fault Device} (h : Tenancy f₀ detaches past none f t)
    (hr : On.Runs (do put (← Fixture.startNew env)) f l u r f' l') :
    ∃ more now', Tenancy f₀ detaches (past ++ more) now' f' (t ++ u) ∧ Served env now' f' r := by
  have kept {x : Device.Life} (hx : ∀ e ∈ x.events, e.operation ≠ .detach) :
      ∀ e ∈ x.events, e.operation = .detach → detaches := fun e he hop => absurd hop (hx e he)
  rcases On.runs_bind_iff.mp hr with ⟨v, w, d, f₁, l₁, rfl, hstart, hr⟩ | ⟨fault, rfl, hstart⟩
  · have hr := On.runs_bind_modify_iff.mp hr
    obtain ⟨rfl, rfl, rfl, rfl⟩ := On.runs_pure_iff.mp hr
    obtain ⟨hstart, hoptions, hadjust, -, henv⟩ := runs_startNew_cases hstart
    obtain ⟨x, hspec, rfl, hop, ⟨hx, hd, hready⟩ | ⟨-, _, hx⟩⟩ := Device.runs_start hstart
    · cases hd
      rw [List.append_nil]
      refine ⟨[], some x, ?_, .inl ⟨x, rfl, ⟨_, rfl⟩, hready, fun _ => henv ⟨_, rfl⟩⟩⟩
      rw [List.append_nil]
      exact h.begun hx hspec (kept hop) hoptions hadjust rfl (henv ⟨_, rfl⟩)
    · cases hx
  · obtain ⟨hstart, hoptions, hadjust, hcurrent, -⟩ := runs_startNew_cases hstart
    obtain ⟨x, -, rfl, hop, ⟨-, hx, -⟩ | ⟨hx, -⟩⟩ := Device.runs_start hstart
    · cases hx
    · exact ⟨[x], none, h.failed hx (kept hop) hoptions hadjust (hcurrent.trans h.current),
        .inr ⟨rfl, fault, rfl⟩⟩

/-- The switch is destroyed, and so is not held any more. -/
theorem destroyed {x : Device.Life} {r : Except Fault (Unit × Device)}
    (h : Tenancy f₀ detaches past (some x) f t)
    (hr : Attempt.Runs (holding x.last Device.destroy) l u r l') :
    ∃ y, x.moments ⊆ y.moments ∧
      Tenancy f₀ detaches (past ++ [y]) none { f with current := none } (t ++ u) := by
  obtain ⟨z, d, hran, hd⟩ := runs_holding_destroy hr
  have hgone := h.letGo (History.single hran) (by simp)
    (Device.runs_drop_destroyed (l := .empty) hd)
  exact ⟨_, Device.Life.moments_goOn, by simpa using hgone⟩

/-- The switch is made ready for the next module, or its life is over. -/
theorem reused {x : Device.Life} {r : Except Fault Device}
    (h : Tenancy f₀ detaches past (some x) f t) (hmust : ¬ f.mustRecreate env = true)
    (hr : On.Runs (do put (← reuse x.last)) { f with current := none } l u r f' l') :
    ∃ more now', Tenancy f₀ detaches (past ++ more) now' f' (t ++ u) ∧ Served env now' f' r ∧
      ∀ y ∈ some x, ∃ z ∈ more ++ now'.toList, y.moments ⊆ z.moments := by
  rcases On.runs_bind_lift_iff.mp hr with
    ⟨v, w, d, l₁, rfl, hreuse, hr⟩ | ⟨fault, rfl, rfl, hreuse⟩
  · have hr := On.runs_bind_modify_iff.mp hr
    obtain ⟨rfl, rfl, rfl, rfl⟩ := On.runs_pure_iff.mp hr
    obtain ⟨more, d', w, hmore, hop, rfl, ⟨hd, rfl, hready⟩ | ⟨⟨_, hx⟩, -⟩⟩ :=
      runs_reuse_cases hreuse
    case inr => cases hx
    cases hd
    refine ⟨[], some (x.goOn more d []), ?_, .inl ⟨_, rfl, ⟨_, rfl⟩, hready, fun hown => ?_⟩,
      fun y hy => ?_⟩
    · have hnext := h.goOn hmore fun e he hd => absurd hd (hop e he)
      simpa using hnext
    · have hown' : x.last.isPersistent = false := by
        rw [Device.isPersistent, (h.held x rfl).spec_eq]
        exact hown
      have hsame : ¬ (f.options.forceRecreate = true ∨ env ≠ f.currentEnv) := by
        simpa [mustRecreate, h.current, hown'] using hmust
      exact (of_not_not (not_or.mp hsame).2).symm
    · cases hy
      exact ⟨x.goOn more d [], by simp, Device.Life.moments_goOn⟩
  · obtain ⟨more, d', w, hmore, hop, rfl, ⟨hx, -, -⟩ | ⟨-, _, _, hdrop⟩⟩ :=
      runs_reuse_cases hreuse
    · cases hx
    · refine ⟨_, none, h.letGo hmore (fun e he hd => absurd hd (hop e he)) hdrop,
        .inr ⟨rfl, fault, rfl⟩, fun y hy => ?_⟩
      cases hy
      exact ⟨_, List.mem_cons_self, Device.Life.moments_goOn⟩

/-- A module asks for a switch. -/
theorem acquire {r : Except Fault Device} (h : Tenancy f₀ detaches past now f t)
    (hr : On.Runs (Fixture.acquire env) f l u r f' l') :
    ∃ more now', Tenancy f₀ detaches (past ++ more) now' f' (t ++ u) ∧ Served env now' f' r ∧
      ∀ x ∈ now, ∃ y ∈ more ++ now'.toList, x.moments ⊆ y.moments := by
  have hcurrent := h.current
  have hr := On.runs_bind_get_iff.mp hr
  split at hr
  case isTrue hmust =>
    have hr := runs_bind_take_iff.mp hr
    cases now with
    | none => simp [mustRecreate, hcurrent] at hmust
    | some x =>
      rw [hcurrent] at hr
      -- the old switch is destroyed first
      rcases On.runs_bind_lift_iff.mp hr with ⟨v, w, y, l₁, rfl, hold, hr⟩ | ⟨fault, rfl, rfl, hold⟩
      · obtain ⟨y, hmoments, hgone⟩ := h.destroyed hold
        obtain ⟨more, now', hmore, hserved⟩ := hgone.startNew (runs_bind_take_iff.mp hr)
        refine ⟨y :: more, now', by simpa using hmore, hserved, fun x hx => ?_⟩
        cases hx
        exact ⟨y, List.mem_cons_self, hmoments⟩
      · obtain ⟨y, hmoments, hgone⟩ := h.destroyed hold
        refine ⟨[y], none, hgone, .inr ⟨rfl, fault, rfl⟩, fun x hx => ?_⟩
        cases hx
        exact ⟨y, List.mem_cons_self, hmoments⟩
  case isFalse hmust =>
    have hr := runs_bind_take_iff.mp hr
    rw [hcurrent] at hr
    cases now with
    | none =>
      have h : Tenancy f₀ detaches past none { f with current := none } t :=
        { h with current := rfl }
      obtain ⟨more, now', hmore, hserved⟩ := h.startNew hr
      exact ⟨more, now', hmore, hserved, fun y hy => by cases hy⟩
    | some x =>
      exact h.reused hmust hr

/-- The switch is used. -/
theorem used {op : Device.Operation} {r : Except Fault Unit}
    (h : Tenancy f₀ detaches past now f t) (hr : On.Runs (Operation.use op).act f l u r f' l') :
    ∃ now', Tenancy f₀ (detaches ∨ op = .detach) past now' f' (t ++ u) := by
  have hcurrent := h.current
  have hr := On.runs_bind_get_iff.mp hr
  cases now with
  | none =>
    rw [hcurrent] at hr
    obtain ⟨rfl, -, rfl, -⟩ := On.runs_pure_iff.mp hr
    rw [List.append_nil]
    exact ⟨none, h.mono .inl⟩
  | some x =>
    rw [hcurrent] at hr
    obtain ⟨d, hwork, rfl⟩ := On.runs_part_iff.mp hr
    have hran : Event.Ran Device.Operation.act ⟨op, x.last, u, r, d⟩ := ⟨_, _, hwork⟩
    have hwider : Tenancy f₀ (detaches ∨ op = .detach) past (some x) f t := h.mono .inl
    have hnext := hwider.goOn (History.single hran) (by simpa using fun hop => .inr hop)
    exact ⟨_, by simpa using hnext⟩

/-- A module ends. -/
theorem release {module : String} {r : Except Fault Unit}
    (h : Tenancy f₀ detaches past now f t)
    (hr : On.Runs (Fixture.release module) f l u r f' l') :
    ∃ more now', Tenancy f₀ detaches (past ++ more) now' f' (t ++ u) := by
  have hcurrent := h.current
  have hr := On.runs_bind_get_iff.mp hr
  cases now with
  | none =>
    rw [hcurrent] at hr
    obtain ⟨rfl, -, rfl, -⟩ := On.runs_pure_iff.mp hr
    exact ⟨[], none, by simpa using h⟩
  | some x =>
    have last {y : Device.Life} {w v : Trace Host} {l₁ : Ledger}
        (h : Tenancy f₀ detaches past (some y) f w) (hy : y.last = x.last)
        (hr : On.Runs (do
          if f.options.forceRecreate ∧ !x.last.isPersistent then
            let _ ← take
            let _ ← holding x.last Device.destroy : On Fixture Unit) f l₁ v r f' l') :
        ∃ more now', Tenancy f₀ detaches (past ++ more) now' f' (w ++ v) := by
      split at hr
      case isTrue =>
        rw [← hy] at hr
        rcases On.runs_bind_lift_iff.mp (runs_bind_take_iff.mp hr) with
          ⟨a, b, z, l₂, rfl, hdestroy, hr⟩ | ⟨fault, rfl, rfl, hdestroy⟩
        · obtain ⟨rfl, -, rfl, -⟩ := On.runs_pure_iff.mp hr
          obtain ⟨z, -, hgone⟩ := h.destroyed hdestroy
          exact ⟨[z], none, by simpa using hgone⟩
        · obtain ⟨z, -, hgone⟩ := h.destroyed hdestroy
          exact ⟨[z], none, hgone⟩
      case isFalse =>
        obtain ⟨rfl, -, rfl, -⟩ := On.runs_pure_iff.mp hr
        exact ⟨[], some y, by simpa using h⟩
    rw [hcurrent] at hr
    dsimp only [Option.map_some] at hr
    split at hr
    case h_1 dir _ =>
      rcases On.runs_bind_lift_iff.mp hr with ⟨a, b, z, l₁, rfl, hlogs, hr⟩ | ⟨_, _, -, hlogs⟩
      · obtain ⟨_, -, hlogs⟩ := Attempt.runs_result_iff.mp hlogs
        have hnext := h.goOn (History.single (Device.ran_saveLogs hlogs)) (by simp)
        have hsame : ({ f with current := some x.last } : Fixture) = f := by
          rw [show some x.last = f.current from hcurrent.symm]
        rw [hsame, List.flatMap_singleton] at hnext
        rw [← List.append_assoc]
        exact last hnext rfl hr
      · obtain ⟨_, hx, -⟩ := Attempt.runs_result_iff.mp hlogs
        cases hx
    case h_2 => exact last h rfl hr

variable {e : Event Operation Fixture}

theorem acquired (h : Tenancy f₀ detaches past now e.before t) (he : e.Ran Operation.act)
    (hop : e.operation = .acquire env) :
    ∃ more now', Tenancy f₀ detaches (past ++ more) now' e.after (t ++ e.trace) ∧
      Served env now' e.after e.result ∧
      ∀ x ∈ now, ∃ y ∈ more ++ now'.toList, x.moments ⊆ y.moments := by
  obtain ⟨l, l', hr⟩ := he
  rw [hop] at hr
  rcases On.runs_bind_iff.mp hr with
    ⟨u, v, d, f, l₁, htrace, hacquire, hr⟩ | ⟨fault, hfault, hacquire⟩
  · obtain ⟨rfl, hok, rfl, -⟩ := On.runs_pure_iff.mp hr
    rw [List.append_nil] at htrace
    rw [htrace, hok]
    obtain ⟨more, now', hnext, ⟨x, hnow, -, hready⟩ | ⟨-, _, hx⟩, hmoments⟩ := h.acquire hacquire
    · exact ⟨more, now', hnext, .inl ⟨x, hnow, ⟨(), rfl⟩, hready⟩, hmoments⟩
    · cases hx
  · rw [hfault]
    obtain ⟨more, now', hnext, ⟨_, -, ⟨_, hx⟩, -⟩ | ⟨hnow, -⟩, hmoments⟩ := h.acquire hacquire
    · cases hx
    · exact ⟨more, now', hnext, .inr ⟨hnow, fault, rfl⟩, hmoments⟩

/-- What each operation of a session does to its switches. -/
theorem act (h : Tenancy f₀ detaches past now e.before t) (he : e.Ran Operation.act) :
    ∃ more now', Tenancy f₀ (detaches ∨ e.operation = .use .detach) (past ++ more) now' e.after
      (t ++ e.trace) := by
  cases hop : e.operation with
  | acquire env =>
    obtain ⟨more, now', hnext, -, -⟩ := h.acquired he hop
    exact ⟨more, now', hnext.mono .inl⟩
  | release module =>
    obtain ⟨l, l', hr⟩ := he
    rw [hop] at hr
    obtain ⟨more, now', hnext⟩ := h.release hr
    exact ⟨more, now', hnext.mono .inl⟩
  | use op =>
    obtain ⟨l, l', hr⟩ := he
    rw [hop] at hr
    obtain ⟨now', hnext⟩ := h.used hr
    refine ⟨[], now', ?_⟩
    rw [List.append_nil]
    exact hnext.mono (Or.imp_right fun h => by rw [h])

end Tenancy

/-! ## Whole sessions -/

variable {f₀ f f' : Fixture} {events : List (Event Operation Fixture)}

/-- The user of a session wants its switch detached. -/
def Detaches (events : List (Event Operation Fixture)) : Prop :=
  ∃ e ∈ events, e.operation = .use .detach

theorem tenancy (h : History Operation.act f events f') {detaches : Prop}
    {past : List Device.Life} {now : Option Device.Life} (hf : Tenancy f₀ detaches past now f t) :
    ∃ more now', Tenancy f₀ (detaches ∨ Detaches events) (past ++ more) now' f'
      (t ++ events.flatMap (·.trace)) := by
  induction h generalizing detaches past now t with
  | nil f => exact ⟨[], now, by simpa using hf.mono .inl⟩
  | @cons e events f' he _ ih =>
    obtain ⟨more, now₁, hnext⟩ := hf.act he
    obtain ⟨rest, now', hlast⟩ := ih hnext
    refine ⟨more ++ rest, now', ?_⟩
    rw [List.flatMap_cons, ← List.append_assoc, ← List.append_assoc]
    refine hlast.mono ?_
    rintro ((hd | hop) | ⟨m, hm, hop⟩)
    · exact .inl hd
    · exact .inr ⟨e, List.mem_cons_self, hop⟩
    · exact .inr ⟨m, List.mem_cons_of_mem _ hm, hop⟩

/-- A session without a switch. -/
theorem Tenancy.start (hf : f.current = none) : Tenancy f False [] none f [] :=
  ⟨rfl, rfl, hf, by simp, by simp, rfl, by simp, by simp⟩

/-- What holds of a session whose fixture is `f` after `events`. -/
structure WellServed (options : Options) (events : List (Event Operation Fixture)) (f : Fixture) :
    Prop where
  /-- A module that gets a switch gets one that is ready. Unless it was attached to, it was made
  with the variables that the module asked for, and besides these with those of the options. Maps
  that are built by insertion ascend, and so have no key twice. -/
  ready : ∀ e ∈ events, ∀ env, e.operation = .acquire env → e.result = .ok () →
    ∃ d, e.after.current = some d ∧ d.state = .ready ∧
      (d.isPersistent = false →
        (options.environment.Ascending → d.spec.environment.Ascending) ∧
        (env.keys.Nodup → ∀ key,
          d.spec.environment.get? key = (env.get? key).or (options.environment.get? key)))
  /-- If it gets none, then no switch is held, and all switches up to then are destroyed, also the
  one that was held before. -/
  refused : ∀ earlier e later env fault, events = earlier ++ e :: later →
    e.operation = .acquire env → e.result = .error fault →
    e.after.current = none ∧ ∃ past : List Device.Life, (∀ x ∈ past, x.Lived ∧ x.Over) ∧
      (earlier ++ [e]).flatMap (·.trace) = past.flatMap (·.trace) ∧
      ∀ d, e.before.current = some d → ∃ x ∈ past, d ∈ x.moments
  /-- All that was asked is the lives of the switches, one after the other. All but the one that is
  held are over. -/
  oneByOne : ∃ (past : List Device.Life) (now : Option Device.Life),
    (∀ x ∈ past, x.Lived ∧ x.Over) ∧ (∀ x ∈ now, x.Held) ∧ f.current = now.map (·.last) ∧
      events.flatMap (·.trace) = (past ++ now.toList).flatMap (·.trace)

theorem get?_overlay {base extra : KeyMap String} {key : String} (h : extra.keys.Nodup) :
    (overlay base extra).get? key = (extra.get? key).or (base.get? key) := by
  cases hget : extra.get? key with
  | none =>
    have hk : key ∉ extra.keys := fun hk => by
      obtain ⟨_, hsome⟩ := KeyMap.mem_keys_iff.mp hk
      cases hget.symm.trans hsome
    rw [Option.none_or]
    exact KeyMap.get?_foldl_of_notMem hk
  | some value =>
    have hentry : (key, value) ∈ extra.entries := (KeyMap.lookup_eq_some_iff h).mp hget
    rw [Option.some_or]
    exact KeyMap.get?_foldl_insert h hentry

theorem ascending_overlay {base extra : KeyMap String} (h : base.Ascending) :
    (overlay base extra).Ascending :=
  h.foldl_insert

theorem environment_nextSpec (hadjust : f.adjust = id) :
    (f.nextSpec env).environment = overlay f.options.environment env := by
  rw [nextSpec, hadjust, DeviceSpec.ofOptions]
  split <;> rfl

/-- The switches of a session just before one of its operations. -/
theorem tenancy_before {earlier later : List (Event Operation Fixture)}
    {e : Event Operation Fixture} (hf : f.current = none)
    (h : History Operation.act f (earlier ++ e :: later) f') :
    ∃ past now, Tenancy f (Detaches earlier) past now e.before (earlier.flatMap (·.trace)) ∧
      e.Ran Operation.act := by
  obtain ⟨f₁, hearlier, hlater⟩ := h.of_append
  cases hlater with
  | cons he _ =>
    obtain ⟨past, now, hbefore⟩ := tenancy hearlier (.start hf)
    exact ⟨past, now, hbefore.mono (by simp), he⟩

/-- Whatever modules a session serves and whatever is done with its switches, and whatever the host
and the databases answer, it is well served. -/
theorem history_wellServed {options : Options} {process : Nat}
    (h : History Operation.act (new options process) events f) : WellServed options events f where
  ready e he env hop hok := by
    obtain ⟨earlier, later, rfl⟩ := List.append_of_mem he
    obtain ⟨past, now, hbefore, hran⟩ := tenancy_before rfl h
    obtain ⟨more, now', hafter, ⟨x, rfl, -, hready, henv⟩ | ⟨-, _, hx⟩, -⟩ :=
      hbefore.acquired hran hop
    · refine ⟨x.last, hafter.current, hready, fun hown => ?_⟩
      have hspec := (hafter.held x rfl).spec_eq
      rw [Device.isPersistent, hspec] at hown
      obtain ⟨f₁, hoptions, hadjust, hnext⟩ := hafter.spec x rfl
      have henvironment : x.last.spec.environment = overlay options.environment env := by
        rw [hspec, hnext, environment_nextSpec hadjust, hoptions, henv hown]
        rfl
      rw [henvironment]
      exact ⟨ascending_overlay, fun hkeys _ => get?_overlay hkeys⟩
    · cases hok.symm.trans hx
  refused earlier e later env fault hsplit hop hfault := by
    subst hsplit
    obtain ⟨past, now, hbefore, hran⟩ := tenancy_before rfl h
    obtain ⟨more, now', hafter, ⟨_, -, ⟨_, hx⟩, -⟩ | ⟨rfl, -⟩, hmoments⟩ :=
      hbefore.acquired hran hop
    · cases hfault.symm.trans hx
    · refine ⟨hafter.current, past ++ more, fun x hx => ?_, ?_, fun d hd => ?_⟩
      · exact ⟨hafter.lived x hx, (hafter.lived x hx).isOver⟩
      · simpa using hafter.trace
      · rw [hbefore.current] at hd
        obtain ⟨x, rfl, rfl⟩ := Option.map_eq_some_iff.mp hd
        obtain ⟨y, hy, hsub⟩ := hmoments x rfl
        exact ⟨y, by simpa using Or.inr hy, hsub (hbefore.held x rfl).last_mem_moments⟩
  oneByOne := by
    obtain ⟨past, now, hend⟩ := tenancy h (.start rfl)
    refine ⟨past, now, fun x hx => ?_, hend.held, hend.current, hend.trace⟩
    exact ⟨hend.lived x hx, (hend.lived x hx).isOver⟩

end Fixture

end SwitchLab

/-! ## A session with a switch of its own

The module wants another value for one of the variables that the options have, and sets one more.
The next module wants the same and gets the same switch. -/

namespace SwitchLab.OwnSwitch

open Device

def options : Options :=
  { Options.default with
    numPorts := 1
    mountRoot := "/m"
    environment := .ofPairs [("HWSKU", "Force10-S6000"), ("PLATFORM", "vs")] }

def env : KeyMap String := .ofPairs [("DEBUG", "1"), ("PLATFORM", "mellanox")]

def fixture : Fixture := .new options 0

def spec : DeviceSpec :=
  { DeviceSpec.named "dvs00" options with
    environment := .ofPairs [("DEBUG", "1"), ("HWSKU", "Force10-S6000"), ("PLATFORM", "mellanox")] }

theorem nextSpec_eq : fixture.nextSpec env = spec := by decide +kernel

def inServer (args : List String) : Exchange Host :=
  silently "ip" (["netns", "exec", "dvs00-srv0"] ++ args)

def inSwitch (args : List String) : Exchange Host := silently "nsenter" (["-t", "7", "-n"] ++ args)

def making : Trace Host :=
  [silently "mkdir" ["-p", "/m/dvs00"],
    silently "docker"
      ["create", "--name", "dvs00-ns", "--privileged", "-i", "debian:bookworm", "bash"],
    silently "docker" ["start", "dvs00-ns"],
    Command.ran ⟨"docker", ["inspect", "--format", "\x7b\x7b.State.Pid\x7d\x7d", "dvs00-ns"]⟩
      (.ok ⟨0, "7\n", ""⟩),
    ⟨.pathExists "/var/run/netns/dvs00-srv0", false⟩,
    silently "ip" ["netns", "del", "dvs00-srv0"],
    silently "ip" ["netns", "add", "dvs00-srv0"],
    inServer ["ip", "link", "set", "lo", "up"],
    silently "ip" ["link", "del", "dv7s0a"],
    inSwitch ["ip", "link", "del", "eth1"],
    silently "ip" ["link", "add", "dv7s0a", "type", "veth", "peer", "name", "dv7s0b"],
    silently "ip" ["link", "set", "dv7s0a", "netns", "dvs00-srv0"],
    silently "ip" ["link", "set", "dv7s0b", "netns", "7"],
    inServer ["ip", "link", "set", "dev", "dv7s0a", "name", "eth0"],
    inServer ["ip", "link", "set", "dev", "eth0", "up"],
    inServer ["sysctl", "-w", "net.ipv6.conf.eth0.disable_ipv6=1"],
    inSwitch ["ip", "link", "set", "dev", "dv7s0b", "name", "eth1"],
    inSwitch ["ip", "link", "set", "dev", "eth1", "up"],
    inServer ["ethtool", "-K", "eth0", "tx", "off"],
    inSwitch ["ethtool", "-K", "eth1", "tx", "off"],
    silently "docker"
      ["create", "--name", "dvs00", "--privileged", "--network", "container:dvs00-ns", "--cpus",
        "2", "-v", "/m/dvs00:/var/run/redis", "-e", "DEBUG=1", "-e", "HWSKU=Force10-S6000", "-e",
        "PLATFORM=mellanox", "docker-sonic-vs:latest"],
    silently "docker" ["start", "dvs00"]]

def server : VirtualServer := .new "dvs00" 0 .created

def madeDevice : Device :=
  { absent spec with
    state := .creating, pid := some 7, holder := some "dvs00-ns", servers := [server] }

theorem runs_create : Attempt.Runs (create spec) .empty making (.ok madeDevice) .empty :=
  Dialogue.runs_of_replay (by decide +kernel)

def supervisor : Trace Host :=
  [⟨.now, .zero⟩, ⟨.run ⟨"docker", ["exec", "dvs00", "bash", "-c", "supervisorctl status"]⟩,
    (.ok LatePort.listing : Except Fault Output)⟩]

def listed (store : StoreName) (table : String) (keys : List String) : Exchange Host :=
  (spec.database store).listed table (.ok (keys.map (store.tableKey table)))

/-- The hardware has its front-panel port from the beginning. -/
def asic : Trace Host :=
  [⟨.now, .zero⟩, listed .asic Asic.switchTable ["oid:0x21"],
    listed .asic Asic.virtualRouterTable ["oid:0x3"],
    listed .asic Asic.switchTable ["oid:0x21"],
    (spec.database .asic).fetched Asic.switchTable "oid:0x21"
      (.ok (.ofPairs [(Asic.defaultRouterField, "oid:0x3")])),
    listed .asic Asic.hostIfTable ["oid:0xd"],
    (spec.database .asic).fetched Asic.hostIfTable "oid:0xd"
      (.ok (.ofPairs [("SAI_HOSTIF_ATTR_NAME", "Ethernet0"),
        ("SAI_HOSTIF_ATTR_OBJ_ID", "oid:0x1")])),
    listed .asic Asic.virtualRouterTable ["oid:0x3"],
    listed .asic Asic.portTable ["oid:0x1", "oid:0x9"], listed .asic Asic.hostIfTable ["oid:0xd"],
    listed .asic Asic.aclTableTable [], listed .asic Asic.aclEntryTable [],
    listed .asic Asic.trapGroupTable []]

def ports : Trace Host :=
  [⟨.now, .zero⟩, listed .asic Asic.portTable ["oid:0x1", "oid:0x9"],
    listed .appl "PORT_TABLE" ["Ethernet0", "PortConfigDone", "PortInitDone"]]

def readying : Trace Host :=
  supervisor ++ (⟨.connect (spec.database .asic), (.ok () : Except Fault Unit)⟩ ::
    (asic ++ laterConnections spec) ++ ports)

def handle (store : StoreName) (family : Nat) : Handle := ⟨spec.database store, family⟩

def stores : Stores :=
  ⟨handle .appl 1, ⟨handle .asic 0, LatePort.names⟩, handle .counters 2, handle .config 3,
    handle .flex 4, handle .state 5⟩

def ledger : Ledger :=
  ⟨6, [(0, .ofPairs [(Asic.virtualRouterTable, ["oid:0x3"]),
    (Asic.portTable, ["oid:0x1", "oid:0x9"]), (Asic.hostIfTable, ["oid:0xd"]),
    (Asic.aclTableTable, []), (Asic.aclEntryTable, []), (Asic.trapGroupTable, [])])]⟩

set_option maxRecDepth 4000 in
theorem runs_stores : Attempt.Runs (connectStores spec) .empty
    (⟨.connect (spec.database .asic), (.ok () : Except Fault Unit)⟩ ::
      (asic ++ laterConnections spec)) (.ok stores) ledger :=
  Dialogue.runs_of_replay (by decide +kernel)

theorem runs_ports : Attempt.Runs (awaitPorts spec stores) ledger ports (.ok ()) ledger :=
  Dialogue.runs_of_replay (by decide +kernel)

theorem runs_reachReady : Attempt.Runs (reachReady spec) .empty readying (.ok stores) ledger := by
  have buffers : Attempt.Runs (applyBufferModel spec stores) ledger [] (.ok ()) ledger :=
    Dialogue.runs_of_replay (by decide +kernel)
  refine Attempt.runs_bind_ok_iff.mpr
    ⟨_, _, (), _, rfl, runs_awaitSupervisor_of LatePort.pending_listing, ?_⟩
  refine Attempt.runs_bind_ok_iff.mpr ⟨_, _, stores, _, rfl, runs_stores, ?_⟩
  refine Attempt.runs_bind_ok_iff.mpr ⟨_, [], (), _, (List.append_nil _).symm, runs_ports, ?_⟩
  refine Attempt.runs_bind_ok_iff.mpr ⟨_, [], (), _, (List.append_nil _).symm, buffers, ?_⟩
  exact Attempt.runs_pure_iff.mpr ⟨rfl, rfl, rfl⟩

def usedDevice : Device := { madeDevice with stores := some stores, state := .ready }

def serving : Fixture :=
  { fixture with current := some usedDevice, currentEnv := env, made := 1 }

def acquiring : Event Fixture.Operation Fixture :=
  ⟨.acquire env, fixture, making ++ readying, .ok (), serving⟩

/-- No link is left from the module before. -/
def cleaning : Trace Host :=
  [Command.ran ⟨"nsenter", ["-t", "7", "-n", "ip", "-o", "link", "show"]⟩ (.ok .silent)]

def events : List (Event Fixture.Operation Fixture) :=
  [acquiring, ⟨.release "test_port", serving, [], .ok (), serving⟩,
    ⟨.acquire env, serving, cleaning, .ok (), serving⟩]

theorem ran_acquiring : acquiring.Ran Fixture.Operation.act := by
  have ready : On.Runs checkReady madeDevice .empty readying (.ok ()) usedDevice ledger :=
    runs_checkReady_of (.inl rfl) runs_reachReady
  exact Fixture.ran_acquire_of_start rfl (nextSpec_eq ▸ runs_start_of runs_create ready)

theorem ran_release : Event.Ran Fixture.Operation.act
    ⟨.release "test_port", serving, [], .ok (), serving⟩ :=
  ⟨ledger, ledger, On.runs_bind_get_iff.mpr (On.runs_pure_iff.mpr ⟨rfl, rfl, rfl, rfl⟩)⟩

theorem history : History Fixture.Operation.act fixture events serving := by
  have reused : Attempt.Runs (Fixture.reuse usedDevice) ledger cleaning (.ok usedDevice) ledger :=
    Dialogue.runs_of_replay (by decide +kernel)
  have again : Event.Ran Fixture.Operation.act
      ⟨.acquire env, serving, cleaning, .ok (), serving⟩ := by
    refine ⟨ledger, ledger, On.runs_bind_iff.mpr (.inl ⟨cleaning, [], usedDevice, serving, ledger,
      (List.append_nil _).symm, ?_, On.runs_pure_iff.mpr ⟨rfl, rfl, rfl, rfl⟩⟩)⟩
    refine On.runs_bind_get_iff.mpr ?_
    rw [if_neg (by decide +kernel)]
    refine Fixture.runs_bind_take_iff.mpr (On.runs_bind_lift_iff.mpr
      (.inl ⟨cleaning, [], usedDevice, ledger, (List.append_nil _).symm, reused, ?_⟩))
    exact On.runs_pure_iff.mpr ⟨rfl, rfl, rfl, rfl⟩
  exact .cons ran_acquiring (.cons ran_release (.cons again (.nil _)))

end SwitchLab.OwnSwitch

/-! ## A session on a switch that runs already

The session attaches to the switch with the late port and makes a server for it. Then its user
destroys the switch, so there is none for the next module. -/

namespace SwitchLab.Attached

open Device

def options : Options :=
  { Options.default with
    numPorts := 1
    mountRoot := "/m"
    bufferModel := .dynamic
    attachName := some "dut" }

def fixture : Fixture := .new options 0

def spec : DeviceSpec := { LatePort.spec with attach := true }

def making : Trace Host :=
  [Command.ran ⟨"docker", ["inspect", "--format", "\x7b\x7b.State.Running\x7d\x7d", "dut"]⟩
      (.ok ⟨0, "true\n", ""⟩),
    Command.ran ⟨"docker", ["inspect", "--format", "\x7b\x7b.State.Pid\x7d\x7d", "dut"]⟩
      (.ok ⟨0, "7\n", ""⟩),
    Command.ran ⟨"nsenter", ["-t", "7", "-n", "ip", "-o", "link", "show"]⟩
      (.ok ⟨0, "2: eth1@if3: <UP>\n", ""⟩),
    ⟨.pathExists "/var/run/netns/dut-srv0", false⟩,
    silently "ip" ["netns", "del", "dut-srv0"],
    silently "ip" ["netns", "add", "dut-srv0"],
    silently "ip" ["netns", "exec", "dut-srv0", "ip", "link", "set", "lo", "up"]] ++
  LatePort.wiring

def madeDevice : Device :=
  { absent spec with state := .creating, pid := some 7, servers := [LatePort.server] }

theorem runs_create : Attempt.Runs (create spec) .empty making (.ok madeDevice) .empty :=
  Dialogue.runs_of_replay (by decide +kernel)

def usedDevice : Device := { madeDevice with stores := some LatePort.stores, state := .ready }

theorem runs_becomeReady :
    On.Runs checkReady madeDevice .empty LatePort.trace (.ok ()) usedDevice LatePort.ledger :=
  runs_checkReady_of (.inl rfl) LatePort.runs_reachReady

theorem runs_start : Attempt.Runs (start spec) .empty (making ++ LatePort.trace) (.ok usedDevice)
    LatePort.ledger :=
  runs_start_of runs_create runs_becomeReady

def serving : Fixture := { fixture with current := some usedDevice }

/-- The container stays, the server goes. -/
def teardown : Trace Host :=
  [Command.ran ⟨"ip", ["netns", "pids", "dut-srv0"]⟩ (.ok .silent),
    silently "ip" ["netns", "del", "dut-srv0"]]

def goneDevice : Device :=
  { madeDevice with
    state := .destroyed
    servers := [{ LatePort.server with destroyed := true }] }

def refusal : Fault := .invalidState "destroyed" "check_ready"

def acquiring : Event Fixture.Operation Fixture :=
  ⟨.acquire .empty, fixture, making ++ LatePort.trace, .ok (), serving⟩

/-- The switch is attached to, destroyed, and then it is not ready for the next module. -/
def events : List (Event Fixture.Operation Fixture) :=
  [acquiring,
    ⟨.use .destroy, serving, teardown, .ok (), { fixture with current := some goneDevice }⟩,
    ⟨.acquire .empty, { fixture with current := some goneDevice }, [], .error refusal, fixture⟩]

theorem ran_acquire : acquiring.Ran Fixture.Operation.act :=
  Fixture.ran_acquire_of_start rfl runs_start

theorem history : History Fixture.Operation.act fixture events fixture := by
  have second : Event.Ran Fixture.Operation.act
      ⟨.use .destroy, serving, teardown, .ok (), { fixture with current := some goneDevice }⟩ :=
    ⟨.empty, .empty, On.runs_bind_get_iff.mpr (On.runs_part_iff.mpr
      ⟨goneDevice, Dialogue.runs_of_replay (by decide +kernel), rfl⟩)⟩
  have refused : Attempt.Runs (Fixture.reuse goneDevice) .empty [] (.error refusal) .empty :=
    Dialogue.runs_of_replay (by decide +kernel)
  have acquired : On.Runs (liftM (Fixture.reuse goneDevice) >>= Fixture.put) fixture .empty []
      (.error refusal) fixture .empty :=
    On.runs_bind_lift_iff.mpr (.inr ⟨refusal, rfl, rfl, refused⟩)
  have third : Event.Ran Fixture.Operation.act
      ⟨.acquire .empty, { fixture with current := some goneDevice }, [], .error refusal, fixture⟩ :=
    ⟨.empty, .empty, On.runs_bind_iff.mpr (.inr ⟨refusal, rfl, acquired⟩)⟩
  exact .cons ran_acquire (.cons second (.cons third (.nil _)))

end SwitchLab.Attached

namespace SwitchLab.Fixture

/-- Both sessions are well served. In the one with its own switch, this has the variables of the
module and of the options; of the one that both set it has the value of the module. -/
theorem sessions_wellServed :
    History Operation.act (new Attached.options 0) Attached.events Attached.fixture ∧
    WellServed Attached.options Attached.events Attached.fixture ∧
    History Operation.act (new OwnSwitch.options 0) OwnSwitch.events OwnSwitch.serving ∧
    WellServed OwnSwitch.options OwnSwitch.events OwnSwitch.serving ∧
    ∀ e ∈ OwnSwitch.events, e.operation = .acquire OwnSwitch.env →
      ∃ d, e.after.current = some d ∧ d.state = .ready ∧ d.isPersistent = false ∧
        d.spec.environment.Ascending ∧
        d.spec.environment.get? "DEBUG" = some "1" ∧
        d.spec.environment.get? "HWSKU" = some "Force10-S6000" ∧
        d.spec.environment.get? "PLATFORM" = some "mellanox" ∧
        d.spec.environment.get? "HOME" = none := by
  have served := history_wellServed OwnSwitch.history
  refine ⟨Attached.history, history_wellServed Attached.history, OwnSwitch.history, served, ?_⟩
  intro e he hop
  have hgot : e.result = .ok () ∧ e.after.current = some OwnSwitch.usedDevice := by
    simp only [OwnSwitch.events, List.mem_cons, List.not_mem_nil, or_false] at he
    rcases he with rfl | rfl | rfl <;> exact ⟨rfl, rfl⟩
  obtain ⟨d, hd, hready, henvironment⟩ := served.ready e he OwnSwitch.env hop hgot.1
  obtain rfl : OwnSwitch.usedDevice = d := Option.some.inj (hgot.2.symm.trans hd)
  obtain ⟨hascending, hlook⟩ := henvironment rfl
  have look := hlook KeyMap.ascending_ofPairs.nodup_keys
  refine ⟨_, hd, hready, rfl, hascending KeyMap.ascending_ofPairs, ?_, ?_, ?_, ?_⟩ <;>
    exact (look _).trans (by decide +kernel)

end SwitchLab.Fixture
