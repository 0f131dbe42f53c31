import SwitchLab.Lab

/-! Runs of programs taken apart: a run of two steps is a run of the first and
then one of the second. The same law is stated for each kind of work at the
bench, with what that kind passes on: the ledger, a failure, an object. -/

namespace SwitchLab

/-! ## Dialogues -/

namespace Dialogue

variable {I : Interface} {α β : Type}

theorem runs_done_iff {a b : α} {t : Trace I} :
    Runs (.done a) t b ↔ t = [] ∧ b = a := by
  constructor
  · intro h
    cases h
    exact ⟨rfl, rfl⟩
  · rintro ⟨rfl, rfl⟩
    exact .done b

theorem runs_ask_iff {q : I.Request} {next : I.Reply q → Dialogue I α} {t : Trace I} {b : α} :
    Runs (.ask q next) t b ↔ ∃ r u, t = ⟨q, r⟩ :: u ∧ Runs (next r) u b := by
  constructor
  · intro h
    cases h with
    | ask h => exact ⟨_, _, rfl, h⟩
  · rintro ⟨r, u, rfl, h⟩
    exact .ask h

theorem runs_bind_iff {p : Dialogue I α} {f : α → Dialogue I β} {t : Trace I} {b : β} :
    Runs (p.bind f) t b ↔ ∃ u v a, t = u ++ v ∧ Runs p u a ∧ Runs (f a) v b := by
  induction p generalizing t with
  | done a =>
    simp only [bind, runs_done_iff]
    constructor
    · intro h
      exact ⟨[], t, a, rfl, ⟨rfl, rfl⟩, h⟩
    · rintro ⟨_, v, _, rfl, ⟨rfl, rfl⟩, h⟩
      exact h
  | ask q next ih =>
    simp only [bind, runs_ask_iff, ih]
    constructor
    · rintro ⟨r, _, rfl, u, v, a, rfl, hu, hv⟩
      exact ⟨⟨q, r⟩ :: u, v, a, rfl, ⟨r, u, rfl, hu⟩, hv⟩
    · rintro ⟨_, v, a, rfl, ⟨r, u, rfl, hu⟩, hv⟩
      exact ⟨r, u ++ v, rfl, u, v, a, rfl, hu, hv⟩

/-- Surroundings that have an answer to everything let every program end. -/
theorem exists_runs (hI : ∀ q, Nonempty (I.Reply q)) (p : Dialogue I α) : ∃ t a, Runs p t a := by
  induction p with
  | done a => exact ⟨[], a, .done a⟩
  | ask q next ih =>
    obtain ⟨r⟩ := hI q
    obtain ⟨t, a, h⟩ := ih r
    exact ⟨⟨q, r⟩ :: t, a, .ask h⟩

end Dialogue

/-! ## Given runs -/

deriving instance DecidableEq for Query

deriving instance DecidableEq for Ledger

instance decidableEqExcept {ε α : Type} [DecidableEq ε] [DecidableEq α] :
    DecidableEq (Except ε α)
  | .ok a, .ok b => decidable_of_iff (a = b) (by simp)
  | .error d, .error e => decidable_of_iff (d = e) (by simp)
  | .ok _, .error _ | .error _, .ok _ => isFalse (by simp)

namespace Dialogue

variable {α : Type}

/-- The result of a program with the answers in `t`, if it asks just the requests of `t`. -/
def replay : Dialogue Host α → Trace Host → Option α
  | done a, [] => some a
  | ask q next, x :: t => if h : x.request = q then (next (h ▸ x.reply)).replay t else none
  | _, _ => none

theorem runs_of_replay {p : Dialogue Host α} {t : Trace Host} {a : α}
    (h : p.replay t = some a) : Runs p t a := by
  induction p generalizing t with
  | done b =>
    cases t with
    | nil =>
      cases h
      exact .done _
    | cons x t => cases h
  | ask q next ih =>
    cases t with
    | nil => cases h
    | cons x t =>
      obtain ⟨q', r⟩ := x
      rw [replay] at h
      split at h
      · rename_i hq
        cases hq
        exact .ask (ih _ h)
      · cases h

/-- What can be seen of the result may be enough to know it. -/
theorem exists_runs_of_replay {β : Type} {p : Dialogue Host α} {t : Trace Host} {f : α → β} {b : β}
    (h : (p.replay t).map f = some b) : ∃ a, Runs p t a ∧ f a = b := by
  obtain ⟨a, ha, rfl⟩ := Option.map_eq_some_iff.mp h
  exact ⟨a, runs_of_replay ha, rfl⟩

end Dialogue

/-! ## Work that keeps the ledger -/

namespace Lab

variable {α β : Type} {l l' : Ledger} {t : Trace Host}

/-- From the ledger `l`, with the answers in `t`, the work ends with `a` and the ledger `l'`. -/
def Runs (work : Lab α) (l : Ledger) (t : Trace Host) (a : α) (l' : Ledger) : Prop :=
  Dialogue.Runs (work l) t (a, l')

theorem runs_pure_iff {a b : α} : Runs (pure a) l t b l' ↔ t = [] ∧ b = a ∧ l' = l := by
  show Dialogue.Runs (.done (a, l)) t (b, l') ↔ _
  rw [Dialogue.runs_done_iff, Prod.mk.injEq]

theorem runs_bind_iff {work : Lab α} {f : α → Lab β} {b : β} :
    Runs (work >>= f) l t b l' ↔
      ∃ u v a l₁, t = u ++ v ∧ Runs work l u a l₁ ∧ Runs (f a) l₁ v b l' := by
  show Dialogue.Runs ((work l).bind fun x => f x.1 x.2) t (b, l') ↔ _
  rw [Dialogue.runs_bind_iff]
  constructor
  · rintro ⟨u, v, ⟨a, l₁⟩, ht, hu, hv⟩
    exact ⟨u, v, a, l₁, ht, hu, hv⟩
  · rintro ⟨u, v, a, l₁, ht, hu, hv⟩
    exact ⟨u, v, (a, l₁), ht, hu, hv⟩

theorem runs_map_iff {work : Lab α} {f : α → β} {b : β} :
    Runs (f <$> work) l t b l' ↔ ∃ a, b = f a ∧ Runs work l t a l' := by
  rw [← bind_pure_comp, runs_bind_iff]
  constructor
  · rintro ⟨u, v, a, l₁, rfl, hu, hv⟩
    obtain ⟨rfl, rfl, rfl⟩ := runs_pure_iff.mp hv
    exact ⟨a, rfl, by rwa [List.append_nil]⟩
  · rintro ⟨a, rfl, h⟩
    exact ⟨t, [], a, l', by simp, h, runs_pure_iff.mpr ⟨rfl, rfl, rfl⟩⟩

/-- Two steps that work on an object and cannot fail. -/
theorem runs_stateBind_iff {σ : Type} {work : StateT σ Lab α} {f : α → StateT σ Lab β} {s : σ}
    {x : β × σ} : Runs ((work >>= f).run s) l t x l' ↔
      ∃ u v a s₁ l₁, t = u ++ v ∧ Runs (work.run s) l u (a, s₁) l₁ ∧
        Runs ((f a).run s₁) l₁ v x l' := by
  rw [StateT.run_bind, runs_bind_iff]
  constructor
  · rintro ⟨u, v, ⟨a, s₁⟩, l₁, ht, hu, hv⟩
    exact ⟨u, v, a, s₁, l₁, ht, hu, hv⟩
  · rintro ⟨u, v, a, s₁, l₁, ht, hu, hv⟩
    exact ⟨u, v, (a, s₁), l₁, ht, hu, hv⟩

theorem runs_stateLift_iff {σ : Type} {work : Lab α} {s : σ} {x : α × σ} :
    Runs ((liftM work : StateT σ Lab α).run s) l t x l' ↔
      ∃ a, x = (a, s) ∧ Runs work l t a l' := by
  show Runs (work >>= fun a => pure (a, s)) l t x l' ↔ _
  rw [bind_pure_comp, runs_map_iff]

theorem runs_get_iff {a : Ledger} :
    Runs (get : Lab Ledger) l t a l' ↔ t = [] ∧ a = l ∧ l' = l := runs_pure_iff

theorem runs_ask_iff {q : Query} {r : q.Reply} :
    Runs (Host.ask q) l t r l' ↔ t = [⟨q, r⟩] ∧ l' = l := by
  show Dialogue.Runs (I := Host) (.ask q fun r => .done (r, l)) t (r, l') ↔ _
  rw [Dialogue.runs_ask_iff]
  constructor
  · rintro ⟨r', u, rfl, h⟩
    cases h
    exact ⟨rfl, rfl⟩
  · rintro ⟨rfl, rfl⟩
    exact ⟨r, [], rfl, .done _⟩

/-- Somewhere in the trace the work runs, and ends with `a`. -/
def RunsIn (work : Lab α) (t : Trace Host) (a : α) : Prop :=
  ∃ u l l', u <:+: t ∧ Runs work l u a l'

namespace RunsIn

variable {work : Lab α} {a b : α}

theorem of_pure (h : RunsIn (pure a : Lab α) t b) : b = a := by
  obtain ⟨u, l, l', -, hr⟩ := h
  exact (runs_pure_iff.mp hr).2.1

theorem of_bind {f : α → Lab β} {b : β} (h : RunsIn (work >>= f) t b) :
    ∃ a, RunsIn work t a ∧ RunsIn (f a) t b := by
  obtain ⟨u, l, l', hu, hr⟩ := h
  obtain ⟨v, w, a, l₁, rfl, hv, hw⟩ := runs_bind_iff.mp hr
  exact ⟨a, ⟨v, l, l₁, (List.infix_append' [] v w).trans hu, hv⟩,
    ⟨w, l₁, l', (List.suffix_append v w).isInfix.trans hu, hw⟩⟩

/-- Each item of a list that is gone through has its own part. -/
theorem of_mapM {f : α → Lab β} {items : List α} {results : List β}
    (h : RunsIn (items.mapM f) t results) : ∀ a ∈ items, ∃ b ∈ results, RunsIn (f a) t b := by
  induction items generalizing results with
  | nil => simp
  | cons a items ih =>
    rw [List.mapM_cons] at h
    obtain ⟨b, hb, h⟩ := h.of_bind
    obtain ⟨rest, hrest, h⟩ := h.of_bind
    obtain rfl := h.of_pure
    intro a' ha'
    rcases List.mem_cons.mp ha' with rfl | ha'
    · exact ⟨b, by simp, hb⟩
    · obtain ⟨b', hb', hr⟩ := ih hrest a' ha'
      exact ⟨b', by simp [hb'], hr⟩

end RunsIn

theorem exists_runs (work : Lab α) (l : Ledger) : ∃ t a l', Runs work l t a l' := by
  have hI : ∀ q : Host.Request, Nonempty (Host.Reply q) := by
    intro q
    cases q <;> first | exact ⟨.error (.io "")⟩ | exact ⟨Duration.zero⟩ | exact ⟨()⟩ | exact ⟨false⟩
  obtain ⟨t, ⟨a, l'⟩, h⟩ := Dialogue.exists_runs hI (work l)
  exact ⟨t, a, l', h⟩

end Lab

/-! ## Work that may fail -/

namespace Attempt

variable {α β : Type} {l l' : Ledger} {t : Trace Host}

/-- As `Lab.Runs`; the result may be a fault. -/
def Runs (work : Attempt α) (l : Ledger) (t : Trace Host) (r : Except Fault α) (l' : Ledger) :
    Prop :=
  Lab.Runs work.run l t r l'

theorem runs_mk_iff {work : Lab (Except Fault α)} {r : Except Fault α} :
    Runs (ExceptT.mk work) l t r l' ↔ Lab.Runs work l t r l' := Iff.rfl

theorem runs_outcome_iff {work : Attempt α} {r : Except Fault α} :
    Lab.Runs work.outcome l t r l' ↔ Runs work l t r l' := Iff.rfl

theorem runs_pure_iff {a : α} {r : Except Fault α} :
    Runs (pure a) l t r l' ↔ t = [] ∧ r = .ok a ∧ l' = l :=
  Lab.runs_pure_iff (a := Except.ok a)

theorem runs_throw_iff {e : Fault} {r : Except Fault α} :
    Runs (throw e) l t r l' ↔ t = [] ∧ r = .error e ∧ l' = l :=
  Lab.runs_pure_iff (a := Except.error e)

/-- Either both steps run, or the first fails and the second is left out. -/
theorem runs_bind_iff {work : Attempt α} {f : α → Attempt β} {r : Except Fault β} :
    Runs (work >>= f) l t r l' ↔
      (∃ u v a l₁, t = u ++ v ∧ Runs work l u (.ok a) l₁ ∧ Runs (f a) l₁ v r l') ∨
      (∃ e, r = .error e ∧ Runs work l t (.error e) l') := by
  show Lab.Runs (work.run >>= ExceptT.bindCont f) l t r l' ↔ _
  rw [Lab.runs_bind_iff]
  constructor
  · rintro ⟨u, v, x, l₁, rfl, hu, hv⟩
    cases x with
    | ok a => exact .inl ⟨u, v, a, l₁, rfl, hu, hv⟩
    | error e =>
      obtain ⟨rfl, rfl, rfl⟩ := Lab.runs_pure_iff.mp hv
      exact .inr ⟨e, rfl, by rwa [List.append_nil]⟩
  · rintro (⟨u, v, a, l₁, rfl, hu, hv⟩ | ⟨e, rfl, h⟩)
    · exact ⟨u, v, .ok a, l₁, rfl, hu, hv⟩
    · exact ⟨t, [], .error e, l', by simp, h, Lab.runs_pure_iff.mpr ⟨rfl, rfl, rfl⟩⟩

theorem runs_bind_ok_iff {work : Attempt α} {f : α → Attempt β} {b : β} :
    Runs (work >>= f) l t (.ok b) l' ↔
      ∃ u v a l₁, t = u ++ v ∧ Runs work l u (.ok a) l₁ ∧ Runs (f a) l₁ v (.ok b) l' := by
  rw [runs_bind_iff]
  constructor
  · rintro (h | ⟨e, he, -⟩)
    · exact h
    · cases he
  · exact .inl

theorem runs_lift_iff {work : Lab α} {r : Except Fault α} :
    Runs (liftM work) l t r l' ↔ ∃ a, r = .ok a ∧ Lab.Runs work l t a l' :=
  Lab.runs_map_iff

theorem runs_bind_lift_iff {work : Lab α} {f : α → Attempt β} {r : Except Fault β} :
    Runs (liftM work >>= f) l t r l' ↔
      ∃ u v a l₁, t = u ++ v ∧ Lab.Runs work l u a l₁ ∧ Runs (f a) l₁ v r l' := by
  rw [runs_bind_iff]
  simp only [runs_lift_iff]
  constructor
  · rintro (⟨u, v, _, l₁, rfl, ⟨a, hx, hu⟩, hv⟩ | ⟨_, _, _, hx, _⟩)
    · cases hx
      exact ⟨u, v, _, l₁, rfl, hu, hv⟩
    · cases hx
  · rintro ⟨u, v, a, l₁, rfl, hu, hv⟩
    exact .inl ⟨u, v, a, l₁, rfl, ⟨a, rfl, hu⟩, hv⟩

theorem lift_bind {work : Lab α} {f : α → Lab β} :
    (liftM (work >>= f) : Attempt β) = liftM work >>= fun a => liftM (f a) := by
  apply ExceptT.ext
  show (Except.ok <$> (work >>= f) : Lab _) =
    (Except.ok <$> work : Lab _) >>= ExceptT.bindCont fun a => liftM (f a)
  rw [map_bind, bind_map_left]
  rfl

theorem runs_modify_iff {f : Ledger → Ledger} {r : Except Fault PUnit} :
    Runs (modify f) l t r l' ↔ t = [] ∧ r = .ok ⟨⟩ ∧ l' = f l := by
  show Dialogue.Runs (.done (Except.ok PUnit.unit, f l)) t (r, l') ↔ _
  rw [Dialogue.runs_done_iff, Prod.mk.injEq]

/-- The result of a step is handed on, be it a failure. -/
theorem runs_result_iff {work : Attempt α} {r : Except Fault (Except Fault α)} :
    Runs work.result l t r l' ↔ ∃ x, r = .ok x ∧ Runs work l t x l' :=
  Lab.runs_map_iff

theorem runs_bind_result_iff {work : Attempt α} {f : Except Fault α → Attempt β}
    {r : Except Fault β} : Runs (work.result >>= f) l t r l' ↔
      ∃ u v x l₁, t = u ++ v ∧ Runs work l u x l₁ ∧ Runs (f x) l₁ v r l' := by
  rw [runs_bind_iff]
  simp only [runs_result_iff]
  constructor
  · rintro (⟨u, v, _, l₁, rfl, ⟨x, hx, hu⟩, hv⟩ | ⟨_, _, _, hx, _⟩)
    · cases hx
      exact ⟨u, v, _, l₁, rfl, hu, hv⟩
    · cases hx
  · rintro ⟨u, v, x, l₁, rfl, hu, hv⟩
    exact .inl ⟨u, v, x, l₁, rfl, ⟨x, rfl, hu⟩, hv⟩

end Attempt

/-! ## Work on an object -/

namespace On

variable {σ α β : Type} {s s' : σ} {l l' : Ledger} {t : Trace Host}

/-- As `Attempt.Runs`; the object `s` becomes `s'`, also when the work fails. -/
def Runs (work : On σ α) (s : σ) (l : Ledger) (t : Trace Host) (r : Except Fault α) (s' : σ)
    (l' : Ledger) : Prop :=
  Lab.Runs (work.perform s) l t (r, s') l'

theorem runs_pure_iff {a : α} {r : Except Fault α} :
    Runs (pure a : On σ α) s l t r s' l' ↔ t = [] ∧ r = .ok a ∧ s' = s ∧ l' = l := by
  show Lab.Runs (pure (.ok a, s)) l t (r, s') l' ↔ _
  rw [Lab.runs_pure_iff, Prod.mk.injEq, and_assoc]

theorem runs_throw_iff {e : Fault} {r : Except Fault α} :
    Runs (throw e : On σ α) s l t r s' l' ↔ t = [] ∧ r = .error e ∧ s' = s ∧ l' = l := by
  show Lab.Runs (pure (.error e, s)) l t (r, s') l' ↔ _
  rw [Lab.runs_pure_iff, Prod.mk.injEq, and_assoc]

theorem runs_bind_iff {work : On σ α} {f : α → On σ β} {r : Except Fault β} :
    Runs (work >>= f) s l t r s' l' ↔
      (∃ u v a s₁ l₁, t = u ++ v ∧ Runs work s l u (.ok a) s₁ l₁ ∧
        Runs (f a) s₁ l₁ v r s' l') ∨
      (∃ e, r = .error e ∧ Runs work s l t (.error e) s' l') := by
  show Lab.Runs (work.perform s >>= fun x => ExceptT.bindCont f x.1 x.2) l t (r, s') l' ↔ _
  rw [Lab.runs_bind_iff]
  constructor
  · rintro ⟨u, v, ⟨x, s₁⟩, l₁, rfl, hu, hv⟩
    cases x with
    | ok a => exact .inl ⟨u, v, a, s₁, l₁, rfl, hu, hv⟩
    | error e =>
      obtain ⟨rfl, hr, rfl⟩ := Lab.runs_pure_iff.mp hv
      cases hr
      exact .inr ⟨e, rfl, by rwa [List.append_nil]⟩
  · rintro (⟨u, v, a, s₁, l₁, rfl, hu, hv⟩ | ⟨e, rfl, h⟩)
    · exact ⟨u, v, (.ok a, s₁), l₁, rfl, hu, hv⟩
    · exact ⟨t, [], (.error e, s'), l', by simp, h, Lab.runs_pure_iff.mpr ⟨rfl, rfl, rfl⟩⟩

theorem runs_map_iff {work : On σ α} {f : α → β} {r : Except Fault β} :
    Runs (f <$> work) s l t r s' l' ↔ ∃ x, r = x.map f ∧ Runs work s l t x s' l' := by
  rw [← bind_pure_comp, runs_bind_iff]
  simp only [runs_pure_iff]
  constructor
  · rintro (⟨u, v, a, s₁, l₁, rfl, hu, rfl, rfl, rfl, rfl⟩ | ⟨e, rfl, h⟩)
    · exact ⟨.ok a, rfl, by rwa [List.append_nil]⟩
    · exact ⟨.error e, rfl, h⟩
  · rintro ⟨x, rfl, h⟩
    cases x with
    | ok a => exact .inl ⟨t, [], a, s', l', by simp, h, rfl, rfl, rfl, rfl⟩
    | error e => exact .inr ⟨e, rfl, h⟩

/-- What follows a failure is left out. -/
theorem runs_throw_bind_iff {e : Fault} {f : α → On σ β} {r : Except Fault β} :
    Runs ((throw e : On σ α) >>= f) s l t r s' l' ↔ t = [] ∧ r = .error e ∧ s' = s ∧ l' = l :=
  runs_throw_iff (α := β)

theorem runs_bind_get_iff {f : σ → On σ β} {r : Except Fault β} :
    Runs (get >>= f) s l t r s' l' ↔ Runs (f s) s l t r s' l' := Iff.rfl

theorem runs_modify_iff {f : σ → σ} {r : Except Fault PUnit} :
    Runs (modify f) s l t r s' l' ↔ t = [] ∧ r = .ok ⟨⟩ ∧ s' = f s ∧ l' = l :=
  runs_pure_iff (s := f s)

theorem runs_bind_modify_iff {f : σ → σ} {g : PUnit → On σ β} {r : Except Fault β} :
    Runs (modify f >>= g) s l t r s' l' ↔ Runs (g ⟨⟩) (f s) l t r s' l' := Iff.rfl

theorem runs_bind_set_iff {x : σ} {f : PUnit → On σ β} {r : Except Fault β} :
    Runs (set x >>= f) s l t r s' l' ↔ Runs (f ⟨⟩) x l t r s' l' := Iff.rfl

/-- Work that does not touch the object. -/
theorem runs_lift_iff {work : Attempt α} {r : Except Fault α} :
    Runs (liftM work : On σ α) s l t r s' l' ↔ s' = s ∧ Attempt.Runs work l t r l' := by
  show Lab.Runs (work.run >>= fun x => pure (x, s)) l t (r, s') l' ↔ _
  rw [bind_pure_comp, Lab.runs_map_iff]
  constructor
  · rintro ⟨x, hx, hw⟩
    cases hx
    exact ⟨rfl, hw⟩
  · rintro ⟨rfl, hw⟩
    exact ⟨r, rfl, hw⟩

/-- A step that does not touch the object is followed by the next, or fails. -/
theorem runs_bind_lift_iff {work : Attempt α} {f : α → On σ β} {r : Except Fault β} :
    Runs ((liftM work : On σ α) >>= f) s l t r s' l' ↔
      (∃ u v a l₁, t = u ++ v ∧ Attempt.Runs work l u (.ok a) l₁ ∧ Runs (f a) s l₁ v r s' l') ∨
      (∃ e, r = .error e ∧ s' = s ∧ Attempt.Runs work l t (.error e) l') := by
  rw [runs_bind_iff]
  simp only [runs_lift_iff]
  constructor
  · rintro (⟨u, v, a, s₁, l₁, rfl, ⟨rfl, hu⟩, hv⟩ | ⟨e, rfl, rfl, h⟩)
    · exact .inl ⟨u, v, a, l₁, rfl, hu, hv⟩
    · exact .inr ⟨e, rfl, rfl, h⟩
  · rintro (⟨u, v, a, l₁, rfl, hu, hv⟩ | ⟨e, rfl, rfl, h⟩)
    · exact .inl ⟨u, v, a, s, l₁, rfl, ⟨rfl, hu⟩, hv⟩
    · exact .inr ⟨e, rfl, rfl, h⟩

theorem runs_bind_lift_ok_iff {work : Attempt α} {f : α → On σ β} {b : β} :
    Runs ((liftM work : On σ α) >>= f) s l t (.ok b) s' l' ↔
      ∃ u v a l₁, t = u ++ v ∧ Attempt.Runs work l u (.ok a) l₁ ∧
        Runs (f a) s l₁ v (.ok b) s' l' := by
  rw [runs_bind_lift_iff]
  constructor
  · rintro (h | ⟨e, he, -⟩)
    · exact h
    · cases he
  · exact .inl

theorem runs_liftLab_iff {work : Lab α} {r : Except Fault α} :
    Runs (liftM work : On σ α) s l t r s' l' ↔
      ∃ a, r = .ok a ∧ s' = s ∧ Lab.Runs work l t a l' := by
  show Lab.Runs ((work >>= fun a => pure (a, s)) >>= fun x => pure (.ok x.1, x.2)) l t
    (r, s') l' ↔ _
  simp only [bind_assoc, pure_bind]
  rw [bind_pure_comp, Lab.runs_map_iff]
  constructor
  · rintro ⟨a, hx, hw⟩
    cases hx
    exact ⟨a, rfl, rfl, hw⟩
  · rintro ⟨a, rfl, rfl, hw⟩
    exact ⟨a, rfl, hw⟩

/-- A step that cannot fail is followed by the next. -/
theorem runs_bind_liftLab_iff {work : Lab α} {f : α → On σ β} {r : Except Fault β} :
    Runs ((liftM work : On σ α) >>= f) s l t r s' l' ↔
      ∃ u v a l₁, t = u ++ v ∧ Lab.Runs work l u a l₁ ∧ Runs (f a) s l₁ v r s' l' := by
  rw [runs_bind_iff]
  simp only [runs_liftLab_iff]
  constructor
  · rintro (⟨u, v, _, _, l₁, rfl, ⟨a, hx, rfl, hu⟩, hv⟩ | ⟨_, _, _, hx, _⟩)
    · cases hx
      exact ⟨u, v, _, l₁, rfl, hu, hv⟩
    · cases hx
  · rintro ⟨u, v, a, l₁, rfl, hu, hv⟩
    exact .inl ⟨u, v, a, s, l₁, rfl, ⟨a, rfl, rfl, hu⟩, hv⟩

/-- Work on the object that cannot fail. -/
theorem runs_liftState_iff {work : StateT σ Lab α} {r : Except Fault α} :
    Runs (liftM work : On σ α) s l t r s' l' ↔
      ∃ a, r = .ok a ∧ Lab.Runs (work.run s) l t (a, s') l' := by
  show Lab.Runs (work.run s >>= fun x => pure (.ok x.1, x.2)) l t (r, s') l' ↔ _
  rw [bind_pure_comp, Lab.runs_map_iff]
  constructor
  · rintro ⟨⟨a, s₁⟩, hx, hw⟩
    cases hx
    exact ⟨a, rfl, hw⟩
  · rintro ⟨a, rfl, hw⟩
    exact ⟨(a, s'), rfl, hw⟩

theorem runs_result_iff {work : On σ α} {r : Except Fault (Except Fault α)} :
    Runs work.result s l t r s' l' ↔ ∃ x, r = .ok x ∧ Runs work s l t x s' l' := by
  show Lab.Runs (work.perform s >>= fun x => pure (.ok x.1, x.2)) l t (r, s') l' ↔ _
  rw [bind_pure_comp, Lab.runs_map_iff]
  constructor
  · rintro ⟨⟨x, s₁⟩, hx, hw⟩
    cases hx
    exact ⟨x, rfl, hw⟩
  · rintro ⟨x, rfl, hw⟩
    exact ⟨(x, s'), rfl, hw⟩

theorem runs_bind_result_iff {work : On σ α} {f : Except Fault α → On σ β} {r : Except Fault β} :
    Runs (work.result >>= f) s l t r s' l' ↔
      ∃ u v x s₁ l₁, t = u ++ v ∧ Runs work s l u x s₁ l₁ ∧ Runs (f x) s₁ l₁ v r s' l' := by
  rw [runs_bind_iff]
  simp only [runs_result_iff]
  constructor
  · rintro (⟨u, v, _, s₁, l₁, rfl, ⟨x, hx, hu⟩, hv⟩ | ⟨_, _, _, hx, _⟩)
    · cases hx
      exact ⟨u, v, _, s₁, l₁, rfl, hu, hv⟩
    · cases hx
  · rintro ⟨u, v, x, s₁, l₁, rfl, hu, hv⟩
    exact .inl ⟨u, v, x, s₁, l₁, rfl, ⟨x, rfl, hu⟩, hv⟩

/-- Work on a part of the object. -/
theorem runs_part_iff {τ : Type} {view : σ → τ} {update : τ → σ → σ} {work : On τ α}
    {r : Except Fault α} : Runs (part view update work) s l t r s' l' ↔
      ∃ b, Runs work (view s) l t r b l' ∧ s' = update b s := by
  show Lab.Runs (work.perform (view s) >>= fun x => pure (x.1, update x.2 s)) l t (r, s') l' ↔ _
  rw [bind_pure_comp, Lab.runs_map_iff]
  constructor
  · rintro ⟨⟨x, b⟩, hx, hw⟩
    cases hx
    exact ⟨b, hw, rfl⟩
  · rintro ⟨b, hw, rfl⟩
    exact ⟨(r, b), rfl, hw⟩

/-- A given result, with nothing done. -/
theorem runs_mk_pure_iff {x r : Except Fault α} :
    Runs (ExceptT.mk (pure x) : On σ α) s l t r s' l' ↔ t = [] ∧ r = x ∧ s' = s ∧ l' = l := by
  show Lab.Runs (pure (x, s)) l t (r, s') l' ↔ _
  rw [Lab.runs_pure_iff, Prod.mk.injEq, and_assoc]

end On

end SwitchLab
