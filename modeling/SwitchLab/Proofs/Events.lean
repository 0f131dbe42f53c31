import SwitchLab.Proofs.Runs

/-! Operations on an object, one after the other. A history keeps what was asked
in each operation and what became of it; a plan is carried out up to the first
step that fails. -/

namespace SwitchLab

variable {ω σ : Type} {act : ω → On σ Unit} {s s' : σ}

/-! ## Histories -/

/-- An operation on an object that was carried out, or tried. -/
structure Event (ω σ : Type) where
  operation : ω
  before : σ
  trace : Trace Host
  result : Except Fault Unit
  after : σ

/-- What others did to the ledger before is left open. -/
def Event.Ran (act : ω → On σ Unit) (e : Event ω σ) : Prop :=
  ∃ l l', On.Runs (act e.operation) e.before l e.trace e.result e.after l'

/-- One operation after the other. -/
inductive History (act : ω → On σ Unit) : σ → List (Event ω σ) → σ → Prop where
  | nil (s : σ) : History act s [] s
  | cons {e : Event ω σ} {events : List (Event ω σ)} {s : σ} :
    e.Ran act → History act e.after events s → History act e.before (e :: events) s

namespace History

variable {events : List (Event ω σ)}

theorem ran (h : History act s events s') : ∀ e ∈ events, e.Ran act := by
  induction h with
  | nil s => simp
  | cons he _ ih => exact List.forall_mem_cons.mpr ⟨he, ih⟩

/-- What every operation keeps holds before and after each of them, and in the end. -/
theorem keeps {I : σ → Prop} (hI : ∀ e : Event ω σ, e.Ran act → I e.before → I e.after)
    (h : History act s events s') (hs : I s) : (∀ e ∈ events, I e.before ∧ I e.after) ∧ I s' := by
  induction h with
  | nil s => exact ⟨by simp, hs⟩
  | @cons e events s' he _ ih =>
    have hafter := hI e he hs
    exact ⟨List.forall_mem_cons.mpr ⟨⟨hs, hafter⟩, (ih hafter).1⟩, (ih hafter).2⟩

theorem single {e : Event ω σ} (he : e.Ran act) : History act e.before [e] e.after :=
  .cons he (.nil _)

theorem append {more : List (Event ω σ)} {s₁ : σ} (h : History act s events s₁)
    (h' : History act s₁ more s') : History act s (events ++ more) s' := by
  induction h with
  | nil => exact h'
  | cons he _ ih => exact .cons he (ih h')

theorem of_append {first second : List (Event ω σ)} (h : History act s (first ++ second) s') :
    ∃ s₁, History act s first s₁ ∧ History act s₁ second s' := by
  induction first generalizing s with
  | nil => exact ⟨s, .nil s, h⟩
  | cons e first ih =>
    cases h with
    | cons he h =>
      obtain ⟨s₁, h₁, h₂⟩ := ih h
      exact ⟨s₁, .cons he h₁, h₂⟩

end History

/-! ## Plans -/

/-- The steps are taken one after the other, up to the first that fails. Its fault is the result. -/
inductive CarriedOut (act : ω → On σ Unit) :
    List ω → σ → Trace Host → Except Fault Unit → σ → Prop where
  | done (s : σ) : CarriedOut act [] s [] (.ok ()) s
  | step {a : ω} {rest : List ω} {s s₁ s' : σ} {l l₁ : Ledger} {t u : Trace Host}
      {r : Except Fault Unit} :
    On.Runs (act a) s l t (.ok ()) s₁ l₁ → CarriedOut act rest s₁ u r s' →
    CarriedOut act (a :: rest) s (t ++ u) r s'
  | stopped {a : ω} {rest : List ω} {s s' : σ} {l l' : Ledger} {t : Trace Host} {fault : Fault} :
    On.Runs (act a) s l t (.error fault) s' l' →
    CarriedOut act (a :: rest) s t (.error fault) s'

namespace CarriedOut

variable {steps more : List ω} {s₁ : σ} {t u : Trace Host} {r : Except Fault Unit} {fault : Fault}

theorem append (h : CarriedOut act steps s t (.ok ()) s₁) (h' : CarriedOut act more s₁ u r s') :
    CarriedOut act (steps ++ more) s (t ++ u) r s' := by
  generalize hr : (.ok () : Except Fault Unit) = ok at h
  induction h with
  | done s => exact h'
  | step ha _ ih =>
    rw [List.append_assoc]
    exact .step ha (ih h' hr)
  | stopped => cases hr

theorem stopped_append (h : CarriedOut act steps s t (.error fault) s') :
    CarriedOut act (steps ++ more) s t (.error fault) s' := by
  generalize hr : (.error fault : Except Fault Unit) = failed at h
  induction h with
  | done s => cases hr
  | step ha _ ih => exact .step ha (ih hr)
  | stopped ha =>
    cases hr
    exact .stopped ha

/-- Work that is one plan, and then another. -/
theorem bind {α : Type} {work : On σ α} {f : α → On σ Unit} {l l' : Ledger}
    (hr : On.Runs (work >>= f) s l t r s' l')
    (hw : ∀ {u x s₁ l₁}, On.Runs work s l u x s₁ l₁ →
      CarriedOut act steps s u (x.map fun _ => ()) s₁)
    (hf : ∀ {u v a s₁ l₁}, On.Runs work s l u (.ok a) s₁ l₁ → CarriedOut act steps s u (.ok ()) s₁ →
      On.Runs (f a) s₁ l₁ v r s' l' → CarriedOut act more s₁ v r s') :
    CarriedOut act (steps ++ more) s t r s' := by
  rcases On.runs_bind_iff.mp hr with ⟨u, v, a, s₁, l₁, rfl, hwork, hrest⟩ | ⟨e, rfl, hwork⟩
  · exact (hw hwork).append (hf hwork (hw hwork) hrest)
  · exact (hw hwork).stopped_append

/-- A plan that fails does so at one of its steps, after all before it were taken. -/
theorem stopped_at (h : CarriedOut act steps s t (.error fault) s') :
    ∃ done a rest u v s₁ l l', steps = done ++ a :: rest ∧ t = u ++ v ∧
      CarriedOut act done s u (.ok ()) s₁ ∧ On.Runs (act a) s₁ l v (.error fault) s' l' := by
  generalize hr : (.error fault : Except Fault Unit) = failed at h
  induction h with
  | done s => cases hr
  | @step a rest s _ _ _ _ _ _ _ ha _ ih =>
    obtain ⟨done, b, rest, u, v, s₁, l, l', rfl, rfl, hdone, hb⟩ := ih hr
    exact ⟨a :: done, b, rest, _, v, s₁, l, l', rfl, (List.append_assoc ..).symm, .step ha hdone,
      hb⟩
  | @stopped a rest s s' l l' t _ ha =>
    cases hr
    exact ⟨[], a, rest, [], t, s, l, l', rfl, rfl, .done s, ha⟩

end CarriedOut

end SwitchLab
