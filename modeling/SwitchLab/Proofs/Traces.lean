import SwitchLab.Proofs.Contract

/-! Traces in their order: milestones that follow each other, and requests that
are made only after something has happened. -/

namespace SwitchLab

variable {u v w t : Trace Host}

/-! ## Milestones -/

/-- The milestones follow each other in a trace, whatever stands before, between and after
them. -/
def InOrder : List (Trace Host → Prop) → Trace Host → Prop
  | [], _ => True
  | M :: rest, t => ∃ u v w, t = u ++ (v ++ w) ∧ M v ∧ InOrder rest w

namespace InOrder

variable {M : Trace Host → Prop} {Ms Ns : List (Trace Host → Prop)}

theorem single (h : M v) : InOrder [M] v := ⟨[], v, [], by simp, h, trivial⟩

theorem before (h : InOrder Ms t) : InOrder Ms (u ++ t) := by
  cases Ms with
  | nil => trivial
  | cons M Ms =>
    obtain ⟨v, w, x, rfl, hw, hx⟩ := h
    exact ⟨u ++ v, w, x, by simp, hw, hx⟩

theorem append (h : InOrder Ms t) (hu : InOrder Ns u) : InOrder (Ms ++ Ns) (t ++ u) := by
  induction Ms generalizing t with
  | nil => exact hu.before
  | cons M Ms ih =>
    obtain ⟨v, w, x, rfl, hw, hx⟩ := h
    exact ⟨v, w, x ++ u, by simp, hw, ih hx⟩

theorem left (h : InOrder (Ms ++ Ns) t) : InOrder Ms t := by
  induction Ms generalizing t with
  | nil => trivial
  | cons M Ms ih =>
    obtain ⟨u, v, w, rfl, hv, hw⟩ := h
    exact ⟨u, v, w, rfl, hv, ih hw⟩

theorem after (h : InOrder Ms t) : InOrder Ms (t ++ u) := by
  have none : InOrder [] u := trivial
  simpa using h.append none

end InOrder

/-! ## Requests after their time -/

/-- In a trace that goes on from `u`, every exchange satisfies `G` with all that was before it. -/
def Gated (G : Trace Host → Exchange Host → Prop) (u t : Trace Host) : Prop :=
  ∀ v x w, t = v ++ x :: w → G (u ++ v) x

namespace Gated

variable {G : Trace Host → Exchange Host → Prop}

theorem nil : Gated G u [] := by
  intro v x w h
  simp at h

theorem append (ht : Gated G u t) (hv : Gated G (u ++ t) v) : Gated G u (t ++ v) := by
  intro v₁ x w h
  rcases List.append_eq_append_iff.mp h with ⟨s, rfl, hs⟩ | ⟨s, rfl, hs⟩
  · rw [← List.append_assoc]
    exact hv s x w hs
  · cases s with
    | nil =>
      have hx := hv [] x w (by simpa using hs.symm)
      simpa using hx
    | cons y s =>
      obtain ⟨rfl, rfl⟩ := List.cons.inj hs
      exact ht v₁ x s rfl

theorem left (h : Gated G u (t ++ v)) : Gated G u t := by
  rintro t₁ x t₂ rfl
  exact h t₁ x (t₂ ++ v) (by simp)

theorem right (h : Gated G u (t ++ v)) : Gated G (u ++ t) v := by
  rintro v₁ x v₂ rfl
  rw [List.append_assoc]
  exact h (t ++ v₁) x v₂ (by simp)

theorem cons_iff {x : Exchange Host} : Gated G u (x :: t) ↔ G u x ∧ Gated G (u ++ [x]) t := by
  constructor
  · intro h
    exact ⟨by simpa using h [] x t rfl, h.right (t := [x])⟩
  · rintro ⟨hx, ht⟩
    refine append (t := [x]) (v := t) ?_ ht
    rintro v₁ y v₂ hv
    obtain ⟨rfl, hv⟩ | ⟨_, hv⟩ := List.append_eq_singleton_iff.mp hv.symm
    · cases hv
      simpa using hx
    · cases hv

theorem of_forall (h : ∀ x ∈ t, ∀ v, G (u ++ v) x) : Gated G u t := by
  rintro v x w rfl
  exact h x (by simp) v

/-- Two steps, the second of which is gated if it is done. -/
theorem bind {α β : Type} {l l' : Ledger} {work : Attempt α} {f : α → Attempt β}
    {r : Except Fault β} (hr : Attempt.Runs (work >>= f) l t r l')
    (hw : ∀ {t r l'}, Attempt.Runs work l t r l' → Gated G u t)
    (hf : ∀ {t₁ a l₁}, Attempt.Runs work l t₁ (.ok a) l₁ →
      ∀ {t₂}, Attempt.Runs (f a) l₁ t₂ r l' → Gated G (u ++ t₁) t₂) : Gated G u t := by
  rcases Attempt.runs_bind_iff.mp hr with ⟨t₁, t₂, a, l₁, rfl, h₁, h₂⟩ | ⟨e, rfl, h₁⟩
  · exact (hw h₁).append (hf h₁ h₂)
  · exact hw h₁

instance decidable [∀ u x, Decidable (G u x)] : (u t : Trace Host) → Decidable (Gated G u t)
  | _, [] => isTrue nil
  | u, x :: t =>
    have := decidable (u ++ [x]) t
    decidable_of_iff (G u x ∧ Gated G (u ++ [x]) t) cons_iff.symm

end Gated

/-! ## How often something is asked -/

/-- No run of the work asks for `p` more than `n` times. -/
def Attempt.AsksAtMost {α : Type} (p : Query → Bool) (n : Nat) (work : Attempt α) : Prop :=
  ∀ l t r l', Attempt.Runs work l t r l' → t.countP (p ·.request) ≤ n

namespace Attempt.AsksAtMost

variable {α β : Type} {p : Query → Bool} {n m : Nat} {work : Attempt α} {f : α → Attempt β}

theorem of_asks (h : Asks (p · = false) work) : AsksAtMost p n work := by
  intro l t r l' hr
  have ht : t.countP (p ·.request) = 0 := by
    rw [List.countP_eq_zero]
    intro x hx
    simp [(h.of_runs hr).1 x hx]
  omega

theorem bind (hw : AsksAtMost p n work) (hf : ∀ a, AsksAtMost p m (f a)) :
    AsksAtMost p (n + m) (work >>= f) := by
  intro l t r l' hr
  rcases runs_bind_iff.mp hr with ⟨u, v, a, l₁, rfl, hu, hv⟩ | ⟨e, rfl, hu⟩
  · have := hw _ _ _ _ hu
    have := hf a _ _ _ _ hv
    rw [List.countP_append]
    omega
  · have := hw _ _ _ _ hu
    omega

end Attempt.AsksAtMost

end SwitchLab
