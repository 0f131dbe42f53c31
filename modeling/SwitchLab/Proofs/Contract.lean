import SwitchLab.Proofs.Runs

/-! Contracts: what a program asks of its surroundings, and what holds of its
result, whatever the answers are. They are stated along the program, not along
its runs, so that a contract is put together from those of the steps. -/

namespace SwitchLab

/-! ## Dialogues -/

namespace Dialogue

variable {I : Interface} {α β : Type} {P P' : I.Request → Prop} {Q : α → Prop} {R : β → Prop}

/-- Every request satisfies `P` and every result `Q`. -/
def Ensures (P : I.Request → Prop) (Q : α → Prop) : Dialogue I α → Prop
  | done a => Q a
  | ask q next => P q ∧ ∀ r, Ensures P Q (next r)

theorem Ensures.bind {p : Dialogue I α} {f : α → Dialogue I β} (hp : p.Ensures P Q)
    (hf : ∀ a, Q a → (f a).Ensures P R) : (p.bind f).Ensures P R := by
  induction p with
  | done a => exact hf a hp
  | ask q next ih => exact ⟨hp.1, fun r => ih r (hp.2 r)⟩

theorem Ensures.mono {p : Dialogue I α} {Q' : α → Prop} (hp : p.Ensures P Q)
    (hP : ∀ q, P q → P' q) (hQ : ∀ a, Q a → Q' a) : p.Ensures P' Q' := by
  induction p with
  | done a => exact hQ a hp
  | ask q next ih => exact ⟨hP q hp.1, fun r => ih r (hp.2 r)⟩

theorem Ensures.of_runs {p : Dialogue I α} {t : Trace I} {a : α} (hp : p.Ensures P Q)
    (h : Runs p t a) : (∀ x ∈ t, P x.request) ∧ Q a := by
  induction h with
  | done a => exact ⟨by simp, hp⟩
  | ask _ ih =>
    obtain ⟨ht, ha⟩ := ih (hp.2 _)
    refine ⟨?_, ha⟩
    intro x hx
    rcases List.mem_cons.mp hx with rfl | hx
    · exact hp.1
    · exact ht x hx

end Dialogue

variable {α β σ : Type} {P P' : Query → Prop}

/-! ## Work that keeps the ledger -/

namespace Lab

variable {Q : α → Prop} {R : β → Prop}

def Ensures (P : Query → Prop) (Q : α → Prop) (work : Lab α) : Prop :=
  ∀ l, (work l).Ensures (I := Host) P fun x => Q x.1

/-- The part of a contract that says nothing of the result. -/
abbrev Asks (P : Query → Prop) (work : Lab α) : Prop := Ensures P (fun _ => True) work

theorem Ensures.pure {a : α} (h : Q a) : Ensures P Q (pure a : Lab α) := fun _ => h

theorem Ensures.bind {work : Lab α} {f : α → Lab β} (hw : Ensures P Q work)
    (hf : ∀ a, Q a → Ensures P R (f a)) : Ensures P R (work >>= f) :=
  fun l => Dialogue.Ensures.bind (hw l) fun x hx => hf x.1 hx x.2

theorem Ensures.mono {work : Lab α} {Q' : α → Prop} (hw : Ensures P Q work)
    (hP : ∀ q, P q → P' q) (hQ : ∀ a, Q a → Q' a) : Ensures P' Q' work :=
  fun l => (hw l).mono hP fun x hx => hQ x.1 hx

theorem Ensures.weaken {work : Lab α} {Q' : α → Prop} (hw : Ensures P Q work)
    (hQ : ∀ a, Q a → Q' a) : Ensures P Q' work := hw.mono (fun _ h => h) hQ

theorem Ensures.asks {work : Lab α} (hw : Ensures P Q work) : Asks P work :=
  hw.weaken fun _ _ => trivial

theorem Ensures.map {work : Lab α} {f : α → β} (hw : Ensures P (fun a => R (f a)) work) :
    Ensures P R (f <$> work) := by
  rw [← bind_pure_comp]
  exact hw.bind fun a ha => .pure ha

theorem Asks.pure {a : α} : Asks P (pure a : Lab α) := Ensures.pure trivial

theorem Asks.bind {work : Lab α} {f : α → Lab β} (hw : Asks P work) (hf : ∀ a, Asks P (f a)) :
    Asks P (work >>= f) := Ensures.bind hw fun a _ => hf a

theorem asks_get : Asks P (get : Lab Ledger) := fun _ => trivial

theorem asks_set {l : Ledger} : Asks P (set l : Lab PUnit) := fun _ => trivial

theorem asks_ask {q : Query} (h : P q) : Asks P (Host.ask q) := fun _ => ⟨h, fun _ => trivial⟩

theorem Ensures.of_runs {work : Lab α} {l l' : Ledger} {t : Trace Host} {a : α}
    (hw : Ensures P Q work) (h : Runs work l t a l') : (∀ x ∈ t, P x.request) ∧ Q a :=
  Dialogue.Ensures.of_runs (Q := fun x => Q x.1) (hw l) h

end Lab

/-! ## Work that may fail -/

namespace Attempt

variable {Q : α → Prop} {R : β → Prop}

/-- Nothing is said of a fault. -/
def Ensures (P : Query → Prop) (Q : α → Prop) (work : Attempt α) : Prop :=
  Lab.Ensures P (fun r => ∀ a, r = .ok a → Q a) work.run

abbrev Asks (P : Query → Prop) (work : Attempt α) : Prop := Ensures P (fun _ => True) work

theorem Ensures.pure {a : α} (h : Q a) : Ensures P Q (pure a : Attempt α) := by
  apply Lab.Ensures.pure
  rintro b ⟨⟩
  exact h

theorem Ensures.throw {e : Fault} : Ensures P Q (throw e : Attempt α) := by
  apply Lab.Ensures.pure
  rintro b ⟨⟩

/-- What follows a failure does not count. -/
theorem Ensures.throw_bind {e : Fault} {f : α → Attempt β} :
    Ensures P R ((MonadExcept.throw e : Attempt α) >>= f) := by
  apply Lab.Ensures.pure
  rintro b ⟨⟩

theorem Ensures.bind {work : Attempt α} {f : α → Attempt β} (hw : Ensures P Q work)
    (hf : ∀ a, Q a → Ensures P R (f a)) : Ensures P R (work >>= f) := by
  show Lab.Ensures P _ (work.run >>= ExceptT.bindCont f)
  apply Lab.Ensures.bind hw
  intro r hr
  cases r with
  | ok a => exact hf a (hr a rfl)
  | error e => exact Ensures.throw

theorem Ensures.weaken {work : Attempt α} {Q' : α → Prop} (hw : Ensures P Q work)
    (hQ : ∀ a, Q a → Q' a) : Ensures P Q' work :=
  Lab.Ensures.weaken hw fun _ hr a ha => hQ a (hr a ha)

theorem Ensures.asks {work : Attempt α} (hw : Ensures P Q work) : Asks P work :=
  hw.weaken fun _ _ => trivial

/-- What is asked does not depend on how the result is looked at. -/
theorem asks_iff {work : Attempt α} : Asks P work ↔ Lab.Asks P work.run := by
  constructor
  · exact fun h => Lab.Ensures.asks h
  · exact fun h => Lab.Ensures.weaken h fun _ _ _ _ => trivial

theorem Asks.pure {a : α} : Asks P (pure a : Attempt α) := Ensures.pure trivial

theorem Asks.bind {work : Attempt α} {f : α → Attempt β} (hw : Asks P work)
    (hf : ∀ a, Asks P (f a)) : Asks P (work >>= f) := Ensures.bind hw fun a _ => hf a

theorem asks_modify {f : Ledger → Ledger} : Asks P (modify f : Attempt PUnit) := by
  intro l a ha
  trivial

theorem Asks.outcome {work : Attempt α} (hw : Asks P work) : Lab.Asks P work.outcome :=
  asks_iff.mp hw

theorem Asks.mk {work : Lab (Except Fault α)} (hw : Lab.Asks P work) :
    Asks P (ExceptT.mk work : Attempt α) := asks_iff.mpr hw

theorem Ensures.lift {work : Lab α} (hw : Lab.Ensures P Q work) :
    Ensures P Q (liftM work : Attempt α) := by
  apply Lab.Ensures.map
  refine hw.weaken fun a ha b hb => ?_
  cases hb
  exact ha

theorem Asks.lift {work : Lab α} (hw : Lab.Asks P work) : Asks P (liftM work : Attempt α) :=
  Ensures.lift hw

theorem Asks.result {work : Attempt α} (hw : Asks P work) : Asks P work.result :=
  asks_iff.mpr (Lab.Ensures.map (asks_iff.mp hw))

theorem Asks.forIn {τ : Type} {items : List τ} {f : τ → Attempt PUnit} (hf : ∀ a, Asks P (f a)) :
    Asks P (ForIn.forIn items PUnit.unit fun a _ => do
      f a
      Pure.pure (ForInStep.yield PUnit.unit)) := by
  induction items with
  | nil => exact Asks.pure
  | cons a items ih =>
    rw [List.forIn_cons, bind_assoc]
    refine (hf a).bind fun _ => ?_
    rw [pure_bind]
    exact ih

theorem Ensures.of_runs {work : Attempt α} {l l' : Ledger} {t : Trace Host} {r : Except Fault α}
    (hw : Ensures P Q work) (h : Runs work l t r l') :
    (∀ x ∈ t, P x.request) ∧ ∀ a, r = .ok a → Q a :=
  Lab.Ensures.of_runs (Q := fun x : Except Fault α => ∀ a, x = .ok a → Q a) hw h

end Attempt

/-! ## Requests that no run leaves out -/

namespace Lab

/-- Every run asks this. -/
def Surely (q : Query) (work : Lab α) : Prop :=
  ∀ l t a l', Runs work l t a l' → ∃ x ∈ t, x.request = q

theorem surely_ask {q : Query} : Surely q (Host.ask q) := by
  intro l t a l' hr
  obtain ⟨rfl, -⟩ := runs_ask_iff.mp hr
  exact ⟨_, List.mem_singleton.mpr rfl, rfl⟩

theorem Surely.bind {q : Query} {work : Lab α} {f : α → Lab β} (hw : Surely q work) :
    Surely q (work >>= f) := by
  intro l t b l' hr
  obtain ⟨u, v, a, l₁, rfl, hu, -⟩ := runs_bind_iff.mp hr
  obtain ⟨x, hx, hq⟩ := hw _ _ _ _ hu
  exact ⟨x, List.mem_append_left v hx, hq⟩

theorem Surely.after {q : Query} {work : Lab α} {f : α → Lab β} (hf : ∀ a, Surely q (f a)) :
    Surely q (work >>= f) := by
  intro l t b l' hr
  obtain ⟨u, v, a, l₁, rfl, -, hv⟩ := runs_bind_iff.mp hr
  obtain ⟨x, hx, hq⟩ := hf a _ _ _ _ hv
  exact ⟨x, List.mem_append_right u hx, hq⟩

end Lab

namespace Attempt

abbrev Surely (q : Query) (work : Attempt α) : Prop := Lab.Surely q work.run

/-- What comes after a step may be left out. -/
theorem Surely.bind {q : Query} {work : Attempt α} {f : α → Attempt β} (hw : Surely q work) :
    Surely q (work >>= f) := Lab.Surely.bind (f := ExceptT.bindCont f) hw

end Attempt

/-! ## Work that freezes nothing -/

namespace Lab

def KeepsLedger (work : Lab α) : Prop := ∀ l t a l', Runs work l t a l' → l' = l

namespace KeepsLedger

theorem pure {a : α} : KeepsLedger (pure a : Lab α) := fun _ _ _ _ hr => (runs_pure_iff.mp hr).2.2

theorem get : KeepsLedger (get : Lab Ledger) := fun _ _ _ _ hr => (runs_get_iff.mp hr).2.2

theorem ask {q : Query} : KeepsLedger (Host.ask q) := fun _ _ _ _ hr => (runs_ask_iff.mp hr).2

theorem bind {work : Lab α} {f : α → Lab β} (hw : KeepsLedger work)
    (hf : ∀ a, KeepsLedger (f a)) : KeepsLedger (work >>= f) := by
  intro l t b l' hr
  obtain ⟨u, v, a, l₁, rfl, hu, hv⟩ := runs_bind_iff.mp hr
  exact (hf a _ _ _ _ hv).trans (hw _ _ _ _ hu)

end KeepsLedger

end Lab

namespace Attempt

abbrev KeepsLedger (work : Attempt α) : Prop := Lab.KeepsLedger work.run

namespace KeepsLedger

theorem pure {a : α} : KeepsLedger (pure a : Attempt α) := Lab.KeepsLedger.pure (a := Except.ok a)

theorem throw {e : Fault} : KeepsLedger (throw e : Attempt α) :=
  Lab.KeepsLedger.pure (a := Except.error e)

theorem throw_bind {e : Fault} {f : α → Attempt β} :
    KeepsLedger ((MonadExcept.throw e : Attempt α) >>= f) :=
  Lab.KeepsLedger.pure (a := Except.error e)

theorem bind {work : Attempt α} {f : α → Attempt β} (hw : KeepsLedger work)
    (hf : ∀ a, KeepsLedger (f a)) : KeepsLedger (work >>= f) := by
  refine Lab.KeepsLedger.bind (f := ExceptT.bindCont f) hw fun r => ?_
  cases r with
  | ok a => exact hf a
  | error e => exact throw

theorem lift {work : Lab α} (hw : Lab.KeepsLedger work) :
    KeepsLedger (liftM work : Attempt α) := by
  intro l t r l' hr
  obtain ⟨a, -, ha⟩ := runs_lift_iff.mp hr
  exact hw _ _ _ _ ha

theorem forIn {τ : Type} {items : List τ} {f : τ → Attempt PUnit}
    (hf : ∀ a, KeepsLedger (f a)) :
    KeepsLedger (ForIn.forIn items PUnit.unit fun a _ => do
      f a
      Pure.pure (ForInStep.yield PUnit.unit)) := by
  induction items with
  | nil => exact pure
  | cons a items ih =>
    rw [List.forIn_cons, bind_assoc]
    refine (hf a).bind fun _ => ?_
    rw [pure_bind]
    exact ih

end KeepsLedger

end Attempt

/-! ## Work on an object -/

/-- Work on an object that cannot fail: every request satisfies `P`, and the object keeps the
property `K`. -/
def KeepsOn (P : Query → Prop) (K : σ → Prop) (work : StateT σ Lab α) : Prop :=
  ∀ s, K s → Lab.Ensures P (fun x => K x.2) (work.run s)

namespace KeepsOn

variable {K : σ → Prop}

theorem pure {a : α} : KeepsOn P K (pure a : StateT σ Lab α) := fun _ hs => Lab.Ensures.pure hs

theorem get : KeepsOn P K (get : StateT σ Lab σ) := fun _ hs => Lab.Ensures.pure hs

theorem modify {f : σ → σ} (h : ∀ s, K s → K (f s)) :
    KeepsOn P K (modify f : StateT σ Lab PUnit) := fun s hs => Lab.Ensures.pure (h s hs)

theorem bind {work : StateT σ Lab α} {f : α → StateT σ Lab β} (hw : KeepsOn P K work)
    (hf : ∀ a, KeepsOn P K (f a)) : KeepsOn P K (work >>= f) :=
  fun s hs => Lab.Ensures.bind (hw s hs) fun x hx => hf x.1 x.2 hx

theorem lift {work : Lab α} (hw : Lab.Asks P work) :
    KeepsOn P K (liftM work : StateT σ Lab α) := by
  intro s hs
  show Lab.Ensures P _ (work >>= fun a => Pure.pure (a, s))
  exact Lab.Ensures.bind hw fun _ _ => Lab.Ensures.pure hs

theorem forIn {τ : Type} {items : List τ} {f : τ → StateT σ Lab α}
    (hf : ∀ a, KeepsOn P K (f a)) :
    KeepsOn P K (ForIn.forIn items PUnit.unit fun a _ => do
      let _ ← f a
      Pure.pure (ForInStep.yield PUnit.unit)) := by
  induction items with
  | nil => exact pure
  | cons a items ih =>
    rw [List.forIn_cons, bind_assoc]
    refine (hf a).bind fun _ => ?_
    rw [pure_bind]
    exact ih

end KeepsOn

namespace On

variable {K : σ → Prop}

/-- Every request satisfies `P`, and the object keeps the property `K`, also when the work
fails. -/
def Keeps (P : Query → Prop) (K : σ → Prop) (work : On σ α) : Prop :=
  ∀ s, K s → Lab.Ensures P (fun x => K x.2) (work.perform s)

theorem Keeps.pure {a : α} : Keeps P K (pure a : On σ α) := fun _ hs => Lab.Ensures.pure hs

theorem Keeps.throw {e : Fault} : Keeps P K (throw e : On σ α) := fun _ hs => Lab.Ensures.pure hs

/-- What follows a failure does not count. -/
theorem Keeps.throw_bind {e : Fault} {f : α → On σ β} :
    Keeps P K ((MonadExcept.throw e : On σ α) >>= f) :=
  fun _ hs => Lab.Ensures.pure hs

theorem Keeps.bind {work : On σ α} {f : α → On σ β} (hw : Keeps P K work)
    (hf : ∀ a, Keeps P K (f a)) : Keeps P K (work >>= f) := by
  intro s hs
  show Lab.Ensures P _ (work.perform s >>= fun x => ExceptT.bindCont f x.1 x.2)
  apply Lab.Ensures.bind (hw s hs)
  rintro ⟨r, s'⟩ hs'
  cases r with
  | ok a => exact hf a s' hs'
  | error e => exact Lab.Ensures.pure hs'

/-- A step that reads the object may use what holds of it. -/
theorem Keeps.bind_get {f : σ → On σ β} (hf : ∀ s, K s → Keeps P K (f s)) :
    Keeps P K (get >>= f) := fun s hs => hf s hs s hs

/-- A step of work that leaves the object alone may use what holds of the result. -/
theorem Keeps.bind_lift {Q : α → Prop} {work : Attempt α} {f : α → On σ β}
    (hw : Attempt.Ensures P Q work) (hf : ∀ a, Q a → Keeps P K (f a)) :
    Keeps P K ((liftM work : On σ α) >>= f) := by
  intro s hs
  show Lab.Ensures P _ ((work.run >>= fun x => Pure.pure (x, s)) >>=
    fun x => ExceptT.bindCont f x.1 x.2)
  rw [bind_assoc]
  apply Lab.Ensures.bind hw
  intro r hr
  rw [pure_bind]
  cases r with
  | ok a => exact hf a (hr a rfl) s hs
  | error e => exact Lab.Ensures.pure hs

theorem Keeps.modify {f : σ → σ} (h : ∀ s, K s → K (f s)) :
    Keeps P K (modify f : On σ PUnit) := fun s hs => Lab.Ensures.pure (h s hs)

theorem Keeps.lift {work : Attempt α} (hw : Attempt.Asks P work) :
    Keeps P K (liftM work : On σ α) := by
  intro s hs
  show Lab.Ensures P _ (work.run >>= fun x => Pure.pure (x, s))
  exact Lab.Ensures.bind (Attempt.asks_iff.mp hw) fun _ _ => Lab.Ensures.pure hs

theorem Keeps.liftLab {Q : α → Prop} {work : Lab α} {f : α → On σ β} (hw : Lab.Ensures P Q work)
    (hf : ∀ a, Q a → Keeps P K (f a)) : Keeps P K ((liftM work : On σ α) >>= f) := by
  intro s hs
  show Lab.Ensures P _ (((work >>= fun a => Pure.pure (a, s)) >>=
    fun x => Pure.pure (Except.ok x.1, x.2)) >>= fun x => ExceptT.bindCont f x.1 x.2)
  simp only [bind_assoc, pure_bind]
  exact Lab.Ensures.bind hw fun a ha => hf a ha s hs

theorem Keeps.liftState {work : StateT σ Lab α} (hw : KeepsOn P K work) :
    Keeps P K (liftM work : On σ α) := by
  intro s hs
  show Lab.Ensures P _ (work.run s >>= fun x => Pure.pure (Except.ok x.1, x.2))
  exact Lab.Ensures.bind (hw s hs) fun _ hx => Lab.Ensures.pure hx

theorem Keeps.result {work : On σ α} (hw : Keeps P K work) : Keeps P K work.result := by
  intro s hs
  show Lab.Ensures P _ (work.perform s >>= fun x => Pure.pure (Except.ok x.1, x.2))
  exact Lab.Ensures.bind (hw s hs) fun _ hx => Lab.Ensures.pure hx

/-- Work on a part that keeps a property of the part. -/
theorem Keeps.part {τ : Type} {L : τ → Prop} {view : σ → τ} {update : τ → σ → σ} {work : On τ α}
    (hw : Keeps P L work) (hv : ∀ s, K s → L (view s)) (hu : ∀ s b, K s → L b → K (update b s)) :
    Keeps P K (On.part view update work) := by
  intro s hs
  show Lab.Ensures P _ (work.perform (view s) >>= fun x => Pure.pure (x.1, update x.2 s))
  exact Lab.Ensures.bind (hw _ (hv s hs)) fun x hx => Lab.Ensures.pure (hu s x.2 hs hx)

theorem Keeps.mk_pure {r : Except Fault α} : Keeps P K (ExceptT.mk (Pure.pure r) : On σ α) :=
  fun _ hs => Lab.Ensures.pure hs

theorem Keeps.forIn {τ : Type} {items : List τ} {f : τ → On σ PUnit}
    (hf : ∀ a ∈ items, Keeps P K (f a)) :
    Keeps P K (ForIn.forIn items PUnit.unit fun a _ => do
      f a
      Pure.pure (ForInStep.yield PUnit.unit)) := by
  induction items with
  | nil => exact Keeps.pure
  | cons a items ih =>
    rw [List.forIn_cons, bind_assoc]
    refine Keeps.bind (hf a (by simp)) fun _ => ?_
    rw [pure_bind]
    exact ih fun b hb => hf b (by simp [hb])

/-- When the work succeeds, the object has the property `K`, whatever it was before. -/
def Establishes (K : σ → Prop) (work : On σ α) : Prop :=
  ∀ s l t a s' l', Runs work s l t (.ok a) s' l' → K s'

theorem Establishes.bind {work : On σ α} {f : α → On σ β} (hf : ∀ a, Establishes K (f a)) :
    Establishes K (work >>= f) := by
  intro s l t b s' l' hr
  rcases runs_bind_iff.mp hr with ⟨u, v, a, s₁, l₁, rfl, -, hv⟩ | ⟨e, he, -⟩
  · exact hf a _ _ _ _ _ _ hv
  · cases he

theorem Establishes.throw_bind {e : Fault} {f : α → On σ β} :
    Establishes K ((MonadExcept.throw e : On σ α) >>= f) := by
  intro s l t b s' l' hr
  cases (runs_throw_bind_iff.mp hr).2.1

/-- A step makes it so, and the others keep it. -/
theorem Establishes.modify_bind {g : σ → σ} {f : PUnit → On σ α} (hg : ∀ s, K (g s))
    (hf : Keeps P K (f ⟨⟩)) : Establishes K (modify g >>= f) :=
  fun s _ _ _ _ _ hr => ((hf (g s) (hg s)).of_runs (runs_bind_modify_iff.mp hr)).2

end On

end SwitchLab
