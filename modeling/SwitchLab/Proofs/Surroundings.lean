import SwitchLab.Proofs.Databases
import SwitchLab.Proofs.Ordering
import SwitchLab.Proofs.Reattaching
import SwitchLab.Proofs.Rules

/-! A test world along a run. What it answers one request after the other is brought down to what
holds of each exchange alone, as long as nothing but the configuration is written to. -/

namespace SwitchLab

/-! ## What a scripted runner may answer -/

namespace Rule

variable {r : Rule}

/-- What is left to a rule is some of what it had, and never nothing of it. -/
theorem outputs_advance : r.advance.outputs ⊆ r.outputs ∧
    r.advance.outputs.isEmpty = r.outputs.isEmpty := by
  rw [advance]
  split
  · rename_i hr
    simp [hr]
  · exact ⟨List.Subset.refl _, rfl⟩

end Rule

namespace ScriptedRunner

/-- The outputs that a command line may be answered with. -/
def outputs (line : String) : List Rule → List Output
  | [] => [.silent]
  | rule :: rest =>
    if Text.occursIn rule.needle line then
      if rule.outputs.isEmpty then [.silent] else rule.outputs
    else outputs line rest

variable {line line' : String} {rules : List Rule} {output : Output} {P : Output → Prop}

theorem answer_mem_outputs : (answer line rules).1 ∈ outputs line rules := by
  induction rules with
  | nil => simp [answer, outputs]
  | cons rule rest ih =>
    rw [answer, outputs]
    split
    · rw [Rule.output]
      cases rule.outputs <;> simp
    · exact ih

/-- An answer takes no output into the script that was not there. -/
theorem outputs_answer_subset :
    outputs line (answer line' rules).2 ⊆ outputs line rules := by
  induction rules with
  | nil => exact List.Subset.refl _
  | cons rule rest ih =>
    rw [answer]
    split
    · rw [outputs, outputs, Rule.needle_advance, Rule.outputs_advance.2]
      split
      · split
        · exact List.Subset.refl _
        · exact Rule.outputs_advance.1
      · exact List.Subset.refl _
    · rw [outputs, outputs]
      split
      · exact List.Subset.refl _
      · exact ih

theorem forall_mem_outputs (h : ∀ rule ∈ rules, ∀ output ∈ rule.outputs, P output)
    (hs : P .silent) : ∀ output ∈ outputs line rules, P output := by
  induction rules with
  | nil => simpa [outputs] using hs
  | cons rule rest ih =>
    obtain ⟨hrule, hrest⟩ := List.forall_mem_cons.mp h
    rw [outputs]
    split
    · split
      · simpa using hs
      · exact hrule
    · exact ih hrest

end ScriptedRunner

/-! ## Worlds that answer a trace -/

namespace World

/-- The world answers the requests of a trace one after the other. Its clock stands still; here it
may show anything. -/
inductive Answers : World → Trace Host → World → Prop where
  | nil (w : World) : Answers w [] w
  | clock {w w' : World} {t : Trace Host} {d : Duration} :
    Answers w t w' → Answers w (⟨.now, d⟩ :: t) w'
  | step {w w' : World} {t : Trace Host} {q : Query} :
    Answers (answer q w).2 t w' → Answers w (⟨q, (answer q w).1⟩ :: t) w'

/-- Whatever the world is, each work has a run in it. -/
theorem exists_answers_run {α : Type} (work : Attempt α) (l : Ledger) (w : World) :
    ∃ t r l' w', Attempt.Runs work l t r l' ∧ w.Answers t w' := by
  suffices h : ∀ p : Dialogue Host (Except Fault α × Ledger), ∃ t x w', p.Runs t x ∧
      w.Answers t w' by
    obtain ⟨t, ⟨r, l'⟩, w', hr, hw⟩ := h (work.run l)
    exact ⟨t, r, l', w', hr, hw⟩
  intro p
  induction p generalizing w with
  | done x => exact ⟨[], x, w, .done x, .nil w⟩
  | ask q next ih =>
    obtain ⟨t, x, w', hr, hw⟩ := ih (answer q w).1 (answer q w).2
    exact ⟨⟨q, (answer q w).1⟩ :: t, x, w', .ask hr, .step hw⟩

variable {w w' : World} {s s' : StoreName} {b : StoreBench} {t : Trace Host} {q : Query}
  {spec : DeviceSpec}

theorem store_setStore_of_ne (h : s' ≠ s) : (w.setStore s b).store s' = w.store s' := by
  have others : ∀ stores : List (StoreName × StoreBench),
      (stores.filter (·.1 ≠ s)).lookup s' = stores.lookup s' := by
    intro stores
    induction stores with
    | nil => rfl
    | cons p stores ih =>
      by_cases hp : p.1 = s
      · have hne : (s' == p.1) = false := by simpa [hp] using h
        rw [List.filter_cons_of_neg (by simpa using hp), ih, List.lookup_cons, hne]
      · rw [List.filter_cons_of_pos (by simpa using hp), List.lookup_cons, List.lookup_cons, ih]
  have hne : (s' == s) = false := by simpa using h
  rw [store, setStore, List.lookup_cons, hne, others]
  rfl

/-! ## A world in which a switch can start -/

/-- The look at the daemons of a switch. -/
def statusCommand (name : String) : Command :=
  ⟨"docker", ["exec", name, "bash", "-c", "supervisorctl status"]⟩

/-- Everything can be reached and every command succeeds; the container that holds the namespace
has a process, and the supervisor has nothing to wait for. -/
structure Healthy (spec : DeviceSpec) (w : World) : Prop where
  reachable : w.unreachable = false
  launches : w.launchFail = []
  quiet : ∀ s, (w.store s).Quiet
  succeeds : ∀ line, ∀ output ∈ ScriptedRunner.outputs line w.runner.rules, output.success = true
  process : ∀ output ∈ ScriptedRunner.outputs (Container.processCommand spec.holderName).render
    w.runner.rules, (Text.unsigned? 32 (Text.trim output.stdout)).any (0 < ·) = true
  supervisor : ∀ output ∈ ScriptedRunner.outputs (statusCommand spec.name).render w.runner.rules,
    Supervisor.pending (Supervisor.statuses output.stdout) = []

namespace Healthy

theorem launchFault? (hw : w.Healthy spec) (c : Command) : w.launchFault? c = none := by
  rw [World.launchFault?, hw.launches]
  rfl

theorem answer_run (hw : w.Healthy spec) (c : Command) : World.answer (.run c) w =
    (.ok (w.runner.run c).1, { w with runner := (w.runner.run c).2 }) := by
  rw [World.answer, hw.launchFault? c]

theorem connect (hw : w.Healthy spec) (db : Database) : w.connect db =
    (.ok (), { w with connects := w.connects + 1 }.setStore db.store (w.store db.store)) := by
  have hopen : ¬w.unreachable = true := by simp [hw.reachable]
  rw [World.connect, if_neg hopen]
  exact call_of_quiet (hw.quiet db.store)

end Healthy

/-- What the databases hold. -/
def held (w : World) (s : StoreName) : Memory := (w.store s).memory

/-- What a request leaves of a world in which a switch can start. -/
structure Leaves (q : Query) (w w' : World) : Prop where
  reachable : w'.unreachable = w.unreachable
  launches : w'.launchFail = w.launchFail
  quiet : ∀ s, (w'.store s).Quiet
  outputs : ∀ line, ScriptedRunner.outputs line w'.runner.rules ⊆
    ScriptedRunner.outputs line w.runner.rules
  /-- A database that is not written to keeps what it holds. -/
  held : ∀ s, q.writesTo s = false → w'.held s = w.held s
  /-- Just the connections are counted. -/
  connects : w'.connects = w.connects + if q.isConnect then 1 else 0

theorem Leaves.healthy (h : Leaves q w w') (hw : w.Healthy spec) : w'.Healthy spec where
  reachable := h.reachable.trans hw.reachable
  launches := h.launches.trans hw.launches
  quiet := h.quiet
  succeeds line output ho := hw.succeeds line output (h.outputs line ho)
  process output ho := hw.process output (h.outputs _ ho)
  supervisor output ho := hw.supervisor output (h.outputs _ ho)

namespace Healthy

variable (hw : w.Healthy spec)

include hw

theorem leaves_of_stores (hs : w'.stores = w.stores) (hreach : w'.unreachable = w.unreachable)
    (hlaunch : w'.launchFail = w.launchFail) (hconnects : w'.connects = w.connects)
    (hq : q.isConnect = false) (houtputs : ∀ line, ScriptedRunner.outputs line w'.runner.rules ⊆
      ScriptedRunner.outputs line w.runner.rules) : Leaves q w w' := by
  have store (s : StoreName) : w'.store s = w.store s := by rw [World.store, hs, World.store]
  exact ⟨hreach, hlaunch, fun s => store s ▸ hw.quiet s, houtputs,
    fun s _ => congrArg StoreBench.memory (store s), by simp [hconnects, hq]⟩

theorem leaves_setStore {n : Nat} (hb : b.Quiet)
    (hm : q.writesTo s = false → b.memory = w.held s) (hn : n = if q.isConnect then 1 else 0) :
    Leaves q w ({ w with connects := w.connects + n }.setStore s b) where
  reachable := rfl
  launches := rfl
  quiet s' := by
    by_cases h : s' = s
    · subst h
      rwa [store_setStore]
    · rw [store_setStore_of_ne h]
      exact hw.quiet s'
  outputs _ := List.Subset.refl _
  held s' hq := by
    by_cases h : s' = s
    · subst h
      rw [World.held, store_setStore, hm hq]
    · rw [World.held, store_setStore_of_ne h]
      rfl
  connects := congrArg (w.connects + ·) hn

theorem leaves_answer (q : Query) : Leaves q w (answer q w).2 := by
  have hquiet {s : StoreName} := hw.quiet s
  have read {s : StoreName} := hquiet (s := s).beforeRead_eq
  have refl (line : String) : ScriptedRunner.outputs line w.runner.rules ⊆
      ScriptedRunner.outputs line w.runner.rules := List.Subset.refl _
  cases q with
  | run c =>
    rw [hw.answer_run]
    exact hw.leaves_of_stores rfl rfl rfl rfl rfl fun _ => ScriptedRunner.outputs_answer_subset
  | connect db =>
    rw [answer, hw.connect]
    exact hw.leaves_setStore hquiet (fun _ => rfl) rfl
  | keys db pattern | fetch db key =>
    rw [answer, call_of_quiet hquiet.beforeRead]
    exact hw.leaves_setStore (n := 0) hquiet.beforeRead (fun _ => by rw [read]; rfl) rfl
  | merge db | dropFields db | dropKey db =>
    rw [answer, call_of_quiet hquiet]
    exact hw.leaves_setStore (n := 0) hquiet (fun h => by simp [Query.writesTo] at h) rfl
  | spawn c =>
    rw [answer, hw.launchFault? c]
    exact hw.leaves_of_stores rfl rfl rfl rfl rfl refl
  | kill pid =>
    rw [answer]
    split <;> exact hw.leaves_of_stores rfl rfl rfl rfl rfl refl
  | writeFile path text =>
    rw [answer, World.writeFile]
    split <;> exact hw.leaves_of_stores rfl rfl rfl rfl rfl refl
  | subscribe db pattern =>
    rw [answer, World.subscribe]
    split <;> exact hw.leaves_of_stores rfl rfl rfl rfl rfl refl
  | now | pause | pathExists | readFile | makeDirectory =>
    exact hw.leaves_of_stores rfl rfl rfl rfl rfl refl

end Healthy

end World

/-! ## Answers that let a switch start -/

/-- Nothing is written to a database that is not the configuration. -/
def Query.WritesConfigOnly (q : Query) : Prop := ∀ s, s ≠ .config → q.writesTo s = false

namespace Exchange

/-- The supervisor shows nothing to wait for. -/
def showsAllGood : Exchange Host → Bool
  | ⟨.run _, .ok output⟩ => (Supervisor.pending (Supervisor.statuses output.stdout)).isEmpty
  | _ => false

/-- A database was to be connected to, or written to, and was not. -/
def turnsDown : Exchange Host → Bool
  | ⟨.connect _, .error _⟩ | ⟨.merge _ _ _, .error _⟩ => true
  | _ => false

/-- A database that is not the configuration answers from what it holds. -/
def ReadsFrom (memories : StoreName → Memory) (x : Exchange Host) : Prop :=
  ∀ db, x.request.served? = some db → db.store ≠ .config →
    x.reply = ((memories db.store).respond x.request).1

/-- What the start of a switch needs of an answer. -/
structure Helps (spec : DeviceSpec) (memories : StoreName → Memory) (x : Exchange Host) : Prop where
  succeeds : x.fails = false
  process : x.request = .run (Container.processCommand spec.holderName) →
    x.findsProcess spec.holderName = true
  supervisor : x.request = .run (World.statusCommand spec.name) → x.showsAllGood = true
  accepts : x.turnsDown = false
  reads : x.ReadsFrom memories

end Exchange

namespace World

variable {w w' : World} {t : Trace Host} {q : Query} {spec : DeviceSpec}
  {memories memories' : StoreName → Memory}

theorem helps_clock {d : Duration} : Exchange.Helps spec memories ⟨.now, d⟩ :=
  ⟨rfl, nofun, nofun, rfl, nofun⟩

theorem Healthy.ran (hw : w.Healthy spec) {c : Command} : ∃ output : Output,
    (answer (.run c) w).1 = .ok output ∧
      output ∈ ScriptedRunner.outputs c.render w.runner.rules := by
  rw [hw.answer_run]
  exact ⟨_, rfl, ScriptedRunner.answer_mem_outputs⟩

theorem Healthy.helps (hw : w.Healthy spec) (q : Query) :
    Exchange.Helps spec w.held ⟨q, (answer q w).1⟩ where
  succeeds := by
    cases q with
    | run c =>
      obtain ⟨output, hr, hmem⟩ := hw.ran (c := c)
      rw [hr, Exchange.fails, hw.succeeds _ output hmem]
      rfl
    | _ => rfl
  process hq := by
    obtain rfl : q = _ := hq
    obtain ⟨output, hr, hmem⟩ := hw.ran (c := Container.processCommand spec.holderName)
    rw [hr, Exchange.findsProcess, hw.succeeds _ output hmem, hw.process output hmem]
    simp
  supervisor hq := by
    obtain rfl : q = _ := hq
    obtain ⟨output, hr, hmem⟩ := hw.ran (c := statusCommand spec.name)
    rw [hr, Exchange.showsAllGood, hw.supervisor output hmem]
    rfl
  accepts := by
    cases q with
    | connect db =>
      rw [answer, hw.connect]
      rfl
    | merge db key fields =>
      rw [answer, call_of_quiet (hw.quiet db.store)]
      rfl
    | _ => rfl
  reads db hdb _ := (answer_of_quiet hdb (hw.quiet db.store)).1

theorem helps_congr {x : Exchange Host} (h : ∀ s, s ≠ .config → memories' s = memories s)
    (hx : x.Helps spec memories) : x.Helps spec memories' where
  succeeds := hx.succeeds
  process := hx.process
  supervisor := hx.supervisor
  accepts := hx.accepts
  reads db hdb hne := by
    rw [h _ hne]
    exact hx.reads db hdb hne

/-- In a world in which a switch can start, all answers help it, as long as nothing but the
configuration is written to; and the world stays so. -/
theorem Answers.helps (h : w.Answers t w') (hw : w.Healthy spec)
    (ht : ∀ x ∈ t, x.request.WritesConfigOnly) :
    w'.Healthy spec ∧ (∀ s, s ≠ .config → w'.held s = w.held s) ∧
      w'.connects = w.connects + t.countP (·.request.isConnect) ∧
      ∀ x ∈ t, x.Helps spec w.held := by
  induction h with
  | nil w => exact ⟨hw, fun _ _ => rfl, rfl, by simp⟩
  | clock h ih =>
    obtain ⟨_, ht⟩ := List.forall_mem_cons.mp ht
    obtain ⟨hw', hheld, hconnects, hhelps⟩ := ih hw ht
    exact ⟨hw', hheld, hconnects, List.forall_mem_cons.mpr ⟨helps_clock, hhelps⟩⟩
  | @step w w' t q h ih =>
    obtain ⟨hq, ht⟩ := List.forall_mem_cons.mp ht
    have leaves := hw.leaves_answer q
    have same (s : StoreName) (hs : s ≠ .config) : (answer q w).2.held s = w.held s :=
      leaves.held s (hq s hs)
    obtain ⟨hw', hheld, hconnects, hhelps⟩ := ih (leaves.healthy hw) ht
    refine ⟨hw', fun s hs => (hheld s hs).trans (same s hs), ?_, ?_⟩
    · rw [hconnects, leaves.connects, List.countP_cons, Nat.add_assoc]
      exact congrArg (w.connects + ·) (Nat.add_comm _ _)
    · exact List.forall_mem_cons.mpr ⟨hw.helps q, fun x hx =>
        helps_congr (fun s hs => (same s hs).symm) (hhelps x hx)⟩

end World

end SwitchLab
