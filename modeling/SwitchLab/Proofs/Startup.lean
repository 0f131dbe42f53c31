import SwitchLab.Proofs.Containers
import SwitchLab.Proofs.Surroundings

/-! A switch of its own is made as long as the answers help. Then nothing that is noted of the
databases changes, none of them is called, and nothing is run in a container. -/

namespace SwitchLab

variable {α β σ : Type} {P : Query → Prop} {G : Exchange Host → Prop}

namespace Lab.KeepsLedger

theorem forIn {τ : Type} {items : List τ} {f : τ → β → Lab (ForInStep β)} {b : β}
    (hf : ∀ a b, KeepsLedger (f a b)) : KeepsLedger (ForIn.forIn items b f) := by
  induction items generalizing b with
  | nil => exact .pure
  | cons a items ih =>
    rw [List.forIn_cons]
    refine (hf a b).bind fun r => ?_
    cases r with
    | done b => exact .pure
    | yield b => exact ih

theorem stateBind {work : StateT σ Lab α} {f : α → StateT σ Lab β}
    (hw : ∀ s, KeepsLedger (work.run s)) (hf : ∀ a s, KeepsLedger ((f a).run s)) (s : σ) :
    KeepsLedger ((work >>= f).run s) := by
  rw [StateT.run_bind]
  exact (hw s).bind fun x => hf x.1 x.2

theorem stateLift {work : Lab α} (hw : KeepsLedger work) (s : σ) :
    KeepsLedger ((liftM work : StateT σ Lab α).run s) := by
  show KeepsLedger (work >>= fun a => Pure.pure (a, s))
  exact hw.bind fun _ => pure

theorem stateForIn {τ : Type} {items : List τ} {f : τ → β → StateT σ Lab (ForInStep β)} {b : β}
    (hf : ∀ a b s, KeepsLedger ((f a b).run s)) (s : σ) :
    KeepsLedger ((ForIn.forIn items b f).run s) := by
  induction items generalizing b s with
  | nil => exact .pure
  | cons a items ih =>
    rw [List.forIn_cons]
    refine stateBind (hf a b) (fun r s => ?_) s
    cases r with
    | done b => exact .pure
    | yield b => exact ih s

end Lab.KeepsLedger

/-! ## Work that succeeds where the answers are good -/

namespace Lab

/-- The ledger is kept, every request satisfies `P`, and if every exchange satisfies `G`, the result
satisfies `Q`. -/
def Meets (P : Query → Prop) (G : Exchange Host → Prop) (Q : α → Prop) (work : Lab α) : Prop :=
  ∀ l t a l', Runs work l t a l' → l' = l ∧ (∀ x ∈ t, P x.request) ∧ ((∀ x ∈ t, G x) → Q a)

namespace Meets

variable {Q Q' : α → Prop} {R : β → Prop} {work : Lab α} {f : α → Lab β}

theorem pure {a : α} (h : Q a) : Meets P G Q (pure a : Lab α) := by
  intro l t b l' hr
  obtain ⟨rfl, rfl, rfl⟩ := runs_pure_iff.mp hr
  exact ⟨rfl, List.forall_mem_nil _, fun _ => h⟩

/-- What the first step leads to may be used for the second only where the answers are good. -/
theorem bind (hw : Meets P G Q work) (hf : ∀ a, Meets P G (fun b => Q a → R b) (f a)) :
    Meets P G R (work >>= f) := by
  intro l t b l' hr
  obtain ⟨u, v, a, l₁, rfl, hu, hv⟩ := runs_bind_iff.mp hr
  obtain ⟨rfl, asked, good⟩ := hw _ _ _ _ hu
  obtain ⟨rfl, asked', good'⟩ := hf a _ _ _ _ hv
  refine ⟨rfl, List.forall_mem_append.mpr ⟨asked, asked'⟩, fun ht => ?_⟩
  obtain ⟨hu, hv⟩ := List.forall_mem_append.mp ht
  exact good' hv (good hu)

theorem weaken (hw : Meets P G Q work) (h : ∀ a, Q a → Q' a) : Meets P G Q' work :=
  fun l t a l' hr => (hw l t a l' hr).imp_right (And.imp_right fun good ht => h a (good ht))

theorem map {f : α → β} (hw : Meets P G (fun a => R (f a)) work) : Meets P G R (f <$> work) := by
  rw [← bind_pure_comp]
  exact hw.bind fun _ => .pure id

/-- After work that succeeds where the answers are good, what is done about a failure need not lead
to anything. -/
theorem bindCases {work : Lab (Except Fault α)} {f : Except Fault α → Lab β}
    (hw : Meets P G (fun r => ∃ a, r = .ok a) work) (hok : ∀ a, Meets P G R (f (.ok a)))
    (herror : ∀ e, Meets P G (fun _ => True) (f (.error e))) : Meets P G R (work >>= f) := by
  refine hw.bind fun r => ?_
  cases r with
  | ok a => exact (hok a).weaken fun _ h _ => h
  | error e => exact (herror e).weaken fun _ _ ⟨_, h⟩ => nomatch h

/-- What is done before a failure is passed on. -/
theorem thenThrow {e : Fault} (hw : Meets P G Q work) :
    Meets P G (fun _ => True) (do let _ ← work; throw e : Attempt β).run := by
  show Meets P G _ ((Except.ok <$> work : Lab (Except Fault α)) >>=
    ExceptT.bindCont fun _ => throw e)
  rw [bind_map_left]
  exact hw.bind fun _ => .pure fun _ => trivial

theorem of_keeps (hl : KeepsLedger work) (ha : Asks P work) : Meets P G (fun _ => True) work :=
  fun l t a l' hr => ⟨hl l t a l' hr, (ha.of_runs hr).1, fun _ => trivial⟩

end Meets

end Lab

namespace Attempt

/-- As `Lab.Meets`; where the answers are good, there is no failure. -/
def Succeeds (P : Query → Prop) (G : Exchange Host → Prop) (work : Attempt α) : Prop :=
  Lab.Meets P G (fun r => ∃ a, r = .ok a) work.run

namespace Succeeds

variable {work : Attempt α} {f : α → Attempt β}

theorem pure {a : α} : Succeeds P G (pure a : Attempt α) := Lab.Meets.pure ⟨a, rfl⟩

theorem bind (hw : Succeeds P G work) (hf : ∀ a, Succeeds P G (f a)) :
    Succeeds P G (work >>= f) := by
  show Lab.Meets P G _ (work.run >>= ExceptT.bindCont f)
  exact Lab.Meets.bindCases hw hf fun e => .pure trivial

theorem lift {work : Lab α} {Q : α → Prop} (hw : Lab.Meets P G Q work) :
    Succeeds P G (liftM work : Attempt α) :=
  Lab.Meets.map (hw.weaken fun a _ => ⟨a, rfl⟩)

theorem result (hw : Succeeds P G work) : Succeeds P G work.result :=
  Lab.Meets.map (hw.weaken fun x _ => ⟨x, rfl⟩)

/-- What is done about a failure need not succeed. -/
theorem bind_result {f : Except Fault α → Attempt β} (hw : Succeeds P G work)
    (hok : ∀ a, Succeeds P G (f (.ok a)))
    (herror : ∀ e, Lab.Meets P G (fun _ => True) (f (.error e)).run) :
    Succeeds P G (work.result >>= f) := by
  show Lab.Meets P G _ ((Except.ok <$> work.run : Lab _) >>= ExceptT.bindCont f)
  rw [bind_map_left]
  exact Lab.Meets.bindCases hw hok herror

theorem of_calls {c : Command} {judge : Except Fault Output → Except Fault α} (line : String)
    (h : work.Calls c judge) (hc : P (.run c)) (hG : ∀ x, G x → x.fails = false)
    (hj : ∀ reply output, checked line reply = .ok output → ∃ a, judge reply = .ok a) :
    Succeeds P G work := by
  intro l t r l' hr
  obtain ⟨reply, rfl, rfl, rfl⟩ := (h _ _ _ _).mp hr
  refine ⟨rfl, List.forall_mem_singleton.mpr hc, fun ht => ?_⟩
  obtain ⟨output, houtput⟩ := Command.checked_of_ran line (hG _ (List.forall_mem_singleton.mp ht))
  exact hj reply output houtput

end Succeeds

end Attempt

namespace On

variable {s : σ}

/-- The same for work on the object `s`. -/
def Succeeds (P : Query → Prop) (G : Exchange Host → Prop) (s : σ) (work : On σ α) : Prop :=
  Lab.Meets P G (fun x => ∃ a, x.1 = .ok a) (work.perform s)

namespace Succeeds

theorem pure {a : α} : Succeeds P G s (pure a : On σ α) := Lab.Meets.pure ⟨a, rfl⟩

theorem bind {work : On σ α} {f : α → On σ β} (hw : Succeeds P G s work)
    (hf : ∀ a s', Succeeds P G s' (f a)) : Succeeds P G s (work >>= f) := by
  show Lab.Meets P G _ (work.perform s >>= fun x => ExceptT.bindCont f x.1 x.2)
  refine Lab.Meets.bind hw fun ⟨r, s'⟩ => ?_
  cases r with
  | ok a => exact (hf a s').weaken fun _ h _ => h
  | error e => exact Lab.Meets.pure fun ⟨_, h⟩ => nomatch h

theorem lift {work : Attempt α} (hw : work.Succeeds P G) :
    Succeeds P G s (liftM work : On σ α) := by
  show Lab.Meets P G _ (work.run >>= fun x => Pure.pure (x, s))
  exact Lab.Meets.bind hw fun _ => .pure id

theorem bind_lift {work : Attempt α} {f : α → On σ β} (hw : work.Succeeds P G)
    (hf : ∀ a, Succeeds P G s (f a)) : Succeeds P G s ((liftM work : On σ α) >>= f) := by
  show Lab.Meets P G _ ((work.run >>= fun x => Pure.pure (x, s)) >>=
    fun x => ExceptT.bindCont f x.1 x.2)
  rw [bind_assoc]
  exact Lab.Meets.bindCases hw hf fun e => .pure trivial

theorem bind_modify {g : σ → σ} {f : PUnit → On σ β} (hf : Succeeds P G (g s) (f ⟨⟩)) :
    Succeeds P G s (modify g >>= f) := hf

theorem bind_get {f : σ → On σ β} (hf : Succeeds P G s (f s)) :
    Succeeds P G s (get >>= f) := hf

end Succeeds

end On

/-! ## The requests of the making -/

/-- Neither is a database called, nor something run in a container. -/
def Query.prepares : Query → Bool
  | run c => !(c.program = "docker" && c.args.head? = some "exec")
  | q => !q.isStoreCall

theorem Query.IsKilling.prepares {q : Query} (h : q.IsKilling) : q.prepares = true := by
  cases h <;> rfl

theorem NetScope.prepares_enter {s : NetScope} {c : Command}
    (h : (Query.run c).prepares = true) : (Query.run (s.enter c)).prepares = true := by
  cases s with
  | host => exact h
  | named | ofPid => rfl

/-- The work can be done while a switch is made, and succeeds where the answers help. -/
abbrev Attempt.Prepares (spec : DeviceSpec) (memories : StoreName → Memory) (work : Attempt α) :
    Prop :=
  work.Succeeds (fun q => q.prepares = true) (Exchange.Helps spec memories)

open Attempt (Prepares)

variable {spec : DeviceSpec} {memories : StoreName → Memory}

namespace Attempt.Prepares

theorem of_calls {work : Attempt α} {c : Command} {judge : Except Fault Output → Except Fault α}
    (line : String) (h : work.Calls c judge) (hc : (Query.run c).prepares = true)
    (hj : ∀ reply output, checked line reply = .ok output → ∃ a, judge reply = .ok a) :
    Prepares spec memories work :=
  Succeeds.of_calls line h hc (fun _ hx => hx.succeeds) hj

theorem check {c : Command} (hc : (Query.run c).prepares = true) :
    Prepares spec memories (Host.check c) :=
  of_calls _ calls_check hc fun _ output h => ⟨output, h⟩

end Attempt.Prepares

namespace NetScope

variable {s : NetScope} {args : List String} {link : String}

theorem prepares_check {c : Command} (hc : (Query.run c).prepares = true) :
    Prepares spec memories (s.check c) :=
  .of_calls _ calls_check (prepares_enter hc) fun _ output h => ⟨output, h⟩

theorem prepares_run : Prepares spec memories (s.run args) :=
  (prepares_check rfl).bind fun _ => .pure

theorem prepares_deleteLink : Prepares spec memories (s.deleteLink link) :=
  .of_calls _ calls_deleteLink (prepares_enter rfl) fun _ _ h => ⟨(), by rw [h]; rfl⟩

theorem prepares_setIpv6 {on : Bool} : Prepares spec memories (s.setIpv6 link on) :=
  (prepares_check rfl).bind fun _ => .pure

end NetScope

namespace Namespace

variable {ns : Namespace}

theorem prepares_delete : Prepares spec memories ns.delete :=
  .of_calls _ calls_delete rfl fun _ _ h => ⟨(), by rw [h]; rfl⟩

theorem prepares_create {name : String} : Prepares spec memories (create name) := by
  have up : Prepares spec memories
      ((⟨name⟩ : Namespace).exec ⟨"ip", ["link", "set", "lo", "up"]⟩) :=
    .of_calls "" NetScope.calls_exec rfl fun _ output h => ⟨output, (checked_eq_ok_iff.mp h).1⟩
  exact prepares_delete.bind fun _ => (Attempt.Prepares.check rfl).bind fun _ =>
    up.result.bind fun _ => .pure

end Namespace

/-! ## Servers -/

namespace VirtualServer

variable {s : VirtualServer} {pid index : Nat}

theorem keepsLedger_killListed {ns : Namespace} : Lab.KeepsLedger (killListed ns) := by
  have pids : Attempt.KeepsLedger ns.pids :=
    Attempt.KeepsLedger.bind Lab.KeepsLedger.ask fun output => by
      split <;> exact .pure
  refine Lab.KeepsLedger.bind pids fun r => Lab.KeepsLedger.bind ?_ fun _ => .pure
  exact .forIn fun pid _ => Lab.KeepsLedger.bind Lab.KeepsLedger.ask fun _ => .pure

theorem keepsLedger_killAll : Lab.KeepsLedger (killAll.run s) := by
  have started (s : VirtualServer) : Lab.KeepsLedger (killStarted.run s) := by
    refine .stateBind (fun _ => .pure) (fun _ => .stateBind (fun _ => .pure) fun _ => ?_) s
    refine .stateBind (.stateForIn fun pid _ => ?_) fun _ _ => .pure
    exact .stateBind (.stateLift Lab.KeepsLedger.ask) fun _ _ => .pure
  refine .stateBind started (fun _ => .stateBind (fun _ => .pure) fun _ => ?_) s
  exact .stateLift keepsLedger_killListed

theorem prepares_disableOffload {scope : NetScope} {link : String} :
    Prepares spec memories (disableOffload scope link) :=
  (NetScope.prepares_check rfl).result.bind fun _ => .pure

theorem prepares_wire : Prepares spec memories (s.wire pid) := by
  refine NetScope.prepares_deleteLink.bind fun _ => NetScope.prepares_deleteLink.bind fun _ => ?_
  refine NetScope.prepares_run.bind fun _ => NetScope.prepares_run.bind fun _ => ?_
  refine NetScope.prepares_run.bind fun _ => NetScope.prepares_run.bind fun _ => ?_
  refine NetScope.prepares_run.bind fun _ => NetScope.prepares_setIpv6.result.bind fun _ => ?_
  refine NetScope.prepares_run.bind fun _ => NetScope.prepares_run.bind fun _ => ?_
  exact prepares_disableOffload.bind fun _ => prepares_disableOffload

/-- What was made of a server is taken back, whatever the answers are. -/
theorem meets_unwire : Lab.Meets (fun q => q.prepares = true) (Exchange.Helps spec memories)
    (fun _ => True) (s.unwire pid) := by
  refine Lab.Meets.bind NetScope.prepares_deleteLink fun _ => ?_
  refine Lab.Meets.bind Namespace.prepares_delete fun _ => ?_
  exact .pure fun _ _ => trivial

theorem prepares_create {netnsDir container : String} :
    Prepares spec memories (create netnsDir container pid index) := by
  have present : Lab.Meets (fun q => q.prepares = true) (Exchange.Helps spec memories)
      (fun _ => True) (Namespace.isPresent netnsDir (namespaceName container index)) :=
    .of_keeps .ask (Lab.asks_ask rfl)
  refine (Attempt.Succeeds.lift present).bind fun isPresent => ?_
  cases isPresent with
  | true =>
    have killing (s : VirtualServer) : Lab.Asks (fun q => q.prepares = true) (killAll.run s) :=
      (keeps_killAll (K := fun _ => True) (fun _ h => h) s trivial).mono
        (fun _ hq => hq.prepares) fun _ _ => trivial
    exact (Attempt.Succeeds.lift (.of_keeps keepsLedger_killAll (killing _))).bind fun _ => .pure
  | false =>
    exact Namespace.prepares_create.bind fun _ => prepares_wire.bind_result (fun _ => .pure)
      fun fault => meets_unwire.thenThrow

end VirtualServer

/-! ## Containers -/

namespace Container

theorem prepares_docker {args : List String} (h : args.head? ≠ some "exec") :
    Prepares spec memories (docker args) := by
  refine Attempt.Prepares.check ?_
  simp [Query.prepares, h]

theorem prepares_create {container : ContainerSpec} :
    Prepares spec memories (create container) := by
  refine (prepares_docker ?_).bind fun _ => .pure
  simp [ContainerSpec.createArgs]

theorem prepares_start {name : String} : Prepares spec memories (start name) :=
  (prepares_docker (by simp)).bind fun _ => .pure

/-- The container that holds the namespace has a process. -/
theorem prepares_pid : Prepares spec memories (pid spec.holderName) := by
  intro l t r l' hr
  obtain ⟨reply, rfl, rfl, rfl⟩ := (calls_pid _ _ _ _).mp hr
  refine ⟨rfl, List.forall_mem_singleton.mpr rfl, fun ht => ?_⟩
  exact exists_process_of_found ((List.forall_mem_singleton.mp ht).process rfl)

end Container

/-! ## The switch -/

namespace Device

theorem succeeds_createServers {d : Device} {pid index count : Nat} :
    On.Succeeds (fun q => q.prepares = true) (Exchange.Helps spec memories) d
      (createServers pid index count) := by
  induction count generalizing d index with
  | zero => exact .pure
  | succ count ih =>
    rw [createServers]
    exact .bind_get (.bind_lift VirtualServer.prepares_create fun _ => .bind_modify ih)

/-- The last steps: the container of the switch. -/
theorem succeeds_switchContainer {d : Device} :
    On.Succeeds (fun q => q.prepares = true) (Exchange.Helps spec memories) d (do
      let _ ← Container.create (switchSpec spec)
      if let some config := spec.defaultConfig then
        Container.copyIn config spec.name "/etc/sonic/config_db.json"
      Container.start spec.name : On Device Unit) := by
  refine .bind_lift Container.prepares_create fun _ => ?_
  cases spec.defaultConfig with
  | none => exact .lift Container.prepares_start
  | some config =>
    refine .bind_lift ((Container.prepares_docker (by simp)).bind fun _ => .pure) fun _ => ?_
    exact .lift Container.prepares_start

theorem succeeds_provision {d : Device} (hd : d.spec = spec) :
    On.Succeeds (fun q => q.prepares = true) (Exchange.Helps spec memories) d provision := by
  subst hd
  refine .bind_get (.bind_lift (Attempt.Prepares.check rfl) fun _ => .bind_modify ?_)
  refine .bind_lift (Container.prepares_create.bind fun _ => Container.prepares_start.bind fun _ =>
    .pure) fun _ => ?_
  refine .bind_lift Container.prepares_pid fun pid => .bind_modify ?_
  dsimp only
  split
  · exact .bind succeeds_createServers fun _ _ => succeeds_switchContainer
  · exact succeeds_switchContainer

/-- Where the answers help, a switch of its own is made. -/
theorem runs_create_prepared {l l' : Ledger} {t : Trace Host} {r : Except Fault Device}
    (hown : spec.attach = false) (hr : Attempt.Runs (create spec) l t r l')
    (ht : ∀ x ∈ t, x.Helps spec memories) : ∃ d, r = .ok d ∧ d.spec = spec ∧ d.state = .creating ∧
      l' = l ∧ ∀ x ∈ t, x.request.prepares = true := by
  have provides : On.Succeeds (fun q => q.prepares = true) (Exchange.Helps spec memories)
      { absent spec with state := .creating } provision := succeeds_provision rfl
  obtain ⟨x, d, hsetUp, rfl⟩ := runs_create hr
  have hwork := runs_setUp_iff.mp hsetUp
  rw [hown] at hwork
  rcases runs_orDestroy_cases hwork with ⟨⟨⟩, rfl, hrun⟩ | ⟨fault, u, v, _, _, rfl, rfl, hrun, -⟩
  · obtain ⟨rfl, asked, -⟩ := provides _ _ _ _ hrun
    have making := making_of_setUp hsetUp
    exact ⟨d, rfl, making.forSpec, making.state, rfl, asked⟩
  · obtain ⟨-, -, good⟩ := provides _ _ _ _ hrun
    obtain ⟨_, hx⟩ := good fun x hx => ht x (List.mem_append_left v hx)
    cases hx

end Device

end SwitchLab
