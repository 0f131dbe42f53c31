import SwitchLab.Container
import SwitchLab.Net.Namespace
import SwitchLab.Proofs.Runs

/-! Work that is one command. Its run is the command with some answer, and the
answer decides what becomes of it. -/

namespace SwitchLab

variable {α β : Type} {l l' : Ledger} {t : Trace Host}

namespace Command

/-- A command is run, with this answer. -/
def ran (c : Command) (reply : Except Fault Output) : Exchange Host := ⟨.run c, reply⟩

theorem ran_inj {c c' : Command} {reply reply' : Except Fault Output} :
    c.ran reply = c'.ran reply' ↔ c = c' ∧ reply = reply' := by
  constructor
  · intro h
    cases h
    exact ⟨rfl, rfl⟩
  · rintro ⟨rfl, rfl⟩
    rfl

/-- A command is run and ends with success. -/
def Done (c : Command) (x : Exchange Host) : Prop :=
  ∃ output : Output, x = c.ran (.ok output) ∧ output.success = true

end Command

/-- A command that succeeds and prints nothing. -/
def silently (program : String) (args : List String) : Exchange Host :=
  Command.ran ⟨program, args⟩ (.ok .silent)

/-- What a command that has to succeed makes of an answer; a fault shows it as `line`. -/
def checked (line : String) (reply : Except Fault Output) : Except Fault Output :=
  reply.bind (·.orFault line)

theorem checked_eq_ok_iff {line : String} {reply : Except Fault Output} {output : Output} :
    checked line reply = .ok output ↔ reply = .ok output ∧ output.success = true := by
  cases reply with
  | error e => simp [checked, Except.bind]
  | ok o =>
    simp only [checked, Except.bind, Output.orFault]
    split
    case isTrue h =>
      simp only [Except.ok.injEq]
      exact ⟨fun ho => ⟨ho, ho ▸ h⟩, And.left⟩
    case isFalse h =>
      simp only [reduceCtorEq, Except.ok.injEq, false_iff, not_and]
      exact fun ho => ho ▸ h

/-- A failure passes for success if it is allowed. -/
def forgiven (allows : Fault → Bool) : Except Fault α → Except Fault Unit
  | .ok _ => .ok ()
  | .error fault => if allows fault then .ok () else .error fault

theorem forgiven_eq_ok_iff {allows : Fault → Bool} {x : Except Fault α} :
    forgiven allows x = .ok () ↔ ∀ fault, x = .error fault → allows fault = true := by
  cases x with
  | ok a => simp [forgiven]
  | error fault => simp [forgiven]

theorem forgiven_eq_error_iff {allows : Fault → Bool} {x : Except Fault α} {fault : Fault} :
    forgiven allows x = .error fault ↔ x = .error fault ∧ allows fault = false := by
  cases x with
  | ok a => simp [forgiven]
  | error e =>
    show (if allows e then Except.ok () else .error e) = .error fault ↔ _
    cases hallows : allows e with
    | false =>
      simp only [Bool.false_eq_true, if_false, Except.error.injEq, iff_self_and]
      rintro rfl
      exact hallows
    | true =>
      simp only [if_true, reduceCtorEq, Except.error.injEq, false_iff, not_and]
      rintro rfl
      simp [hallows]

/-! ## One command -/

namespace Attempt

/-- The work runs the command and nothing else. -/
def Calls (work : Attempt α) (c : Command) (judge : Except Fault Output → Except Fault α) : Prop :=
  ∀ l t r l', Runs work l t r l' ↔ ∃ reply, t = [c.ran reply] ∧ l' = l ∧ r = judge reply

namespace Calls

variable {work : Attempt α} {c : Command} {judge : Except Fault Output → Except Fault α}

/-- What is made of the result asks for nothing. -/
theorem bind (h : work.Calls c judge) (f : α → Except Fault β) :
    Calls (work >>= fun a => ExceptT.mk (pure (f a))) c fun reply => (judge reply).bind f := by
  intro l t r l'
  rw [runs_bind_iff]
  constructor
  · rintro (⟨u, v, a, l₁, rfl, hu, hv⟩ | ⟨e, rfl, hu⟩)
    · obtain ⟨reply, rfl, rfl, ha⟩ := (h _ _ _ _).mp hu
      obtain ⟨rfl, rfl, rfl⟩ := Lab.runs_pure_iff.mp hv
      exact ⟨reply, by simp, rfl, congrArg (·.bind f) ha⟩
    · obtain ⟨reply, rfl, rfl, ha⟩ := (h _ _ _ _).mp hu
      exact ⟨reply, rfl, rfl, congrArg (·.bind f) ha⟩
  · rintro ⟨reply, rfl, rfl, rfl⟩
    cases hj : judge reply with
    | ok a =>
      exact .inl ⟨_, [], a, l', by simp, (h _ _ _ _).mpr ⟨reply, rfl, rfl, hj.symm⟩,
        Lab.runs_pure_iff.mpr ⟨rfl, congrArg (·.bind f) hj, rfl⟩⟩
    | error e =>
      exact .inr ⟨e, congrArg (·.bind f) hj, (h _ _ _ _).mpr ⟨reply, rfl, rfl, hj.symm⟩⟩

theorem discard (h : work.Calls c judge) :
    Calls (do let _ ← work) c fun reply => (judge reply).map fun _ => () := by
  have hb := h.bind fun _ => .ok ()
  intro l t r l'
  refine (hb l t r l').trans (exists_congr fun reply => ?_)
  cases judge reply <;> rfl

theorem result (h : work.Calls c judge) : work.result.Calls c fun reply => .ok (judge reply) := by
  intro l t r l'
  rw [runs_result_iff]
  constructor
  · rintro ⟨x, rfl, hx⟩
    obtain ⟨reply, ht, hl, rfl⟩ := (h _ _ _ _).mp hx
    exact ⟨reply, ht, hl, rfl⟩
  · rintro ⟨reply, ht, hl, rfl⟩
    exact ⟨_, rfl, (h _ _ _ _).mpr ⟨reply, ht, hl, rfl⟩⟩

theorem forgive (h : work.Calls c judge) (allows : Fault → Bool) :
    Calls (work.result >>= fun r => ExceptT.mk (pure (forgiven allows r))) c fun reply =>
      forgiven allows (judge reply) := h.result.bind _

/-- The command is answered well, and the rest goes on with what is made of the answer. -/
theorem runs_bind_answered_iff {f : α → Attempt β} {reply : Except Fault Output} {a : α}
    {r : Except Fault β} (h : work.Calls c judge) (hj : judge reply = .ok a) :
    Runs (work >>= f) l (c.ran reply :: t) r l' ↔ Runs (f a) l t r l' := by
  rw [runs_bind_iff]
  constructor
  · rintro (⟨u, v, b, l₁, ht, hu, hv⟩ | ⟨e, rfl, hu⟩)
    · obtain ⟨other, rfl, rfl, hb⟩ := (h _ _ _ _).mp hu
      obtain ⟨hfirst, rfl⟩ := List.cons.inj ht
      obtain ⟨-, rfl⟩ := Command.ran_inj.mp hfirst
      obtain rfl := Except.ok.inj (hb.trans hj)
      exact hv
    · obtain ⟨other, ht, -, he⟩ := (h _ _ _ _).mp hu
      obtain ⟨-, rfl⟩ := Command.ran_inj.mp (List.cons.inj ht).1
      cases he.trans hj
  · intro hv
    exact .inl ⟨[c.ran reply], t, a, l, rfl, (h _ _ _ _).mpr ⟨reply, rfl, rfl, hj.symm⟩, hv⟩

end Calls

end Attempt

/-! ## Commands of a bench -/

open Attempt

theorem allowMissing_eq {work : Attempt α} : allowMissing work =
    work.result >>= fun r => ExceptT.mk (pure (forgiven Fault.isMissing r)) := by
  refine bind_congr fun r => ?_
  cases r with
  | ok a => rfl
  | error fault =>
    dsimp only [forgiven]
    split <;> rfl

theorem Container.remove_eq {name : String} : remove name =
    (docker ["rm", "-f", name]).result >>= fun r => ExceptT.mk (pure (forgiven isGone r)) := by
  refine bind_congr fun r => ?_
  cases r with
  | ok a => rfl
  | error fault =>
    dsimp only [forgiven]
    split <;> rfl

theorem calls_run {c : Command} : Calls (Host.run c) c id := by
  intro l t r l'
  refine (Lab.runs_ask_iff (q := .run c)).trans ?_
  constructor
  · rintro ⟨ht, hl⟩
    exact ⟨r, ht, hl, rfl⟩
  · rintro ⟨reply, ht, hl, rfl⟩
    exact ⟨ht, hl⟩

theorem calls_check {c : Command} : Calls (Host.check c) c (checked c.render) :=
  calls_run.bind _

namespace NetScope

variable {s : NetScope} {link : String}

theorem calls_exec {c : Command} : Calls (s.exec c) (s.enter c) id := calls_run

/-- How a fault shows a command that was run in the scope. -/
def shownLine (s : NetScope) (c : Command) : String := s!"[{s.text}] {c.render}"

theorem calls_check {c : Command} : Calls (s.check c) (s.enter c) (checked (s.shownLine c)) :=
  calls_exec.bind _

theorem calls_ip {args : List String} :
    Calls (s.ip args) (s.enter ⟨"ip", args⟩) (checked (s.shownLine ⟨"ip", args⟩)) := calls_check

theorem calls_run {args : List String} : Calls (s.run args) (s.enter ⟨"ip", args⟩) fun reply =>
    (checked (s.shownLine ⟨"ip", args⟩) reply).map fun _ => () := calls_ip.discard

theorem runs_run_ok {args : List String} (hr : Attempt.Runs (s.run args) l t (.ok ()) l') :
    ∃ x, t = [x] ∧ (s.enter ⟨"ip", args⟩).Done x := by
  obtain ⟨reply, rfl, -, hreply⟩ := (calls_run _ _ _ _).mp hr
  cases hc : checked (s.shownLine ⟨"ip", args⟩) reply with
  | error e => simp [hc, Except.map] at hreply
  | ok output =>
    obtain ⟨rfl, hsuccess⟩ := checked_eq_ok_iff.mp hc
    exact ⟨_, rfl, output, rfl, hsuccess⟩

theorem calls_deleteLink : Calls (s.deleteLink link) (s.enter ⟨"ip", ["link", "del", link]⟩)
    fun reply => forgiven Fault.isMissing
      (checked (s.shownLine ⟨"ip", ["link", "del", link]⟩) reply) := by
  rw [deleteLink, allowMissing_eq]
  exact calls_ip.forgive _

end NetScope

theorem Namespace.calls_delete {ns : Namespace} :
    Calls ns.delete ⟨"ip", ["netns", "del", ns.name]⟩ fun reply => forgiven Fault.isMissing
      (checked (Command.render ⟨"ip", ["netns", "del", ns.name]⟩) reply) := by
  rw [delete, allowMissing_eq]
  exact SwitchLab.calls_check.forgive _

namespace Container

theorem calls_docker {args : List String} :
    Calls (docker args) ⟨"docker", args⟩ (checked (Command.render ⟨"docker", args⟩)) := calls_check

theorem calls_remove {name : String} :
    Calls (remove name) ⟨"docker", ["rm", "-f", name]⟩ fun reply => forgiven isGone
      (checked (Command.render ⟨"docker", ["rm", "-f", name]⟩) reply) := by
  rw [remove_eq]
  exact calls_docker.forgive _

theorem calls_logs {name : String} :
    Calls (logs name) ⟨"docker", ["logs", name]⟩ fun reply =>
      (checked (Command.render ⟨"docker", ["logs", name]⟩) reply).bind fun output =>
        .ok output.combined := calls_docker.bind _

end Container

end SwitchLab
