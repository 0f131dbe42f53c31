import Mathlib.Data.List.Induction
import SwitchLab.Bench.Runner
import SwitchLab.Proofs.Texts

/-! A scripted runner along a history of its use. What it answers next is told
from the history alone: the newest rule that is for the command answers, and
how many commands it answered so far says with which of its outputs. -/

namespace SwitchLab

/-! ## One rule -/

namespace Rule

variable {r : Rule} {line : String}

/-- The rule is for the command lines that have its needle in them. -/
def IsFor (r : Rule) (line : String) : Prop := r.needle.toList <:+: line.toList

theorem occursIn_needle_iff : Text.occursIn r.needle line = true ↔ r.IsFor line :=
  Text.occursInChars_iff

instance : Decidable (r.IsFor line) := decidable_of_iff _ occursIn_needle_iff

theorem needle_advance : r.advance.needle = r.needle := by
  rw [advance]
  split <;> rfl

theorem outputs_advance_eq_drop :
    r.advance.outputs = r.outputs.drop (min 1 (r.outputs.length - 1)) := by
  obtain ⟨needle, outputs⟩ := r
  match outputs with
  | [] | [_] => rfl
  | _ :: _ :: _ => simp [advance]

/-- The rule after it gave `k` outputs. -/
def after (r : Rule) : (k : Nat) → Rule
  | 0 => r
  | k + 1 => (r.after k).advance

theorem outputs_after (k : Nat) :
    (r.after k).outputs = r.outputs.drop (min k (r.outputs.length - 1)) := by
  induction k with
  | zero => simp [after]
  | succ k ih =>
    rw [after, outputs_advance_eq_drop, ih, List.drop_drop, List.length_drop]
    congr 1
    omega

/-- After `k` outputs the next is the one of number `k + 1`, or the last. -/
theorem output_after (k : Nat) (h : r.outputs ≠ []) :
    r.outputs[min (k + 1) r.outputs.length - 1]? = some (r.after k).output := by
  have hpos : 0 < r.outputs.length := List.length_pos_of_ne_nil h
  have hplace : min (k + 1) r.outputs.length - 1 = min k (r.outputs.length - 1) := by omega
  have hlt : min k (r.outputs.length - 1) < r.outputs.length := by omega
  rw [output, outputs_after, List.head?_drop, hplace, List.getElem?_eq_getElem hlt]
  rfl

/-! ## The newest rule for a line -/

variable {rule : Rule} {rules rules' : List Rule} {n : Nat}

/-- Of rules in the order of their registration, number `n` is for the line and no later one is.
The first rule has number 0. -/
def IsNewestFor (rules : List Rule) (line : String) (n : Nat) : Prop :=
  (∃ rule ∈ rules[n]?, rule.IsFor line) ∧ ∀ rule ∈ rules.drop (n + 1), ¬rule.IsFor line

instance : Decidable (IsNewestFor rules line n) := inferInstanceAs (Decidable (_ ∧ _))

theorem IsNewestFor.lt_length (h : IsNewestFor rules line n) : n < rules.length := by
  obtain ⟨⟨rule, hrule, -⟩, -⟩ := h
  exact (List.getElem?_eq_some_iff.mp hrule).1

/-- Just the needles count. -/
theorem isNewestFor_congr (h : rules.map needle = rules'.map needle) :
    IsNewestFor rules line n ↔ IsNewestFor rules' line n := by
  have told (rules : List Rule) : IsNewestFor rules line n ↔
      (∃ s ∈ (rules.map needle)[n]?, s.toList <:+: line.toList) ∧
        ∀ s ∈ (rules.map needle).drop (n + 1), ¬s.toList <:+: line.toList := by
    rw [IsNewestFor, List.getElem?_map, ← List.map_drop, List.forall_mem_map]
    simp [IsFor]
  rw [told, told, h]

theorem getElem?_concat_of_ne (h : n ≠ rules.length) : (rules ++ [rule])[n]? = rules[n]? := by
  rw [List.getElem?_append]
  split
  · rfl
  · rename_i hn
    have hlt : rules.length < n := by omega
    rw [List.getElem?_eq_none_iff.mpr hlt.le, List.getElem?_eq_none_iff]
    exact Nat.sub_pos_of_lt hlt

/-- A rule that is added takes the lines that it is for. -/
theorem isNewestFor_concat_iff : IsNewestFor (rules ++ [rule]) line n ↔
    if rule.IsFor line then n = rules.length else IsNewestFor rules line n := by
  rcases Nat.lt_trichotomy n rules.length with hn | rfl | hn
  · rw [IsNewestFor, List.getElem?_append_left hn, List.drop_append_of_le_length hn,
      List.forall_mem_append, IsNewestFor]
    split
    · rename_i hrule
      simp [hrule, hn.ne]
    · rename_i hrule
      simp [hrule]
  · have hnone : ¬IsNewestFor rules line rules.length := fun h => h.lt_length.false
    have hlast : IsNewestFor (rules ++ [rule]) line rules.length ↔ rule.IsFor line := by
      simp [IsNewestFor]
    by_cases hrule : rule.IsFor line
    · simp [hlast, hrule]
    · simp [hlast, hnone, hrule]
  · have hnone : ¬IsNewestFor rules line n := fun h => h.lt_length.not_gt hn
    have hnone' : ¬IsNewestFor (rules ++ [rule]) line n := by
      intro h
      have hlt := h.lt_length
      rw [List.length_append, List.length_singleton] at hlt
      omega
    simp [hnone, hnone', hn.ne']

end Rule

/-! ## One answer -/

namespace ScriptedRunner

open Rule

variable {r : ScriptedRunner} {c : Command} {line : String} {rule : Rule} {rules : List Rule}
  {n : Nat}

/-- Rule number `n` in the order of registration, with the outputs that are left to it. -/
def rule? (r : ScriptedRunner) (n : Nat) : Option Rule := r.rules.reverse[n]?

theorem needles_answer : (answer line rules).2.map needle = rules.map needle := by
  induction rules with
  | nil => rfl
  | cons rule rest ih =>
    rw [answer]
    split
    · rw [List.map_cons, needle_advance, List.map_cons]
    · exact congrArg (rule.needle :: ·) ih

theorem length_answer : (answer line rules).2.length = rules.length := by
  rw [← List.length_map needle, needles_answer, List.length_map]

theorem answer_eq_output (hn : IsNewestFor rules.reverse line n)
    (hrule : rules.reverse[n]? = some rule) : (answer line rules).1 = rule.output := by
  induction rules with
  | nil => cases hrule
  | cons newest rest ih =>
    rw [List.reverse_cons, isNewestFor_concat_iff] at hn
    rw [List.reverse_cons] at hrule
    rw [answer]
    simp only [occursIn_needle_iff]
    split
    · rename_i hfor
      rw [if_pos hfor] at hn
      subst hn
      rw [List.getElem?_concat_length] at hrule
      cases hrule
      rfl
    · rename_i hfor
      rw [if_neg hfor] at hn
      rw [List.getElem?_append_left hn.lt_length] at hrule
      exact ih hn hrule

theorem answer_eq_silent (h : ∀ rule ∈ rules, ¬rule.IsFor line) :
    answer line rules = (.silent, rules) := by
  induction rules with
  | nil => rfl
  | cons rule rest ih =>
    obtain ⟨hrule, hrest⟩ := List.forall_mem_cons.mp h
    rw [answer, if_neg (mt occursIn_needle_iff.mp hrule), ih hrest]

/-- The rule that answers goes on to its next output; all others stay as they are. -/
theorem rule?_answer : (answer line rules).2.reverse[n]? =
    if IsNewestFor rules.reverse line n then rules.reverse[n]?.map advance
    else rules.reverse[n]? := by
  induction rules with
  | nil => rw [answer, List.reverse_nil, List.getElem?_nil, Option.map_none, ite_self]
  | cons rule rest ih =>
    rw [answer]
    simp only [occursIn_needle_iff, List.reverse_cons, isNewestFor_concat_iff]
    split
    · rw [List.reverse_cons]
      by_cases hn : n = rest.reverse.length
      · subst hn
        simp
      · rw [if_neg hn, getElem?_concat_of_ne hn, getElem?_concat_of_ne hn]
    · have hlen : (answer line rest).2.reverse.length = rest.reverse.length := by
        rw [List.length_reverse, length_answer, List.length_reverse]
      rw [List.reverse_cons]
      by_cases hn : n = rest.reverse.length
      · have hnot : ¬IsNewestFor rest.reverse line n := fun h => h.lt_length.ne hn
        rw [if_neg hnot, hn, List.getElem?_concat_length, ← hlen, List.getElem?_concat_length]
      · rw [getElem?_concat_of_ne hn, getElem?_concat_of_ne (hlen ▸ hn), ih]

theorem run_eq_output (hn : IsNewestFor r.rules.reverse c.render n) (hrule : r.rule? n = some rule) :
    (r.run c).1 = rule.output :=
  answer_eq_output hn hrule

theorem run_eq_silent (h : ∀ rule ∈ r.rules, ¬rule.IsFor c.render) : (r.run c).1 = .silent :=
  congrArg Prod.fst (answer_eq_silent h)

theorem rule?_run : (r.run c).2.rule? n =
    if IsNewestFor r.rules.reverse c.render n then (r.rule? n).map advance else r.rule? n :=
  rule?_answer

end ScriptedRunner

/-! ## Histories -/

/-- What is done with a scripted runner. -/
inductive RunnerUse where
  | register (rule : Rule)
  | run (c : Command)
  | spawn (c : Command)
  | kill (pid : Nat)

namespace RunnerUse

def rule? : RunnerUse → Option Rule
  | register rule => some rule
  | run _ | spawn _ | kill _ => none

/-- The command that is run or started. -/
def command? : RunnerUse → Option Command
  | run c | spawn c => some c
  | register _ | kill _ => none

end RunnerUse

namespace ScriptedRunner

open Rule

def use (r : ScriptedRunner) : RunnerUse → ScriptedRunner
  | .register rule => r.on rule.needle rule.outputs
  | .run c => (r.run c).2
  | .spawn c => (r.spawn c).2
  | .kill pid => r.kill pid

/-- The runner after a history that starts with its making. -/
def after (history : List RunnerUse) : ScriptedRunner := history.foldl use new

/-- The rules of a history as they were registered. -/
def registered (history : List RunnerUse) : List Rule := history.filterMap RunnerUse.rule?

/-- At place `i` of the history a command is run, and rule number `n` is the newest for it of those
that were registered before. -/
def AnswersAt (history : List RunnerUse) (n i : Nat) : Prop :=
  ∃ c, history[i]? = some (.run c) ∧ IsNewestFor (registered (history.take i)) c.render n

instance (history : List RunnerUse) (n i : Nat) : Decidable (AnswersAt history n i) :=
  match h : history[i]? with
  | some (.run c) =>
    decidable_of_iff (IsNewestFor (registered (history.take i)) c.render n) (by simp [AnswersAt, h])
  | some (.register _) | some (.spawn _) | some (.kill _) | none =>
    isFalse (by simp [AnswersAt, h])

/-- How many commands of a history rule number `n` answered. -/
def answered (history : List RunnerUse) (n : Nat) : Nat :=
  (List.range history.length).countP (AnswersAt history n ·)

variable {history : List RunnerUse} {u : RunnerUse} {c : Command} {line : String} {rule : Rule}
  {n i : Nat}

theorem after_concat : after (history ++ [u]) = (after history).use u := by
  rw [after, List.foldl_concat, after]

theorem registered_concat :
    registered (history ++ [u]) = registered history ++ u.rule?.toList := by
  rw [registered, List.filterMap_append, registered]
  cases u <;> rfl

theorem answersAt_concat_of_lt (hi : i < history.length) :
    AnswersAt (history ++ [u]) n i ↔ AnswersAt history n i := by
  rw [AnswersAt, List.getElem?_append_left hi, List.take_append_of_le_length hi.le, AnswersAt]

theorem answersAt_length_iff : AnswersAt (history ++ [u]) n history.length ↔
    ∃ c, u = .run c ∧ IsNewestFor (registered history) c.render n := by
  rw [AnswersAt, List.getElem?_concat_length, List.take_left]
  simp only [Option.some.injEq]

theorem answered_concat : answered (history ++ [u]) n =
    answered history n + if AnswersAt (history ++ [u]) n history.length then 1 else 0 := by
  rw [answered, List.length_append, List.length_singleton, List.range_succ, List.countP_append,
    List.countP_singleton, answered]
  congr 1
  · refine List.countP_congr fun i hi => ?_
    simp [answersAt_concat_of_lt (List.mem_range.mp hi)]
  · simp

theorem answered_run : answered (history ++ [.run c]) n =
    answered history n + if IsNewestFor (registered history) c.render n then 1 else 0 := by
  rw [answered_concat]
  simp [answersAt_length_iff]

theorem answered_of_ne_run (hu : ∀ c, u ≠ .run c) :
    answered (history ++ [u]) n = answered history n := by
  rw [answered_concat]
  simp [answersAt_length_iff, hu]

/-- What is not registered yet answered nothing. -/
theorem answered_eq_zero (hn : (registered history).length ≤ n) : answered history n = 0 := by
  rw [answered, List.countP_eq_zero]
  intro i _ hi
  obtain ⟨c, -, hnewest⟩ := of_decide_eq_true hi
  have hle : (registered (history.take i)).length ≤ (registered history).length :=
    ((List.take_prefix i history).filterMap RunnerUse.rule?).length_le
  exact absurd hnewest.lt_length (by omega)

theorem needles_after :
    (after history).rules.reverse.map needle = (registered history).map needle := by
  induction history using List.reverseRecOn with
  | nil => rfl
  | append_singleton history u ih =>
    rw [after_concat, registered_concat, List.map_append, ← ih]
    cases u with
    | register rule => simp [use, on, RunnerUse.rule?]
    | run c => simp [use, run, record, RunnerUse.rule?, needles_answer]
    | spawn c | kill pid => simp [use, spawn, kill, record, RunnerUse.rule?]

theorem isNewestFor_after_iff : IsNewestFor (after history).rules.reverse line n ↔
    IsNewestFor (registered history) line n :=
  isNewestFor_congr needles_after

theorem not_isFor_after (h : ∀ rule ∈ registered history, ¬rule.IsFor line) :
    ∀ rule ∈ (after history).rules, ¬rule.IsFor line := by
  intro rule hrule hfor
  have hneedle : rule.needle ∈ (registered history).map needle := by
    rw [← needles_after]
    exact List.mem_map_of_mem (List.mem_reverse.mpr hrule)
  obtain ⟨given, hgiven, heq⟩ := List.mem_map.mp hneedle
  exact h given hgiven (by rwa [IsFor, heq])

/-- After a history each rule is what was registered, less what it gave. -/
theorem rule?_after (n : Nat) : (after history).rule? n =
    (registered history)[n]?.map fun rule => rule.after (answered history n) := by
  induction history using List.reverseRecOn with
  | nil => rfl
  | append_singleton history u ih =>
    rw [after_concat, registered_concat]
    cases u with
    | register rule =>
      have hlen : (after history).rules.reverse.length = (registered history).length := by
        rw [← List.length_map needle, needles_after, List.length_map]
      have hadded : ((after history).use (.register rule)).rule? n =
          ((after history).rules.reverse ++ [rule])[n]? := by
        rw [use, on, rule?, List.reverse_cons]
      rw [hadded, answered_of_ne_run (by simp), RunnerUse.rule?, Option.toList_some]
      by_cases hn : n = (registered history).length
      -- the new rule has answered nothing yet
      · rw [answered_eq_zero hn.ge, hn, List.getElem?_concat_length, ← hlen,
          List.getElem?_concat_length]
        rfl
      · rw [getElem?_concat_of_ne hn, getElem?_concat_of_ne (hlen ▸ hn)]
        exact ih
    | run c =>
      rw [use, rule?_run, ih, answered_run, RunnerUse.rule?, Option.toList_none, List.append_nil]
      simp only [isNewestFor_after_iff]
      split
      · rw [Option.map_map]
        rfl
      · rfl
    | spawn c | kill pid =>
      rw [answered_of_ne_run (by simp), RunnerUse.rule?, Option.toList_none, List.append_nil]
      exact ih

theorem calls_after :
    (after history).calls = (history.filterMap RunnerUse.command?).map Command.render := by
  induction history using List.reverseRecOn with
  | nil => rfl
  | append_singleton history u ih =>
    rw [after_concat, List.filterMap_append, List.map_append, ← ih]
    cases u <;> simp [use, on, run, spawn, kill, record, RunnerUse.command?]

/-- After whatever was done with a runner, a command is answered by the newest rule for it. Of the
outputs of the rule it gets the one whose number is how many commands the rule answered, this one
included, or the last if there are fewer. A command that no rule is for succeeds and prints nothing.
Rules that do not answer stay as they are. What is recorded is all commands that were run or
started, in their order. -/
theorem answers_in_turn (history : List RunnerUse) :
    (∀ c n rule, IsNewestFor (registered history) c.render n →
      (registered history)[n]? = some rule → rule.outputs ≠ [] →
      rule.outputs[min (answered (history ++ [.run c]) n) rule.outputs.length - 1]? =
        some ((after history).run c).1) ∧
    (∀ c : Command, (∀ rule ∈ registered history, ¬rule.IsFor c.render) →
      ((after history).run c).1 = ⟨0, "", ""⟩) ∧
    (∀ c n, ¬IsNewestFor (registered history) c.render n →
      ((after history).run c).2.rule? n = (after history).rule? n) ∧
    (after history).calls = (history.filterMap RunnerUse.command?).map Command.render := by
  refine ⟨?_, ?_, ?_, calls_after⟩
  · intro c n rule hnewest hrule hout
    have hleft : (after history).rule? n = some (rule.after (answered history n)) := by
      rw [rule?_after, hrule, Option.map_some]
    rw [run_eq_output (isNewestFor_after_iff.mpr hnewest) hleft, answered_run, if_pos hnewest,
      output_after _ hout]
  · intro c hnone
    exact run_eq_silent (not_isFor_after hnone)
  · intro c n hn
    rw [rule?_run, if_neg (mt isNewestFor_after_iff.mp hn)]

end ScriptedRunner

end SwitchLab

/-! ## A rule that takes over -/

namespace SwitchLab.StatusLooks

open ScriptedRunner

def status : Command := ⟨"docker", ["exec", "vs", "supervisorctl", "status"]⟩

def removal : Command := ⟨"docker", ["rm", "-f", "vs"]⟩

def nothing : Rule := ⟨"docker", [⟨0, "nothing yet\n", ""⟩]⟩

def daemons : Rule := ⟨"supervisorctl", [⟨0, "STARTING\n", ""⟩, ⟨0, "RUNNING\n", ""⟩]⟩

/-- The second rule is registered when the first has already answered, and answers twice. -/
def history : List RunnerUse :=
  [.register nothing, .run status, .register daemons, .run status, .run removal, .run status]

theorem looks_answered :
    (Rule.IsNewestFor (registered history) status.render 1 ∧
      (registered history)[1]? = some daemons ∧ daemons.outputs ≠ [] ∧
      daemons.outputs[min (answered (history ++ [.run status]) 1) daemons.outputs.length - 1]? =
        some ((after history).run status).1) ∧
    ((∀ rule ∈ registered history, ¬rule.IsFor (⟨"true", []⟩ : Command).render) ∧
      ((after history).run ⟨"true", []⟩).1 = ⟨0, "", ""⟩) ∧
    (¬Rule.IsNewestFor (registered history) status.render 0 ∧
      ((after history).run status).2.rule? 0 = (after history).rule? 0) ∧
    (after history).calls = [status, status, removal, status].map Command.render := by
  obtain ⟨answer, silence, others, calls⟩ := answers_in_turn history
  have newest : Rule.IsNewestFor (registered history) status.render 1 := by decide +kernel
  have unmatched : ∀ rule ∈ registered history, ¬rule.IsFor (⟨"true", []⟩ : Command).render := by
    decide +kernel
  have older : ¬Rule.IsNewestFor (registered history) status.render 0 := by decide +kernel
  have some_output : daemons.outputs ≠ [] := by decide
  exact ⟨⟨newest, rfl, some_output, answer status 1 daemons newest rfl some_output⟩,
    ⟨unmatched, silence _ unmatched⟩, ⟨older, others status 0 older⟩, calls⟩

end SwitchLab.StatusLooks
