import SwitchLab.Proofs.Readiness
import SwitchLab.Proofs.TypedRecords
import SwitchLab.Proofs.Words

/-! What the supervisor tells of its programs: the lines that tell something, the
last line about a program, and what is still to come. -/

namespace SwitchLab.Supervisor

/-! ## One line -/

/-- A line that tells the state of a program, in parts. -/
structure StatusLine where
  indent : String
  /-- The group of the program with a colon behind it, if one is given. -/
  group : String
  program : String
  gap : String
  state : String
  rest : String
  /-- Blanks at the end of the line. -/
  margin : String
  indent_blank : ∀ c ∈ indent.toList, Text.isBlank c = true
  group_solid : ∀ c ∈ group.toList, Text.isBlank c = false
  group_ends : ∀ c ∈ group.toList.getLast?, c = ':'
  program_solid : ∀ c ∈ program.toList, Text.isBlank c = false
  program_single : ':' ∉ program.toList
  named : group ++ program ≠ ""
  gap_blank : ∀ c ∈ gap.toList, Text.isBlank c = true
  apart : gap ≠ ""
  state_capital : ∀ c ∈ state.toList, isCapital c = true
  told : state ≠ ""
  /-- The state is no part of a longer word. A blank behind it is enough for that. -/
  rest_apart : ∀ c ∈ rest.toList.head?, Text.isWordChar c = false
  margin_blank : ∀ c ∈ margin.toList, Text.isBlank c = true

def StatusLine.text (l : StatusLine) : String :=
  l.indent ++ (l.group ++ l.program) ++ l.gap ++ l.state ++ l.rest ++ l.margin

/-- The line tells that the program is in the state. -/
def Tells (line program state : String) : Prop :=
  ∃ l : StatusLine, l.text = line ∧ l.program = program ∧ l.state = state

section Line

variable {c : Char} {cs state program group : List Char}

theorem toNat_of_isCapital (h : isCapital c = true) : 65 ≤ c.toNat ∧ c.toNat ≤ 90 := by
  rw [isCapital, Bool.and_eq_true, decide_eq_true_eq, decide_eq_true_eq] at h
  exact h

theorem isWordChar_of_isCapital (h : isCapital c = true) : Text.isWordChar c = true := by
  have range := toNat_of_isCapital h
  have upper : c.isUpper = true := decide_eq_true range
  have letter : c.isAlphanum = true := by
    show ((c.isUpper || c.isLower) || c.isDigit) = true
    rw [upper]
    rfl
  rw [Text.isWordChar, if_pos (by omega), letter]
  rfl

theorem isBlank_of_isCapital (h : isCapital c = true) : Text.isBlank c = false := by
  have range := toNat_of_isCapital h
  simp only [Text.isBlank, Bool.or_eq_false_iff, Bool.and_eq_false_iff, decide_eq_false_iff_not]
  omega

/-- The state is as long as it can be. -/
theorem stateChars?_eq_some_iff : stateChars? cs = some state ↔
    state ≠ [] ∧ (∀ c ∈ state, isCapital c = true) ∧
      ∃ rest, cs = state ++ rest ∧ ∀ c ∈ rest.head?, Text.isWordChar c = false := by
  rw [stateChars?]
  constructor
  · intro h
    split at h
    · cases h
    · rename_i hcond
      rw [Bool.or_eq_true, not_or, List.isEmpty_iff] at hcond
      obtain rfl := Option.some.inj h
      refine ⟨hcond.1, Text.forall_mem_takeWhile, _, List.takeWhile_append_dropWhile.symm, ?_⟩
      intro c hc
      have hany := hcond.2
      rw [Option.mem_def.mp hc, Option.any_some, Bool.not_eq_true] at hany
      exact hany
  · rintro ⟨hne, hcapital, rest, rfl, hrest⟩
    have stops : ∀ c ∈ rest.head?, isCapital c = false := by
      intro c hc
      by_contra hcap
      rw [Bool.not_eq_false] at hcap
      have hword := hrest c hc
      rw [isWordChar_of_isCapital hcap] at hword
      cases hword
    rw [Text.takeWhile_append_of_stop hcapital stops, Text.dropWhile_append_of_stop hcapital stops]
    have apart : rest.head?.any Text.isWordChar = false := by
      cases hhead : rest.head? with
      | none => rfl
      | some c => exact hrest c hhead
    simp [hne, apart]

theorem afterLastChars_append (hgroup : ∀ c ∈ group.getLast?, c = ':') (hprogram : ':' ∉ program) :
    Text.afterLastChars ':' (group ++ program) = program := by
  have free : ∀ c ∈ program.reverse, (c ≠ ':') := by
    intro c hc he
    exact hprogram (he ▸ List.mem_reverse.mp hc)
  have stops : ∀ c ∈ group.reverse.head?, decide (c ≠ ':') = false := by
    intro c hc
    rw [List.head?_reverse] at hc
    simp [hgroup c hc]
  rw [Text.afterLastChars, List.reverse_append,
    Text.takeWhile_append_of_stop (by simpa using free) stops, List.reverse_reverse]

theorem exists_group (cs : List Char) : ∃ group, cs = group ++ Text.afterLastChars ':' cs ∧
    (∀ c ∈ group.getLast?, c = ':') ∧ ':' ∉ Text.afterLastChars ':' cs := by
  have split := List.takeWhile_append_dropWhile (p := fun c => decide (c ≠ ':')) (l := cs.reverse)
  refine ⟨(cs.reverse.dropWhile (· ≠ ':')).reverse, ?_, ?_, ?_⟩
  · rw [Text.afterLastChars, ← List.reverse_append, split, List.reverse_reverse]
  · intro c hc
    rw [List.getLast?_reverse] at hc
    simpa using Text.head?_dropWhile c hc
  · rw [Text.afterLastChars, List.mem_reverse]
    intro hm
    simpa using Text.forall_mem_takeWhile _ hm

end Line

/-- A line without the blanks at its ends. -/
def body (line : String) : List Char := Text.trimEndChars (Text.trimStartChars line.toList)

/-- The first word of a line. -/
def token (line : String) : List Char := (body line).takeWhile (!Text.isBlank ·)

def afterToken (line : String) : List Char := (body line).dropWhile (!Text.isBlank ·)

section Reading

variable {line program state : String}

theorem statusOf?_toList_eq_some_iff : statusOf? line.toList = some (program, state) ↔
    token line ≠ [] ∧ afterToken line ≠ [] ∧
      String.ofList (Text.afterLastChars ':' (token line)) = program ∧
      stateChars? ((afterToken line).dropWhile Text.isBlank) = some state.toList := by
  have parts : statusOf? line.toList =
      if (token line).isEmpty || (afterToken line).isEmpty then none
      else (stateChars? ((afterToken line).dropWhile Text.isBlank)).map fun state =>
        (String.ofList (Text.afterLastChars ':' (token line)), String.ofList state) := by
    rw [Option.map_eq_bind]
    rfl
  rw [parts]
  by_cases hempty : (token line).isEmpty || (afterToken line).isEmpty
  · rw [if_pos hempty]
    simp only [Bool.or_eq_true, List.isEmpty_iff] at hempty
    simp only [reduceCtorEq, false_iff, not_and]
    intro htoken hafter
    exact absurd hempty (not_or.mpr ⟨htoken, hafter⟩)
  · rw [if_neg hempty]
    simp only [Bool.or_eq_true, List.isEmpty_iff, not_or] at hempty
    simp only [Option.map_eq_some_iff, Prod.mk.injEq, hempty, ne_eq, not_false_eq_true, true_and]
    constructor
    · rintro ⟨word, hword, hprogram, rfl⟩
      rw [String.toList_ofList]
      exact ⟨hprogram, hword⟩
    · rintro ⟨hprogram, hword⟩
      exact ⟨_, hword, hprogram, String.ofList_toList⟩

/-- A line is made of blanks, its first word, what comes after that, and blanks. -/
theorem exists_margin (line : String) : ∃ margin,
    line.toList = line.toList.takeWhile Text.isBlank ++
      (token line ++ (afterToken line ++ margin)) ∧
    ∀ c ∈ margin, Text.isBlank c = true := by
  obtain ⟨margin, hmargin, hblank⟩ := Text.exists_margin (Text.trimStartChars line.toList)
  have words : body line = token line ++ afterToken line := List.takeWhile_append_dropWhile.symm
  refine ⟨margin, ?_, hblank⟩
  calc line.toList
    _ = line.toList.takeWhile Text.isBlank ++ Text.trimStartChars line.toList :=
      List.takeWhile_append_dropWhile.symm
    _ = line.toList.takeWhile Text.isBlank ++ (body line ++ margin) := by rw [body, ← hmargin]
    _ = _ := by rw [words, List.append_assoc]

theorem token_solid : ∀ c ∈ token line, Text.isBlank c = false := by
  intro c hc
  simpa using Text.forall_mem_takeWhile c hc

/-- What follows the first word begins with a blank. -/
theorem takeWhile_afterToken_ne_nil (h : afterToken line ≠ []) :
    (afterToken line).takeWhile Text.isBlank ≠ [] := by
  obtain ⟨c, cs, hcs⟩ := List.exists_cons_of_ne_nil h
  have hstop := Text.head?_dropWhile c (by rw [← afterToken, hcs]; rfl)
  have hc : Text.isBlank c = true := by simpa using hstop
  simp [hcs, hc]

theorem tells_of_statusOf? (h : statusOf? line.toList = some (program, state)) :
    Tells line program state := by
  obtain ⟨htoken, hafter, rfl, hstate⟩ := statusOf?_toList_eq_some_iff.mp h
  obtain ⟨hne, hcapital, rest, hrest, happart⟩ := stateChars?_eq_some_iff.mp hstate
  obtain ⟨group, hgroup, hends, hsingle⟩ := exists_group (token line)
  obtain ⟨margin, hline, hblank⟩ := exists_margin line
  have tail : afterToken line =
      (afterToken line).takeWhile Text.isBlank ++ (state.toList ++ rest) := by
    rw [← hrest, List.takeWhile_append_dropWhile]
  let l : StatusLine := {
    indent := String.ofList (line.toList.takeWhile Text.isBlank)
    group := String.ofList group
    program := String.ofList (Text.afterLastChars ':' (token line))
    gap := String.ofList ((afterToken line).takeWhile Text.isBlank)
    state := state
    rest := String.ofList rest
    margin := String.ofList margin
    indent_blank := by simpa using Text.forall_mem_takeWhile
    group_solid := by
      intro c hc
      rw [String.toList_ofList] at hc
      exact token_solid c (by rw [hgroup]; exact List.mem_append_left _ hc)
    group_ends := by simpa using hends
    program_solid := by
      intro c hc
      rw [String.toList_ofList] at hc
      exact token_solid c (by rw [hgroup]; exact List.mem_append_right _ hc)
    program_single := by simpa using hsingle
    named := by
      rw [← String.ofList_append, ← hgroup]
      simpa using htoken
    gap_blank := by simpa using Text.forall_mem_takeWhile
    apart := by simpa using takeWhile_afterToken_ne_nil hafter
    state_capital := hcapital
    told := by simpa using hne
    rest_apart := by simpa using happart
    margin_blank := by simpa using hblank }
  refine ⟨l, ?_, rfl, rfl⟩
  rw [← String.toList_inj, hline, hgroup]
  conv_rhs => rw [tail]
  simp [StatusLine.text, l, String.toList_append]

end Reading

namespace StatusLine

variable (l : StatusLine)

/-- The first word. -/
def word : List Char := l.group.toList ++ l.program.toList

theorem word_solid : ∀ c ∈ l.word, Text.isBlank c = false := by
  intro c hc
  exact (List.mem_append.mp hc).elim (l.group_solid c) (l.program_solid c)

theorem word_ne_nil : l.word ≠ [] := by
  have hne := Text.toList_ne_nil l.named
  rw [String.toList_append] at hne
  exact hne

theorem gap_ne_nil : l.gap.toList ≠ [] := Text.toList_ne_nil l.apart

theorem state_ne_nil : l.state.toList ≠ [] := Text.toList_ne_nil l.told

theorem toList_text : l.text.toList =
    l.indent.toList ++ (l.word ++ (l.gap.toList ++ (l.state.toList ++
      (l.rest.toList ++ l.margin.toList)))) := by
  simp [text, word, String.toList_append]

theorem body_text : body l.text =
    l.word ++ (l.gap.toList ++ (l.state.toList ++ Text.trimEndChars l.rest.toList)) := by
  have start : Text.trimStartChars l.text.toList =
      l.word ++ l.gap.toList ++ l.state.toList ++ l.rest.toList ++ l.margin.toList := by
    rw [toList_text, Text.trimStartChars, Text.dropWhile_append_of_stop l.indent_blank]
    · simp only [List.append_assoc]
    · intro c hc
      rw [List.head?_append_of_ne_nil _ l.word_ne_nil] at hc
      exact l.word_solid c (List.mem_of_mem_head? hc)
  have kept : ∀ c ∈ (l.word ++ l.gap.toList ++ l.state.toList).getLast?,
      Text.isBlank c = false := by
    intro c hc
    rw [List.getLast?_append_of_ne_nil _ l.state_ne_nil] at hc
    exact isBlank_of_isCapital (l.state_capital c (List.mem_of_getLast? hc))
  rw [body, start, Text.trimEndChars_append_blanks l.margin_blank, Text.trimEndChars_append kept]
  simp only [List.append_assoc]

theorem gap_stops {cs : List Char} :
    ∀ c ∈ (l.gap.toList ++ cs).head?, (!Text.isBlank c) = false := by
  intro c hc
  rw [List.head?_append_of_ne_nil _ l.gap_ne_nil] at hc
  rw [l.gap_blank c (List.mem_of_mem_head? hc)]
  rfl

theorem token_text : token l.text = l.word := by
  rw [token, body_text, Text.takeWhile_append_of_stop _ l.gap_stops]
  simpa using l.word_solid

theorem afterToken_text : afterToken l.text =
    l.gap.toList ++ (l.state.toList ++ Text.trimEndChars l.rest.toList) := by
  rw [afterToken, body_text, Text.dropWhile_append_of_stop _ l.gap_stops]
  simpa using l.word_solid

theorem stateChars?_text :
    stateChars? ((afterToken l.text).dropWhile Text.isBlank) = some l.state.toList := by
  have stops : ∀ c ∈ (l.state.toList ++ Text.trimEndChars l.rest.toList).head?,
      Text.isBlank c = false := by
    intro c hc
    rw [List.head?_append_of_ne_nil _ l.state_ne_nil] at hc
    exact isBlank_of_isCapital (l.state_capital c (List.mem_of_mem_head? hc))
  rw [afterToken_text, Text.dropWhile_append_of_stop l.gap_blank stops]
  refine stateChars?_eq_some_iff.mpr ⟨l.state_ne_nil, l.state_capital, _, rfl, ?_⟩
  intro c hc
  -- the rest begins as it did before it was trimmed
  obtain ⟨cut, hcut⟩ : Text.trimEndChars l.rest.toList <+: l.rest.toList :=
    Text.trimEndChars_prefix
  refine l.rest_apart c ?_
  rw [← hcut, List.head?_append, Option.mem_def.mp hc]
  rfl

theorem statusOf?_text : statusOf? l.text.toList = some (l.program, l.state) := by
  refine statusOf?_toList_eq_some_iff.mpr ⟨?_, ?_, ?_, l.stateChars?_text⟩
  · rw [token_text]
    exact l.word_ne_nil
  · rw [afterToken_text]
    exact List.append_ne_nil_of_left_ne_nil l.gap_ne_nil _
  · rw [token_text, word, afterLastChars_append l.group_ends l.program_single,
      String.ofList_toList]

end StatusLine

theorem statusOf?_eq_some_iff {line program state : String} :
    statusOf? line.toList = some (program, state) ↔ Tells line program state := by
  constructor
  · exact tells_of_statusOf?
  · rintro ⟨l, rfl, rfl, rfl⟩
    exact l.statusOf?_text

/-! ## Many lines -/

/-- The last line that tells of the program tells this state. -/
def LastTells (lines : List String) (program state : String) : Prop :=
  ∃ before line after, lines = before ++ line :: after ∧ Tells line program state ∧
    ∀ l ∈ after, ∀ s, ¬Tells l program s

/-- No line tells of the program. -/
def Silent (lines : List String) (program : String) : Prop :=
  ∀ line ∈ lines, ∀ state, ¬Tells line program state

/-- The state of a program by what the lines tell. -/
def Stands (lines : List String) (program state : String) : Prop :=
  LastTells lines program state ∨ Silent lines program ∧ state = "MISSING"

/-- The state of the program that the line tells. -/
def told? (program line : String) : Option String :=
  (statusOf? line.toList).bind fun p => if p.1 = program then some p.2 else none

section Lines

variable {line program state text : String} {lines : List String}

theorem told?_eq_some_iff : told? program line = some state ↔ Tells line program state := by
  rw [told?, Option.bind_eq_some_iff, ← statusOf?_eq_some_iff]
  constructor
  · rintro ⟨p, hp, hstate⟩
    split at hstate
    · rename_i hprogram
      obtain rfl := Option.some.inj hstate
      rw [hp, ← hprogram]
    · cases hstate
  · intro h
    exact ⟨_, h, if_pos rfl⟩

theorem told?_eq_none_iff : told? program line = none ↔ ∀ state, ¬Tells line program state := by
  simp only [← told?_eq_some_iff, Option.eq_none_iff_forall_ne_some]

theorem lastTells_iff :
    LastTells lines program state ↔ lastSet (told? program) lines = some state := by
  simp only [lastSet_eq_some_iff, told?_eq_some_iff, told?_eq_none_iff, LastTells]

theorem silent_iff : Silent lines program ↔ lastSet (told? program) lines = none := by
  simp only [lastSet_eq_none_iff, told?_eq_none_iff, Silent]

/-- What the line of a list of characters tells. -/
theorem told?_ofList {cs : List Char} : told? program (String.ofList cs) =
    (statusOf? cs).bind fun p => if p.1 = program then some p.2 else none := by
  rw [told?, String.toList_ofList]

theorem get?_statuses :
    (statuses text).get? program = lastSet (told? program) (Text.lines text) := by
  rw [statuses, KeyMap.get?_ofPairs, lastSet_filterMap, Text.lines, lastSet, lastSet,
    List.filterMap_map]
  simp only [Function.comp_def, told?_ofList]

theorem stateOf_statuses_iff :
    stateOf (statuses text) program = state ↔ Stands (Text.lines text) program state := by
  unfold stateOf Stands
  rw [get?_statuses, lastTells_iff, silent_iff]
  cases lastSet (told? program) (Text.lines text) with
  | none => simp [eq_comm]
  | some s => simp

/-- A state that no program has for want of lines. -/
theorem stateOf_statuses_iff_lastTells (hstate : state ≠ "MISSING") :
    stateOf (statuses text) program = state ↔ LastTells (Text.lines text) program state := by
  rw [stateOf_statuses_iff, Stands]
  simp [hstate]

end Lines

/-! ## Lines that are made up -/

namespace StatusLine

variable {rows : List StatusLine} {program state : String}

/-- The line with a blank and any text behind what it had in front of its margin. -/
def followed (l : StatusLine) (blank : Char) (h : Text.isBlank blank = true) (tail : String) :
    StatusLine :=
  { l with
    rest := l.rest ++ String.singleton blank ++ tail
    rest_apart := by
      intro c hc
      rw [String.toList_append, String.toList_append, List.append_assoc] at hc
      cases hrest : l.rest.toList with
      | nil =>
        rw [hrest] at hc
        obtain rfl : blank = c := by simpa using hc
        exact Text.isWordChar_of_isBlank h
      | cons d ds =>
        refine l.rest_apart c ?_
        rw [hrest] at hc
        simpa [hrest] using hc }

theorem statusOf?_dropReturn {cs : List Char} : statusOf? (Text.dropReturn cs) = statusOf? cs := by
  unfold statusOf?
  rw [Text.trim_dropReturn]

/-- What is written down with one line for each program is read again. -/
theorem get?_statuses_unlines (hline : ∀ row ∈ rows, '\n' ∉ row.text.toList)
    (hprogram : (rows.map StatusLine.program).Nodup) :
    (statuses (Text.unlines (rows.map text))).get? program = some state ↔
      ∃ row ∈ rows, row.program = program ∧ row.state = state := by
  have told (row : StatusLine) :
      statusOf? (Text.dropReturn row.text.toList) = some (row.program, row.state) := by
    rw [statusOf?_dropReturn, row.statusOf?_text]
  have pairs : (Text.lineChars (Text.unlines (rows.map text)).toList).filterMap statusOf? =
      rows.map fun row => (row.program, row.state) := by
    rw [Text.lineChars_unlines (List.forall_mem_map.mpr hline), List.map_map, List.filterMap_map]
    simp only [Function.comp_def, told, List.filterMap_eq_map']
  rw [statuses, pairs, KeyMap.ofPairs, List.foldl_map]
  exact KeyMap.get?_foldl_insert_iff hprogram

end StatusLine

/-! ## The gate -/

/-- The programs that the gate looks at, in the order in which it names them. -/
def watched : List String := requiredDaemons ++ [startScript]

/-- The state that the gate waits for. -/
def wanted (program : String) : String := if program = startScript then "EXITED" else "RUNNING"

/-- How the gate names a program and its state. -/
def entry (program state : String) : String := s!"{program}={state}"

theorem pending_eq_map {status : KeyMap String} : pending status =
    (watched.filter fun program => stateOf status program ≠ wanted program).map fun program =>
      entry program (stateOf status program) := by
  have daemons : ∀ daemon ∈ requiredDaemons, wanted daemon = "RUNNING" := by decide +kernel
  have filtered : (requiredDaemons.filter fun daemon => stateOf status daemon ≠ wanted daemon) =
      requiredDaemons.filter fun daemon => stateOf status daemon ≠ "RUNNING" := by
    refine List.filter_congr fun daemon hdaemon => ?_
    rw [daemons daemon hdaemon]
  have script : wanted startScript = "EXITED" := if_pos rfl
  unfold pending watched
  rw [List.filter_append, List.map_append, filtered]
  by_cases hscript : stateOf status startScript = "EXITED" <;> simp [hscript, script, entry]

/-- A round in which the supervisor answers is the last one if nothing is pending by its text. -/
theorem runs_statusProbe_of_output {name : String} {output : Output} {l l' : Ledger}
    {x : Bool × List String} :
    Lab.Runs (Device.statusProbe name) l
        [⟨.run ⟨"docker", ["exec", name, "bash", "-c", "supervisorctl status"]⟩,
          (.ok output : Except Fault Output)⟩] x l' ↔
      l' = l ∧ x = ((pending (statuses output.stdout)).isEmpty,
        pending (statuses output.stdout)) := by
  obtain ⟨done, named⟩ := x
  rw [Device.runs_statusProbe_iff, Device.runs_pendingPrograms_iff, Prod.mk.injEq]
  dsimp only
  constructor
  · rintro ⟨hdone, r, htrace, hl, hnamed⟩
    cases htrace
    dsimp only at hnamed
    exact ⟨hl, hdone.trans (congrArg List.isEmpty hnamed), hnamed⟩
  · rintro ⟨hl, hdone, hnamed⟩
    refine ⟨hdone.trans (congrArg List.isEmpty hnamed.symm), .ok output, rfl, hl, ?_⟩
    dsimp only
    exact hnamed

/-- The gate decides by a text as its last lines say. -/
structure Decides (text : String) : Prop where
  passes : pending (statuses text) = [] ↔
    (∀ daemon ∈ requiredDaemons, LastTells (Text.lines text) daemon "RUNNING") ∧
      LastTells (Text.lines text) startScript "EXITED"
  /-- What is not as it should be is named in order, with the state that it stands in. -/
  names : ∃ said : String → String,
    (∀ program state, said program = state ↔ Stands (Text.lines text) program state) ∧
      pending (statuses text) =
        (watched.filter fun program => said program ≠ wanted program).map fun program =>
          entry program (said program)
  /-- A round in which the supervisor answers with the text is the last one if the gate passes. -/
  probe : ∀ (name err : String) (code : Int) (l l' : Ledger) (x : Bool × List String),
    Lab.Runs (Device.statusProbe name) l
        [⟨.run ⟨"docker", ["exec", name, "bash", "-c", "supervisorctl status"]⟩,
          (.ok ⟨code, text, err⟩ : Except Fault Output)⟩] x l' ↔
      l' = l ∧ x = ((pending (statuses text)).isEmpty, pending (statuses text))

theorem decides (text : String) : Decides text where
  passes := by
    rw [Device.pending_eq_nil_iff, stateOf_statuses_iff_lastTells (by decide)]
    refine and_congr_left fun _ => ?_
    simp only [stateOf_statuses_iff_lastTells (show "RUNNING" ≠ "MISSING" by decide)]
  names := ⟨stateOf (statuses text), fun _ _ => stateOf_statuses_iff, pending_eq_map⟩
  probe := by
    intro name err code l l' x
    exact runs_statusProbe_of_output

/-- Each text decides exactly what its lines say, and lines that are written down, one for each
program, are read as they were meant. -/
theorem pending_exact (text : String) {rows : List StatusLine}
    (hline : ∀ row ∈ rows, '\n' ∉ row.text.toList)
    (hprogram : (rows.map StatusLine.program).Nodup) :
    Decides text ∧ ∀ program state,
      (statuses (Text.unlines (rows.map StatusLine.text))).get? program = some state ↔
        ∃ row ∈ rows, row.program = program ∧ row.state = state := by
  refine ⟨decides text, fun program state => ?_⟩
  exact StatusLine.get?_statuses_unlines hline hprogram

end SwitchLab.Supervisor

/-! ## Two programs -/

namespace SwitchLab.TwoPrograms

open Supervisor

/-- A daemon of a group. -/
def agent : StatusLine where
  indent := " \t"
  group := "sonic:swss:"
  program := "orchagent"
  gap := "\t "
  state := "RUNNING"
  rest := ""
  margin := "\r"
  indent_blank := by simp [Text.isBlank]
  group_solid := by simp [Text.isBlank]
  group_ends := by simp
  program_solid := by simp [Text.isBlank]
  program_single := by simp
  named := by decide
  gap_blank := by simp [Text.isBlank]
  apart := by decide
  state_capital := by simp [isCapital]
  told := by decide
  rest_apart := by simp
  margin_blank := by simp [Text.isBlank]

def script : StatusLine where
  indent := "\t"
  group := ""
  program := "start.sh"
  gap := "    "
  state := "EXITED"
  rest := ""
  margin := "  \r"
  indent_blank := by simp [Text.isBlank]
  group_solid := by simp [Text.isBlank]
  group_ends := by simp
  program_solid := by simp [Text.isBlank]
  program_single := by simp
  named := by decide
  gap_blank := by simp [Text.isBlank]
  apart := by decide
  state_capital := by simp [isCapital]
  told := by decide
  rest_apart := by simp
  margin_blank := by simp [Text.isBlank]

/-- What the supervisor tells of the two, with something behind each state. -/
def rows : List StatusLine :=
  [agent.followed ' ' (by decide) "pid 51, uptime 0:01:02",
    script.followed '\t' (by decide) "Oct 17 10:00 AM"]

theorem rows_exact :
    (∀ row ∈ rows, '\n' ∉ row.text.toList) ∧ (rows.map StatusLine.program).Nodup ∧
      Decides "swss:orchagent RUNNING pid 51\nstart.sh STARTING\nstart.sh EXITED\n" ∧
      ∀ program state,
        (statuses (Text.unlines (rows.map StatusLine.text))).get? program = some state ↔
          ∃ row ∈ rows, row.program = program ∧ row.state = state := by
  have hline : ∀ row ∈ rows, '\n' ∉ row.text.toList := by decide +kernel
  have hprogram : (rows.map StatusLine.program).Nodup := by decide +kernel
  have exactly := pending_exact
    "swss:orchagent RUNNING pid 51\nstart.sh STARTING\nstart.sh EXITED\n" hline hprogram
  exact ⟨hline, hprogram, exactly⟩

end SwitchLab.TwoPrograms
