import Mathlib.Data.List.DropRight
import SwitchLab.Text.Blank
import SwitchLab.Text.Decimal
import SwitchLab.Text.Search

/-! Texts taken apart: what follows the start of a text, the two sides of a
separator, runs of characters of one kind, lines, and the number that a decimal
text stands for. -/

namespace SwitchLab.Text

/-! ## The start of a text -/

theorem afterStartChars_eq_some {start text rest : List Char}
    (h : afterStartChars start text = some rest) : text = start ++ rest := by
  induction start generalizing text with
  | nil =>
    cases h
    rfl
  | cons p ps ih =>
    cases text with
    | nil => cases h
    | cons c cs =>
      rw [afterStartChars] at h
      split at h
      · rename_i hpc
        rw [hpc, ih h, List.cons_append]
      · cases h

theorem afterStartChars_append (start rest : List Char) :
    afterStartChars start (start ++ rest) = some rest := by
  induction start with
  | nil => rfl
  | cons p ps ih => rw [List.cons_append, afterStartChars, if_pos rfl, ih]

theorem afterStart?_eq_some {start s rest : String} (h : afterStart? start s = some rest) :
    s = start ++ rest := by
  rw [afterStart?, Option.map_eq_some_iff] at h
  obtain ⟨cs, hcs, rfl⟩ := h
  rw [← String.toList_inj, afterStartChars_eq_some hcs, String.toList_append, String.toList_ofList]

theorem afterStart?_eq_some_iff {start s rest : String} :
    afterStart? start s = some rest ↔ s = start ++ rest := by
  refine ⟨afterStart?_eq_some, ?_⟩
  rintro rfl
  rw [afterStart?, String.toList_append, afterStartChars_append, Option.map_some,
    String.ofList_toList]

/-- Texts with the same start are ordered by what follows it. -/
theorem lt_of_append_lt {start left right : String} (h : start ++ left < start ++ right) :
    left < right := by
  refine String.not_le.mp fun hle => ?_
  have hne : right ≠ left := by
    rintro rfl
    exact String.lt_irrefl _ h
  have hlt : right < left := Std.lt_of_le_of_ne hle hne
  have hback : (start ++ right).toList < (start ++ left).toList := by
    rw [String.toList_append, String.toList_append]
    exact List.append_left_lt hlt
  exact String.lt_irrefl _ (String.lt_trans h hback)

/-! ## One text in another -/

theorem occursInChars_iff {needle cs : List Char} :
    occursInChars needle cs = true ↔ needle <:+: cs := by
  induction cs with
  | nil => rw [occursInChars, List.isEmpty_iff, List.infix_nil]
  | cons c cs ih =>
    rw [occursInChars, Bool.or_eq_true, List.isPrefixOf_iff_prefix, ih, List.infix_cons_iff]

/-! ## The first separator -/

theorem splitFirstChars_eq_some_iff {sep : Char} {cs left right : List Char} :
    splitFirstChars sep cs = some (left, right) ↔ cs = left ++ sep :: right ∧ sep ∉ left := by
  induction cs generalizing left with
  | nil => simp [splitFirstChars]
  | cons c cs ih =>
    rw [splitFirstChars]
    split
    case isTrue hc =>
      subst hc
      cases left with
      | nil => simp
      | cons d left =>
        -- the separator itself would be on the left side
        constructor
        · intro h
          cases h
        · rintro ⟨he, hleft⟩
          cases he
          simp at hleft
    case isFalse hc =>
      cases left with
      | nil =>
        constructor
        · intro h
          simp at h
        · rintro ⟨he, -⟩
          exact absurd (List.cons.inj he).1 hc
      | cons d left =>
        have shape : (splitFirstChars sep cs).map (fun p => (c :: p.1, p.2)) =
            some (d :: left, right) ↔ c = d ∧ splitFirstChars sep cs = some (left, right) := by
          cases splitFirstChars sep cs <;> simp [Prod.ext_iff, and_assoc]
        refine shape.trans ?_
        rw [ih, List.cons_append, List.cons.injEq, List.mem_cons, not_or]
        constructor
        · rintro ⟨rfl, he, hleft⟩
          exact ⟨⟨rfl, he⟩, Ne.symm hc, hleft⟩
        · rintro ⟨⟨rfl, he⟩, -, hleft⟩
          exact ⟨rfl, he, hleft⟩

/-- The separator is given as a text, as it stands in other texts. -/
theorem splitFirst?_eq_some_iff {sep : Char} {s left right : String} (mark : String)
    (hmark : mark = String.singleton sep) :
    splitFirst? sep s = some (left, right) ↔
      s = left ++ mark ++ right ∧ sep ∉ left.toList := by
  have sides : s.toList = left.toList ++ sep :: right.toList ↔ s = left ++ mark ++ right := by
    rw [← String.toList_inj, hmark]
    simp [String.toList_append]
  rw [← sides, ← splitFirstChars_eq_some_iff, splitFirst?, Option.map_eq_some_iff]
  constructor
  · rintro ⟨⟨cs, ds⟩, hs, he⟩
    cases he
    rwa [String.toList_ofList, String.toList_ofList]
  · intro hs
    refine ⟨_, hs, ?_⟩
    simp only [String.ofList_toList]

/-- Up to the separator, a text is its left side. -/
theorem takeWhile_append_of_notMem {sep : Char} {left right : List Char} (h : sep ∉ left) :
    (left ++ sep :: right).takeWhile (· ≠ sep) = left := by
  rw [List.takeWhile_append_of_pos, List.takeWhile_cons_of_neg, List.append_nil]
  · simp
  · intro c hc
    simpa using ne_of_mem_of_not_mem hc h

/-- What begins a text and does not have the separator is on the left side. -/
theorem prefix_of_prefix_append {sep : Char} {start left right : List Char}
    (h : start <+: left ++ sep :: right) (hsep : sep ∉ start) : start <+: left := by
  have hleft : left ++ [sep] <+: left ++ sep :: right := ⟨right, by simp⟩
  rcases List.prefix_or_prefix_of_prefix h hleft with hs | hs
  · refine (List.prefix_concat_iff.mp hs).resolve_left ?_
    rintro rfl
    simp at hsep
  · exact absurd (hs.subset (by simp)) hsep

theorem toList_ne_nil {s : String} (h : s ≠ "") : s.toList ≠ [] := by
  rw [Ne, String.toList_eq_nil_iff]
  exact h

/-! ## Runs of characters -/

section Runs

variable {p : Char → Bool} {cs ds : List Char}

theorem takeWhile_append_of_stop (hcs : ∀ c ∈ cs, p c = true)
    (hds : ∀ c ∈ ds.head?, p c = false) : (cs ++ ds).takeWhile p = cs := by
  rw [List.takeWhile_append_of_pos hcs]
  cases ds with
  | nil => simp
  | cons d ds => rw [List.takeWhile_cons_of_neg (by simp [hds d rfl]), List.append_nil]

theorem dropWhile_append_of_stop (hcs : ∀ c ∈ cs, p c = true)
    (hds : ∀ c ∈ ds.head?, p c = false) : (cs ++ ds).dropWhile p = ds := by
  rw [List.dropWhile_append_of_pos hcs]
  cases ds with
  | nil => rfl
  | cons d ds => rw [List.dropWhile_cons_of_neg (by simp [hds d rfl])]

theorem head?_dropWhile : ∀ c ∈ (cs.dropWhile p).head?, p c = false := by
  intro c hc
  have hstop := List.head?_dropWhile_not p cs
  rw [Option.mem_def.mp hc] at hstop
  exact hstop

/-- A part from the start on begins, after such characters, with what all of it begins with. -/
theorem mem_head?_dropWhile_of_prefix (h : ds <+: cs) :
    ∀ c ∈ (ds.dropWhile p).head?, c ∈ (cs.dropWhile p).head? := by
  obtain ⟨rest, rfl⟩ := h
  intro c hc
  rw [List.dropWhile_append]
  split
  · rename_i hds
    rw [List.isEmpty_iff.mp hds] at hc
    cases hc
  · rw [List.head?_append, Option.mem_def.mp hc]
    rfl

theorem forall_mem_takeWhile : ∀ c ∈ cs.takeWhile p, p c = true :=
  fun _ hc => List.mem_takeWhile_imp hc

end Runs

/-! ## Letters and digits -/

theorem toNat_of_isAlphanum {c : Char} (h : c.isAlphanum = true) :
    48 ≤ c.toNat ∧ c.toNat ≤ 122 := by
  have kinds : ((c.isUpper || c.isLower) || c.isDigit) = true := h
  rw [Bool.or_eq_true, Bool.or_eq_true] at kinds
  rcases kinds with (upper | lower) | digit
  · have range : 65 ≤ c.toNat ∧ c.toNat ≤ 90 := of_decide_eq_true upper
    omega
  · obtain ⟨hleast, hmost⟩ := Bool.and_eq_true_iff.mp lower
    have least : 97 ≤ c.toNat := of_decide_eq_true hleast
    have most : c.toNat ≤ 122 := of_decide_eq_true hmost
    omega
  · obtain ⟨hleast, hmost⟩ := Bool.and_eq_true_iff.mp digit
    have least : 48 ≤ c.toNat := of_decide_eq_true hleast
    have most : c.toNat ≤ 57 := of_decide_eq_true hmost
    omega

/-! ## Blanks at the ends -/

section Blanks

variable {cs ds : List Char}

/-- What ends with a character that is no blank is kept. -/
theorem trimEndChars_append (h : ∀ c ∈ cs.getLast?, isBlank c = false) :
    trimEndChars (cs ++ ds) = cs ++ trimEndChars ds := by
  have kept : ([] ++ cs.reverse).dropWhile isBlank = cs.reverse :=
    dropWhile_append_of_stop (by simp) (by simpa using h)
  rw [List.nil_append] at kept
  rw [trimEndChars, trimEndChars, List.reverse_append, List.dropWhile_append]
  split
  · rename_i hds
    rw [List.isEmpty_iff.mp hds, kept]
    simp
  · simp

theorem trimEndChars_append_blanks (h : ∀ c ∈ ds, isBlank c = true) :
    trimEndChars (cs ++ ds) = trimEndChars cs := by
  rw [trimEndChars, List.reverse_append, List.dropWhile_append_of_pos, trimEndChars]
  simpa using h

theorem trimEndChars_prefix : trimEndChars cs <+: cs := List.rdropWhile_prefix isBlank cs

/-- What is cut off are blanks. -/
theorem exists_margin (cs : List Char) :
    ∃ margin, cs = trimEndChars cs ++ margin ∧ ∀ c ∈ margin, isBlank c = true := by
  refine ⟨(cs.reverse.takeWhile isBlank).reverse, ?_, ?_⟩
  · rw [trimEndChars, ← List.reverse_append, List.takeWhile_append_dropWhile, List.reverse_reverse]
  · intro c hc
    exact forall_mem_takeWhile c (List.mem_reverse.mp hc)

end Blanks

/-! ## Lines -/

section Lines

variable {sep : Char} {line rest : List Char} {lines : List String}

theorem splitAtEach_append (h : sep ∉ line) :
    splitAtEach sep (line ++ sep :: rest) = line :: splitAtEach sep rest := by
  induction line with
  | nil => simp [splitAtEach]
  | cons c line ih =>
    rw [List.mem_cons, not_or] at h
    rw [List.cons_append, splitAtEach, if_neg (Ne.symm h.1), ih h.2]

theorem splitAtEach_ne_nil {cs : List Char} : splitAtEach sep cs ≠ [] := by
  fun_induction splitAtEach sep cs <;> simp

/-- The first line of a text. -/
theorem lineChars_append (h : '\n' ∉ line) :
    lineChars (line ++ '\n' :: rest) = dropReturn line :: lineChars rest := by
  rw [lineChars, splitAtEach_append h, lineChars]
  cases hparts : splitAtEach '\n' rest with
  | nil => exact absurd hparts splitAtEach_ne_nil
  | cons part parts => rfl

/-- The text that is made of lines. -/
def unlines (lines : List String) : String :=
  String.ofList (lines.flatMap fun line => line.toList ++ ['\n'])

theorem lineChars_unlines (h : ∀ line ∈ lines, '\n' ∉ line.toList) :
    lineChars (unlines lines).toList = lines.map fun line => dropReturn line.toList := by
  rw [unlines, String.toList_ofList]
  induction lines with
  | nil => rfl
  | cons line lines ih =>
    rw [List.forall_mem_cons] at h
    rw [List.flatMap_cons, List.append_assoc, List.singleton_append, lineChars_append h.1, ih h.2,
      List.map_cons]

theorem dropReturn_prefix {cs : List Char} : dropReturn cs <+: cs := by
  unfold dropReturn
  split
  · exact List.dropLast_prefix cs
  · exact List.prefix_rfl

/-- What is dropped is behind any other character. -/
theorem dropReturn_append_cons {cs ds : List Char} {c : Char} (hc : c ≠ '\r') :
    dropReturn (cs ++ c :: ds) = cs ++ c :: dropReturn ds := by
  unfold dropReturn
  rcases List.eq_nil_or_concat ds with rfl | ⟨ds, d, rfl⟩
  · simp [hc]
  · rw [List.concat_eq_append, ← List.cons_append, ← List.append_assoc, List.getLast?_concat,
      List.getLast?_concat, List.dropLast_concat, List.dropLast_concat]
    split <;> simp

/-- A return at the end of a line is a blank like others. -/
theorem trim_dropReturn {cs : List Char} :
    trimEndChars (trimStartChars (dropReturn cs)) = trimEndChars (trimStartChars cs) := by
  unfold dropReturn
  split
  · rename_i hlast
    obtain ⟨front, rfl⟩ := List.getLast?_eq_some_iff.mp hlast
    have blank : ∀ c ∈ ['\r'], isBlank c = true := by simp [isBlank]
    rw [List.dropLast_concat, trimStartChars, trimStartChars, List.dropWhile_append]
    split
    · rename_i hfront
      rw [List.isEmpty_iff.mp hfront]
      rfl
    · rw [trimEndChars_append_blanks blank]
  · rfl

end Lines

/-! ## Numbers -/

/-- A number that fits is read from its decimal text. -/
theorem unsigned?_toString {bits n : Nat} (h : n < wordSize bits) :
    unsigned? bits (toString n) = some n := by
  have hdigits : ∀ c ∈ Nat.toDigits 10 n, c.isDigit = true := fun c hc =>
    Nat.isDigit_of_mem_toDigits (by decide) (by decide) hc
  have hplus : dropPlus (Nat.toDigits 10 n) = Nat.toDigits 10 n := by
    unfold dropPlus
    split
    · rename_i hd
      exact absurd (hdigits '+' (by simp [hd])) (by decide)
    · rfl
  have hvalue : natOfChars? (Nat.toDigits 10 n) = some n := by
    rw [natOfChars?, if_pos]
    · exact congrArg some Nat.ofDigitChars_ten_toDigits
    · simpa [Nat.toDigits_ne_nil] using hdigits
  have chars : (toString n).toList = Nat.toDigits 10 n := Nat.toList_repr
  rw [unsigned?, chars, unsignedChars?, hplus, hvalue]
  exact if_pos h

end SwitchLab.Text
