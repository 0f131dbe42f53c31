import SwitchLab.Store.Glob

/-! What a glob pattern stands for, said without the matcher, and what the matcher
finds. It goes through the stretches between stars and never comes back to an
earlier star. A star of the pattern that meets a star of the text stands for that
one only, so a match can be missed there. In other texts every match is found. -/

namespace SwitchLab.Glob

variable {pattern rest text tail : List Char} {c d : Char} {P : Prop}

/-! ## The meaning of a pattern -/

/-- The pattern stands for the text: `*` for any sequence of characters, `?` for any character,
and every other character for itself. -/
inductive StandsFor : (pattern text : List Char) → Prop where
  | nil : StandsFor [] []
  | star {pattern text : List Char} (gap : List Char) :
    StandsFor pattern text → StandsFor ('*' :: pattern) (gap ++ text)
  | any {pattern text : List Char} (c : Char) :
    StandsFor pattern text → StandsFor ('?' :: pattern) (c :: text)
  | char {pattern text : List Char} {c : Char} : c ≠ '*' → c ≠ '?' →
    StandsFor pattern text → StandsFor (c :: pattern) (c :: text)

/-- The same, but a star that meets a star of the text stands for that one alone. -/
inductive Finds : (pattern text : List Char) → Prop where
  | nil : Finds [] []
  | star {pattern text : List Char} (gap : List Char) : (gap ++ text).head? ≠ some '*' →
    Finds pattern text → Finds ('*' :: pattern) (gap ++ text)
  | same {pattern text : List Char} : Finds pattern text → Finds ('*' :: pattern) ('*' :: text)
  | any {pattern text : List Char} (c : Char) :
    Finds pattern text → Finds ('?' :: pattern) (c :: text)
  | char {pattern text : List Char} {c : Char} : c ≠ '*' → c ≠ '?' →
    Finds pattern text → Finds (c :: pattern) (c :: text)

theorem Finds.standsFor (h : Finds pattern text) : StandsFor pattern text := by
  induction h with
  | nil => exact .nil
  | star gap _ _ ih => exact .star gap ih
  | same _ ih => exact .star ['*'] ih
  | any c _ ih => exact .any c ih
  | char hs hq _ ih => exact .char hs hq ih

/-- Nothing is missed in a text without a star. -/
theorem StandsFor.finds (h : StandsFor pattern text) (hplain : '*' ∉ text) :
    Finds pattern text := by
  induction h with
  | nil => exact .nil
  | @star pattern text gap _ ih =>
    have hhead : (gap ++ text).head? ≠ some '*' := fun he => hplain (List.mem_of_head? he)
    exact .star gap hhead (ih fun hm => hplain (List.mem_append_right _ hm))
  | any c _ ih => exact .any c (ih fun hm => hplain (List.mem_cons_of_mem _ hm))
  | char hs hq _ ih => exact .char hs hq (ih fun hm => hplain (List.mem_cons_of_mem _ hm))

theorem finds_cons_iff (hc : c ≠ '*') :
    Finds (c :: pattern) text ↔
      ∃ d tail, text = d :: tail ∧ (c = '?' ∨ c = d) ∧ Finds pattern tail := by
  constructor
  · intro h
    cases h with
    | star | same => exact absurd rfl hc
    | any d h => exact ⟨d, _, rfl, .inl rfl, h⟩
    | char _ _ h => exact ⟨c, _, rfl, .inr rfl, h⟩
  · rintro ⟨d, tail, rfl, hcd, h⟩
    by_cases hq : c = '?'
    · subst hq
      exact .any d h
    · obtain rfl := hcd.resolve_left hq
      exact .char hc hq h

theorem finds_star_same_iff : Finds ('*' :: pattern) ('*' :: text) ↔ Finds pattern text := by
  constructor
  · intro h
    generalize hwhole : '*' :: text = whole at h
    cases h with
    | star gap hhead => simp [← hwhole] at hhead
    | same h =>
      cases hwhole
      exact h
    | char hne => exact absurd rfl hne
  · exact .same

/-- A character that meets one it may stand for is done with it, a star too. -/
theorem finds_meet_iff (hcd : c = '?' ∨ c = d) :
    Finds (c :: pattern) (d :: text) ↔ Finds pattern text := by
  by_cases hc : c = '*'
  · subst hc
    obtain rfl := hcd.resolve_left (by decide)
    exact finds_star_same_iff
  · rw [finds_cons_iff hc]
    constructor
    · rintro ⟨_, _, he, -, h⟩
      cases he
      exact h
    · exact fun h => ⟨d, text, rfl, hcd, h⟩

/-- A star takes the text up to any place, unless it meets a star there. -/
theorem finds_star_iff (hhead : text.head? ≠ some '*') :
    Finds ('*' :: pattern) text ↔ ∃ tail, tail <:+ text ∧ Finds pattern tail := by
  constructor
  · intro h
    cases h with
    | star gap _ h => exact ⟨_, List.suffix_append _ _, h⟩
    | same h => exact absurd rfl hhead
    | char hne => exact absurd rfl hne
  · rintro ⟨tail, ⟨gap, rfl⟩, h⟩
    exact .star gap hhead h

/-- The rest of the pattern is found in a later part of the text. -/
theorem exists_suffix_of_finds_cons (h : Finds (c :: pattern) text) :
    ∃ tail, tail <:+ text ∧ Finds pattern tail := by
  cases h with
  | star gap _ h => exact ⟨_, List.suffix_append _ _, h⟩
  | same h | any _ h | char _ _ h => exact ⟨_, List.suffix_cons _ _, h⟩

/-- Only stars stand for nothing. -/
theorem finds_nil_iff : Finds pattern [] ↔ pattern.all (· = '*') = true := by
  induction pattern with
  | nil => simpa using Finds.nil
  | cons c pattern ih =>
    by_cases hc : c = '*'
    · subst hc
      rw [finds_star_iff (by simp)]
      simp only [List.suffix_nil, exists_eq_left, ih]
      simp
    · simp [finds_cons_iff hc, hc]

/-- What begins with the text is a match for the text and a star. -/
theorem standsFor_append_star (hplain : '*' ∉ text) :
    StandsFor (text ++ ['*']) (text ++ rest) := by
  induction text with
  | nil => simpa using StandsFor.star rest .nil
  | cons c text ih =>
    rw [List.mem_cons, not_or] at hplain
    have hrest := ih hplain.2
    by_cases hq : c = '?'
    · subst hq
      exact .any _ hrest
    · exact .char (Ne.symm hplain.1) hq hrest

/-- A text without stars or question marks, and a star after it, stand for what begins with the
text. -/
theorem prefix_of_standsFor_append_star (hstar : '*' ∉ text) (hany : '?' ∉ text)
    (h : StandsFor (text ++ ['*']) rest) : text <+: rest := by
  induction text generalizing rest with
  | nil => exact List.nil_prefix
  | cons c text ih =>
    rw [List.mem_cons, not_or] at hstar hany
    rw [List.cons_append] at h
    cases h with
    | star => exact absurd rfl hstar.1
    | any => exact absurd rfl hany.1
    | char _ _ h => exact List.cons_prefix_cons.mpr ⟨rfl, ih hstar.2 hany.2 h⟩

/-! ## One stretch of a pattern -/

/-- Whether the pattern is found in the text is the same as `P`; it is found in a later part of
the text only if `P`. -/
def Settles (pattern text : List Char) (P : Prop) : Prop :=
  (P → Finds pattern text) ∧ ∀ tail, tail <:+ text → Finds pattern tail → P

namespace Settles

/-- What is found in a later part begins there with a character, or with any gap. -/
theorem meet (hcd : c = '?' ∨ c = d) (h : Settles pattern text P) :
    Settles (c :: pattern) (d :: text) P := by
  refine ⟨fun hP => (finds_meet_iff hcd).mpr (h.1 hP), fun tail htail hs => ?_⟩
  rcases List.suffix_cons_iff.mp htail with rfl | htail
  · exact h.2 text List.suffix_rfl ((finds_meet_iff hcd).mp hs)
  · obtain ⟨tail', htail', hs⟩ := exists_suffix_of_finds_cons hs
    exact h.2 tail' (htail'.trans htail) hs

/-- From where a star meets another character the rest is found if it is found anywhere. -/
theorem star (hhead : text.head? ≠ some '*') :
    Settles ('*' :: pattern) text (Finds ('*' :: pattern) text) := by
  refine ⟨id, fun tail htail hs => ?_⟩
  obtain ⟨tail', htail', hs⟩ := exists_suffix_of_finds_cons hs
  exact (finds_star_iff hhead).mpr ⟨tail', htail'.trans htail, hs⟩

theorem finds_iff (h : Settles pattern text P) : Finds pattern text ↔ P :=
  ⟨h.2 text List.suffix_rfl, h.1⟩

theorem suffix_iff (h : Settles pattern text P) :
    (∃ tail, tail <:+ text ∧ Finds pattern tail) ↔ P := by
  constructor
  · rintro ⟨tail, htail, hs⟩
    exact h.2 tail htail hs
  · intro hP
    exact ⟨text, List.suffix_rfl, h.1 hP⟩

end Settles

/-- How far the pattern goes along the text tells whether it is found there. At a star, what is
left of the text is as good as any shorter rest. -/
def Advance.Tells (pattern text : List Char) : Advance → Prop
  | .over done => Settles pattern text (done = true)
  | .stuck => ¬ Finds pattern text
  | .star rest left => Settles pattern text (Finds ('*' :: rest) left) ∧ left.head? ≠ some '*' ∧
      rest.count '*' < pattern.count '*'

theorem Advance.Tells.meet {a : Advance} (hcd : c = '?' ∨ c = d) (h : a.Tells pattern text) :
    a.Tells (c :: pattern) (d :: text) := by
  rcases a with done | _ | ⟨rest, left⟩
  · exact Settles.meet hcd h
  · exact fun hs => h ((finds_meet_iff hcd).mp hs)
  · obtain ⟨hsettles, hhead, hcount⟩ := h
    exact ⟨hsettles.meet hcd, hhead, Nat.lt_of_lt_of_le hcount List.count_le_count_cons⟩

theorem tells_advance : (advance pattern text).Tells pattern text := by
  fun_induction advance pattern text with
  | case1 pattern =>
    refine ⟨finds_nil_iff.mpr, ?_⟩
    intro tail htail hs
    obtain rfl := List.suffix_nil.mp htail
    exact finds_nil_iff.mp hs
  | case2 d text =>
    rintro ⟨⟩
  | case3 c pattern d text hcd ih =>
    exact ih.meet (by simpa using hcd)
  | case4 pattern d text hcd =>
    have hd : d ≠ '*' := fun hd => hcd (by simp [hd])
    exact ⟨.star (by simpa using hd), by simpa using hd, by simp⟩
  | case5 c pattern d text hcd hstar =>
    intro hs
    obtain ⟨_, _, he, hcd', -⟩ := (finds_cons_iff hstar).mp hs
    cases he
    simp [hcd'] at hcd

/-! ## The whole pattern -/

theorem seek_iff {next : (pattern text : List Char) → Bool}
    (hnext : ∀ rest left, rest.count '*' < pattern.count '*' → left.head? ≠ some '*' →
      (next rest left = true ↔ Finds ('*' :: rest) left)) :
    seek next pattern text = true ↔ ∃ tail, tail <:+ text ∧ Finds pattern tail := by
  induction text with
  | nil => simp [seek, finds_nil_iff]
  | cons d text ih =>
    have h : (advance pattern (d :: text)).Tells pattern (d :: text) := tells_advance
    rw [seek]
    split
    · rename_i done ha
      rw [ha] at h
      exact (Settles.suffix_iff h).symm
    · rename_i rest left ha
      rw [ha] at h
      obtain ⟨hsettles, hhead, hcount⟩ := h
      rw [hnext rest left hcount hhead, hsettles.suffix_iff]
    · rename_i ha
      rw [ha] at h
      rw [ih]
      simp only [List.suffix_cons_iff]
      constructor
      · rintro ⟨tail, htail, hs⟩
        exact ⟨tail, .inr htail, hs⟩
      · rintro ⟨tail, rfl | htail, hs⟩
        · exact absurd hs h
        · exact ⟨tail, htail, hs⟩

theorem afterStar_iff {stars : Nat} (hstars : pattern.count '*' ≤ stars) :
    afterStar stars pattern text = true ↔ ∃ tail, tail <:+ text ∧ Finds pattern tail := by
  induction stars generalizing pattern text with
  | zero =>
    refine seek_iff fun rest left hcount _ => ?_
    omega
  | succ stars ih =>
    refine seek_iff fun rest left hcount hhead => ?_
    rw [ih (by omega), finds_star_iff hhead]

theorem matchesChars_iff : matchesChars pattern text = true ↔ Finds pattern text := by
  have h : (advance pattern text).Tells pattern text := tells_advance
  rw [matchesChars]
  split
  · rename_i done ha
    rw [ha] at h
    exact (Settles.finds_iff h).symm
  · rename_i rest left ha
    rw [ha] at h
    obtain ⟨hsettles, hhead, -⟩ := h
    rw [afterStar_iff (Nat.le_refl _), ← finds_star_iff hhead, hsettles.finds_iff]
  · rename_i ha
    rw [ha] at h
    exact iff_of_false Bool.false_ne_true h

/-! ## The matcher as a loop -/

/-- What is left of the pattern and of the text. After a star, also what follows the latest one
in the pattern, and the text from where that is tried. -/
structure Scan where
  pattern : List Char
  text : List Char
  back : Option (List Char × List Char)

namespace Scan

/-- Goes back to the latest star, and tries the text from one character further on. -/
def retry : Option (List Char × List Char) → Scan ⊕ Bool
  | some (pattern, _ :: text) => .inl ⟨pattern, text, some (pattern, text)⟩
  | _ => .inr false

/-- Another state, or the answer. -/
def step : Scan → Scan ⊕ Bool
  | ⟨pattern, [], _⟩ => .inr (pattern.all (· = '*'))
  | ⟨[], _ :: _, back⟩ => retry back
  | ⟨c :: pattern, d :: text, back⟩ =>
    if c = '?' || c = d then .inl ⟨pattern, text, back⟩
    else if c = '*' then .inl ⟨pattern, d :: text, some (pattern, d :: text)⟩
    else retry back

/-- After finitely many steps the answer comes. -/
inductive Ends : Scan ⊕ Bool → Bool → Prop where
  | answer (b : Bool) : Ends (.inr b) b
  | step {s : Scan} {b : Bool} : Ends s.step b → Ends (.inl s) b

variable {back : Option (List Char × List Char)} {b : Bool}

/-- Where the loop is after a stretch of the pattern. -/
def afterStretch (back : Option (List Char × List Char)) : Advance → Scan ⊕ Bool
  | .over done => .inr done
  | .stuck => retry back
  | .star rest left => .inl ⟨rest, left, some (rest, left)⟩

theorem ends_of_advance (h : Ends (afterStretch back (advance pattern text)) b) :
    Ends (.inl ⟨pattern, text, back⟩) b := by
  fun_induction advance pattern text with
  | case1 pattern => exact .step h
  | case2 d text => exact .step h
  | case3 c pattern d text hcd ih =>
    refine .step ?_
    rw [step, if_pos hcd]
    exact ih h
  | case4 pattern d text hcd =>
    refine .step ?_
    rw [step, if_neg hcd, if_pos rfl]
    exact h
  | case5 c pattern d text hcd hstar =>
    refine .step ?_
    rw [step, if_neg hcd, if_neg hstar]
    exact h

theorem ends_seek {next : (pattern text : List Char) → Bool}
    (hnext : ∀ rest left, rest.count '*' < pattern.count '*' →
      Ends (.inl ⟨rest, left, some (rest, left)⟩) (next rest left)) :
    Ends (.inl ⟨pattern, text, some (pattern, text)⟩) (seek next pattern text) := by
  induction text with
  | nil => exact .step (.answer _)
  | cons d text ih =>
    have h : (advance pattern (d :: text)).Tells pattern (d :: text) := tells_advance
    apply ends_of_advance
    rw [seek]
    split
    · rename_i done ha
      rw [ha]
      exact .answer done
    · rename_i rest left ha
      rw [ha] at h ⊢
      exact hnext rest left h.2.2
    · rename_i ha
      rw [ha]
      exact ih

theorem ends_afterStar {stars : Nat} (hstars : pattern.count '*' ≤ stars) :
    Ends (.inl ⟨pattern, text, some (pattern, text)⟩) (afterStar stars pattern text) := by
  induction stars generalizing pattern text with
  | zero =>
    refine ends_seek fun rest left hcount => ?_
    omega
  | succ stars ih => exact ends_seek fun rest left hcount => ih (by omega)

/-- The loop ends on all patterns and texts, with the answer of the matcher. -/
theorem ends_matchesChars : Ends (.inl ⟨pattern, text, none⟩) (matchesChars pattern text) := by
  apply ends_of_advance
  rw [matchesChars]
  split
  · rename_i done ha
    rw [ha]
    exact .answer done
  · rename_i rest left ha
    rw [ha]
    exact ends_afterStar (Nat.le_refl _)
  · rename_i ha
    rw [ha]
    exact .answer false

end Scan

end SwitchLab.Glob

namespace SwitchLab

open Glob

variable {pattern text : String}

theorem globMatches_iff_finds :
    globMatches pattern text = true ↔ Finds pattern.toList text.toList := matchesChars_iff

/-- Every match is found in a text without a star. -/
theorem globMatches_iff (hplain : '*' ∉ text.toList) :
    globMatches pattern text = true ↔ StandsFor pattern.toList text.toList :=
  globMatches_iff_finds.trans ⟨Finds.standsFor, fun h => h.finds hplain⟩

/-- The search for a match ends always. It finds what the pattern stands for, but for the matches
in which a star meets a star of the text and has to stand for more or less than that; without a
star in the text it finds all. -/
theorem globMatches_ends_finds (pattern text : String) :
    Scan.Ends (.inl ⟨pattern.toList, text.toList, none⟩) (globMatches pattern text) ∧
    (globMatches pattern text = true ↔ Finds pattern.toList text.toList) ∧
    (globMatches pattern text = true → StandsFor pattern.toList text.toList) ∧
    ('*' ∉ text.toList → StandsFor pattern.toList text.toList →
      globMatches pattern text = true) :=
  ⟨Scan.ends_matchesChars, globMatches_iff_finds, fun h => (globMatches_iff_finds.mp h).standsFor,
    fun hplain => (globMatches_iff hplain).mpr⟩

theorem globMatches_ends_finds_ports :
    Scan.Ends (.inl ⟨"P?RT|*".toList, "PORT|Ethernet0".toList, none⟩)
      (globMatches "P?RT|*" "PORT|Ethernet0") ∧
    (globMatches "P?RT|*" "PORT|Ethernet0" = true ↔
      Finds "P?RT|*".toList "PORT|Ethernet0".toList) ∧
    (globMatches "P?RT|*" "PORT|Ethernet0" = true ∧
      StandsFor "P?RT|*".toList "PORT|Ethernet0".toList) ∧
    ('*' ∉ "PORT|Ethernet0".toList ∧ StandsFor "P?RT|*".toList "PORT|Ethernet0".toList ∧
      globMatches "P?RT|*" "PORT|Ethernet0" = true) := by
  obtain ⟨hends, hfinds, hsound, hcomplete⟩ := globMatches_ends_finds "P?RT|*" "PORT|Ethernet0"
  have hmatch : globMatches "P?RT|*" "PORT|Ethernet0" = true := by decide +kernel
  have hplain : '*' ∉ "PORT|Ethernet0".toList := by decide +kernel
  exact ⟨hends, hfinds, ⟨hmatch, hsound hmatch⟩, hplain, hsound hmatch,
    hcomplete hplain (hsound hmatch)⟩

/-- A pattern of one star stands for every text, and it is not found in one that begins with a
star and goes on. -/
theorem star_misses_star :
    StandsFor "*".toList "*a".toList ∧ globMatches "*" "*a" = false := by
  refine ⟨?_, by decide +kernel⟩
  have h : StandsFor ['*'] (['*', 'a'] ++ []) := .star ['*', 'a'] .nil
  simpa using h

end SwitchLab
