import SwitchLab.Proofs.Texts
import SwitchLab.Text.Word

/-! The characters of words and the decimal digits, as far as the tables of all
characters tell: none of them is a blank. -/

namespace SwitchLab

namespace CharSet

variable {s t : CharSet} {sets : List CharSet} {c : Char} {n low high : Nat}
  {ranges : List (Nat × Nat)}

/-- One of the ranges goes over the code point. -/
def Covered (ranges : List (Nat × Nat)) (n : Nat) : Prop :=
  ∃ r ∈ ranges, r.1 ≤ n ∧ n ≤ r.2

theorem contains_iff : s.contains c = true ↔ Covered s.ranges c.toNat := by
  simp [contains, Covered]

/-- Ranges that touch leave no gap between them, in whatever order they stand. -/
theorem covered_of_joinFrom (h : Covered (joinFrom low high ranges) n) :
    Covered ((low, high) :: ranges) n := by
  induction ranges generalizing low high with
  | nil => exact h
  | cons r ranges ih =>
    obtain ⟨l, k⟩ := r
    rw [joinFrom] at h
    split at h
    · rename_i htouch
      obtain ⟨r, hr, hn⟩ := ih h
      rcases List.mem_cons.mp hr with rfl | hr
      · by_cases hhigh : n ≤ high
        · exact ⟨(low, high), List.mem_cons_self, hn.1, hhigh⟩
        · refine ⟨(l, k), List.mem_cons_of_mem _ List.mem_cons_self, ?_⟩
          show l ≤ n ∧ n ≤ k
          have hmax : n ≤ max high k := hn.2
          omega
      · exact ⟨r, List.mem_cons_of_mem _ (List.mem_cons_of_mem _ hr), hn⟩
    · obtain ⟨r, hr, hn⟩ := h
      rcases List.mem_cons.mp hr with rfl | hr
      · exact ⟨(low, high), List.mem_cons_self, hn⟩
      · obtain ⟨r, hr, hn⟩ := ih ⟨r, hr, hn⟩
        exact ⟨r, List.mem_cons_of_mem _ hr, hn⟩

theorem covered_of_join (h : Covered (join ranges) n) : Covered ranges n := by
  cases ranges with
  | nil => exact h
  | cons r ranges => exact covered_of_joinFrom h

theorem contains_of_union (h : (s.union t).contains c = true) :
    s.contains c = true ∨ t.contains c = true := by
  rw [contains_iff] at h
  obtain ⟨r, hr, hc⟩ := covered_of_join h
  rcases List.mem_merge.mp hr with hr | hr
  · exact .inl (contains_iff.mpr ⟨r, hr, hc⟩)
  · exact .inr (contains_iff.mpr ⟨r, hr, hc⟩)

/-! ## Sets without blanks -/

/-- No character of the set is a blank. -/
def Solid (s : CharSet) : Prop := ∀ c, s.contains c = true → Text.isBlank c = false

theorem solid_empty : empty.Solid := by
  rintro c ⟨⟩

theorem Solid.union (hs : s.Solid) (ht : t.Solid) : (s.union t).Solid := by
  intro c hc
  rcases contains_of_union hc with hc | hc
  · exact hs c hc
  · exact ht c hc

theorem Solid.unions (h : ∀ s ∈ sets, s.Solid) : (unions sets).Solid := by
  suffices fold : ∀ t : CharSet, t.Solid → (sets.foldl CharSet.union t).Solid from
    fold _ solid_empty
  intro t ht
  induction sets generalizing t with
  | nil => exact ht
  | cons s sets ih =>
    rw [List.forall_mem_cons] at h
    exact ih h.2 _ (ht.union h.1)

/-- The ranges between blanks. -/
def betweenBlanks : List (Nat × Nat) :=
  [(0x21, 0x84), (0x86, 0x9F), (0xA1, 0x167F), (0x1681, 0x1FFF), (0x200B, 0x2027),
    (0x202A, 0x202E), (0x2030, 0x205E), (0x2060, 0x2FFF), (0x3001, lastCode)]

theorem isBlank_of_between {r : Nat × Nat} (hr : r ∈ betweenBlanks)
    (hc : r.1 ≤ c.toNat ∧ c.toNat ≤ r.2) : Text.isBlank c = false := by
  simp only [betweenBlanks, List.mem_cons, List.not_mem_nil, or_false] at hr
  simp only [Text.isBlank, Bool.or_eq_false_iff, Bool.and_eq_false_iff, decide_eq_false_iff_not]
  rcases hr with rfl | rfl | rfl | rfl | rfl | rfl | rfl | rfl | rfl <;> dsimp only at hc <;> omega

/-- The ranges that are written in a text are apart from the blanks. They are many, and `Nat.ble` is
the comparison that is evaluated fastest. -/
def writesSolid (text : List Char) : Bool :=
  ((Text.runsOutside Text.isBlank text).filterMap rangeOf?).all fun r =>
    betweenBlanks.any fun b => Nat.ble b.1 r.1 && Nat.ble r.2 b.2

/-- The characters of the text are given as well: a text is made of its characters at once, but to
take it apart takes long. -/
theorem solid_ofText {s : String} {text : List Char} (hs : s = String.ofList text)
    (h : writesSolid text = true) : (ofText s).Solid := by
  intro c hc
  rw [contains_iff, ofText, hs, String.toList_ofList] at hc
  obtain ⟨r, hr, hrange⟩ := hc
  obtain ⟨b, hb, hwithin⟩ := List.any_eq_true.mp (List.all_eq_true.mp h r hr)
  obtain ⟨hlow, hhigh⟩ := Bool.and_eq_true_iff.mp hwithin
  refine isBlank_of_between hb ⟨?_, ?_⟩
  · exact Nat.le_trans (Nat.le_of_ble_eq_true hlow) hrange.1
  · exact Nat.le_trans hrange.2 (Nat.le_of_ble_eq_true hhigh)

end CharSet

/-! ## The tables -/

namespace Unicode

open CharSet (Solid solid_ofText)

/-- The categories of the characters of words. -/
def wordCategories : List String := ["Ll", "Lu", "Lt", "Lm", "Lo", "Nl", "M", "Nd", "Pc"]

/-- The names, as they are compared, of the properties that characters of words have besides. -/
def wordProperties : List String :=
  ["otherlowercase", "otheruppercase", "otheralphabetic", "joincontrol"]

set_option maxRecDepth 40000 in
theorem solid_wordCategories : ∀ e ∈ categoryEntries.filter fun e =>
    wordCategories.any fun short => (Text.afterStart? short (e.names.headD "")).isSome,
    e.set.Solid := by
  simp only [wordCategories, Text.afterStart?, List.headD_eq_head?_getD, Option.isSome_map,
    List.any_cons, String.reduceToList, ↓Char.isValue, List.any_nil, Bool.or_false,
    categoryEntries, List.head?_cons, Option.getD_some, Text.afterStartChars, Char.reduceEq,
    ↓reduceIte, Option.isSome_none, Bool.or_self, Bool.false_eq_true, not_false_eq_true,
    List.filter_cons_of_neg, Option.isSome_some, List.filter_cons_of_pos, Bool.or_true,
    List.filter_nil, List.mem_cons, List.not_mem_nil, or_false, forall_eq_or_imp, forall_eq]
  exact ⟨solid_ofText rfl (by decide +kernel), solid_ofText rfl (by decide +kernel),
    solid_ofText rfl (by decide +kernel), solid_ofText rfl (by decide +kernel),
    solid_ofText rfl (by decide +kernel), solid_ofText rfl (by decide +kernel),
    solid_ofText rfl (by decide +kernel), solid_ofText rfl (by decide +kernel),
    solid_ofText rfl (by decide +kernel), solid_ofText rfl (by decide +kernel),
    solid_ofText rfl (by decide +kernel)⟩

set_option maxRecDepth 40000 in
theorem solid_wordProperties : ∀ e ∈ binaryEntries.filter fun e =>
    e.names.any (looseName · ∈ wordProperties), e.set.Solid := by
  simp only [wordProperties, looseName, ↓Char.isValue, Bool.and_eq_true, decide_eq_true_eq,
    counted, isFiller, Bool.not_or, List.mem_cons, List.not_mem_nil, or_false, Bool.decide_or,
    binaryEntries, List.any_cons, String.reduceToList, Char.reduceToLower, Char.reduceEq, and_self,
    ↓reduceIte, decide_false, Bool.not_false, Bool.and_self, Char.reduceToNat, Nat.reduceLT,
    decide_true, List.filter_cons_of_pos, List.filter_nil, List.map_cons, List.map_nil,
    String.ofList_cons, String.reduceSingleton, String.ofList_nil, String.append_empty,
    String.reduceAppend, String.reduceEq, Bool.or_self, and_true, Bool.not_true, Bool.and_false,
    Bool.and_true, Bool.false_eq_true, not_false_eq_true, List.filter_cons_of_neg, List.any_nil,
    and_false, Bool.or_true, Bool.or_false, forall_eq_or_imp, forall_eq]
  exact ⟨solid_ofText rfl (by decide +kernel), solid_ofText rfl (by decide +kernel),
    solid_ofText rfl (by decide +kernel), solid_ofText rfl (by decide +kernel)⟩

theorem solid_inCategory {short : String} (h : short ∈ wordCategories) :
    (inCategory short).Solid := by
  refine .unions fun s hs => ?_
  obtain ⟨e, he, rfl⟩ := List.mem_map.mp hs
  obtain ⟨hmem, hcalled⟩ := List.mem_filter.mp he
  refine solid_wordCategories e (List.mem_filter.mpr ⟨hmem, ?_⟩)
  exact List.any_eq_true.mpr ⟨short, h, hcalled⟩

theorem solid_inCategories {shorts : List String} (h : shorts ⊆ wordCategories) :
    (inCategories shorts).Solid := by
  refine .unions fun s hs => ?_
  obtain ⟨short, hshort, rfl⟩ := List.mem_map.mp hs
  exact solid_inCategory (h hshort)

theorem solid_listed {name : String} (h : looseName name ∈ wordProperties) :
    (listed name).Solid := by
  unfold listed findSet?
  cases hfound : entryNamed? (looseName name) binaryEntries with
  | none => exact CharSet.solid_empty
  | some e =>
    have hcalled : e.isCalled (looseName name) = true := List.find?_some hfound
    obtain ⟨n, hn, he⟩ := List.any_eq_true.mp hcalled
    rw [decide_eq_true_eq] at he
    refine solid_wordProperties e (List.mem_filter.mpr ⟨List.mem_of_find?_eq_some hfound, ?_⟩)
    refine List.any_eq_true.mpr ⟨n, hn, ?_⟩
    rw [he]
    exact decide_eq_true h

theorem solid_alphabetic : alphabetic.Solid := by
  have lower : lowercase.Solid :=
    (solid_inCategory (by decide)).union (solid_listed (by decide +kernel))
  have upper : uppercase.Solid :=
    (solid_inCategory (by decide)).union (solid_listed (by decide +kernel))
  have others : (inCategories ["Lt", "Lm", "Lo", "Nl"]).Solid := solid_inCategories (by decide)
  have further : (listed "Other_Alphabetic").Solid := solid_listed (by decide +kernel)
  refine .unions ?_
  simp [lower, upper, others, further]

end Unicode

namespace Text

variable {c : Char}

theorem solid_decimalDigits : decimalDigits.Solid := Unicode.solid_inCategory (by decide)

theorem solid_wordCharacters : wordCharacters.Solid := by
  have others : (Unicode.inCategories ["M", "Nd", "Pc"]).Solid :=
    Unicode.solid_inCategories (by decide)
  have joiners : (Unicode.listed "Join_Control").Solid := Unicode.solid_listed (by decide +kernel)
  refine .unions ?_
  simp [Unicode.solid_alphabetic, others, joiners]

/-- The first characters are in no table. -/
theorem isAlphanum_of_isBlank (h : isBlank c = true) (hc : c.toNat < 0x80) :
    c.isAlphanum = false := by
  simp only [isBlank, Bool.or_eq_true, Bool.and_eq_true, decide_eq_true_eq] at h
  cases halnum : c.isAlphanum with
  | false => rfl
  | true =>
    have range := toNat_of_isAlphanum halnum
    omega

/-- A blank is no decimal digit. -/
theorem isDecimalDigit_of_isBlank (h : isBlank c = true) : isDecimalDigit c = false := by
  unfold isDecimalDigit
  split
  · rename_i hc
    exact (Bool.or_eq_false_iff.mp (isAlphanum_of_isBlank h hc)).2
  · cases hdigit : decimalDigits.contains c with
    | false => rfl
    | true => exact absurd h (by simp [solid_decimalDigits c hdigit])

/-- A blank is no character of a word. -/
theorem isWordChar_of_isBlank (h : isBlank c = true) : isWordChar c = false := by
  unfold isWordChar
  split
  · rename_i hc
    have hline : c ≠ '_' := by
      rintro rfl
      exact absurd h (by decide)
    simp [isAlphanum_of_isBlank h hc, hline]
  · cases hword : wordCharacters.contains c with
    | false => rfl
    | true => exact absurd h (by simp [solid_wordCharacters c hword])

end Text

end SwitchLab
