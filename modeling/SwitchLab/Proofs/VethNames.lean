import Mathlib.Data.String.Basic
import SwitchLab.Proofs.Provisioning
import SwitchLab.Proofs.Texts
import SwitchLab.Topology.Veth

/-! The names of the veth pairs of a topology. The stem gives way to the number of
the link, so a longer number may take the place of digits at the end of the stem:
then two links share their names, and in no other case. -/

namespace SwitchLab.Veth

variable {stem : String} {link link' short long : Nat} {side side' : Char} {tip tip' : Nat}

theorem utf8ByteSize_ofList_eq_length {cs : List Char} (h : ∀ c ∈ cs, c.utf8Size = 1) :
    (String.ofList cs).utf8ByteSize = cs.length := by
  rw [String.utf8ByteSize_ofList]
  induction cs with
  | nil => rfl
  | cons c cs ih =>
    rw [List.forall_mem_cons] at h
    rw [String.utf8Len_cons, h.1, ih h.2, List.length_cons]

/-- A text of characters of one byte each. -/
theorem utf8ByteSize_eq_length {s : String} (h : ∀ c ∈ s.toList, c.utf8Size = 1) :
    s.utf8ByteSize = s.toList.length := by
  have hsize := utf8ByteSize_ofList_eq_length h
  rwa [String.ofList_toList] at hsize

def digits (link : Nat) : List Char := Nat.toDigits 10 link

/-- What is left of the stem in the names of a link. -/
def kept (stem : String) (link : Nat) : List Char := stem.toList.take (13 - (digits link).length)

theorem digits_inj : digits link = digits link' ↔ link = link' := by
  rw [digits, digits, ← Nat.toList_repr, ← Nat.toList_repr, String.toList_inj, natRepr_inj]

theorem length_digits_le (h : link < 10 ^ 13) : (digits link).length ≤ 13 :=
  (Nat.length_toDigits_le_iff (by decide) (by decide)).mpr h

theorem utf8Size_of_isAlphanum {c : Char} (h : c.isAlphanum = true) : c.utf8Size = 1 := by
  have ascii : c.toNat ≤ 122 := (Text.toNat_of_isAlphanum h).2
  rw [Char.utf8Size_eq_one_iff, UInt32.le_iff_toNat_le]
  show c.toNat ≤ 127
  omega

theorem toList_suffix (htip : tip < 10) :
    (suffix link side tip).toList = digits link ++ [side, tip.digitChar] := by
  simp [suffix, digits, Nat.toDigits_of_lt_base htip]

theorem utf8Size_suffix (hside : side.isAlphanum = true) (htip : tip < 10) :
    ∀ c ∈ (suffix link side tip).toList, c.utf8Size = 1 := by
  intro c hc
  rw [toList_suffix htip, List.mem_append, List.mem_cons, List.mem_singleton] at hc
  apply utf8Size_of_isAlphanum
  rcases hc with hc | rfl | rfl
  · have digit : c.isDigit = true := Nat.isDigit_of_mem_toDigits (by decide) (by decide) hc
    simp [Char.isAlphanum, digit]
  · exact hside
  · have digit : tip.digitChar.isDigit = true :=
      Nat.isDigit_of_mem_toDigits (by decide) (by decide)
        (Nat.toDigits_of_lt_base htip ▸ List.mem_singleton_self _)
    simp [Char.isAlphanum, digit]

theorem toList_name (hside : side.isAlphanum = true) (htip : tip < 10) :
    (name stem link side tip).toList =
      kept stem link ++ (digits link ++ [side, tip.digitChar]) := by
  have size : (suffix link side tip).utf8ByteSize = (digits link).length + 2 := by
    rw [utf8ByteSize_eq_length (utf8Size_suffix hside htip), toList_suffix htip]
    simp
  have room : 15 - ((digits link).length + 2) = 13 - (digits link).length := by omega
  simp only [name, size, room, String.toList_append, String.toList_ofList, toList_suffix htip]
  rfl

/-! ## The stem of a topology -/

variable {topology : String}

theorem isAlphanum_of_mem_stem {c : Char} (h : c ∈ (Veth.stem topology).toList) :
    c.isAlphanum = true := by
  rw [Veth.stem] at h
  split at h
  · have plain : "dvt".toList.all Char.isAlphanum = true := by decide +kernel
    exact List.all_eq_true.mp plain c h
  · rw [String.toList_ofList] at h
    exact (List.mem_filter.mp (List.mem_of_mem_take h)).2

theorem length_stem_le : (Veth.stem topology).toList.length ≤ 8 := by
  rw [Veth.stem]
  split
  · decide
  · rw [String.toList_ofList]
    exact List.length_take_le ..

/-! ## Equal names -/

/-- The longer number pushes the end of the stem out, and begins with the digits that stood
there. -/
def Blends (stem : String) (short long : Nat) : Prop :=
  ∃ lost : List Char, lost ≠ [] ∧ digits long = lost ++ digits short ∧
    kept stem short = kept stem long ++ lost

/-- Two names of different links begin alike just if one number blends with the stem. -/
theorem kept_append_digits_eq_iff :
    kept stem link ++ digits link = kept stem link' ++ digits link' ↔
      link = link' ∨ Blends stem link link' ∨ Blends stem link' link := by
  constructor
  · intro h
    rcases List.append_eq_append_iff.mp h with ⟨lost, hkept, hdigits⟩ | ⟨lost, hkept, hdigits⟩
    · by_cases hlost : lost = []
      · subst hlost
        exact .inl (digits_inj.mp hdigits)
      · exact .inr (.inr ⟨lost, hlost, hdigits, hkept⟩)
    · by_cases hlost : lost = []
      · subst hlost
        exact .inl (digits_inj.mp hdigits.symm)
      · exact .inr (.inl ⟨lost, hlost, hdigits, hkept⟩)
  · rintro (rfl | ⟨lost, -, hdigits, hkept⟩ | ⟨lost, -, hdigits, hkept⟩)
    · rfl
    · rw [hdigits, hkept, List.append_assoc]
    · rw [hdigits, hkept, List.append_assoc]

theorem digitChar_inj (htip : tip < 10) (htip' : tip' < 10) :
    tip.digitChar = tip'.digitChar ↔ tip = tip' := by
  have single {n : Nat} (hn : n < 10) : digits n = [n.digitChar] := Nat.toDigits_of_lt_base hn
  rw [← digits_inj, single htip, single htip', List.singleton_inj]

theorem name_eq_iff (hside : side.isAlphanum = true) (hside' : side'.isAlphanum = true)
    (htip : tip < 10) (htip' : tip' < 10) :
    name stem link side tip = name stem link' side' tip' ↔ side = side' ∧ tip = tip' ∧
      (link = link' ∨ Blends stem link link' ∨ Blends stem link' link) := by
  rw [← kept_append_digits_eq_iff, ← digitChar_inj htip htip', ← String.toList_inj,
    toList_name hside htip, toList_name hside' htip', ← List.append_assoc, ← List.append_assoc]
  constructor
  · intro h
    obtain ⟨hstart, hend⟩ := List.append_inj' h rfl
    obtain ⟨hs, ht⟩ := List.cons.inj hend
    exact ⟨hs, List.singleton_inj.mp ht, hstart⟩
  · rintro ⟨rfl, ht, hstart⟩
    rw [hstart, ht]

theorem utf8ByteSize_name_le (hlink : link < 10 ^ 13) (hside : side.isAlphanum = true)
    (htip : tip < 10) : (name (Veth.stem topology) link side tip).utf8ByteSize ≤ 15 := by
  have sizes : ∀ c ∈ (name (Veth.stem topology) link side tip).toList, c.utf8Size = 1 := by
    intro c hc
    rw [name, String.toList_append, String.toList_ofList, List.mem_append] at hc
    rcases hc with hc | hc
    · exact utf8Size_of_isAlphanum (isAlphanum_of_mem_stem (List.mem_of_mem_take hc))
    · exact utf8Size_suffix hside htip c hc
  have fits := length_digits_le hlink
  have room : (kept (Veth.stem topology) link).length ≤ 13 - (digits link).length :=
    List.length_take_le ..
  rw [utf8ByteSize_eq_length sizes, toList_name hside htip]
  simp only [List.length_append, List.length_cons, List.length_nil]
  omega

/-- Only numbers of five digits and more reach the stem of a topology. -/
theorem Blends.large (h : Blends (Veth.stem topology) short long) (hlong : long < 10 ^ 13) :
    10 ^ 4 ≤ short ∧ 10 ^ 5 ≤ long := by
  obtain ⟨lost, hlost, hdigits, hkept⟩ := h
  have hpos : 0 < lost.length := List.length_pos_iff.mpr hlost
  have hlength := congrArg List.length hdigits
  have hroom := congrArg List.length hkept
  have hfits := length_digits_le hlong
  have hstem : (Veth.stem topology).toList.length ≤ 8 := length_stem_le
  simp only [kept, List.length_append, List.length_take] at hlength hroom
  have least {n k : Nat} (hk : 0 < k) (hn : k < (digits n).length) : 10 ^ k ≤ n := by
    by_contra hlt
    exact absurd ((Nat.length_toDigits_le_iff (by decide) hk).mpr (Nat.lt_of_not_le hlt))
      (Nat.not_le_of_lt hn)
  exact ⟨least (by decide) (by omega), least (by decide) (by omega)⟩

/-- The names of the pairs of a topology fit into the name of an interface. They are different,
unless the number of a link blends with the stem, which takes a hundred thousand links. -/
theorem names_differ_or_blend (topology : String) (hlink : link < 10 ^ 13)
    (hlink' : link' < 10 ^ 13) (hside : side ∈ ['a', 'b']) (hside' : side' ∈ ['a', 'b'])
    (htip : tip ∈ [0, 1]) (htip' : tip' ∈ [0, 1]) :
    (name (Veth.stem topology) link side tip).utf8ByteSize ≤ 15 ∧
      (name (Veth.stem topology) link side tip = name (Veth.stem topology) link' side' tip' ↔
        side = side' ∧ tip = tip' ∧ (link = link' ∨ Blends (Veth.stem topology) link link' ∨
          Blends (Veth.stem topology) link' link)) ∧
      (link < 10 ^ 5 → link' < 10 ^ 5 →
        name (Veth.stem topology) link side tip = name (Veth.stem topology) link' side' tip' →
        link = link' ∧ side = side' ∧ tip = tip') := by
  have letter {c : Char} (hc : c ∈ ['a', 'b']) : c.isAlphanum = true := by
    have letters : ['a', 'b'].all Char.isAlphanum = true := by decide
    exact List.all_eq_true.mp letters c hc
  have one {n : Nat} (hn : n ∈ [0, 1]) : n < 10 := by
    have small : ∀ n ∈ [0, 1], n < 10 := by decide
    exact small n hn
  refine ⟨utf8ByteSize_name_le hlink (letter hside) (one htip),
    name_eq_iff (letter hside) (letter hside') (one htip) (one htip'), ?_⟩
  intro hsmall hsmall' h
  obtain ⟨hs, ht, rfl | hblend | hblend⟩ :=
    (name_eq_iff (letter hside) (letter hside') (one htip) (one htip')).mp h
  · exact ⟨rfl, hs, ht⟩
  · have hlarge := (hblend.large hlink').2
    omega
  · have hlarge := (hblend.large hlink).2
    omega

end SwitchLab.Veth

/-! ## Two links with the same names

The stem of the topology ends in a digit, and has eight characters. -/

namespace SwitchLab.BlendedLinks

def stem : String := Veth.stem "abcdefg1"

theorem blended_differ_or_blend :
    ((23456 : Nat) < 10 ^ 13 ∧ (123456 : Nat) < 10 ^ 13 ∧ 'a' ∈ ['a', 'b'] ∧ (0 : Nat) ∈ [0, 1]) ∧
    (Veth.name stem 23456 'a' 0).utf8ByteSize ≤ 15 ∧
      (Veth.name stem 23456 'a' 0 = Veth.name stem 123456 'a' 0 ↔
        'a' = 'a' ∧ (0 : Nat) = 0 ∧ ((23456 : Nat) = 123456 ∨ Veth.Blends stem 23456 123456 ∨
          Veth.Blends stem 123456 23456)) ∧
      ((23456 : Nat) < 10 ^ 5 → (123456 : Nat) < 10 ^ 5 →
        Veth.name stem 23456 'a' 0 = Veth.name stem 123456 'a' 0 →
        (23456 : Nat) = 123456 ∧ 'a' = 'a' ∧ (0 : Nat) = 0) :=
  ⟨⟨by decide, by decide, by decide, by decide⟩,
    Veth.names_differ_or_blend "abcdefg1" (by decide) (by decide) (by decide) (by decide)
      (by decide) (by decide)⟩

/-- Links 23456 and 123456 have the same name for their first end. -/
theorem links_share_name :
    (23456 : Nat) ≠ 123456 ∧ (123456 : Nat) < 10 ^ 13 ∧
    Veth.name stem 23456 'a' 0 = "abcdefg123456a0" ∧
    Veth.name stem 123456 'a' 0 = "abcdefg123456a0" := by
  decide +kernel

end SwitchLab.BlendedLinks
