import Mathlib.Data.List.Nodup
import Mathlib.Data.List.Perm.Subperm
import SwitchLab.Proofs.Reading
import SwitchLab.Proofs.Texts

/-! Key maps by look-up, sorted keys, and the keys of a table in a listing. -/

namespace SwitchLab

/-! ## Key maps -/

namespace KeyMap

variable {β γ : Type} {m : KeyMap β} {key k : String} {v : β} {f : γ → String} {g : γ → β}

theorem lookup_place {entries : List (String × β)} :
    lookup k (place key v entries) = if key = k then some v else lookup k entries := by
  induction entries with
  | nil => rfl
  | cons e entries ih =>
    obtain ⟨k', v'⟩ := e
    rw [place]
    split
    · rename_i he
      subst he
      by_cases h : k' = k <;> simp [lookup, h]
    · rename_i hne
      split
      · rfl
      · rw [lookup, ih, lookup]
        by_cases h : k' = k
        · have hk : key ≠ k := fun he => hne (h.trans he.symm)
          simp [h, hk]
        · simp [h]

@[simp] theorem get?_insert :
    (m.insert key v).get? k = if key = k then some v else m.get? k := lookup_place

theorem get?_foldl_of_notMem {xs : List γ} (hk : k ∉ xs.map f) :
    (xs.foldl (fun m y => m.insert (f y) (g y)) m).get? k = m.get? k := by
  induction xs generalizing m with
  | nil => rfl
  | cons y ys ih =>
    rw [List.map_cons, List.mem_cons, not_or] at hk
    rw [List.foldl_cons, ih hk.2, get?_insert, if_neg (Ne.symm hk.1)]

/-- Of entries with different keys each can be looked up. -/
theorem get?_foldl_insert {xs : List γ} {x : γ} (hn : (xs.map f).Nodup) (hx : x ∈ xs) :
    (xs.foldl (fun m y => m.insert (f y) (g y)) m).get? (f x) = some (g x) := by
  induction xs generalizing m with
  | nil => cases hx
  | cons y ys ih =>
    rw [List.map_cons, List.nodup_cons] at hn
    rw [List.foldl_cons]
    rcases List.mem_cons.mp hx with rfl | hx
    · rw [get?_foldl_of_notMem hn.1, get?_insert, if_pos rfl]
    · exact ih hn.2 hx

end KeyMap

/-! ## Key maps in order -/

namespace KeyMap

variable {β : Type} {m : KeyMap β} {key k : String} {v : β}

/-- The keys ascend, so none is there twice. -/
def Ascending (m : KeyMap β) : Prop := m.keys.Pairwise (· < ·)

theorem ascending_empty : (empty : KeyMap β).Ascending := .nil

theorem mem_keys_place {entries : List (String × β)} :
    k ∈ (place key v entries).map Prod.fst ↔ k = key ∨ k ∈ entries.map Prod.fst := by
  induction entries with
  | nil => simp [place]
  | cons e entries ih =>
    obtain ⟨k', v'⟩ := e
    rw [place]
    split
    · rename_i he
      simp [he]
    · split
      · simp
      · simp only [List.map_cons, List.mem_cons, ih]
        exact or_left_comm

theorem Ascending.insert (h : m.Ascending) : (m.insert key v).Ascending := by
  obtain ⟨entries⟩ := m
  show ((place key v entries).map Prod.fst).Pairwise (· < ·)
  replace h : (entries.map Prod.fst).Pairwise (· < ·) := h
  induction entries with
  | nil => simp [place]
  | cons e entries ih =>
    obtain ⟨k', v'⟩ := e
    obtain ⟨hfirst, hrest⟩ := List.pairwise_cons.mp h
    rw [place]
    split
    · rename_i he
      subst he
      exact h
    · rename_i hne
      split
      · rename_i hlt
        refine List.pairwise_cons.mpr ⟨?_, h⟩
        intro x hx
        rcases List.mem_cons.mp hx with rfl | hx
        · exact hlt
        · exact String.lt_trans hlt (hfirst x hx)
      · rename_i hnlt
        refine List.pairwise_cons.mpr ⟨?_, ih hrest⟩
        intro x hx
        rcases mem_keys_place.mp hx with rfl | hx
        · exact Std.lt_of_le_of_ne (String.not_lt.mp hnlt) hne
        · exact hfirst x hx

theorem Ascending.foldl_insert {pairs : List (String × β)} (h : m.Ascending) :
    (pairs.foldl (fun m p => m.insert p.1 p.2) m).Ascending :=
  List.foldlRecOn _ _ h fun _ hm _ _ => hm.insert

theorem ascending_ofPairs {pairs : List (String × β)} : (ofPairs pairs).Ascending :=
  ascending_empty.foldl_insert

theorem Ascending.erase (h : m.Ascending) : (m.erase key).Ascending :=
  List.Pairwise.sublist (List.filter_sublist.map Prod.fst) h

@[simp] theorem get?_erase : (m.erase key).get? k = if k = key then none else m.get? k := by
  obtain ⟨entries⟩ := m
  show lookup k (entries.filter (·.1 ≠ key)) = if k = key then none else lookup k entries
  induction entries with
  | nil => simp [lookup]
  | cons e entries ih =>
    obtain ⟨k', v'⟩ := e
    by_cases he : k' = key
    · subst he
      rw [List.filter_cons_of_neg (by simp), ih, lookup]
      split
      · rfl
      · rename_i hne
        rw [if_neg (Ne.symm hne)]
    · rw [List.filter_cons_of_pos (by simpa using he), lookup, lookup, ih]
      by_cases hk : k' = k
      · subst hk
        rw [if_pos rfl, if_neg he, if_pos rfl]
      · rw [if_neg hk, if_neg hk]

theorem mem_keys_iff : key ∈ m.keys ↔ ∃ v, m.get? key = some v := by
  obtain ⟨entries⟩ := m
  show key ∈ entries.map Prod.fst ↔ ∃ v, lookup key entries = some v
  induction entries with
  | nil => simp [lookup]
  | cons e entries ih =>
    obtain ⟨k', v'⟩ := e
    rw [List.map_cons, List.mem_cons, ih, lookup]
    by_cases hk : k' = key
    · simp [hk]
    · simp [hk, Ne.symm hk]

theorem contains_iff_mem : m.contains key = true ↔ key ∈ m.keys := by
  rw [contains, Option.isSome_iff_exists, mem_keys_iff]

/-- A key that is there already keeps its place. -/
theorem keys_insert (h : m.Ascending) (hk : key ∈ m.keys) : (m.insert key v).keys = m.keys := by
  obtain ⟨entries⟩ := m
  show (place key v entries).map Prod.fst = entries.map Prod.fst
  replace h : (entries.map Prod.fst).Pairwise (· < ·) := h
  replace hk : key ∈ entries.map Prod.fst := hk
  induction entries with
  | nil => cases hk
  | cons e entries ih =>
    obtain ⟨k', v'⟩ := e
    obtain ⟨hfirst, hrest⟩ := List.pairwise_cons.mp h
    rw [place]
    split
    · rename_i he
      rw [List.map_cons, List.map_cons, he]
    · rename_i hne
      have hmem : key ∈ entries.map Prod.fst := (List.mem_cons.mp hk).resolve_left (Ne.symm hne)
      rw [if_neg (String.lt_asymm (hfirst key hmem)), List.map_cons, ih hrest hmem, List.map_cons]

theorem Ascending.nodup_keys (h : m.Ascending) : m.keys.Nodup := by
  refine List.Pairwise.imp ?_ h
  rintro a _ hlt rfl
  exact String.lt_irrefl a hlt

theorem lookup_eq_some_iff {entries : List (String × β)} (hn : (entries.map Prod.fst).Nodup) :
    lookup key entries = some v ↔ (key, v) ∈ entries := by
  induction entries with
  | nil => simp [lookup]
  | cons e entries ih =>
    obtain ⟨k', v'⟩ := e
    rw [List.map_cons, List.nodup_cons] at hn
    rw [lookup, List.mem_cons, Prod.mk.injEq]
    split
    · rename_i hk
      subst hk
      have hnot : (k', v) ∉ entries := fun hm => hn.1 (List.mem_map.mpr ⟨_, hm, rfl⟩)
      simp [hnot, eq_comm]
    · rename_i hk
      rw [ih hn.2]
      simp [Ne.symm hk]

/-- Maps in order are equal if they have the same entries. -/
theorem Ascending.ext {m' : KeyMap β} (h : m.Ascending) (h' : m'.Ascending)
    (hget : ∀ key, m.get? key = m'.get? key) : m = m' := by
  obtain ⟨entries⟩ := m
  obtain ⟨entries'⟩ := m'
  have hperm : entries.Perm entries' := by
    refine (List.perm_ext_iff_of_nodup h.nodup_keys.of_map h'.nodup_keys.of_map).mpr ?_
    rintro ⟨k, v⟩
    rw [← lookup_eq_some_iff h.nodup_keys, ← lookup_eq_some_iff h'.nodup_keys]
    exact Eq.congr_left (hget k)
  have sorted {entries : List (String × β)} (h : (entries.map Prod.fst).Pairwise (· < ·)) :
      entries.Pairwise (·.1 < ·.1) := List.pairwise_map.mp h
  refine congrArg KeyMap.mk (hperm.eq_of_pairwise ?_ (sorted h) (sorted h'))
  intro a b _ _ hab hba
  exact absurd hba (String.lt_asymm hab)

theorem size_insert (h : m.get? key = none) : (m.insert key v).size = m.size + 1 := by
  obtain ⟨entries⟩ := m
  show (place key v entries).length = entries.length + 1
  replace h : lookup key entries = none := h
  induction entries with
  | nil => rfl
  | cons e entries ih =>
    obtain ⟨k', v'⟩ := e
    rw [lookup] at h
    split at h
    · cases h
    · rename_i hne
      rw [place, if_neg hne]
      split
      · rfl
      · rw [List.length_cons, ih h, List.length_cons]

end KeyMap

/-! ## Key maps of a list -/

namespace KeyMap

variable {β γ : Type} {m : KeyMap β} {k : String} {v : β} {f : γ → String} {g : γ → β}
  {xs : List γ}

/-- A look-up in a map that was made of entries with different keys. -/
theorem get?_foldl_insert_iff (hn : (xs.map f).Nodup) :
    (xs.foldl (fun m x => m.insert (f x) (g x)) empty).get? k = some v ↔
      ∃ x ∈ xs, f x = k ∧ g x = v := by
  by_cases hk : k ∈ xs.map f
  · obtain ⟨x, hx, rfl⟩ := List.mem_map.mp hk
    rw [get?_foldl_insert hn hx]
    constructor
    · intro he
      exact ⟨x, hx, rfl, Option.some.inj he⟩
    · rintro ⟨y, hy, hf, rfl⟩
      rw [List.inj_on_of_nodup_map hn hy hx hf]
  · rw [get?_foldl_of_notMem hk]
    constructor
    · rintro ⟨⟩
    · rintro ⟨x, hx, rfl, -⟩
      exact absurd (List.mem_map_of_mem hx) hk

theorem size_foldl_insert (hn : (xs.map f).Nodup) :
    (xs.foldl (fun m x => m.insert (f x) (g x)) empty).size = xs.length := by
  suffices h : ∀ m : KeyMap β, (∀ x ∈ xs, m.get? (f x) = none) →
      (xs.foldl (fun m x => m.insert (f x) (g x)) m).size = m.size + xs.length from
    (h empty fun _ _ => rfl).trans (Nat.zero_add _)
  intro m hm
  induction xs generalizing m with
  | nil => rfl
  | cons x xs ih =>
    rw [List.map_cons, List.nodup_cons] at hn
    have fresh : ∀ y ∈ xs, (m.insert (f x) (g x)).get? (f y) = none := by
      intro y hy
      have hne : f x ≠ f y := fun he => hn.1 (he ▸ List.mem_map_of_mem hy)
      rw [get?_insert, if_neg hne, hm y (by simp [hy])]
    rw [List.foldl_cons, ih hn.2 _ fresh, size_insert (hm x (by simp)), List.length_cons]
    omega

/-- What one map says, the other says the other way round. -/
def Inverse (m m' : KeyMap String) : Prop :=
  ∀ key value, m.get? key = some value ↔ m'.get? value = some key

theorem inverse_foldl_insert {g : γ → String} (hf : (xs.map f).Nodup) (hg : (xs.map g).Nodup) :
    Inverse (xs.foldl (fun m x => m.insert (f x) (g x)) empty)
      (xs.foldl (fun m x => m.insert (g x) (f x)) empty) := by
  intro key value
  rw [get?_foldl_insert_iff hf, get?_foldl_insert_iff hg]
  exact exists_congr fun x => and_congr_right fun _ => and_comm

end KeyMap

/-! ## Sorted keys -/

section Sorted

variable {key k : String} {keys : List String}

theorem placeKey_perm : (placeKey key keys).Perm (key :: keys) := by
  induction keys with
  | nil => exact .refl _
  | cons k keys ih =>
    rw [placeKey]
    split
    · exact .refl _
    · exact (ih.cons k).trans (.swap key k keys)

theorem sortKeys_perm : (sortKeys keys).Perm keys := by
  induction keys with
  | nil => exact .refl _
  | cons k keys ih => exact placeKey_perm.trans (ih.cons k)

private theorem pairwise_placeKey (h : keys.Pairwise (· ≤ ·)) :
    (placeKey key keys).Pairwise (· ≤ ·) := by
  induction keys with
  | nil => simp [placeKey]
  | cons k keys ih =>
    obtain ⟨hfirst, hrest⟩ := List.pairwise_cons.mp h
    rw [placeKey]
    split
    · rename_i hle
      refine List.pairwise_cons.mpr ⟨?_, h⟩
      intro x hx
      rcases List.mem_cons.mp hx with rfl | hx
      · exact hle
      · exact String.le_trans hle (hfirst x hx)
    · rename_i hnle
      refine List.pairwise_cons.mpr ⟨?_, ih hrest⟩
      intro x hx
      rcases List.mem_cons.mp (placeKey_perm.mem_iff.mp hx) with rfl | hx
      · exact Std.le_of_lt (String.not_le.mp hnle)
      · exact hfirst x hx

/-- Different keys are sorted into an ascending list. -/
theorem sortKeys_ascending (h : keys.Nodup) : (sortKeys keys).Pairwise (· < ·) := by
  have sorted : (sortKeys keys).Pairwise (· ≤ ·) := by
    clear h
    induction keys with
    | nil => exact .nil
    | cons k keys ih => exact pairwise_placeKey ih
  have distinct : (sortKeys keys).Pairwise (· ≠ ·) := sortKeys_perm.nodup_iff.mpr h
  refine (sorted.and distinct).imp ?_
  rintro a b ⟨hle, hne⟩
  exact Std.lt_of_le_of_ne hle hne

theorem mem_dropRepeats : k ∈ dropRepeats keys ↔ k ∈ keys := by
  fun_induction dropRepeats keys with
  | case1 => rfl
  | case2 => rfl
  | case3 k' rest ih => simp [ih]
  | case4 k' l rest hne ih => simp [ih]

theorem mem_keySet : k ∈ keySet keys ↔ k ∈ keys := mem_dropRepeats.trans sortKeys_perm.mem_iff

end Sorted

/-! ## The keys of a table -/

/-- A raw key is what those of its table start with, and then the key. -/
theorem StoreName.tableKey_eq_append {s : StoreName} {table key : String} :
    s.tableKey table key = s.tableKey table "" ++ key := by
  simp [tableKey]

theorem Handle.tableKey_eq_append {h : Handle} {table key : String} :
    h.tableKey table key = h.tableKey table "" ++ key := StoreName.tableKey_eq_append

namespace Database

variable {db : Database} {table key : String} {raw raw' : List String}

theorem mem_keysIn :
    key ∈ db.keysIn table raw ↔
      ∃ k ∈ raw, Text.afterStart? (db.store.tableKey table "") k = some key := by
  rw [keysIn, List.mem_filterMap]
  simp only [sortKeys_perm.mem_iff]

/-- A key is shown if its raw key is listed. -/
theorem mem_keysIn_iff : key ∈ db.keysIn table raw ↔ db.store.tableKey table key ∈ raw := by
  simp only [mem_keysIn, Text.afterStart?_eq_some_iff, ← StoreName.tableKey_eq_append]
  constructor
  · rintro ⟨k, hk, rfl⟩
    exact hk
  · intro hk
    exact ⟨_, hk, rfl⟩

theorem keysIn_mono (h : ∀ k ∈ raw, k ∈ raw') (hk : key ∈ db.keysIn table raw) :
    key ∈ db.keysIn table raw' := by
  obtain ⟨k, hr, ha⟩ := mem_keysIn.mp hk
  exact mem_keysIn.mpr ⟨k, h k hr, ha⟩

theorem nodup_keysIn (h : raw.Nodup) : (db.keysIn table raw).Nodup := by
  refine List.Nodup.filterMap ?_ (sortKeys_perm.nodup_iff.mpr h)
  intro a a' b ha ha'
  rw [Text.afterStart?_eq_some ha, Text.afterStart?_eq_some ha']

/-- The keys of a table are in the order of their raw keys. -/
theorem keysIn_ascending (h : raw.Nodup) : (db.keysIn table raw).Pairwise (· < ·) := by
  refine List.Pairwise.filterMap _ ?_ (sortKeys_ascending h)
  intro k k' hlt key hk key' hk'
  rw [Text.afterStart?_eq_some hk, Text.afterStart?_eq_some hk'] at hlt
  exact Text.lt_of_append_lt hlt

/-- Of two listings of a table, the second with all keys of the first: it has no others just if
there are as many. -/
theorem keysIn_eq_iff_length (hn : raw.Nodup) (hn' : raw'.Nodup) (h : ∀ k ∈ raw, k ∈ raw') :
    (∀ key ∈ db.keysIn table raw', key ∈ db.keysIn table raw) ↔
      (db.keysIn table raw).length = (db.keysIn table raw').length := by
  have hsub : db.keysIn table raw ⊆ db.keysIn table raw' := fun _ hk => keysIn_mono h hk
  have nodup : (db.keysIn table raw).Nodup := nodup_keysIn hn
  have nodup' : (db.keysIn table raw').Nodup := nodup_keysIn hn'
  have hsp := List.subperm_of_subset nodup hsub
  constructor
  · intro hall
    have hsp' := List.subperm_of_subset nodup' hall
    exact Nat.le_antisymm hsp.length_le hsp'.length_le
  · intro hlen key hk
    exact (hsp.perm_of_length_le (Nat.le_of_eq hlen.symm)).mem_iff.mpr hk

end Database

end SwitchLab
