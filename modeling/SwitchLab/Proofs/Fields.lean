import Mathlib.Data.List.Induction
import SwitchLab.Proofs.Keys

/-! The fields of a record. They are a map that keeps the order in which its fields
came, so a record is known by two views of it: the names in their order, and
the value of each. Each field stands where it came first, with the value that
came last. -/

namespace SwitchLab

/-! ## Fields in the order of their first writing -/

section Fields

variable {pairs more : List (String × String)} {field value : String}

/-- Each field where it came first, with the value that came last. -/
def settled (pairs : List (String × String)) : List (String × String) :=
  (pairs.map Prod.fst).eraseDups.filterMap fun field =>
    (pairs.reverse.lookup field).map (field, ·)

theorem eraseDups_concat {names : List String} {name : String} :
    (names ++ [name]).eraseDups =
      if name ∈ names then names.eraseDups else names.eraseDups ++ [name] := by
  rw [List.eraseDups_append]
  split
  · rename_i hmem
    simp [List.removeAll, hmem]
  · rename_i hmem
    simp [List.removeAll, hmem, List.eraseDups_cons]

theorem nodup_eraseDups {names : List String} : names.eraseDups.Nodup := by
  induction names using List.reverseRecOn with
  | nil => simp
  | append_singleton names name ih =>
    rw [eraseDups_concat]
    split
    · exact ih
    · rename_i hmem
      have hnew : name ∉ names.eraseDups := fun h => hmem (List.mem_eraseDups.mp h)
      refine List.nodup_append.mpr ⟨ih, by simp, ?_⟩
      simpa using fun a ha => ne_of_mem_of_not_mem ha hnew

namespace FieldValues

theorem insertPair_ne_nil : insertPair field value pairs ≠ [] := by
  cases pairs with
  | nil => simp [insertPair]
  | cons p pairs =>
    rw [insertPair]
    split <;> simp

theorem insertPair_of_notMem (h : field ∉ pairs.map Prod.fst) :
    insertPair field value pairs = pairs ++ [(field, value)] := by
  induction pairs with
  | nil => rfl
  | cons p pairs ih =>
    obtain ⟨f, v⟩ := p
    rw [List.map_cons, List.mem_cons, not_or] at h
    rw [insertPair, if_neg (Ne.symm h.1), ih h.2, List.cons_append]

/-- A field that is set keeps its place among the names, or is the last of them. -/
theorem insertPair_filterMap {names : List String} {known : String → Option String}
    (hn : names.Nodup) (hk : ∀ name ∈ names, (known name).isSome = true) :
    insertPair field value (names.filterMap fun name => (known name).map (name, ·)) =
      (if field ∈ names then names else names ++ [field]).filterMap fun name =>
        (if name = field then some value else known name).map (name, ·) := by
  induction names with
  | nil => simp [insertPair]
  | cons name names ih =>
    obtain ⟨hnot, hn⟩ := List.nodup_cons.mp hn
    obtain ⟨v, hv⟩ := Option.isSome_iff_exists.mp (hk name (by simp))
    have ih := ih hn fun name' hm => hk name' (by simp [hm])
    by_cases he : name = field
    · subst he
      -- the other names keep their values
      have hrest : names.filterMap (fun name' => (known name').map (name', ·)) =
          names.filterMap fun name' =>
            (if name' = name then some value else known name').map (name', ·) := by
        refine List.filterMap_congr fun name' hm => ?_
        rw [if_neg (ne_of_mem_of_not_mem hm hnot)]
      simp [hv, insertPair, hrest]
    · have hmem : (if field ∈ name :: names then name :: names else name :: names ++ [field]) =
          name :: if field ∈ names then names else names ++ [field] := by
        by_cases hf : field ∈ names <;> simp [hf, Ne.symm he]
      rw [hmem]
      simp [hv, he, insertPair, ih]

end FieldValues

theorem settled_concat :
    settled (pairs ++ [(field, value)]) = FieldValues.insertPair field value (settled pairs) := by
  have known : ∀ name ∈ (pairs.map Prod.fst).eraseDups,
      (pairs.reverse.lookup name).isSome = true := by
    intro name hname
    obtain ⟨p, hp, rfl⟩ := List.mem_map.mp (List.mem_eraseDups.mp hname)
    exact List.lookup_isSome_iff.mpr ⟨p, List.mem_reverse.mpr hp, by simp⟩
  rw [settled, settled, FieldValues.insertPair_filterMap nodup_eraseDups known, List.map_append,
    List.map_singleton, eraseDups_concat]
  simp only [List.mem_eraseDups, List.reverse_append, List.reverse_singleton]
  refine List.filterMap_congr fun name _ => ?_
  by_cases hname : name = field
  · simp [hname]
  · have hb : (name == field) = false := by simpa using hname
    simp [List.lookup_cons, hname, hb]

theorem settled_ne_nil (h : pairs ≠ []) : settled pairs ≠ [] := by
  obtain ⟨init, p, rfl⟩ := (List.eq_nil_or_concat' pairs).resolve_left h
  rw [settled_concat]
  exact FieldValues.insertPair_ne_nil

theorem settled_of_nodup (h : (pairs.map Prod.fst).Nodup) : settled pairs = pairs := by
  induction pairs using List.reverseRecOn with
  | nil => rfl
  | append_singleton pairs p ih =>
    rw [List.map_append, List.nodup_append] at h
    obtain ⟨hpairs, -, hdiff⟩ := h
    have hnew : p.1 ∉ pairs.map Prod.fst := fun hm => hdiff _ hm p.1 (by simp) rfl
    rw [settled_concat, ih hpairs, FieldValues.insertPair_of_notMem hnew]

theorem nodup_settled : ((settled pairs).map Prod.fst).Nodup := by
  rw [settled, List.map_filterMap]
  refine List.Nodup.filterMap ?_ nodup_eraseDups
  intro name name' b h h'
  simp only [Option.map_map, Option.mem_def, Option.map_eq_some_iff, Function.comp_apply] at h h'
  obtain ⟨_, -, rfl⟩ := h
  obtain ⟨_, -, rfl⟩ := h'
  rfl

namespace FieldValues

variable {record fields : FieldValues} {names : List String}

theorem pairs_insertAll (hp : record.pairs = settled pairs) :
    (record.insertAll more).pairs = settled (pairs ++ more) := by
  induction more generalizing record pairs with
  | nil => rw [List.append_nil, ← hp, insertAll, List.foldl_nil]
  | cons p more ih =>
    have step : (record.insert p.1 p.2).pairs = settled (pairs ++ [p]) := by
      rw [settled_concat, ← hp, insert]
    rw [insertAll, List.foldl_cons]
    refine (ih step).trans ?_
    rw [List.append_assoc, List.singleton_append]

theorem ofPairs_of_nodup (h : (pairs.map Prod.fst).Nodup) : ofPairs pairs = ⟨pairs⟩ := by
  have written : (ofPairs pairs).pairs = settled ([] ++ pairs) := pairs_insertAll rfl
  rw [List.nil_append, settled_of_nodup h] at written
  exact congrArg FieldValues.mk written

theorem erasePair_eq_filter (h : (pairs.map Prod.fst).Nodup) :
    erasePair field pairs = pairs.filter fun p => p.1 ≠ field := by
  induction pairs with
  | nil => rfl
  | cons p pairs ih =>
    obtain ⟨f, v⟩ := p
    rw [List.map_cons, List.nodup_cons] at h
    by_cases he : f = field
    · subst he
      have hrest : pairs.filter (fun p => p.1 ≠ f) = pairs := by
        refine List.filter_eq_self.mpr fun p hp => ?_
        simpa using fun he : p.1 = f => h.1 (List.mem_map.mpr ⟨p, hp, he⟩)
      rw [erasePair, if_pos rfl, List.filter_cons_of_neg (by simp), hrest]
    · rw [erasePair, if_neg he, List.filter_cons_of_pos (by simpa using he), ih h.2]

theorem pairs_foldl_erase (h : (record.pairs.map Prod.fst).Nodup) :
    (names.foldl erase record).pairs = record.pairs.filter fun p => p.1 ∉ names := by
  induction names generalizing record with
  | nil => simp
  | cons name names ih =>
    have hfirst : (record.erase name).pairs = record.pairs.filter fun p => p.1 ≠ name :=
      erasePair_eq_filter h
    have hn : ((record.erase name).pairs.map Prod.fst).Nodup := by
      rw [hfirst]
      exact h.sublist (List.filter_sublist.map Prod.fst)
    rw [List.foldl_cons, ih hn, hfirst, List.filter_filter]
    refine List.filter_congr fun p _ => ?_
    simp [Bool.and_comm]

end FieldValues

end Fields

/-! ## One field -/

namespace FieldValues

variable {f : FieldValues} {field value value' name : String}

theorem lookup_insertPair {pairs : List (String × String)} :
    lookup name (insertPair field value pairs) =
      if field = name then some value else lookup name pairs := by
  induction pairs with
  | nil => rfl
  | cons p pairs ih =>
    obtain ⟨g, v⟩ := p
    rw [insertPair]
    split
    · rename_i he
      subst he
      by_cases h : g = name <;> simp [lookup, h]
    · rename_i hne
      rw [lookup, ih, lookup]
      by_cases h : g = name
      · have hname : field ≠ name := fun he => hne (h.trans he.symm)
        simp [h, hname]
      · simp [h]

theorem get?_insert :
    (f.insert field value).get? name = if field = name then some value else f.get? name :=
  lookup_insertPair

/-- Of two values for a field the second stays. -/
theorem insert_insert : (f.insert field value).insert field value' = f.insert field value' := by
  obtain ⟨pairs⟩ := f
  refine congrArg FieldValues.mk ?_
  show insertPair field value' (insertPair field value pairs) = insertPair field value' pairs
  induction pairs with
  | nil => simp [insertPair]
  | cons p pairs ih =>
    obtain ⟨g, v⟩ := p
    by_cases h : g = field <;> simp [insertPair, h, ih]

theorem isEmpty_insert : (f.insert field value).isEmpty = false :=
  List.isEmpty_eq_false_iff.mpr insertPair_ne_nil

theorem isEmpty_insertAll {pairs : List (String × String)} (h : f.isEmpty = false) :
    (f.insertAll pairs).isEmpty = false := by
  induction pairs generalizing f with
  | nil => exact h
  | cons p pairs ih => exact ih isEmpty_insert

/-! ## Two views -/

variable {g h : FieldValues} {pairs more : List (String × String)}

/-- The fields in their order. -/
def names (f : FieldValues) : List String := f.pairs.map Prod.fst

theorem names_insert : (f.insert field value).names =
    if field ∈ f.names then f.names else f.names ++ [field] := by
  obtain ⟨pairs⟩ := f
  show (insertPair field value pairs).map Prod.fst =
    if field ∈ pairs.map Prod.fst then pairs.map Prod.fst else pairs.map Prod.fst ++ [field]
  induction pairs with
  | nil => rfl
  | cons p pairs ih =>
    obtain ⟨k, v⟩ := p
    rw [insertPair]
    by_cases hk : k = field
    · simp [hk]
    · rw [if_neg hk, List.map_cons, ih]
      by_cases hm : field ∈ pairs.map Prod.fst
      · rw [if_pos hm, List.map_cons, if_pos (List.mem_cons_of_mem _ hm)]
      · have hnew : field ∉ (k :: pairs.map Prod.fst) := by
          simpa [Ne.symm hk] using hm
        rw [if_neg hm, List.map_cons, if_neg hnew, List.cons_append]

theorem nodup_insert (hf : f.names.Nodup) : (f.insert field value).names.Nodup := by
  rw [names_insert]
  split
  · exact hf
  · rename_i hnew
    refine List.nodup_append.mpr ⟨hf, by simp, ?_⟩
    simpa using fun a ha => ne_of_mem_of_not_mem ha hnew

theorem nodup_insertAll (hf : f.names.Nodup) : (f.insertAll pairs).names.Nodup := by
  induction pairs generalizing f with
  | nil => exact hf
  | cons p pairs ih => exact ih (nodup_insert hf)

theorem nodup_erase (hf : f.names.Nodup) : (f.erase field).names.Nodup := by
  have hrest : (f.erase field).pairs = f.pairs.filter fun p => p.1 ≠ field :=
    erasePair_eq_filter hf
  rw [names, hrest]
  exact hf.sublist (List.filter_sublist.map Prod.fst)

theorem get?_eq_none_iff : f.get? field = none ↔ field ∉ f.names := by
  obtain ⟨pairs⟩ := f
  show lookup field pairs = none ↔ field ∉ pairs.map Prod.fst
  induction pairs with
  | nil => simp [lookup]
  | cons p pairs ih =>
    rw [lookup]
    split
    · rename_i hk
      simp [hk]
    · rename_i hk
      simp [ih, Ne.symm hk]

theorem get?_eq_some_iff (hf : f.names.Nodup) :
    f.get? field = some value ↔ (field, value) ∈ f.pairs := by
  have same : ∀ pairs, lookup field pairs = KeyMap.lookup field pairs := by
    intro pairs
    induction pairs with
    | nil => rfl
    | cons p pairs ih => rw [lookup, KeyMap.lookup, ih]
  rw [get?, same]
  exact KeyMap.lookup_eq_some_iff hf

theorem pairs_eq_filterMap (hf : f.names.Nodup) :
    f.pairs = f.names.filterMap fun field => (f.get? field).map (field, ·) := by
  obtain ⟨pairs⟩ := f
  show pairs = (pairs.map Prod.fst).filterMap fun field => (lookup field pairs).map (field, ·)
  replace hf : (pairs.map Prod.fst).Nodup := hf
  induction pairs with
  | nil => rfl
  | cons p pairs ih =>
    obtain ⟨k, v⟩ := p
    obtain ⟨hnew, hrest⟩ := List.nodup_cons.mp hf
    -- the fields behind the first one are others
    have behind : (pairs.map Prod.fst).filterMap (fun field =>
        (lookup field ((k, v) :: pairs)).map (field, ·)) = pairs := by
      refine Eq.trans (List.filterMap_congr fun field hm => ?_) (ih hrest).symm
      rw [lookup, if_neg (ne_of_mem_of_not_mem hm hnew).symm]
    rw [List.map_cons, List.filterMap_cons_some (b := (k, v)) (by simp [lookup]), behind]

/-- Fields in the same order with the same values are the same. -/
theorem ext_of_nodup (hf : f.names.Nodup) (hg : g.names.Nodup) (hnames : f.names = g.names)
    (hget : ∀ field, f.get? field = g.get? field) : f = g := by
  have hpairs : f.pairs = g.pairs := by
    rw [pairs_eq_filterMap hf, pairs_eq_filterMap hg, hnames]
    simp only [hget]
  exact congrArg FieldValues.mk hpairs

/-! ## Merging -/

theorem get?_insertAll (hp : (pairs.map Prod.fst).Nodup) :
    (f.insertAll pairs).get? name = (lookup name pairs).or (f.get? name) := by
  induction pairs generalizing f with
  | nil => rfl
  | cons p pairs ih =>
    obtain ⟨k, v⟩ := p
    obtain ⟨hnew, hrest⟩ := List.nodup_cons.mp hp
    have first : (f.insertAll ((k, v) :: pairs)).get? name =
        (lookup name pairs).or ((f.insert k v).get? name) := ih hrest
    rw [first, get?_insert, lookup]
    by_cases hk : k = name
    · subst hk
      have hnone : lookup k pairs = none := get?_eq_none_iff (f := ⟨pairs⟩).mpr hnew
      simp [hnone]
    · rw [if_neg hk, if_neg hk]

theorem names_insertAll (hp : (pairs.map Prod.fst).Nodup) :
    (f.insertAll pairs).names = f.names ++ (pairs.map Prod.fst).filter (· ∉ f.names) := by
  induction pairs generalizing f with
  | nil => simp [insertAll]
  | cons p pairs ih =>
    obtain ⟨k, v⟩ := p
    obtain ⟨hnew, hrest⟩ := List.nodup_cons.mp hp
    have first : (f.insertAll ((k, v) :: pairs)).names = (f.insert k v).names ++
        (pairs.map Prod.fst).filter (· ∉ (f.insert k v).names) := ih hrest
    rw [first, names_insert, List.map_cons]
    by_cases hk : k ∈ f.names
    · simp [hk]
    · -- of the fields behind it, those are new that were
      have others : (pairs.map Prod.fst).filter (· ∉ f.names ++ [k]) =
          (pairs.map Prod.fst).filter (· ∉ f.names) := by
        refine List.filter_congr fun n hn => ?_
        have hne : n ≠ k := ne_of_mem_of_not_mem hn hnew
        simp [hne]
      rw [if_neg hk, others, List.filter_cons_of_pos (by simpa using hk), List.append_assoc,
        List.singleton_append]

theorem get?_merge (hg : g.names.Nodup) :
    (f.merge g).get? field = (g.get? field).or (f.get? field) := get?_insertAll hg

theorem names_merge (hg : g.names.Nodup) :
    (f.merge g).names = f.names ++ g.names.filter (· ∉ f.names) := names_insertAll hg

theorem nodup_merge (hf : f.names.Nodup) : (f.merge g).names.Nodup := nodup_insertAll hf

theorem nodup_ofPairs : (ofPairs pairs).names.Nodup := nodup_insertAll List.nodup_nil

theorem merge_assoc (hf : f.names.Nodup) (hg : g.names.Nodup) (hh : h.names.Nodup) :
    (f.merge g).merge h = f.merge (g.merge h) := by
  have hgh : (g.merge h).names.Nodup := nodup_merge hg
  refine ext_of_nodup (nodup_merge (nodup_merge hf)) (nodup_merge hf) ?_ fun field => ?_
  · rw [names_merge hh, names_merge hg, names_merge hgh, names_merge hh, List.filter_append,
      List.filter_filter, List.append_assoc]
    congr 2
    refine List.filter_congr fun n _ => ?_
    by_cases hm : n ∈ f.names <;> by_cases hm' : n ∈ g.names <;> simp [hm, hm']
  · rw [get?_merge hh, get?_merge hg, get?_merge hgh, get?_merge hh, Option.or_assoc]

theorem merge_self (hf : f.names.Nodup) : f.merge f = f := by
  refine ext_of_nodup (nodup_merge hf) hf ?_ fun field => ?_
  · rw [names_merge hf, List.filter_eq_nil_iff.mpr (by simp), List.append_nil]
  · rw [get?_merge hf, Option.or_self]

theorem empty_merge (hf : f.names.Nodup) : empty.merge f = f := by
  refine ext_of_nodup (nodup_merge List.nodup_nil) hf ?_ fun field => ?_
  · rw [names_merge hf]
    simp [empty, names]
  · rw [get?_merge hf]
    exact Option.or_none

theorem merge_insert (hf : f.names.Nodup) (hg : g.names.Nodup) :
    f.merge (g.insert field value) = (f.merge g).insert field value := by
  refine ext_of_nodup (nodup_merge hf) (nodup_insert (nodup_merge hf)) ?_ fun name => ?_
  · rw [names_merge (nodup_insert hg), names_insert, names_insert, names_merge hg]
    by_cases hm : field ∈ g.names <;> by_cases hm' : field ∈ f.names <;> simp [hm, hm']
  · rw [get?_merge (nodup_insert hg), get?_insert, get?_insert, get?_merge hg]
    split <;> simp

/-- Pairs that come later go on top. -/
theorem ofPairs_append : ofPairs (pairs ++ more) = (ofPairs pairs).merge (ofPairs more) := by
  have concat {pairs : List (String × String)} {p : String × String} :
      ofPairs (pairs ++ [p]) = (ofPairs pairs).insert p.1 p.2 := List.foldl_concat ..
  induction more using List.reverseRecOn with
  | nil => rw [List.append_nil]; rfl
  | append_singleton more p ih =>
    rw [← List.append_assoc, concat, ih, concat, merge_insert nodup_ofPairs nodup_ofPairs]

/-! ## The same pairs -/

theorem containsAll_iff (hf : f.names.Nodup) : f.containsAll g = true ↔ g.pairs ⊆ f.pairs := by
  rw [containsAll, List.all_eq_true]
  constructor
  · rintro hall ⟨field, value⟩ hp
    exact (get?_eq_some_iff hf).mp (of_decide_eq_true (hall _ hp))
  · rintro hsub ⟨field, value⟩ hp
    exact decide_eq_true ((get?_eq_some_iff hf).mpr (hsub hp))

/-- One inclusion is enough, since no field is there twice. -/
theorem samePairs_iff_perm (hf : f.names.Nodup) (hg : g.names.Nodup) :
    f.samePairs g = true ↔ f.pairs.Perm g.pairs := by
  rw [samePairs, Bool.and_eq_true, decide_eq_true_iff, containsAll_iff hf]
  constructor
  · rintro ⟨hsize, hsub⟩
    -- the pairs of `g` are different ones, so they leave no room for others
    have hinside : List.Subperm g.pairs f.pairs := hg.of_map.subperm hsub
    exact (hinside.perm_of_length_le (Nat.le_of_eq hsize)).symm
  · intro hperm
    exact ⟨hperm.length_eq, hperm.symm.subset⟩

theorem samePairs_iff_get? (hf : f.names.Nodup) (hg : g.names.Nodup) :
    f.samePairs g = true ↔ ∀ field, f.get? field = g.get? field := by
  rw [samePairs_iff_perm hf hg, List.perm_ext_iff_of_nodup hf.of_map hg.of_map]
  constructor
  · intro hmem field
    exact Option.ext fun value => by rw [get?_eq_some_iff hf, get?_eq_some_iff hg, hmem]
  · rintro hget ⟨field, value⟩
    rw [← get?_eq_some_iff hf, ← get?_eq_some_iff hg, hget]

-- records with a field twice need not be the same pairs
example : (⟨[("mtu", "1500"), ("speed", "40000")]⟩ : FieldValues).samePairs
    ⟨[("mtu", "1500"), ("mtu", "1500")]⟩ = true := by decide +kernel

/-! ## What the operations make -/

/-- How a record is made. -/
inductive Recipe where
  | ofPairs (pairs : List (String × String))
  | insert (r : Recipe) (field value : String)
  | erase (r : Recipe) (field : String)
  | merge (r s : Recipe)

def Recipe.result : Recipe → FieldValues
  | .ofPairs pairs => .ofPairs pairs
  | .insert r field value => r.result.insert field value
  | .erase r field => r.result.erase field
  | .merge r s => r.result.merge s.result

theorem Recipe.nodup (r : Recipe) : r.result.names.Nodup := by
  induction r with
  | ofPairs pairs => exact nodup_ofPairs
  | insert r field value ih => exact nodup_insert ih
  | erase r field ih => exact nodup_erase ih
  | merge r s ihr ihs => exact nodup_merge ihr

/-- `g` on top of `f`, and `h` on top of both. -/
structure Merges (f g h : FieldValues) : Prop where
  get? : ∀ field, (f.merge g).get? field = (g.get? field).or (f.get? field)
  names : (f.merge g).names = f.names ++ g.names.filter (· ∉ f.names)
  assoc : (f.merge g).merge h = f.merge (g.merge h)
  self : f.merge f = f
  empty_left : empty.merge f = f
  empty_right : f.merge empty = f

theorem merges (hf : f.names.Nodup) (hg : g.names.Nodup) (hh : h.names.Nodup) : Merges f g h where
  get? _ := get?_merge hg
  names := names_merge hg
  assoc := merge_assoc hf hg hh
  self := merge_self hf
  empty_left := empty_merge hf
  empty_right := rfl

/-- Records however made hold no field twice, and so they merge as maps do that keep their order,
and are the same pairs just if they are the same map. -/
theorem Recipe.lawful (r s t : Recipe) :
    r.result.names.Nodup ∧
      Merges r.result s.result t.result ∧
      (∀ pairs more, FieldValues.ofPairs (pairs ++ more) =
        (FieldValues.ofPairs pairs).merge (FieldValues.ofPairs more)) ∧
      (r.result.samePairs s.result = true ↔
        ∀ field, r.result.get? field = s.result.get? field) ∧
      (r.result.samePairs s.result = true ↔ r.result.pairs.Perm s.result.pairs) ∧
      Equivalence fun r s : Recipe => r.result.samePairs s.result = true := by
  have same (r s : Recipe) : r.result.samePairs s.result = true ↔
      ∀ field, r.result.get? field = s.result.get? field := samePairs_iff_get? r.nodup s.nodup
  refine ⟨r.nodup, merges r.nodup s.nodup t.nodup, fun _ _ => ofPairs_append, same r s,
    samePairs_iff_perm r.nodup s.nodup, ?_, ?_, ?_⟩
  · intro r
    exact (same r r).mpr fun _ => rfl
  · intro r s hrs
    exact (same s r).mpr fun field => ((same r s).mp hrs field).symm
  · intro r s t hrs hst
    exact (same r t).mpr fun field => ((same r s).mp hrs field).trans ((same s t).mp hst field)

end FieldValues

end SwitchLab
