import Mathlib.Data.List.Induction
import SwitchLab.Proofs.Fields
import SwitchLab.Proofs.Requests
import SwitchLab.Proofs.Serving

/-! Databases side by side, each with a memory of its own, and what is left in
them of fields that were written one after the other: of each record the field
that came last. -/

namespace SwitchLab

variable {α β : Type} {db : Database} {raw field value : String} {l : Ledger}

/-! ## One field -/

namespace Memory

variable {m : Memory}

/-- A field is written to a record, which is made if need be. -/
theorem get?_merge_single {key : String} :
    (m.merge key (.ofPairs [(field, value)])).records.get? raw =
      if key = raw then some ((m.fetch key).insert field value) else m.records.get? raw :=
  KeyMap.get?_insert

end Memory

/-! ## Many databases -/

/-- What each database holds. -/
abbrev Memories := Database → Memory

variable {w w' : Memories} {t u : Trace Host}

instance inhabitedReply : (q : Query) → Inhabited q.Reply
  | .now => ⟨Duration.zero⟩
  | .pause _ => ⟨()⟩
  | .pathExists _ => ⟨false⟩
  | .run _ | .spawn _ | .kill _ | .readFile _ | .makeDirectory _ | .writeFile _ _ | .connect _
  | .keys _ _ | .fetch _ _ | .merge _ _ _ | .dropFields _ _ _ | .dropKey _ _ | .subscribe _ _ =>
    ⟨(Except.error (.io "") : Except Fault _)⟩

/-- What a database makes of a call: its answer, and what it holds then. -/
def Memory.respond (m : Memory) (q : Query) : q.Reply × Memory :=
  Memory.answer (fun _ => default) q m

/-- All calls of database clients in the trace are answered from the memories; whatever else is
asked is answered anyhow. -/
inductive Served : Memories → Trace Host → Memories → Prop where
  | nil (w : Memories) : Served w [] w
  | aside {w w' : Memories} {x : Exchange Host} {t : Trace Host} :
    x.request.served? = none → Served w t w' → Served w (x :: t) w'
  | call {w w' : Memories} {x : Exchange Host} {t : Trace Host} {db : Database} :
    x.request.served? = some db → x.reply = ((w db).respond x.request).1 →
    Served (Function.update w db ((w db).respond x.request).2) t w' → Served w (x :: t) w'

theorem Query.served?_of_noStoreCall {q : Query} (h : q.isStoreCall = false) :
    q.served? = none := by
  cases q <;> first | rfl | cases h

namespace Served

theorem append_iff {w'' : Memories} :
    Served w (t ++ u) w'' ↔ ∃ w', Served w t w' ∧ Served w' u w'' := by
  constructor
  · intro h
    induction t generalizing w with
    | nil => exact ⟨w, .nil w, h⟩
    | cons x t ih =>
      cases h with
      | aside hx h =>
        obtain ⟨w', ht, hu⟩ := ih h
        exact ⟨w', .aside hx ht, hu⟩
      | call hx hreply h =>
        obtain ⟨w', ht, hu⟩ := ih h
        exact ⟨w', .call hx hreply ht, hu⟩
  · rintro ⟨w', ht, hu⟩
    induction ht with
    | nil => exact hu
    | aside hx _ ih => exact .aside hx (ih hu)
    | call hx hreply _ ih => exact .call hx hreply (ih hu)

theorem aside_iff (ht : ∀ x ∈ t, x.request.isStoreCall = false) : Served w t w' ↔ w' = w := by
  induction t with
  | nil =>
    constructor
    · rintro ⟨⟩
      rfl
    · rintro rfl
      exact .nil _
  | cons x t ih =>
    have hx := Query.served?_of_noStoreCall (ht x (by simp))
    rw [← ih fun y hy => ht y (by simp [hy])]
    constructor
    · intro h
      cases h with
      | aside _ h => exact h
      | call hx' => simp [hx] at hx'
    · exact .aside hx

theorem listed_iff {table : String} {r : Except Fault (List String)} :
    Served w [db.listed table r] w' ↔
      r = .ok ((w db).keys (db.store.tableKey table "" ++ "*")) ∧ w' = w := by
  constructor
  · rintro (_ | ⟨⟨⟩, _⟩ | ⟨⟨⟩, hreply, ⟨⟩⟩)
    exact ⟨hreply, Function.update_eq_self db w⟩
  · rintro ⟨rfl, rfl⟩
    refine .call rfl rfl ?_
    have same : Function.update w' db (w' db) = w' := Function.update_eq_self db w'
    exact same.symm ▸ .nil w'

theorem merged_iff {table key : String} {fields : FieldValues} {r : Except Fault Unit} :
    Served w [db.merged table key fields r] w' ↔ r = .ok () ∧
      w' = Function.update w db ((w db).merge (db.store.tableKey table key) fields) := by
  constructor
  · rintro (_ | ⟨⟨⟩, _⟩ | ⟨⟨⟩, hreply, ⟨⟩⟩)
    exact ⟨hreply, rfl⟩
  · rintro ⟨rfl, rfl⟩
    exact .call rfl rfl (.nil _)

end Served

/-- Whatever the memories hold, and whatever else is answered, each work has a run. -/
theorem exists_served_run (others : (q : Query) → q.Reply) (work : Lab α) (l : Ledger)
    (w : Memories) : ∃ t a l' w', Lab.Runs work l t a l' ∧ Served w t w' := by
  suffices h : ∀ p : Dialogue Host (α × Ledger), ∃ t x w', p.Runs t x ∧ Served w t w' by
    obtain ⟨t, ⟨a, l'⟩, w', hr, hs⟩ := h (work l)
    exact ⟨t, a, l', w', hr, hs⟩
  intro p
  induction p generalizing w with
  | done x => exact ⟨[], x, w, .done x, .nil w⟩
  | ask q next ih =>
    cases hq : q.served? with
    | none =>
      obtain ⟨t, x, w', hr, hs⟩ := ih (others q) w
      exact ⟨⟨q, others q⟩ :: t, x, w', .ask hr, .aside hq hs⟩
    | some db =>
      obtain ⟨t, x, w', hr, hs⟩ := ih ((w db).respond q).1
        (Function.update w db ((w db).respond q).2)
      exact ⟨⟨q, ((w db).respond q).1⟩ :: t, x, w', .ask hr, .call hq rfl hs⟩

/-! ## Fields written one after the other -/

/-- A field of a record gets a value. -/
structure Put where
  db : Database
  raw : String
  field : String
  value : String
  deriving DecidableEq, Repr

namespace Put

variable {p q : Put} {puts more : List Put}

def act (p : Put) (w : Memories) : Memories :=
  Function.update w p.db ((w p.db).merge p.raw (.ofPairs [(p.field, p.value)]))

def actAll (puts : List Put) (w : Memories) : Memories := puts.foldl (fun w p => p.act w) w

theorem actAll_append : actAll (puts ++ more) w = actAll more (actAll puts w) := List.foldl_append

theorem get?_act : ((p.act w) db).records.get? raw =
    if p.db = db ∧ p.raw = raw then some (((w db).fetch raw).insert p.field p.value)
    else (w db).records.get? raw := by
  by_cases hdb : p.db = db
  · subst hdb
    rw [act, Function.update_self, Memory.get?_merge_single]
    by_cases hraw : p.raw = raw
    · simp [hraw]
    · simp [hraw]
  · rw [act, Function.update_of_ne (Ne.symm hdb), if_neg (fun h => hdb h.1)]

theorem ascending_act (hw : ∀ db, (w db).records.Ascending) (db : Database) :
    ((p.act w) db).records.Ascending := by
  by_cases hdb : db = p.db
  · subst hdb
    rw [act, Function.update_self]
    exact (hw _).insert
  · rw [act, Function.update_of_ne hdb]
    exact hw db

theorem ascending_actAll (hw : ∀ db, (w db).records.Ascending) (db : Database) :
    ((actAll puts w) db).records.Ascending := by
  induction puts generalizing w with
  | nil => exact hw db
  | cons p puts ih => exact ih (ascending_act hw)

/-- The other databases keep all that they hold. -/
theorem actAll_of_forall_ne (h : ∀ p ∈ puts, p.db ≠ db) : actAll puts w db = w db := by
  induction puts generalizing w with
  | nil => rfl
  | cons p puts ih =>
    obtain ⟨hp, h⟩ := List.forall_mem_cons.mp h
    exact (ih h).trans (Function.update_of_ne hp.symm ..)

theorem keys_act (hw : ∀ db, (w db).records.Ascending) (hp : p.raw ∈ (w p.db).records.keys)
    (db : Database) : ((p.act w) db).records.keys = (w db).records.keys := by
  by_cases hdb : db = p.db
  · subst hdb
    rw [act, Function.update_self]
    exact KeyMap.keys_insert (hw _) hp
  · rw [act, Function.update_of_ne hdb]

/-- No record is made by writing to those that are there. -/
theorem keys_actAll (hw : ∀ db, (w db).records.Ascending)
    (hputs : ∀ p ∈ puts, p.raw ∈ (w p.db).records.keys) (db : Database) :
    ((actAll puts w) db).records.keys = (w db).records.keys := by
  induction puts generalizing w with
  | nil => rfl
  | cons p puts ih =>
    have first := keys_act hw (hputs p (by simp))
    rw [← first db]
    refine ih (ascending_act hw) fun q hq => ?_
    rw [first]
    exact hputs q (by simp [hq])

/-! What is written last to a record. -/

def last? (puts : List Put) (db : Database) (raw : String) : Option Put :=
  (puts.filter fun p => p.db = db ∧ p.raw = raw).getLast?

theorem last?_eq_some (h : last? puts db raw = some p) : p ∈ puts ∧ p.db = db ∧ p.raw = raw := by
  have hm := List.mem_filter.mp (List.mem_of_getLast? h)
  simpa using hm

theorem last?_eq_none_iff : last? puts db raw = none ↔ ∀ p ∈ puts, p.db = db → p.raw ≠ raw := by
  simp [last?]

/-- If just `o` is written to a record, it is what is written last. -/
theorem last?_eq_of_mem_iff {o : Option Put}
    (h : ∀ p, p ∈ puts ∧ p.db = db ∧ p.raw = raw ↔ o = some p) : last? puts db raw = o := by
  cases hlast : last? puts db raw with
  | some p => exact ((h p).mp (last?_eq_some hlast)).symm
  | none =>
    cases o with
    | none => rfl
    | some p =>
      obtain ⟨hp, hdb, hraw⟩ := (h p).mpr rfl
      exact absurd hraw (last?_eq_none_iff.mp hlast p hp hdb)

theorem last?_append :
    last? (puts ++ more) db raw = (last? more db raw).or (last? puts db raw) := by
  rw [last?, List.filter_append, List.getLast?_append]
  rfl

theorem last?_flatMap {f : β → List Put} {xs : List β} : last? (xs.flatMap f) db raw =
    (xs.filterMap fun x => last? (f x) db raw).getLast? := by
  induction xs using List.reverseRecOn with
  | nil => rfl
  | append_singleton xs x ih =>
    rw [List.flatMap_append, last?_append, ih, List.filterMap_append, List.getLast?_append]
    congr 1
    rw [List.flatMap_singleton]
    cases h : last? (f x) db raw <;> simp [h]

/-- All that is written to a record goes to one field. -/
def Consistent (puts : List Put) : Prop :=
  ∀ p ∈ puts, ∀ q ∈ puts, p.raw = q.raw → p.field = q.field

/-- What comes last stays. -/
theorem get?_actAll (hc : Consistent puts) : ((actAll puts w) db).records.get? raw =
    match last? puts db raw with
    | some p => some (((w db).fetch raw).insert p.field p.value)
    | none => (w db).records.get? raw := by
  induction puts using List.reverseRecOn with
  | nil => rfl
  | append_singleton puts p ih =>
    have ih := ih fun p hp q hq => hc p (by simp [hp]) q (by simp [hq])
    rw [actAll_append, last?_append]
    show ((p.act (actAll puts w)) db).records.get? raw = _
    rw [get?_act]
    by_cases hp : p.db = db ∧ p.raw = raw
    · have hlast : last? [p] db raw = some p := by simp [last?, hp]
      rw [if_pos hp, hlast]
      show some _ = some _
      cases hbefore : last? puts db raw with
      | none =>
        rw [hbefore] at ih
        rw [Memory.fetch, ih]
        rfl
      | some q =>
        rw [hbefore] at ih
        obtain ⟨hq, -, hraw⟩ := last?_eq_some hbefore
        have hfield : q.field = p.field :=
          hc q (by simp [hq]) p (by simp) (hraw.trans hp.2.symm)
        rw [Memory.fetch_of_get? ih, hfield, FieldValues.insert_insert]
    · have hlast : last? [p] db raw = none := by simpa [last?] using hp
      rw [if_neg hp, hlast, Option.none_or]
      exact ih

theorem get?_fetch_actAll (hc : Consistent puts) {name : String} :
    (((actAll puts w) db).fetch raw).get? name =
      (((last? puts db raw).filter (·.field = name)).map (·.value)).or
        (((w db).fetch raw).get? name) := by
  rw [Memory.fetch, get?_actAll hc]
  cases last? puts db raw with
  | none => rfl
  | some p =>
    show (((w db).fetch raw).insert p.field p.value).get? name = _
    rw [FieldValues.get?_insert]
    by_cases h : p.field = name <;> simp [Option.filter, h]

theorem contains_actAll (hc : Consistent puts) : ((actAll puts w) db).contains raw = true ↔
    (last? puts db raw).isSome = true ∨ (w db).contains raw = true := by
  simp only [Memory.contains_iff_mem, KeyMap.mem_keys_iff]
  rw [get?_actAll hc]
  cases last? puts db raw <;> simp

end Put

/-! ## Work that writes -/

namespace Lab

variable {work : Lab α} {puts more : List Put}

/-- From these memories on the work does nothing to the databases but these writes. -/
def Writes (work : Lab α) (w : Memories) (puts : List Put) : Prop :=
  ∀ l t a l' w', Runs work l t a l' → Served w t w' → w' = Put.actAll puts w

namespace Writes

theorem pure {a : α} : Writes (Pure.pure a) w [] := by
  intro l t b l' w' hr hs
  obtain ⟨rfl, -⟩ := runs_pure_iff.mp hr
  cases hs
  rfl

theorem bind {f : α → Lab β} (hw : Writes work w puts)
    (hf : ∀ a, Writes (f a) (Put.actAll puts w) more) : Writes (work >>= f) w (puts ++ more) := by
  intro l t b l' w' hr hs
  obtain ⟨u, v, a, l₁, rfl, hu, hv⟩ := runs_bind_iff.mp hr
  obtain ⟨w₁, hsu, hsv⟩ := Served.append_iff.mp hs
  obtain rfl := hw _ _ _ _ _ hu hsu
  rw [Put.actAll_append]
  exact hf a _ _ _ _ _ hv hsv

theorem of_asks (h : Asks (fun q => q.isStoreCall = false) work) : Writes work w [] := by
  intro l t a l' w' hr hs
  exact (Served.aside_iff (h.of_runs hr).1).mp hs

/-- The writes for one item after the other, as long as `I` is true of the memories. -/
theorem mapM {I : Memories → Prop} {f : β → Lab α} {g : β → List Put} {xs : List β} (hI : I w)
    (h : ∀ x ∈ xs, ∀ w, I w → Writes (f x) w (g x) ∧ I (Put.actAll (g x) w)) :
    Writes (xs.mapM f) w (xs.flatMap g) := by
  induction xs generalizing w with
  | nil => exact pure
  | cons x xs ih =>
    obtain ⟨hx, hI'⟩ := h x (by simp) w hI
    rw [List.mapM_cons, List.flatMap_cons]
    refine hx.bind fun a => ?_
    have rest := (ih hI' fun y hy => h y (by simp [hy])).bind
      (f := fun as => (Pure.pure (a :: as) : Lab (List α))) fun as => pure
    rwa [List.append_nil] at rest

theorem mapM_of_forall {f : β → Lab α} {g : β → List Put} {xs : List β}
    (h : ∀ x w, Writes (f x) w (g x)) : Writes (xs.mapM f) w (xs.flatMap g) :=
  mapM (I := fun _ => True) trivial fun x _ w _ => ⟨h x w, trivial⟩

end Writes

end Lab

end SwitchLab
