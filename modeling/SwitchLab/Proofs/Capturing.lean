import Mathlib.Data.List.SplitBy
import Mathlib.Data.Nat.Find
import SwitchLab.Proofs.Texts
import SwitchLab.Proofs.Waiting
import SwitchLab.Store.Capture

/-! What a capture makes of the notices of a subscription: which of them it
hears before it ends, which of these it keeps, and what it reports of them. -/

namespace SwitchLab

variable {l l' : Ledger} {t : Trace Host}

/-! ## What is heard -/

namespace Feed

variable {feed feed' : Feed} {tick : Tick} {n j k : Nat}

/-- What the first waits bring: the feed, and silence after it. -/
def heard (feed : Feed) (k : Nat) : List Tick :=
  feed.take k ++ List.replicate (k - feed.length) .silent

@[simp] theorem heard_zero : heard feed 0 = [] := by simp [heard]

theorem heard_nil_succ : heard [] (k + 1) = .silent :: heard [] k := by
  simp [heard, List.replicate_succ]

theorem heard_cons_succ : heard (tick :: feed) (k + 1) = tick :: heard feed k := by
  simp [heard]

/-- After so many waits the last `n` were silent, for the first time. -/
def EndsAt (n : Nat) (feed : Feed) (k : Nat) : Prop :=
  List.replicate n .silent <:+ feed.heard k ∧ ∀ i < k, ¬List.replicate n .silent <:+ feed.heard i

/-- As `EndsAt`, when `j` waits were silent before. -/
def EndsFrom (n j : Nat) (feed : Feed) (k : Nat) : Prop :=
  List.replicate n .silent <:+ List.replicate j .silent ++ feed.heard k ∧
    ∀ i < k, ¬List.replicate n .silent <:+ List.replicate j .silent ++ feed.heard i

theorem endsFrom_zero_iff : EndsFrom n 0 feed k ↔ EndsAt n feed k := Iff.rfl

theorem exists_endsAt (n : Nat) (feed : Feed) : ∃ k, EndsAt n feed k := by
  classical
  have quiet : ∃ k, List.replicate n Tick.silent <:+ feed.heard k := by
    refine ⟨feed.length + n, feed, ?_⟩
    simp [heard, List.take_of_length_le]
  exact ⟨Nat.find quiet, Nat.find_spec quiet, fun i hi => Nat.find_min quiet hi⟩

theorem endsFrom_of_le (h : n ≤ j) : EndsFrom n j feed k ↔ k = 0 := by
  have now : List.replicate n Tick.silent <:+ List.replicate j .silent ++ feed.heard 0 := by
    rw [heard_zero, List.append_nil]
    exact ⟨List.replicate (j - n) .silent, by rw [List.replicate_append_replicate]; congr; omega⟩
  constructor
  · rintro ⟨-, hk⟩
    by_contra hne
    exact hk 0 (by omega) now
  · rintro rfl
    exact ⟨now, by omega⟩

/-- The wait that comes next is looked at. -/
theorem endsFrom_step {j' : Nat} (hj : j < n)
    (h : ∀ i, List.replicate n Tick.silent <:+ List.replicate j .silent ++ feed.heard (i + 1) ↔
      List.replicate n Tick.silent <:+ List.replicate j' .silent ++ feed'.heard i) :
    EndsFrom n j feed k ↔ ∃ k', k = k' + 1 ∧ EndsFrom n j' feed' k' := by
  have notYet : ¬List.replicate n Tick.silent <:+ List.replicate j .silent ++ feed.heard 0 := by
    intro hs
    have := hs.length_le
    simp at this
    omega
  constructor
  · rintro ⟨hk, hleast⟩
    cases k with
    | zero => exact absurd hk notYet
    | succ k' =>
      refine ⟨k', rfl, (h k').mp hk, fun i hi hs => ?_⟩
      exact hleast (i + 1) (by omega) ((h i).mpr hs)
  · rintro ⟨k', rfl, hk, hleast⟩
    refine ⟨(h k').mpr hk, fun i hi hs => ?_⟩
    cases i with
    | zero => exact notYet hs
    | succ i => exact hleast i (by omega) ((h i).mp hs)

theorem endsFrom_silent (hj : j < n) (h : ∀ i, feed.heard (i + 1) = .silent :: feed'.heard i) :
    EndsFrom n j feed k ↔ ∃ k', k = k' + 1 ∧ EndsFrom n (j + 1) feed' k' := by
  refine endsFrom_step hj fun i => ?_
  rw [h, List.replicate_succ', List.append_assoc, List.singleton_append]

theorem endsFrom_other (hj : j < n) (ht : tick ≠ .silent) :
    EndsFrom n j (tick :: feed) k ↔ ∃ k', k = k' + 1 ∧ EndsFrom n 0 feed k' := by
  refine endsFrom_step hj fun i => ?_
  rw [heard_cons_succ, List.replicate_zero, List.nil_append]
  have blocks (m : Nat) : tick ∉ List.replicate m Tick.silent := fun hm =>
    ht (List.eq_of_mem_replicate hm)
  constructor
  · intro hs
    have htail : tick :: heard feed i <:+ List.replicate j .silent ++ tick :: heard feed i :=
      List.suffix_append _ _
    rcases List.suffix_or_suffix_of_suffix hs htail with h | h
    · rcases List.suffix_cons_iff.mp h with he | h
      · exact absurd (he ▸ List.mem_cons_self) (blocks n)
      · exact h
    · exact absurd (h.subset List.mem_cons_self) (blocks n)
  · intro hs
    exact (hs.trans (List.suffix_cons _ _)).trans (List.suffix_append _ _)

end Feed

/-! ## What is kept -/

namespace Change

def addTags : List String := ["hset", "hmset", "hsetnx", "set"]

def deleteTags : List String := ["del", "expired"]

theorem ofTag?_eq_some_iff {tag : String} {change : Change} :
    ofTag? tag = some change ↔
      change = .add ∧ tag ∈ addTags ∨ change = .delete ∧ tag ∈ deleteTags := by
  unfold ofTag?
  split <;> cases change <;> simp_all [addTags, deleteTags]

end Change

namespace EventCapture

variable {c c' : EventCapture} {n : Notification} {key : String} {change : Change}

/-- The notice tells of a change that is to be reported. -/
structure Tells (c : EventCapture) (n : Notification) (change : Change) (key : String) : Prop where
  /-- What follows the first colon of the channel is the key, with the table in front. -/
  channel : ∃ start, n.channel = start ++ ":" ++ c.handle.tableKey c.table key ∧ ':' ∉ start.toList
  reported : key ∉ c.ignored
  tag : change = .add ∧ n.tag ∈ Change.addTags ∨ change = .delete ∧ n.tag ∈ Change.deleteTags

theorem afterStart?_tableKey {raw : String} :
    Text.afterStart? (c.handle.tableKey c.table "") raw = some key ↔
      raw = c.handle.tableKey c.table key := by
  rw [Text.afterStart?_eq_some_iff]
  simp [Handle.tableKey, StoreName.tableKey]

theorem keyOf?_eq_some_iff : c.keyOf? n = some key ↔
    (∃ start, n.channel = start ++ ":" ++ c.handle.tableKey c.table key ∧ ':' ∉ start.toList) ∧
      key ∉ c.ignored := by
  have raw {r : String} : n.key? = some r ↔
      ∃ start, n.channel = start ++ ":" ++ r ∧ ':' ∉ start.toList := by
    rw [Notification.key?, Option.map_eq_some_iff, Prod.exists]
    simp only [exists_eq_right]
    exact exists_congr fun _ => Text.splitFirst?_eq_some_iff ":" rfl
  rw [← raw, keyOf?]
  simp only [Option.bind_eq_bind, Option.bind_eq_some_iff, afterStart?_tableKey]
  constructor
  · rintro ⟨r, hr, key', rfl, h⟩
    split at h
    · cases h
    · rename_i hk
      cases h
      exact ⟨hr, by simpa using hk⟩
  · rintro ⟨hr, hk⟩
    exact ⟨_, hr, key, rfl, by simpa using hk⟩

theorem changeOf?_eq_some_iff : c.changeOf? n = some (change, key) ↔ c.Tells n change key := by
  rw [changeOf?]
  simp only [Option.bind_eq_bind, Option.bind_eq_some_iff]
  constructor
  · rintro ⟨key', hkey, change', hchange, h⟩
    cases h
    obtain ⟨hchannel, hreported⟩ := keyOf?_eq_some_iff.mp hkey
    exact ⟨hchannel, hreported, Change.ofTag?_eq_some_iff.mp hchange⟩
  · rintro ⟨hchannel, hreported, htag⟩
    exact ⟨key, keyOf?_eq_some_iff.mpr ⟨hchannel, hreported⟩, change,
      Change.ofTag?_eq_some_iff.mpr htag, rfl⟩

/-- The channel of a notice, as the server names it. -/
def channelOf (c : EventCapture) (key : String) : String :=
  s!"__keyspace@{c.handle.store.index}__:{c.handle.tableKey c.table key}"

theorem splitFirst?_channelOf : Text.splitFirst? ':' (c.channelOf key) =
    some (s!"__keyspace@{c.handle.store.index}__", c.handle.tableKey c.table key) := by
  refine (Text.splitFirst?_eq_some_iff ":" rfl).mpr ⟨?_, ?_⟩
  · have colon : toString "__:" = toString "__" ++ ":" := by decide
    simp only [channelOf, colon, String.append_assoc]
    rfl
  · cases c.handle.store <;> decide +kernel

/-- The server gives notice of a key under its own name. -/
theorem tells_channelOf_iff {tag key' : String} :
    c.Tells ⟨c.channelOf key, tag⟩ change key' ↔
      key' = key ∧ key ∉ c.ignored ∧
        (change = .add ∧ tag ∈ Change.addTags ∨ change = .delete ∧ tag ∈ Change.deleteTags) := by
  constructor
  · rintro ⟨⟨start, he, hstart⟩, hreported, htag⟩
    have split := (Text.splitFirst?_eq_some_iff ":" rfl).mpr ⟨he, hstart⟩
    have same : c.handle.tableKey c.table key' = c.handle.tableKey c.table key :=
      (Prod.mk.inj (Option.some.inj (split.symm.trans splitFirst?_channelOf))).2
    have hkey : key' = key := by
      simpa [Handle.tableKey, StoreName.tableKey] using same
    rw [hkey] at hreported
    exact ⟨hkey, hreported, htag⟩
  · rintro ⟨rfl, hreported, htag⟩
    obtain ⟨he, hstart⟩ :=
      (Text.splitFirst?_eq_some_iff ":" rfl).mp (splitFirst?_channelOf (c := c))
    exact ⟨⟨_, he, hstart⟩, hreported, htag⟩

/-! ## What is reported -/

/-- A change that is kept, with the fields that were read for it. -/
inductive Noted where
  | add (key : String) (fields : FieldValues)
  | delete (key : String)

namespace Noted

def event : Noted → Change × String
  | add key _ => (.add, key)
  | delete key => (.delete, key)

def added? : Noted → Option (String × FieldValues)
  | add key fields => some (key, fields)
  | delete _ => none

def deleted? : Noted → Option String
  | add _ _ => none
  | delete key => some key

/-- Both are adds, and of one key. -/
def sameAdd : Noted → Noted → Bool
  | add key _, add key' _ => key = key'
  | _, _ => false

/-- What is read for the change. -/
def reads (c : EventCapture) : Noted → Trace Host
  | add key fields => [c.handle.db.fetched c.table key (.ok fields)]
  | delete _ => []

end Noted

/-- For each longest run of adds of one key an entry with the fields that were read last, and all
keys that were deleted. -/
def report (noted : List Noted) : Events :=
  ⟨(noted.splitBy Noted.sameAdd).filterMap fun run => run.getLast?.bind Noted.added?,
    noted.filterMap Noted.deleted?⟩

/-- What a change does to the progress, once its record was read. -/
def Progress.note (p : Progress) : Noted → Progress
  | .add key fields =>
    if p.lastAdd = some key then { p with events := p.events.refresh fields }
    else ⟨p.events.add key fields, some key⟩
  | .delete key => ⟨p.events.delete key, none⟩

/-- The last run of a list goes on. -/
theorem splitBy_concat {α : Type} {r : α → α → Bool} {xs : List α} {x y : α}
    (hy : xs.getLast? = some y) (hr : r y x = true) :
    ∃ runs run, xs.splitBy r = runs ++ [run] ∧ run.getLast? = some y ∧
      (xs ++ [x]).splitBy r = runs ++ [run ++ [x]] := by
  have hne : xs ≠ [] := by
    rintro rfl
    cases hy
  obtain ⟨runs, run, hruns⟩ : ∃ runs run, xs.splitBy r = runs ++ [run] :=
    ⟨_, _, (List.dropLast_append_getLast (List.splitBy_ne_nil.mpr hne)).symm⟩
  obtain ⟨hflat, hnil, hchain, hbreaks⟩ := List.splitBy_eq_iff.mp hruns
  have hrun : run ≠ [] := fun he => hnil (by simp [he])
  have hlast : run.getLast? = some y := by
    rw [← hy, hflat, List.flatten_append, List.flatten_singleton]
    exact (List.getLast?_append_of_ne_nil _ hrun).symm
  have hchainLast : (run ++ [x]).IsChain fun a b => r a b := by
    refine List.isChain_append.mpr ⟨hchain run (by simp), .singleton x, fun a ha b hb => ?_⟩
    cases hb
    cases ha.symm.trans hlast
    exact hr
  refine ⟨runs, run, hruns, hlast, List.splitBy_eq_iff.mpr ⟨?_, ?_, ?_, ?_⟩⟩
  · simp [hflat]
  · simpa [hrun] using hnil
  · intro m hm
    rcases List.mem_append.mp hm with hm | hm
    · exact hchain m (List.mem_append_left _ hm)
    · rwa [List.mem_singleton.mp hm]
  · -- the last run still begins where it did
    obtain ⟨hruns', -, hbreak⟩ := List.isChain_append.mp hbreaks
    refine List.isChain_append.mpr ⟨hruns', .singleton _, fun a ha b hb => ?_⟩
    cases hb
    obtain ⟨hane, _, hne⟩ := hbreak a ha run rfl
    refine ⟨hane, by simp, ?_⟩
    rwa [List.head_append_of_ne_nil]

@[simp] theorem sameAdd_iff {x y : Noted} : x.sameAdd y = true ↔
    ∃ key fields fields', x = .add key fields ∧ y = .add key fields' := by
  cases x <;> cases y <;> simp [Noted.sameAdd]
  exact eq_comm

/-- The key of the newest add, if no other change came after it. -/
def lastAdded (noted : List Noted) : Option String :=
  (noted.getLast?.bind Noted.added?).map Prod.fst

theorem lastAdded_eq_some_iff {noted : List Noted} :
    lastAdded noted = some key ↔ ∃ fields, noted.getLast? = some (.add key fields) := by
  rw [lastAdded]
  rcases noted.getLast? with _ | _ | _ <;> simp [Noted.added?]

theorem report_concat_again {noted : List Noted} {fields : FieldValues}
    (h : lastAdded noted = some key) :
    report (noted ++ [.add key fields]) = (report noted).refresh fields := by
  obtain ⟨old, hlast⟩ := lastAdded_eq_some_iff.mp h
  obtain ⟨runs, run, hruns, hrun, hruns'⟩ :=
    splitBy_concat hlast (sameAdd_iff.mpr ⟨key, old, fields, rfl, rfl⟩)
  simp [report, Events.refresh, hruns, hrun, hruns', Noted.added?, Noted.deleted?]

/-- Any other change begins a run. -/
theorem report_concat {noted : List Noted} {x : Noted}
    (h : ∀ key fields, x = .add key fields → lastAdded noted ≠ some key) :
    report (noted ++ [x]) = ⟨(report noted).adds ++ x.added?.toList,
      (report noted).deletes ++ x.deleted?.toList⟩ := by
  have begins : (noted ++ [x]).splitBy Noted.sameAdd = noted.splitBy Noted.sameAdd ++ [[x]] := by
    refine List.splitBy_append_cons [] fun y hy => ?_
    by_contra hne
    obtain ⟨key, fields, fields', rfl, rfl⟩ := sameAdd_iff.mp (by simpa using hne)
    exact h key fields' rfl (lastAdded_eq_some_iff.mpr ⟨fields, hy⟩)
  cases x <;> simp [report, begins, Noted.added?, Noted.deleted?]

/-- The progress is a report on all changes so far. -/
theorem foldl_note (noted : List Noted) :
    noted.foldl Progress.note ⟨.empty, none⟩ = ⟨report noted, lastAdded noted⟩ := by
  induction noted using List.reverseRecOn with
  | nil => rfl
  | append_singleton noted x ih =>
    rw [List.foldl_append, ih, List.foldl_cons, List.foldl_nil]
    cases x with
    | add key fields =>
      have last : lastAdded (noted ++ [.add key fields]) = some key :=
        lastAdded_eq_some_iff.mpr ⟨fields, by simp⟩
      rw [last, Progress.note]
      split
      case isTrue h => rw [report_concat_again h, h]
      case isFalse h =>
        rw [report_concat]
        · simp [Events.add, Noted.added?, Noted.deleted?]
        · rintro key' fields' ⟨⟩
          exact h
    | delete key =>
      rw [report_concat (fun _ _ he => by cases he)]
      simp [Progress.note, Events.delete, lastAdded, Noted.added?, Noted.deleted?]

/-! ## One capture -/

/-- The changes that notices tell, of those that are to be reported. -/
def kept (c : EventCapture) (ticks : List Tick) : List (Change × String) :=
  ticks.filterMap fun
    | .notice n => c.changeOf? n
    | _ => none

theorem kept_silent_cons {ticks : List Tick} : c.kept (.silent :: ticks) = c.kept ticks := rfl

theorem kept_notice_cons {ticks : List Tick} :
    c.kept (.notice n :: ticks) = (c.changeOf? n).toList ++ c.kept ticks := by
  rw [kept, List.filterMap_cons]
  cases h : c.changeOf? n <;> simp [kept, h]

/-- How many silent waits in a row make an idle window. -/
def idleTicks (c : EventCapture) (window : Duration) : Nat :=
  (window.nanos + c.tick.nanos - 1) / c.tick.nanos

theorem idleTicks_le_iff {window : Duration} {j : Nat} :
    c.idleTicks window ≤ j ↔ window.nanos ≤ j * c.tick.nanos := by
  have pos : 0 < c.tick.nanos := c.tick_pos
  rw [idleTicks, Nat.div_le_iff_le_mul_add_pred pos, Nat.mul_comm]
  omega

/-- What is read for some changes. -/
def readings (c : EventCapture) (noted : List Noted) : Trace Host := noted.flatMap (·.reads c)

theorem take_add {p : Progress} : c.take p (.add, key) = do
    let fields ← c.handle.getEntry c.table key
    return p.note (.add key fields) := by
  rw [take]
  congr
  funext fields
  rw [Progress.note]
  split <;> rfl

theorem take_delete {p : Progress} : c.take p (.delete, key) = pure (p.note (.delete key)) := rfl

theorem runs_take_iff {p : Progress} {r : Except Fault Progress} {event : Change × String} :
    (Attempt.Runs (c.take p event) l t r l' ∧ ∀ x ∈ t, ¬FailedRead x) ↔
      ∃ x : Noted, x.event = event ∧ t = x.reads c ∧ r = .ok (p.note x) ∧ l' = l := by
  obtain ⟨_ | _, key⟩ := event
  · rw [take_add, Attempt.runs_bind_iff]
    simp only [Handle.runs_getEntry_iff, Attempt.runs_pure_iff]
    constructor
    · rintro ⟨⟨_, _, fields, _, rfl, ⟨rfl, rfl⟩, rfl, rfl, rfl⟩ | ⟨e, rfl, rfl, rfl⟩, hreads⟩
      · exact ⟨.add key fields, rfl, rfl, rfl, rfl⟩
      · exact absurd (Database.failedRead_fetched.mpr ⟨e, rfl⟩) (hreads _ List.mem_cons_self)
    · rintro ⟨x, hx, rfl, rfl, rfl⟩
      cases x with
      | delete => cases hx
      | add key' fields =>
        cases hx
        refine ⟨.inl ⟨_, [], fields, l', (List.append_nil _).symm, ⟨rfl, rfl⟩, rfl, rfl, rfl⟩, ?_⟩
        intro x hx hfailed
        rw [List.mem_singleton.mp hx, Database.failedRead_fetched] at hfailed
        obtain ⟨e, he⟩ := hfailed
        cases he
  · rw [take_delete, Attempt.runs_pure_iff]
    constructor
    · rintro ⟨⟨rfl, rfl, rfl⟩, -⟩
      exact ⟨.delete key, rfl, rfl, rfl, rfl⟩
    · rintro ⟨x, hx, rfl, rfl, rfl⟩
      cases x with
      | add => cases hx
      | delete key' =>
        cases hx
        exact ⟨⟨rfl, rfl, rfl⟩, fun x hx => by cases hx⟩

variable {window idle : Duration} {feed s s' : Feed} {p : Progress} {r : Except Fault Events}

theorem idle_add_tick {j : Nat} (h : idle.nanos = j * c.tick.nanos) :
    (idle + c.tick).nanos = (j + 1) * c.tick.nanos := by
  rw [Nat.succ_mul, ← h]
  rfl

theorem zero_nanos : Duration.zero.nanos = 0 * c.tick.nanos := by rw [Nat.zero_mul, Duration.zero]

theorem lt_idleTicks {j : Nat} (h : idle.nanos = j * c.tick.nanos) (hw : ¬window ≤ idle) :
    j < c.idleTicks window := by
  have pending : ¬window.nanos ≤ idle.nanos := hw
  rwa [h, ← idleTicks_le_iff, Nat.not_le] at pending

theorem failure_notMem_of_cons {first : Tick} (h : ∀ fault, Tick.failure fault ∉ first :: feed) :
    ∀ fault, Tick.failure fault ∉ feed := fun fault hm => h fault (List.mem_cons_of_mem _ hm)

/-- A change is taken in, and then the rest follows from the new progress. -/
theorem runs_take_bind_iff {event : Change × String} {f : Progress → On Feed Events} :
    (On.Runs (do let p ← c.take p event; f p) s l t r s' l' ∧ ∀ x ∈ t, ¬FailedRead x) ↔
      ∃ (x : Noted) (u : Trace Host), x.event = event ∧ t = x.reads c ++ u ∧
        On.Runs (f (p.note x)) s l u r s' l' ∧ ∀ y ∈ u, ¬FailedRead y := by
  rw [On.runs_bind_lift_iff]
  constructor
  · rintro ⟨⟨u, v, p', l₁, rfl, htake, hrest⟩ | ⟨e, rfl, -, htake⟩, hreads⟩
    · rw [List.forall_mem_append] at hreads
      obtain ⟨x, hx, rfl, hp, rfl⟩ := runs_take_iff.mp ⟨htake, hreads.1⟩
      cases hp
      exact ⟨x, v, hx, rfl, hrest, hreads.2⟩
    · -- no reading fails, so no change is refused
      obtain ⟨_, _, _, he, _⟩ := runs_take_iff.mp ⟨htake, hreads⟩
      cases he
  · rintro ⟨x, u, hx, rfl, hrest, hreads⟩
    obtain ⟨htake, hread⟩ := runs_take_iff.mpr ⟨x, hx, rfl, rfl, rfl⟩
    exact ⟨.inl ⟨_, _, _, _, rfl, htake, hrest⟩, List.forall_mem_append.mpr ⟨hread, hreads⟩⟩

theorem runs_drain_iff {j k : Nat} (hfeed : ∀ fault, Tick.failure fault ∉ feed)
    (hidle : idle.nanos = j * c.tick.nanos)
    (hk : Feed.EndsFrom (c.idleTicks window) j feed k) :
    (On.Runs (c.drain window feed idle p) s l t r s' l' ∧ ∀ x ∈ t, ¬FailedRead x) ↔
      ∃ noted : List Noted, noted.map Noted.event = c.kept (feed.heard k) ∧ t = c.readings noted ∧
        r = .ok (noted.foldl Progress.note p).events ∧ s' = feed.drop k ∧ l' = l := by
  -- `j` waits in a row were silent when the loop comes round, and it comes round `k` times more
  fun_induction drain c window feed idle p generalizing j k s l t with
  | case1 feed idle p hdone =>
    have through : c.idleTicks window ≤ j := by
      rw [idleTicks_le_iff, ← hidle]
      exact hdone
    cases (Feed.endsFrom_of_le through).mp hk
    rw [On.runs_bind_set_iff, On.runs_pure_iff, Feed.heard_zero]
    constructor
    · rintro ⟨⟨rfl, rfl, rfl, rfl⟩, -⟩
      exact ⟨[], rfl, rfl, rfl, rfl, rfl⟩
    · rintro ⟨noted, hnoted, rfl, rfl, rfl, rfl⟩
      cases List.map_eq_nil_iff.mp hnoted
      exact ⟨⟨rfl, rfl, rfl, rfl⟩, fun x hx => by cases hx⟩
  | case2 idle p hpending ih =>
    obtain ⟨k, rfl, hk'⟩ := (Feed.endsFrom_silent (lt_idleTicks hidle hpending)
      fun _ => Feed.heard_nil_succ).mp hk
    rw [ih hfeed (idle_add_tick hidle) hk', Feed.heard_nil_succ, kept_silent_cons, List.drop_nil,
      List.drop_nil]
  | case3 idle p hpending feed ih =>
    obtain ⟨k, rfl, hk'⟩ := (Feed.endsFrom_silent (lt_idleTicks hidle hpending)
      fun _ => Feed.heard_cons_succ).mp hk
    rw [ih (failure_notMem_of_cons hfeed) (idle_add_tick hidle) hk',
      Feed.heard_cons_succ, kept_silent_cons, List.drop_succ_cons]
  | case4 idle p hpending fault feed => exact absurd List.mem_cons_self (hfeed fault)
  | case5 idle p hpending n feed hn ih =>
    obtain ⟨k, rfl, hk'⟩ := (Feed.endsFrom_other (lt_idleTicks hidle hpending) (by simp)).mp hk
    rw [ih (failure_notMem_of_cons hfeed) zero_nanos hk',
      Feed.heard_cons_succ, kept_notice_cons, hn, List.drop_succ_cons]
    rfl
  | case6 idle p hpending n feed event hn ih =>
    obtain ⟨k, rfl, hk'⟩ := (Feed.endsFrom_other (lt_idleTicks hidle hpending) (by simp)).mp hk
    rw [On.runs_bind_set_iff, runs_take_bind_iff, Feed.heard_cons_succ, kept_notice_cons, hn,
      Option.toList_some, List.singleton_append, List.drop_succ_cons]
    constructor
    · rintro ⟨x, u, hx, rfl, hrest⟩
      obtain ⟨noted, hnoted, rfl, rfl, hs, hl⟩ :=
        (ih _ (failure_notMem_of_cons hfeed) zero_nanos hk').mp hrest
      exact ⟨x :: noted, by rw [List.map_cons, hx, hnoted], rfl, rfl, hs, hl⟩
    · rintro ⟨noted, hnoted, rfl, rfl, hs, hl⟩
      obtain ⟨x, noted, rfl, hx, hnoted⟩ := List.map_eq_cons_iff.mp hnoted
      refine ⟨x, _, hx, rfl, (ih _ (failure_notMem_of_cons hfeed) zero_nanos hk').mpr ?_⟩
      exact ⟨noted, hnoted, rfl, rfl, hs, hl⟩

theorem runs_capture_iff {k : Nat} (hfeed : ∀ fault, Tick.failure fault ∉ c.feed)
    (hk : Feed.EndsAt (c.idleTicks window) c.feed k) :
    (On.Runs (capture window) c l t r c' l' ∧ ∀ x ∈ t, ¬FailedRead x) ↔
      ∃ noted : List Noted, noted.map Noted.event = c.kept (Feed.heard c.feed k) ∧
        t = c.readings noted ∧ r = .ok (report noted) ∧
        c' = { c with feed := c.feed.drop k } ∧ l' = l := by
  have drained {s' : Feed} :
      (On.Runs (c.drain window c.feed .zero ⟨.empty, none⟩) c.feed l t r s' l' ∧
        ∀ x ∈ t, ¬FailedRead x) ↔
      ∃ noted : List Noted, noted.map Noted.event = c.kept (Feed.heard c.feed k) ∧
        t = c.readings noted ∧ r = .ok (report noted) ∧ s' = c.feed.drop k ∧ l' = l := by
    simpa only [foldl_note] using
      runs_drain_iff (p := ⟨.empty, none⟩) hfeed zero_nanos (Feed.endsFrom_zero_iff.mpr hk)
  rw [capture, On.runs_bind_get_iff, On.runs_part_iff]
  constructor
  · rintro ⟨⟨s', hr, rfl⟩, hreads⟩
    obtain ⟨noted, hnoted, ht, hresult, rfl, hl⟩ := drained.mp ⟨hr, hreads⟩
    exact ⟨noted, hnoted, ht, hresult, rfl, hl⟩
  · rintro ⟨noted, hnoted, ht, hresult, rfl, hl⟩
    obtain ⟨hr, hreads⟩ := drained.mpr ⟨noted, hnoted, ht, hresult, rfl, hl⟩
    exact ⟨⟨_, hr, rfl⟩, hreads⟩

/-! ## Captures in a row -/

/-- Captures one after the other, in which no reading fails. What was read in each of them, and its
result. -/
inductive Captures : EventCapture → List (Trace Host × Events) → EventCapture → Prop where
  | nil (c : EventCapture) : Captures c [] c
  | cons {c c₁ c' : EventCapture} {window : Duration} {l l' : Ledger} {t : Trace Host}
      {events : Events} {rest : List (Trace Host × Events)} :
    On.Runs (capture window) c l t (.ok events) c₁ l' → (∀ x ∈ t, ¬FailedRead x) →
    Captures c₁ rest c' → Captures c ((t, events) :: rest) c'

theorem kept_heard_append {k : Nat} :
    c.kept (Feed.heard c.feed k) ++ c.kept (c.feed.drop k) = c.kept c.feed := by
  have silence {m : Nat} : c.kept (List.replicate m .silent) = [] := by
    induction m with
    | zero => rfl
    | succ m ih => rw [List.replicate_succ, kept_silent_cons, ih]
  have parts (xs ys : List Tick) : c.kept (xs ++ ys) = c.kept xs ++ c.kept ys :=
    List.filterMap_append
  rw [Feed.heard, parts, silence, List.append_nil, ← parts, List.take_append_drop]

/-- Each capture goes on where the one before ended. -/
theorem Captures.parts {done : List (Trace Host × Events)} (h : Captures c done c')
    (hfeed : ∀ fault, Tick.failure fault ∉ c.feed) :
    ∃ parts : List (List Noted), done = parts.map (fun noted => (c.readings noted, report noted)) ∧
      parts.flatten.map Noted.event ++ c.kept c'.feed = c.kept c.feed := by
  induction h with
  | nil c => exact ⟨[], rfl, rfl⟩
  | @cons c c₁ c' window l l' t events rest hr hreads _ ih =>
    obtain ⟨k, hk⟩ := Feed.exists_endsAt (c.idleTicks window) c.feed
    obtain ⟨noted, hnoted, rfl, hevents, rfl, rfl⟩ := (runs_capture_iff hfeed hk).mp ⟨hr, hreads⟩
    cases hevents
    obtain ⟨parts, hrest, hparts⟩ := ih fun fault hm => hfeed fault (List.mem_of_mem_drop hm)
    refine ⟨noted :: parts, by rw [hrest]; rfl, ?_⟩
    rw [List.flatten_cons, List.map_append, hnoted, List.append_assoc, ← kept_heard_append (k := k)]
    exact congrArg _ hparts

/-- A capture reports what it hears, all of it once, and nothing else. -/
structure Exact (c : EventCapture) : Prop where
  /-- It ends when an idle window has passed, which is at some time. The reports are made of the
  changes that were kept, whatever was read for them. -/
  ends (window : Duration) : ∃ k, Feed.EndsAt (c.idleTicks window) c.feed k
  captures {window : Duration} {k : Nat} {l l' : Ledger} {t : Trace Host} {r : Except Fault Events}
    {c' : EventCapture} : Feed.EndsAt (c.idleTicks window) c.feed k →
    ((On.Runs (capture window) c l t r c' l' ∧ ∀ x ∈ t, ¬FailedRead x) ↔
      ∃ noted : List Noted, noted.map Noted.event = c.kept (Feed.heard c.feed k) ∧
        t = c.readings noted ∧ r = .ok (report noted) ∧
        c' = { c with feed := c.feed.drop k } ∧ l' = l)
  keeps {n : Notification} {change : Change} {key : String} :
    c.changeOf? n = some (change, key) ↔ c.Tells n change key
  /-- What the server says of a key is reported of this key. -/
  names {key key' tag : String} {change : Change} :
    c.changeOf? ⟨s!"__keyspace@{c.handle.store.index}__:{c.handle.tableKey c.table key}", tag⟩ =
        some (change, key') ↔
      key' = key ∧ key ∉ c.ignored ∧ Change.ofTag? tag = some change
  /-- Of captures in a row each goes on where the one before ended. -/
  goesOn {done : List (Trace Host × Events)} {c' : EventCapture} : Captures c done c' →
    ∃ parts : List (List Noted), done = parts.map (fun noted => (c.readings noted, report noted)) ∧
      parts.flatten.map Noted.event ++ c.kept c'.feed = c.kept c.feed

theorem capture_exact (c : EventCapture) (hfeed : ∀ fault, Tick.failure fault ∉ c.feed) :
    c.Exact where
  ends window := Feed.exists_endsAt _ _
  captures hk := runs_capture_iff hfeed hk
  keeps := changeOf?_eq_some_iff
  names := by
    intro key key' tag change
    rw [changeOf?_eq_some_iff, Change.ofTag?_eq_some_iff]
    exact tells_channelOf_iff
  goesOn h := h.parts hfeed

end EventCapture

end SwitchLab

/-! ## The ports of a switch

A writer sets the fields of a port one by one, another port is left out, and a third is deleted.
What comes after the window is left for the next capture. -/

namespace SwitchLab.PortChanges

open EventCapture

def told (port tag : String) : Tick := .notice ⟨"__keyspace@0__:PORT_TABLE:" ++ port, tag⟩

def feed : Feed :=
  [told "Ethernet0" "hset", told "Ethernet8" "hset", told "Ethernet0" "hset", .silent,
    told "Ethernet4" "del", .silent, .silent, .silent, told "Ethernet0" "hset"]

def watch : EventCapture :=
  (ofFeed feed ⟨⟨"/var/run/redis-vs/dut/redis.sock", .appl⟩, 0⟩ "PORT_TABLE").ignoring ["Ethernet8"]

def noted : List Noted :=
  [.add "Ethernet0" (.ofPairs [("mtu", "9100")]),
    .add "Ethernet0" (.ofPairs [("admin_status", "up"), ("mtu", "9100")]), .delete "Ethernet4"]

theorem watch_exact :
    (∀ fault, Tick.failure fault ∉ watch.feed) ∧ watch.Exact ∧
    On.Runs (capture (.ofMillis 250)) watch .empty (watch.readings noted)
      (.ok ⟨[("Ethernet0", .ofPairs [("admin_status", "up"), ("mtu", "9100")])], ["Ethernet4"]⟩)
      { watch with feed := [told "Ethernet0" "hset"] } .empty := by
  have quiet : ∀ fault, Tick.failure fault ∉ watch.feed := by
    simp [watch, ofFeed, ignoring, feed, told]
  have exact := capture_exact watch quiet
  have ends : Feed.EndsAt (watch.idleTicks (.ofMillis 250)) watch.feed 8 := by
    refine ⟨?_, ?_⟩ <;> decide +kernel
  have kept : noted.map Noted.event = watch.kept (Feed.heard watch.feed 8) := by decide +kernel
  exact ⟨quiet, exact, ((exact.captures ends).mpr ⟨noted, kept, rfl, rfl, rfl, rfl⟩).1⟩

end SwitchLab.PortChanges
