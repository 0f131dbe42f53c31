import SwitchLab.Proofs.Capturing
import SwitchLab.Proofs.Globs
import SwitchLab.Proofs.Keys
import SwitchLab.Proofs.Reading

/-! Captures on a subscription, whatever it brings and whatever fails. Their reports tell of just
the keys that the notices they took tell of. All of these are keys of the table. They begin with
the start that was subscribed to as far as the server keeps to it: the pattern says so, the capture
does not look again. -/

namespace SwitchLab

variable {l l' : Ledger} {t : Trace Host}

namespace Events

/-- The keys of all changes. -/
def keys (e : Events) : List String := e.adds.map Prod.fst ++ e.deletes

@[simp] theorem keys_refresh {e : Events} {fields : FieldValues} :
    (e.refresh fields).keys = e.keys := by
  rw [refresh]
  cases hlast : e.adds.getLast? with
  | none => rfl
  | some last =>
    obtain ⟨init, hadds⟩ := List.getLast?_eq_some_iff.mp hlast
    simp [keys, hadds]

end Events

namespace EventCapture

variable {c c' : EventCapture} {n : Notification} {key : String} {change : Change}

/-! ## The keys of a report -/

theorem mem_keys_report_iff {noted : List Noted} :
    key ∈ (report noted).keys ↔ ∃ x ∈ noted, x.event.2 = key := by
  induction noted using List.reverseRecOn with
  | nil => simp [report, Events.keys]
  | append_singleton noted x ih =>
    have last : (∃ y ∈ noted ++ [x], y.event.2 = key) ↔
        (∃ y ∈ noted, y.event.2 = key) ∨ x.event.2 = key := by
      simp [or_and_right, exists_or]
    by_cases hagain : ∃ again fields, x = .add again fields ∧ lastAdded noted = some again
    · obtain ⟨again, fields, rfl, hlast⟩ := hagain
      obtain ⟨old, hold⟩ := lastAdded_eq_some_iff.mp hlast
      rw [report_concat_again hlast, Events.keys_refresh, ih, last]
      -- the key has been noted before
      refine ⟨.inl, fun h => h.elim id fun hkey => ?_⟩
      exact ⟨.add again old, List.mem_of_getLast? hold, hkey⟩
    · rw [report_concat fun again fields hx hlast => hagain ⟨again, fields, hx, hlast⟩, last, ← ih]
      cases x with
      | add | delete =>
        simp only [Events.keys, Noted.added?, Noted.deleted?, Noted.event, List.mem_append,
          Option.toList_some, Option.toList_none, List.map_append, List.map_cons, List.map_nil,
          List.append_nil, List.mem_singleton]
        tauto

theorem mem_kept_iff {ticks : List Tick} : (change, key) ∈ c.kept ticks ↔
    ∃ n, .notice n ∈ ticks ∧ c.Tells n change key := by
  rw [kept, List.mem_filterMap]
  constructor
  · rintro ⟨tick, htick, h⟩
    cases tick with
    | notice n => exact ⟨n, htick, changeOf?_eq_some_iff.mp h⟩
    | silent | failure => cases h
  · rintro ⟨n, hn, h⟩
    exact ⟨_, hn, changeOf?_eq_some_iff.mpr h⟩

/-! ## One capture -/

variable {window idle : Duration} {feed s s' : Feed} {p p' : Progress} {r : Except Fault Events}

theorem exists_noted_of_take {event : Change × String}
    (h : Attempt.Runs (c.take p event) l t (.ok p') l') :
    ∃ x : Noted, x.event = event ∧ p' = p.note x := by
  obtain ⟨_ | _, key⟩ := event
  · rw [take_add] at h
    obtain ⟨_, _, fields, _, rfl, -, hpure⟩ := Attempt.runs_bind_ok_iff.mp h
    obtain ⟨-, hp, -⟩ := Attempt.runs_pure_iff.mp hpure
    exact ⟨.add key fields, rfl, Except.ok.inj hp⟩
  · rw [take_delete] at h
    obtain ⟨-, hp, -⟩ := Attempt.runs_pure_iff.mp h
    exact ⟨.delete key, rfl, Except.ok.inj hp⟩

/-- A collection takes the first part of its feed, also if it fails. If it does not, it has noted
the changes of that part. -/
theorem exists_taken_of_drain (h : On.Runs (c.drain window feed idle p) s l t r s' l') :
    ∃ taken, feed = taken ++ s' ∧ ∀ events, r = .ok events →
      ∃ noted : List Noted, noted.map Noted.event = c.kept taken ∧
        events = (noted.foldl Progress.note p).events := by
  -- each case adds to what is taken the tick that it looks at
  fun_induction drain c window feed idle p generalizing s l t with
  | case1 feed idle p hdone =>
    rw [On.runs_bind_set_iff, On.runs_pure_iff] at h
    obtain ⟨rfl, rfl, rfl, rfl⟩ := h
    refine ⟨[], rfl, fun events he => ⟨[], rfl, (Except.ok.inj he).symm⟩⟩
  | case2 idle p hpending ih => exact ih h
  | case3 idle p hpending feed ih =>
    obtain ⟨taken, rfl, hok⟩ := ih h
    exact ⟨.silent :: taken, rfl, hok⟩
  | case4 idle p hpending fault feed =>
    rw [On.runs_bind_set_iff, On.runs_throw_iff] at h
    obtain ⟨rfl, rfl, rfl, rfl⟩ := h
    exact ⟨[.failure fault], rfl, fun events he => by cases he⟩
  | case5 idle p hpending n feed hn ih =>
    obtain ⟨taken, rfl, hok⟩ := ih h
    refine ⟨.notice n :: taken, rfl, ?_⟩
    rwa [kept_notice_cons, hn, Option.toList_none, List.nil_append]
  | case6 idle p hpending n feed event hn ih =>
    rw [On.runs_bind_set_iff, On.runs_bind_lift_iff] at h
    rcases h with ⟨u, v, p₁, l₁, rfl, htake, hrest⟩ | ⟨e, rfl, rfl, -⟩
    · obtain ⟨x, hx, rfl⟩ := exists_noted_of_take htake
      obtain ⟨taken, rfl, hok⟩ := ih _ hrest
      refine ⟨.notice n :: taken, rfl, fun events he => ?_⟩
      obtain ⟨noted, hnoted, hevents⟩ := hok events he
      refine ⟨x :: noted, ?_, hevents⟩
      rw [List.map_cons, hx, hnoted, kept_notice_cons, hn, Option.toList_some,
        List.singleton_append]
    · exact ⟨[.notice n], rfl, fun events he => by cases he⟩

theorem exists_taken_of_capture (h : On.Runs (capture window) c l t r c' l') :
    ∃ taken, c.feed = taken ++ c'.feed ∧
      (∀ n change key, c'.Tells n change key ↔ c.Tells n change key) ∧
      ∀ events, r = .ok events →
        ∀ key, key ∈ events.keys ↔ ∃ n change, .notice n ∈ taken ∧ c.Tells n change key := by
  rw [capture, On.runs_bind_get_iff, On.runs_part_iff] at h
  obtain ⟨s', hr, rfl⟩ := h
  obtain ⟨taken, hfeed, hok⟩ := exists_taken_of_drain hr
  refine ⟨taken, hfeed, fun _ _ _ => ?_, fun events he key => ?_⟩
  · exact ⟨fun h => ⟨h.channel, h.reported, h.tag⟩, fun h => ⟨h.channel, h.reported, h.tag⟩⟩
  obtain ⟨noted, hnoted, rfl⟩ := hok events he
  have told : (∃ x ∈ noted, x.event.2 = key) ↔ ∃ change, (change, key) ∈ c.kept taken := by
    rw [← hnoted]
    constructor
    · rintro ⟨x, hx, rfl⟩
      exact ⟨x.event.1, List.mem_map_of_mem hx⟩
    · rintro ⟨change, hmem⟩
      obtain ⟨x, hx, he⟩ := List.mem_map.mp hmem
      exact ⟨x, hx, congrArg Prod.snd he⟩
  rw [foldl_note, mem_keys_report_iff, told, exists_comm]
  exact exists_congr fun change => mem_kept_iff

/-! ## Captures in a row -/

/-- Captures one after the other. Of those that do not fail, the part of the feed that they took,
and their report. -/
inductive Watched : EventCapture → List (List Tick × Events) → EventCapture → Prop where
  | nil (c : EventCapture) : Watched c [] c
  | reported {c c₁ c' : EventCapture} {window : Duration} {l l' : Ledger} {t : Trace Host}
      {events : Events} {taken : List Tick} {rest : List (List Tick × Events)} :
    On.Runs (capture window) c l t (.ok events) c₁ l' → c.feed = taken ++ c₁.feed →
    Watched c₁ rest c' → Watched c ((taken, events) :: rest) c'
  | failed {c c₁ c' : EventCapture} {window : Duration} {l l' : Ledger} {t : Trace Host}
      {fault : Fault} {rest : List (List Tick × Events)} :
    On.Runs (capture window) c l t (.error fault) c₁ l' → Watched c₁ rest c' → Watched c rest c'

/-- A report tells of a key exactly if a notice that was taken for it does. -/
theorem Watched.told {done : List (List Tick × Events)} (h : Watched c done c') :
    ∀ part ∈ done, part.1 <:+: c.feed ∧
      ∀ key, key ∈ part.2.keys ↔ ∃ n change, .notice n ∈ part.1 ∧ c.Tells n change key := by
  induction h with
  | nil => simp
  | @reported c c₁ c' window l l' t events taken rest hr htaken _ ih =>
    obtain ⟨taken', hfeed, hsame, hok⟩ := exists_taken_of_capture hr
    obtain rfl : taken = taken' := List.append_cancel_right (htaken.symm.trans hfeed)
    rw [List.forall_mem_cons]
    refine ⟨⟨⟨[], c₁.feed, htaken.symm⟩, hok events rfl⟩, fun part hpart => ?_⟩
    obtain ⟨hpartOf, hkeys⟩ := ih part hpart
    simp only [hsame] at hkeys
    exact ⟨hpartOf.trans ⟨taken, [], by rw [List.append_nil, htaken]⟩, hkeys⟩
  | @failed c c₁ c' window l l' t fault rest hr _ ih =>
    obtain ⟨taken, hfeed, hsame, -⟩ := exists_taken_of_capture hr
    intro part hpart
    obtain ⟨hpartOf, hkeys⟩ := ih part hpart
    simp only [hsame] at hkeys
    exact ⟨hpartOf.trans ⟨taken, [], by rw [List.append_nil, hfeed]⟩, hkeys⟩

/-! ## The subscription -/

variable {socket table start : String} {h : Handle}

theorem runs_subscribe_ok_iff :
    Attempt.Runs (subscribe socket h table start) l t (.ok c) l' ↔
      ∃ feed, t = [⟨.subscribe ⟨socket, h.store⟩ (channelPattern h table start), .ok feed⟩] ∧
        c = ofFeed feed h table ∧ l' = l := by
  rw [subscribe, Attempt.runs_bind_ok_iff]
  constructor
  · rintro ⟨u, v, feed, l₁, rfl, hask, hpure⟩
    obtain ⟨rfl, rfl⟩ := (Lab.runs_ask_iff (q := .subscribe _ _)).mp hask
    obtain ⟨rfl, hc, rfl⟩ := Attempt.runs_pure_iff.mp hpure
    exact ⟨feed, rfl, Except.ok.inj hc, rfl⟩
  · rintro ⟨feed, rfl, rfl, rfl⟩
    exact ⟨_, [], feed, l', rfl, (Lab.runs_ask_iff (q := .subscribe _ _)).mpr ⟨rfl, rfl⟩,
      Attempt.runs_pure_iff.mpr ⟨rfl, rfl, rfl⟩⟩

/-- What the channels of a store begin with. -/
def scope (c : EventCapture) : String := s!"__keyspace@{c.handle.store.index}__:"

theorem channelOf_eq : c.channelOf key = c.scope ++ c.handle.tableKey c.table key := by
  simp only [channelOf, scope, String.append_assoc]
  rfl

theorem channelOf_append {rest : String} : c.channelOf (key ++ rest) = c.channelOf key ++ rest := by
  have raw (k : String) : c.handle.tableKey c.table k = c.handle.tableKey c.table "" ++ k :=
    Handle.tableKey_eq_append
  rw [channelOf_eq, channelOf_eq, raw, raw key]
  simp only [String.append_assoc]

theorem channelPattern_eq : channelPattern c.handle c.table start = c.channelOf start ++ "*" := by
  rw [channelPattern, channelOf]
  simp only [String.append_assoc]
  rfl

theorem notMem_channelOf {mark : Char} (hmark : mark = '*' ∨ mark = '?')
    (hplain : mark ∉ (c.handle.tableKey c.table start).toList) :
    mark ∉ (c.channelOf start).toList := by
  have hscope : mark ∉ c.scope.toList := by
    rw [scope]
    rcases hmark with rfl | rfl <;> cases c.handle.store <;> decide +kernel
  rw [channelOf_eq, String.toList_append, List.mem_append, not_or]
  exact ⟨hscope, hplain⟩

/-- A pattern without other stars or question marks stands for channels of such keys only. -/
theorem exists_channelOf_of_standsFor {channel : String}
    (hstar : '*' ∉ (c.handle.tableKey c.table start).toList)
    (hany : '?' ∉ (c.handle.tableKey c.table start).toList)
    (hs : Glob.StandsFor (channelPattern c.handle c.table start).toList channel.toList) :
    ∃ rest, channel = c.channelOf (start ++ rest) := by
  rw [channelPattern_eq, String.toList_append] at hs
  obtain ⟨rest, hrest⟩ := Glob.prefix_of_standsFor_append_star
    (notMem_channelOf (.inl rfl) hstar) (notMem_channelOf (.inr rfl) hany) hs
  refine ⟨String.ofList rest, ?_⟩
  rw [channelOf_append, ← String.toList_inj, String.toList_append, String.toList_ofList, hrest]

/-- What is reported by captures on a subscription to the keys of a table with some start: the keys
that notices taken for the report tell of, of this table and not left out. If the server gives
notice only of channels that the pattern stands for, and the table and the start have no stars or
question marks, all of them begin with that start. -/
theorem subscribed_told (socket table start : String) (h : Handle) (ignored : List String)
    (tick : Duration) (l l' : Ledger) (t : Trace Host) (c : EventCapture)
    (hr : Attempt.Runs (subscribe socket h table start) l t (.ok c) l') :
    ∃ feed, t = [⟨.subscribe ⟨socket, h.store⟩ (channelPattern h table start), .ok feed⟩] ∧
      ∀ done c', Watched ((c.ignoring ignored).withTick tick) done c' →
        (∀ part ∈ done, part.1 <:+: feed ∧ ∀ key, key ∈ part.2.keys ↔
          key ∉ ignored ∧ ∃ n, .notice n ∈ part.1 ∧
            (∃ before, n.channel = before ++ ":" ++ h.tableKey table key ∧ ':' ∉ before.toList) ∧
            (n.tag ∈ Change.addTags ∨ n.tag ∈ Change.deleteTags)) ∧
        ((∀ n, .notice n ∈ feed →
            Glob.StandsFor (channelPattern h table start).toList n.channel.toList) →
          '*' ∉ (h.tableKey table start).toList → '?' ∉ (h.tableKey table start).toList →
          ∀ part ∈ done, ∀ key ∈ part.2.keys, ∃ rest, key = start ++ rest) := by
  obtain ⟨feed, ht, rfl, -⟩ := runs_subscribe_ok_iff.mp hr
  refine ⟨feed, ht, fun done c' hwatched => ?_⟩
  have told := hwatched.told
  refine ⟨fun part hpart => ?_, fun hserver hstar hany part hpart key hkey => ?_⟩
  · obtain ⟨hpartOf, hkeys⟩ := told part hpart
    refine ⟨hpartOf, fun key => (hkeys key).trans ?_⟩
    constructor
    · rintro ⟨n, change, hn, htells⟩
      refine ⟨htells.reported, n, hn, htells.channel, ?_⟩
      exact htells.tag.imp And.right And.right
    · rintro ⟨hreported, n, hn, hchannel, hadd | hdelete⟩
      · exact ⟨n, .add, hn, hchannel, hreported, .inl ⟨rfl, hadd⟩⟩
      · exact ⟨n, .delete, hn, hchannel, hreported, .inr ⟨rfl, hdelete⟩⟩
  · obtain ⟨hpartOf, hkeys⟩ := told part hpart
    obtain ⟨n, change, hn, htells⟩ := (hkeys key).mp hkey
    obtain ⟨rest, hchannel⟩ := exists_channelOf_of_standsFor (c := ofFeed feed h table) hstar hany
      (hserver n (hpartOf.subset hn))
    obtain ⟨channel, tag⟩ := n
    obtain rfl : channel = _ := hchannel
    exact ⟨rest, (tells_channelOf_iff.mp htells).1⟩

end EventCapture

end SwitchLab

/-! ## Two subscriptions to ports

Both bring the same notices. One is to the start of their names, the other to a start with a
question mark, which no name has. -/

namespace SwitchLab.PortSubscriptions

open EventCapture

def socket : String := "/var/run/redis-vs/dut/redis.sock"

def handle : Handle := ⟨⟨socket, .config⟩, 0⟩

def told (port tag : String) : Tick := .notice ⟨"__keyspace@4__:PORT|" ++ port, tag⟩

def feed : Feed := [told "Ethernet24" "hset", told "Ethernet14" "hset", told "Ethernet64" "del"]

def watch : EventCapture :=
  ((ofFeed feed handle "PORT").ignoring ["Ethernet14"]).withTick (.ofMillis 50)

def noted : List Noted :=
  [.add "Ethernet24" (.ofPairs [("mtu", "9100")]), .delete "Ethernet64"]

def ports : Events := ⟨[("Ethernet24", .ofPairs [("mtu", "9100")])], ["Ethernet64"]⟩

theorem runs_subscribe (start : String) :
    Attempt.Runs (subscribe socket handle "PORT" start) .empty
      [⟨.subscribe ⟨socket, .config⟩ (channelPattern handle "PORT" start), .ok feed⟩]
      (.ok (ofFeed feed handle "PORT")) .empty :=
  runs_subscribe_ok_iff.mpr ⟨feed, rfl, rfl, rfl⟩

theorem runs_capture : On.Runs (capture (.ofMillis 100)) watch .empty (watch.readings noted)
    (.ok ports) { watch with feed := [] } .empty := by
  have quiet : ∀ fault, Tick.failure fault ∉ watch.feed := by
    simp [watch, ofFeed, ignoring, withTick, feed, told]
  have ends : Feed.EndsAt (watch.idleTicks (.ofMillis 100)) watch.feed 5 := by
    refine ⟨?_, ?_⟩ <;> decide +kernel
  have kept : noted.map Noted.event = watch.kept (Feed.heard watch.feed 5) := by decide +kernel
  exact ((runs_capture_iff quiet ends).mpr ⟨noted, kept, rfl, rfl, rfl, rfl⟩).1

theorem standsFor {start : String} (hs : start = "Ethernet" ∨ start = "Ethernet?4") :
    ∀ n, .notice n ∈ feed →
      Glob.StandsFor (channelPattern handle "PORT" start).toList n.channel.toList := by
  intro n hn
  have found : '*' ∉ n.channel.toList ∧
      globMatches (channelPattern handle "PORT" start) n.channel = true := by
    simp only [feed, told, List.mem_cons, Tick.notice.injEq, List.not_mem_nil, or_false] at hn
    rcases hs with rfl | rfl <;> rcases hn with rfl | rfl | rfl <;> decide +kernel
  exact (globMatches_iff found.1).mp found.2

theorem ports_told :
    Attempt.Runs (subscribe socket handle "PORT" "Ethernet") .empty
      [⟨.subscribe ⟨socket, .config⟩ (channelPattern handle "PORT" "Ethernet"), .ok feed⟩]
      (.ok (ofFeed feed handle "PORT")) .empty ∧
    Watched watch [(feed, ports)] { watch with feed := [] } ∧
    (∀ key, key ∈ ports.keys ↔ key ∉ ["Ethernet14"] ∧ ∃ n, .notice n ∈ feed ∧
      (∃ before, n.channel = before ++ ":" ++ handle.tableKey "PORT" key ∧ ':' ∉ before.toList) ∧
      (n.tag ∈ Change.addTags ∨ n.tag ∈ Change.deleteTags)) ∧
    ∀ key ∈ ports.keys, ∃ rest, key = "Ethernet" ++ rest := by
  have watched : Watched watch [(feed, ports)] { watch with feed := [] } :=
    .reported runs_capture (List.append_nil _).symm (.nil _)
  obtain ⟨delivered, hask, hall⟩ := subscribed_told socket "PORT" "Ethernet" handle ["Ethernet14"]
    (.ofMillis 50) .empty .empty _ _ (runs_subscribe "Ethernet")
  obtain rfl : feed = delivered := by
    cases hask
    rfl
  obtain ⟨told, start⟩ := hall _ _ watched
  have plain : '*' ∉ (handle.tableKey "PORT" "Ethernet").toList ∧
      '?' ∉ (handle.tableKey "PORT" "Ethernet").toList := by decide +kernel
  exact ⟨runs_subscribe "Ethernet", watched, (told _ List.mem_cons_self).2,
    start (standsFor (.inl rfl)) plain.1 plain.2 _ List.mem_cons_self⟩

/-- A question mark of the start is one of the pattern, and the capture does not look again. -/
theorem start_not_kept :
    Attempt.Runs (subscribe socket handle "PORT" "Ethernet?4") .empty
      [⟨.subscribe ⟨socket, .config⟩ (channelPattern handle "PORT" "Ethernet?4"), .ok feed⟩]
      (.ok (ofFeed feed handle "PORT")) .empty ∧
    (∀ n, .notice n ∈ feed →
      Glob.StandsFor (channelPattern handle "PORT" "Ethernet?4").toList n.channel.toList) ∧
    On.Runs (capture (.ofMillis 100)) watch .empty (watch.readings noted) (.ok ports)
      { watch with feed := [] } .empty ∧
    "Ethernet24" ∈ ports.keys ∧ ¬∃ rest, "Ethernet24" = "Ethernet?4" ++ rest := by
  refine ⟨runs_subscribe "Ethernet?4", standsFor (.inr rfl), runs_capture, by decide, ?_⟩
  rintro ⟨rest, he⟩
  have chars := congrArg String.toList he
  rw [String.toList_append] at chars
  exact absurd (congrArg (·[8]?) chars) (by simp)

end SwitchLab.PortSubscriptions
