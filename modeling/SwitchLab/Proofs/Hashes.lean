import SwitchLab.Proofs.Records
import SwitchLab.Redis.Client

/-! The client of a server that keeps hashes, compared to a memory. The server is
any one whose commands for hashes do what they are documented to do. A call of
the client and the same call of a memory give the same, and leave the same
records, so one can stand for the other in any history. -/

namespace SwitchLab.Redis

variable {α β σ : Type} {answer : List String → σ → Except Fault Reply × σ} {hashes : σ → Records}
  {s s₁ : σ} {key : String} {fields : FieldValues} {names : List String} {m : Memory} {r : Records}
  {record pairs more : List (String × String)}

/-! ## A client and its server -/

/-- The work of a client with a server that answers from a state of its own. -/
def talk (answer : List String → σ → Except Fault Reply × σ) (work : Session α) (s : σ) :
    Except Fault α × σ :=
  Dialogue.run (I := Wire) answer work.run s

theorem talk_bind_ok {work : Session α} {f : α → Session β} {a : α}
    (hw : talk answer work s = (.ok a, s₁)) :
    talk answer (work >>= f) s = talk answer (f a) s₁ := by
  have hrun : talk answer (work >>= f) s =
      Dialogue.run (I := Wire) answer (ExceptT.bindCont f (talk answer work s).1)
        (talk answer work s).2 := Dialogue.run_bind
  rw [hrun, hw]
  rfl

/-- A command is done if a reply comes that has no failure in it. -/
def Confirmed (answered : Except Fault Reply) : Prop :=
  ∃ reply, answered = .ok reply ∧ reply.isFailure = false

theorem talk_send {command : List String} {reply : Reply}
    (hreply : (answer command s).1 = .ok reply) (hfine : reply.isFailure = false) :
    talk answer (send command) s = (.ok reply, (answer command s).2) := by
  have asked : talk answer (ExceptT.mk (Dialogue.request (I := Wire) command)) s =
      (.ok reply, (answer command s).2) := by
    rw [← hreply]
    rfl
  rw [send, talk_bind_ok asked]
  cases reply with
  | failure text => cases hfine
  | _ =>
    dsimp only
    rw [hfine]
    rfl

theorem talk_order {command : List String} (h : Confirmed (answer command s).1) :
    talk answer (order command) s = (.ok (), (answer command s).2) := by
  obtain ⟨reply, hreply, hfine⟩ := h
  rw [order, talk_bind_ok (talk_send hreply hfine)]
  rfl

/-! ## Fields on the wire -/

/-- Fields and values by turns. -/
def flat (pairs : List (String × String)) : List String := pairs.flatMap fun p => [p.1, p.2]

theorem pairUp_flat : pairUp (flat pairs) = pairs := by
  induction pairs with
  | nil => rfl
  | cons p pairs ih =>
    have first : flat (p :: pairs) = p.1 :: p.2 :: flat pairs := rfl
    rw [first, pairUp, ih]

theorem mergeArgs_eq_flat : mergeArgs fields = flat (StoreWrite.written fields) := by
  obtain ⟨pairs⟩ := fields
  cases pairs <;> rfl

/-- A field that is there gets the value where it stands, and another one is appended. -/
def setField (record : List (String × String)) (p : String × String) : List (String × String) :=
  if p.1 ∈ record.map Prod.fst then record.map fun q => if q.1 = p.1 then p else q
  else record ++ [p]

theorem setField_eq_insertPair {p : String × String} (h : (record.map Prod.fst).Nodup) :
    setField record p = FieldValues.insertPair p.1 p.2 record := by
  rw [setField]
  split
  · rename_i hmem
    induction record with
    | nil => cases hmem
    | cons q record ih =>
      rw [List.map_cons, List.nodup_cons] at h
      rw [List.map_cons, FieldValues.insertPair]
      by_cases hq : q.1 = p.1
      · -- the fields behind it are others
        have rest : record.map (fun q => if q.1 = p.1 then p else q) = record := by
          refine (List.map_congr_left fun q' hq' => if_neg fun he => h.1 ?_).trans (List.map_id _)
          exact List.mem_map.mpr ⟨q', hq', he.trans hq.symm⟩
        rw [if_pos hq, if_pos hq, rest]
      · have hmem : p.1 ∈ record.map Prod.fst :=
          (List.mem_cons.mp hmem).resolve_left (Ne.symm hq)
        rw [if_neg hq, if_neg hq, ih h.2 hmem]
  · rename_i hnew
    exact (FieldValues.insertPair_of_notMem hnew).symm

/-- Fields that are set one by one settle. -/
theorem foldl_setField (h : record = settled pairs) :
    more.foldl setField record = settled (pairs ++ more) := by
  induction more generalizing record pairs with
  | nil => rw [List.append_nil, ← h, List.foldl_nil]
  | cons p more ih =>
    have first : setField record p = settled (pairs ++ [p]) := by
      rw [settled_concat, ← h, setField_eq_insertPair (by rw [h]; exact nodup_settled)]
    rw [List.foldl_cons, ih first, List.append_assoc, List.singleton_append]

/-! ## A server that keeps hashes -/

/-- What the commands for hashes do, and how they are answered. -/
structure KeepsHashes (answer : List String → σ → Except Fault Reply × σ) (hashes : σ → Records) :
    Prop where
  /-- Fields are set one after the other, in a record that is made if need be. -/
  hset : ∀ key pairs s, pairs ≠ [] →
    Confirmed (answer ("HSET" :: key :: flat pairs) s).1 ∧
      hashes (answer ("HSET" :: key :: flat pairs) s).2 =
        (hashes s).set key (some (pairs.foldl setField ((hashes s key).getD [])))
  /-- The record comes as a list of texts. Without one the list is empty. -/
  hgetall : ∀ key s,
    (∃ reply, (answer ["HGETALL", key] s).1 = .ok reply ∧ reply.isFailure = false ∧
      reply.toTexts = .ok (flat ((hashes s key).getD []))) ∧
      hashes (answer ["HGETALL", key] s).2 = hashes s
  /-- Fields are removed, and the record with the last of them. -/
  hdel : ∀ key names s, names ≠ [] →
    Confirmed (answer ("HDEL" :: key :: names) s).1 ∧
      hashes (answer ("HDEL" :: key :: names) s).2 = (hashes s).without key names
  del : ∀ key s,
    Confirmed (answer ["DEL", key] s).1 ∧
      hashes (answer ["DEL", key] s).2 = (hashes s).set key none

end SwitchLab.Redis

namespace SwitchLab

open Redis

variable {σ : Type} {answer : List String → σ → Except Fault Reply × σ} {hashes : σ → Records}
  {s : σ} {key : String} {m : Memory} {r : Records}

/-! ## The records of a memory -/

namespace Memory

/-- All records with their fields. -/
def content (m : Memory) : Records := fun key => (m.records.get? key).map FieldValues.pairs

theorem Shows.content_eq (hm : m.Shows r) : m.content = r := by
  funext key
  rw [content, hm.get? key]
  cases r key <;> rfl

end Memory

/-! ## Calls for hashes -/

/-- What is asked of the client of a database, by raw key. -/
inductive HashCall where
  | merge (key : String) (fields : FieldValues)
  | fetch (key : String)
  | dropFields (key : String) (names : List String)
  | dropKey (key : String)

namespace HashCall

variable {calls more : List HashCall}

/-- The call to a server. Only the call for a record gives one. -/
def send : HashCall → Session (Option FieldValues)
  | merge key fields => do
    Redis.merge key fields
    return none
  | fetch key => do return some (← Redis.fetch key)
  | dropFields key names => do
    Redis.dropFields key names
    return none
  | dropKey key => do
    Redis.dropKey key
    return none

/-- The call to a memory. -/
def apply : HashCall → Memory → Option FieldValues × Memory
  | merge key fields, m => (none, m.merge key fields)
  | fetch key, m => (some (m.fetch key), m)
  | dropFields key names, m => (none, m.dropFields key names)
  | dropKey key, m => (none, m.dropKey key)

/-- What each call to a server gives, with the hashes after it. -/
def served (answer : List String → σ → Except Fault Reply × σ) (hashes : σ → Records) :
    List HashCall → σ → List (Except Fault (Option FieldValues) × Records)
  | [], _ => []
  | call :: calls, s =>
    ((talk answer call.send s).1, hashes (talk answer call.send s).2) ::
      served answer hashes calls (talk answer call.send s).2

/-- What each call to a memory gives, with the records after it. -/
def kept : List HashCall → Memory → List (Except Fault (Option FieldValues) × Records)
  | [], _ => []
  | call :: calls, m =>
    (.ok (call.apply m).1, (call.apply m).2.content) :: kept calls (call.apply m).2

section Call

variable {fields : FieldValues} {names : List String}

variable (answer hashes s m) in
/-- The call gives the same with the server and with the memory, and the memory shows the hashes
after it. -/
def Agrees (call : HashCall) : Prop :=
  (talk answer call.send s).1 = .ok (call.apply m).1 ∧
    (call.apply m).2.Shows (hashes (talk answer call.send s).2)

theorem agrees_merge (hserver : KeepsHashes answer hashes) (hm : m.Shows (hashes s)) :
    Agrees answer hashes s m (merge key fields) := by
  obtain ⟨hdone, hafter⟩ :=
    hserver.hset key (StoreWrite.written fields) s StoreWrite.written_ne_nil
  have run : talk answer (Redis.merge key fields) s =
      (.ok (), (answer ("HSET" :: key :: flat (StoreWrite.written fields)) s).2) := by
    rw [Redis.merge, mergeArgs_eq_flat]
    exact talk_order hdone
  rw [foldl_setField (settled_of_nodup hm.clean.nodup).symm] at hafter
  rw [Agrees, send, talk_bind_ok run]
  refine ⟨rfl, ?_⟩
  show (m.merge key fields).Shows (hashes (answer _ s).2)
  rw [hafter]
  exact hm.merge

theorem agrees_fetch (hserver : KeepsHashes answer hashes) (hm : m.Shows (hashes s)) :
    Agrees answer hashes s m (fetch key) := by
  obtain ⟨⟨reply, hreply, hfine, htexts⟩, hafter⟩ := hserver.hgetall key s
  have decoded : FieldValues.ofPairs (pairUp (flat ((hashes s key).getD []))) = m.fetch key := by
    rw [pairUp_flat, FieldValues.ofPairs_of_nodup hm.clean.nodup, ← hm.pairs_fetch]
  have run : talk answer (Redis.fetch key) s =
      (.ok (m.fetch key), (answer ["HGETALL", key] s).2) := by
    rw [Redis.fetch, talk_bind_ok (talk_send hreply hfine), htexts, ← decoded]
    rfl
  rw [Agrees, send, talk_bind_ok run]
  refine ⟨rfl, ?_⟩
  show m.Shows (hashes (answer _ s).2)
  rw [hafter]
  exact hm

theorem agrees_dropFields (hserver : KeepsHashes answer hashes) (hm : m.Shows (hashes s)) :
    Agrees answer hashes s m (dropFields key names) := by
  cases names with
  | nil =>
    -- no command is sent, and a memory without the names is as it was
    have shown : (m.dropFields key []).Shows ((hashes s).without key []) := hm.dropFields
    rw [hm.clean.without_nil] at shown
    exact ⟨rfl, shown⟩
  | cons name names =>
    obtain ⟨hdone, hafter⟩ := hserver.hdel key (name :: names) s (List.cons_ne_nil _ _)
    have run : talk answer (Redis.dropFields key (name :: names)) s =
        (.ok (), (answer ("HDEL" :: key :: name :: names) s).2) := talk_order hdone
    rw [Agrees, send, talk_bind_ok run]
    refine ⟨rfl, ?_⟩
    show (m.dropFields key (name :: names)).Shows (hashes (answer _ s).2)
    rw [hafter]
    exact hm.dropFields

theorem agrees_dropKey (hserver : KeepsHashes answer hashes) (hm : m.Shows (hashes s)) :
    Agrees answer hashes s m (dropKey key) := by
  obtain ⟨hdone, hafter⟩ := hserver.del key s
  have run : talk answer (Redis.dropKey key) s = (.ok (), (answer ["DEL", key] s).2) :=
    talk_order hdone
  rw [Agrees, send, talk_bind_ok run]
  refine ⟨rfl, ?_⟩
  show (m.dropKey key).Shows (hashes (answer _ s).2)
  rw [hafter]
  exact hm.dropKey

theorem agrees (hserver : KeepsHashes answer hashes) (hm : m.Shows (hashes s)) :
    ∀ call, Agrees answer hashes s m call
  | merge _ _ => agrees_merge hserver hm
  | fetch _ => agrees_fetch hserver hm
  | dropFields _ _ => agrees_dropFields hserver hm
  | dropKey _ => agrees_dropKey hserver hm

end Call

theorem served_eq_kept_of_shows (hserver : KeepsHashes answer hashes) (hm : m.Shows (hashes s)) :
    served answer hashes calls s = kept calls m := by
  induction calls generalizing s m with
  | nil => rfl
  | cons call calls ih =>
    obtain ⟨hgiven, hm'⟩ := agrees hserver hm call
    rw [served, kept, hgiven, hm'.content_eq, ih hm']

/-! ### A record that is written and read -/

theorem kept_append : kept (calls ++ more) m =
    kept calls m ++ kept more (calls.foldl (fun m call => (call.apply m).2) m) := by
  induction calls generalizing m with
  | nil => rfl
  | cons call calls ih => rw [List.cons_append, kept, kept, ih, List.cons_append, List.foldl_cons]

theorem shows_foldl (hm : m.Shows r) (calls : List HashCall) :
    ∃ r', (calls.foldl (fun m call => (call.apply m).2) m).Shows r' := by
  induction calls generalizing m r with
  | nil => exact ⟨r, hm⟩
  | cons call calls ih =>
    rw [List.foldl_cons]
    cases call with
    | merge key fields => exact ih hm.merge
    | fetch key => exact ih hm
    | dropFields key names => exact ih hm.dropFields
    | dropKey key => exact ih hm.dropKey

/-- A record that is written where none was is read as it was written. -/
theorem kept_rewritten (hm : m.Shows r) {fields : FieldValues}
    (hfields : (fields.pairs.map Prod.fst).Nodup) :
    ((kept [.dropKey key, .merge key fields, .fetch key] m).map Prod.fst).getLast? =
      some (.ok (some ⟨StoreWrite.written fields⟩)) := by
  have hn : ((StoreWrite.written fields).map Prod.fst).Nodup := by
    rw [StoreWrite.written]
    split
    · simp
    · exact hfields
  have dropped : (m.dropKey key).Shows (r.set key none) := hm.dropKey
  have read : (((m.dropKey key).merge key fields).fetch key).pairs = StoreWrite.written fields := by
    rw [dropped.merge.pairs_fetch, Records.set, if_pos rfl, Records.set, if_pos rfl]
    exact settled_of_nodup hn
  have fetched : ((m.dropKey key).merge key fields).fetch key = ⟨StoreWrite.written fields⟩ :=
    congrArg FieldValues.mk read
  show some (Except.ok (some (((m.dropKey key).merge key fields).fetch key))) = _
  rw [fetched]

/-- A server that has no hashes at first gives what an empty memory gives, call by call, and has
the records of the memory after every call. What is written to a record that was not there, each
field once, is read just so. -/
theorem served_eq_kept (hserver : KeepsHashes answer hashes) (hs : hashes s = .empty)
    (calls : List HashCall) :
    served answer hashes calls s = kept calls .empty ∧
      ∀ (key : String) (fields : FieldValues), (fields.pairs.map Prod.fst).Nodup →
        ((served answer hashes (calls ++ [.dropKey key, .merge key fields, .fetch key]) s).map
          Prod.fst).getLast? = some (.ok (some ⟨StoreWrite.written fields⟩)) := by
  have hm : Memory.empty.Shows (hashes s) := by
    rw [hs]
    exact Memory.Shows.empty
  refine ⟨served_eq_kept_of_shows hserver hm, fun key fields hfields => ?_⟩
  obtain ⟨r, hr⟩ := shows_foldl hm calls
  rw [served_eq_kept_of_shows hserver hm, kept_append, List.map_append, List.getLast?_append,
    kept_rewritten hr hfields, Option.some_or]

end HashCall

end SwitchLab

/-! ## A server in a few lines -/

namespace SwitchLab.HashTable

open Redis

def bulk (text : String) : Reply := .bulk text.toByteArray.data.toList

theorem toText_bulk {text : String} : (bulk text).toText = .ok text := by
  have back : textOf? text.toByteArray.data.toList = some text := by
    rw [textOf?, String.fromUTF8?, dif_pos text.isValidUTF8]
    rfl
  simp only [bulk, Reply.toText, Reply.bare, back]

def wrongArguments (command : String) : Reply :=
  .failure ("ERR wrong number of arguments for '" ++ command ++ "' command")

/-- Commands that change something are answered by the number of fields or keys that are new or
gone. -/
def answer : List String → Records → Except Fault Reply × Records
  | "HSET" :: key :: args, r =>
    let record := (pairUp args).foldl setField ((r key).getD [])
    if args = [] ∨ args.length % 2 = 1 then (.ok (wrongArguments "hset"), r)
    else (.ok (.integer (record.length - ((r key).getD []).length)), r.set key (some record))
  | ["HGETALL", key], r => (.ok (.array ((flat ((r key).getD [])).map bulk)), r)
  | "HDEL" :: key :: name :: names, r =>
    (.ok (.integer (((r key).getD []).countP fun p => p.1 ∈ name :: names)),
      r.without key (name :: names))
  | ["DEL", key], r => (.ok (.integer (if (r key).isSome then 1 else 0)), r.set key none)
  | command, r => (.ok (.failure ("ERR unknown command '" ++ command.headD "" ++ "'")), r)

theorem keepsHashes : KeepsHashes answer id where
  hset key pairs r hpairs := by
    have even : (flat pairs).length % 2 = 0 := by
      have twice : (flat pairs).length = 2 * pairs.length := by simp [flat, Nat.mul_comm]
      omega
    have some_args : flat pairs ≠ [] := by
      intro hnil
      have back : pairUp (flat pairs) = pairs := pairUp_flat
      rw [hnil] at back
      exact hpairs back.symm
    have run : answer ("HSET" :: key :: flat pairs) r =
        (.ok (.integer
            ((pairs.foldl setField ((r key).getD [])).length - ((r key).getD []).length)),
          r.set key (some (pairs.foldl setField ((r key).getD [])))) := by
      simp only [answer, pairUp_flat]
      rw [if_neg (by simp [some_args, even])]
    rw [run]
    exact ⟨⟨_, rfl, rfl⟩, rfl⟩
  hgetall key r := by
    refine ⟨⟨_, rfl, ?_, ?_⟩, rfl⟩
    · rw [Reply.isFailure]
      induction flat ((r key).getD []) with
      | nil => rfl
      | cons text texts ih => exact ih
    · rw [Reply.toTexts]
      rw [id]
      induction flat ((r key).getD []) with
      | nil => rfl
      | cons text texts ih =>
        rw [List.map_cons, List.mapM_cons, toText_bulk, ih]
        rfl
  hdel key names r hnames := by
    cases names with
    | nil => exact absurd rfl hnames
    | cons name names => exact ⟨⟨_, rfl, rfl⟩, rfl⟩
  del key r := ⟨⟨_, rfl, rfl⟩, rfl⟩

/-- A record without fields, fields set again and in another order, no fields to remove, the last
field removed, and a key that is a pattern. -/
def calls : List HashCall :=
  [.merge "VLAN|Vlan10" (.ofPairs []), .merge "VLAN|Vlan10" (.ofPairs [("mtu", "9100"), ("é", "")]),
    .merge "VLAN|Vlan10" (.ofPairs [("é", "1"), ("NULL", "0")]), .dropFields "VLAN|Vlan10" [],
    .fetch "VLAN|Vlan10", .merge "VLAN|*" (.ofPairs [("mtu", "1500")]),
    .dropFields "VLAN|*" ["mtu", "mtu", "none"], .dropFields "PORT|Ethernet0" ["mtu"],
    .fetch "VLAN|*", .dropKey "VLAN|Vlan10", .dropKey "VLAN|Vlan10"]

theorem hash_table_agrees : KeepsHashes answer id ∧ id Records.empty = .empty ∧
    HashCall.served answer id calls .empty = HashCall.kept calls .empty ∧
      ∀ (key : String) (fields : FieldValues), (fields.pairs.map Prod.fst).Nodup →
        ((HashCall.served answer id (calls ++ [.dropKey key, .merge key fields, .fetch key])
          .empty).map Prod.fst).getLast? = some (.ok (some ⟨StoreWrite.written fields⟩)) :=
  ⟨keepsHashes, rfl, HashCall.served_eq_kept keepsHashes rfl calls⟩

/-- The two records that were read. -/
example : (HashCall.kept calls .empty).filterMap (fun given => given.1.toOption.bind id) =
    [⟨[("NULL", "0"), ("mtu", "9100"), ("é", "1")]⟩, ⟨[]⟩] := by decide +kernel

end SwitchLab.HashTable
