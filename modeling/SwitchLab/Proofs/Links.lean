import SwitchLab.Proofs.Commands
import SwitchLab.Proofs.Requests

/-! Where the ends of veth pairs are. The commands of a run that succeed are gone
through in their order: they make pairs, move and rename ends, and remove pairs.
One end takes the other with it, and a namespace all ends that are in it. -/

namespace SwitchLab

variable {held : String → List String} {t u : Trace Host}

/-! ## Pairs -/

/-- One end of a pair. Its namespace is told as commands tell it, by a name or by a process; there
is nothing to tell for the host. -/
structure LinkEnd where
  place : Option String
  name : String
  deriving DecidableEq, Repr

/-- What is `old` becomes `new`. -/
def LinkEnd.put (e old new : LinkEnd) : LinkEnd := if e = old then new else e

theorem LinkEnd.place_put {e old new : LinkEnd} {place : Option String} (h : e.place = place)
    (hmove : old.place = place → new.place = place) : (e.put old new).place = place := by
  rw [put]
  split
  case isTrue he => exact hmove (he ▸ h)
  case isFalse => exact h

structure VethPair where
  first : LinkEnd
  second : LinkEnd
  deriving DecidableEq, Repr

namespace VethPair

def hasEnd (p : VethPair) (e : LinkEnd) : Bool := p.first = e || p.second = e

def isIn (p : VethPair) (place : Option String) : Bool :=
  p.first.place = place || p.second.place = place

def put (p : VethPair) (old new : LinkEnd) : VethPair := ⟨p.first.put old new, p.second.put old new⟩

theorem isIn_iff {p : VethPair} {place : Option String} :
    p.isIn place = true ↔ p.first.place = place ∨ p.second.place = place := by
  simp [isIn]

/-- A pair stays in a namespace if no end is moved out of there. -/
theorem isIn_put {p : VethPair} {old new : LinkEnd} {place : Option String}
    (h : p.isIn place = true) (hmove : old.place = place → new.place = place) :
    (p.put old new).isIn place = true := by
  rw [isIn_iff] at h ⊢
  rcases h with h | h
  · exact .inl (LinkEnd.place_put h hmove)
  · exact .inr (LinkEnd.place_put h hmove)

end VethPair

/-! ## What commands do -/

/-- What a command does to pairs. -/
inductive LinkChange where
  | add (p : VethPair)
  /-- An end is moved or renamed. -/
  | put (old new : LinkEnd)
  | delete (e : LinkEnd)
  /-- Namespaces are removed. -/
  | clear (places : List String)

namespace LinkChange

/-- The pairs that are removed. -/
def takes : LinkChange → VethPair → Bool
  | delete e, p => p.hasEnd e
  | clear places, p => places.any fun place => p.isIn (some place)
  | add _, _ | put _ _, _ => false

def isRemoval : LinkChange → Bool
  | delete _ | clear _ => true
  | add _ | put _ _ => false

def apply (change : LinkChange) (pairs : List VethPair) : List VethPair :=
  match change with
  | add p => pairs ++ [p]
  | put old new => pairs.map (·.put old new)
  | delete _ | clear _ => pairs.filter fun p => !change.takes p

/-- The commands of `ip` that change links. `dev` is not a link, but a word before its name. -/
def ofIp (place : Option String) : List String → Option LinkChange
  | ["link", "add", a, "type", "veth", "peer", "name", b] => some (.add ⟨⟨place, a⟩, ⟨place, b⟩⟩)
  | ["link", "set", a, "netns", dest] =>
    if a = "dev" then none else some (.put ⟨place, a⟩ ⟨some dest, a⟩)
  | ["link", "set", "dev", a, "name", b] => some (.put ⟨place, a⟩ ⟨place, b⟩)
  | ["link", "del", a] => some (.delete ⟨place, a⟩)
  | ["netns", "del", name] => some (.clear [name])
  | _ => none

theorem apply_eq_filter {change : LinkChange} {pairs : List VethPair}
    (h : change.isRemoval = true) : change.apply pairs = pairs.filter fun p => !change.takes p := by
  cases change with
  | add p | put old new => cases h
  | delete e | clear places => rfl

end LinkChange

namespace Command

/-- What a command does to pairs. A container takes the namespaces with it that are `held` by it. -/
def linkChange? (held : String → List String) (c : Command) : Option LinkChange :=
  match c.located with
  | (place, ⟨"ip", args⟩) => LinkChange.ofIp place args
  | (none, ⟨"docker", ["rm", "-f", container]⟩) => some (.clear (held container))
  | _ => none

end Command

namespace Query

def linkChange? (held : String → List String) : Query → Option LinkChange
  | run c => c.linkChange? held
  | _ => none

/-- What is asked makes no pair and leaves all ends where they are, if it does not remove them. -/
def onlyRemoves (held : String → List String) (q : Query) : Bool :=
  (q.linkChange? held).all (·.isRemoval)

end Query

/-- What only uses what is there does nothing to pairs. -/
theorem Query.linkChange?_of_meddles {c : Command} (h : (Query.run c).meddles = false) :
    (Query.run c).linkChange? held = none := by
  obtain ⟨hswitches, harranges⟩ := Query.meddles_eq_false_iff.mp h
  simp only [handlesSwitches, arranges, command?, Option.any_some] at hswitches harranges
  show c.linkChange? held = none
  rw [Command.linkChange?]
  generalize c.located = at? at hswitches harranges
  split
  case h_1 place args =>
    dsimp only at harranges
    rw [LinkChange.ofIp.eq_def]
    split
    case h_2 a dest =>
      split
      case isTrue => rfl
      case isFalse ha => simp [Command.arranges, ha] at harranges
    case h_6 => rfl
    all_goals cases harranges
  case h_2 => cases hswitches
  case h_3 => rfl

namespace Exchange

/-- A command was run, and ended with success. -/
def succeeded : Exchange Host → Bool
  | ⟨.run _, .ok output⟩ => output.success
  | _ => false

/-- A command that removes the pair, if it succeeds. -/
def takes (held : String → List String) (x : Exchange Host) (p : VethPair) : Bool :=
  (x.request.linkChange? held).any (·.takes p)

/-- The pairs after an exchange. A command that fails does nothing. -/
def pairsAfter (held : String → List String) (pairs : List VethPair) (x : Exchange Host) :
    List VethPair :=
  if x.succeeded then (x.request.linkChange? held).elim pairs (·.apply pairs) else pairs

end Exchange

/-- The pairs after all exchanges of a trace. -/
def pairsAfter (held : String → List String) (pairs : List VethPair) (t : Trace Host) :
    List VethPair :=
  t.foldl (Exchange.pairsAfter held) pairs

@[simp] theorem pairsAfter_singleton {pairs : List VethPair} {x : Exchange Host} :
    pairsAfter held pairs [x] = x.pairsAfter held pairs := rfl

@[simp] theorem pairsAfter_append {pairs : List VethPair} :
    pairsAfter held pairs (t ++ u) = pairsAfter held (pairsAfter held pairs t) u :=
  List.foldl_append

theorem Exchange.pairsAfter_of_failed {pairs : List VethPair} {x : Exchange Host}
    (h : x.succeeded = false) : x.pairsAfter held pairs = pairs := by
  rw [Exchange.pairsAfter, h]
  rfl

theorem Command.succeeded_ran {c : Command} {reply : Except Fault Output} (line : String) :
    (c.ran reply).succeeded = (checked line reply).isOk := by
  cases reply with
  | error fault => rfl
  | ok output =>
    simp only [ran, Exchange.succeeded, checked, Except.bind, Output.orFault]
    cases output.success <;> rfl

/-! ## Commands of links -/

namespace NetScope

variable {s : NetScope} {a b : String} {l l' : Ledger}

theorem linkChange?_enter {args : List String} :
    (Query.run (s.enter ⟨"ip", "link" :: args⟩)).linkChange? held =
      LinkChange.ofIp s.target? ("link" :: args) := by
  cases s with
  | host => rfl
  | named name => rfl
  | ofPid pid => rfl

theorem ofIp_rename {place : Option String} {a b : String} :
    LinkChange.ofIp place ["link", "set", "dev", a, "name", b] =
      some (.put ⟨place, a⟩ ⟨place, b⟩) := by
  simp [LinkChange.ofIp]

theorem ofIp_setMaster {place : Option String} {a b : String} :
    LinkChange.ofIp place ["link", "set", "dev", a, "master", b] = none := by
  simp [LinkChange.ofIp]

/-- One command is run, and the work succeeds if the command does. -/
theorem runs_run_cases {args : List String} {r : Except Fault Unit}
    (hr : Attempt.Runs (s.run args) l t r l') :
    ∃ x, t = [x] ∧ x.request = .run (s.enter ⟨"ip", args⟩) ∧
      (r = .ok () ∧ x.succeeded = true ∨ (∃ fault, r = .error fault) ∧ x.succeeded = false) := by
  obtain ⟨reply, rfl, -, hresult⟩ := (calls_run _ _ _ _).mp hr
  refine ⟨_, rfl, rfl, ?_⟩
  rw [Command.succeeded_ran (s.shownLine ⟨"ip", args⟩)]
  dsimp only at hresult
  cases hc : checked (s.shownLine ⟨"ip", args⟩) reply with
  | ok output =>
    rw [hc] at hresult
    exact .inl ⟨hresult, rfl⟩
  | error fault =>
    rw [hc] at hresult
    exact .inr ⟨⟨fault, hresult⟩, rfl⟩

theorem pairsAfter_of_succeeded {args : List String} {pairs : List VethPair} {x : Exchange Host}
    (hx : x.request = .run (s.enter ⟨"ip", "link" :: args⟩)) (hs : x.succeeded = true) :
    pairsAfter held pairs [x] =
      (LinkChange.ofIp s.target? ("link" :: args)).elim pairs (·.apply pairs) := by
  rw [pairsAfter_singleton, Exchange.pairsAfter, if_pos hs, hx, linkChange?_enter]

variable (held) in
/-- An end on the host is moved, or the command fails. -/
theorem runs_moveLink_cases {dest : NetScope} {r : Except Fault Unit} (ha : a ≠ "dev")
    (hdest : dest.target? = some b) (hr : Attempt.Runs (host.moveLink a dest) l t r l') :
    ∃ x, t = [x] ∧ x.request = .run ⟨"ip", ["link", "set", a, "netns", b]⟩ ∧
      ((r = .ok () ∧ ∀ pairs, pairsAfter held pairs t =
        pairs.map (·.put ⟨none, a⟩ ⟨some b, a⟩)) ∨
      ((∃ fault, r = .error fault) ∧ x.succeeded = false)) := by
  rw [moveLink, hdest] at hr
  obtain ⟨x, rfl, hx, ⟨hok, hs⟩ | hfailed⟩ := runs_run_cases hr
  · refine ⟨x, rfl, hx, .inl ⟨hok, fun pairs => ?_⟩⟩
    rw [pairsAfter_of_succeeded hx hs, LinkChange.ofIp, Option.getD_some, if_neg ha]
    rfl
  · exact ⟨x, rfl, hx, .inr hfailed⟩

end NetScope

/-! ## What removals take -/

namespace Exchange

variable {x : Exchange Host} {p : VethPair}

theorem takes_of_deleteLink {s : NetScope} {link : String}
    (hx : x.request = .run (s.enter ⟨"ip", ["link", "del", link]⟩)) :
    x.takes held p = p.hasEnd ⟨s.target?, link⟩ := by
  rw [takes, hx, NetScope.linkChange?_enter]
  rfl

theorem takes_of_netns {name : String} (hx : x.request = .run ⟨"ip", ["netns", "del", name]⟩) :
    x.takes held p = p.isIn (some name) := by
  have htakes : x.takes held p = [name].any fun place => p.isIn (some place) := by
    rw [takes, hx]
    rfl
  rw [htakes, List.any_cons, List.any_nil, Bool.or_false]

theorem takes_of_container {container : String}
    (hx : x.request = .run ⟨"docker", ["rm", "-f", container]⟩) :
    x.takes held p = (held container).any fun place => p.isIn (some place) := by
  rw [takes, hx]
  rfl

end Exchange

theorem allowsMaking_onlyRemoves : AllowsMaking fun q => q.onlyRemoves held = true := by
  have docker (args : List String) :
      (Query.run ⟨"docker", args⟩).onlyRemoves held = true := by
    simp only [Query.onlyRemoves, Query.linkChange?, Command.linkChange?, Command.located]
    split
    case h_1 h => simp at h
    case h_2 => rfl
    case h_3 => rfl
  exact ⟨⟨fun _ _ _ => docker _, rfl, fun _ => rfl, fun _ => rfl, fun _ _ => rfl⟩,
    fun _ _ => docker _⟩

/-! ## Removals -/

/-- No pair is made, and no end is moved or renamed. -/
def OnlyRemoves (held : String → List String) (t : Trace Host) : Prop :=
  ∀ x ∈ t, x.request.onlyRemoves held = true

/-- Some command of the trace removed the pair. -/
def takenIn (held : String → List String) (t : Trace Host) (p : VethPair) : Bool :=
  t.any fun x => x.succeeded && x.takes held p

theorem Exchange.pairsAfter_eq_filter {x : Exchange Host} {pairs : List VethPair}
    (h : x.request.onlyRemoves held = true) :
    x.pairsAfter held pairs = pairs.filter fun p => !(x.succeeded && x.takes held p) := by
  rw [Exchange.pairsAfter]
  cases x.succeeded with
  | false => exact (List.filter_eq_self.mpr fun _ _ => rfl).symm
  | true =>
    simp only [Exchange.takes, Bool.true_and, if_true]
    cases hchange : x.request.linkChange? held with
    | none => exact (List.filter_eq_self.mpr fun _ _ => rfl).symm
    | some change =>
      rw [Query.onlyRemoves, hchange] at h
      exact LinkChange.apply_eq_filter h

theorem OnlyRemoves.pairsAfter_eq {pairs : List VethPair} (h : OnlyRemoves held t) :
    pairsAfter held pairs t = pairs.filter fun p => !takenIn held t p := by
  induction t generalizing pairs with
  | nil => exact (List.filter_eq_self.mpr fun _ _ => rfl).symm
  | cons x t ih =>
    obtain ⟨hx, ht⟩ := List.forall_mem_cons.mp h
    rw [pairsAfter, List.foldl_cons, ← pairsAfter, ih ht, Exchange.pairsAfter_eq_filter hx,
      List.filter_filter]
    simp [takenIn, Bool.and_comm]

theorem OnlyRemoves.pairsAfter_nil (h : OnlyRemoves held t) : pairsAfter held [] t = [] :=
  h.pairsAfter_eq

/-- All commands that work on a pair that is there succeed. -/
def Obeyed (held : String → List String) : List VethPair → Trace Host → Prop
  | _, [] => True
  | pairs, x :: t => ((∃ p ∈ pairs, x.takes held p = true) → x.succeeded = true) ∧
      Obeyed held (x.pairsAfter held pairs) t

instance decidableObeyed : (pairs : List VethPair) → (t : Trace Host) →
    Decidable (Obeyed held pairs t)
  | _, [] => isTrue trivial
  | pairs, x :: t =>
    have := decidableObeyed (x.pairsAfter held pairs) t
    inferInstanceAs (Decidable (_ ∧ _))

theorem Obeyed.takenIn {pairs : List VethPair} {p : VethPair} {x : Exchange Host}
    (h : Obeyed held pairs t) (ht : OnlyRemoves held t) (hp : p ∈ pairs) (hx : x ∈ t)
    (htakes : x.takes held p = true) : takenIn held t p = true := by
  induction t generalizing pairs with
  | nil => cases hx
  | cons y t ih =>
    obtain ⟨hy, h⟩ := h
    obtain ⟨hremoves, ht⟩ := List.forall_mem_cons.mp ht
    rw [SwitchLab.takenIn, List.any_cons, Bool.or_eq_true, ← SwitchLab.takenIn]
    by_cases htaken : (y.succeeded && y.takes held p) = true
    · exact .inl htaken
    -- the pair is still there after the first command
    have hp' : p ∈ y.pairsAfter held pairs := by
      rw [Exchange.pairsAfter_eq_filter hremoves]
      exact List.mem_filter.mpr ⟨hp, by rw [Bool.eq_false_iff.mpr htaken]; rfl⟩
    rcases List.mem_cons.mp hx with rfl | hx
    · exact absurd (by simp [hy ⟨p, hp, htakes⟩, htakes]) htaken
    · exact .inr (ih h ht hp' hx)

/-! ## Namespaces that are not left -/

/-- Every pair has an end in the namespace. -/
def Anchored (place : Option String) (pairs : List VethPair) : Prop :=
  ∀ p ∈ pairs, p.isIn place = true

/-- No pair is made, and no end is moved out of the namespace. -/
def Query.StaysIn (held : String → List String) (place : Option String) (q : Query) : Prop :=
  ∀ change ∈ q.linkChange? held, match change with
    | .add _ => False
    | .put old new => old.place = place → new.place = place
    | .delete _ | .clear _ => True

theorem Query.staysIn_of_onlyRemoves {place : Option String} {q : Query}
    (h : q.onlyRemoves held = true) : q.StaysIn held place := by
  intro change hchange
  have hremoval : change.isRemoval = true := by
    rw [Query.onlyRemoves, Option.mem_def.mp hchange] at h
    exact h
  cases change with
  | add p | put old new => cases hremoval
  | delete e | clear places => trivial

theorem Query.allowsRuns_staysIn {place : Option String} : AllowsRuns (StaysIn held place) := by
  intro c hc change hchange
  rw [Query.linkChange?_of_meddles hc] at hchange
  cases hchange

theorem NetScope.staysIn_rename {s : NetScope} {a b : String} {place : Option String} :
    Query.StaysIn held place (.run (s.enter ⟨"ip", ["link", "set", "dev", a, "name", b]⟩)) := by
  intro change hchange
  rw [linkChange?_enter, ofIp_rename] at hchange
  cases hchange
  exact id

namespace Anchored

variable {place : Option String} {pairs : List VethPair}

theorem nil : Anchored place [] := List.forall_mem_nil _

theorem map_put {old new : LinkEnd} (h : Anchored place pairs)
    (hmove : old.place = place → new.place = place) : Anchored place (pairs.map (·.put old new)) :=
  List.forall_mem_map.mpr fun p hp => VethPair.isIn_put (h p hp) hmove

/-- No end that is on the host is in a namespace of a name. -/
theorem map_put_host {name a : String} {new : LinkEnd} (h : Anchored (some name) pairs) :
    Anchored (some name) (pairs.map (·.put ⟨none, a⟩ new)) := by
  refine h.map_put fun hplace => ?_
  cases hplace

theorem exchange {x : Exchange Host} (h : Anchored place pairs)
    (hx : x.request.StaysIn held place) : Anchored place (x.pairsAfter held pairs) := by
  rw [Exchange.pairsAfter]
  split
  case isFalse => exact h
  case isTrue =>
    cases hchange : x.request.linkChange? held with
    | none => exact h
    | some change =>
      have hstays := hx change hchange
      cases change with
      | add p => exact hstays.elim
      | put old new => exact h.map_put hstays
      | delete e | clear places => exact fun p hp => h p (List.mem_filter.mp hp).1

theorem after (h : Anchored place pairs) (ht : ∀ x ∈ t, x.request.StaysIn held place) :
    Anchored place (pairsAfter held pairs t) := by
  induction t generalizing pairs with
  | nil => exact h
  | cons x t ih =>
    obtain ⟨hx, ht⟩ := List.forall_mem_cons.mp ht
    exact ih (h.exchange hx) ht

theorem onlyRemoves (h : Anchored place pairs) (ht : OnlyRemoves held t) :
    Anchored place (pairsAfter held pairs t) :=
  h.after fun x hx => Query.staysIn_of_onlyRemoves (ht x hx)

end Anchored

end SwitchLab
