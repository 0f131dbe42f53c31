import SwitchLab.Proofs.Attaching
import SwitchLab.Proofs.Wiring

/-! A server that could not be wired. Its namespace was made for it and is
deleted again, and so is the end of its pair that the host may still have.
Wherever the wiring stopped, one of these two is what has the pair. -/

namespace SwitchLab

variable {α β : Type} {held : String → List String} {l l' : Ledger} {t u v : Trace Host}
  {fault : Fault}

/-! ## The command that failed -/

/-- The last command of the trace is the one that failed, with this fault. -/
def FailedLast (t : Trace Host) (fault : Fault) : Prop :=
  ∃ u c reply line, t = u ++ [Command.ran c reply] ∧ checked line reply = .error fault

theorem FailedLast.before (h : FailedLast t fault) : FailedLast (u ++ t) fault := by
  obtain ⟨v, c, reply, line, rfl, hreply⟩ := h
  exact ⟨u ++ v, c, reply, line, by rw [List.append_assoc], hreply⟩

/-- The work stops at the first command that it does not forgive, and fails as that did. -/
def Attempt.StopsAtFailure (work : Attempt α) : Prop :=
  ∀ l t fault l', Runs work l t (.error fault) l' → FailedLast t fault

namespace Attempt.StopsAtFailure

variable {work : Attempt α} {f : α → Attempt β}

theorem pure {a : α} : StopsAtFailure (pure a) := by
  intro l t fault l' hr
  cases (runs_pure_iff.mp hr).2.1

theorem bind (hw : work.StopsAtFailure) (hf : ∀ a, (f a).StopsAtFailure) :
    StopsAtFailure (work >>= f) := by
  intro l t fault l' hr
  rcases runs_bind_iff.mp hr with ⟨u, v, a, l₁, rfl, -, hr⟩ | ⟨_, hx, hr⟩
  · exact (hf a _ _ _ _ hr).before
  · cases hx
    exact hw _ _ _ _ hr

/-- Work whose result is handed on does not fail. -/
theorem result : work.result.StopsAtFailure := by
  intro l t fault l' hr
  obtain ⟨_, hx, -⟩ := runs_result_iff.mp hr
  cases hx

theorem of_calls {c : Command} {judge : Except Fault Output → Except Fault α} (line : String)
    (hw : work.Calls c judge)
    (hjudge : ∀ reply fault, judge reply = .error fault → checked line reply = .error fault) :
    work.StopsAtFailure := by
  intro l t fault l' hr
  obtain ⟨reply, rfl, -, hx⟩ := (hw _ _ _ _).mp hr
  exact ⟨[], c, reply, line, rfl, hjudge _ _ hx.symm⟩

end Attempt.StopsAtFailure

namespace NetScope

variable {s : NetScope} {args : List String} {link : String}

theorem stopsAtFailure_run : (s.run args).StopsAtFailure := by
  refine .of_calls (s.shownLine ⟨"ip", args⟩) calls_run fun reply fault h => ?_
  cases hc : checked (s.shownLine ⟨"ip", args⟩) reply with
  | ok output => simp [hc, Except.map] at h
  | error e => simpa [hc, Except.map] using h

theorem stopsAtFailure_deleteLink : (s.deleteLink link).StopsAtFailure := by
  refine .of_calls (s.shownLine ⟨"ip", ["link", "del", link]⟩) calls_deleteLink
    fun reply fault h => ?_
  cases hc : checked (s.shownLine ⟨"ip", ["link", "del", link]⟩) reply with
  | ok output => simp [hc, forgiven] at h
  | error e =>
    simp only [hc, forgiven] at h
    split at h
    · cases h
    · exact congrArg Except.error (Except.error.inj h)

end NetScope

/-! ## The namespace of a server -/

namespace Namespace

/-- A namespace that could not be made was not added. -/
theorem not_added_of_failed {name : String}
    (hr : Attempt.Runs (create name) l t (.error fault) l') :
    ∀ x ∈ t, ¬ Command.Done ⟨"ip", ["netns", "add", name]⟩ x := by
  have deleting {reply : Except Fault Output} : ¬ Command.Done ⟨"ip", ["netns", "add", name]⟩
      (Command.ran ⟨"ip", ["netns", "del", name]⟩ reply) := by
    rintro ⟨output, hx, -⟩
    simp [Command.ran_inj] at hx
  rcases Attempt.runs_bind_iff.mp hr with ⟨_, u, _, _, rfl, hdelete, hadd⟩ | ⟨_, -, hdelete⟩
  · obtain ⟨_, rfl, -, -⟩ := (calls_delete _ _ _ _).mp hdelete
    refine List.forall_mem_append.mpr ⟨List.forall_mem_singleton.mpr deleting, ?_⟩
    rcases Attempt.runs_bind_iff.mp hadd with ⟨_, _, _, _, rfl, -, hup⟩ | ⟨_, -, hadd⟩
    · obtain ⟨_, _, _, _, rfl, -, hdone⟩ := Attempt.runs_bind_result_iff.mp hup
      cases (Attempt.runs_pure_iff.mp hdone).2.1
    · obtain ⟨reply, rfl, -, hreply⟩ := (SwitchLab.calls_check _ _ _ _).mp hadd
      refine List.forall_mem_singleton.mpr ?_
      rintro ⟨output, hx, hsuccess⟩
      rw [checked_eq_ok_iff.mpr ⟨(Command.ran_inj.mp hx).2, hsuccess⟩] at hreply
      cases hreply
  · obtain ⟨_, rfl, -, -⟩ := (calls_delete _ _ _ _).mp hdelete
    exact List.forall_mem_singleton.mpr deleting

end Namespace

namespace VirtualServer

variable {dir container : String} {pid index : Nat} {s : VirtualServer}

/-! ## Wiring and its end -/

theorem stopsAtFailure_wire : (s.wire pid).StopsAtFailure := by
  refine NetScope.stopsAtFailure_deleteLink.bind fun _ => ?_
  refine NetScope.stopsAtFailure_deleteLink.bind fun _ => ?_
  refine NetScope.stopsAtFailure_run.bind fun _ => NetScope.stopsAtFailure_run.bind fun _ => ?_
  refine NetScope.stopsAtFailure_run.bind fun _ => NetScope.stopsAtFailure_run.bind fun _ => ?_
  refine NetScope.stopsAtFailure_run.bind fun _ => Attempt.StopsAtFailure.result.bind fun _ => ?_
  refine NetScope.stopsAtFailure_run.bind fun _ => NetScope.stopsAtFailure_run.bind fun _ => ?_
  have offload {scope : NetScope} {link : String} : (disableOffload scope link).StopsAtFailure :=
    Attempt.StopsAtFailure.result.bind fun _ => .pure
  exact offload.bind fun _ => offload

/-- The command that removes the server's end, if it is on the host. -/
def recallCommand (s : VirtualServer) (pid : Nat) : Command :=
  ⟨"ip", ["link", "del", (s.transientEnds pid).1]⟩

/-- Both removals are tried, whatever is answered. -/
theorem runs_unwire_iff {a : Unit} : Lab.Runs (s.unwire pid) l t a l' ↔
    ∃ recalled deleted, t = [(s.recallCommand pid).ran recalled, s.ns.deleteCommand.ran deleted] ∧
      l' = l := by
  constructor
  · intro hr
    obtain ⟨_, _, _, _, rfl, hrecall, hr⟩ := Lab.runs_bind_iff.mp hr
    obtain ⟨_, _, _, _, rfl, hdelete, hr⟩ := Lab.runs_bind_iff.mp hr
    obtain ⟨rfl, -, rfl⟩ := Lab.runs_pure_iff.mp hr
    obtain ⟨recalled, rfl, rfl, -⟩ := (NetScope.calls_deleteLink _ _ _ _).mp hrecall
    obtain ⟨deleted, rfl, rfl, -⟩ := (Namespace.calls_delete _ _ _ _).mp hdelete
    exact ⟨recalled, deleted, rfl, rfl⟩
  · rintro ⟨recalled, deleted, rfl, rfl⟩
    refine Lab.runs_bind_iff.mpr ⟨[_], [_], _, _, rfl,
      (NetScope.calls_deleteLink _ _ _ _).mpr ⟨recalled, rfl, rfl, rfl⟩, ?_⟩
    refine Lab.runs_bind_iff.mpr ⟨[_], [], _, _, rfl,
      (Namespace.calls_delete _ _ _ _).mpr ⟨deleted, rfl, rfl, rfl⟩, ?_⟩
    exact Lab.runs_pure_iff.mpr ⟨rfl, rfl, rfl⟩

/-- A server cannot be made if its namespace cannot, or if it cannot be wired; then the removals
follow. -/
theorem runs_create_failed_iff :
    Attempt.Runs (create dir container pid index) l t (.error fault) l' ↔
      let s := new container index .created
      let asked : Exchange Host :=
        ⟨.pathExists (Text.joinPath dir (namespaceName container index)), false⟩
      (∃ u, t = asked :: u ∧ Attempt.Runs (Namespace.create s.ns.name) l u (.error fault) l') ∨
      ∃ u v ns l₁ recalled deleted,
        t = asked :: u ++ v ++ [(s.recallCommand pid).ran recalled, s.ns.deleteCommand.ran deleted] ∧
        Attempt.Runs (Namespace.create s.ns.name) l u (.ok ns) l₁ ∧
        Attempt.Runs (s.wire pid) l₁ v (.error fault) l' := by
  dsimp only
  constructor
  · intro hr
    obtain ⟨_, t, isPresent, _, rfl, hasked, hrest⟩ := Attempt.runs_bind_lift_iff.mp hr
    obtain ⟨rfl, rfl⟩ := Lab.runs_ask_iff.mp hasked
    cases isPresent with
    | true =>
      obtain ⟨_, _, _, _, -, -, hdone⟩ := Attempt.runs_bind_lift_iff.mp hrest
      cases (Attempt.runs_pure_iff.mp hdone).2.1
    | false =>
      rcases Attempt.runs_bind_iff.mp hrest with
        ⟨u, t, ns, l₁, rfl, hcreate, hrest⟩ | ⟨_, hx, hcreate⟩
      case inr =>
        cases hx
        exact .inl ⟨t, rfl, hcreate⟩
      obtain ⟨v, t, x, l₂, rfl, hwire, hend⟩ := Attempt.runs_bind_result_iff.mp hrest
      cases x with
      | ok a => cases (Attempt.runs_pure_iff.mp hend).2.1
      | error e =>
        obtain ⟨_, _, _, _, rfl, hunwire, hthrow⟩ := Attempt.runs_bind_lift_iff.mp hend
        obtain ⟨rfl, hx, rfl⟩ := Attempt.runs_throw_iff.mp hthrow
        cases hx
        obtain ⟨recalled, deleted, rfl, rfl⟩ := runs_unwire_iff.mp hunwire
        exact .inr ⟨u, v, ns, l₁, recalled, deleted, by simp, hcreate, hwire⟩
  · rintro (⟨u, rfl, hcreate⟩ | ⟨u, v, ns, l₁, recalled, deleted, rfl, hcreate, hwire⟩)
    · refine Attempt.runs_bind_lift_iff.mpr
        ⟨[_], u, false, l, rfl, Lab.runs_ask_iff.mpr ⟨rfl, rfl⟩, ?_⟩
      exact Attempt.runs_bind_iff.mpr (.inr ⟨fault, rfl, hcreate⟩)
    · refine Attempt.runs_bind_lift_iff.mpr
        ⟨[_], _, false, l, by simp; rfl, Lab.runs_ask_iff.mpr ⟨rfl, rfl⟩, ?_⟩
      refine Attempt.runs_bind_iff.mpr (.inl ⟨u, _, ns, l₁, rfl, hcreate, ?_⟩)
      refine Attempt.runs_bind_result_iff.mpr ⟨v, _, .error fault, l', rfl, hwire, ?_⟩
      refine Attempt.runs_bind_lift_iff.mpr ⟨_, [], (), l', (List.append_nil _).symm,
        runs_unwire_iff.mpr ⟨recalled, deleted, rfl, rfl⟩, ?_⟩
      exact Attempt.runs_throw_iff.mpr ⟨rfl, rfl, rfl⟩

/-! ## Where the pair is -/

/-- The removals that follow a failure take all pairs. -/
def Recalls (s : VirtualServer) (pid : Nat) (pairs : List VethPair) : Prop :=
  ∀ p ∈ pairs, p.hasEnd ⟨none, (s.transientEnds pid).1⟩ = true ∨ p.isIn (some s.ns.name) = true

theorem Recalls.of_anchored {pairs : List VethPair} (h : Anchored (some s.ns.name) pairs) :
    s.Recalls pid pairs := fun p hp => .inr (h p hp)

/-- The pair as it is made. -/
def newPair (s : VirtualServer) (pid : Nat) : VethPair :=
  ⟨⟨none, (s.transientEnds pid).1⟩, ⟨none, (s.transientEnds pid).2⟩⟩

theorem transientEnds_ne_dev :
    (s.transientEnds pid).1 ≠ "dev" ∧ (s.transientEnds pid).2 ≠ "dev" := by
  have last {stem tip : String} (h : stem ++ tip = "dev") (htip : tip.toList.getLast? ≠ none) :
      tip.toList.getLast? = some 'v' := by
    have hlast := congrArg (·.toList.getLast?) h
    simp only [String.toList_append, List.getLast?_append] at hlast
    cases htail : tip.toList.getLast? with
    | none => exact absurd htail htip
    | some c =>
      rw [htail] at hlast
      simpa using hlast
  refine ⟨fun h => ?_, fun h => ?_⟩
  · change _ ++ "a" = _ at h
    cases last h (by decide)
  · change _ ++ "b" = _ at h
    cases last h (by decide)

variable (held) in
/-- Once the server's end is in the namespace, an end of the pair is there. -/
theorem anchored_join {r : Except Fault Unit} {pairs : List VethPair}
    (h : Anchored (some s.ns.name) pairs) (hr : Attempt.Runs (do
      let here := s.ns.scope
      let switch := NetScope.ofPid pid
      let (serverEnd, switchEnd) := s.transientEnds pid
      NetScope.host.moveLink switchEnd switch
      here.renameLink serverEnd s.peer
      here.setLink s.peer true
      let _ ← (here.setIpv6 s.peer false).result
      switch.renameLink switchEnd s.device
      switch.setLink s.device true
      disableOffload here s.peer
      disableOffload switch s.device) l t r l') :
    Anchored (some s.ns.name) (pairsAfter held pairs t) := by
  have runs : AllowsRuns (Query.StaysIn held (some s.ns.name)) := Query.allowsRuns_staysIn
  have move : Query.StaysIn held (some s.ns.name)
      (.run ⟨"ip", ["link", "set", (s.transientEnds pid).2, "netns", toString pid]⟩) := by
    intro change hchange
    have hput : LinkChange.ofIp none ["link", "set", (s.transientEnds pid).2, "netns",
        toString pid] = some change := hchange
    rw [LinkChange.ofIp, if_neg transientEnds_ne_dev.2] at hput
    cases hput
    intro hplace
    cases hplace
  refine h.after (Attempt.Ensures.of_runs (Q := fun _ => True) ?_ hr).1
  refine (NetScope.asks_run_of move).bind fun _ => ?_
  refine (NetScope.asks_run_of NetScope.staysIn_rename).bind fun _ => ?_
  refine (NetScope.asks_setLink runs).bind fun _ => ?_
  refine (NetScope.asks_setIpv6 runs).result.bind fun _ => ?_
  refine (NetScope.asks_run_of NetScope.staysIn_rename).bind fun _ => ?_
  refine (NetScope.asks_setLink runs).bind fun _ => ?_
  exact (asks_disableOffload runs).bind fun _ => asks_disableOffload runs

variable (held) in
/-- The pair is on the host with the server's end, or it has got into the namespace. -/
theorem recalls_place {r : Except Fault Unit} (hr : Attempt.Runs (do
      let here := s.ns.scope
      let switch := NetScope.ofPid pid
      let (serverEnd, switchEnd) := s.transientEnds pid
      NetScope.host.moveLink serverEnd here
      NetScope.host.moveLink switchEnd switch
      here.renameLink serverEnd s.peer
      here.setLink s.peer true
      let _ ← (here.setIpv6 s.peer false).result
      switch.renameLink switchEnd s.device
      switch.setLink s.device true
      disableOffload here s.peer
      disableOffload switch s.device) l t r l') :
    s.Recalls pid (pairsAfter held [s.newPair pid] t) := by
  rcases Attempt.runs_bind_iff.mp hr with ⟨_, v, ⟨⟩, _, rfl, hmove, hjoin⟩ | ⟨_, rfl, hmove⟩
  · obtain ⟨x, rfl, -, ⟨-, hmoved⟩ | ⟨⟨_, hx⟩, -⟩⟩ :=
      NetScope.runs_moveLink_cases held transientEnds_ne_dev.1 rfl hmove
    case inr => cases hx
    rw [pairsAfter_append, hmoved]
    refine .of_anchored (anchored_join held ?_ hjoin)
    refine List.forall_mem_singleton.mpr (VethPair.isIn_iff.mpr (.inl ?_))
    simp [newPair, VethPair.put, LinkEnd.put]
  · obtain ⟨x, rfl, -, ⟨hx, -⟩ | ⟨-, hfailed⟩⟩ :=
      NetScope.runs_moveLink_cases held transientEnds_ne_dev.1 rfl hmove
    · cases hx
    · rw [pairsAfter_singleton, Exchange.pairsAfter_of_failed hfailed]
      exact List.forall_mem_singleton.mpr (.inl (by simp [newPair, VethPair.hasEnd]))

variable (held) in
/-- Wherever the wiring stops, the removals after it take the pair. -/
theorem recalls_wire {r : Except Fault Unit} (hr : Attempt.Runs (s.wire pid) l t r l') :
    s.Recalls pid (pairsAfter held [] t) := by
  have none : s.Recalls pid [] := List.forall_mem_nil _
  have deleting {scope : NetScope} {link : String} :
      Attempt.Asks (fun q => q.onlyRemoves held = true) (scope.deleteLink link) := by
    refine NetScope.asks_deleteLink_of ?_
    rw [Query.onlyRemoves, NetScope.linkChange?_enter]
    rfl
  have stale {scope : NetScope} {link : String} {x : Except Fault Unit} {u : Trace Host}
      {l₁ l₂ : Ledger} (h : Attempt.Runs (scope.deleteLink link) l₁ u x l₂) :
      pairsAfter held [] u = [] :=
    OnlyRemoves.pairsAfter_nil (deleting.of_runs h).1
  -- what is left from before
  rcases Attempt.runs_bind_iff.mp hr with ⟨u₁, t₁, ⟨⟩, _, rfl, hfirst, hr₁⟩ | ⟨_, rfl, hfirst⟩
  case inr => rwa [stale hfirst]
  rw [pairsAfter_append, stale hfirst]
  rcases Attempt.runs_bind_iff.mp hr₁ with ⟨u₂, t₂, ⟨⟩, _, rfl, hsecond, hr₂⟩ | ⟨_, rfl, hsecond⟩
  case inr => rwa [stale hsecond]
  rw [pairsAfter_append, stale hsecond]
  -- the pair itself
  rcases Attempt.runs_bind_iff.mp hr₂ with ⟨u₃, t₃, ⟨⟩, _, rfl, hadd, hr₃⟩ | ⟨_, rfl, hadd⟩
  · obtain ⟨x, rfl, hx, ⟨-, hs⟩ | ⟨⟨_, hfault⟩, -⟩⟩ := NetScope.runs_run_cases hadd
    case inr => cases hfault
    have hmade : pairsAfter held [] [x] = [s.newPair pid] := NetScope.pairsAfter_of_succeeded hx hs
    rw [pairsAfter_append, hmade]
    exact recalls_place held hr₃
  · obtain ⟨x, rfl, -, ⟨hx, -⟩ | ⟨-, hs⟩⟩ := NetScope.runs_run_cases hadd
    · cases hx
    · rwa [pairsAfter_singleton, Exchange.pairsAfter_of_failed hs]

/-- Nothing is left when the removals that find something to remove succeed. -/
theorem Recalls.pairsAfter_eq_nil {pairs : List VethPair} {recalled deleted : Except Fault Output}
    (h : s.Recalls pid pairs)
    (ho : Obeyed held pairs
      [(s.recallCommand pid).ran recalled, s.ns.deleteCommand.ran deleted]) :
    pairsAfter held pairs [(s.recallCommand pid).ran recalled, s.ns.deleteCommand.ran deleted] =
      [] := by
  have removes : OnlyRemoves held
      [(s.recallCommand pid).ran recalled, s.ns.deleteCommand.ran deleted] :=
    List.forall_mem_cons.mpr ⟨rfl, List.forall_mem_singleton.mpr rfl⟩
  rw [removes.pairsAfter_eq, List.filter_eq_nil_iff]
  intro p hp
  have taken : takenIn held
      [(s.recallCommand pid).ran recalled, s.ns.deleteCommand.ran deleted] p = true := by
    rcases h p hp with hend | hin
    · exact ho.takenIn removes hp List.mem_cons_self
        ((Exchange.takes_of_deleteLink (s := .host) rfl).trans hend)
    · exact ho.takenIn removes hp (List.mem_cons_of_mem _ List.mem_cons_self)
        ((Exchange.takes_of_netns rfl).trans hin)
  simp [taken]

variable (held) in
/-- A server whose namespace was added, but that could not be made, could not be wired. The fault
is that of the last command of the wiring. After it, whatever is answered, the server's end is
deleted from the host and then the namespace, and until then one of them has what there is of the
pair. -/
theorem create_unwired
    (hr : Attempt.Runs (create dir container pid index) l t (.error fault) l')
    (hadd : ∃ x ∈ t, Command.Done ⟨"ip", ["netns", "add", namespaceName container index]⟩ x) :
    let s := new container index .created
    let removals (recalled deleted : Except Fault Output) : Trace Host :=
      [(s.recallCommand pid).ran recalled, s.ns.deleteCommand.ran deleted]
    ∃ u v l₁ recalled deleted, t = u ++ v ++ removals recalled deleted ∧
      Attempt.Runs (s.wire pid) l₁ v (.error fault) l' ∧ FailedLast v fault ∧
      s.Recalls pid (pairsAfter held [] (u ++ v)) ∧
      (Obeyed held (pairsAfter held [] (u ++ v)) (removals recalled deleted) →
        pairsAfter held [] t = []) ∧
      ∀ recalled deleted, Attempt.Runs (create dir container pid index) l
        (u ++ v ++ removals recalled deleted) (.error fault) l' := by
  dsimp only
  rcases runs_create_failed_iff.mp hr with
    ⟨u, rfl, hcreate⟩ | ⟨u, v, ns, l₁, recalled, deleted, rfl, hcreate, hwire⟩
  · obtain ⟨x, hx, hdone⟩ := hadd
    rcases List.mem_cons.mp hx with rfl | hx
    · obtain ⟨_, hx, -⟩ := hdone
      cases hx
    · exact absurd hdone (Namespace.not_added_of_failed hcreate x hx)
  · have making : Attempt.Asks (fun q => q.onlyRemoves held = true)
        (Namespace.create (new container index .created).ns.name) :=
      Namespace.asks_create_of rfl rfl rfl
    have quiet : OnlyRemoves held
        (⟨.pathExists (Text.joinPath dir (namespaceName container index)), false⟩ :: u) :=
      List.forall_mem_cons.mpr ⟨rfl, (making.of_runs hcreate).1⟩
    have recalls : (new container index .created).Recalls pid (pairsAfter held []
        (⟨.pathExists (Text.joinPath dir (namespaceName container index)), false⟩ :: u ++ v)) := by
      rw [pairsAfter_append, quiet.pairsAfter_nil]
      exact recalls_wire held hwire
    refine ⟨_, v, l₁, recalled, deleted, rfl, hwire, stopsAtFailure_wire _ _ _ _ hwire, recalls,
      fun ho => ?_, fun recalled deleted => ?_⟩
    · rw [pairsAfter_append]
      exact recalls.pairsAfter_eq_nil ho
    · exact runs_create_failed_iff.mpr
        (.inr ⟨u, v, ns, l₁, recalled, deleted, rfl, hcreate, hwire⟩)

end VirtualServer

end SwitchLab

/-! ## An end that cannot be moved

The switch's end is refused by the namespace of the switch. The server's is in place by then. -/

namespace SwitchLab.HalfJoined

/-- What comes before the end that is refused. -/
def placed : Trace Host :=
  [⟨.pathExists "/run/netns/vs-srv1", false⟩,
    Command.ran ⟨"ip", ["netns", "del", "vs-srv1"]⟩
      (.ok ⟨1, "", "Cannot remove namespace file: No such file or directory"⟩),
    silently "ip" ["netns", "add", "vs-srv1"],
    silently "ip" ["netns", "exec", "vs-srv1", "ip", "link", "set", "lo", "up"],
    Command.ran ⟨"ip", ["link", "del", "dv7s1a"]⟩ (.ok ⟨1, "", "Cannot find device"⟩),
    Command.ran ⟨"nsenter", ["-t", "7", "-n", "ip", "link", "del", "eth2"]⟩
      (.ok ⟨1, "", "Cannot find device"⟩),
    silently "ip" ["link", "add", "dv7s1a", "type", "veth", "peer", "name", "dv7s1b"],
    silently "ip" ["link", "set", "dv7s1a", "netns", "vs-srv1"]]

def trace : Trace Host := placed ++
  [Command.ran ⟨"ip", ["link", "set", "dv7s1b", "netns", "7"]⟩
      (.ok ⟨2, "", "RTNETLINK answers: Operation not permitted"⟩),
    Command.ran ⟨"ip", ["link", "del", "dv7s1a"]⟩ (.ok ⟨1, "", "Cannot find device"⟩),
    silently "ip" ["netns", "del", "vs-srv1"]]

def fault : Fault :=
  .command "[host] ip link set dv7s1b netns 7" 2 "RTNETLINK answers: Operation not permitted"

open VirtualServer

theorem runs_create : Attempt.Runs (create "/run/netns" "vs" 7 1) .empty trace (.error fault)
    .empty :=
  Dialogue.runs_of_replay (by decide +kernel)

theorem added : ∃ x ∈ trace, Command.Done ⟨"ip", ["netns", "add", namespaceName "vs" 1]⟩ x :=
  ⟨silently "ip" ["netns", "add", "vs-srv1"], by simp [trace, placed], .silent, rfl, rfl⟩

theorem trace_unwired :
    Attempt.Runs (create "/run/netns" "vs" 7 1) .empty trace (.error fault) .empty ∧
    (∃ x ∈ trace, Command.Done ⟨"ip", ["netns", "add", namespaceName "vs" 1]⟩ x) ∧
    let s := new "vs" 1 .created
    let removals (recalled deleted : Except Fault Output) : Trace Host :=
      [(s.recallCommand 7).ran recalled, s.ns.deleteCommand.ran deleted]
    let after := pairsAfter fun _ => []
    ∃ u v l₁ recalled deleted, trace = u ++ v ++ removals recalled deleted ∧
      Attempt.Runs (s.wire 7) l₁ v (.error fault) .empty ∧ FailedLast v fault ∧
      s.Recalls 7 (after [] (u ++ v)) ∧
      (Obeyed (fun _ => []) (after [] (u ++ v)) (removals recalled deleted) →
        after [] trace = []) ∧
      ∀ recalled deleted, Attempt.Runs (create "/run/netns" "vs" 7 1) .empty
        (u ++ v ++ removals recalled deleted) (.error fault) .empty :=
  ⟨runs_create, added, create_unwired (fun _ => []) runs_create added⟩

/-- By then the namespace has the pair. -/
example : pairsAfter (fun _ => []) [] placed = [⟨⟨some "vs-srv1", "dv7s1a"⟩, ⟨none, "dv7s1b"⟩⟩] := by
  decide +kernel

end SwitchLab.HalfJoined
