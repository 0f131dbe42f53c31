import SwitchLab.Proofs.Dismantling
import SwitchLab.Proofs.Links

/-! What a build that fails leaves of its veth pairs. -/

namespace SwitchLab

variable {held : String → List String} {l l' : Ledger} {t u v : Trace Host}
  {failures : List String} {topology : Topology} {options : Options} {shared : Namespace}

/-! ## Teardowns -/

theorem OnlyRemoves.append (ht : OnlyRemoves held t) (hu : OnlyRemoves held u) :
    OnlyRemoves held (t ++ u) := List.forall_mem_append.mpr ⟨ht, hu⟩

theorem Query.IsKilling.onlyRemoves {q : Query} (h : q.IsKilling) : q.onlyRemoves held = true := by
  cases h <;> rfl

namespace TeardownStep

theorem linkChange?_deleteLink {what link : String} {scope : NetScope} :
    (Query.run (deleteLink what scope link).command).linkChange? held =
      some (.delete ⟨scope.target?, link⟩) := NetScope.linkChange?_enter

theorem onlyRemoves_deleteLink {what link : String} {scope : NetScope} :
    (Query.run (deleteLink what scope link).command).onlyRemoves held = true := by
  rw [Query.onlyRemoves, linkChange?_deleteLink]
  rfl

end TeardownStep

theorem Attempted.onlyRemoves {between : Query → Prop} {steps : List TeardownStep}
    (h : Attempted between steps t failures)
    (hb : ∀ q : Query, between q → q.onlyRemoves held = true)
    (hs : ∀ s ∈ steps, (Query.run s.command).onlyRemoves held = true) : OnlyRemoves held t := by
  intro x hx
  rcases h.requests x hx with hq | ⟨s, hmem, hq⟩
  · exact hb _ hq
  · rw [hq]
    exact hs s hmem

namespace Device

variable {d d' : Device} {r : Except Fault Unit} {spec : DeviceSpec}

theorem teardownSteps_onlyRemove :
    ∀ s ∈ d.teardownSteps, (Query.run s.command).onlyRemoves held = true := by
  intro s hs
  rcases teardownSteps_cases hs with ⟨_, rfl⟩ | ⟨_, rfl⟩ | ⟨_, _, rfl⟩ <;> rfl

theorem TornDown.onlyRemoves (h : d.TornDown t r) : OnlyRemoves held t := by
  rw [TornDown] at h
  split at h
  · rw [h.1]
    exact List.forall_mem_nil _
  · obtain ⟨failures, h, -⟩ := h
    exact h.onlyRemoves (fun _ hq => hq.onlyRemoves) teardownSteps_onlyRemove

theorem Ended.onlyRemoves (h : d.Ended t d') : OnlyRemoves held t := by
  obtain ⟨u, v, l₁, l₂, l₃, r, rfl, hlogs, hdestroy⟩ := h
  have logs : OnlyRemoves held u :=
    ((asks_captureLogs allowsMaking_onlyRemoves.toAllowsContainers).of_runs hlogs).1
  exact logs.append (runs_destroy hdestroy).1.onlyRemoves

/-! ## Nodes -/

/-- A switch without servers is made without a link. -/
theorem onlyRemoves_making (hw : spec.withServers = false) (hd : d.spec = spec)
    (hr : On.Runs (if spec.attach then attach else provision) d l t r d' l') :
    OnlyRemoves held t := by
  have none : spec.withServers = true → AllowsServers fun q => q.onlyRemoves held = true := by
    simp [hw]
  split at hr
  · have keeps := keeps_attach allowsMaking_onlyRemoves.toAllowsContainers none fun _ => rfl
    exact ((keeps d hd).of_runs hr).1
  · have keeps := keeps_provision allowsMaking_onlyRemoves none rfl
    exact ((keeps d hd).of_runs hr).1

theorem onlyRemoves_setUp (hw : spec.withServers = false)
    (hr : On.Runs setUp (absent spec) l t r d l') : OnlyRemoves held t := by
  rcases runs_orDestroy_cases (runs_setUp_iff.mp hr) with
    ⟨_, -, hwork⟩ | ⟨_, u, v, _, _, -, rfl, hwork, hend⟩
  · exact onlyRemoves_making hw rfl hwork
  · exact (onlyRemoves_making hw rfl hwork).append hend.onlyRemoves

/-- A teardown of the switch removes the container that was made to hold its namespace. -/
structure Removable (d : Device) : Prop where
  held : d.state ≠ .destroyed
  holder : d.spec.attach = false → ∃ container, d.holder = some container

/-- The container that holds the namespace is known. -/
def HasHolder (d : Device) : Prop := ∃ container, d.holder = some container

theorem establishes_holder_provision : On.Establishes HasHolder provision := by
  refine On.Establishes.bind fun d => On.Establishes.bind fun _ => ?_
  refine On.Establishes.modify_bind (P := fun q => q.isStoreCall = false) (fun _ => ⟨_, rfl⟩) ?_
  have making := allows_noStoreCall.toAllows.making
  refine On.Keeps.bind_lift (asks_createAndStart making) fun _ _ => ?_
  refine On.Keeps.bind_lift (asks_pid making.toAllowsContainers) fun pid _ => ?_
  refine On.Keeps.bind (.modify fun _ h => h) fun _ => ?_
  exact keeps_afterHolder making (fun _ => allows_noStoreCall.servers) fun _ _ h => h

theorem removable_of_setUp (hr : On.Runs setUp (absent spec) l t (.ok ()) d l') :
    d.Removable := by
  have hmaking := making_of_setUp hr
  refine ⟨by simp [hmaking.state], fun hown => ?_⟩
  have hwork := runs_setUp_ok hr
  rw [hmaking.forSpec] at hown
  rw [hown] at hwork
  exact establishes_holder_provision _ _ _ _ _ _ hwork

end Device

namespace DestroyedAll

variable {devices : List Device}

theorem onlyRemoves (h : DestroyedAll devices t failures) : OnlyRemoves held t := by
  induction h with
  | nil => exact List.forall_mem_nil _
  | cons hd _ ih => exact hd.onlyRemoves.append ih

/-- No step of a switch that is there is left out. -/
theorem mem {d : Device} {s : TeardownStep} (h : DestroyedAll devices t failures)
    (hd : d ∈ devices) (hstate : d.state ≠ .destroyed) (hs : s ∈ d.teardownSteps) :
    ∃ x ∈ t, x.request = .run s.command := by
  induction h with
  | nil => cases hd
  | @cons first devices t u r failures htorn _ ih =>
    rcases List.mem_cons.mp hd with rfl | hd
    · rw [Device.TornDown, if_neg hstate] at htorn
      obtain ⟨_, hattempted, -⟩ := htorn
      obtain ⟨x, hx, hrequest⟩ := hattempted.mem hs
      exact ⟨x, List.mem_append_left _ hx, hrequest⟩
    · obtain ⟨x, hx, hrequest⟩ := ih hd
      exact ⟨x, List.mem_append_right _ hx, hrequest⟩

end DestroyedAll

/-! ## Steps of a build -/

/-- The pair of an end that is wired, with the node's end in this namespace and the other on the
host. -/
def WiredEnd.pairAt (w : WiredEnd) (place : Option String) : VethPair :=
  ⟨⟨place, w.nodeEnd⟩, ⟨none, w.sharedEnd⟩⟩

/-- The command that moves the shared end to its namespace. -/
def WiredEnd.moveCommand (w : WiredEnd) (shared : Namespace) : Command :=
  ⟨"ip", ["link", "set", w.sharedEnd, "netns", shared.name]⟩

/-- The step wires the end of a link. -/
def BuildStep.wires : BuildStep → Bool
  | wire _ _ _ => true
  | _ => false

namespace Controller

variable {c c' : Controller} {r : Except Fault Unit}

/-- The steps that do not wire an end make no pair. -/
theorem onlyRemoves_act {a : BuildStep} (ha : a.wires = false) (hc : c.adjust = id)
    (hr : On.Runs (a.act shared) c l t r c' l') : OnlyRemoves held t := by
  cases a with
  | share =>
    have create : Attempt.Asks (fun q => q.onlyRemoves held = true)
        (Namespace.create shared.name) := Namespace.asks_create_of rfl rfl rfl
    rcases On.runs_bind_lift_iff.mp hr with ⟨u, v, ns, l₁, rfl, hcreate, hr⟩ | ⟨_, _, _, hcreate⟩
    · obtain ⟨rfl, -⟩ := On.runs_modify_iff.mp hr
      rw [List.append_nil]
      exact (create.of_runs hcreate).1
    · exact (create.of_runs hcreate).1
  | bridge =>
    have add : Attempt.Asks (fun q => q.onlyRemoves held = true) (shared.addBridge bridge) :=
      Namespace.asks_addBridge_of rfl rfl rfl
    exact (add.of_runs (On.runs_lift_iff.mp hr).2).1
  | node n =>
    obtain ⟨u, v, running, l₁, rfl, hrunning, hr⟩ := runs_node_cases hr
    have look : OnlyRemoves held u :=
      ((asks_isRunning allowsMaking_onlyRemoves.toAllowsContainers).of_runs hrunning).1
    have making {x : Except Fault Device}
        (h : Attempt.Runs (Device.create (c.nodeSpec n running)) l₁ v x l') :
        OnlyRemoves held v := by
      obtain ⟨_, d, hsetUp, -⟩ := Device.runs_create h
      exact Device.onlyRemoves_setUp (by rw [nodeSpec_of_unadjusted hc]) hsetUp
    rcases hr with ⟨d, hcreate, -⟩ | ⟨e, hcreate, -⟩
    · exact look.append (making hcreate)
    · exact look.append (making hcreate)
  | wire index side e => cases ha
  | ready index =>
    have hr := On.runs_bind_get_iff.mp hr
    split at hr
    case h_2 =>
      obtain ⟨rfl, -⟩ := On.runs_pure_iff.mp hr
      exact List.forall_mem_nil _
    case h_1 d hd =>
      obtain ⟨d', hcheck, -⟩ := On.runs_part_iff.mp hr
      have stores : AllowsStores fun q => q.onlyRemoves held = true := by
        intro q hq
        cases q <;> first | rfl | cases hq
      have reach : Attempt.Asks (fun q => q.onlyRemoves held = true) (Device.reachReady d.spec) :=
        Device.asks_reachReady allowsMaking_onlyRemoves.toAllowsContainers stores
      rcases Device.runs_checkReady_cases hcheck with ⟨-, rfl, -⟩ | ⟨-, rfl, -⟩ |
        ⟨-, ⟨_, hreach, -⟩ | ⟨_, u, v, _, -, rfl, hreach, hend⟩⟩
      · exact List.forall_mem_nil _
      · exact List.forall_mem_nil _
      · exact (reach.of_runs hreach).1
      · exact OnlyRemoves.append (reach.of_runs hreach).1 hend.onlyRemoves

/-! ## Wiring an end -/

/-- The last character of a name is the last digit of its number. -/
theorem getLast?_vethName {stem : String} {index tip : Nat} {side : Char} {digit : Char}
    (h : (toString tip).toList.getLast? = some digit) :
    (Veth.name stem index side tip).toList.getLast? = some digit := by
  simp only [Veth.name, Veth.suffix, String.toList_append, List.getLast?_append, h, Option.some_or]

/-- The pairs after the end `w` of a node was wired as far as the trace goes. -/
inductive WiredUpTo (shared : Namespace) (w : WiredEnd) (pid : Nat) (t : Trace Host) :
    Except Fault Unit → List VethPair → Prop where
  | anchored {r : Except Fault Unit} {pairs : List VethPair} :
    Anchored (some shared.name) pairs → WiredUpTo shared w pid t r pairs
  /-- No end was moved. -/
  | unmoved {fault : Fault} {pairs : List VethPair} : Anchored (some shared.name) pairs →
    WiredUpTo shared w pid t (.error fault) (pairs ++ [w.pairAt none])
  /-- The node has its end, but the other could not be moved. -/
  | halfway {fault : Fault} {pairs : List VethPair} {u : Trace Host} {x : Exchange Host} :
    Anchored (some shared.name) pairs → t = u ++ [x] → x.request = .run (w.moveCommand shared) →
    x.succeeded = false →
    WiredUpTo shared w pid t (.error fault) (pairs ++ [w.pairAt (some (toString pid))])

theorem WiredUpTo.before {w : WiredEnd} {pid : Nat} {pairs : List VethPair}
    (h : WiredUpTo shared w pid t r pairs) : WiredUpTo shared w pid (u ++ t) r pairs := by
  cases h with
  | anchored h => exact .anchored h
  | unmoved h => exact .unmoved h
  | @halfway _ _ v x h ht hx hs =>
    rw [ht, ← List.append_assoc]
    exact .halfway h rfl hx hs

variable (held) in
/-- What comes after both moves leaves the ends in their namespaces. -/
theorem anchored_fasten {inside : NetScope} {w : WiredEnd} {place : Option String}
    {pairs : List VethPair} (h : Anchored place pairs) (hr : On.Runs (do
      inside.renameLink w.nodeEnd w.iface
      inside.setLink w.iface true
      shared.scope.setMaster w.sharedEnd bridge
      shared.scope.setLink w.sharedEnd true : On Controller Unit) c l t r c' l') :
    Anchored place (pairsAfter held pairs t) := by
  have master : Query.StaysIn held place (.run (shared.scope.enter
      ⟨"ip", ["link", "set", "dev", w.sharedEnd, "master", bridge]⟩)) := by
    intro change hchange
    rw [NetScope.linkChange?_enter, NetScope.ofIp_setMaster] at hchange
    cases hchange
  have up {s : NetScope} {link : String} :
      Attempt.Asks (Query.StaysIn held place) (s.setLink link true) :=
    NetScope.asks_setLink Query.allowsRuns_staysIn
  have keeps : On.Keeps (Query.StaysIn held place) (fun _ => True) (do
      inside.renameLink w.nodeEnd w.iface
      inside.setLink w.iface true
      shared.scope.setMaster w.sharedEnd bridge
      shared.scope.setLink w.sharedEnd true : On Controller Unit) := by
    refine On.Keeps.bind_lift (NetScope.asks_run_of NetScope.staysIn_rename) fun _ _ => ?_
    refine On.Keeps.bind_lift up fun _ _ => ?_
    refine On.Keeps.bind_lift (NetScope.asks_run_of master) fun _ _ => ?_
    exact .lift up
  exact h.after ((keeps c trivial).of_runs hr).1

/-- The node has its end already. -/
theorem wiredUpTo_share {w : WiredEnd} {pid : Nat} {pairs : List VethPair}
    (hshared : w.sharedEnd ≠ "dev") (h : Anchored (some shared.name) pairs)
    (hr : On.Runs (do
      NetScope.host.moveLink w.sharedEnd shared.scope
      (NetScope.ofPid pid).renameLink w.nodeEnd w.iface
      (NetScope.ofPid pid).setLink w.iface true
      shared.scope.setMaster w.sharedEnd bridge
      shared.scope.setLink w.sharedEnd true : On Controller Unit) c l t r c' l') :
    WiredUpTo shared w pid t r (pairsAfter held (pairs ++ [w.pairAt (some (toString pid))]) t) := by
  rcases On.runs_bind_lift_iff.mp hr with ⟨u, v, ⟨⟩, l₁, rfl, hmove, hrest⟩ | ⟨e, rfl, -, hmove⟩
  · obtain ⟨x, rfl, -, ⟨-, hmoved⟩ | ⟨⟨_, hfault⟩, -⟩⟩ :=
      NetScope.runs_moveLink_cases held hshared rfl hmove
    case inr => cases hfault
    have anchored : Anchored (some shared.name)
        (pairsAfter held (pairs ++ [w.pairAt (some (toString pid))]) [x]) := by
      rw [hmoved, List.map_append]
      refine List.forall_mem_append.mpr ⟨h.map_put_host, List.forall_mem_singleton.mpr ?_⟩
      simp [WiredEnd.pairAt, VethPair.put, LinkEnd.put, VethPair.isIn]
    rw [pairsAfter_append]
    exact .anchored (anchored_fasten held anchored hrest)
  · obtain ⟨x, rfl, hx, ⟨hok, -⟩ | ⟨-, hs⟩⟩ :=
      NetScope.runs_moveLink_cases held hshared rfl hmove
    · cases hok
    · rw [pairsAfter_singleton, Exchange.pairsAfter_of_failed hs]
      exact .halfway (u := []) h rfl hx hs

theorem wiredUpTo_fasten {w : WiredEnd} {pid : Nat} {pairs : List VethPair}
    (hne : w.sharedEnd ≠ w.nodeEnd) (hnode : w.nodeEnd ≠ "dev") (hshared : w.sharedEnd ≠ "dev")
    (h : Anchored (some shared.name) pairs) (hr : On.Runs (do
      NetScope.host.moveLink w.nodeEnd (.ofPid pid)
      NetScope.host.moveLink w.sharedEnd shared.scope
      (NetScope.ofPid pid).renameLink w.nodeEnd w.iface
      (NetScope.ofPid pid).setLink w.iface true
      shared.scope.setMaster w.sharedEnd bridge
      shared.scope.setLink w.sharedEnd true : On Controller Unit) c l t r c' l') :
    WiredUpTo shared w pid t r (pairsAfter held (pairs ++ [w.pairAt none]) t) := by
  rcases On.runs_bind_lift_iff.mp hr with ⟨u, v, ⟨⟩, l₁, rfl, hmove, hrest⟩ | ⟨e, rfl, -, hmove⟩
  · obtain ⟨x, rfl, -, ⟨-, hmoved⟩ | ⟨⟨_, hfault⟩, -⟩⟩ :=
      NetScope.runs_moveLink_cases held hnode rfl hmove
    case inr => cases hfault
    have hpair : (w.pairAt none).put ⟨none, w.nodeEnd⟩ ⟨some (toString pid), w.nodeEnd⟩ =
        w.pairAt (some (toString pid)) := by
      simp [WiredEnd.pairAt, VethPair.put, LinkEnd.put, hne]
    have hmap : Anchored (some shared.name)
        (pairs.map (·.put ⟨none, w.nodeEnd⟩ ⟨some (toString pid), w.nodeEnd⟩)) := h.map_put_host
    rw [pairsAfter_append, hmoved, List.map_append, List.map_singleton, hpair]
    exact (wiredUpTo_share hshared hmap hrest).before
  · obtain ⟨x, rfl, -, ⟨hok, -⟩ | ⟨-, hs⟩⟩ := NetScope.runs_moveLink_cases held hnode rfl hmove
    · cases hok
    · rw [pairsAfter_singleton, Exchange.pairsAfter_of_failed hs]
      exact .unmoved h

variable (held) in
/-- What is left from before is deleted, or that fails. -/
theorem anchored_bind_deleteLink {s : NetScope} {link : String} {place : Option String}
    {pairs : List VethPair} {f : Unit → On Controller Unit} (h : Anchored place pairs)
    (hr : On.Runs ((liftM (s.deleteLink link) : On Controller Unit) >>= f) c l t r c' l') :
    Anchored place (pairsAfter held pairs t) ∨
    ∃ u v l₁, t = u ++ v ∧ Anchored place (pairsAfter held pairs u) ∧
      On.Runs (f ()) c l₁ v r c' l' := by
  have asks : Attempt.Asks (fun q => q.onlyRemoves held = true) (s.deleteLink link) := by
    refine NetScope.asks_deleteLink_of ?_
    rw [Query.onlyRemoves, NetScope.linkChange?_enter]
    rfl
  rcases On.runs_bind_lift_iff.mp hr with ⟨u, v, ⟨⟩, l₁, rfl, hdelete, hr⟩ | ⟨_, -, -, hdelete⟩
  · exact .inr ⟨u, v, l₁, rfl, h.onlyRemoves (asks.of_runs hdelete).1, hr⟩
  · exact .inl (h.onlyRemoves (asks.of_runs hdelete).1)

/-- Both ends are made on the host, and then put where they belong. -/
theorem wiredUpTo_pair {w : WiredEnd} {pid : Nat} {pairs : List VethPair}
    (hne : w.sharedEnd ≠ w.nodeEnd) (hnode : w.nodeEnd ≠ "dev") (hshared : w.sharedEnd ≠ "dev")
    (h : Anchored (some shared.name) pairs) (hr : On.Runs (do
      NetScope.host.addVethPair w.nodeEnd w.sharedEnd
      modify fun c => { c with wired := c.wired ++ [w] }
      NetScope.host.moveLink w.nodeEnd (.ofPid pid)
      NetScope.host.moveLink w.sharedEnd shared.scope
      (NetScope.ofPid pid).renameLink w.nodeEnd w.iface
      (NetScope.ofPid pid).setLink w.iface true
      shared.scope.setMaster w.sharedEnd bridge
      shared.scope.setLink w.sharedEnd true : On Controller Unit) c l t r c' l') :
    Anchored (some shared.name) (pairsAfter held pairs t) ∨
      (c' = { c with wired := c.wired ++ [w] } ∧
        WiredUpTo shared w pid t r (pairsAfter held pairs t)) := by
  rcases On.runs_bind_lift_iff.mp hr with ⟨u, v, ⟨⟩, l₁, rfl, hadd, hrest⟩ | ⟨e, rfl, -, hadd⟩
  · obtain ⟨x, rfl, hx, ⟨-, hs⟩ | ⟨⟨_, hfault⟩, -⟩⟩ := NetScope.runs_run_cases hadd
    case inr => cases hfault
    have hrest := On.runs_bind_modify_iff.mp hrest
    have hmade : pairsAfter held pairs [x] = pairs ++ [w.pairAt none] :=
      NetScope.pairsAfter_of_succeeded hx hs
    rw [pairsAfter_append, hmade]
    refine .inr ⟨?_, (wiredUpTo_fasten hne hnode hshared h hrest).before⟩
    exact ((keeps_fasten (K := fun c' => c' = _) allows_noStoreCall _ rfl).of_runs hrest).2
  · obtain ⟨x, rfl, -, ⟨hok, -⟩ | ⟨-, hs⟩⟩ := NetScope.runs_run_cases hadd
    · cases hok
    · rw [pairsAfter_singleton, Exchange.pairsAfter_of_failed hs]
      exact .inl h

variable (held) in
/-- What the step that wires an end does with the pairs. -/
theorem wiredUpTo_wire {index : Nat} {side : Char} {e : Endpoint} {pairs : List VethPair}
    (h : Anchored (some shared.name) pairs)
    (hr : On.Runs (wire index side e shared) c l t r c' l') :
    Anchored (some shared.name) (pairsAfter held pairs t) ∨
    ∃ w pid, (c.nodes[w.node]?).bind (·.pid) = some pid ∧ c' = { c with wired := c.wired ++ [w] } ∧
      WiredUpTo shared w pid t r (pairsAfter held pairs t) := by
  have hr := On.runs_bind_get_iff.mp hr
  split at hr
  case h_2 =>
    obtain ⟨rfl, -⟩ := On.runs_throw_iff.mp hr
    exact .inl h
  case h_1 node hnode =>
    split at hr
    case h_2 =>
      obtain ⟨rfl, -⟩ := On.runs_throw_iff.mp hr
      exact .inl h
    case h_1 pid hpid =>
      rcases anchored_bind_deleteLink held h hr with h | ⟨t₁, _, _, rfl, h, hr⟩
      · exact .inl h
      rw [pairsAfter_append]
      rcases anchored_bind_deleteLink held h hr with h | ⟨t₂, _, _, rfl, h, hr⟩
      · exact .inl h
      rw [pairsAfter_append]
      rcases anchored_bind_deleteLink held h hr with h | ⟨t₃, _, _, rfl, h, hr⟩
      · exact .inl h
      rw [pairsAfter_append]
      let w : WiredEnd := {
        node
        iface := e.iface
        nodeEnd := Veth.name (Veth.stem c.topology.name) index side 0
        sharedEnd := Veth.name (Veth.stem c.topology.name) index side 1 }
      have first : w.nodeEnd.toList.getLast? = some '0' := getLast?_vethName rfl
      have second : w.sharedEnd.toList.getLast? = some '1' := getLast?_vethName rfl
      have hne : w.sharedEnd ≠ w.nodeEnd := by
        intro he
        rw [he, first] at second
        cases second
      have hnode : w.nodeEnd ≠ "dev" := by
        intro he
        rw [he] at first
        cases first
      have hshared : w.sharedEnd ≠ "dev" := by
        intro he
        rw [he] at second
        cases second
      rcases wiredUpTo_pair hne hnode hshared h hr with h | ⟨hc, h⟩
      · exact .inl h
      · exact .inr ⟨w, pid, hpid, hc, h.before.before.before⟩

/-! ## All steps -/

/-- While all goes well: every pair has an end in the shared namespace, and every node can be
removed. -/
structure Steady (shared : Namespace) (pairs : List VethPair) (c : Controller) : Prop where
  unadjusted : c.adjust = id
  anchored : Anchored (some shared.name) pairs
  nodes : ∀ d ∈ c.nodes, d.Removable

namespace Steady

variable {pairs : List VethPair} {a : BuildStep} {steps : List BuildStep} {fault : Fault}

variable (held) in
theorem unwired (h : Steady shared pairs c) (ha : a.wires = false)
    (hr : On.Runs (a.act shared) c l t r c' l') :
    Anchored (some shared.name) (pairsAfter held pairs t) :=
  h.anchored.onlyRemoves (onlyRemoves_act ha h.unadjusted hr)

theorem act (h : Steady shared pairs c) (hr : On.Runs (a.act shared) c l t (.ok ()) c' l') :
    Steady shared (pairsAfter held pairs t) c' := by
  cases a with
  | share =>
    rcases runs_share hr with ⟨-, hne⟩ | ⟨rfl, -⟩
    · exact absurd rfl hne
    · exact ⟨h.unadjusted, h.unwired held rfl hr, h.nodes⟩
  | bridge =>
    obtain rfl := runs_bridge hr
    exact ⟨h.unadjusted, h.unwired held rfl hr, h.nodes⟩
  | node n =>
    have anchored := h.unwired held rfl hr
    obtain ⟨u, v, running, l₁, rfl, -, ⟨d, hcreate, -, rfl⟩ | ⟨_, -, hx, -⟩⟩ :=
      runs_node_cases hr
    · have removable : d.Removable := Device.removable_of_setUp (Device.runs_create_ok hcreate)
      exact ⟨h.unadjusted, anchored,
        List.forall_mem_append.mpr ⟨h.nodes, List.forall_mem_singleton.mpr removable⟩⟩
    · cases hx
  | wire index side e =>
    rcases wiredUpTo_wire held h.anchored hr with anchored | ⟨w, pid, -, rfl, hwired⟩
    · rcases runs_wire hr with ⟨-, hne⟩ | ⟨_, _, rfl⟩
      · exact absurd rfl hne
      · exact ⟨h.unadjusted, anchored, h.nodes⟩
    · generalize pairsAfter held pairs t = after at hwired ⊢
      cases hwired with
      | anchored anchored => exact ⟨h.unadjusted, anchored, h.nodes⟩
  | ready index =>
    have anchored := h.unwired held rfl hr
    rcases runs_ready hr with ⟨rfl, -⟩ | ⟨d, d', hd, hmade, hready, rfl⟩
    · exact ⟨h.unadjusted, anchored, h.nodes⟩
    · refine ⟨h.unadjusted, anchored, fun x hx => ?_⟩
      rcases List.mem_or_eq_of_mem_set hx with hx | rfl
      · exact h.nodes x hx
      · have hspec := congrArg Device.spec hmade
        have hholder := congrArg Device.holder hmade
        refine ⟨by simp [hready rfl], fun hown => ?_⟩
        obtain ⟨container, hcontainer⟩ :=
          (h.nodes d (List.mem_of_getElem? hd)).holder (hspec ▸ hown)
        exact ⟨container, hholder.trans hcontainer⟩

variable (held) in
theorem carriedOut (h : Steady shared pairs c)
    (hrun : CarriedOut (BuildStep.act shared) steps c t (.ok ()) c') :
    Steady shared (pairsAfter held pairs t) c' := by
  generalize hr : (.ok () : Except Fault Unit) = ok at hrun
  induction hrun generalizing pairs with
  | done c => exact h
  | step ha _ ih =>
    rw [pairsAfter_append]
    exact ih (h.act ha) hr
  | stopped => cases hr

variable (held) in
/-- The step that fails. -/
theorem stopped (h : Steady shared pairs c)
    (hr : On.Runs (a.act shared) c l t (.error fault) c' l') :
    Anchored (some shared.name) (pairsAfter held pairs t) ∨
    ∃ w pid, w ∈ c'.wired ∧ (c'.nodes[w.node]?).bind (·.pid) = some pid ∧
      (∀ d ∈ c'.nodes, d.Removable) ∧
      WiredUpTo shared w pid t (.error fault) (pairsAfter held pairs t) := by
  cases a with
  | wire index side e =>
    rcases wiredUpTo_wire held h.anchored hr with anchored | ⟨w, pid, hpid, rfl, hwired⟩
    · exact .inl anchored
    · exact .inr ⟨w, pid, by simp, hpid, h.nodes, hwired⟩
  | share | bridge | node n | ready index => exact .inl (h.unwired held rfl hr)

end Steady

/-! ## The teardown -/

namespace Dismantled

theorem onlyRemoves (h : c.Dismantled t r) : OnlyRemoves held t := by
  obtain ⟨u, v, w, _, _, _, rfl, hlinks, hnodes, hshared, -⟩ := h
  have links : OnlyRemoves held u := by
    refine hlinks.onlyRemoves (fun _ h => h.elim) fun s hs => ?_
    obtain ⟨⟨scope, link⟩, -, rfl⟩ := List.mem_map.mp hs
    exact TeardownStep.onlyRemoves_deleteLink
  have shared : OnlyRemoves held w := by
    refine hshared.onlyRemoves (fun _ h => h.elim) fun s hs => ?_
    obtain ⟨ns, -, hs⟩ := List.mem_flatMap.mp hs
    simp only [List.mem_cons, List.not_mem_nil, or_false] at hs
    rcases hs with rfl | rfl
    · exact TeardownStep.onlyRemoves_deleteLink
    · rfl
  exact links.append (hnodes.onlyRemoves.append shared)

/-- The node's end of each pair is looked for on the host. -/
theorem mem_wired {w : WiredEnd} (h : c.Dismantled t r) (hw : w ∈ c.wired) :
    ∃ x ∈ t, x.request = .run (NetScope.host.enter ⟨"ip", ["link", "del", w.nodeEnd]⟩) := by
  obtain ⟨u, v, _, _, _, _, rfl, hlinks, -⟩ := h
  have hplace : (NetScope.host, w.nodeEnd) ∈ c.wired.reverse.flatMap c.wiredPlaces :=
    List.mem_flatMap.mpr ⟨w, List.mem_reverse.mpr hw, by simp [wiredPlaces]⟩
  obtain ⟨x, hx, hrequest⟩ := hlinks.mem (List.mem_map_of_mem hplace)
  exact ⟨x, List.mem_append_left _ hx, hrequest⟩

theorem mem_holder {d : Device} {container : String} (h : c.Dismantled t r) (hd : d ∈ c.nodes)
    (hstate : d.state ≠ .destroyed) (hown : d.spec.attach = false)
    (hholder : d.holder = some container) :
    ∃ x ∈ t, x.request = .run ⟨"docker", ["rm", "-f", container]⟩ := by
  obtain ⟨u, v, w, _, _, _, rfl, -, hnodes, -⟩ := h
  have hstep : .removeContainer container ∈ d.teardownSteps := by
    simp [Device.teardownSteps, hown, Device.containerSteps, hholder]
  obtain ⟨x, hx, hrequest⟩ := hnodes.mem (List.mem_reverse.mpr hd) hstate hstep
  exact ⟨x, by simp [hx], hrequest⟩

theorem mem_shared (h : c.Dismantled t r) (hs : c.shared = some shared) :
    ∃ x ∈ t, x.request = .run ⟨"ip", ["netns", "del", shared.name]⟩ := by
  obtain ⟨u, v, w, _, _, _, rfl, -, -, hshared, -⟩ := h
  have hstep : .deleteNamespace s!"delete namespace {shared.name}" shared ∈ c.sharedSteps := by
    simp [sharedSteps, hs]
  obtain ⟨x, hx, hrequest⟩ := hshared.mem hstep
  exact ⟨x, by simp [hx], hrequest⟩

end Dismantled

/-! ## What is left -/

/-- The namespaces that are held by a container of a node, told by their processes. -/
def heldBy (c : Controller) (container : String) : List String :=
  c.nodes.filterMap fun d => if d.holder = some container then d.pid.map toString else none

/-- A node that was attached to has its end of a pair, but the other end could not be moved to the
shared namespace. The node stays, and neither end is where the teardown looks for it. -/
structure Stranded (c : Controller) (t : Trace Host) (w : WiredEnd) (pid : Nat) : Prop where
  wired : w ∈ c.wired
  node : ∃ d, c.nodes[w.node]? = some d ∧ d.spec.attach = true ∧ d.pid = some pid
  move : ∃ shared u x, c.shared = some shared ∧ t = u ++ [x] ∧
    x.request = .run (w.moveCommand shared) ∧ x.succeeded = false

section Leftovers

variable {pairs : List VethPair} {w : WiredEnd} {pid : Nat}

/-- No pair with an end in the shared namespace is left. -/
theorem filter_of_anchored {before : List VethPair} (hc : c.Dismantled u r)
    (hs : c.shared = some shared) (ho : Obeyed held pairs u) (hb : before ⊆ pairs)
    (h : Anchored (some shared.name) before) :
    before.filter (fun p => !takenIn held u p) = [] := by
  refine List.filter_eq_nil_iff.mpr fun p hp => ?_
  obtain ⟨x, hx, hrequest⟩ := hc.mem_shared hs
  have htakes : x.takes held p = true := by
    rw [Exchange.takes_of_netns hrequest]
    exact h p hp
  simp [ho.takenIn hc.onlyRemoves (hb hp) hx htakes]

theorem taken_of_unmoved (hc : c.Dismantled u r) (hw : w ∈ c.wired) (ho : Obeyed held pairs u)
    (hp : w.pairAt none ∈ pairs) : takenIn held u (w.pairAt none) = true := by
  obtain ⟨x, hx, hrequest⟩ := hc.mem_wired hw
  refine ho.takenIn hc.onlyRemoves hp hx ?_
  rw [Exchange.takes_of_deleteLink hrequest]
  simp [VethPair.hasEnd, WiredEnd.pairAt, NetScope.target?]

theorem taken_of_halfway {d : Device} (hc : c.Dismantled u r) (hd : d ∈ c.nodes)
    (hremovable : d.Removable) (hown : d.spec.attach = false) (hpid : d.pid = some pid)
    (ho : Obeyed c.heldBy pairs u) (hp : w.pairAt (some (toString pid)) ∈ pairs) :
    takenIn c.heldBy u (w.pairAt (some (toString pid))) = true := by
  obtain ⟨container, hholder⟩ := hremovable.holder hown
  obtain ⟨x, hx, hrequest⟩ := hc.mem_holder hd hremovable.held hown hholder
  refine ho.takenIn hc.onlyRemoves hp hx ?_
  have hheld : toString pid ∈ c.heldBy container :=
    List.mem_filterMap.mpr ⟨d, hd, by simp [hholder, hpid]⟩
  rw [Exchange.takes_of_container hrequest, List.any_eq_true]
  exact ⟨_, hheld, VethPair.isIn_iff.mpr (.inl rfl)⟩

/-- What the teardown leaves when the wiring of an end failed. -/
theorem WiredUpTo.leftovers {fault : Fault} (h : WiredUpTo shared w pid t (.error fault) pairs)
    (hc : c.Dismantled u r) (hs : c.shared = some shared) (hw : w ∈ c.wired)
    (hpid : (c.nodes[w.node]?).bind (·.pid) = some pid) (hnodes : ∀ d ∈ c.nodes, d.Removable)
    (ho : Obeyed c.heldBy pairs u) :
    pairsAfter c.heldBy pairs u = [] ∨
      c.Stranded t w pid ∧ pairsAfter c.heldBy pairs u = [w.pairAt (some (toString pid))] := by
  have hremoves : OnlyRemoves c.heldBy u := hc.onlyRemoves
  rw [hremoves.pairsAfter_eq]
  cases h with
  | anchored h => exact .inl (filter_of_anchored hc hs ho (List.Subset.refl _) h)
  | @unmoved _ before h =>
    have hlast : w.pairAt none ∈ before ++ [w.pairAt none] :=
      List.mem_append_right before (List.mem_singleton_self _)
    rw [List.filter_append, filter_of_anchored hc hs ho (List.subset_append_left ..) h,
      List.nil_append, List.filter_singleton, taken_of_unmoved hc hw ho hlast]
    exact .inl rfl
  | @halfway _ before v x h ht hx hfailed =>
    obtain ⟨d, hd, hpid⟩ := Option.bind_eq_some_iff.mp hpid
    have hmem : d ∈ c.nodes := List.mem_of_getElem? hd
    have hlast : w.pairAt (some (toString pid)) ∈ before ++ [w.pairAt (some (toString pid))] :=
      List.mem_append_right before (List.mem_singleton_self _)
    rw [List.filter_append, filter_of_anchored hc hs ho (List.subset_append_left ..) h,
      List.nil_append, List.filter_singleton]
    cases htaken : takenIn c.heldBy u (w.pairAt (some (toString pid))) with
    | true => exact .inl rfl
    | false =>
      have hattach : d.spec.attach = true := by
        rw [← Bool.not_eq_false]
        intro hown
        rw [taken_of_halfway hc hmem (hnodes d hmem) hown hpid ho hlast] at htaken
        cases htaken
      exact .inr ⟨⟨hw, ⟨d, hd, hattach, hpid⟩, ⟨shared, v, x, hs, ht, hx, hfailed⟩⟩, rfl⟩

end Leftovers

/-- A build that fails is one of which a step fails, with the teardown after that. -/
theorem runs_build_failed_iff {fault : Fault} (hc : c.tornDown = false) (hb : c.built = false) :
    On.Runs build c l t (.error fault) c' l' ↔ ∃ u v c₁ l₁ r, t = u ++ v ∧
      On.Runs buildAll { c with built := true } l u (.error fault) c₁ l₁ ∧
      On.Runs teardown c₁ l₁ v r c' l' := by
  rw [build, On.runs_bind_get_iff]
  dsimp only
  rw [if_neg (by simp [hc]), if_neg (by simp [hb]), On.runs_bind_modify_iff,
    On.runs_bind_result_iff]
  constructor
  · rintro ⟨u, v, x, c₁, l₁, rfl, hall, hr⟩
    cases x with
    | ok a => cases (On.runs_pure_iff.mp hr).2.1
    | error e =>
      obtain ⟨v, w, r, c₂, l₂, rfl, hteardown, hr⟩ := On.runs_bind_result_iff.mp hr
      obtain ⟨rfl, hfault, rfl, rfl⟩ := On.runs_throw_iff.mp hr
      cases hfault
      rw [List.append_nil]
      exact ⟨u, v, c₁, l₁, r, rfl, hall, hteardown⟩
  · rintro ⟨u, v, c₁, l₁, r, rfl, hall, hteardown⟩
    refine ⟨u, v, .error fault, c₁, l₁, rfl, hall, ?_⟩
    rw [← List.append_nil v]
    exact On.runs_bind_result_iff.mpr
      ⟨v, [], r, c', l', rfl, hteardown, On.runs_throw_iff.mpr ⟨rfl, rfl, rfl, rfl⟩⟩

theorem Empty.leftovers {c₀ : Controller} {fault : Fault} {l₁ : Ledger} (hc₀ : Empty topology c₀)
    (hb : c₀.built = true) (hbuild : On.Runs buildAll c₀ l u (.error fault) c l₁)
    (hteardown : On.Runs teardown c l₁ v r c' l')
    (hobeyed : Obeyed c.heldBy (pairsAfter c.heldBy [] u) v) :
    pairsAfter c.heldBy [] (u ++ v) = [] ∨
      ∃ w pid, c.Stranded u w pid ∧
        pairsAfter c.heldBy [] (u ++ v) = [w.pairAt (some (toString pid))] := by
  have hrun := runs_buildAll hc₀ hb hbuild
  obtain ⟨done, a, rest, t₁, t₂, c₁, l₂, l₃, hplan, rfl, hdone, hstep⟩ := hrun.stopped_at
  have begun : Steady ⟨c₀.sharedName⟩ [] c₀ := ⟨hc₀.unadjusted, .nil, by simp [hc₀.nodes]⟩
  have steady := begun.carriedOut c.heldBy hdone
  have hend := runs_teardown hteardown
  cases done with
  | nil =>
    -- there is no shared namespace yet
    obtain ⟨rfl, -⟩ := List.cons.inj hplan
    cases hdone
    rcases runs_share hstep with ⟨rfl, -⟩ | ⟨-, hx⟩
    case inr => cases hx
    rw [hc₀.held, if_neg Bool.false_ne_true] at hend
    have hmaking : OnlyRemoves c.heldBy t₂ := onlyRemoves_act rfl hc₀.unadjusted hstep
    exact .inl (hmaking.append hend.1.onlyRemoves).pairsAfter_eq
  | cons b done =>
    obtain ⟨rfl, -⟩ := List.cons.inj hplan
    have hall : BuildStep.share :: (done ++ a :: rest) ++ [] = topology.plan := by
      simpa using hplan.symm
    have hne : a ≠ .share := fun ha => share_not_mem hall (by simp [ha])
    obtain ⟨sound, -⟩ := (hc₀.progress hb hdone hplan.symm).act hne hplan.symm hstep
    rw [sound.held, if_neg Bool.false_ne_true] at hend
    simp only [pairsAfter_append] at hobeyed ⊢
    rcases steady.stopped c.heldBy hstep with h | ⟨w, pid, hw, hpid, hnodes, h⟩
    · refine .inl ?_
      rw [hend.1.onlyRemoves.pairsAfter_eq]
      exact filter_of_anchored hend.1 sound.shared hobeyed (List.Subset.refl _) h
    · rcases h.before.leftovers hend.1 sound.shared hw hpid hnodes hobeyed with h | ⟨h, hleft⟩
      · exact .inl h
      · exact .inr ⟨w, pid, h, hleft⟩

/-- Whatever fails while a topology is built, the teardown leaves no pair if what it does with pairs
that are there succeeds, but for one: the pair whose end could not be moved to the shared namespace
when the other was moved to a node that was attached to. All builds that fail are of this kind, by
`runs_build_failed_iff`. -/
theorem buildAll_leftovers {retryInterval : Duration} {fault : Fault} {l₁ : Ledger}
    (hbuild : On.Runs buildAll { new topology options with retryInterval, built := true } l u
      (.error fault) c l₁)
    (hteardown : On.Runs teardown c l₁ v r c' l')
    (hobeyed : Obeyed c.heldBy (pairsAfter c.heldBy [] u) v) :
    On.Runs build { new topology options with retryInterval } l (u ++ v) (.error fault) c' l' ∧
    (pairsAfter c.heldBy [] (u ++ v) = [] ∨
      ∃ w pid, c.Stranded u w pid ∧
        pairsAfter c.heldBy [] (u ++ v) = [w.pairAt (some (toString pid))]) := by
  have fresh : Empty topology { new topology options with retryInterval, built := true } :=
    ⟨rfl, rfl, rfl, rfl, rfl, rfl⟩
  exact ⟨(runs_build_failed_iff rfl rfl).mpr ⟨u, v, c, l₁, r, rfl, hbuild, hteardown⟩,
    fresh.leftovers rfl hbuild hteardown hobeyed⟩

end Controller

end SwitchLab

/-! ## Ends that are moved, and one that is not

Of the same topology, once both ends of all pairs are where they belong, and once the first pair is
still on the host with one end. -/

namespace SwitchLab.HalfWired

open Controller

/-- What there is when the second node's end cannot be renamed. -/
def stopped : Controller :=
  let made (name : String) (attach : Bool) (pid : Nat) (holder : Option String) : Device :=
    { Device.absent ((new topology options).nodeSpec ⟨name, none, none, none⟩ attach) with
      state := .creating
      pid := some pid
      holder }
  { new topology options with
    shared := some ⟨"lab-topo"⟩
    nodes := [made "a" true 7 none, made "b" false 9 (some "b-ns")]
    wired := [⟨0, "eth1", "lab0a0", "lab0a1"⟩, ⟨1, "eth2", "lab0b0", "lab0b1"⟩]
    built := true }

def busy : Fault := .cleanup ["destroy b: cleanup incomplete: remove /m/b: " ++
  "command `rm -rf /m/b` exited with 1: Device or resource busy"]

theorem runs_buildAll : On.Runs buildAll { new topology options with built := true } .empty
    (sharing ++ attaching ++ making ++ wiring) (.error fault) stopped .empty :=
  runs_of_face (keeps_buildAll allowsAll allowsAllMounts fun _ _ => trivial)
    ⟨rfl, rfl, rfl, List.forall_mem_nil _⟩ rfl (by decide +kernel)

theorem runs_teardown : On.Runs teardown stopped .empty dismantling (.error busy) ended .empty :=
  runs_of_face (keeps_teardown allowsAll allowsAllMounts) ⟨rfl, rfl, rfl, by decide⟩ rfl
    (by decide +kernel)

theorem obeyed : Obeyed stopped.heldBy
    (pairsAfter stopped.heldBy [] (sharing ++ attaching ++ making ++ wiring)) dismantling := by
  decide +kernel

theorem dismantling_leftovers :
    On.Runs buildAll { new topology options with built := true } .empty
      (sharing ++ attaching ++ making ++ wiring) (.error fault) stopped .empty ∧
    On.Runs teardown stopped .empty dismantling (.error busy) ended .empty ∧
    Obeyed stopped.heldBy
      (pairsAfter stopped.heldBy [] (sharing ++ attaching ++ making ++ wiring)) dismantling ∧
    On.Runs build (new topology options) .empty
      (sharing ++ attaching ++ making ++ wiring ++ dismantling) (.error fault) ended .empty ∧
    (pairsAfter stopped.heldBy [] (sharing ++ attaching ++ making ++ wiring ++ dismantling) = [] ∨
      ∃ w pid, stopped.Stranded (sharing ++ attaching ++ making ++ wiring) w pid ∧
        pairsAfter stopped.heldBy [] (sharing ++ attaching ++ making ++ wiring ++ dismantling) =
          [w.pairAt (some (toString pid))]) :=
  ⟨runs_buildAll, runs_teardown, obeyed, buildAll_leftovers runs_buildAll runs_teardown obeyed⟩

end SwitchLab.HalfWired

namespace SwitchLab.HalfMoved

open Controller
open HalfWired (topology options inShared sharing attaching making ended runs_of_face allowsAll
  allowsAllMounts)

/-- The node `a` that was attached to has its end. -/
def wiring : Trace Host :=
  [silently "ip" ["link", "del", "lab0a0"], inShared ["del", "lab0a1"],
    silently "nsenter" ["-t", "7", "-n", "ip", "link", "del", "eth1"],
    silently "ip" ["link", "add", "lab0a0", "type", "veth", "peer", "name", "lab0a1"],
    silently "ip" ["link", "set", "lab0a0", "netns", "7"],
    Command.ran ⟨"ip", ["link", "set", "lab0a1", "netns", "lab-topo"]⟩
      (.ok ⟨2, "", "RTNETLINK answers: Invalid argument"⟩)]

/-- No end is found. -/
def dismantling : Trace Host :=
  [Command.ran ⟨"ip", ["link", "del", "lab0a0"]⟩ (.ok ⟨1, "", "Cannot find device"⟩),
    Command.ran ⟨"ip", ["netns", "exec", "lab-topo", "ip", "link", "del", "lab0a1"]⟩
      (.ok ⟨1, "", "Cannot find device"⟩),
    Command.ran ⟨"nsenter", ["-t", "7", "-n", "ip", "link", "del", "eth1"]⟩
      (.ok ⟨1, "", "Cannot find device"⟩),
    silently "docker" ["rm", "-f", "b"], silently "docker" ["rm", "-f", "b-ns"],
    silently "rm" ["-rf", "/m/b"], inShared ["del", "topobr0"],
    silently "ip" ["netns", "del", "lab-topo"]]

def fault : Fault :=
  .command "[host] ip link set lab0a1 netns lab-topo" 2 "RTNETLINK answers: Invalid argument"

def stopped : Controller :=
  { HalfWired.stopped with wired := [⟨0, "eth1", "lab0a0", "lab0a1"⟩] }

theorem runs_build : On.Runs build (new topology options) .empty
    (sharing ++ attaching ++ making ++ wiring ++ dismantling) (.error fault) ended .empty := by
  have all : On.Runs buildAll { new topology options with built := true } .empty
      (sharing ++ attaching ++ making ++ wiring) (.error fault) stopped .empty :=
    runs_of_face (keeps_buildAll allowsAll allowsAllMounts fun _ _ => trivial)
      ⟨rfl, rfl, rfl, List.forall_mem_nil _⟩ rfl (by decide +kernel)
  have none : On.Runs teardown stopped .empty dismantling (.ok ()) ended .empty :=
    runs_of_face (keeps_teardown allowsAll allowsAllMounts) ⟨rfl, rfl, rfl, by decide⟩ rfl
      (by decide +kernel)
  exact (runs_build_failed_iff rfl rfl).mpr ⟨_, _, _, _, _, rfl, all, none⟩

/-- The pair is there after the build, and all the teardown does succeeds but for what it does not
find. -/
theorem pair_stays :
    On.Runs build (new topology options) .empty
      (sharing ++ attaching ++ making ++ wiring ++ dismantling) (.error fault) ended .empty ∧
    Obeyed stopped.heldBy
      (pairsAfter stopped.heldBy [] (sharing ++ attaching ++ making ++ wiring)) dismantling ∧
    pairsAfter stopped.heldBy [] (sharing ++ attaching ++ making ++ wiring ++ dismantling) =
      [⟨⟨some "7", "lab0a0"⟩, ⟨none, "lab0a1"⟩⟩] :=
  ⟨runs_build, by decide +kernel, by decide +kernel⟩

end SwitchLab.HalfMoved
