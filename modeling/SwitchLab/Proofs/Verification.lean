import SwitchLab.Proofs.Commands
import SwitchLab.Proofs.Ordering
import SwitchLab.Topology.Controller

/-! What a good report tells of a topology. Every step that a run leaves out or
that fails is in the report, but for the ports of a node that cannot be listed:
a listing that fails shows none, and none are set. -/

namespace SwitchLab

variable {l l' : Ledger} {t v : Trace Host}

/-! ## Steps that succeed -/

namespace NetScope

def linkCommand (s : NetScope) (link : String) (isUp : Bool) : Command :=
  s.enter ⟨"ip", ["link", "set", "dev", link, if isUp then "up" else "down"]⟩

def addressCommand (s : NetScope) (link cidr : String) : Command :=
  s.enter ⟨"ip", ["addr", "add", cidr, "dev", link]⟩

/-- The address is added, or found to be there. -/
def Addressed (s : NetScope) (link cidr : String) (t : Trace Host) : Prop :=
  ∃ output : Output, t = [(s.addressCommand link cidr).ran (.ok output)] ∧
    (output.success || Text.occursIn "File exists" output.combined) = true

theorem runs_addAddress_ok {s : NetScope} {link cidr : String}
    (hr : Attempt.Runs (s.addAddress link cidr) l t (.ok ()) l') : s.Addressed link cidr t := by
  obtain ⟨u, v, output, l₁, rfl, hu, hv⟩ := Attempt.runs_bind_ok_iff.mp hr
  obtain ⟨reply, rfl, -, hreply⟩ := (calls_exec _ _ _ _).mp hu
  obtain rfl : reply = .ok output := hreply.symm
  split at hv
  case isTrue hthere =>
    obtain ⟨rfl, -⟩ := Attempt.runs_pure_iff.mp hv
    exact ⟨output, rfl, hthere⟩
  case isFalse =>
    cases (Attempt.runs_throw_iff.mp hv).2.1

end NetScope

namespace Database

/-- A port of the configuration is given a status. -/
def adminSet (db : Database) (port : String) (status : AdminStatus) : Exchange Host :=
  db.merged "PORT" port (.ofPairs [("admin_status", status.text)]) (.ok ())

/-- A port of the configuration gets a router interface with an address. -/
def interfaceSet (db : Database) (port cidr : String) : Trace Host :=
  [db.merged "INTERFACE" port (.ofPairs [("NULL", "NULL")]) (.ok ()),
    db.merged "INTERFACE" s!"{port}|{cidr}" (.ofPairs [("NULL", "NULL")]) (.ok ())]

end Database

namespace Device

variable {d : Device}

theorem runs_storesFor_iff {operation : String} {r : Except Fault Stores} :
    Attempt.Runs (d.storesFor operation) l t r l' ↔ t = [] ∧ l' = l ∧
      r = d.stores.elim (.error (d.refuse operation)) .ok := by
  rw [storesFor]
  cases d.stores with
  | none => exact Attempt.runs_throw_iff.trans (by simp [and_comm])
  | some stores => exact Attempt.runs_pure_iff.trans (by simp [and_comm])

theorem runs_configDb_iff {r : Except Fault Handle} :
    Attempt.Runs d.configDb l t r l' ↔ t = [] ∧ l' = l ∧
      r = d.stores.elim (.error (d.refuse "config_db")) fun stores => .ok stores.config := by
  rw [configDb, Attempt.runs_bind_iff]
  simp only [runs_storesFor_iff, Attempt.runs_pure_iff]
  cases d.stores with
  | none =>
    simp only [Option.elim]
    constructor
    · rintro (⟨_, _, _, _, _, ⟨_, _, hr⟩, _⟩ | ⟨e, rfl, rfl, rfl, hr⟩)
      · cases hr
      · cases hr
        exact ⟨rfl, rfl, rfl⟩
    · rintro ⟨rfl, rfl, rfl⟩
      exact .inr ⟨_, rfl, rfl, rfl, rfl⟩
  | some stores =>
    simp only [Option.elim]
    constructor
    · rintro (⟨_, _, _, _, rfl, ⟨rfl, rfl, hs⟩, rfl, rfl, rfl⟩ | ⟨_, _, _, _, hr⟩)
      · cases hs
        exact ⟨rfl, rfl, rfl⟩
      · cases hr
    · rintro ⟨rfl, rfl, rfl⟩
      exact .inl ⟨[], [], stores, l', rfl, ⟨rfl, rfl, rfl⟩, rfl, rfl, rfl⟩

end Device

/-! ## The parts of a report -/

namespace Controller

variable {c : Controller} {count : Nat} {e source target : Endpoint} {n : Node} {link : Link}

theorem runs_failureText_nil {α : Type} {describe : Fault → String} {work : Attempt α}
    (hr : Lab.Runs (failureText describe work) l t [] l') :
    ∃ a, Attempt.Runs work l t (.ok a) l' := by
  obtain ⟨u, v, r, l₁, rfl, hu, hv⟩ := Lab.runs_bind_iff.mp hr
  cases r with
  | ok a =>
    obtain ⟨rfl, -, rfl⟩ := Lab.runs_pure_iff.mp hv
    exact ⟨a, by rwa [List.append_nil]⟩
  | error fault => cases (Lab.runs_pure_iff.mp hv).2.1

/-- The interface goes down and comes up, and gets the address that no port takes. -/
def Bounced (scope : NetScope) (e : Endpoint) (t : Trace Host) : Prop :=
  ∃ down up rest, t = down :: up :: rest ∧ (scope.linkCommand e.iface false).Done down ∧
    (scope.linkCommand e.iface true).Done up ∧
    ∀ address, e.address = some address → e.port = none → scope.Addressed e.iface address rest

theorem runs_bounce_ok {scope : NetScope} (hr : Attempt.Runs (bounce scope e) l t (.ok ()) l') :
    Bounced scope e t := by
  obtain ⟨_, _, ⟨⟩, l₁, rfl, hfirst, hlater⟩ := Attempt.runs_bind_ok_iff.mp hr
  obtain ⟨_, rest, ⟨⟩, l₂, rfl, hsecond, haddress⟩ := Attempt.runs_bind_ok_iff.mp hlater
  obtain ⟨down, rfl, hdown⟩ := NetScope.runs_run_ok hfirst
  obtain ⟨up, rfl, hup⟩ := NetScope.runs_run_ok hsecond
  refine ⟨down, up, rest, rfl, hdown, hup, fun address ha hp => ?_⟩
  simp only [ha, hp] at haddress
  exact NetScope.runs_addAddress_ok haddress

theorem runs_bringUp_nil (hr : Lab.Runs (c.bringUp e) l t [] l') :
    ∃ node pid, c.node? e.node = some node ∧ node.pid = some pid ∧ Bounced (.ofPid pid) e t := by
  rw [bringUp] at hr
  cases hn : c.node? e.node with
  | none =>
    rw [hn] at hr
    cases (Lab.runs_pure_iff.mp hr).2.1
  | some node =>
    simp only [hn] at hr
    cases hp : node.pid with
    | none =>
      simp only [hp] at hr
      cases (Lab.runs_pure_iff.mp hr).2.1
    | some pid =>
      simp only [hp] at hr
      obtain ⟨⟨⟩, hb⟩ := runs_failureText_nil hr
      exact ⟨node, pid, rfl, hp, runs_bounce_ok hb⟩

/-! Ports. -/

theorem runs_setAdmin_nil {node : Device} {port : String} {status : AdminStatus}
    (hr : Lab.Runs (setAdmin node port status) l t [] l') :
    ∃ stores, node.stores = some stores ∧ t = [stores.config.db.adminSet port status] := by
  obtain ⟨⟨⟩, hr⟩ := runs_failureText_nil hr
  obtain ⟨_, _, db, l₁, rfl, hget, hput⟩ := Attempt.runs_bind_ok_iff.mp hr
  obtain ⟨rfl, rfl, hdb⟩ := Device.runs_configDb_iff.mp hget
  cases hs : node.stores with
  | none => simp [hs] at hdb
  | some stores =>
    obtain rfl : db = stores.config := by simpa [hs] using hdb
    obtain ⟨rfl, -⟩ := Handle.runs_putEntry_iff.mp hput
    exact ⟨stores, rfl, rfl⟩

theorem runs_setAdmins_nil {node : Device} {stores : Stores} {status : AdminStatus}
    {ports : List String} {failures : List (List String)} (hs : node.stores = some stores)
    (hr : Lab.Runs (ports.mapM fun port => setAdmin node port status) l t failures l')
    (hnone : failures.flatten = []) : t = ports.map (stores.config.db.adminSet · status) := by
  induction ports generalizing l t failures with
  | nil =>
    rw [List.mapM_nil] at hr
    exact (Lab.runs_pure_iff.mp hr).1
  | cons port ports ih =>
    rw [List.mapM_cons] at hr
    obtain ⟨u, _, first, l₁, rfl, hu, hr⟩ := Lab.runs_bind_iff.mp hr
    obtain ⟨v, _, rest, l₂, rfl, hv, hr⟩ := Lab.runs_bind_iff.mp hr
    obtain ⟨rfl, rfl, rfl⟩ := Lab.runs_pure_iff.mp hr
    rw [List.flatten_cons, List.append_eq_nil_iff] at hnone
    obtain ⟨rfl, hrest⟩ := hnone
    obtain ⟨stores', hs', rfl⟩ := runs_setAdmin_nil hu
    obtain rfl : stores = stores' := Option.some.inj (hs.symm.trans hs')
    simp [ih hv hrest]

theorem runs_configuredPorts {node : Device} {r : Except Fault (List String)}
    (hr : Attempt.Runs (configuredPorts node) l t r l') :
    node.stores = none ∧ t = [] ∧ r.toOption = none ∨
    ∃ stores x, node.stores = some stores ∧ t = [stores.config.db.listed "PORT" x] ∧
      r = x.map (stores.config.db.keysIn "PORT") := by
  rcases Attempt.runs_bind_iff.mp hr with ⟨_, _, db, l₁, rfl, hget, hkeys⟩ | ⟨fault, rfl, hget⟩
  · obtain ⟨rfl, rfl, hdb⟩ := Device.runs_configDb_iff.mp hget
    cases hs : node.stores with
    | none => simp [hs] at hdb
    | some stores =>
      obtain rfl : db = stores.config := by simpa [hs] using hdb
      obtain ⟨x, rfl, rfl, -⟩ := Handle.runs_getKeys_iff.mp hkeys
      exact .inr ⟨stores, x, rfl, rfl, rfl⟩
  · obtain ⟨rfl, rfl, hdb⟩ := Device.runs_configDb_iff.mp hget
    cases hs : node.stores with
    | none => exact .inl ⟨rfl, rfl, rfl⟩
    | some stores => simp [hs] at hdb

/-- All ports that a listing of the configuration shows are given the status. -/
def StatusGiven (db : Database) (status : AdminStatus) (t : Trace Host) : Prop :=
  ∃ raw, t = db.listed "PORT" (.ok raw) :: (db.keysIn "PORT" raw).map (db.adminSet · status)

/-- How a node comes by no status: it is not held, it has no handles on its databases, or its ports
cannot be listed. -/
inductive StatusSkipped (c : Controller) (name : String) : Trace Host → Prop where
  | notHeld : c.node? name = none → StatusSkipped c name []
  | noStores {node : Device} : c.node? name = some node → node.stores = none →
    StatusSkipped c name []
  | unlisted {node : Device} {stores : Stores} {fault : Fault} : c.node? name = some node →
    node.stores = some stores →
    StatusSkipped c name [stores.config.db.listed "PORT" (.error fault)]

theorem runs_setNodeAdmin_nil {status : AdminStatus} (hn : n.admin = some status)
    (hr : Lab.Runs (c.setNodeAdmin n) l t [] l') :
    (∃ node stores, c.node? n.name = some node ∧ node.stores = some stores ∧
      StatusGiven stores.config.db status t) ∨ StatusSkipped c n.name t := by
  rw [setNodeAdmin] at hr
  cases hnode : c.node? n.name with
  | none =>
    simp only [hn, hnode] at hr
    obtain ⟨rfl, -⟩ := Lab.runs_pure_iff.mp hr
    exact .inr (.notHeld hnode)
  | some node =>
    simp only [hn, hnode] at hr
    obtain ⟨u, _, x, l₁, rfl, hports, hr⟩ := Lab.runs_bind_iff.mp hr
    obtain ⟨v, _, failures, l₂, rfl, hset, hr⟩ := Lab.runs_bind_iff.mp hr
    obtain ⟨rfl, hnone, rfl⟩ := Lab.runs_pure_iff.mp hr
    rcases runs_configuredPorts hports with ⟨hs, rfl, hx⟩ | ⟨stores, raw, hs, rfl, rfl⟩
    · rw [hx, Option.getD_none, List.mapM_nil] at hset
      obtain ⟨rfl, -⟩ := Lab.runs_pure_iff.mp hset
      exact .inr (.noStores hnode hs)
    · cases raw with
      | ok raw =>
        obtain rfl := runs_setAdmins_nil hs hset hnone.symm
        exact .inl ⟨node, stores, rfl, hs, raw, by simp [Except.map, Except.toOption]⟩
      | error fault =>
        obtain ⟨rfl, -⟩ := Lab.runs_pure_iff.mp hset
        exact .inr (.unlisted hnode hs)

theorem runs_setEndpointAdmin_nil {node : Device} {port : String} {status : AdminStatus}
    (hnode : c.node? e.node = some node) (hport : e.port = some port)
    (hadmin : e.admin = some status) (hr : Lab.Runs (c.setEndpointAdmin e) l t [] l') :
    ∃ stores, node.stores = some stores ∧ t = [stores.config.db.adminSet port status] := by
  simp only [setEndpointAdmin, hport, hadmin, hnode] at hr
  exact runs_setAdmin_nil hr

theorem runs_addressPort_nil {node : Device} {port address : String}
    (hnode : c.node? e.node = some node) (hport : e.port = some port)
    (haddress : e.address = some address) (hr : Lab.Runs (c.addressPort e) l t [] l') :
    ∃ stores, node.stores = some stores ∧ t = stores.config.db.interfaceSet port address := by
  simp only [addressPort, hport, haddress, hnode] at hr
  obtain ⟨⟨⟩, hr⟩ := runs_failureText_nil hr
  obtain ⟨_, _, db, l₁, rfl, hget, hputs⟩ := Attempt.runs_bind_ok_iff.mp hr
  obtain ⟨_, _, ⟨⟩, l₂, rfl, hfirst, hsecond⟩ := Attempt.runs_bind_ok_iff.mp hputs
  obtain ⟨rfl, -, hdb⟩ := Device.runs_configDb_iff.mp hget
  obtain ⟨rfl, -⟩ := Handle.runs_putEntry_iff.mp hfirst
  obtain ⟨rfl, -⟩ := Handle.runs_putEntry_iff.mp hsecond
  cases hs : node.stores with
  | none => simp [hs] at hdb
  | some stores =>
    obtain rfl : db = stores.config := by simpa [hs] using hdb
    exact ⟨stores, rfl, rfl⟩

/-! Probes and logs. -/

def pingCommand (scope : NetScope) (source : Endpoint) (address : String) (count : Nat) :
    Command :=
  scope.enter ⟨"ping", ["-c", toString count, "-i", "0.2", "-W", "1", "-I",
    source.sourceInterface, address]⟩

/-- An address is pinged from the namespace, and nothing is lost. -/
def Answered (scope : NetScope) (source : Endpoint) (address : String) (count : Nat)
    (t : Trace Host) : Prop :=
  ∃ output : Output, t = [(pingCommand scope source address count).ran (.ok output)] ∧
    (PingReport.ofText output.stdout count).allReceived = true

theorem runs_pingFrom_ok {address : String} {report : PingReport}
    (hr : Attempt.Runs (c.pingFrom source address count) l t (.ok report) l')
    (hall : report.allReceived = true) :
    ∃ node pid, c.node? source.node = some node ∧ node.pid = some pid ∧
      Answered (.ofPid pid) source address count t := by
  rw [pingFrom] at hr
  cases hn : c.node? source.node with
  | none =>
    simp only [hn] at hr
    cases (Attempt.runs_throw_iff.mp hr).2.1
  | some node =>
    simp only [hn] at hr
    cases hp : node.pid with
    | none =>
      simp only [hp] at hr
      cases (Attempt.runs_throw_iff.mp hr).2.1
    | some pid =>
      simp only [hp] at hr
      obtain ⟨_, _, output, l₁, rfl, hexec, hreport⟩ := Attempt.runs_bind_ok_iff.mp hr
      obtain ⟨rfl, hreport, -⟩ := Attempt.runs_pure_iff.mp hreport
      obtain ⟨reply, rfl, -, hreply⟩ := (NetScope.calls_exec _ _ _ _).mp hexec
      obtain rfl : reply = .ok output := hreply.symm
      cases hreport
      exact ⟨node, pid, rfl, hp, output, rfl, hall⟩

theorem runs_probe_good {address : String} {probes : List Probe}
    (haddress : target.hostAddress = some address)
    (hr : Lab.Runs (c.probe count link source target) l t (probes, []) l')
    (hall : ∀ p ∈ probes, p.report.allReceived = true) :
    ∃ node pid, c.node? source.node = some node ∧ node.pid = some pid ∧
      Answered (.ofPid pid) source address count t := by
  simp only [probe, haddress] at hr
  obtain ⟨u, v, r, l₁, rfl, hping, hr⟩ := Lab.runs_bind_iff.mp hr
  cases r with
  | ok report =>
    obtain ⟨rfl, hprobes, -⟩ := Lab.runs_pure_iff.mp hr
    cases hprobes
    rw [List.append_nil]
    exact runs_pingFrom_ok hping (hall _ (List.mem_singleton_self _))
  | error fault =>
    obtain ⟨-, hprobes, -⟩ := Lab.runs_pure_iff.mp hr
    cases hprobes

theorem runs_scanLog_good {node : Device} (hr : Lab.Runs (scanLog node) l t ([], []) l') :
    ∃ output : Output, t = [Command.ran ⟨"docker", ["logs", node.name]⟩ (.ok output)] ∧
      output.success = true ∧
      ∀ line ∈ Text.lines output.combined, Report.tellsCrash line = false := by
  obtain ⟨u, v, r, l₁, rfl, hlogs, hscan⟩ := Lab.runs_bind_iff.mp hr
  obtain ⟨reply, rfl, -, hreply⟩ := (Container.calls_logs _ _ _ _).mp hlogs
  cases hc : checked (Command.render ⟨"docker", ["logs", node.name]⟩) reply with
  | error fault =>
    obtain rfl : r = .error fault := by simpa [hc, Except.bind] using hreply
    cases (Lab.runs_pure_iff.mp hscan).2.1
  | ok output =>
    obtain rfl : r = .ok output.combined := by simpa [hc, Except.bind] using hreply
    obtain ⟨rfl, hx, -⟩ := Lab.runs_pure_iff.mp hscan
    obtain ⟨rfl, hsuccess⟩ := checked_eq_ok_iff.mp hc
    refine ⟨output, rfl, hsuccess, fun line hline => ?_⟩
    have hnone : Report.crashesIn node.name output.combined = [] := (Prod.mk.inj hx).1.symm
    rw [Report.crashesIn, List.map_eq_nil_iff, List.filter_eq_nil_iff] at hnone
    exact eq_false_of_ne_true (hnone line hline)

/-! ## The whole report -/

/-- What a run did that verified a topology; the ports of whole nodes aside. -/
structure Verified (c : Controller) (count : Nat) (t : Trace Host) : Prop where
  up : ∀ e ∈ c.topology.endpoints, ∃ node pid v, c.node? e.node = some node ∧
    node.pid = some pid ∧ v <:+: t ∧ Bounced (.ofPid pid) e v
  addressed : ∀ e ∈ c.topology.endpoints, ∀ address port, e.address = some address →
    e.port = some port → ∃ node stores, c.node? e.node = some node ∧ node.stores = some stores ∧
      stores.config.db.interfaceSet port address <:+: t
  set : ∀ e ∈ c.topology.endpoints, ∀ port status, e.port = some port → e.admin = some status →
    ∃ node stores, c.node? e.node = some node ∧ node.stores = some stores ∧
      [stores.config.db.adminSet port status] <:+: t
  probed : ∀ link ∈ c.topology.links, ∀ ends ∈ [(link.a, link.b), (link.b, link.a)],
    ∀ address, ends.2.hostAddress = some address → ∃ node pid v,
      c.node? ends.1.node = some node ∧ node.pid = some pid ∧ v <:+: t ∧
      Answered (.ofPid pid) ends.1 address count v
  quiet : ∀ node ∈ c.nodes, ∃ output : Output,
    [Command.ran ⟨"docker", ["logs", node.name]⟩ (.ok output)] <:+: t ∧ output.success = true ∧
      ∀ line ∈ Text.lines output.combined, Report.tellsCrash line = false

/-- The passes of a run that verifies a topology, all without a finding. -/
theorem runs_verify_passed {report : Report} (hr : Lab.Runs (c.verify count) l t report l')
    (hp : report.passed = true) :
    (∀ e ∈ c.topology.endpoints, Lab.RunsIn (c.bringUp e) t []) ∧
    (∀ n ∈ c.topology.nodes, Lab.RunsIn (c.setNodeAdmin n) t []) ∧
    (∀ e ∈ c.topology.endpoints, Lab.RunsIn (c.setEndpointAdmin e) t []) ∧
    (∀ e ∈ c.topology.endpoints, Lab.RunsIn (c.addressPort e) t []) ∧
    (∀ link ∈ c.topology.links, ∃ probes, Lab.RunsIn (c.probeLink count link) t (probes, []) ∧
      ∀ p ∈ probes, p.report.allReceived = true) ∧
    (∀ node ∈ c.nodes, Lab.RunsIn (scanLog node) t ([], [])) := by
  have h : Lab.RunsIn (c.verify count) t report := ⟨t, l, l', List.infix_rfl, hr⟩
  obtain ⟨up, hup, h⟩ := h.of_bind
  obtain ⟨nodes, hnodes, h⟩ := h.of_bind
  obtain ⟨ports, hports, h⟩ := h.of_bind
  obtain ⟨addresses, haddresses, h⟩ := h.of_bind
  obtain ⟨probes, hprobes, h⟩ := h.of_bind
  obtain ⟨logs, hlogs, h⟩ := h.of_bind
  obtain rfl := h.of_pure
  simp only [Report.passed, Bool.and_eq_true, List.isEmpty_iff, List.append_eq_nil_iff,
    List.flatten_eq_nil_iff, List.flatMap_eq_nil_iff, List.all_eq_true, List.mem_flatMap] at hp
  obtain ⟨⟨⟨⟨⟨⟨⟨hup₀, hnodes₀⟩, hports₀⟩, haddresses₀⟩, hprobes₀⟩, hlogs₀⟩, hcrashes₀⟩, hall⟩ := hp
  -- a pass without a finding has none for any item
  have quiet {α : Type} {f : α → Lab (List String)} {items : List α} {results : List (List String)}
      (hm : Lab.RunsIn (items.mapM f) t results) (hnone : ∀ x ∈ results, x = []) :
      ∀ a ∈ items, Lab.RunsIn (f a) t [] := by
    intro a ha
    obtain ⟨x, hx, hr⟩ := hm.of_mapM a ha
    rwa [hnone x hx] at hr
  refine ⟨quiet hup hup₀, quiet hnodes hnodes₀, quiet hports hports₀, quiet haddresses haddresses₀,
    fun link hlink => ?_, fun node hnode => ?_⟩
  · obtain ⟨⟨found, errors⟩, hx, hr⟩ := hprobes.of_mapM link hlink
    obtain rfl : errors = [] := hprobes₀ _ hx
    exact ⟨found, hr, fun p hp => hall p ⟨_, hx, hp⟩⟩
  · obtain ⟨⟨crashes, errors⟩, hx, hr⟩ := hlogs.of_mapM node hnode
    obtain rfl : errors = [] := hlogs₀ _ hx
    obtain rfl : crashes = [] := hcrashes₀ _ hx
    exact hr

/-- A link that was probed without a finding answered from both sides. -/
theorem runsIn_probeLink_good {probes : List Probe}
    (hr : Lab.RunsIn (c.probeLink count link) t (probes, []))
    (hall : ∀ p ∈ probes, p.report.allReceived = true) :
    ∀ ends ∈ [(link.a, link.b), (link.b, link.a)], ∀ address,
      ends.2.hostAddress = some address → ∃ node pid v, c.node? ends.1.node = some node ∧
        node.pid = some pid ∧ v <:+: t ∧ Answered (.ofPid pid) ends.1 address count v := by
  obtain ⟨⟨there, errors⟩, hthere, hr⟩ := hr.of_bind
  obtain ⟨⟨back, more⟩, hback, hr⟩ := hr.of_bind
  obtain ⟨rfl, hnone⟩ := Prod.mk.inj hr.of_pure
  obtain ⟨rfl, rfl⟩ := List.append_eq_nil_iff.mp hnone.symm
  have answered {source target : Endpoint} {probes : List Probe}
      (hr : Lab.RunsIn (c.probe count link source target) t (probes, []))
      (hall : ∀ p ∈ probes, p.report.allReceived = true) {address : String}
      (ha : target.hostAddress = some address) : ∃ node pid v,
        c.node? source.node = some node ∧ node.pid = some pid ∧ v <:+: t ∧
          Answered (.ofPid pid) source address count v := by
    obtain ⟨v, l, l', hv, hr⟩ := hr
    obtain ⟨node, pid, hn, hpid, hans⟩ := runs_probe_good ha hr hall
    exact ⟨node, pid, v, hn, hpid, hv, hans⟩
  intro ends hends address ha
  simp only [List.mem_cons, List.not_mem_nil, or_false] at hends
  rcases hends with rfl | rfl
  · exact answered hthere (fun p hp => hall p (by simp [hp])) ha
  · exact answered hback (fun p hp => hall p (by simp [hp])) ha

/-- A report that passes tells of all steps. Only a status that is declared for a whole node may
have been left out: by a node that is not held, that has no handles on its databases, or whose
ports could not be listed. -/
theorem passed_verified {report : Report} (hr : Lab.Runs (c.verify count) l t report l')
    (hp : report.passed = true) :
    c.Verified count t ∧
      ∀ n ∈ c.topology.nodes, ∀ status, n.admin = some status → ∃ v, v <:+: t ∧
        ((∃ node stores, c.node? n.name = some node ∧ node.stores = some stores ∧
          StatusGiven stores.config.db status v) ∨ c.StatusSkipped n.name v) := by
  obtain ⟨hup, hnodes, hports, haddresses, hprobes, hlogs⟩ := runs_verify_passed hr hp
  have held : ∀ e ∈ c.topology.endpoints, ∃ node pid v, c.node? e.node = some node ∧
      node.pid = some pid ∧ v <:+: t ∧ Bounced (.ofPid pid) e v := by
    intro e he
    obtain ⟨v, l, l', hv, hr⟩ := hup e he
    obtain ⟨node, pid, hnode, hpid, hb⟩ := runs_bringUp_nil hr
    exact ⟨node, pid, v, hnode, hpid, hv, hb⟩
  refine ⟨⟨held, fun e he address port ha hport => ?_, fun e he port status hport hadmin => ?_,
    fun link hlink => ?_, fun node hnode => ?_⟩, fun n hn status hadmin => ?_⟩
  · obtain ⟨node, -, -, hnode, -⟩ := held e he
    obtain ⟨v, l, l', hv, hr⟩ := haddresses e he
    obtain ⟨stores, hs, rfl⟩ := runs_addressPort_nil hnode hport ha hr
    exact ⟨node, stores, hnode, hs, hv⟩
  · obtain ⟨node, -, -, hnode, -⟩ := held e he
    obtain ⟨v, l, l', hv, hr⟩ := hports e he
    obtain ⟨stores, hs, rfl⟩ := runs_setEndpointAdmin_nil hnode hport hadmin hr
    exact ⟨node, stores, hnode, hs, hv⟩
  · obtain ⟨probes, hr, hall⟩ := hprobes link hlink
    exact runsIn_probeLink_good hr hall
  · obtain ⟨v, l, l', hv, hr⟩ := hlogs node hnode
    obtain ⟨output, rfl, hsuccess, hquiet⟩ := runs_scanLog_good hr
    exact ⟨output, hv, hsuccess, hquiet⟩
  · obtain ⟨v, l, l', hv, hr⟩ := hnodes n hn
    exact ⟨v, hv, runs_setNodeAdmin_nil hadmin hr⟩

end Controller

end SwitchLab

/-! ## A switch with two interfaces

Both ends of the link are at one switch, and a status is declared for all of its ports. -/

namespace SwitchLab.LoopedSwitch

open Controller

def topology : Topology where
  name := "loop"
  nodes := [⟨"dut", none, none, some .up⟩]
  links := [⟨"l", ⟨"dut", "eth1", some "10.0.0.1/24", none, none⟩,
    ⟨"dut", "eth2", some "10.0.1.1/24", some "Ethernet0", some .down⟩⟩]

/-- The controller when the switch is ready. -/
def controller : Controller :=
  { new topology .default with nodes := [LatePort.readyDevice], built := true }

def config : Database := LatePort.spec.database .config

/-- The first end of the link is set up, and then the second. -/
def bounces : Trace Host :=
  [["eth1", "down"], ["eth1", "up"]].map setLink ++ [addAddress] ++
    [["eth2", "down"], ["eth2", "up"]].map setLink
where
  setLink (words : List String) : Exchange Host :=
    Command.ran ⟨"nsenter", ["-t", "7", "-n", "ip", "link", "set", "dev"] ++ words⟩ (.ok .silent)
  addAddress : Exchange Host :=
    Command.ran ⟨"nsenter", ["-t", "7", "-n", "ip", "addr", "add", "10.0.0.1/24", "dev", "eth1"]⟩
      (.ok .silent)

def answers : Output := ⟨0, "1 packets transmitted, 1 received", ""⟩

/-- What comes after the status of whole nodes. -/
def later : Trace Host :=
  [config.adminSet "Ethernet0" .down] ++ config.interfaceSet "Ethernet0" "10.0.1.1/24" ++
    [["eth1", "10.0.1.1"], ["Ethernet0", "10.0.0.1"]].map ping ++
    [Command.ran ⟨"docker", ["logs", "dut"]⟩ (.ok ⟨0, "all quiet\n", ""⟩)]
where
  ping (words : List String) : Exchange Host :=
    Command.ran ⟨"nsenter", ["-t", "7", "-n", "ping", "-c", "1", "-i", "0.2", "-W", "1", "-I"] ++
      words⟩ (.ok answers)

def report : Report where
  probes := [⟨"l", "dut:eth1", "10.0.1.1", ⟨1, 1⟩⟩, ⟨"l", "dut:eth2", "10.0.0.1", ⟨1, 1⟩⟩]
  errors := []
  crashes := []

/-- The port is listed and set. -/
def trace : Trace Host :=
  bounces ++ [config.listed "PORT" (.ok ["PORT|Ethernet0"]), config.adminSet "Ethernet0" .up] ++
    later

theorem runs_trace : Lab.Runs (controller.verify 1) .empty trace report .empty :=
  Dialogue.runs_of_replay (by decide +kernel)

theorem trace_verified :
    Lab.Runs (controller.verify 1) .empty trace report .empty ∧ report.passed = true ∧
    controller.Verified 1 trace ∧
    ∀ n ∈ controller.topology.nodes, ∀ status, n.admin = some status → ∃ v, v <:+: trace ∧
      ((∃ node stores, controller.node? n.name = some node ∧ node.stores = some stores ∧
        StatusGiven stores.config.db status v) ∨ controller.StatusSkipped n.name v) := by
  have hp : report.passed = true := by decide
  exact ⟨runs_trace, hp, passed_verified runs_trace hp⟩

/-- The same, but for a listing that fails. -/
def unlisted : Trace Host :=
  bounces ++ [config.listed "PORT" (.error (.store "connection lost"))] ++ later

/-- What is written is what the ends of the link declare. -/
theorem unlisted_writes : (unlisted.map (·.request)).filter (·.writesTo .config) =
    ([config.adminSet "Ethernet0" .down] ++ config.interfaceSet "Ethernet0" "10.0.1.1/24").map
      (·.request) := by decide +kernel

/-- The report is as good as before, and no port was given the status of the node. -/
theorem unlisted_passes :
    Lab.Runs (controller.verify 1) .empty unlisted report .empty ∧ report.passed = true ∧
    (∃ n ∈ controller.topology.nodes, n.name = "dut" ∧ n.admin = some .up) ∧
    ∀ port, (config.adminSet port .up).request ∉ unlisted.map (·.request) := by
  refine ⟨Dialogue.runs_of_replay (by decide +kernel), by decide, by decide, fun port hport => ?_⟩
  have hwrite : (config.adminSet port .up).request ∈
      (unlisted.map (·.request)).filter (·.writesTo .config) :=
    List.mem_filter.mpr ⟨hport, rfl⟩
  have up_ne_down : FieldValues.ofPairs [("admin_status", AdminStatus.up.text)] ≠
      .ofPairs [("admin_status", AdminStatus.down.text)] := by decide
  have up_ne_null : FieldValues.ofPairs [("admin_status", AdminStatus.up.text)] ≠
      .ofPairs [("NULL", "NULL")] := by decide
  rw [unlisted_writes] at hwrite
  simp [Database.adminSet, Database.interfaceSet, Database.merged, up_ne_down, up_ne_null] at hwrite

end SwitchLab.LoopedSwitch
