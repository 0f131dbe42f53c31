import SwitchLab.Proofs.Events
import SwitchLab.Proofs.Operations
import SwitchLab.Proofs.Provisioning

/-! What becomes of a switch over any sequence of operations, whatever its host
and its databases answer. -/

namespace SwitchLab

variable {l l' : Ledger} {t : Trace Host} {spec : DeviceSpec}

namespace Device

/-! ## One operation -/

/-- Handles on the databases are held just while the switch is ready. -/
def HoldsStores (d : Device) : Prop := d.stores.isSome = true ↔ d.state = .ready

/-- Then a database can be accessed just while the switch is ready. -/
theorem HoldsStores.runs_access_iff {d : Device} (h : d.HoldsStores) {store : StoreName}
    {r : Except Fault Unit} : Attempt.Runs (d.access store) l t r l' ↔
      t = [] ∧ r = (if d.state = .ready then .ok () else .error (d.refuse store.accessor)) ∧
        l' = l := by
  rw [Device.runs_access_iff]
  cases hs : d.stores with
  | none =>
    have hne : d.state ≠ .ready := fun hready => by
      have hsome := h.mpr hready
      simp [hs] at hsome
    rw [if_neg hne]
    rfl
  | some stores =>
    have hready : d.state = .ready := h.mp (by rw [hs]; rfl)
    rw [if_pos hready]
    rfl

namespace Outcome

variable {op : Operation} {d d' : Device} {r : Except Fault Unit}

theorem holdsStores (h : Outcome op d t r d') (hd : d.HoldsStores) : d'.HoldsStores := by
  cases h with
  | kept _ halike _ => rwa [HoldsStores, halike.stores, halike.state]
  | passed => simp [HoldsStores]
  | halted => simp [HoldsStores]
  | detached =>
    rw [detach]
    split
    · exact hd
    · simp [HoldsStores]
  | tornDown _ _ _ _ hgone _ => simp [HoldsStores, hgone.state, hgone.stores]

theorem made (h : Outcome op d t r d') : d'.made = d.made := by
  cases h with
  | kept _ halike _ => exact halike.made
  | passed | halted => rfl
  | detached =>
    rw [detach]
    split <;> rfl
  | tornDown _ _ _ _ _ hmade => exact hmade

theorem destroyed (h : Outcome op d t r d') (hd : d.state = .destroyed) :
    d'.state = .destroyed := by
  cases h with
  | kept _ halike _ => rw [halike.state, hd]
  | passed _ hne _ _ => exact absurd hd hne
  | halted _ hne _ => exact absurd hd hne
  | detached => rwa [detach, if_pos hd]
  | tornDown hne _ _ _ _ _ => exact absurd hd hne

/-- A switch that is ready was ready before, or has just passed all stages. -/
theorem ready (h : Outcome op d t r d') (hd' : d'.state = .ready) :
    (d.state = .ready ∧ op ≠ .restart) ∨
    ((op = .checkReady ∨ op = .restart) ∧ r = .ok () ∧
      InOrder (statusMilestones d.spec ++ storeMilestones d.spec ++ portMilestones d.spec) t) := by
  cases h with
  | kept _ halike hop =>
    rw [halike.state] at hd'
    exact .inl ⟨hd', fun h => hop h hd'⟩
  | passed hop _ _ horder => exact .inr ⟨hop, rfl, horder⟩
  | halted => cases hd'
  | detached =>
    rw [detach] at hd'
    split at hd'
    case isTrue hs => simp [hs] at hd'
    case isFalse => cases hd'
  | tornDown _ _ _ _ hgone _ => simp [hgone.state] at hd'

theorem staysReady (h : Outcome op d t r d') (hop : op.interrupts = false)
    (hd : d.state = .ready) : d'.state = .ready := by
  cases h with
  | kept _ halike _ => rw [halike.state, hd]
  | passed => rfl
  | halted he | detached he => simp [he, Operation.interrupts] at hop
  | tornDown _ hint _ _ _ _ => simp [hint hd] at hop

end Outcome

variable {e : Event Operation Device}

theorem outcome_of_ran (h : e.Ran Operation.act) :
    Outcome e.operation e.before e.trace e.result e.after := by
  obtain ⟨l, l', hr⟩ := h
  exact act_outcome hr

/-- A switch that is ready is asked nothing to see that it is. -/
theorem silent_of_ran (h : e.Ran Operation.act) (hop : e.operation = .checkReady)
    (hready : e.before.state = .ready) : e.trace = [] ∧ e.result = .ok () := by
  obtain ⟨l, l', hr⟩ := h
  rw [hop] at hr
  rcases runs_checkReady_cases hr with ⟨-, ht, hresult, -⟩ | ⟨hs | hs, -⟩ | ⟨hs | hs, -⟩
  · exact ⟨ht, hresult⟩
  all_goals simp [hready] at hs

/-! ## All operations -/

variable {d₀ d d' : Device} {events : List (Event Operation Device)}

theorem staysReady (h : History Operation.act d events d')
    (hop : ∀ e ∈ events, e.operation.interrupts = false)
    (hd : d.state = .ready) : d'.state = .ready := by
  induction h with
  | nil d => exact hd
  | @cons e events d' he _ ih =>
    obtain ⟨hop, hrest⟩ := List.forall_mem_cons.mp hop
    exact ih hrest ((outcome_of_ran he).staysReady hop hd)

theorem runs_create {r : Except Fault Device} (hr : Attempt.Runs (create spec) l t r l') :
    ∃ x d, On.Runs setUp (absent spec) l t x d l' ∧ r = x.map fun _ => d := by
  obtain ⟨u, v, ⟨x, d⟩, l₁, rfl, hsetUp, hr⟩ := Lab.runs_bind_iff.mp hr
  obtain ⟨rfl, rfl, rfl⟩ := Lab.runs_pure_iff.mp hr
  exact ⟨x, d, by rwa [List.append_nil], rfl⟩

theorem runs_create_ok {d : Device} (hr : Attempt.Runs (create spec) l t (.ok d) l') :
    On.Runs setUp (absent spec) l t (.ok ()) d l' := by
  obtain ⟨x, d', hsetUp, hx⟩ := runs_create hr
  cases x with
  | error fault => cases hx
  | ok a =>
    cases hx
    exact hsetUp

/-- What holds of a switch `d` that was made as `d₀`, after all that was done with it. -/
structure WellKept (spec : DeviceSpec) (d₀ d : Device) (events : List (Event Operation Device)) :
    Prop where
  /-- Handles on the databases are held just while the switch is ready. -/
  stores : d.stores.isSome = true ↔ d.state = .ready
  /-- So its databases can be accessed just while it is ready. -/
  access : ∀ store l t r l', Attempt.Runs (d.access store) l t r l' ↔
    t = [] ∧ r = (if d.state = .ready then .ok () else .error (d.refuse store.accessor)) ∧ l' = l
  pid : d.pid = d₀.pid
  /-- No server is added, taken away or put in the place of another. -/
  servers : d.servers.map (·.made) = d₀.servers.map (·.made)
  /-- A switch that is destroyed stays destroyed. -/
  destroyed : ∀ e ∈ events, e.before.state = .destroyed → e.after.state = .destroyed
  /-- A switch becomes ready only by passing all stages. -/
  ready : ∀ e ∈ events, e.after.state = .ready →
    (e.before.state = .ready ∧ e.operation ≠ .restart) ∨
    ((e.operation = .checkReady ∨ e.operation = .restart) ∧ e.result = .ok () ∧
      InOrder (statusMilestones spec ++ storeMilestones spec ++ portMilestones spec) e.trace)
  /-- Until it is restarted, destroyed or detached, going through the stages asks nothing. -/
  silent : ∀ earlier e between c later, events = earlier ++ e :: between ++ c :: later →
    e.after.state = .ready → (∀ m ∈ between, m.operation.interrupts = false) →
    c.operation = .checkReady → c.trace = [] ∧ c.result = .ok ()

/-- Whatever is done with a switch after it was made, and whatever its host and its databases
answer, it is well kept. -/
theorem history_wellKept
    (hc : Attempt.Runs (create spec) l t (.ok d₀) l') (hh : History Operation.act d₀ events d) :
    WellKept spec d₀ d events := by
  have hmaking := making_of_setUp (runs_create_ok hc)
  have hstores₀ : d₀.HoldsStores := by simp [HoldsStores, hmaking.state, hmaking.stores]
  have hstores : d.HoldsStores :=
    (hh.keeps (fun e he => (outcome_of_ran he).holdsStores) hstores₀).2
  obtain ⟨hmade, hend⟩ := hh.keeps (I := fun d => d.made = d₀.made)
    (fun e he h => (outcome_of_ran he).made.trans h) rfl
  refine
    { stores := hstores
      access := fun _ _ _ _ _ => hstores.runs_access_iff
      pid := ?_
      servers := congrArg Device.servers hend
      destroyed := fun e he hd => (outcome_of_ran (hh.ran e he)).destroyed hd
      ready := fun e he hready => ?_
      silent := ?_ }
  · have hpid := congrArg Device.pid hend
    exact hpid
  · have hspec : e.before.spec = spec := by
      have hsame := congrArg Device.spec (hmade e he).1
      exact hsame.trans hmaking.forSpec
    rw [← hspec]
    exact (outcome_of_ran (hh.ran e he)).ready hready
  · rintro earlier e between c later rfl hready hbetween hc
    obtain ⟨d₁, hfirst, hlast⟩ := hh.of_append
    obtain ⟨d₂, -, hwork⟩ := hfirst.of_append
    cases hwork with
    | cons he hwork =>
      have hready₁ := staysReady hwork hbetween hready
      cases hlast with
      | cons hran _ => exact silent_of_ran hran hc hready₁

end Device

end SwitchLab

/-! ## From the beginning to the end

The switch with the late port is made, becomes ready, and is destroyed; its directory is in use. -/

namespace SwitchLab.LatePort

open Device

/-- The server is joined to the switch. -/
def wiring : Trace Host :=
  [silently "ip" ["link", "del", "dv7s0a"],
    inSwitch ["ip", "link", "del", "eth1"],
    silently "ip" ["link", "add", "dv7s0a", "type", "veth", "peer", "name", "dv7s0b"],
    silently "ip" ["link", "set", "dv7s0a", "netns", "dut-srv0"],
    silently "ip" ["link", "set", "dv7s0b", "netns", "7"],
    inServer ["ip", "link", "set", "dev", "dv7s0a", "name", "eth0"],
    inServer ["ip", "link", "set", "dev", "eth0", "up"],
    inServer ["sysctl", "-w", "net.ipv6.conf.eth0.disable_ipv6=1"],
    inSwitch ["ip", "link", "set", "dev", "dv7s0b", "name", "eth1"],
    inSwitch ["ip", "link", "set", "dev", "eth1", "up"],
    inServer ["ethtool", "-K", "eth0", "tx", "off"],
    inSwitch ["ethtool", "-K", "eth1", "tx", "off"]]
where
  inServer (args : List String) : Exchange Host :=
    silently "ip" (["netns", "exec", "dut-srv0"] ++ args)
  inSwitch (args : List String) : Exchange Host := silently "nsenter" (["-t", "7", "-n"] ++ args)

def making : Trace Host :=
  [silently "mkdir" ["-p", "/m/dut"],
    silently "docker"
      ["create", "--name", "dut-ns", "--privileged", "-i", "debian:bookworm", "bash"],
    silently "docker" ["start", "dut-ns"],
    Command.ran ⟨"docker", ["inspect", "--format", "\x7b\x7b.State.Pid\x7d\x7d", "dut-ns"]⟩
      (.ok ⟨0, "7\n", ""⟩),
    ⟨.pathExists "/var/run/netns/dut-srv0", false⟩,
    silently "ip" ["netns", "del", "dut-srv0"],
    silently "ip" ["netns", "add", "dut-srv0"],
    silently "ip" ["netns", "exec", "dut-srv0", "ip", "link", "set", "lo", "up"]] ++
  wiring ++
  [silently "docker"
      ["create", "--name", "dut", "--privileged", "--network", "container:dut-ns", "--cpus", "2",
        "-v", "/m/dut:/var/run/redis", "docker-sonic-vs:latest"],
    silently "docker" ["start", "dut"]]

def server : VirtualServer := .new "dut" 0 .created

def madeDevice : Device := { device with holder := some "dut-ns", servers := [server] }

theorem runs_create : Attempt.Runs (create spec) .empty making (.ok madeDevice) .empty :=
  Dialogue.runs_of_replay (by decide +kernel)

def usedDevice : Device := { madeDevice with stores := some stores, state := .ready }

theorem runs_becomeReady :
    On.Runs checkReady madeDevice .empty trace (.ok ()) usedDevice ledger :=
  runs_checkReady_of (.inl rfl) runs_reachReady

/-- The container is gone already, and the directory cannot be removed. -/
def teardown : Trace Host :=
  [Command.ran ⟨"docker", ["rm", "-f", "dut"]⟩ (.ok ⟨1, "", "Error: No such container: dut"⟩),
    silently "docker" ["rm", "-f", "dut-ns"],
    Command.ran ⟨"rm", ["-rf", "/m/dut"]⟩ (.ok ⟨1, "", "Device or resource busy"⟩),
    Command.ran ⟨"ip", ["netns", "pids", "dut-srv0"]⟩ (.ok ⟨0, "41\n", ""⟩),
    silently "kill" ["-9", "41"],
    silently "ip" ["netns", "del", "dut-srv0"]]

def busy : Fault :=
  .cleanup ["remove /m/dut: command `rm -rf /m/dut` exited with 1: Device or resource busy"]

def goneDevice : Device :=
  { madeDevice with state := .destroyed, servers := [{ server with destroyed := true }] }

theorem runs_destroy : On.Runs destroy usedDevice ledger teardown (.error busy) goneDevice ledger :=
  Dialogue.runs_of_replay (by decide +kernel)

/-- The switch becomes ready, is found ready, and is destroyed. -/
def events : List (Event Operation Device) :=
  [⟨.checkReady, madeDevice, trace, .ok (), usedDevice⟩,
    ⟨.checkReady, usedDevice, [], .ok (), usedDevice⟩,
    ⟨.destroy, usedDevice, teardown, .error busy, goneDevice⟩]

theorem history : History Operation.act madeDevice events goneDevice := by
  have again : On.Runs checkReady usedDevice ledger [] (.ok ()) usedDevice ledger :=
    Dialogue.runs_of_replay (by decide +kernel)
  have first : Event.Ran Operation.act ⟨.checkReady, madeDevice, trace, .ok (), usedDevice⟩ :=
    ⟨_, _, runs_becomeReady⟩
  have second : Event.Ran Operation.act ⟨.checkReady, usedDevice, [], .ok (), usedDevice⟩ :=
    ⟨_, _, again⟩
  have last : Event.Ran Operation.act ⟨.destroy, usedDevice, teardown, .error busy, goneDevice⟩ :=
    ⟨_, _, runs_destroy⟩
  exact .cons first (.cons second (.cons last (.nil _)))

theorem events_wellKept :
    Attempt.Runs (create spec) .empty making (.ok madeDevice) .empty ∧
    History Operation.act madeDevice events goneDevice ∧
    WellKept spec madeDevice goneDevice events :=
  ⟨runs_create, history, history_wellKept runs_create history⟩

end SwitchLab.LatePort
