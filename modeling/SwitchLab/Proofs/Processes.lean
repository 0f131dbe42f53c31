import SwitchLab.Proofs.Commands
import SwitchLab.Proofs.Requests

/-! The processes that are started in a server and left running. Each is noted
until it is ended, so at any time the ended ones and then the noted ones are all
that were started. What is noted when a server is destroyed is ended, if the
server was made, and goes on, if it was adopted. -/

namespace SwitchLab

/-! ## Processes that are ended -/

/-- The process that is ended. -/
def Query.killed? : Query → Option Nat
  | kill pid => some pid
  | _ => none

/-- The processes that are ended, in order; that may fail. -/
def killedIn (t : Trace Host) : List Nat := t.filterMap (·.request.killed?)

variable {l l' l₁ l₂ : Ledger} {t u v : Trace Host}

theorem killedIn_append : killedIn (t ++ u) = killedIn t ++ killedIn u := List.filterMap_append

theorem killedIn_eq_nil (h : ∀ x ∈ t, x.request.killed? = none) : killedIn t = [] :=
  List.filterMap_eq_nil_iff.mpr h

namespace VirtualServer

variable {s s' s₁ : VirtualServer} {dir container : String} {pid index : Nat}

/-- Each process is tried, whatever became of those before it. -/
theorem runs_killEach {pids : List Nat} {a : Unit}
    (hr : Lab.Runs ((forIn pids PUnit.unit fun pid _ => do
      let _ ← (Host.kill pid).outcome
      return ForInStep.yield PUnit.unit : StateT VirtualServer Lab Unit).run s) l t (a, s') l') :
    killedIn t = pids ∧ s' = s := by
  induction pids generalizing l t with
  | nil =>
    obtain ⟨rfl, hs, -⟩ := Lab.runs_pure_iff.mp hr
    cases hs
    exact ⟨rfl, rfl⟩
  | cons pid pids ih =>
    rw [List.forIn_cons, bind_assoc] at hr
    obtain ⟨u, v, _, _, l₁, rfl, hkill, hrest⟩ := Lab.runs_stateBind_iff.mp hr
    obtain ⟨_, hs, hasked⟩ := Lab.runs_stateLift_iff.mp hkill
    cases hs
    obtain ⟨rfl, -⟩ := Lab.runs_ask_iff.mp hasked
    obtain ⟨hkilled, rfl⟩ := ih hrest
    refine ⟨?_, rfl⟩
    rw [killedIn_append, hkilled]
    rfl

theorem runs_killAll_noted {a : Unit} (hr : Lab.Runs (killAll.run s) l t (a, s') l') :
    killedIn t = s.processes ∧ s' = { s with processes := [] } := by
  obtain ⟨u, v, _, _, l₁, rfl, hstarted, hlisted⟩ := Lab.runs_stateBind_iff.mp hr
  -- the list is emptied before the first of them is ended
  obtain ⟨_, _, _, _, _, rfl, hget, hstarted⟩ := Lab.runs_stateBind_iff.mp hstarted
  obtain ⟨_, _, _, _, _, rfl, hemptied, hstarted⟩ := Lab.runs_stateBind_iff.mp hstarted
  obtain ⟨u, _, _, _, _, rfl, heach, hend⟩ := Lab.runs_stateBind_iff.mp hstarted
  obtain ⟨rfl, hs, -⟩ := Lab.runs_pure_iff.mp hget
  cases hs
  obtain ⟨rfl, hs, -⟩ := Lab.runs_pure_iff.mp hemptied
  cases hs
  obtain ⟨rfl, hs, -⟩ := Lab.runs_pure_iff.mp hend
  cases hs
  obtain ⟨hkilled, rfl⟩ := runs_killEach heach
  obtain ⟨_, hs, hasked⟩ := Lab.runs_stateLift_iff.mp hlisted
  cases hs
  have listed : Lab.Asks (fun q => q.killed? = none) (killListed s.ns) :=
    asks_killListed_of rfl fun _ => rfl
  have others : killedIn v = [] := killedIn_eq_nil (listed.of_runs hasked).1
  refine ⟨?_, rfl⟩
  simp [killedIn_append, hkilled, others]

/-- A server begins without a process, and nothing that it did not start is ended like one. -/
theorem runs_create_killed (hr : Attempt.Runs (create dir container pid index) l t (.ok s) l') :
    killedIn t = [] ∧ s.processes = [] ∧ s.destroyed = false := by
  obtain ⟨u, v, isPresent, l₁, rfl, hpresent, hmade⟩ := Attempt.runs_bind_lift_iff.mp hr
  obtain ⟨rfl, -⟩ := Lab.runs_ask_iff.mp hpresent
  rw [killedIn_append]
  cases isPresent with
  | true =>
    obtain ⟨v, w, ⟨_, s'⟩, l₂, rfl, hkill, hend⟩ := Attempt.runs_bind_lift_iff.mp hmade
    obtain ⟨rfl, hs, -⟩ := Attempt.runs_pure_iff.mp hend
    cases hs
    obtain ⟨hkilled, rfl⟩ := runs_killAll_noted hkill
    refine ⟨?_, rfl, rfl⟩
    rw [List.append_nil, hkilled]
    rfl
  | false =>
    have arranged : ∀ c ∈ (new container index .created).arrangement pid,
        (Query.run c).killed? = none := fun _ _ => rfl
    have build := asks_build (P := fun q => q.killed? = none) (fun _ _ => rfl) arranged
    have quiet : killedIn v = [] := killedIn_eq_nil (build.of_runs hmade).1
    refine ⟨by rw [quiet]; rfl, ?_⟩
    obtain ⟨_, w, _, l₂, rfl, -, hwired⟩ := Attempt.runs_bind_ok_iff.mp hmade
    obtain ⟨_, x, wired, l₃, rfl, -, hend⟩ := Attempt.runs_bind_ok_iff.mp hwired
    cases wired with
    | error fault =>
      obtain ⟨_, _, _, _, rfl, _, hend⟩ := Attempt.runs_bind_ok_iff.mp hend
      cases (Attempt.runs_throw_iff.mp hend).2.1
    | ok a =>
      obtain ⟨-, hs, -⟩ := Attempt.runs_pure_iff.mp hend
      cases hs
      exact ⟨rfl, rfl⟩

/-! ## Calls -/

/-- A call that starts a process, or ends those there are. -/
inductive ProcessCall where
  | start (script : String)
  | killAll
  | destroy

/-- Only a start gives a process. -/
def ProcessCall.act : ProcessCall → On VirtualServer (Option Nat)
  | start script => some <$> spawnShell script
  | killAll => (fun _ => none) <$> (liftM VirtualServer.killAll : On VirtualServer Unit)
  | destroy => (fun _ => none) <$> VirtualServer.destroy

/-- A call with what it gave. -/
abbrev Answered := ProcessCall × Except Fault (Option Nat)

/-- The processes that the calls gave, in order. -/
def started (calls : List Answered) : List Nat := calls.filterMap fun x => x.2.toOption.join

/-- The calls are made one after the other, and the server is `s` before and `s'` after them. What
others do meanwhile is left open. -/
inductive Used (s : VirtualServer) : List Answered → Trace Host → VirtualServer → Prop where
  | nil : Used s [] [] s
  | call {calls : List Answered} {call : ProcessCall} {r : Except Fault (Option Nat)}
      {t u : Trace Host} {s₁ s' : VirtualServer} {l l' : Ledger} :
    Used s calls t s₁ → On.Runs call.act s₁ l u r s' l' →
    Used s (calls ++ [(call, r)]) (t ++ u) s'

variable {calls : List Answered} {r : Except Fault (Option Nat)}

theorem started_append {more : List Answered} :
    started (calls ++ more) = started calls ++ started more := List.filterMap_append

theorem runs_spawnShell {script : String} {r : Except Fault Nat}
    (hr : On.Runs (spawnShell script) s l t r s' l') :
    killedIn t = [] ∧ s' = { s with processes := s.processes ++ r.toOption.toList } := by
  rcases On.runs_bind_lift_iff.mp (On.runs_bind_get_iff.mp hr) with
    ⟨u, v, pid, l₂, rfl, hasked, hnoted⟩ | ⟨_, rfl, rfl, hasked⟩
  · obtain ⟨rfl, -⟩ := Lab.runs_ask_iff.mp hasked
    have hend := On.runs_bind_modify_iff.mp hnoted
    obtain ⟨rfl, rfl, rfl, -⟩ := On.runs_pure_iff.mp hend
    exact ⟨rfl, rfl⟩
  · obtain ⟨rfl, -⟩ := Lab.runs_ask_iff.mp hasked
    exact ⟨rfl, by simp [Except.toOption]⟩

theorem runs_start {script : String} (hr : On.Runs (ProcessCall.start script).act s l t r s' l') :
    killedIn t = [] ∧ s' = { s with processes := s.processes ++ started [(.start script, r)] } := by
  obtain ⟨x, rfl, hspawn⟩ := On.runs_map_iff.mp hr
  obtain ⟨hquiet, rfl⟩ := runs_spawnShell hspawn
  cases x <;> exact ⟨hquiet, rfl⟩

theorem runs_liftKillAll {r : Except Fault Unit}
    (hr : On.Runs (liftM killAll : On VirtualServer Unit) s l t r s' l') :
    r = .ok () ∧ killedIn t = s.processes ∧ s' = { s with processes := [] } := by
  obtain ⟨_, rfl, hkill⟩ := On.runs_liftState_iff.mp hr
  exact ⟨rfl, runs_killAll_noted hkill⟩

theorem runs_killAllCall (hr : On.Runs ProcessCall.killAll.act s l t r s' l') :
    r = .ok none ∧ killedIn t = s.processes ∧ s' = { s with processes := [] } := by
  obtain ⟨x, rfl, hkill⟩ := On.runs_map_iff.mp hr
  obtain ⟨rfl, hkilled, rfl⟩ := runs_liftKillAll hkill
  exact ⟨rfl, hkilled, rfl⟩

/-- The namespace is deleted after all processes were ended. -/
theorem runs_destroy_created {r : Except Fault Unit} (hd : s.destroyed = false)
    (hs : s.provision = .created) (hr : On.Runs VirtualServer.destroy s l t r s' l') :
    killedIn t = s.processes ∧ s'.processes = [] := by
  have hr := On.runs_bind_get_iff.mp hr
  rw [if_neg (by simp [hd])] at hr
  have hr := On.runs_bind_modify_iff.mp hr
  rw [if_pos (by rw [hs]; rfl)] at hr
  rcases On.runs_bind_iff.mp hr with ⟨u, v, _, s₁, l₁, rfl, hkill, hdelete⟩ | ⟨_, rfl, hkill⟩
  · obtain ⟨-, hkilled, rfl⟩ := runs_liftKillAll hkill
    obtain ⟨rfl, hdeleted⟩ := On.runs_lift_iff.mp hdelete
    obtain ⟨reply, rfl, -⟩ := (Namespace.calls_delete _ _ _ _).mp hdeleted
    refine ⟨?_, rfl⟩
    rw [killedIn_append, hkilled]
    exact List.append_nil _
  · cases (runs_liftKillAll hkill).1

theorem runs_destroy_adopted {r : Except Fault Unit} (hd : s.destroyed = false)
    (hs : s.provision = .adopted) (hr : On.Runs VirtualServer.destroy s l t r s' l') :
    t = [] ∧ s' = { s with destroyed := true } := by
  have hr := On.runs_bind_get_iff.mp hr
  rw [if_neg (by simp [hd])] at hr
  have hr := On.runs_bind_modify_iff.mp hr
  rw [if_neg (by rw [hs]; exact Bool.false_ne_true)] at hr
  obtain ⟨rfl, -, rfl, -⟩ := On.runs_pure_iff.mp hr
  exact ⟨rfl, rfl⟩

/-- The part of the calls up to the last that ends the processes, and the part after it. -/
structure PartsAtKill (calls before after : List Answered) : Prop where
  eq : calls = before ++ after
  last : before = [] ∨ ∃ earlier r, before = earlier ++ [(.killAll, r)]
  none : ∀ x ∈ after, x.1 ≠ .killAll

namespace PartsAtKill

variable {before after : List Answered} {x : Answered}

theorem nil : PartsAtKill [] [] [] := ⟨rfl, .inl rfl, List.forall_mem_nil _⟩

theorem other (h : PartsAtKill calls before after) (hx : x.1 ≠ .killAll) :
    PartsAtKill (calls ++ [x]) before (after ++ [x]) where
  eq := by rw [h.eq, List.append_assoc]
  last := h.last
  none := List.forall_mem_append.mpr ⟨h.none, List.forall_mem_singleton.mpr hx⟩

theorem kill : PartsAtKill (calls ++ [(.killAll, r)]) (calls ++ [(.killAll, r)]) [] :=
  ⟨(List.append_nil _).symm, .inr ⟨calls, r, rfl⟩, List.forall_mem_nil _⟩

end PartsAtKill

/-- Before it is destroyed, a server has ended what was started up to the last call for that, and
has noted the rest. -/
theorem Used.parts (h : Used s calls t s') (hcalls : ∀ x ∈ calls, x.1 ≠ .destroy)
    (hs : s.processes = []) : s'.provision = s.provision ∧ s'.destroyed = s.destroyed ∧
      ∃ before after, PartsAtKill calls before after ∧ killedIn t = started before ∧
        s'.processes = started after := by
  induction h with
  | nil => exact ⟨rfl, rfl, [], [], .nil, rfl, hs⟩
  | @call calls call r t u s₁ s' l l' _ hr ih =>
    obtain ⟨hearlier, hcall⟩ := List.forall_mem_append.mp hcalls
    obtain ⟨hprovision, hdestroyed, before, after, hparts, hkilled, hnoted⟩ := ih hearlier
    cases call with
    | start script =>
      obtain ⟨hquiet, rfl⟩ := runs_start hr
      refine ⟨hprovision, hdestroyed, before, _, hparts.other nofun, ?_, ?_⟩
      · rw [killedIn_append, hquiet, List.append_nil, hkilled]
      · rw [started_append, ← hnoted]
    | killAll =>
      obtain ⟨rfl, hended, rfl⟩ := runs_killAllCall hr
      refine ⟨hprovision, hdestroyed, _, [], .kill, ?_, rfl⟩
      -- what was noted until now is ended after what was ended before
      rw [killedIn_append, hkilled, hended, hnoted, started_append, hparts.eq, started_append]
      exact (List.append_nil _).symm
    | destroy => exact absurd rfl (hcall _ List.mem_cons_self)

/-- What becomes of the processes of a server that is used and then destroyed. In `t` is all that
is asked for the server from its making on, and in `u` what is asked to destroy it. -/
structure EndsProcesses (s : VirtualServer) (calls : List Answered) (t u : Trace Host)
    (s' : VirtualServer) : Prop where
  created : s.provision = .created → killedIn t = started calls
  /-- Nothing is done to destroy an adopted server, so what was started last goes on. -/
  adopted : s.provision = .adopted → u = [] ∧ ∃ before after, PartsAtKill calls before after ∧
    killedIn t = started before ∧ s'.processes = started after

theorem created_endsProcesses
    (hc : Attempt.Runs (create dir container pid index) l t (.ok s) l') (hu : Used s calls u s₁)
    (hcalls : ∀ x ∈ calls, x.1 ≠ .destroy)
    (hd : On.Runs ProcessCall.destroy.act s₁ l₁ v r s' l₂) :
    EndsProcesses s calls (t ++ u ++ v) v s' := by
  obtain ⟨hquiet, hnone, hnew⟩ := runs_create_killed hc
  obtain ⟨hprovision, hdestroyed, before, after, hparts, hkilled, hnoted⟩ := hu.parts hcalls hnone
  have hlives : s₁.destroyed = false := hdestroyed.trans hnew
  obtain ⟨x, -, hdestroy⟩ := On.runs_map_iff.mp hd
  constructor
  · intro hs
    have hkilled' : killedIn v = started after :=
      (runs_destroy_created hlives (hprovision.trans hs) hdestroy).1.trans hnoted
    rw [killedIn_append, killedIn_append, hquiet, hkilled, hkilled', hparts.eq, started_append,
      List.nil_append]
  · intro hs
    obtain ⟨rfl, rfl⟩ := runs_destroy_adopted hlives (hprovision.trans hs) hdestroy
    refine ⟨rfl, before, after, hparts, ?_, hnoted⟩
    rw [List.append_nil, killedIn_append, hquiet, hkilled, List.nil_append]

end VirtualServer

end SwitchLab

/-! ## Traffic in two servers

The first server was made. One of its processes is gone when it is to be ended, one cannot be
started, and one runs until the server is destroyed. The second server was there before. -/

namespace SwitchLab.TwoServers

open VirtualServer

def making : Trace Host :=
  [⟨.pathExists "/run/netns/vs-srv1", false⟩,
    Command.ran ⟨"ip", ["netns", "del", "vs-srv1"]⟩
      (.ok ⟨1, "", "Cannot remove namespace file: No such file or directory"⟩),
    silently "ip" ["netns", "add", "vs-srv1"],
    silently "ip" ["netns", "exec", "vs-srv1", "ip", "link", "set", "lo", "up"],
    Command.ran ⟨"ip", ["link", "del", "dv7s1a"]⟩ (.ok ⟨1, "", "Cannot find device"⟩),
    Command.ran ⟨"nsenter", ["-t", "7", "-n", "ip", "link", "del", "eth2"]⟩
      (.ok ⟨1, "", "Cannot find device"⟩),
    silently "ip" ["link", "add", "dv7s1a", "type", "veth", "peer", "name", "dv7s1b"],
    silently "ip" ["link", "set", "dv7s1a", "netns", "vs-srv1"],
    silently "ip" ["link", "set", "dv7s1b", "netns", "7"],
    silently "ip" ["netns", "exec", "vs-srv1", "ip", "link", "set", "dev", "dv7s1a", "name",
      "eth0"],
    silently "ip" ["netns", "exec", "vs-srv1", "ip", "link", "set", "dev", "eth0", "up"],
    silently "ip" ["netns", "exec", "vs-srv1", "sysctl", "-w",
      "net.ipv6.conf.eth0.disable_ipv6=1"],
    silently "nsenter" ["-t", "7", "-n", "ip", "link", "set", "dev", "dv7s1b", "name", "eth2"],
    silently "nsenter" ["-t", "7", "-n", "ip", "link", "set", "dev", "eth2", "up"],
    silently "ip" ["netns", "exec", "vs-srv1", "ethtool", "-K", "eth0", "tx", "off"],
    silently "nsenter" ["-t", "7", "-n", "ethtool", "-K", "eth2", "tx", "off"]]

def made : VirtualServer := new "vs" 1 .created

/-- A line of shell is started in the namespace. -/
def starting (ns script : String) (reply : Except Fault Nat) : Exchange Host :=
  ⟨.spawn ⟨"ip", ["netns", "exec", ns, "bash", "-c", script]⟩, reply⟩

def noSuchProcess : Fault := .io "No such process"

def listed (ns pids : String) : Exchange Host :=
  Command.ran ⟨"ip", ["netns", "pids", ns]⟩ (.ok ⟨0, pids, ""⟩)

def ending : Trace Host :=
  [⟨.kill 4000, .error noSuchProcess⟩, ⟨.kill 4001, .ok ()⟩, listed "vs-srv1" ""]

def calls : List Answered :=
  [(.start "iperf -s", .ok (some 4000)), (.start "tcpdump -i eth0", .ok (some 4001)),
    (.killAll, .ok none), (.start "hping3", .error (.io "cannot launch ip")),
    (.start "ping 10.0.0.1", .ok (some 4002))]

def use : Trace Host :=
  starting "vs-srv1" "iperf -s" (.ok 4000) :: starting "vs-srv1" "tcpdump -i eth0" (.ok 4001) ::
    ending ++ [starting "vs-srv1" "hping3" (.error (.io "cannot launch ip")),
      starting "vs-srv1" "ping 10.0.0.1" (.ok 4002)]

def destroying : Trace Host :=
  [⟨.kill 4002, .ok ()⟩, listed "vs-srv1" "31\n", silently "kill" ["-9", "31"],
    silently "ip" ["netns", "del", "vs-srv1"]]

theorem runs_create : Attempt.Runs (create "/run/netns" "vs" 7 1) .empty making (.ok made) .empty :=
  Dialogue.runs_of_replay (by decide +kernel)

theorem used : Used made calls use { made with processes := [4002] } := by
  have first : On.Runs (ProcessCall.start "iperf -s").act made .empty
      [starting "vs-srv1" "iperf -s" (.ok 4000)] (.ok (some 4000))
      { made with processes := [4000] } .empty := Dialogue.runs_of_replay (by decide +kernel)
  have second : On.Runs (ProcessCall.start "tcpdump -i eth0").act { made with processes := [4000] }
      .empty [starting "vs-srv1" "tcpdump -i eth0" (.ok 4001)] (.ok (some 4001))
      { made with processes := [4000, 4001] } .empty := Dialogue.runs_of_replay (by decide +kernel)
  have third : On.Runs ProcessCall.killAll.act { made with processes := [4000, 4001] } .empty
      ending (.ok none) made .empty := Dialogue.runs_of_replay (by decide +kernel)
  have fourth : On.Runs (ProcessCall.start "hping3").act made .empty
      [starting "vs-srv1" "hping3" (.error (.io "cannot launch ip"))]
      (.error (.io "cannot launch ip")) made .empty := Dialogue.runs_of_replay (by decide +kernel)
  have fifth : On.Runs (ProcessCall.start "ping 10.0.0.1").act made .empty
      [starting "vs-srv1" "ping 10.0.0.1" (.ok 4002)] (.ok (some 4002))
      { made with processes := [4002] } .empty := Dialogue.runs_of_replay (by decide +kernel)
  exact .call (.call (.call (.call (.call .nil first) second) third) fourth) fifth

theorem runs_destroy : On.Runs ProcessCall.destroy.act { made with processes := [4002] } .empty
    destroying (.ok none) { made with destroyed := true } .empty :=
  Dialogue.runs_of_replay (by decide +kernel)

theorem calls_endsProcesses :
    Attempt.Runs (create "/run/netns" "vs" 7 1) .empty making (.ok made) .empty ∧
    Used made calls use { made with processes := [4002] } ∧ (∀ x ∈ calls, x.1 ≠ .destroy) ∧
    On.Runs ProcessCall.destroy.act { made with processes := [4002] } .empty destroying (.ok none)
      { made with destroyed := true } .empty ∧
    EndsProcesses made calls (making ++ use ++ destroying) destroying
      { made with destroyed := true } := by
  have lives : ∀ x ∈ calls, x.1 ≠ .destroy := by simp [calls]
  exact ⟨runs_create, used, lives, runs_destroy,
    created_endsProcesses runs_create used lives runs_destroy⟩

example : killedIn (making ++ use ++ destroying) = [4000, 4001, 4002] := by decide +kernel

/-- The namespace of the second server is there, and a process of an earlier session in it. -/
def adopting : Trace Host :=
  [⟨.pathExists "/run/netns/vs-srv0", true⟩, listed "vs-srv0" "99\n",
    silently "kill" ["-9", "99"]]

def adopted : VirtualServer := new "vs" 0 .adopted

def capturing : List Answered := [(.start "tcpdump -i eth0", .ok (some 4000))]

/-- A process that was started in an adopted server goes on after the server. -/
theorem process_goes_on :
    Attempt.Runs (create "/run/netns" "vs" 7 0) .empty adopting (.ok adopted) .empty ∧
    Used adopted capturing [starting "vs-srv0" "tcpdump -i eth0" (.ok 4000)]
      { adopted with processes := [4000] } ∧
    (∀ x ∈ capturing, x.1 ≠ .destroy) ∧
    On.Runs ProcessCall.destroy.act { adopted with processes := [4000] } .empty [] (.ok none)
      { adopted with processes := [4000], destroyed := true } .empty ∧
    killedIn (adopting ++ [starting "vs-srv0" "tcpdump -i eth0" (.ok 4000)] ++ []) ≠
      started capturing := by
  have start : On.Runs (ProcessCall.start "tcpdump -i eth0").act adopted .empty
      [starting "vs-srv0" "tcpdump -i eth0" (.ok 4000)] (.ok (some 4000))
      { adopted with processes := [4000] } .empty := Dialogue.runs_of_replay (by decide +kernel)
  exact ⟨Dialogue.runs_of_replay (by decide +kernel), .call .nil start, by simp [capturing],
    Dialogue.runs_of_replay (by decide +kernel), by decide +kernel⟩

end SwitchLab.TwoServers
