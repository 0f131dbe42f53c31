import SwitchLab.Proofs.Lives

/-! What is still asked for a switch that is destroyed. It refuses its operations
or has nothing to do in them, but for the cleanup of its network: that one looks
at the process which held the namespace, and a switch never forgets it. -/

namespace SwitchLab

variable {l l' : Ledger} {t : Trace Host} {spec : DeviceSpec}

namespace Device

/-! ## All that is done with a switch -/

/-- What a caller does with a switch: an operation, or one of its servers is destroyed before. -/
inductive Handling where
  | operation (op : Operation)
  | destroyServer (index : Nat)

def Handling.act : Handling → On Device Unit
  | operation op => op.act
  | destroyServer index => do
    if let some s := (← get).servers[index]? then
      On.part (fun _ => s) (fun s d => { d with servers := d.servers.set index s })
        VirtualServer.destroy

variable {d d₀ d' : Device} {r : Except Fault Unit}

theorem runs_destroyServer {index : Nat}
    (hr : On.Runs (Handling.destroyServer index).act d l t r d' l') :
    (d.servers[index]? = none ∧ t = [] ∧ d' = d) ∨
    ∃ s s', d.servers[index]? = some s ∧ On.Runs VirtualServer.destroy s l t r s' l' ∧
      d' = { d with servers := d.servers.set index s' } := by
  have hr := On.runs_bind_get_iff.mp hr
  split at hr
  case h_1 s hs =>
    obtain ⟨s', hdestroy, rfl⟩ := On.runs_part_iff.mp hr
    exact .inr ⟨s, s', hs, hdestroy, rfl⟩
  case h_2 hnone =>
    obtain ⟨rfl, -, rfl, -⟩ := On.runs_pure_iff.mp hr
    exact .inl ⟨Option.eq_none_iff_forall_ne_some.mpr hnone, rfl, rfl⟩

/-- A server that is put back as it was made changes nothing of how the switch was made. -/
theorem made_setServer {index : Nat} {s s' : VirtualServer} (hs : d.servers[index]? = some s)
    (hmade : s'.made = s.made) : { d with servers := d.servers.set index s' }.made = d.made := by
  obtain ⟨hi, rfl⟩ := List.getElem?_eq_some_iff.mp hs
  have servers : (d.servers.set index s').map (·.made) = d.servers.map (·.made) := by
    rw [List.map_set, hmade, ← List.getElem_map VirtualServer.made, List.set_getElem_self]
    simpa using hi
  simp [made, servers]

theorem Handling.made {h : Handling} (hr : On.Runs h.act d l t r d' l') : d'.made = d.made := by
  cases h with
  | operation op =>
    have outcome : Outcome op d t r d' := act_outcome hr
    exact outcome.made
  | destroyServer index =>
    rcases runs_destroyServer hr with ⟨-, -, rfl⟩ | ⟨s, s', hs, hdestroy, rfl⟩
    · rfl
    · exact made_setServer hs (VirtualServer.runs_destroy hdestroy).2.1

theorem Handling.holdsStores {h : Handling} (hr : On.Runs h.act d l t r d' l')
    (hd : d.HoldsStores) : d'.HoldsStores := by
  cases h with
  | operation op =>
    have outcome : Outcome op d t r d' := act_outcome hr
    exact outcome.holdsStores hd
  | destroyServer index =>
    rcases runs_destroyServer hr with ⟨-, -, rfl⟩ | ⟨_, _, -, -, rfl⟩
    · exact hd
    · exact hd

/-- How the switch was made is known of it all the time. -/
theorem made_of_history {events : List (Event Handling Device)}
    (hh : History Handling.act d₀ events d) :
    (∀ x ∈ events, x.before.made = d₀.made) ∧ d.made = d₀.made := by
  have step (x : Event Handling Device) (hx : x.Ran Handling.act) (h : x.before.made = d₀.made) :
      x.after.made = d₀.made := by
    obtain ⟨l, l', hr⟩ := hx
    exact (Handling.made hr).trans h
  obtain ⟨hbefore, hlast⟩ := hh.keeps (I := fun d => d.made = d₀.made) step rfl
  exact ⟨fun x hx => (hbefore x hx).1, hlast⟩

theorem holdsStores_of_history {events : List (Event Handling Device)}
    (hh : History Handling.act d₀ events d) (h₀ : d₀.HoldsStores) :
    ∀ x ∈ events, x.before.HoldsStores := by
  have step (x : Event Handling Device) (hx : x.Ran Handling.act) (h : x.before.HoldsStores) :
      x.after.HoldsStores := by
    obtain ⟨l, l', hr⟩ := hx
    exact Handling.holdsStores hr h
  exact fun x hx => ((hh.keeps step h₀).1 x hx).1

/-! ## A switch that is destroyed -/

/-- What a destroyed switch answers without asking anything. -/
def Operation.lastAnswer? : Operation → Option (Except Fault Unit)
  | checkReady => some (.error (.invalidState "destroyed" "check_ready"))
  | restart => some (.error (.invalidState "destroyed" "restart"))
  | destroy | detach => some (.ok ())
  | access store => some (.error (.invalidState "destroyed" store.accessor))
  | setInterfaceAdmin _ _ | addIpAddress _ _ =>
    some (.error (.invalidState "destroyed" "config_db"))
  | networkCleanup | runShell _ | logs | saveLogs _ | server _ _ => none

theorem refuse_destroyed (hd : d.state = .destroyed) (operation : String) :
    d.refuse operation = .invalidState "destroyed" operation := by
  rw [refuse, hd]
  rfl

theorem HoldsStores.stores_eq_none (h : d.HoldsStores) (hd : d.state = .destroyed) :
    d.stores = none := by
  rw [← Option.not_isSome_iff_eq_none]
  intro hsome
  have hready := h.mp hsome
  rw [hd] at hready
  cases hready

/-- Without handles on the databases, work on the configuration is refused before it begins. -/
theorem runs_configDb_bind {f : Handle → Attempt Unit} (hs : d.stores = none) :
    On.Runs (liftM (d.configDb >>= f) : On Device Unit) d l t r d' l' ↔
      t = [] ∧ r = .error (d.refuse "config_db") ∧ d' = d ∧ l' = l := by
  have refused : d.configDb >>= f = throw (d.refuse "config_db") := by
    rw [configDb, storesFor, hs]
    rfl
  rw [refused, On.runs_lift_iff, Attempt.runs_throw_iff]
  constructor
  · rintro ⟨rfl, rfl, rfl, rfl⟩
    exact ⟨rfl, rfl, rfl, rfl⟩
  · rintro ⟨rfl, rfl, rfl, rfl⟩
    exact ⟨rfl, rfl, rfl, rfl⟩

theorem runs_act_destroyed {op : Operation} {answer : Except Fault Unit}
    (hd : d.state = .destroyed) (hs : d.HoldsStores) (ha : op.lastAnswer? = some answer)
    (hr : On.Runs op.act d l t r d' l') : t = [] ∧ r = answer ∧ d' = d := by
  have hnone : d.stores = none := hs.stores_eq_none hd
  cases op with
  | networkCleanup | runShell | logs | saveLogs | server => cases ha
  | checkReady =>
    cases ha
    rcases runs_checkReady_cases hr with ⟨hs, -⟩ | ⟨-, ht, hr, hsame⟩ | ⟨hs | hs, -⟩
    · simp [hd] at hs
    · exact ⟨ht, hr.trans (congrArg _ (refuse_destroyed hd _)), hsame⟩
    · simp [hd] at hs
    · simp [hd] at hs
  | restart =>
    cases ha
    have hr := On.runs_bind_get_iff.mp hr
    rw [if_pos (.inr hd)] at hr
    obtain ⟨ht, hr, hsame, -⟩ := On.runs_throw_bind_iff.mp hr
    exact ⟨ht, hr.trans (congrArg _ (refuse_destroyed hd _)), hsame⟩
  | destroy =>
    cases ha
    obtain ⟨htorn, -, hsame⟩ := runs_destroy hr
    rw [TornDown, if_pos hd] at htorn
    rw [if_pos hd] at hsame
    exact ⟨htorn.1, htorn.2, hsame⟩
  | detach =>
    cases ha
    obtain ⟨ht, hr, hsame, -⟩ := On.runs_modify_iff.mp hr
    rw [detach, if_pos hd] at hsame
    exact ⟨ht, hr, hsame⟩
  | access store =>
    cases ha
    have hr : On.Runs (liftM (d.access store)) d l t r d' l' := On.runs_bind_get_iff.mp hr
    obtain ⟨hsame, hrun⟩ := On.runs_lift_iff.mp hr
    obtain ⟨ht, hr, -⟩ := runs_access_iff.mp hrun
    rw [hnone] at hr
    exact ⟨ht, hr.trans (congrArg _ (refuse_destroyed hd _)), hsame⟩
  | setInterfaceAdmin port isUp =>
    cases ha
    obtain ⟨ht, hr, hsame, -⟩ := (runs_configDb_bind hnone).mp (On.runs_bind_get_iff.mp hr)
    exact ⟨ht, hr.trans (congrArg _ (refuse_destroyed hd _)), hsame⟩
  | addIpAddress port cidr =>
    cases ha
    obtain ⟨ht, hr, hsame, -⟩ := (runs_configDb_bind hnone).mp (On.runs_bind_get_iff.mp hr)
    exact ⟨ht, hr.trans (congrArg _ (refuse_destroyed hd _)), hsame⟩

/-! ## The cleanup of the network -/

/-- A request to delete a link in the namespace of a process. -/
inductive Query.DeletesLinkOf (pid : Nat) : Query → Prop where
  | delete (link : String) :
    DeletesLinkOf pid (.run ((NetScope.ofPid pid).enter ⟨"ip", ["link", "del", link]⟩))

/-- The state of the switch does not matter. The links are listed, and some of them deleted. -/
theorem runs_networkCleanup {pid : Nat} {links : Except Fault (List String)} (hp : d.pid = some pid)
    (hr : Attempt.Runs d.networkCleanup l t links l') :
    ∃ reply rest,
      t = Command.ran
        ⟨"nsenter", ["-t", toString pid, "-n", "ip", "-o", "link", "show"]⟩ reply :: rest ∧
      ∀ x ∈ rest, Query.DeletesLinkOf pid x.request := by
  rw [networkCleanup, hp] at hr
  rcases Attempt.runs_bind_iff.mp hr with ⟨u, v, output, l₁, rfl, hu, hv⟩ | ⟨fault, rfl, hu⟩
  · obtain ⟨reply, rfl, rfl, -⟩ := (NetScope.calls_ip _ _ _ _).mp hu
    have deletes (link : String) : Attempt.Asks (Query.DeletesLinkOf pid)
        ((NetScope.ofPid pid).deleteLink link) := NetScope.asks_deleteLink_of (.delete link)
    have rest : ∀ x ∈ v, Query.DeletesLinkOf pid x.request :=
      (((Attempt.Asks.forIn fun link => deletes link).bind fun _ => .pure).of_runs hv).1
    exact ⟨reply, v, rfl, rest⟩
  · obtain ⟨reply, rfl, rfl, -⟩ := (NetScope.calls_ip _ _ _ _).mp hu
    exact ⟨reply, [], rfl, List.forall_mem_nil _⟩

theorem runs_networkCleanup_of_act (hr : On.Runs Operation.networkCleanup.act d l t r d' l') :
    ∃ links, Attempt.Runs d.networkCleanup l t links l' := by
  rcases On.runs_bind_lift_iff.mp (On.runs_bind_get_iff.mp hr) with
    ⟨u, v, links, l₁, rfl, hu, hv⟩ | ⟨fault, -, -, h⟩
  · obtain ⟨rfl, -, -, rfl⟩ := On.runs_pure_iff.mp hv
    exact ⟨.ok links, by rwa [List.append_nil]⟩
  · exact ⟨.error fault, h⟩

/-! ## All that is done afterwards -/

/-- What is asked for a switch after it was destroyed; `d₀` is the switch as it was made, and `d`
what became of it. -/
structure AskedAfterwards (d₀ d : Device) (events : List (Event Handling Device)) : Prop where
  /-- The operations of the switch have an answer that does not depend on anything. -/
  silent : ∀ e ∈ events, e.before.state = .destroyed → ∀ op answer, e.operation = .operation op →
    op.lastAnswer? = some answer → e.trace = [] ∧ e.result = answer ∧ e.after = e.before
  dropped : d.state = .destroyed → ∀ l t l', Lab.Runs d.drop l t () l' → t = []
  /-- The cleanup lists the links where the switch was, whoever the process is now. -/
  cleanup : ∀ e ∈ events, e.before.state = .destroyed → e.operation = .operation .networkCleanup →
    ∃ pid reply rest, d₀.pid = some pid ∧
      e.trace = Command.ran
        ⟨"nsenter", ["-t", toString pid, "-n", "ip", "-o", "link", "show"]⟩ reply :: rest ∧
      ∀ x ∈ rest, Query.DeletesLinkOf pid x.request

/-- A switch that was made knows its process, and remembers it. -/
theorem history_askedAfterwards {events : List (Event Handling Device)}
    (hc : Attempt.Runs (create spec) l t (.ok d₀) l') (hh : History Handling.act d₀ events d) :
    AskedAfterwards d₀ d events := by
  have hsetUp := runs_create_ok hc
  have hmaking := making_of_setUp hsetUp
  have stores₀ : d₀.HoldsStores := by simp [HoldsStores, hmaking.state, hmaking.stores]
  have stores := holdsStores_of_history hh stores₀
  have made := (made_of_history hh).1
  refine ⟨fun e he hd op answer hop ha => ?_, fun hd l t l' hr => ?_, fun e he hd hop => ?_⟩
  · obtain ⟨l, l', hr⟩ := hh.ran e he
    rw [hop] at hr
    exact runs_act_destroyed hd (stores e he) ha hr
  · have hdrop := runs_drop hr
    rwa [if_pos (.inr hd)] at hdrop
  · obtain ⟨l, l', hr⟩ := hh.ran e he
    rw [hop] at hr
    obtain ⟨pid, hpid⟩ := hasPid_of_setUp hsetUp
    have hsame := congrArg Device.pid (made e he)
    have hbefore : e.before.pid = some pid := Eq.trans hsame hpid
    obtain ⟨links, hrun⟩ := runs_networkCleanup_of_act hr
    obtain ⟨reply, rest, ht, hrest⟩ := runs_networkCleanup hbefore hrun
    exact ⟨pid, reply, rest, hpid, ht, hrest⟩

end Device

end SwitchLab

/-! ## A cleanup that comes late

The switch with the late port is destroyed, and its containers are gone. Another process has the
number of the one that held its namespace, and a link of its own. -/

namespace SwitchLab.LatePort

open Device

def lateCleanup : Trace Host :=
  [Command.ran ⟨"nsenter", ["-t", "7", "-n", "ip", "-o", "link", "show"]⟩
      (.ok ⟨0, "1: lo: <LOOPBACK,UP> mtu 65536
2: web0@if9: <BROADCAST,UP> mtu 1500
", ""⟩),
    silently "nsenter" ["-t", "7", "-n", "ip", "link", "del", "web0"]]

def handled : List (Event Handling Device) :=
  [⟨.operation .checkReady, madeDevice, trace, .ok (), usedDevice⟩,
    ⟨.operation .destroy, usedDevice, teardown, .error busy, goneDevice⟩,
    ⟨.operation .restart, goneDevice, [], .error (.invalidState "destroyed" "restart"), goneDevice⟩,
    ⟨.operation .networkCleanup, goneDevice, lateCleanup, .ok (), goneDevice⟩]

theorem handling : History Handling.act madeDevice handled goneDevice := by
  have restart : On.Runs Device.restart goneDevice ledger []
      (.error (.invalidState "destroyed" "restart")) goneDevice ledger :=
    Dialogue.runs_of_replay (by decide +kernel)
  have cleanup : On.Runs (Handling.operation .networkCleanup).act goneDevice ledger lateCleanup
      (.ok ()) goneDevice ledger := Dialogue.runs_of_replay (by decide +kernel)
  have first : Event.Ran Handling.act
      ⟨.operation .checkReady, madeDevice, trace, .ok (), usedDevice⟩ := ⟨_, _, runs_becomeReady⟩
  have second : Event.Ran Handling.act
      ⟨.operation .destroy, usedDevice, teardown, .error busy, goneDevice⟩ := ⟨_, _, runs_destroy⟩
  have third : Event.Ran Handling.act ⟨.operation .restart, goneDevice, [],
      .error (.invalidState "destroyed" "restart"), goneDevice⟩ := ⟨_, _, restart⟩
  have last : Event.Ran Handling.act
      ⟨.operation .networkCleanup, goneDevice, lateCleanup, .ok (), goneDevice⟩ := ⟨_, _, cleanup⟩
  exact .cons first (.cons second (.cons third (.cons last (.nil _))))

theorem handled_askedAfterwards :
    Attempt.Runs (create spec) .empty making (.ok madeDevice) .empty ∧
    History Handling.act madeDevice handled goneDevice ∧
    AskedAfterwards madeDevice goneDevice handled :=
  ⟨runs_create, handling, history_askedAfterwards runs_create handling⟩

/-- The link of the other process is deleted. -/
theorem cleanup_deletes_link :
    Attempt.Runs (create spec) .empty making (.ok madeDevice) .empty ∧
    History Handling.act madeDevice handled goneDevice ∧
    ∃ e ∈ handled, e.before.state = .destroyed ∧ e.operation = .operation .networkCleanup ∧
      ∃ x ∈ e.trace,
        x.request = .run ⟨"nsenter", ["-t", "7", "-n", "ip", "link", "del", "web0"]⟩ := by
  refine ⟨runs_create, handling, _, List.mem_of_getElem? (i := 3) rfl, rfl, rfl, _,
    List.mem_of_getElem? (i := 1) rfl, rfl⟩

end SwitchLab.LatePort
