import SwitchLab.Proofs.Lifecycle
import SwitchLab.Proofs.Teardown

/-! A switch while it is made. At any time the servers that are noted have
namespaces of their own, which were made for them and not deleted since. -/

namespace SwitchLab

variable {l l' : Ledger} {t u v : Trace Host} {spec : DeviceSpec}

/-! ## Namespaces of servers -/

namespace Namespace

/-- The namespace is made, and not deleted after that. -/
def MadeIn (ns : Namespace) (t : Trace Host) : Prop :=
  ∃ v x w, t = v ++ x :: w ∧ Command.Done ⟨"ip", ["netns", "add", ns.name]⟩ x ∧
    ∀ y ∈ w, y.request ≠ .run ns.deleteCommand

variable {ns : Namespace}

theorem MadeIn.append (h : ns.MadeIn t) (hu : ∀ y ∈ u, y.request ≠ .run ns.deleteCommand) :
    ns.MadeIn (t ++ u) := by
  obtain ⟨v, x, w, rfl, hx, hw⟩ := h
  exact ⟨v, x, w ++ u, by simp, hx, List.forall_mem_append.mpr ⟨hw, hu⟩⟩

theorem MadeIn.before (h : ns.MadeIn t) : ns.MadeIn (u ++ t) := by
  obtain ⟨v, x, w, rfl, hx, hw⟩ := h
  exact ⟨u ++ v, x, w, by simp, hx, hw⟩

theorem not_deletes_of_spares (h : Spares t) : ∀ y ∈ t, y.request ≠ .run ns.deleteCommand := by
  intro y hy he
  have hfalse := h y hy
  rw [he] at hfalse
  simp [Query.removes, deleteCommand, Command.removes] at hfalse

theorem runs_create_ok {name : String} (hr : Attempt.Runs (create name) l t (.ok ns) l') :
    ns = ⟨name⟩ ∧ ns.MadeIn t := by
  obtain ⟨u, _, ⟨⟩, l₁, rfl, -, hr⟩ := Attempt.runs_bind_ok_iff.mp hr
  obtain ⟨v, _, output, l₂, rfl, hadd, hr⟩ := Attempt.runs_bind_ok_iff.mp hr
  obtain ⟨w, _, x, l₃, rfl, hup, hr⟩ := Attempt.runs_bind_ok_iff.mp hr
  obtain ⟨rfl, hns, -⟩ := Attempt.runs_pure_iff.mp hr
  cases hns
  obtain ⟨reply, rfl, -, hreply⟩ := (calls_check _ _ _ _).mp hadd
  obtain ⟨rfl, hsuccess⟩ := checked_eq_ok_iff.mp hreply.symm
  have up : Spares w := ((NetScope.asks_exec allows_spares rfl rfl).result.of_runs hup).1
  refine ⟨rfl, u, _, w, by simp, ⟨output, rfl, hsuccess⟩, not_deletes_of_spares up⟩

end Namespace

@[simp] theorem natRepr_inj {i j : Nat} : i.repr = j.repr ↔ i = j := by
  constructor
  · intro h
    have hdigits : Nat.toDigits 10 i = Nat.toDigits 10 j := by
      simpa only [Nat.toList_repr] using congrArg String.toList h
    calc i = Nat.ofDigitChars 10 (Nat.toDigits 10 i) 0 := Nat.ofDigitChars_ten_toDigits.symm
      _ = Nat.ofDigitChars 10 (Nat.toDigits 10 j) 0 := by rw [hdigits]
      _ = j := Nat.ofDigitChars_ten_toDigits
  · rintro rfl
    rfl

namespace VirtualServer

variable {netnsDir container : String} {pid index : Nat}

theorem namespaceName_inj {i j : Nat} :
    namespaceName container i = namespaceName container j ↔ i = j :=
  (String.append_right_inj _).trans natRepr_inj

/-- All that is removed while a server is made is what is left of its namespace. -/
theorem removes_create {r : Except Fault VirtualServer}
    (hr : Attempt.Runs (create netnsDir container pid index) l t r l') :
    ∀ x ∈ t, x.request.removes = true →
      x.request = .run (Namespace.deleteCommand ⟨namespaceName container index⟩) := by
  have allows : Allows fun q => q.removes = true →
      q = .run (Namespace.deleteCommand ⟨namespaceName container index⟩) :=
    allows_spares.mono fun q hq hr => by simp [hq] at hr
  exact ((asks_create allows fun _ => rfl).of_runs hr).1

/-- A server that was made has a namespace of its own. -/
theorem runs_create_ok {s : VirtualServer}
    (hr : Attempt.Runs (create netnsDir container pid index) l t (.ok s) l') :
    s.ns.name = namespaceName container index ∧ s.destroyed = false ∧
      (s.provision = .created → s.ns.MadeIn t) := by
  obtain ⟨u, v, isPresent, l₁, rfl, hpresent, hr⟩ := Attempt.runs_bind_ok_iff.mp hr
  cases isPresent with
  | true =>
    obtain ⟨v, w, ⟨⟨⟩, s'⟩, l₂, rfl, hkill, hr⟩ := Attempt.runs_bind_ok_iff.mp hr
    obtain ⟨rfl, hs, -⟩ := Attempt.runs_pure_iff.mp hr
    cases hs
    obtain ⟨_, hx, hkill⟩ := Attempt.runs_lift_iff.mp hkill
    cases hx
    obtain ⟨-, hmade, hdestroyed⟩ := runs_killAll hkill
    have hns : s.ns = ⟨namespaceName container index⟩ := congrArg VirtualServer.ns hmade
    have hadopted : s.provision = .adopted := congrArg VirtualServer.provision hmade
    exact ⟨by rw [hns], hdestroyed, fun h => by simp [hadopted] at h⟩
  | false =>
    obtain ⟨v, w, ns, l₂, rfl, hcreate, hr⟩ := Attempt.runs_bind_ok_iff.mp hr
    obtain ⟨w, x, wired, l₃, rfl, hwire, hr⟩ := Attempt.runs_bind_ok_iff.mp hr
    cases wired with
    | error fault =>
      obtain ⟨_, _, _, _, rfl, _, hr⟩ := Attempt.runs_bind_ok_iff.mp hr
      cases (Attempt.runs_throw_iff.mp hr).2.1
    | ok a =>
      obtain ⟨rfl, hs, -⟩ := Attempt.runs_pure_iff.mp hr
      cases hs
      obtain ⟨rfl, hmade⟩ := Namespace.runs_create_ok hcreate
      have wire : Spares w := ((asks_wire allows_spares.use.runs
        (allows_linkCommands allows_spares)).result.of_runs hwire).1
      refine ⟨rfl, rfl, fun _ => Namespace.MadeIn.before ?_⟩
      rw [List.append_nil]
      exact hmade.append (Namespace.not_deletes_of_spares wire)

end VirtualServer

namespace Device

/-! ## Making a switch -/

/-- A switch that is being made, after all that was asked so far. -/
structure Making (spec : DeviceSpec) (d : Device) (t : Trace Host) : Prop where
  forSpec : d.spec = spec
  state : d.state = .creating
  stores : d.stores = none
  holder : d.holder = none ∨ d.holder = some spec.holderName
  /-- Only namespaces were removed. -/
  removed : ∀ x ∈ t, x.request.removes = true → ∃ ns : Namespace, x.request = .run ns.deleteCommand
  /-- The servers are numbered, and the namespaces that were made for them are there. -/
  names : d.servers.map (·.ns.name) =
    (List.range d.servers.length).map (VirtualServer.namespaceName spec.name)
  servers : ∀ s ∈ d.servers, s.destroyed = false ∧ (s.provision = .created → s.ns.MadeIn t)

namespace Making

variable {d : Device}

theorem spares (h : Making spec d t) (hu : Spares u) : Making spec d (t ++ u) where
  forSpec := h.forSpec
  state := h.state
  stores := h.stores
  holder := h.holder
  removed x hx hr := by
    rcases List.mem_append.mp hx with hx | hx
    · exact h.removed x hx hr
    · simp [hu x hx] at hr
  names := h.names
  servers s hs := ⟨(h.servers s hs).1, fun hc =>
    ((h.servers s hs).2 hc).append (Namespace.not_deletes_of_spares hu)⟩

/-- A server is made, or not, after those that there are. -/
theorem server (h : Making spec d t)
    (hu : ∀ x ∈ u, x.request.removes = true → x.request = .run (Namespace.deleteCommand
      ⟨VirtualServer.namespaceName spec.name d.servers.length⟩)) : Making spec d (t ++ u) where
  forSpec := h.forSpec
  state := h.state
  stores := h.stores
  holder := h.holder
  removed x hx hr := by
    rcases List.mem_append.mp hx with hx | hx
    · exact h.removed x hx hr
    · exact ⟨_, hu x hx hr⟩
  names := h.names
  servers s hs := by
    refine ⟨(h.servers s hs).1, fun hc => ((h.servers s hs).2 hc).append fun x hx he => ?_⟩
    -- what is deleted in between has the number of the new server
    have hdel : x.request.removes = true := by
      rw [he]
      simp [Query.removes, Namespace.deleteCommand, Command.removes]
    have hname : s.ns.name = VirtualServer.namespaceName spec.name d.servers.length := by
      have hsame := he.symm.trans (hu x hx hdel)
      simpa [Namespace.deleteCommand] using hsame
    have hmem : s.ns.name ∈ d.servers.map (·.ns.name) := List.mem_map_of_mem hs
    rw [h.names, hname] at hmem
    obtain ⟨i, hi, heq⟩ := List.mem_map.mp hmem
    rw [VirtualServer.namespaceName_inj.mp heq] at hi
    simp at hi

theorem addServer {s : VirtualServer} (h : Making spec d t)
    (hname : s.ns.name = VirtualServer.namespaceName spec.name d.servers.length)
    (hs : s.destroyed = false) (hmade : s.provision = .created → s.ns.MadeIn t) :
    Making spec { d with servers := d.servers ++ [s] } t where
  forSpec := h.forSpec
  state := h.state
  stores := h.stores
  holder := h.holder
  removed := h.removed
  names := by simp [h.names, hname, List.range_succ]
  servers s' hs' := by
    rcases List.mem_append.mp hs' with hs' | hs'
    · exact h.servers s' hs'
    · obtain rfl := List.mem_singleton.mp hs'
      exact ⟨hs, hmade⟩

end Making

theorem preserves_createServers {pid count index : Nat} :
    ∀ {d l t u r d' l'}, Making spec d u → d.servers.length = index →
      On.Runs (createServers pid index count) d l t r d' l' → Making spec d' (u ++ t) := by
  induction count generalizing index with
  | zero =>
    intro d l t u r d' l' hd _ hr
    obtain ⟨rfl, -, rfl, -⟩ := On.runs_pure_iff.mp hr
    rwa [List.append_nil]
  | succ count ih =>
    rintro d l t u r d' l' hd rfl hr
    rcases On.runs_bind_lift_iff.mp (On.runs_bind_get_iff.mp hr) with
      ⟨v, w, s, l₁, rfl, hrun, hrest⟩ | ⟨e, rfl, rfl, hrun⟩
    · have hrest := On.runs_bind_modify_iff.mp hrest
      have hremoves := VirtualServer.removes_create hrun
      obtain ⟨hname, hs, hmade⟩ := VirtualServer.runs_create_ok hrun
      rw [hd.forSpec] at hremoves hname
      have hnext := (hd.server hremoves).addServer hname hs fun hc => (hmade hc).before
      rw [← List.append_assoc]
      exact ih hnext (by simp) hrest
    · have hremoves := VirtualServer.removes_create hrun
      rw [hd.forSpec] at hremoves
      exact hd.server hremoves

/-- A step that removes nothing, and what comes after it. -/
theorem Making.bind_lift {α β : Type} {work : Attempt α} {f : α → On Device β} {d d' : Device}
    {r : Except Fault β} (hd : Making spec d u)
    (hw : Attempt.Asks (fun q => q.removes = false) work)
    (hr : On.Runs ((liftM work : On Device α) >>= f) d l t r d' l')
    (hf : ∀ {a v w l₁}, Making spec d (u ++ v) → On.Runs (f a) d l₁ w r d' l' →
      Making spec d' (u ++ v ++ w)) : Making spec d' (u ++ t) := by
  rcases On.runs_bind_lift_iff.mp hr with ⟨v, w, a, l₁, rfl, hrun, hrest⟩ | ⟨e, rfl, rfl, hrun⟩
  · rw [← List.append_assoc]
    exact hf (hd.spares (hw.of_runs hrun).1) hrest
  · exact hd.spares (hw.of_runs hrun).1

/-- The last steps: the container of the switch. -/
theorem preserves_switchContainer {d d' : Device} {r : Except Fault Unit}
    (hd : Making spec d u) (hr : On.Runs (do
      let _ ← Container.create (switchSpec spec)
      if let some config := spec.defaultConfig then
        Container.copyIn config spec.name "/etc/sonic/config_db.json"
      Container.start spec.name : On Device Unit) d l t r d' l') : Making spec d' (u ++ t) := by
  refine hd.bind_lift (asks_create allows_spares.making) hr fun hd hr => ?_
  cases hc : spec.defaultConfig with
  | none =>
    simp only [hc] at hr
    obtain ⟨rfl, hrun⟩ := On.runs_lift_iff.mp hr
    exact hd.spares ((asks_start allows_spares.making).of_runs hrun).1
  | some config =>
    simp only [hc] at hr
    refine hd.bind_lift (asks_copyIn allows_spares.containers) hr fun hd hr => ?_
    obtain ⟨rfl, hrun⟩ := On.runs_lift_iff.mp hr
    exact hd.spares ((asks_start allows_spares.making).of_runs hrun).1

/-- No server is noted before the servers are made. -/
theorem preserves_provision {d d' : Device} {r : Except Fault Unit} (hd : Making spec d u)
    (hs : d.servers = []) (hr : On.Runs provision d l t r d' l') : Making spec d' (u ++ t) := by
  obtain rfl := hd.forSpec
  refine hd.bind_lift (asks_check rfl) (On.runs_bind_get_iff.mp hr) fun hd hr => ?_
  have hd : Making d.spec { d with holder := some d.spec.holderName } _ :=
    { hd with holder := .inr rfl }
  refine hd.bind_lift (asks_createAndStart allows_spares.making) (On.runs_bind_modify_iff.mp hr)
    fun hd hr => ?_
  refine hd.bind_lift (asks_pid allows_spares.containers) hr fun hd hr => ?_
  rename_i pid _ _ _
  have hd : Making d.spec { d with holder := some d.spec.holderName, pid := some pid } _ :=
    { hd with }
  have hr := On.runs_bind_modify_iff.mp hr
  by_cases hw : d.spec.withServers = true
  · simp only [if_pos hw] at hr
    rcases On.runs_bind_iff.mp hr with ⟨v, w, a, d₁, l₁, rfl, hservers, hrest⟩ | ⟨e, rfl, hservers⟩
    · rw [← List.append_assoc]
      exact preserves_switchContainer (preserves_createServers hd (by simp [hs]) hservers) hrest
    · exact preserves_createServers hd (by simp [hs]) hservers
  · simp only [if_neg hw] at hr
    exact preserves_switchContainer hd hr

theorem preserves_attach {d d' : Device} {r : Except Fault Unit} (hd : Making spec d u)
    (hs : d.servers = []) (hr : On.Runs attach d l t r d' l') : Making spec d' (u ++ t) := by
  obtain rfl := hd.forSpec
  obtain ⟨v, w, isRunning, l₁, rfl, hrunning, hr⟩ :=
    On.runs_bind_liftLab_iff.mp (On.runs_bind_get_iff.mp hr)
  have hd := hd.spares ((asks_isRunning allows_spares.containers).of_runs hrunning).1
  rw [← List.append_assoc]
  cases isRunning with
  | false =>
    obtain ⟨rfl, -, rfl, -⟩ := On.runs_throw_bind_iff.mp hr
    rwa [List.append_nil]
  | true =>
    refine hd.bind_lift (asks_pid allows_spares.containers) hr fun hd hr => ?_
    rename_i pid _ _ _
    have hd : Making d.spec { d with pid := some pid } _ := { hd with }
    refine hd.bind_lift (NetScope.asks_ip allows_spares rfl) (On.runs_bind_modify_iff.mp hr)
      fun hd hr => ?_
    dsimp only at hr
    split at hr
    · obtain ⟨rfl, -, rfl, -⟩ := On.runs_throw_bind_iff.mp hr
      rwa [List.append_nil]
    · split at hr
      · exact preserves_createServers hd (by simp [hs]) hr
      · obtain ⟨rfl, -, rfl, -⟩ := On.runs_pure_iff.mp hr
        rwa [List.append_nil]

/-- The process that holds the namespace is known. -/
def HasPid (d : Device) : Prop := ∃ pid, d.pid = some pid

theorem establishes_pid_provision : On.Establishes HasPid provision := by
  refine On.Establishes.bind fun d => On.Establishes.bind fun _ => On.Establishes.bind fun _ => ?_
  refine On.Establishes.bind fun _ => On.Establishes.bind fun pid => ?_
  exact On.Establishes.modify_bind (fun _ => ⟨pid, rfl⟩) (keeps_afterHolder
    allows_noStoreCall.toAllows.making (fun _ => allows_noStoreCall.servers) fun _ _ h => h)

theorem establishes_pid_attach : On.Establishes HasPid attach := by
  refine On.Establishes.bind fun d => On.Establishes.bind fun isRunning => ?_
  dsimp only
  split
  · exact .throw_bind
  · refine On.Establishes.bind fun pid => ?_
    refine On.Establishes.modify_bind (P := fun q => q.isStoreCall = false)
      (fun _ => ⟨pid, rfl⟩) ?_
    refine On.Keeps.bind_lift (NetScope.asks_ip allows_noStoreCall.toAllows rfl) fun _ _ => ?_
    split
    · exact .throw_bind
    · split
      · exact keeps_createServers allows_noStoreCall.servers fun _ _ h => h
      · exact .pure

theorem runs_setUp_iff {d : Device} {r : Except Fault Unit} :
    On.Runs setUp (absent spec) l t r d l' ↔
      On.Runs (orDestroy (if spec.attach then attach else provision))
        { absent spec with state := .creating } l t r d l' := Iff.rfl

theorem runs_setUp_ok {d : Device} (hr : On.Runs setUp (absent spec) l t (.ok ()) d l') :
    On.Runs (if spec.attach then attach else provision) { absent spec with state := .creating }
      l t (.ok ()) d l' :=
  runs_orDestroy_ok (runs_setUp_iff.mp hr)

theorem hasPid_of_setUp {d : Device} (hr : On.Runs setUp (absent spec) l t (.ok ()) d l') :
    d.HasPid := by
  have hwork := runs_setUp_ok hr
  split at hwork
  · exact establishes_pid_attach _ _ _ _ _ _ hwork
  · exact establishes_pid_provision _ _ _ _ _ _ hwork

theorem making_of_work {d : Device} {r : Except Fault Unit}
    (hr : On.Runs (if spec.attach then attach else provision)
      { absent spec with state := .creating } l t r d l') : Making spec d t := by
  have start : Making spec { absent spec with state := .creating } [] :=
    ⟨rfl, rfl, rfl, .inl rfl, List.forall_mem_nil _, rfl, List.forall_mem_nil _⟩
  split at hr
  · exact preserves_attach start rfl hr
  · exact preserves_provision start rfl hr

theorem making_of_setUp {d : Device} (hr : On.Runs setUp (absent spec) l t (.ok ()) d l') :
    Making spec d t :=
  making_of_work (runs_setUp_ok hr)

/-- What making a switch leaves: a switch, or the end of what was there of it. -/
theorem runs_setUp_cases {d : Device} {r : Except Fault Unit}
    (hr : On.Runs setUp (absent spec) l t r d l') :
    (r = .ok () ∧ Making spec d t) ∨
    ∃ fault u v d₁, r = .error fault ∧ t = u ++ v ∧ Making spec d₁ u ∧ d₁.Ended v d := by
  rcases runs_orDestroy_cases (runs_setUp_iff.mp hr) with
    ⟨⟨⟩, rfl, hwork⟩ | ⟨fault, u, v, d₁, l₁, rfl, rfl, hwork, hend⟩
  · exact .inl ⟨rfl, making_of_work hwork⟩
  · exact .inr ⟨fault, u, v, d₁, rfl, rfl, making_of_work hwork, hend⟩

end Device

end SwitchLab
