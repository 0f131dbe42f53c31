import SwitchLab.Proofs.Afterwards
import SwitchLab.Proofs.Servers

/-! What a session leaves alone that attaches to a switch: its containers, and the
servers whose namespaces were there. It makes the other servers, and takes back
no more than these. -/

namespace SwitchLab

variable {l l' : Ledger} {t u v : Trace Host} {spec : DeviceSpec} {e : Exchange Host}

/-! ## The commands of one server -/

namespace VirtualServer

variable {container : String} {pid i j : Nat} {c : Command}

/-- The two ends of a pair have different names, whatever servers they are of. -/
theorem transientEnds_ne : s!"dv{pid}s{i}a" ≠ s!"dv{pid}s{j}b" := by
  intro h
  change _ ++ "a" = _ ++ "b" at h
  have hlast := congrArg (·.toList.getLast?) h
  simp at hlast

/-- No command serves to arrange two servers of a switch. -/
theorem index_eq_of_arrangement (hi : c ∈ (new container i .created).arrangement pid)
    (hj : c ∈ (new container j .created).arrangement pid) : i = j := by
  simp only [arrangement, linkCommands, transientEnds, new, Namespace.deleteCommand,
    Namespace.scope, NetScope.enter, List.mem_cons, List.not_mem_nil, or_false] at hi hj
  rcases hi with rfl | rfl | rfl | rfl | rfl | rfl | rfl | rfl | rfl <;>
    simp [namespaceName] at hj
  any_goals exact hj
  -- only the two moves to other namespaces have a form in common
  · exact hj.resolve_right fun h => transientEnds_ne h.1
  · exact hj.resolve_left fun h => transientEnds_ne h.1.symm

/-- The files of the namespaces are different. -/
theorem joinPath_namespaceName_inj {dir : String} :
    Text.joinPath dir (namespaceName container i) = Text.joinPath dir (namespaceName container j) ↔
      i = j := by
  have absolute (k : Nat) : Text.isAbsolutePath (namespaceName container k) =
      Text.isAbsolutePath (container ++ "-srv") := by
    change Text.isAbsolutePath (container ++ "-srv" ++ k.repr) = _
    simp [Text.isAbsolutePath, List.head?_append]
  constructor
  · intro h
    simp only [Text.joinPath, absolute] at h
    split at h
    · exact namespaceName_inj.mp h
    · split at h
      · exact namespaceName_inj.mp ((String.append_right_inj _).mp h)
      · exact namespaceName_inj.mp ((String.append_right_inj _).mp h)
  · rintro rfl
    rfl

/-- The namespace that is deleted to arrange a server is its own. -/
theorem eq_of_deleteCommand {s : VirtualServer} {ns : Namespace}
    (h : ns.deleteCommand ∈ s.arrangement pid) : ns = s.ns := by
  simp only [arrangement, linkCommands, Namespace.deleteCommand, Namespace.scope, NetScope.enter,
    List.mem_cons, List.not_mem_nil, or_false] at h
  simp at h
  exact congrArg Namespace.mk h

theorem arranges_of_arrangement {s : VirtualServer} :
    ∀ c ∈ s.arrangement pid, (Query.run c).arranges = true := by
  simp only [arrangement, linkCommands, List.forall_mem_cons]
  exact ⟨rfl, rfl, rfl, rfl, rfl, rfl, rfl, rfl, rfl, List.forall_mem_nil _⟩

theorem handlesSwitches_of_arrangement {s : VirtualServer} :
    ∀ c ∈ s.arrangement pid, (Query.run c).handlesSwitches = false := by
  simp only [arrangement, linkCommands, List.forall_mem_cons]
  exact ⟨rfl, rfl, rfl, rfl, rfl, rfl, rfl, rfl, rfl, List.forall_mem_nil _⟩

end VirtualServer

namespace DeviceSpec

/-- The namespace of server `i` of the switch. -/
def serverNamespace (spec : DeviceSpec) (i : Nat) : Namespace :=
  ⟨VirtualServer.namespaceName spec.name i⟩

/-- The commands that arrange server `i`, if the process `pid` holds the namespace of the switch. -/
def arrangement (spec : DeviceSpec) (pid i : Nat) : List Command :=
  (VirtualServer.new spec.name i .created).arrangement pid

end DeviceSpec

/-! ## What the host says of namespaces -/

/-- The host is asked for the namespace of server `i`, and says that it is there, or not. -/
def DeviceSpec.lookup (spec : DeviceSpec) (i : Nat) (isPresent : Bool) : Exchange Host :=
  ⟨.pathExists (Text.joinPath spec.netnsDir (spec.serverNamespace i).name), isPresent⟩

theorem DeviceSpec.lookup_inj {i j : Nat} {b b' : Bool} :
    spec.lookup i b = spec.lookup j b' ↔ i = j ∧ b = b' := by
  constructor
  · intro h
    have hpath := congrArg Exchange.request h
    refine ⟨VirtualServer.joinPath_namespaceName_inj.mp (Query.pathExists.inj hpath), ?_⟩
    cases VirtualServer.joinPath_namespaceName_inj.mp (Query.pathExists.inj hpath)
    cases h
    rfl
  · rintro ⟨rfl, rfl⟩
    rfl

def Query.looksUp : Query → Bool
  | pathExists _ => true
  | _ => false

/-- What is there is used, and no file is looked up. -/
def Query.Idle (q : Query) : Prop := q.meddles = false ∧ q.looksUp = false

theorem allowsUse_use : AllowsUse fun q => q.meddles = false := fun _ _ h => h

theorem allowsStores_use : AllowsStores fun q => q.meddles = false :=
  fun _ h => Query.meddles_of_storeCall h

theorem allowsContainers_idle : AllowsContainers Query.Idle where
  docker verb args h := ⟨allowsUse_use.containers.docker verb args h, rfl⟩
  now := ⟨rfl, rfl⟩
  pause _ := ⟨rfl, rfl⟩
  makeDirectory _ := ⟨rfl, rfl⟩
  writeFile _ _ := ⟨rfl, rfl⟩

theorem Query.IsKilling.looksUp {q : Query} (h : q.IsKilling) : q.looksUp = false := by
  cases h <;> rfl

/-- The host is asked once for the namespaces of the servers from `index` on, and for no other
file. -/
structure LookedUp (spec : DeviceSpec) (index : Nat) (t : Trace Host) : Prop where
  asked : ∀ e ∈ t, e.request.looksUp = true → ∃ i b, index ≤ i ∧ e = spec.lookup i b
  once : ∀ i, spec.lookup i true ∈ t → spec.lookup i false ∉ t

namespace LookedUp

variable {index : Nat}

theorem mono (h : LookedUp spec index t) (hu : ∀ e ∈ u, e.request.looksUp = true → e ∈ t) :
    LookedUp spec index u where
  asked e he hl := h.asked e (hu e he hl) hl
  once i hpresent habsent := h.once i (hu _ hpresent rfl) (hu _ habsent rfl)

theorem nil : LookedUp spec index [] where
  asked := List.forall_mem_nil _
  once _ h := absurd h List.not_mem_nil

theorem before (h : LookedUp spec index t) (hu : ∀ e ∈ u, e.request.looksUp = false) :
    LookedUp spec index (u ++ t) :=
  h.mono fun e he hl => (List.mem_append.mp he).resolve_left fun he => by simp [hu e he] at hl

theorem append (h : LookedUp spec index t) (hu : ∀ e ∈ u, e.request.looksUp = false) :
    LookedUp spec index (t ++ u) :=
  h.mono fun e he hl => (List.mem_append.mp he).resolve_right fun he => by simp [hu e he] at hl

/-- The answer for one server comes before those for the others. -/
theorem cons {b : Bool} (h : LookedUp spec (index + 1) t) :
    LookedUp spec index (spec.lookup index b :: t) := by
  refine ⟨List.forall_mem_cons.mpr ⟨fun _ => ⟨index, b, Nat.le_refl _, rfl⟩, fun e he hl => ?_⟩,
    fun i hpresent habsent => ?_⟩
  · obtain ⟨i, b', hi, rfl⟩ := h.asked e he hl
    exact ⟨i, b', by omega, rfl⟩
  · -- the answers in `t` are for later servers, so only one is for this one
    have later {b' : Bool} (hmem : spec.lookup i b' ∈ t) : index < i := by
      obtain ⟨j, b'', hj, heq⟩ := h.asked _ hmem rfl
      obtain ⟨rfl, -⟩ := DeviceSpec.lookup_inj.mp heq
      omega
    rcases List.mem_cons.mp hpresent with hfirst | hlate
    · obtain ⟨rfl, rfl⟩ := DeviceSpec.lookup_inj.mp hfirst
      rcases List.mem_cons.mp habsent with hfirst | hlate
      · cases (DeviceSpec.lookup_inj.mp hfirst).2
      · exact absurd (later hlate) (Nat.lt_irrefl _)
    · rcases List.mem_cons.mp habsent with hfirst | hlate'
      · obtain ⟨rfl, -⟩ := DeviceSpec.lookup_inj.mp hfirst
        exact absurd (later hlate) (Nat.lt_irrefl _)
      · exact h.once i hlate hlate'

end LookedUp

/-! ## Making the servers -/

/-- The request is one of those that arrange a server of which the host said that there was none. -/
def Query.ArrangesMissing (spec : DeviceSpec) (pid : Option Nat) (t : Trace Host) (q : Query) :
    Prop :=
  ∃ i p, pid = some p ∧ spec.lookup i false ∈ t ∧ ∃ c ∈ spec.arrangement p i, q = .run c

theorem Query.ArrangesMissing.mono {q : Query} {pid : Option Nat}
    (h : q.ArrangesMissing spec pid t) (hsub : t ⊆ u) : q.ArrangesMissing spec pid u := by
  obtain ⟨i, p, hp, hmem, hc⟩ := h
  exact ⟨i, p, hp, hsub hmem, hc⟩

theorem Query.ArrangesMissing.handlesSwitches {q : Query} {pid : Option Nat}
    (h : q.ArrangesMissing spec pid t) : q.handlesSwitches = false := by
  obtain ⟨i, p, -, -, c, hc, rfl⟩ := h
  exact VirtualServer.handlesSwitches_of_arrangement c hc

/-- No namespace is deleted for a server but its own. -/
theorem Query.ArrangesMissing.deletes {q : Query} {ns : Namespace} {pid : Option Nat}
    (h : q.ArrangesMissing spec pid t) (hq : q.command? = some ns.deleteCommand) :
    ∃ i, ns = spec.serverNamespace i ∧ spec.lookup i false ∈ t := by
  obtain ⟨i, p, -, habsent, c, hc, rfl⟩ := h
  obtain rfl : c = ns.deleteCommand := Option.some.inj hq
  exact ⟨i, VirtualServer.eq_of_deleteCommand hc, habsent⟩

/-- What does more than use what is there arranges a server that was missing. -/
def InPlace (spec : DeviceSpec) (pid : Option Nat) (before : Trace Host) (e : Exchange Host) :
    Prop :=
  e.request.meddles = true → e.request.ArrangesMissing spec pid before

theorem InPlace.of_use {pid : Option Nat} (h : ∀ e ∈ t, e.request.meddles = false) :
    Gated (InPlace spec pid) u t :=
  .of_forall fun e he v hm => by simp [h e he] at hm

namespace VirtualServer

variable {pid index : Nat} {r : Except Fault VirtualServer}

/-- Making a server begins with the question whether its namespace is there. -/
theorem runs_create_arranged
    (hr : Attempt.Runs (create spec.netnsDir spec.name pid index) l t r l') :
    ∃ b rest, t = spec.lookup index b :: rest ∧ (∀ e ∈ rest, e.request.looksUp = false) ∧
      ∀ u, Gated (InPlace spec (some pid)) u t := by
  rcases runs_create_cases hr with ⟨rest, rfl, hkilling, -⟩ | ⟨rest, rfl, hruns, -⟩
  · refine ⟨true, rest, rfl, fun e he => (hkilling e he).looksUp, fun u => InPlace.of_use ?_⟩
    exact List.forall_mem_cons.mpr ⟨rfl, fun e he => (hkilling e he).meddles⟩
  · refine ⟨false, rest, rfl, fun e he => ?_, fun u before e after hsplit hm => ?_⟩
    · obtain ⟨c, hc, -⟩ := hruns e he
      rw [hc]
      rfl
    · cases before with
      | nil =>
        obtain ⟨rfl, -⟩ := List.cons.inj hsplit
        cases hm
      | cons first before =>
        obtain ⟨rfl, rfl⟩ := List.cons.inj hsplit
        obtain ⟨c, hc, harranged⟩ := hruns e (by simp)
        exact ⟨index, pid, rfl, List.mem_append_right u List.mem_cons_self, c, harranged hm, hc⟩

end VirtualServer

namespace Device

variable {d d₀ d' : Device}

theorem runs_createServers_arranged {pid count index : Nat} :
    ∀ {d l t r d' l'}, d.spec = spec → On.Runs (createServers pid index count) d l t r d' l' →
      LookedUp spec index t ∧ ∀ u, Gated (InPlace spec (some pid)) u t := by
  induction count generalizing index with
  | zero =>
    intro d l t r d' l' hd hr
    obtain ⟨rfl, -⟩ := On.runs_pure_iff.mp hr
    exact ⟨.nil, fun u => .nil⟩
  | succ count ih =>
    intro d l t r d' l' hd hr
    rcases On.runs_bind_lift_iff.mp (On.runs_bind_get_iff.mp hr) with
      ⟨v, w, s, l₁, rfl, hcreate, hrest⟩ | ⟨fault, -, -, hcreate⟩
    · rw [hd] at hcreate
      obtain ⟨b, rest, rfl, hnone, hgated⟩ := VirtualServer.runs_create_arranged hcreate
      obtain ⟨hlooked, hlater⟩ := ih (by exact hd) (On.runs_bind_modify_iff.mp hrest)
      exact ⟨(hlooked.before hnone).cons, fun u => (hgated u).append (hlater _)⟩
    · rw [hd] at hcreate
      obtain ⟨b, rest, rfl, hnone, hgated⟩ := VirtualServer.runs_create_arranged hcreate
      have alone : LookedUp spec (index + 1) (rest ++ []) := LookedUp.nil.before hnone
      rw [List.append_nil] at alone
      exact ⟨alone.cons, hgated⟩

/-! ## Attaching -/

/-- A switch, after all that was asked so far to attach to it. -/
structure Arranged (spec : DeviceSpec) (d : Device) (t : Trace Host) : Prop where
  inPlace : Gated (InPlace spec d.pid) [] t
  lookedUp : LookedUp spec 0 t
  pid : d.servers ≠ [] → ∃ p, d.pid = some p

namespace Arranged

theorem nil (hd : d.servers = []) : Arranged spec d [] := ⟨.nil, .nil, fun h => absurd hd h⟩

theorem before (h : Arranged spec d t) (hu : ∀ e ∈ u, e.request.Idle) :
    Arranged spec d (u ++ t) where
  inPlace := by
    refine Gated.append (InPlace.of_use fun e he => (hu e he).1) fun v e w hsplit hm => ?_
    exact (h.inPlace v e w hsplit hm).mono (List.subset_append_right _ _)
  lookedUp := h.lookedUp.before fun e he => (hu e he).2
  pid := h.pid

/-- A step that only looks at what is there, and what comes after it. -/
theorem bind_lift {α β : Type} {work : Attempt α} {f : α → On Device β} {r : Except Fault β}
    (hw : Attempt.Asks Query.Idle work)
    (hr : On.Runs ((liftM work : On Device α) >>= f) d l t r d' l') (hd : d.servers = [])
    (hf : ∀ {a v l₁}, On.Runs (f a) d l₁ v r d' l' → Arranged spec d' v) :
    Arranged spec d' t := by
  rcases On.runs_bind_lift_iff.mp hr with ⟨u, v, a, l₁, rfl, hwork, hrest⟩ | ⟨e, -, rfl, hwork⟩
  · exact (hf hrest).before (hw.of_runs hwork).1
  · have alone : Arranged spec d' (t ++ []) := (Arranged.nil hd).before (hw.of_runs hwork).1
    rwa [List.append_nil] at alone

end Arranged

theorem arranged_attach {r : Except Fault Unit} (hd : d.spec = spec) (hs : d.servers = [])
    (hr : On.Runs attach d l t r d' l') : Arranged spec d' t := by
  obtain ⟨u, v, isRunning, l₁, rfl, hrunning, hr⟩ :=
    On.runs_bind_liftLab_iff.mp (On.runs_bind_get_iff.mp hr)
  refine .before ?_ ((asks_isRunning allowsContainers_idle).of_runs hrunning).1
  cases isRunning with
  | false =>
    obtain ⟨rfl, -, rfl, -⟩ := On.runs_throw_bind_iff.mp hr
    exact .nil hs
  | true =>
    refine .bind_lift (asks_pid allowsContainers_idle) hr hs fun {pid _ _} hr => ?_
    refine .bind_lift (NetScope.asks_ip_of ⟨rfl, rfl⟩) (On.runs_bind_modify_iff.mp hr) hs
      fun hr => ?_
    dsimp only at hr
    split at hr
    · obtain ⟨rfl, -, rfl, -⟩ := On.runs_throw_bind_iff.mp hr
      exact .nil hs
    · split at hr
      · obtain ⟨hlooked, hgated⟩ := runs_createServers_arranged (by exact hd) hr
        have keeps {count : Nat} : On.Keeps (fun q => q.isStoreCall = false)
            (fun d => d.pid = some pid) (createServers pid 0 count) :=
          keeps_createServers allows_noStoreCall.servers fun _ _ h => h
        have hpid : d'.pid = some pid := ((keeps _ rfl).of_runs hr).2
        exact ⟨hpid ▸ hgated [], hlooked, fun _ => ⟨pid, hpid⟩⟩
      · obtain ⟨rfl, -, rfl, -⟩ := On.runs_pure_iff.mp hr
        exact .nil hs

/-! ## Taking back -/

/-- What does more than use what is there deletes the namespace of a server that was made. -/
def TakesBack (d : Device) (t : Trace Host) : Prop :=
  ∀ e ∈ t, e.request.meddles = true →
    ∃ s ∈ d.servers, s.provision = .created ∧ e.request = .run s.ns.deleteCommand

namespace TakesBack

theorem of_use (h : ∀ e ∈ t, e.request.meddles = false) : d.TakesBack t :=
  fun e he hm => by simp [h e he] at hm

theorem append (ht : d.TakesBack t) (hu : d.TakesBack u) : d.TakesBack (t ++ u) :=
  List.forall_mem_append.mpr ⟨ht, hu⟩

theorem of_made (h : d'.TakesBack t) (hmade : d'.made = d.made) : d.TakesBack t := by
  intro e he hm
  obtain ⟨s, hs, hcreated, hdelete⟩ := h e he hm
  obtain ⟨s', hs', hns, hprovision⟩ := mem_servers_of_made hmade hs
  exact ⟨s', hs', hprovision.trans hcreated, hns ▸ hdelete⟩

end TakesBack

/-- The steps for a server delete its namespace, if it was made. -/
theorem mem_teardownSteps {s : VirtualServer} {step : TeardownStep} (h : step ∈ s.teardownSteps) :
    s.provision = .created ∧ step.command = s.ns.deleteCommand := by
  rw [VirtualServer.teardownSteps] at h
  split at h
  case isTrue hsteps =>
    obtain rfl := List.mem_singleton.mp h
    refine ⟨?_, rfl⟩
    cases hp : s.provision with
    | created => rfl
    | adopted => simp [hp, Provision.cleanupOwned] at hsteps
  case isFalse => cases h

theorem takesBack_of_attempted {servers : List VirtualServer} {failures : List String}
    (hsub : servers ⊆ d.servers)
    (h : Attempted Query.IsKilling (servers.flatMap (·.teardownSteps)) t failures) :
    d.TakesBack t ∧ ∀ e ∈ t, e.request.looksUp = false := by
  constructor
  · intro e he hm
    rcases h.requests e he with hkilling | ⟨step, hstep, hq⟩
    · simp [hkilling.meddles] at hm
    · obtain ⟨s, hs, hstep⟩ := List.mem_flatMap.mp hstep
      obtain ⟨hcreated, hcommand⟩ := mem_teardownSteps hstep
      exact ⟨s, hsub hs, hcreated, hcommand ▸ hq⟩
  · intro e he
    rcases h.requests e he with hkilling | ⟨step, -, hq⟩
    · exact hkilling.looksUp
    · rw [hq]
      rfl

/-- The teardown of a switch that was attached to takes back its servers. -/
theorem TornDown.takesBack {r : Except Fault Unit} (h : d.TornDown t r)
    (ha : d.spec.attach = true) : d.TakesBack t ∧ ∀ e ∈ t, e.request.looksUp = false := by
  rw [TornDown] at h
  split at h
  · rw [h.1]
    exact ⟨.of_use (List.forall_mem_nil _), List.forall_mem_nil _⟩
  · obtain ⟨failures, hattempted, -⟩ := h
    rw [teardownSteps, if_pos ha, List.nil_append] at hattempted
    exact takesBack_of_attempted (List.Subset.refl _) hattempted

theorem Ended.takesBack (h : d.Ended t d') (ha : d.spec.attach = true) :
    d.TakesBack t ∧ (∀ e ∈ t, e.request.looksUp = false) ∧ d'.made = d.made := by
  obtain ⟨u, v, l₁, l₂, l₃, r, rfl, hlogs, hdestroy⟩ := h
  have logs : ∀ e ∈ u, e.request.Idle := ((asks_captureLogs allowsContainers_idle).of_runs hlogs).1
  obtain ⟨htorn, hmade, -⟩ := runs_destroy hdestroy
  obtain ⟨hback, hnone⟩ := htorn.takesBack ha
  exact ⟨.append (.of_use fun e he => (logs e he).1) hback,
    List.forall_mem_append.mpr ⟨fun e he => (logs e he).2, hnone⟩, hmade⟩

/-! ## What is done with the switch -/

theorem takesBack_checkReady {r : Except Fault Unit} (ha : d.spec.attach = true)
    (hr : On.Runs checkReady d l t r d' l') : d.TakesBack t := by
  have reach {l₁ l₂ : Ledger} {w : Trace Host} {x : Except Fault Stores}
      (h : Attempt.Runs (reachReady d.spec) l₁ w x l₂) : d.TakesBack w :=
    .of_use ((asks_reachReady allowsUse_use.containers allowsStores_use).of_runs h).1
  rcases runs_checkReady_cases hr with ⟨-, rfl, -⟩ | ⟨-, rfl, -⟩ |
    ⟨-, ⟨_, hreach, -⟩ | ⟨_, u, v, _, -, rfl, hreach, hend⟩⟩
  · exact .of_use (List.forall_mem_nil _)
  · exact .of_use (List.forall_mem_nil _)
  · exact reach hreach
  · exact (reach hreach).append (hend.takesBack ha).1

theorem takesBack_restart {r : Except Fault Unit} (ha : d.spec.attach = true)
    (hr : On.Runs restart d l t r d' l') : d.TakesBack t := by
  have command {l₁ l₂ : Ledger} {w : Trace Host} {x : Except Fault Unit}
      (h : Attempt.Runs d.restartCommand l₁ w x l₂) : d.TakesBack w :=
    .of_use ((asks_restartCommand allowsUse_use.containers (by simp [ha])).of_runs h).1
  rcases runs_restart_cases hr with ⟨-, rfl, -⟩ |
    ⟨-, -, ⟨_, -, hcommand, -⟩ | ⟨u, v, _, rfl, hcommand, hcheck⟩⟩
  · exact .of_use (List.forall_mem_nil _)
  · exact command hcommand
  · have check := takesBack_checkReady (by exact ha) hcheck
    exact (command hcommand).append (check.of_made rfl)

theorem use_of_keeps {op : Operation} {r : Except Fault Unit} (hop : op.interrupts = false)
    (hcheck : op ≠ .checkReady) (hclean : op ≠ .networkCleanup)
    (hr : On.Runs op.act d l t r d' l') : ∀ e ∈ t, e.request.meddles = false :=
  ((keeps_alike allowsUse_use allowsStores_use hop hcheck (fun h => absurd h hclean) d
    (.refl d)).of_runs hr).1

/-- Whatever is done with a switch that was attached to, but for the cleanup of its network. -/
theorem Handling.takesBack {h : Handling} {r : Except Fault Unit} (ha : d.spec.attach = true)
    (hclean : h ≠ .operation .networkCleanup) (hr : On.Runs h.act d l t r d' l') :
    d.TakesBack t := by
  cases h with
  | operation op =>
    by_cases hcheck : op = .checkReady
    · subst hcheck
      exact takesBack_checkReady ha hr
    cases hop : op.interrupts with
    | false => exact .of_use (use_of_keeps hop hcheck (fun h => hclean (h ▸ rfl)) hr)
    | true =>
      cases op with
      | restart => exact takesBack_restart ha hr
      | destroy => exact ((runs_destroy hr).1.takesBack ha).1
      | detach =>
        obtain ⟨rfl, -⟩ := On.runs_modify_iff.mp hr
        exact .of_use (List.forall_mem_nil _)
      | _ => cases hop
  | destroyServer index =>
    rcases runs_destroyServer hr with ⟨-, rfl, -⟩ | ⟨s, s', hs, hdestroy, -⟩
    · exact .of_use (List.forall_mem_nil _)
    · have hattempted := (VirtualServer.runs_destroy hdestroy).1
      rw [← List.flatMap_singleton (f := fun s : VirtualServer => s.teardownSteps)] at hattempted
      have hsub : [s] ⊆ d.servers := List.cons_subset.mpr ⟨List.mem_of_getElem? hs, nofun⟩
      exact (takesBack_of_attempted hsub hattempted).1

theorem deletes_networkCleanup {r : Except Fault Unit}
    (hr : On.Runs Operation.networkCleanup.act d l t r d' l') : ∀ e ∈ t,
      e.request.meddles = true → ∃ pid, d.pid = some pid ∧ Query.DeletesLinkOf pid e.request := by
  obtain ⟨links, hrun⟩ := runs_networkCleanup_of_act hr
  intro e he hm
  cases hp : d.pid with
  | none =>
    rw [networkCleanup, hp] at hrun
    obtain ⟨rfl, -⟩ := Attempt.runs_throw_iff.mp hrun
    cases he
  | some pid =>
    obtain ⟨reply, rest, rfl, hrest⟩ := runs_networkCleanup hp hrun
    rcases List.mem_cons.mp he with rfl | he
    · cases hm
    · exact ⟨pid, rfl, hrest e he⟩

/-- Such a command works in another process, on links. -/
theorem Query.DeletesLinkOf.handlesSwitches {q : Query} {pid : Nat}
    (h : Query.DeletesLinkOf pid q) : q.handlesSwitches = false := by
  cases h
  rfl

theorem Query.DeletesLinkOf.command?_ne {q : Query} {pid : Nat} {ns : Namespace}
    (h : Query.DeletesLinkOf pid q) : q.command? ≠ some ns.deleteCommand := by
  cases h
  simp [Query.command?, NetScope.enter, Namespace.deleteCommand]

/-! ## The whole life -/

/-- A switch that was attached to, after all that was asked for that. -/
structure Joined (spec : DeviceSpec) (d : Device) (t : Trace Host) : Prop
    extends Arranged spec d t where
  forSpec : d.spec = spec
  names : d.servers.map (·.ns.name) =
    (List.range d.servers.length).map (VirtualServer.namespaceName spec.name)
  created : ∀ s ∈ d.servers, s.provision = .created → s.ns.AbsentIn spec.netnsDir t

namespace Joined

theorem server (h : Joined spec d t) {s : VirtualServer} {i : Nat}
    (hs : d.servers[i]? = some s) : s.ns = spec.serverNamespace i := by
  obtain ⟨hi, -⟩ := List.getElem?_eq_some_iff.mp hs
  have hname := congrArg (·[i]?) h.names
  simp only [List.getElem?_map, hs, List.getElem?_range hi, Option.map_some, Option.some_inj]
    at hname
  exact congrArg Namespace.mk hname

/-- What is taken back of it are servers that were missing. -/
theorem arrangesMissing (h : Joined spec d t) (hu : d.TakesBack u) (he : e ∈ u)
    (hm : e.request.meddles = true) : e.request.ArrangesMissing spec d.pid t := by
  obtain ⟨s, hs, hcreated, hdelete⟩ := hu e he hm
  obtain ⟨i, hi⟩ := List.mem_iff_getElem?.mp hs
  obtain ⟨p, hp⟩ := h.pid (List.ne_nil_of_mem hs)
  have habsent := h.created s hs hcreated
  rw [h.server hi] at hdelete habsent
  exact ⟨i, p, hp, habsent, _, List.mem_cons_self, hdelete⟩

theorem after (h : Joined spec d t) (hu : d.TakesBack u)
    (hnone : ∀ e ∈ u, e.request.looksUp = false) (hmade : d'.made = d.made) :
    Joined spec d' (t ++ u) := by
  have hpid : d'.pid = d.pid := show d'.made.pid = d.made.pid from congrArg Device.pid hmade
  have hspec : d'.spec = d.spec := show d'.made.spec = d.made.spec from congrArg Device.spec hmade
  have servers : d'.servers.map (·.made) = d.servers.map (·.made) := congrArg Device.servers hmade
  have names : d'.servers.map (·.ns.name) = d.servers.map (·.ns.name) := by
    have hsame := congrArg (List.map (·.ns.name)) servers
    simpa [VirtualServer.made, Function.comp_def] using hsame
  have length : d'.servers.length = d.servers.length := by
    simpa using congrArg List.length servers
  refine ⟨⟨?_, h.lookedUp.append hnone, fun hne => ?_⟩, hspec.trans h.forSpec, ?_, ?_⟩
  · rw [hpid]
    -- what is deleted now was made before, so it is accounted for by an answer in `t`
    refine h.inPlace.append fun v e w hsplit hm => ?_
    have missing := h.arrangesMissing hu (e := e) (by simp [hsplit]) hm
    exact missing.mono (List.subset_append_left _ _)
  · rw [hpid]
    refine h.pid fun hnil => hne (List.length_eq_zero_iff.mp ?_)
    rw [length, hnil]
    rfl
  · rw [names, length]
    exact h.names
  · intro s hs hcreated
    obtain ⟨s', hs', hns, hprovision⟩ := mem_servers_of_made hmade hs
    rw [← hns]
    exact (h.created s' hs' (hprovision.trans hcreated)).append

end Joined

theorem joined_setUp {r : Except Fault Unit} (ha : spec.attach = true)
    (hr : On.Runs setUp (absent spec) l t r d l') : Joined spec d t := by
  have work {l₁ l₂ : Ledger} {u : Trace Host} {x : Except Fault Unit} {d₁ : Device}
      (h : On.Runs (if spec.attach then attach else provision)
        { absent spec with state := .creating } l₁ u x d₁ l₂) : Joined spec d₁ u := by
    have making := making_of_work h
    rw [if_pos ha] at h
    have made := serversMade_attach rfl h
    exact ⟨arranged_attach rfl rfl h, making.forSpec, making.names, made.created⟩
  rcases runs_orDestroy_cases (runs_setUp_iff.mp hr) with
    ⟨_, -, hwork⟩ | ⟨_, u, v, d₁, _, -, rfl, hwork, hend⟩
  · exact work hwork
  · have joined := work hwork
    obtain ⟨hback, hnone, hmade⟩ := hend.takesBack (by rw [joined.forSpec, ha])
    exact joined.after hback hnone hmade

/-! ## Afterwards -/

/-- The cleanup of the network. -/
def Handling.cleans : Handling → Bool
  | operation .networkCleanup => true
  | _ => false

/-- The number of the server that is worked on. -/
def Handling.server? : Handling → Option Nat
  | operation (.server index _) | destroyServer index => some index
  | _ => none

theorem Handling.cleans_iff {h : Handling} :
    h.cleans = true ↔ h = .operation .networkCleanup := by
  constructor
  · intro hcleans
    cases h with
    | operation op => cases op <;> first | rfl | cases hcleans
    | destroyServer index => cases hcleans
  · rintro rfl
    rfl

/-- All that is asked for a switch that is there, but for the cleanups of its network. -/
def usedFor (events : List (Event Handling Device)) : Trace Host :=
  (events.filter fun x => !x.operation.cleans).flatMap (·.trace)

theorem mem_usedFor {events : List (Event Handling Device)} :
    e ∈ usedFor events ↔ ∃ x ∈ events, x.operation.cleans = false ∧ e ∈ x.trace := by
  simp [usedFor, and_assoc]

/-- What is left alone of a switch that was attached to. `d` is the switch after `making`, and
`dropping` is asked when nobody holds it any more. -/
structure LeavesAlone (spec : DeviceSpec) (making : Trace Host) (d : Device)
    (events : List (Event Handling Device)) (dropping : Trace Host) : Prop where
  /-- No container is made, started or removed, nor a directory. -/
  containers : ∀ e ∈ making ++ (events.flatMap (·.trace) ++ dropping),
    e.request.handlesSwitches = false
  /-- The host says only once if the namespace of a server is there. -/
  once : ∀ i, spec.lookup i true ∈ making → spec.lookup i false ∉ making
  /-- Namespaces and links are arranged only for servers that were found missing, while the switch
  is attached to and later. -/
  begun : ∀ before e after, making = before ++ e :: after → e.request.arranges = true →
    e.request.ArrangesMissing spec d.pid before
  used : ∀ e ∈ usedFor events ++ dropping, e.request.arranges = true →
    e.request.ArrangesMissing spec d.pid making
  /-- The cleanup of the network deletes links of the switch. -/
  cleaned : ∀ x ∈ events, x.operation.cleans = true → ∀ e ∈ x.trace, e.request.arranges = true →
    ∃ pid, d.pid = some pid ∧ Query.DeletesLinkOf pid e.request
  deleted : ∀ e ∈ making ++ (events.flatMap (·.trace) ++ dropping), ∀ ns : Namespace,
    e.request.command? = some ns.deleteCommand →
    ∃ i, ns = spec.serverNamespace i ∧ spec.lookup i false ∈ making
  /-- None of the commands that would arrange a server is used for one that was found, and no work
  on that server arranges anything. -/
  found : ∀ i, spec.lookup i true ∈ making →
    (∀ pid, d.pid = some pid → ∀ c ∈ spec.arrangement pid i,
      ∀ e ∈ making ++ (usedFor events ++ dropping), e.request.command? ≠ some c) ∧
    ∀ x ∈ events, x.operation.server? = some i → ∀ e ∈ x.trace, e.request.arranges = false

theorem deletes_of_cleans {x : Event Handling Device} (hx : x.Ran Handling.act)
    (hmade : x.before.made = d₀.made) (hclean : x.operation.cleans = true) : ∀ e ∈ x.trace,
      e.request.meddles = true → ∃ pid, d₀.pid = some pid ∧ Query.DeletesLinkOf pid e.request := by
  obtain ⟨l, l', hr⟩ := hx
  rw [Handling.cleans_iff.mp hclean] at hr
  have hpid : x.before.pid = d₀.pid :=
    show x.before.made.pid = d₀.made.pid from congrArg Device.pid hmade
  rw [← hpid]
  exact deletes_networkCleanup hr

namespace Joined

variable {i : Nat}

theorem adopted_of_found {s : VirtualServer} (h : Joined spec d₀ t) (hmade : d.made = d₀.made)
    (hfound : spec.lookup i true ∈ t) (hs : d.servers[i]? = some s) : s.provision = .adopted := by
  obtain ⟨s', hs', hns, hprovision⟩ := server_of_made hmade hs
  rw [← hprovision]
  cases hp : s'.provision with
  | adopted => rfl
  | created =>
    have habsent := h.created s' (List.mem_of_getElem? hs') hp
    rw [h.server hs'] at habsent
    exact absurd habsent (h.lookedUp.once i hfound)

/-- Work on a server that was found arranges nothing. -/
theorem use_of_found {x : Handling} {r : Except Fault Unit} (h : Joined spec d₀ t)
    (hmade : d.made = d₀.made) (hfound : spec.lookup i true ∈ t) (hx : x.server? = some i)
    (hr : On.Runs x.act d l u r d' l') : ∀ e ∈ u, e.request.meddles = false := by
  cases x with
  | operation op =>
    cases op with
    | server index job =>
      have hr : On.Runs (Operation.server index job).act d l u r d' l' := hr
      exact use_of_keeps (by rfl) (by simp) (by simp) hr
    | _ => cases hx
  | destroyServer index =>
    cases hx
    rcases runs_destroyServer hr with ⟨-, rfl, -⟩ | ⟨s, s', hs, hdestroy, -⟩
    · exact List.forall_mem_nil _
    · intro e he
      rcases (VirtualServer.runs_destroy hdestroy).1.requests e he with hkilling | ⟨step, hstep, -⟩
      · exact hkilling.meddles
      · have hcreated := (mem_teardownSteps hstep).1
        rw [h.adopted_of_found hmade hfound hs] at hcreated
        cases hcreated

theorem attached (h : Joined spec d₀ t) (ha : spec.attach = true) (hmade : d.made = d₀.made) :
    d.spec.attach = true := by
  have hspec : d.spec = d₀.spec := show d.made.spec = d₀.made.spec from congrArg Device.spec hmade
  rw [hspec, h.forSpec, ha]

theorem takesBack_of_ran {x : Event Handling Device} (h : Joined spec d₀ t)
    (ha : spec.attach = true) (hx : x.Ran Handling.act) (hmade : x.before.made = d₀.made)
    (hclean : x.operation.cleans = false) : d₀.TakesBack x.trace := by
  obtain ⟨l, l', hr⟩ := hx
  refine (Handling.takesBack (h.attached ha hmade) (fun hop => ?_) hr).of_made hmade
  rw [Handling.cleans_iff.mpr hop] at hclean
  cases hclean

theorem takesBack_drop (h : Joined spec d₀ t) (ha : spec.attach = true) (hmade : d.made = d₀.made)
    (hr : Lab.Runs d.drop l u () l') : d₀.TakesBack u := by
  have hdrop := runs_drop hr
  split at hdrop
  · rw [hdrop]
    exact .of_use (List.forall_mem_nil _)
  · obtain ⟨r, htorn⟩ := hdrop
    exact (htorn.takesBack (h.attached ha hmade)).1.of_made hmade

/-- While the switch is attached to, no more is done than to arrange servers that were missing. -/
theorem arrangesMissing_of_mem (h : Joined spec d t) (he : e ∈ t) (hm : e.request.meddles = true) :
    e.request.ArrangesMissing spec d.pid t := by
  obtain ⟨before, after, hsplit⟩ := List.append_of_mem he
  refine (h.inPlace before e after hsplit hm).mono ?_
  rw [hsplit]
  exact List.subset_append_left _ _

/-- A command that would arrange a server that was found is not among those for the others. -/
theorem command?_ne_of_found {q : Query} {pid : Nat} {c : Command} (h : Joined spec d t)
    (hfound : spec.lookup i true ∈ t) (hpid : d.pid = some pid) (hc : c ∈ spec.arrangement pid i)
    (hq : q.arranges = true → q.ArrangesMissing spec d.pid t) : q.command? ≠ some c := by
  intro hcommand
  have harranges : q.arranges = true := by
    have hsame := VirtualServer.arranges_of_arrangement c hc
    rwa [Query.arranges, hcommand]
  obtain ⟨j, p, hp, habsent, c', hc', rfl⟩ := hq harranges
  obtain rfl : pid = p := Option.some.inj (hpid.symm.trans hp)
  obtain rfl : c' = c := Option.some.inj hcommand
  obtain rfl := VirtualServer.index_eq_of_arrangement hc hc'
  exact h.lookedUp.once i hfound habsent

end Joined

/-- Attaching to a switch, whatever is done with it then and whatever the host and the databases
answer, leaves its containers alone and the servers that were found. -/
theorem history_leavesAlone {events : List (Event Handling Device)} {making dropping : Trace Host}
    {made : Except Fault Unit} {l₁ l₂ : Ledger} (ha : spec.attach = true)
    (hc : On.Runs setUp (absent spec) l making made d₀ l') (hh : History Handling.act d₀ events d)
    (hd : Lab.Runs d.drop l₁ dropping () l₂) :
    LeavesAlone spec making d₀ events dropping := by
  have joined : Joined spec d₀ making := joined_setUp ha hc
  obtain ⟨hbefore, hlast⟩ := made_of_history hh
  have used (x) (hx : x ∈ events) (hclean : x.operation.cleans = false) : d₀.TakesBack x.trace :=
    joined.takesBack_of_ran ha (hh.ran x hx) (hbefore x hx) hclean
  have cleaned (x) (hx : x ∈ events) (hclean : x.operation.cleans = true) : ∀ e ∈ x.trace,
      e.request.meddles = true → ∃ pid, d₀.pid = some pid ∧ Query.DeletesLinkOf pid e.request :=
    deletes_of_cleans (hh.ran x hx) (hbefore x hx) hclean
  have dropped : d₀.TakesBack dropping := joined.takesBack_drop ha hlast hd
  have missing : ∀ e ∈ making ++ (usedFor events ++ dropping), e.request.meddles = true →
      e.request.ArrangesMissing spec d₀.pid making := by
    intro e he hm
    rcases List.mem_append.mp he with he | he
    · exact joined.arrangesMissing_of_mem he hm
    rcases List.mem_append.mp he with he | he
    · obtain ⟨x, hx, hclean, he⟩ := mem_usedFor.mp he
      exact joined.arrangesMissing (used x hx hclean) he hm
    · exact joined.arrangesMissing dropped he hm
  -- besides, only the cleanup of the network has to do with links
  have either : ∀ e ∈ making ++ (events.flatMap (·.trace) ++ dropping), e.request.meddles = true →
      e.request.ArrangesMissing spec d₀.pid making ∨
        ∃ pid, d₀.pid = some pid ∧ Query.DeletesLinkOf pid e.request := by
    intro e he hm
    rcases List.mem_append.mp he with he | he
    · exact .inl (joined.arrangesMissing_of_mem he hm)
    rcases List.mem_append.mp he with he | he
    · obtain ⟨x, hx, he⟩ := List.mem_flatMap.mp he
      cases hclean : x.operation.cleans with
      | true => exact .inr (cleaned x hx hclean e he hm)
      | false => exact .inl (joined.arrangesMissing (used x hx hclean) he hm)
    · exact .inl (joined.arrangesMissing dropped he hm)
  refine
    { containers := fun e he => ?_
      once := joined.lookedUp.once
      begun := fun before e after hsplit ha =>
        joined.inPlace before e after hsplit (Query.meddles_of_arranges ha)
      used := fun e he ha =>
        missing e (List.mem_append_right _ he) (Query.meddles_of_arranges ha)
      cleaned := fun x hx hclean e he ha =>
        cleaned x hx hclean e he (Query.meddles_of_arranges ha)
      deleted := fun e he ns hns => ?_
      found := fun i hfound => ⟨fun pid hpid c hc e he => ?_, fun x hx hserver e he => ?_⟩ }
  · cases hhandles : e.request.handlesSwitches with
    | false => rfl
    | true =>
      rcases either e he (Query.meddles_of_handlesSwitches hhandles) with hmissing | ⟨_, -, hdelete⟩
      · rw [← hhandles, hmissing.handlesSwitches]
      · rw [← hhandles, hdelete.handlesSwitches]
  · have harranges : e.request.arranges = true := by
      rw [Query.arranges, hns]
      rfl
    rcases either e he (Query.meddles_of_arranges harranges) with hmissing | ⟨_, -, hdelete⟩
    · exact hmissing.deletes hns
    · exact absurd hns hdelete.command?_ne
  · exact joined.command?_ne_of_found hfound hpid hc fun ha =>
      missing e he (Query.meddles_of_arranges ha)
  · obtain ⟨l, l', hr⟩ := hh.ran x hx
    have huse := joined.use_of_found (hbefore x hx) hfound hserver hr e he
    exact (Query.meddles_eq_false_iff.mp huse).2

end Device

end SwitchLab

/-! ## A session that attaches in part

The namespace of the first server is there, that of the second is not, and the pair of its links
cannot be made. The attaching fails, and the links of the switch are cleaned up afterwards. -/

namespace SwitchLab.HalfAttached

open Device

def spec : DeviceSpec := { LatePort.spec with attach := true, numPorts := 2 }

def refusal : Output := ⟨2, "", "RTNETLINK answers: File exists\n"⟩

def pair : Command := ⟨"ip", ["link", "add", "dv7s1a", "type", "veth", "peer", "name", "dv7s1b"]⟩

/-- What was made of the second server is taken back, and the switch is asked for its logs. -/
def ending : Trace Host :=
  [silently "ip" ["link", "del", "dv7s1a"], silently "ip" ["netns", "del", "dut-srv1"],
    silently "docker" ["logs", "dut"]]

def making : Trace Host :=
  [Command.ran ⟨"docker", ["inspect", "--format", "\x7b\x7b.State.Running\x7d\x7d", "dut"]⟩
      (.ok ⟨0, "true\n", ""⟩),
    Command.ran ⟨"docker", ["inspect", "--format", "\x7b\x7b.State.Pid\x7d\x7d", "dut"]⟩
      (.ok ⟨0, "7\n", ""⟩),
    Command.ran ⟨"nsenter", ["-t", "7", "-n", "ip", "-o", "link", "show"]⟩
      (.ok ⟨0, "2: eth1@if3: <UP>\n3: eth2@if4: <UP>\n", ""⟩),
    spec.lookup 0 true,
    silently "ip" ["netns", "pids", "dut-srv0"],
    spec.lookup 1 false,
    silently "ip" ["netns", "del", "dut-srv1"],
    silently "ip" ["netns", "add", "dut-srv1"],
    silently "ip" ["netns", "exec", "dut-srv1", "ip", "link", "set", "lo", "up"],
    silently "ip" ["link", "del", "dv7s1a"],
    silently "nsenter" ["-t", "7", "-n", "ip", "link", "del", "eth2"],
    Command.ran pair (.ok refusal)] ++ ending

def goneDevice : Device :=
  { absent spec with
    state := .destroyed
    pid := some 7
    servers := [{ VirtualServer.new "dut" 0 .adopted with destroyed := true }] }

def fault : Fault := .command ("[host] " ++ pair.render) 2 "RTNETLINK answers: File exists"

theorem runs_setUp : On.Runs setUp (absent spec) .empty making (.error fault) goneDevice .empty :=
  Dialogue.runs_of_replay (by decide +kernel)

def handled : List (Event Handling Device) :=
  [⟨.destroyServer 0, goneDevice, [], .ok (), goneDevice⟩,
    ⟨.operation .networkCleanup, goneDevice, LatePort.lateCleanup, .ok (), goneDevice⟩]

theorem handling : History Handling.act goneDevice handled goneDevice := by
  have destroyed : On.Runs (Handling.destroyServer 0).act goneDevice .empty [] (.ok ()) goneDevice
      .empty := Dialogue.runs_of_replay (by decide +kernel)
  have cleanup : On.Runs (Handling.operation .networkCleanup).act goneDevice .empty
      LatePort.lateCleanup (.ok ()) goneDevice .empty :=
    Dialogue.runs_of_replay (by decide +kernel)
  have first : Event.Ran Handling.act ⟨.destroyServer 0, goneDevice, [], .ok (), goneDevice⟩ :=
    ⟨_, _, destroyed⟩
  have last : Event.Ran Handling.act
      ⟨.operation .networkCleanup, goneDevice, LatePort.lateCleanup, .ok (), goneDevice⟩ :=
    ⟨_, _, cleanup⟩
  exact .cons first (.cons last (.nil _))

theorem handled_leavesAlone :
    spec.attach = true ∧
    On.Runs setUp (absent spec) .empty making (.error fault) goneDevice .empty ∧
    History Handling.act goneDevice handled goneDevice ∧
    Lab.Runs goneDevice.drop .empty [] () .empty ∧
    LeavesAlone spec making goneDevice handled [] := by
  have dropped : Lab.Runs goneDevice.drop .empty [] () .empty :=
    Dialogue.runs_of_replay (by decide +kernel)
  exact ⟨rfl, runs_setUp, handling, dropped, history_leavesAlone rfl runs_setUp handling dropped⟩

end SwitchLab.HalfAttached
