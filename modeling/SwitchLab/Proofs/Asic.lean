import SwitchLab.Proofs.Polling
import SwitchLab.Proofs.Reading

/-! How the database of the forwarding hardware is taken into use: the poll for
the default objects, the reading of their names, the baseline. -/

namespace SwitchLab

variable {P : Query → Prop} {h : Handle} {l l' : Ledger} {t : Trace Host}

namespace AsicDb

open Asic

/-- What a round of the poll for the default objects looks at. -/
def defaultsProbe (h : Handle) : Lab (Bool × Nat × Nat) := do
  let (switches, routers) ← countDefaults h
  return (switches = 1 && 1 ≤ routers, (switches, routers))

def defaultsPolling (timeout : Duration) : Polling := .every (.ofMillis 100) timeout true

theorem awaitDefaults_eq {timeout : Duration} :
    awaitDefaults h timeout = (do
      match ← (liftM (poll "ASIC database startup convergence" (defaultsPolling timeout)
        (defaultsProbe h)) : Attempt _) with
      | .ok _ => return ()
      | .error fault => throw (.baseline fault.message)) := by
  have probe : (liftM (defaultsProbe h) : Attempt (Bool × Nat × Nat)) = (do
      let (switches, routers) ← countDefaults h
      return (switches = 1 && 1 ≤ routers, (switches, routers))) := by
    rw [defaultsProbe, Attempt.lift_bind]
    rfl
  rw [← poll_lift, probe]
  rfl

/-! ## What is asked -/

section Asks

variable (hn : P .now) (hw : ∀ d, P (.pause d))

theorem asks_defaultsProbe (hr : Handle.AllowsReads P h.db [switchTable, virtualRouterTable]) :
    Lab.Asks P (defaultsProbe h) := by
  have counts : Lab.Asks P (countDefaults h) :=
    (Handle.asks_observeKeys (hr.list _ (by simp))).bind fun _ =>
      (Handle.asks_observeKeys (hr.list _ (by simp))).bind fun _ => .pure
  exact counts.bind fun _ => .pure

include hn hw in
theorem asks_awaitDefaults {timeout : Duration}
    (hr : Handle.AllowsReads P h.db [switchTable, virtualRouterTable]) :
    Attempt.Asks P (awaitDefaults h timeout) := by
  rw [awaitDefaults_eq]
  refine (Attempt.Asks.lift (asks_poll hn hw (asks_defaultsProbe hr))).bind fun r => ?_
  cases r with
  | ok x => exact .pure
  | error fault => exact .throw

theorem asks_firstKey {table whenNone : String}
    (hl : P (h.db.listing table)) :
    Attempt.Asks P (firstKey h table whenNone) := by
  refine (Handle.asks_getKeys hl).bind fun keys => ?_
  cases keys with
  | nil => exact .throw
  | cons key keys => exact .pure

theorem asks_hostIf {key : String} (hf : ∀ key, P (.fetch h.db key)) :
    Attempt.Asks P (hostIf h key) := by
  refine (Handle.asks_getEntry hf).bind fun fields => ?_
  split
  · exact .pure
  · exact .throw

theorem asks_readNames
    (hr : Handle.AllowsReads P h.db [switchTable, virtualRouterTable, hostIfTable]) :
    Attempt.Asks P (readNames h) := by
  have named (switchOid routerOid : String) : Attempt.Asks P (do
      (← h.getKeys hostIfTable).foldlM
        (fun names key => do return names.addHostIf (← hostIf h key))
        (AsicNames.ofSwitch switchOid routerOid)) := by
    refine (Handle.asks_getKeys (hr.list _ (by simp))).bind fun keys => ?_
    generalize AsicNames.ofSwitch switchOid routerOid = names
    induction keys generalizing names with
    | nil => exact .pure
    | cons key keys ih =>
      rw [List.foldlM_cons]
      exact Attempt.Asks.bind ((asks_hostIf hr.fetch).bind fun _ => .pure) ih
  refine (asks_firstKey (hr.list _ (by simp))).bind fun switchOid => ?_
  refine (Handle.asks_getEntry hr.fetch).bind fun fields => ?_
  dsimp only
  split
  · exact Attempt.Asks.pure.bind fun routerOid => named switchOid routerOid
  · exact (asks_firstKey (hr.list _ (by simp))).bind fun routerOid => named switchOid routerOid

end Asks

/-! ## Runs that end well -/

theorem runs_defaultsProbe_iff {x : Bool × Nat × Nat} :
    Lab.Runs (defaultsProbe h) l t x l' ↔
      ∃ r₁ r₂ : Except Fault (List String),
        t = [h.db.listed switchTable r₁, h.db.listed virtualRouterTable r₂] ∧ l' = l ∧
          x = let switches := ((r₁.map (h.db.keysIn switchTable)).toOption.getD []).length
            let routers := ((r₂.map (h.db.keysIn virtualRouterTable)).toOption.getD []).length
            (switches = 1 && 1 ≤ routers, (switches, routers)) := by
  simp only [defaultsProbe, countDefaults, bind_assoc, pure_bind, Lab.runs_bind_iff,
    Handle.runs_observeKeys_iff, Lab.runs_pure_iff]
  constructor
  · rintro ⟨_, _, _, _, rfl, ⟨r₁, rfl, rfl, rfl⟩, _, _, _, _, rfl, ⟨r₂, rfl, rfl, rfl⟩, rfl, rfl,
      rfl⟩
    exact ⟨r₁, r₂, rfl, rfl, rfl⟩
  · rintro ⟨r₁, r₂, rfl, rfl, rfl⟩
    exact ⟨[_], [_], _, l', rfl, ⟨r₁, rfl, rfl, rfl⟩, [_], [], _, l', rfl, ⟨r₂, rfl, rfl, rfl⟩,
      rfl, rfl, rfl⟩

/-- Two readings, one after the other, that show one switch and a virtual router. -/
def DefaultsSeen (db : Database) (t : Trace Host) : Prop :=
  ∃ switches routers,
    t = [db.listed switchTable (.ok switches), db.listed virtualRouterTable (.ok routers)] ∧
      (db.keysIn switchTable switches).length = 1 ∧
        1 ≤ (db.keysIn virtualRouterTable routers).length

theorem runs_awaitDefaults_ok {timeout : Duration}
    (hr : Attempt.Runs (awaitDefaults h timeout) l t (.ok ()) l') :
    l' = l ∧ ∃ u v, t = u ++ v ∧ DefaultsSeen h.db v := by
  rw [awaitDefaults_eq, Attempt.runs_bind_ok_iff] at hr
  obtain ⟨u, v, r, l₁, rfl, hu, hv⟩ := hr
  obtain ⟨_, hx, hu⟩ := Attempt.runs_lift_iff.mp hu
  cases hx
  cases r with
  | error fault => cases (Attempt.runs_throw_iff.mp hv).2.1
  | ok x =>
    obtain ⟨rfl, -, rfl⟩ := Attempt.runs_pure_iff.mp hv
    obtain ⟨rfl, hd, u, v, rfl, hlast⟩ := runs_poll_last rfl (fun _ _ _ hr => by
      obtain ⟨-, -, -, hl, -⟩ := runs_defaultsProbe_iff.mp hr
      exact hl) hu
    obtain ⟨r₁, r₂, rfl, -, rfl⟩ := runs_defaultsProbe_iff.mp hlast
    refine ⟨rfl, u, [h.db.listed switchTable r₁, h.db.listed virtualRouterTable r₂], by simp, ?_⟩
    simp only [Bool.and_eq_true, decide_eq_true_eq] at hd
    -- a reading that failed would have shown nothing
    cases r₁ with
    | error e => simp [Except.map, Except.toOption] at hd
    | ok switches =>
      cases r₂ with
      | error e => simp [Except.map, Except.toOption] at hd
      | ok routers => exact ⟨switches, routers, rfl, hd⟩

theorem runs_new_ok {a : AsicDb} {timeout : Duration}
    (hr : Attempt.Runs (AsicDb.new h timeout) l t (.ok a) l') :
    a.handle = h ∧ ∃ u v w l₁ l₂ s, t = u ++ (v ++ w) ∧
      Attempt.Runs (awaitDefaults h timeout) l u (.ok ()) l₁ ∧
      Attempt.Runs (readNames h) l₁ v (.ok a.names) l₂ ∧
      Attempt.Runs (h.captureBaseline baselineTables) l₂ w (.ok s) l' := by
  obtain ⟨u, _, ⟨⟩, l₁, rfl, hu, hr⟩ := Attempt.runs_bind_ok_iff.mp hr
  obtain ⟨v, _, names, l₂, rfl, hv, hr⟩ := Attempt.runs_bind_ok_iff.mp hr
  obtain ⟨w, _, s, l₃, rfl, hw, hr⟩ := Attempt.runs_bind_ok_iff.mp hr
  obtain ⟨rfl, ha, rfl⟩ := Attempt.runs_pure_iff.mp hr
  cases ha
  exact ⟨rfl, u, v, w, l₁, l₂, s, by simp, hu, hv, hw⟩

end AsicDb

end SwitchLab
