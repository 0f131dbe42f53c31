import Mathlib.Data.List.Perm.Basic
import SwitchLab.Options.Overlay
import SwitchLab.Proofs.TypedRecords

/-! Options as a table of settings. A variable of the environment gives a value to
one setting or to none, and after several the last value of each setting counts:
so their order does not matter while each is there once, and taking them again
changes nothing. -/

namespace SwitchLab

/-- What variables of the environment can set. -/
inductive Setting where
  | attachName
  | forceRecreate
  | keepTestbed
  | image
  | maxCpu
  | bufferModel
  | topologyNs
  | topology
  | logPath
  | numPorts
  | useSudo
  deriving DecidableEq, Repr

namespace Setting

open Options

def Value : Setting → Type
  | attachName | topologyNs | topology | logPath => Option String
  | forceRecreate | keepTestbed | useSudo => Bool
  | image => String
  | maxCpu | numPorts => Nat
  | bufferModel => BufferModel

/-- The name of its variable. -/
def key : Setting → String
  | attachName => "DVS_NAME"
  | forceRecreate => "DVS_FORCE_RECREATE"
  | keepTestbed => "DVS_KEEP_TESTBED"
  | image => "DVS_IMAGE"
  | maxCpu => "DVS_MAX_CPU"
  | bufferModel => "DVS_BUFFER_MODEL"
  | topologyNs => "DVS_TOPO_NS"
  | topology => "DVS_TOPOLOGY"
  | logPath => "DVS_LOG_PATH"
  | numPorts => "DVS_NUM_PORTS"
  | useSudo => "DVS_SUDO"

theorem key_inj {s s' : Setting} : s.key = s'.key ↔ s = s' := by
  constructor
  · cases s <;> cases s' <;> first | exact fun _ => rfl | exact fun h => absurd h (by decide)
  · exact congrArg key

/-- The value that a text stands for. A blank text is no image, so it leaves the one that is
there. -/
def read : (s : Setting) → String → Except Fault (Option s.Value)
  | attachName, text | topologyNs, text | topology, text | logPath, text =>
    .ok (some (chosen? text))
  | forceRecreate, text => (parseFlag "DVS_FORCE_RECREATE" text).map some
  | keepTestbed, text => (parseFlag "DVS_KEEP_TESTBED" text).map some
  | useSudo, text => (parseFlag "DVS_SUDO" text).map some
  | image, text => .ok (chosen? text)
  | maxCpu, text => (parseNumber "DVS_MAX_CPU" text).map fun n => some (max n 1 : Nat)
  | bufferModel, text => (BufferModel.parse text).map some
  | numPorts, text => (parsePorts "DVS_NUM_PORTS" text).map some

end Setting

namespace Options

/-! ## The table -/

def settings (o : Options) : (s : Setting) → s.Value
  | .attachName => o.attachName
  | .forceRecreate => o.forceRecreate
  | .keepTestbed => o.keepTestbed
  | .image => o.image
  | .maxCpu => o.maxCpu
  | .bufferModel => o.bufferModel
  | .topologyNs => o.topologyNs
  | .topology => o.topology
  | .logPath => o.logPath
  | .numPorts => o.numPorts
  | .useSudo => o.useSudo

/-- All settings are replaced; what no variable can set stays. -/
def withSettings (o : Options) (values : (s : Setting) → s.Value) : Options :=
  { o with
    attachName := values .attachName
    forceRecreate := values .forceRecreate
    keepTestbed := values .keepTestbed
    image := values .image
    maxCpu := values .maxCpu
    bufferModel := values .bufferModel
    topologyNs := values .topologyNs
    topology := values .topology
    logPath := values .logPath
    numPorts := values .numPorts
    useSudo := values .useSudo }

/-- One of them is replaced. -/
def set (o : Options) : (s : Setting) → s.Value → Options
  | .attachName, value => { o with attachName := value }
  | .forceRecreate, value => { o with forceRecreate := value }
  | .keepTestbed, value => { o with keepTestbed := value }
  | .image, value => { o with image := value }
  | .maxCpu, value => { o with maxCpu := value }
  | .bufferModel, value => { o with bufferModel := value }
  | .topologyNs, value => { o with topologyNs := value }
  | .topology, value => { o with topology := value }
  | .logPath, value => { o with logPath := value }
  | .numPorts, value => { o with numPorts := value }
  | .useSudo, value => { o with useSudo := value }

variable {o : Options} {s s' : Setting} {value : s.Value} {values values' : (s : Setting) → s.Value}

@[simp] theorem settings_withSettings : (o.withSettings values).settings = values := by
  funext s
  cases s <;> rfl

@[simp] theorem withSettings_settings : o.withSettings o.settings = o := rfl

@[simp] theorem withSettings_withSettings :
    (o.withSettings values).withSettings values' = o.withSettings values' := rfl

@[simp] theorem settings_set_self : (o.set s value).settings s = value := by
  cases s <;> rfl

theorem settings_set_of_ne (h : s' ≠ s) : (o.set s value).settings s' = o.settings s' := by
  cases s <;> cases s' <;> first | rfl | exact absurd rfl h

/-- Nothing but settings differs. -/
theorem set_eq_withSettings : o.set s value = o.withSettings (o.set s value).settings := by
  cases s <;> rfl

end Options

/-! ## One variable -/

namespace Setting

open Options

variable {o o' : Options} {s : Setting} {text : String} {v : String × String}

/-- What a variable says of a setting, if it is the one of the setting. -/
def said? (s : Setting) (v : String × String) : Option s.Value :=
  if v.1 = s.key then (s.read v.2).toOption.join else none

/-- The text of the variable can be read as what it sets. -/
def Readable (v : String × String) : Prop :=
  ∀ s : Setting, v.1 = s.key → ∃ value, s.read v.2 = .ok value

/-- What comes of a variable is what its text can be read as. -/
theorem setVariable_key :
    o.setVariable (s.key, text) = (s.read text).map fun value => value.elim o (o.set s) := by
  cases s with
  | attachName | topologyNs | topology | logPath =>
    simp only [key, setVariable]
    rfl
  | image =>
    simp only [key, setVariable, read, Except.map]
    cases chosen? text <;> rfl
  | forceRecreate | keepTestbed | useSudo =>
    simp only [key, setVariable, read]
    generalize parseFlag _ text = flag
    cases flag <;> rfl
  | maxCpu =>
    simp only [key, setVariable, read]
    cases parseNumber "DVS_MAX_CPU" text <;> rfl
  | bufferModel =>
    simp only [key, setVariable, read]
    cases BufferModel.parse text <;> rfl
  | numPorts =>
    simp only [key, setVariable, read]
    cases parsePorts "DVS_NUM_PORTS" text <;> rfl

theorem setVariable_of_ne (h : ∀ s : Setting, v.1 ≠ s.key) : o.setVariable v = .ok o := by
  have other (s : Setting) (value : String) (he : v = (s.key, value)) : False :=
    h s (congrArg Prod.fst he)
  exact setVariable.eq_12 o v (other .attachName) (other .forceRecreate) (other .keepTestbed)
    (other .image) (other .maxCpu) (other .bufferModel) (other .topologyNs) (other .topology)
    (other .logPath) (other .numPorts) (other .useSudo)

theorem said?_key : s.said? (s.key, text) = (s.read text).toOption.join := if_pos rfl

theorem said?_of_ne (h : v.1 ≠ s.key) : s.said? v = none := if_neg h

/-- The settings after a variable whose text was read. -/
theorem elim_set_eq {value : Option s.Value} (h : s.read text = .ok value) :
    value.elim o (o.set s) =
      o.withSettings fun s' => (s'.said? (s.key, text)).getD (o.settings s') := by
  have own : s.said? (s.key, text) = value := by rw [said?_key, h]; rfl
  have other (s' : Setting) (hs : s' ≠ s) : s'.said? (s.key, text) = none :=
    said?_of_ne fun he => hs (key_inj.mp he).symm
  cases value with
  | none =>
    have silent (s' : Setting) : s'.said? (s.key, text) = none := by
      by_cases hs : s' = s
      · rw [hs, own]
      · exact other s' hs
    simp only [silent, Option.elim_none, Option.getD_none]
    rfl
  | some x =>
    rw [Option.elim_some, set_eq_withSettings]
    congr 1
    funext s'
    by_cases hs : s' = s
    · subst hs
      rw [settings_set_self, own, Option.getD_some]
    · rw [settings_set_of_ne hs, other s' hs, Option.getD_none]

/-- A variable is taken if it can be read, and gives each setting the value that it says of
it. -/
theorem setVariable_eq_ok_iff : o.setVariable v = .ok o' ↔
    Readable v ∧ o' = o.withSettings fun s => (s.said? v).getD (o.settings s) := by
  by_cases hk : ∃ s : Setting, v.1 = s.key
  · obtain ⟨s, hs⟩ := hk
    obtain ⟨k, text⟩ := v
    obtain rfl : k = s.key := hs
    have readable : Readable (s.key, text) ↔ ∃ value, s.read text = .ok value := by
      constructor
      · exact fun h => h s rfl
      · intro h s' hs'
        obtain rfl := key_inj.mp hs'
        exact h
    rw [setVariable_key, readable]
    cases hread : s.read text with
    | error e => simp [Except.map]
    | ok value =>
      simp only [Except.map, Except.ok.injEq, exists_eq', true_and]
      rw [elim_set_eq hread]
      exact eq_comm
  · have hne (s : Setting) : v.1 ≠ s.key := fun h => hk ⟨s, h⟩
    have readable : Readable v := fun s hs => absurd hs (hne s)
    rw [setVariable_of_ne hne, Except.ok.injEq]
    simp only [readable, said?_of_ne (hne _), Option.getD_none, true_and]
    exact eq_comm

end Setting

namespace Options

open Setting

/-! ## All variables -/

variable {o o' : Options} {vars vars' : List (String × String)}

theorem overlayEnv_concat_eq_ok_iff {v : String × String} :
    o.overlayEnv (vars ++ [v]) = .ok o' ↔
      ∃ o₁, o.overlayEnv vars = .ok o₁ ∧ o₁.setVariable v = .ok o' := by
  have split : o.overlayEnv (vars ++ [v]) = (o.overlayEnv vars).bind (setVariable · v) := by
    rw [overlayEnv, List.foldlM_append]
    exact congrArg _ (funext fun o₁ => bind_pure (o₁.setVariable v))
  rw [split]
  cases o.overlayEnv vars with
  | error e => simp [Except.bind]
  | ok o₁ => simp [Except.bind]

/-- Variables are taken if all of them can be read. Then each setting has the value that the last of
them gives it, and the one that it had if none does. -/
theorem overlayEnv_eq_ok_iff : o.overlayEnv vars = .ok o' ↔
    (∀ v ∈ vars, Readable v) ∧
      o' = o.withSettings fun s => (lastSet s.said? vars).getD (o.settings s) := by
  induction vars using List.reverseRecOn generalizing o' with
  | nil =>
    show Except.ok o = .ok o' ↔ (∀ v ∈ [], Readable v) ∧ o' = o
    simp [eq_comm]
  | append_singleton vars v ih =>
    simp only [overlayEnv_concat_eq_ok_iff, ih, setVariable_eq_ok_iff, List.forall_mem_append,
      List.forall_mem_singleton, lastSet_concat]
    -- the last variable overwrites what those before it left
    have last (s : Setting) : ((s.said? v).or (lastSet s.said? vars)).getD (o.settings s) =
        (s.said? v).getD ((lastSet s.said? vars).getD (o.settings s)) := by
      cases s.said? v <;> rfl
    simp only [last]
    constructor
    · rintro ⟨o₁, ⟨hvars, rfl⟩, hv, rfl⟩
      refine ⟨⟨hvars, hv⟩, ?_⟩
      rw [settings_withSettings, withSettings_withSettings]
    · rintro ⟨⟨hvars, hv⟩, rfl⟩
      refine ⟨_, ⟨hvars, rfl⟩, hv, ?_⟩
      rw [settings_withSettings, withSettings_withSettings]

/-- Of variables with different names, one at most speaks of a setting, so their order does not
matter. -/
theorem lastSet_said?_of_perm {s : Setting} (hn : (vars.map Prod.fst).Nodup)
    (hp : vars.Perm vars') : lastSet s.said? vars = lastSet s.said? vars' := by
  have hsaid := hp.filterMap s.said?
  have alone : (vars.filterMap s.said?).Pairwise fun _ _ => False := by
    refine List.Pairwise.filterMap _ ?_ (List.pairwise_map.mp hn)
    intro v w hne a ha b hb
    have key {u : String × String} {x : s.Value} (h : s.said? u = some x) : u.1 = s.key := by
      by_contra hu
      rw [said?_of_ne hu] at h
      cases h
    exact hne ((key ha).trans (key hb).symm)
  rw [lastSet, lastSet]
  cases hcase : vars.filterMap s.said? with
  | nil =>
    rw [hcase] at hsaid
    rw [hsaid.symm.eq_nil]
  | cons x rest =>
    cases rest with
    | nil =>
      rw [hcase] at hsaid
      rw [hsaid.symm.eq_singleton]
    | cons y rest =>
      rw [hcase] at alone
      exact ((List.pairwise_cons.mp alone).1 y List.mem_cons_self).elim

/-- The variables of an environment come in any order, with the same outcome: variables with
different names give the same options, or fail, in every order. Taken once more, variables change
nothing, also if some are there several times. -/
theorem overlayEnv_order_again (o : Options) (vars : List (String × String)) :
    ((vars.map Prod.fst).Nodup → ∀ vars', vars.Perm vars' →
      (∀ o', o.overlayEnv vars' = .ok o' ↔ o.overlayEnv vars = .ok o') ∧
        ((∃ e, o.overlayEnv vars' = .error e) ↔ ∃ e, o.overlayEnv vars = .error e)) ∧
    ∀ o', o.overlayEnv vars = .ok o' → o'.overlayEnv vars = .ok o' := by
  constructor
  · intro hn vars' hp
    have same (o' : Options) : o.overlayEnv vars' = .ok o' ↔ o.overlayEnv vars = .ok o' := by
      simp only [overlayEnv_eq_ok_iff, lastSet_said?_of_perm hn hp, hp.mem_iff]
    have failed {x : Except Fault Options} : (∃ e, x = .error e) ↔ ∀ o', x ≠ .ok o' := by
      cases x <;> simp
    exact ⟨same, by simp only [failed, ne_eq, same]⟩
  · intro o' ho
    rw [overlayEnv_eq_ok_iff] at ho ⊢
    obtain ⟨hvars, rfl⟩ := ho
    refine ⟨hvars, ?_⟩
    rw [settings_withSettings, withSettings_withSettings]
    congr 1
    funext s
    cases lastSet s.said? vars <;> rfl

end Options

end SwitchLab

/-! ## Two environments -/

namespace SwitchLab.TwoEnvironments

/-- Each variable is there once. -/
def plain : List (String × String) :=
  [("DVS_NUM_PORTS", " 4 "), ("HOME", "/root"), ("DVS_NAME", ""), ("DVS_IMAGE", " ")]

def plainOptions : Options := { Options.default with numPorts := 4 }

/-- The image is chosen and then left as it is, and the last number of processors counts. -/
def repeated : List (String × String) :=
  [("DVS_IMAGE", "local:1"), ("DVS_MAX_CPU", "8"), ("DVS_IMAGE", ""), ("DVS_MAX_CPU", "0")]

def repeatedOptions : Options := { Options.default with image := "local:1", maxCpu := 1 }

theorem environments_order_again :
    ((plain.map Prod.fst).Nodup ∧ plain.Perm plain.reverse ∧
      (∀ o', Options.default.overlayEnv plain.reverse = .ok o' ↔
        Options.default.overlayEnv plain = .ok o') ∧
      ((∃ e, Options.default.overlayEnv plain.reverse = .error e) ↔
        ∃ e, Options.default.overlayEnv plain = .error e)) ∧
    Options.default.overlayEnv plain = .ok plainOptions ∧
    Options.default.overlayEnv repeated = .ok repeatedOptions ∧
    repeatedOptions.overlayEnv repeated = .ok repeatedOptions := by
  have distinct : (plain.map Prod.fst).Nodup := by decide
  have turned : plain.Perm plain.reverse := (List.reverse_perm plain).symm
  have first : Options.default.overlayEnv plain = .ok plainOptions := by decide +kernel
  have chosen : Options.default.overlayEnv repeated = .ok repeatedOptions := by decide +kernel
  exact ⟨⟨distinct, turned, (Options.overlayEnv_order_again .default plain).1 distinct _ turned⟩,
    first, chosen, (Options.overlayEnv_order_again .default repeated).2 _ chosen⟩

end SwitchLab.TwoEnvironments
