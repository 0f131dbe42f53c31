import Mathlib.Data.List.DropRight
import SwitchLab.Options.Input
import SwitchLab.Proofs.Settings

/-! What options can be chosen. Each setting allows some values only: a number is positive, a name
or a path is more than blanks. What the environment says of a setting is always allowed; what a
file says is, but for the two paths, which are taken from it as they stand. -/

namespace SwitchLab

open Text (isBlankText)

theorem Options.isBlankText_of_chosen? {value text : String} (h : chosen? value = some text) :
    isBlankText text = false := by
  have kept : Text.trim value = text ∧ text.toList ≠ [] := by
    by_cases he : (Text.trim value).isEmpty = true
    · simp [chosen?, he] at h
    · obtain rfl : Text.trim value = text := by simpa [chosen?, he] using h
      simpa using he
  obtain ⟨rfl, hne⟩ := kept
  rw [Text.trim, String.toList_ofList] at hne
  -- what is left ends with a character that is no blank
  have hlast := List.rdropWhile_last_not Text.isBlank (Text.trimStartChars value.toList) hne
  rw [isBlankText, List.all_eq_false, Text.trim, String.toList_ofList]
  exact ⟨_, List.getLast_mem hne, hlast⟩

theorem Options.one_le_of_parsePorts {key text : String} {n : Nat}
    (h : parsePorts key text = .ok n) : 1 ≤ n := by
  rw [parsePorts] at h
  cases hm : parseNumber key text with
  | error e => simp [hm, bind, Except.bind] at h
  | ok m =>
    by_cases hz : m = 0
    · simp [hm, hz, bind, Except.bind] at h
    · obtain rfl : m = n := by simpa [hm, hz, bind, Except.bind] using h
      exact Nat.one_le_iff_ne_zero.mpr hz

namespace Setting

open Options

/-- The values that a session can have of a setting. -/
def Allows : (s : Setting) → s.Value → Prop
  | attachName, (value : Option String) | topologyNs, (value : Option String)
  | topology, (value : Option String) | logPath, (value : Option String) =>
    ∀ text ∈ value, isBlankText text = false
  | image, text => isBlankText text = false
  | maxCpu, (n : Nat) | numPorts, (n : Nat) => 1 ≤ n
  | forceRecreate, _ | keepTestbed, _ | useSudo, _ | bufferModel, _ => True

variable {o o' : Options} {s : Setting} {text : String} {v : String × String}
  {vars : List (String × String)}

/-! ## The environment -/

/-- What a text is read as is allowed. -/
theorem read_allows {value : s.Value} (h : s.read text = .ok (some value)) : s.Allows value := by
  cases s with
  | attachName | topologyNs | topology | logPath =>
    obtain rfl : chosen? text = value := Option.some.inj (Except.ok.inj h)
    exact fun name hname => isBlankText_of_chosen? hname
  | image =>
    have chosen : chosen? text = some value := Except.ok.inj h
    exact isBlankText_of_chosen? chosen
  | maxCpu =>
    rw [read] at h
    cases hn : parseNumber "DVS_MAX_CPU" text with
    | error e => simp [hn, Except.map] at h
    | ok n =>
      rw [hn] at h
      obtain rfl : max n 1 = value := Option.some.inj (Except.ok.inj h)
      exact Nat.le_max_right n 1
  | numPorts =>
    rw [read] at h
    cases hn : parsePorts "DVS_NUM_PORTS" text with
    | error e => simp [hn, Except.map] at h
    | ok n =>
      rw [hn] at h
      obtain rfl : n = value := Option.some.inj (Except.ok.inj h)
      exact one_le_of_parsePorts hn
  | forceRecreate | keepTestbed | useSudo | bufferModel => trivial

theorem said?_allows {value : s.Value} (h : s.said? v = some value) : s.Allows value := by
  by_cases hk : v.1 = s.key
  · rw [said?, if_pos hk] at h
    cases hread : s.read v.2 with
    | error e => simp [hread, Except.toOption] at h
    | ok said =>
      obtain rfl : said = some value := by simpa [hread, Except.toOption] using h
      exact read_allows hread
  · rw [said?_of_ne hk] at h
    cases h

/-- A variable leaves a setting as it is or gives it an allowed value. -/
theorem setVariable_allows (h : o.setVariable v = .ok o') (hs : s.Allows (o.settings s)) :
    s.Allows (o'.settings s) := by
  obtain ⟨-, rfl⟩ := setVariable_eq_ok_iff.mp h
  rw [settings_withSettings]
  cases hsaid : s.said? v with
  | none => exact hs
  | some value => exact said?_allows hsaid

theorem overlayEnv_allows (h : o.overlayEnv vars = .ok o') (hs : s.Allows (o.settings s)) :
    s.Allows (o'.settings s) := by
  induction vars using List.reverseRecOn generalizing o' with
  | nil =>
    obtain rfl : o = o' := Except.ok.inj h
    exact hs
  | append_singleton vars v ih =>
    obtain ⟨o₁, hvars, hv⟩ := overlayEnv_concat_eq_ok_iff.mp h
    exact setVariable_allows hv (ih hvars)

/-- If every text speaks of a setting, its value is allowed exactly if the environment has it or it
was allowed before. -/
theorem overlayEnv_allows_iff (h : o.overlayEnv vars = .ok o')
    (hread : ∀ text, ∃ value, s.read text = .ok (some value)) :
    s.Allows (o'.settings s) ↔ s.Allows (o.settings s) ∨ s.key ∈ vars.map Prod.fst := by
  obtain ⟨-, rfl⟩ := overlayEnv_eq_ok_iff.mp h
  rw [settings_withSettings]
  cases hsaid : lastSet s.said? vars with
  | none =>
    have absent : s.key ∉ vars.map Prod.fst := by
      intro hmem
      obtain ⟨v, hv, hkey⟩ := List.mem_map.mp hmem
      obtain ⟨value, hvalue⟩ := hread v.2
      have silent := lastSet_eq_none_iff.mp hsaid v hv
      rw [said?, if_pos hkey, hvalue] at silent
      cases silent
    rw [Option.getD_none, or_iff_left absent]
  | some value =>
    obtain ⟨v, hv, hvalue⟩ := exists_of_lastSet hsaid
    have hkey : v.1 = s.key := by
      by_contra hne
      rw [said?_of_ne hne] at hvalue
      cases hvalue
    exact iff_of_true (said?_allows hvalue) (.inr (List.mem_map.mpr ⟨v, hv, hkey⟩))

end Setting

/-! ## The file -/

namespace OptionsInput

open Options

variable {i : OptionsInput} {o : Options} {s : Setting}

theorem isBlankText_chosenOr {value : Option String} {default : String}
    (h : isBlankText default = false) :
    isBlankText ((value.bind chosen?).getD default) = false := by
  cases hc : value.bind chosen? with
  | none => exact h
  | some text =>
    obtain ⟨_, -, htext⟩ := Option.bind_eq_some_iff.mp hc
    exact isBlankText_of_chosen? htext

theorem forall_mem_bind_chosen? {value : Option String} :
    ∀ text ∈ value.bind chosen?, isBlankText text = false := by
  intro text h
  obtain ⟨_, -, htext⟩ := Option.bind_eq_some_iff.mp h
  exact isBlankText_of_chosen? htext

/-- The settings of a file are allowed, the two paths left aside. Those are the ones that it
gives. -/
theorem resolve_allows (h : i.resolve = .ok o) :
    (∀ s : Setting, s ≠ .topology → s ≠ .logPath → s.Allows (o.settings s)) ∧
      isBlankText o.netnsImage = false ∧ o.topology = i.topology ∧ o.logPath = i.logPath := by
  by_cases hz : i.numPorts.getD Options.default.numPorts = 0
  · simp [resolve, hz, bind, Except.bind, throw, throwThe, MonadExceptOf.throw] at h
  · simp only [resolve, hz, if_false] at h
    obtain rfl := Except.ok.inj h
    refine ⟨?_, isBlankText_chosenOr (by decide), rfl, rfl⟩
    intro s htopology hlogPath
    cases s with
    | attachName | topologyNs => exact forall_mem_bind_chosen?
    | image => exact isBlankText_chosenOr (by decide)
    | maxCpu => exact Nat.le_max_right _ 1
    | numPorts => exact Nat.one_le_iff_ne_zero.mpr hz
    | topology => exact absurd rfl htopology
    | logPath => exact absurd rfl hlogPath
    | forceRecreate | keepTestbed | useSudo | bufferModel => trivial

end OptionsInput

namespace Options

open Setting

/-- What holds of the options of every session. -/
structure Sound (o : Options) : Prop where
  one_le_numPorts : 1 ≤ o.numPorts
  one_le_maxCpu : 1 ≤ o.maxCpu
  image : isBlankText o.image = false
  netnsImage : isBlankText o.netnsImage = false
  attachName : ∀ name ∈ o.attachName, isBlankText name = false
  topologyNs : ∀ name ∈ o.topologyNs, isBlankText name = false

variable {i : OptionsInput} {vars : List (String × String)} {o o' : Options}

theorem exists_of_resolved (h : (do (← i.resolve).overlayEnv vars) = .ok o') :
    ∃ o, i.resolve = .ok o ∧ o.overlayEnv vars = .ok o' := by
  cases hr : i.resolve with
  | error e =>
    rw [hr] at h
    cases h
  | ok o =>
    rw [hr] at h
    exact ⟨o, rfl, h⟩

theorem overlayEnv_netnsImage (h : o.overlayEnv vars = .ok o') : o'.netnsImage = o.netnsImage := by
  obtain ⟨-, rfl⟩ := overlayEnv_eq_ok_iff.mp h
  rfl

/-- Options from a file and the environment are sound. A path of them is blank exactly if the file
gives a blank one and the environment does not have that variable. -/
theorem resolved_sound (i : OptionsInput) (vars : List (String × String)) (o : Options)
    (h : (do (← i.resolve).overlayEnv vars) = .ok o) :
    o.Sound ∧
      ((∀ path ∈ o.topology, isBlankText path = false) ↔
        (∀ path ∈ i.topology, isBlankText path = false) ∨ "DVS_TOPOLOGY" ∈ vars.map Prod.fst) ∧
      ((∀ path ∈ o.logPath, isBlankText path = false) ↔
        (∀ path ∈ i.logPath, isBlankText path = false) ∨ "DVS_LOG_PATH" ∈ vars.map Prod.fst) := by
  obtain ⟨file, hfile, henv⟩ := exists_of_resolved h
  obtain ⟨hallows, hnetns, htopology, hlog⟩ := OptionsInput.resolve_allows hfile
  refine ⟨?_, ?_, ?_⟩
  · have kept (s : Setting) (ht : s ≠ .topology) (hl : s ≠ .logPath) : s.Allows (o.settings s) :=
      overlayEnv_allows henv (hallows s ht hl)
    exact {
      one_le_numPorts := kept .numPorts (by decide) (by decide)
      one_le_maxCpu := kept .maxCpu (by decide) (by decide)
      image := kept .image (by decide) (by decide)
      netnsImage := by rw [overlayEnv_netnsImage henv, hnetns]
      attachName := kept .attachName (by decide) (by decide)
      topologyNs := kept .topologyNs (by decide) (by decide) }
  · rw [← htopology]
    exact overlayEnv_allows_iff (s := .topology) henv fun text => ⟨chosen? text, rfl⟩
  · rw [← hlog]
    exact overlayEnv_allows_iff (s := .logPath) henv fun text => ⟨chosen? text, rfl⟩

end Options

end SwitchLab

/-! ## Blank paths -/

namespace SwitchLab.BlankPaths

/-- A file with both paths, and nothing in them. -/
def file : OptionsInput := { OptionsInput.empty with topology := some "", logPath := some " " }

/-- The environment says where the log goes. -/
def vars : List (String × String) := [("DVS_MAX_CPU", "0"), ("DVS_LOG_PATH", "")]

def options : Options := { Options.default with topology := some "", maxCpu := 1 }

theorem resolved_sound_blank :
    (do (← file.resolve).overlayEnv vars) = .ok options ∧ options.Sound ∧
      ((∀ path ∈ options.topology, Text.isBlankText path = false) ↔
        (∀ path ∈ file.topology, Text.isBlankText path = false) ∨
          "DVS_TOPOLOGY" ∈ vars.map Prod.fst) ∧
      ((∀ path ∈ options.logPath, Text.isBlankText path = false) ↔
        (∀ path ∈ file.logPath, Text.isBlankText path = false) ∨
          "DVS_LOG_PATH" ∈ vars.map Prod.fst) := by
  have resolved : (do (← file.resolve).overlayEnv vars) = .ok options := by decide +kernel
  exact ⟨resolved, Options.resolved_sound file vars options resolved⟩

/-- The same texts are no paths in the environment, but are the paths if the file gives them. -/
theorem blank_paths_kept :
    ∃ o, (do (← file.resolve).overlayEnv []) = .ok o ∧
      (∃ path ∈ o.topology, Text.isBlankText path = true) ∧
      (∃ path ∈ o.logPath, Text.isBlankText path = true) :=
  ⟨{ Options.default with topology := some "", logPath := some " " }, by decide +kernel,
    ⟨"", rfl, by decide⟩, ⟨" ", rfl, by decide⟩⟩

end SwitchLab.BlankPaths
