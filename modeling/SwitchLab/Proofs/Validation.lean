import Mathlib.Data.List.Forall2
import SwitchLab.Proofs.Texts
import SwitchLab.Topology.Descriptor

/-! Which documents are valid topologies. Validity is a property of the document
as a whole; the checks go through it once, with the names that they have met. -/

namespace SwitchLab

/-! ## Checks -/

section Checks

variable {α β : Type} {r : Except Fault α} {f : α → Except Fault β}

/-- If the work fails, a configuration was found invalid. -/
def OnlyInvalid (r : Except Fault α) : Prop := ∀ e, r = .error e → ∃ text, e = .invalidConfig text

theorem onlyInvalid_ok {a : α} : OnlyInvalid (.ok a : Except Fault α) := by
  intro e he
  cases he

theorem OnlyInvalid.bind (hr : OnlyInvalid r) (hf : ∀ a, OnlyInvalid (f a)) :
    OnlyInvalid (r >>= f) := by
  intro e he
  cases r with
  | error _ =>
    cases he
    exact hr e rfl
  | ok a => exact hf a e he

theorem bind_eq_ok_iff {b : β} : (r >>= f) = .ok b ↔ ∃ a, r = .ok a ∧ f a = .ok b := by
  cases r <;> simp [bind, Except.bind]

namespace TopologyInput

variable {text : String} {c : Prop} [Decidable c]

theorem onlyInvalid_invalid : OnlyInvalid (invalid text : Except Fault α) := by
  intro e he
  cases he
  exact ⟨text, rfl⟩

theorem invalid_bind {f : α → Except Fault β} : (invalid text >>= f) = invalid text := rfl

/-- A check that fails ends the work. -/
theorem check_eq_ok_iff {r : Except Fault α} {a : α} :
    (if c then invalid text else r) = .ok a ↔ ¬ c ∧ r = .ok a := by
  split <;> simp_all [invalid]

theorem onlyInvalid_check (h : OnlyInvalid r) : OnlyInvalid (if c then invalid text else r) := by
  split
  · exact onlyInvalid_invalid
  · exact h

end TopologyInput

end Checks

/-! ## Valid documents -/

/-- `ip` is an address, and `length` says how many of its bits the prefix `text` has. -/
structure IsPrefix (text ip length : String) : Prop where
  text_eq : text = ip ++ "/" ++ length
  first : '/' ∉ ip.toList
  bits : ∃ n, Text.unsigned? 8 length = some n ∧
    (Address.family? ip = some .v4 ∧ n ≤ 32 ∨ Address.family? ip = some .v6 ∧ n ≤ 128)

/-- An admin status is left out, or it is one of the two that there are. -/
def IsAdminStatus (status : Option String) : Prop :=
  status = none ∨ status = some "up" ∨ status = some "down"

structure NodeInput.Valid (n : NodeInput) : Prop where
  name : n.name ≠ ""
  ports : n.ports ≠ some 0
  admin : IsAdminStatus n.adminStatus

/-- `text` names an interface of one of the nodes. -/
structure IsPlace (names : List String) (text node iface : String) : Prop where
  text_eq : text = node ++ ":" ++ iface
  first : ':' ∉ node.toList
  declared : node ∈ names
  named : iface ≠ ""
  short : iface.utf8ByteSize ≤ 15

structure EndpointInput.Valid (names : List String) (e : EndpointInput) : Prop where
  place : ∃ node iface, IsPlace names e.endpoint node iface
  address : ∀ a ∈ e.address, ∃ ip length, IsPrefix a ip length
  admin : IsAdminStatus e.adminStatus

def LinkInput.endpoints (l : LinkInput) : List EndpointInput := [l.a, l.b]

theorem LinkInput.forall_endpoints {l : LinkInput} {P : EndpointInput → Prop} :
    (∀ e ∈ l.endpoints, P e) ↔ P l.a ∧ P l.b := by
  simp [endpoints]

namespace TopologyInput

def names (t : TopologyInput) : List String := t.nodes.map (·.name)

def endpoints (t : TopologyInput) : List EndpointInput := t.links.flatMap LinkInput.endpoints

structure Valid (t : TopologyInput) : Prop where
  nodes : ∀ n ∈ t.nodes, n.Valid
  endpoints : ∀ e ∈ t.endpoints, e.Valid t.names
  /-- No name is given twice, and no interface is linked twice. -/
  distinctNodes : t.names.Nodup
  distinctLinks : (t.links.map (·.name)).Nodup
  distinctEndpoints : (t.endpoints.map (·.endpoint)).Nodup

end TopologyInput

/-! ## What a document means -/

structure NodeInput.Means (n : NodeInput) (node : Node) : Prop where
  name : node.name = n.name
  config : node.config = n.config
  ports : node.ports = n.ports
  admin : node.admin.map AdminStatus.text = n.adminStatus

structure EndpointInput.Means (e : EndpointInput) (x : Endpoint) : Prop where
  text : x.text = e.endpoint
  first : ':' ∉ x.node.toList
  address : x.address = e.address
  port : x.port = e.port
  admin : x.admin.map AdminStatus.text = e.adminStatus
  /-- Probes go to the address that is in front of the length. -/
  host : Option.Rel (fun ip a => (Address.family? ip).isSome ∧ ∃ length, IsPrefix a ip length)
    x.hostAddress e.address

structure LinkInput.Means (l : LinkInput) (link : Link) : Prop where
  name : link.name = l.name
  a : l.a.Means link.a
  b : l.b.Means link.b

/-- Its nodes and links are those of the document, in their order. -/
structure TopologyInput.Means (t : TopologyInput) (topology : Topology) : Prop where
  name : topology.name = t.name
  nodes : List.Forall₂ NodeInput.Means t.nodes topology.nodes
  links : List.Forall₂ LinkInput.Means t.links topology.links

/-! ## Single checks -/

theorem AdminStatus.ofText?_eq_some_iff {text : String} {admin : AdminStatus} :
    ofText? text = some admin ↔ admin.text = text := by
  constructor
  · intro h
    unfold ofText? at h
    split at h <;> cases h <;> rfl
  · rintro rfl
    cases admin <;> rfl

theorem isAdminStatus_iff {status : Option String} :
    IsAdminStatus status ↔ ∃ admin : Option AdminStatus, admin.map AdminStatus.text = status := by
  constructor
  · rintro (rfl | rfl | rfl)
    · exact ⟨none, rfl⟩
    · exact ⟨some .up, rfl⟩
    · exact ⟨some .down, rfl⟩
  · rintro ⟨_ | _ | _, rfl⟩
    · exact .inl rfl
    · exact .inr (.inl rfl)
    · exact .inr (.inr rfl)

theorem isPrefix_iff {text ip length : String} :
    IsPrefix text ip length ↔ Text.splitFirst? '/' text = some (ip, length) ∧
      ∃ family, Address.family? ip = some family ∧
        ∃ n, Text.unsigned? 8 length = some n ∧ n ≤ family.bits := by
  rw [Text.splitFirst?_eq_some_iff "/" rfl]
  constructor
  · rintro ⟨htext, hfirst, n, hn, hbits⟩
    refine ⟨⟨htext, hfirst⟩, ?_⟩
    rcases hbits with ⟨hf, hle⟩ | ⟨hf, hle⟩
    · exact ⟨.v4, hf, n, hn, hle⟩
    · exact ⟨.v6, hf, n, hn, hle⟩
  · rintro ⟨⟨htext, hfirst⟩, family, hf, n, hn, hle⟩
    refine ⟨htext, hfirst, n, hn, ?_⟩
    cases family
    · exact .inl ⟨hf, hle⟩
    · exact .inr ⟨hf, hle⟩

theorem IsPrefix.isSome_family {text ip length : String} (h : IsPrefix text ip length) :
    (Address.family? ip).isSome := by
  obtain ⟨-, family, hf, -⟩ := isPrefix_iff.mp h
  exact Option.isSome_iff_exists.mpr ⟨family, hf⟩

namespace TopologyInput

variable {names used : List String} {context text node iface : String} {status : Option String}
  {admin : Option AdminStatus}

theorem parseAdmin_eq_ok_iff :
    parseAdmin context status = .ok admin ↔ admin.map AdminStatus.text = status := by
  cases status with
  | none => simp [parseAdmin, eq_comm]
  | some text =>
    rw [parseAdmin, Option.map_eq_some_iff]
    simp only [← AdminStatus.ofText?_eq_some_iff]
    cases AdminStatus.ofText? text with
    | none => simp [invalid]
    | some a => simp [eq_comm]

theorem onlyInvalid_parseAdmin : OnlyInvalid (parseAdmin context status) := by
  unfold parseAdmin
  split
  · exact onlyInvalid_ok
  · split
    · exact onlyInvalid_ok
    · exact onlyInvalid_invalid

theorem checkCidr_eq_ok_iff {u : Unit} :
    checkCidr context text = .ok u ↔ ∃ ip length, IsPrefix text ip length := by
  simp only [isPrefix_iff]
  rw [checkCidr]
  split
  · rename_i hs
    simp [hs, invalid]
  · rename_i ip length hs
    simp only [hs, Option.some.injEq, Prod.mk.injEq, and_assoc, exists_and_left, exists_eq_left']
    split
    · rename_i hf
      simp [hf, invalid]
    · rename_i family hf
      simp [hf, invalid, Option.any_eq_true]

theorem onlyInvalid_checkCidr : OnlyInvalid (checkCidr context text) := by
  unfold checkCidr
  split
  · exact onlyInvalid_invalid
  · split
    · exact onlyInvalid_invalid
    · split
      · exact onlyInvalid_ok
      · exact onlyInvalid_invalid

theorem splitEndpoint?_eq_some_iff :
    splitEndpoint? text = some (node, iface) ↔
      text = node ++ ":" ++ iface ∧ ':' ∉ node.toList ∧ node ≠ "" ∧ iface ≠ "" := by
  rw [← and_assoc, ← Text.splitFirst?_eq_some_iff ":" rfl, splitEndpoint?]
  simp only [Option.bind_eq_bind, Option.bind_eq_some_iff, Prod.exists, ne_eq]
  constructor
  · rintro ⟨left, right, hs, he⟩
    split at he
    · cases he
    · rename_i hempty
      cases he
      simpa [hs] using hempty
  · rintro ⟨hs, hnode, hiface⟩
    exact ⟨node, iface, hs, by simp [hnode, hiface]⟩

/-- Only the first colon counts. -/
example : splitEndpoint? "sw1:eth0:1" = some ("sw1", "eth0:1") := by decide +kernel

/-! ## The checks of one object -/

theorem checkNode_eq_ok_iff {n : NodeInput} {x : Node} :
    checkNode names n = .ok x ↔ n.name ∉ names ∧ n.Valid ∧ n.Means x := by
  rw [checkNode]
  simp only [invalid_bind, check_eq_ok_iff, bind_eq_ok_iff, parseAdmin_eq_ok_iff]
  constructor
  · rintro ⟨hname, hports, admin, hadmin, he⟩
    cases he
    simp only [Bool.or_eq_true, not_or, List.contains_iff_mem, String.isEmpty_iff] at hname
    exact ⟨hname.2, ⟨hname.1, hports, isAdminStatus_iff.mpr ⟨_, hadmin⟩⟩, rfl, rfl, rfl, hadmin⟩
  · rintro ⟨hfresh, hvalid, hname, hconfig, hports, hadmin⟩
    obtain ⟨name, config, ports, admin⟩ := x
    cases hname
    cases hconfig
    cases hports
    refine ⟨?_, hvalid.ports, admin, hadmin, rfl⟩
    simpa using ⟨hvalid.name, hfresh⟩

theorem onlyInvalid_checkNode {n : NodeInput} : OnlyInvalid (checkNode names n) := by
  rw [checkNode]
  simp only [invalid_bind]
  refine onlyInvalid_check (onlyInvalid_check (onlyInvalid_parseAdmin.bind fun _ => ?_))
  exact onlyInvalid_ok

theorem isPlace_iff (hnames : "" ∉ names) :
    IsPlace names text node iface ↔
      splitEndpoint? text = some (node, iface) ∧ node ∈ names ∧
        iface.utf8ByteSize ≤ longestIface := by
  rw [splitEndpoint?_eq_some_iff]
  constructor
  · rintro ⟨htext, hfirst, hnode, hiface, hshort⟩
    exact ⟨⟨htext, hfirst, ne_of_mem_of_not_mem hnode hnames, hiface⟩, hnode, hshort⟩
  · rintro ⟨⟨htext, hfirst, -, hiface⟩, hnode, hshort⟩
    exact ⟨htext, hfirst, hnode, hiface, hshort⟩

/-- What the checks of an endpoint tell, but for the one that it is not linked yet. -/
structure Passes (names : List String) (e : EndpointInput) (x : Endpoint) : Prop where
  place : IsPlace names e.endpoint x.node x.iface
  prefixed : ∀ a ∈ e.address, ∃ ip length, IsPrefix a ip length
  address : x.address = e.address
  port : x.port = e.port
  admin : x.admin.map AdminStatus.text = e.adminStatus

theorem checkEndpoint_eq_ok_iff {e : EndpointInput} {x : Endpoint} (hnames : "" ∉ names) :
    checkEndpoint names used context e = .ok x ↔ e.endpoint ∉ used ∧ Passes names e x := by
  rw [checkEndpoint]
  cases hs : splitEndpoint? e.endpoint with
  | none =>
    refine iff_of_false (by simp [invalid]) ?_
    rintro ⟨-, h⟩
    have hplace := ((isPlace_iff hnames).mp h.place).1
    rw [hs] at hplace
    cases hplace
  | some sides =>
    obtain ⟨node, iface⟩ := sides
    simp only [invalid_bind, check_eq_ok_iff]
    have last : (parseAdmin context e.adminStatus >>= fun admin =>
        pure (⟨node, iface, e.address, e.port, admin⟩ : Endpoint)) = .ok x ↔
        (node = x.node ∧ iface = x.iface) ∧ x.address = e.address ∧ x.port = e.port ∧
          x.admin.map AdminStatus.text = e.adminStatus := by
      simp only [bind_eq_ok_iff, parseAdmin_eq_ok_iff]
      constructor
      · rintro ⟨admin, hadmin, he⟩
        cases he
        exact ⟨⟨rfl, rfl⟩, rfl, rfl, hadmin⟩
      · rintro ⟨⟨rfl, rfl⟩, haddress, hport, hadmin⟩
        refine ⟨x.admin, hadmin, ?_⟩
        rw [← haddress, ← hport]
        rfl
    have placed : (¬(!names.contains node) = true ∧ ¬longestIface < iface.utf8ByteSize ∧
        ¬used.contains e.endpoint = true ∧ (∀ a ∈ e.address, ∃ ip length, IsPrefix a ip length) ∧
        (node = x.node ∧ iface = x.iface) ∧ x.address = e.address ∧ x.port = e.port ∧
          x.admin.map AdminStatus.text = e.adminStatus) ↔
        e.endpoint ∉ used ∧ Passes names e x := by
      constructor
      · rintro ⟨hdeclared, hshort, hused, hprefixed, ⟨rfl, rfl⟩, haddress, hport, hadmin⟩
        have hplace : IsPlace names e.endpoint x.node x.iface :=
          (isPlace_iff hnames).mpr ⟨hs, by simpa using hdeclared, by simpa using hshort⟩
        exact ⟨by simpa using hused, hplace, hprefixed, haddress, hport, hadmin⟩
      · rintro ⟨hused, hplace, hprefixed, haddress, hport, hadmin⟩
        obtain ⟨hsplit, hdeclared, hshort⟩ := (isPlace_iff hnames).mp hplace
        cases hs.symm.trans hsplit
        exact ⟨by simpa using hdeclared, by simpa using hshort, by simpa using hused, hprefixed,
          ⟨rfl, rfl⟩, haddress, hport, hadmin⟩
    rw [← placed, ← last]
    cases e.address with
    | none => simp
    | some a => simp [bind_eq_ok_iff, checkCidr_eq_ok_iff]

theorem onlyInvalid_checkEndpoint {e : EndpointInput} :
    OnlyInvalid (checkEndpoint names used context e) := by
  rw [checkEndpoint]
  have last {node iface : String} : OnlyInvalid (parseAdmin context e.adminStatus >>= fun admin =>
      pure (⟨node, iface, e.address, e.port, admin⟩ : Endpoint)) :=
    onlyInvalid_parseAdmin.bind fun _ => onlyInvalid_ok
  split
  · simp only [invalid_bind]
    refine onlyInvalid_check (onlyInvalid_check (onlyInvalid_check ?_))
    split
    · exact onlyInvalid_checkCidr.bind fun _ => last
    · exact last
  · exact onlyInvalid_invalid

end TopologyInput

/-! ## The parts of a document -/

section Fresh

variable {α : Type} {used xs : List α} {x : α}

/-- What is to be given once is not given in `xs` twice, nor was it given before. -/
def Fresh (used xs : List α) : Prop := xs.Nodup ∧ ∀ x ∈ xs, x ∉ used

theorem fresh_nil : Fresh used [] := by simp [Fresh]

theorem fresh_cons_iff : Fresh used (x :: xs) ↔ x ∉ used ∧ Fresh (x :: used) xs := by
  rw [Fresh, List.nodup_cons, List.forall_mem_cons]
  simp only [Fresh, List.mem_cons, not_or]
  constructor
  · rintro ⟨⟨hx, hn⟩, hused, hall⟩
    exact ⟨hused, hn, fun y hy => ⟨ne_of_mem_of_not_mem hy hx, hall y hy⟩⟩
  · rintro ⟨hused, hn, hall⟩
    exact ⟨⟨fun hx => (hall x hx).1 rfl, hn⟩, hused, fun y hy => (hall y hy).2⟩

end Fresh

namespace TopologyInput

variable {names linkNames used : List String}

theorem checkNodes_eq_ok_iff {inputs : List NodeInput} {nodes : List Node} :
    checkNodes names inputs = .ok nodes ↔
      Fresh names (inputs.map (·.name)) ∧ (∀ n ∈ inputs, n.Valid) ∧
        List.Forall₂ NodeInput.Means inputs nodes := by
  induction inputs generalizing names nodes with
  | nil => simp [checkNodes, fresh_nil, eq_comm]
  | cons n inputs ih =>
    simp only [checkNodes, bind_eq_ok_iff, checkNode_eq_ok_iff, ih, List.map_cons, fresh_cons_iff,
      List.forall_mem_cons, List.forall₂_cons_left_iff]
    constructor
    · rintro ⟨node, ⟨hfresh, hvalid, hmeans⟩, nodes, ⟨hrest, hvalids, hall⟩, he⟩
      cases he
      exact ⟨⟨hfresh, hrest⟩, ⟨hvalid, hvalids⟩, node, nodes, hmeans, hall, rfl⟩
    · rintro ⟨⟨hfresh, hrest⟩, ⟨hvalid, hvalids⟩, node, nodes, hmeans, hall, rfl⟩
      exact ⟨node, ⟨hfresh, hvalid, hmeans⟩, nodes, ⟨hrest, hvalids, hall⟩, rfl⟩

theorem onlyInvalid_checkNodes {inputs : List NodeInput} :
    OnlyInvalid (checkNodes names inputs) := by
  induction inputs generalizing names with
  | nil => exact onlyInvalid_ok
  | cons n inputs ih => exact onlyInvalid_checkNode.bind fun _ => ih.bind fun _ => onlyInvalid_ok

structure PassesBoth (names : List String) (l : LinkInput) (x : Link) : Prop where
  name : x.name = l.name
  a : Passes names l.a x.a
  b : Passes names l.b x.b

theorem checkLinks_eq_ok_iff (hnames : "" ∉ names) {inputs : List LinkInput} {links : List Link} :
    checkLinks names linkNames used inputs = .ok links ↔
      Fresh linkNames (inputs.map (·.name)) ∧
        Fresh used ((inputs.flatMap LinkInput.endpoints).map (·.endpoint)) ∧
        List.Forall₂ (PassesBoth names) inputs links := by
  induction inputs generalizing linkNames used links with
  | nil => simp [checkLinks, fresh_nil, eq_comm]
  | cons l inputs ih =>
    simp only [checkLinks, invalid_bind, check_eq_ok_iff, bind_eq_ok_iff,
      checkEndpoint_eq_ok_iff hnames, ih, List.map_cons, List.flatMap_cons, LinkInput.endpoints,
      List.cons_append, List.nil_append, fresh_cons_iff, List.forall₂_cons_left_iff]
    constructor
    · rintro ⟨hname, a, ⟨hfresh, ha⟩, b, ⟨hfresh', hb⟩, links, ⟨hrest, hends, hall⟩, he⟩
      cases he
      exact ⟨⟨by simpa using hname, hrest⟩, ⟨hfresh, hfresh', hends⟩, _, links, ⟨rfl, ha, hb⟩, hall,
        rfl⟩
    · rintro ⟨⟨hname, hrest⟩, ⟨hfresh, hfresh', hends⟩, x, links, ⟨hx, ha, hb⟩, hall, rfl⟩
      refine ⟨by simpa using hname, x.a, ⟨hfresh, ha⟩, x.b, ⟨hfresh', hb⟩, links,
        ⟨hrest, hends, hall⟩, ?_⟩
      rw [← hx]
      rfl

theorem onlyInvalid_checkLinks {inputs : List LinkInput} :
    OnlyInvalid (checkLinks names linkNames used inputs) := by
  induction inputs generalizing linkNames used with
  | nil => exact onlyInvalid_ok
  | cons l inputs ih =>
    rw [checkLinks]
    refine onlyInvalid_check ?_
    refine onlyInvalid_checkEndpoint.bind fun _ => onlyInvalid_checkEndpoint.bind fun _ => ?_
    exact ih.bind fun _ => onlyInvalid_ok

/-! ## The whole document -/

theorem Passes.text {e : EndpointInput} {x : Endpoint} (h : Passes names e x) :
    x.text = e.endpoint := h.place.text_eq.symm

theorem Passes.host {e : EndpointInput} {x : Endpoint} (h : Passes names e x) :
    Option.Rel (fun ip a => (Address.family? ip).isSome ∧ ∃ length, IsPrefix a ip length)
      x.hostAddress e.address := by
  have hprefixed := h.prefixed
  rw [Endpoint.hostAddress, h.address]
  cases ha : e.address with
  | none => exact .none
  | some a =>
    obtain ⟨ip, length, hp⟩ := hprefixed a ha
    have host : String.ofList (a.toList.takeWhile (· ≠ '/')) = ip := by
      rw [hp.text_eq, String.toList_append, String.toList_append, List.append_assoc]
      exact (congrArg String.ofList (Text.takeWhile_append_of_notMem hp.first)).trans
        String.ofList_toList
    rw [Option.map_some, host]
    exact .some ⟨hp.isSome_family, length, hp⟩

theorem passes_iff {e : EndpointInput} {x : Endpoint} :
    Passes names e x ↔ e.Valid names ∧ e.Means x := by
  constructor
  · intro h
    exact ⟨⟨⟨_, _, h.place⟩, h.prefixed, isAdminStatus_iff.mpr ⟨_, h.admin⟩⟩, h.text,
      h.place.first, h.address, h.port, h.admin, h.host⟩
  · rintro ⟨⟨⟨node, iface, hplace⟩, hprefixed, -⟩, hmeans⟩
    have htext : e.endpoint = x.node ++ ":" ++ x.iface := hmeans.text.symm
    -- a text has one first colon only
    have split := (Text.splitFirst?_eq_some_iff ":" rfl).mpr ⟨hplace.text_eq, hplace.first⟩
    cases split.symm.trans ((Text.splitFirst?_eq_some_iff ":" rfl).mpr ⟨htext, hmeans.first⟩)
    exact ⟨hplace, hprefixed, hmeans.address, hmeans.port, hmeans.admin⟩

theorem passesBoth_iff {l : LinkInput} {x : Link} :
    PassesBoth names l x ↔ (∀ e ∈ l.endpoints, e.Valid names) ∧ l.Means x := by
  rw [LinkInput.forall_endpoints]
  constructor
  · rintro ⟨hname, ha, hb⟩
    obtain ⟨hvalid, hmeans⟩ := passes_iff.mp ha
    obtain ⟨hvalid', hmeans'⟩ := passes_iff.mp hb
    exact ⟨⟨hvalid, hvalid'⟩, hname, hmeans, hmeans'⟩
  · rintro ⟨⟨hvalid, hvalid'⟩, hname, hmeans, hmeans'⟩
    exact ⟨hname, passes_iff.mpr ⟨hvalid, hmeans⟩, passes_iff.mpr ⟨hvalid', hmeans'⟩⟩

end TopologyInput

/-! ## A valid document has a meaning -/

theorem NodeInput.Valid.exists_means {n : NodeInput} (h : n.Valid) : ∃ x, n.Means x := by
  obtain ⟨admin, hadmin⟩ := isAdminStatus_iff.mp h.admin
  exact ⟨⟨n.name, n.config, n.ports, admin⟩, rfl, rfl, rfl, hadmin⟩

theorem EndpointInput.Valid.exists_means {names : List String} {e : EndpointInput}
    (h : e.Valid names) : ∃ x, e.Means x := by
  obtain ⟨node, iface, hplace⟩ := h.place
  obtain ⟨admin, hadmin⟩ := isAdminStatus_iff.mp h.admin
  have passes : TopologyInput.Passes names e ⟨node, iface, e.address, e.port, admin⟩ :=
    ⟨hplace, h.address, rfl, rfl, hadmin⟩
  exact ⟨_, (TopologyInput.passes_iff.mp passes).2⟩

theorem LinkInput.exists_means {names : List String} {l : LinkInput}
    (h : ∀ e ∈ l.endpoints, e.Valid names) : ∃ x, l.Means x := by
  obtain ⟨hvalid, hvalid'⟩ := forall_endpoints.mp h
  obtain ⟨a, ha⟩ := hvalid.exists_means
  obtain ⟨b, hb⟩ := hvalid'.exists_means
  exact ⟨⟨l.name, a, b⟩, rfl, ha, hb⟩

theorem exists_forall₂ {α β : Type} {R : α → β → Prop} {xs : List α} (h : ∀ x ∈ xs, ∃ y, R x y) :
    ∃ ys, List.Forall₂ R xs ys := by
  induction xs with
  | nil => exact ⟨[], .nil⟩
  | cons x xs ih =>
    obtain ⟨y, hy⟩ := h x List.mem_cons_self
    obtain ⟨ys, hys⟩ := ih fun x hx => h x (List.mem_cons_of_mem _ hx)
    exact ⟨y :: ys, .cons hy hys⟩

namespace TopologyInput

variable {t : TopologyInput}

theorem Means.names {topology : Topology} (h : t.Means topology) :
    topology.nodes.map (·.name) = t.names := by
  have same : List.Forall₂ (fun n node => n.name = node.name) t.nodes topology.nodes :=
    h.nodes.imp fun _ _ hn => hn.name.symm
  rw [← List.forall₂_map_right_iff, ← List.forall₂_map_left_iff, List.forall₂_eq_eq_eq] at same
  exact same.symm

theorem forall_endpoints {P : EndpointInput → Prop} :
    (∀ e ∈ t.endpoints, P e) ↔ ∀ l ∈ t.links, ∀ e ∈ l.endpoints, P e := by
  simp only [endpoints, List.mem_flatMap]
  constructor
  · exact fun h l hl e he => h e ⟨l, hl, he⟩
  · rintro h e ⟨l, hl, he⟩
    exact h l hl e he

theorem Valid.exists_means (h : t.Valid) : ∃ topology, t.Means topology := by
  obtain ⟨nodes, hnodes⟩ := exists_forall₂ fun n hn => (h.nodes n hn).exists_means
  obtain ⟨links, hlinks⟩ := exists_forall₂ fun l hl =>
    LinkInput.exists_means (forall_endpoints.mp h.endpoints l hl)
  exact ⟨⟨t.name, nodes, links⟩, rfl, hnodes, hlinks⟩

/-- Before the links are read nothing is linked. -/
theorem checkLinks_links_eq_ok_iff (hnames : "" ∉ t.names) {links : List Link} :
    checkLinks t.names [] [] t.links = .ok links ↔
      (t.links.map (·.name)).Nodup ∧ (t.endpoints.map (·.endpoint)).Nodup ∧
        (∀ e ∈ t.endpoints, e.Valid t.names) ∧ List.Forall₂ LinkInput.Means t.links links := by
  have both : PassesBoth t.names = fun l x =>
      (∀ e ∈ l.endpoints, e.Valid t.names) ∧ l.Means x := by
    funext l x
    exact propext passesBoth_iff
  rw [checkLinks_eq_ok_iff hnames, both, List.forall₂_and_left, ← forall_endpoints]
  simp [Fresh, endpoints]

theorem notMem_names (h : ∀ n ∈ t.nodes, n.Valid) : "" ∉ t.names := by
  intro hm
  obtain ⟨n, hn, he⟩ := List.mem_map.mp hm
  exact (h n hn).name he

theorem validate_eq_ok_iff {topology : Topology} :
    t.validate = .ok topology ↔ t.Valid ∧ t.Means topology := by
  simp only [validate, bind_eq_ok_iff, checkNodes_eq_ok_iff]
  constructor
  · rintro ⟨nodes, ⟨⟨hnodes, -⟩, hvalid, hall⟩, links, hlinks, he⟩
    cases he
    obtain ⟨hnames, hends, hvalid', hall'⟩ :=
      (checkLinks_links_eq_ok_iff (notMem_names hvalid)).mp hlinks
    exact ⟨⟨hvalid, hvalid', hnodes, hnames, hends⟩, rfl, hall, hall'⟩
  · rintro ⟨⟨hvalid, hvalid', hnodes, hnames, hends⟩, hname, hall, hall'⟩
    have hlinks : checkLinks t.names [] [] t.links = .ok topology.links :=
      (checkLinks_links_eq_ok_iff (notMem_names hvalid)).mpr ⟨hnames, hends, hvalid', hall'⟩
    refine ⟨topology.nodes, ⟨⟨hnodes, by simp⟩, hvalid, hall⟩, topology.links, hlinks, ?_⟩
    rw [← hname]
    rfl

theorem onlyInvalid_validate : OnlyInvalid t.validate :=
  onlyInvalid_checkNodes.bind fun _ => onlyInvalid_checkLinks.bind fun _ => onlyInvalid_ok

/-- A document is taken just if it is valid, and refused as an invalid configuration otherwise. The
topology that is made of it says what the document says. -/
theorem validate_iff_valid (t : TopologyInput) :
    ((∃ topology, t.validate = .ok topology) ↔ t.Valid) ∧
    ((∃ text, t.validate = .error (.invalidConfig text)) ↔ ¬ t.Valid) ∧
    ∀ topology, t.validate = .ok topology ↔ t.Valid ∧ t.Means topology := by
  have taken : (∃ topology, t.validate = .ok topology) ↔ t.Valid := by
    constructor
    · rintro ⟨topology, h⟩
      exact (validate_eq_ok_iff.mp h).1
    · intro h
      obtain ⟨topology, hmeans⟩ := h.exists_means
      exact ⟨topology, validate_eq_ok_iff.mpr ⟨h, hmeans⟩⟩
  refine ⟨taken, ?_, fun _ => validate_eq_ok_iff⟩
  rw [← taken]
  constructor
  · rintro ⟨text, h⟩ ⟨topology, h'⟩
    rw [h] at h'
    cases h'
  · intro h
    cases hr : t.validate with
    | ok topology => exact absurd ⟨topology, hr⟩ h
    | error e =>
      obtain ⟨text, rfl⟩ := onlyInvalid_validate e hr
      exact ⟨text, rfl⟩

end TopologyInput

end SwitchLab
