import SwitchLab.Proofs.Afterwards
import SwitchLab.Proofs.Texts
import SwitchLab.Proofs.Words

/-! The links that a namespace lists, as they are written and as they are read, and
the cleanup that deletes those of them that no switch has from the start. -/

namespace SwitchLab

/-! ## Listed links -/

/-- A link as a namespace lists it, in parts. -/
structure ListedLink where
  indent : String
  index : String
  gap : String
  name : String
  peer : Option String
  rest : String
  /-- The lines that go on about the link. -/
  more : List String
  indent_blank : ∀ c ∈ indent.toList, Text.isBlank c = true
  index_decimal : ∀ c ∈ index.toList, Text.isDecimalDigit c = true
  numbered : index ≠ ""
  gap_blank : ∀ c ∈ gap.toList, Text.isBlank c = true
  apart : gap ≠ ""
  name_plain : ∀ c ∈ name.toList, Listing.isNameChar c = true
  named : name ≠ ""
  peer_plain : ∀ p ∈ peer, ∀ c ∈ p.toList, Listing.isPeerChar c = true
  peer_named : ∀ p ∈ peer, p ≠ ""
  /-- What they begin with is no number. -/
  more_unnumbered : ∀ line ∈ more, ∀ c ∈ (Text.trimStartChars line.toList).head?,
    Text.isDecimalDigit c = false

namespace Listing

variable {cs name rest peer : List Char}

/-- The name in a line, blanks in front of it or not. -/
def nameIn? (line : List Char) : Option String :=
  (nameChars? (Text.trimStartChars line)).map String.ofList

theorem linkNames_eq {text : String} :
    linkNames text = (Text.lineChars text.toList).filterMap nameIn? := rfl

theorem isBlank_of_isNameChar {c : Char} (h : isNameChar c = true) : Text.isBlank c = false := by
  unfold isNameChar at h
  cases hblank : Text.isBlank c with
  | false => rfl
  | true => simp [hblank] at h

theorem nameChars?_of_unnumbered (h : ∀ c ∈ cs.head?, Text.isDecimalDigit c = false) :
    nameChars? cs = none := by
  have index : cs.takeWhile Text.isDecimalDigit = [] := by
    cases cs with
    | nil => rfl
    | cons c cs => simp [h c rfl]
  unfold nameChars?
  simp only [index]
  split <;> simp

theorem endsName_peer (hpeer : ∀ c ∈ peer, isPeerChar c = true) (hne : peer ≠ []) :
    endsName ('@' :: (peer ++ ':' :: rest)) = true := by
  have stops : ∀ c ∈ (':' :: rest).head?, isPeerChar c = false := by
    intro c hc
    obtain rfl := Option.some.inj hc
    rfl
  rw [endsName, Text.takeWhile_append_of_stop hpeer stops,
    Text.dropWhile_append_of_stop hpeer stops]
  simp [hne]

/-- A number, a colon, blanks, a name and what ends it. -/
theorem nameChars?_append {index gap tail : List Char}
    (hindex : ∀ c ∈ index, Text.isDecimalDigit c = true) (hnumbered : index ≠ [])
    (hgap : ∀ c ∈ gap, Text.isBlank c = true) (hapart : gap ≠ [])
    (hname : ∀ c ∈ name, isNameChar c = true) (hnamed : name ≠ [])
    (htail : ∀ c ∈ tail.head?, isNameChar c = false) (hends : endsName tail = true) :
    nameChars? (index ++ ':' :: (gap ++ (name ++ tail))) = some name := by
  have colon : ∀ c ∈ (':' :: (gap ++ (name ++ tail))).head?, Text.isDecimalDigit c = false := by
    intro c hc
    obtain rfl := Option.some.inj hc
    rfl
  have solid : ∀ c ∈ (name ++ tail).head?, Text.isBlank c = false := by
    intro c hc
    rw [List.head?_append_of_ne_nil _ hnamed] at hc
    exact isBlank_of_isNameChar (hname c (List.mem_of_mem_head? hc))
  obtain ⟨b, blanks, rfl⟩ := List.exists_cons_of_ne_nil hapart
  rw [List.forall_mem_cons] at hgap
  unfold nameChars?
  rw [Text.takeWhile_append_of_stop hindex colon, Text.dropWhile_append_of_stop hindex colon]
  simp only [List.cons_append, Text.dropWhile_append_of_stop hgap.2 solid,
    Text.takeWhile_append_of_stop hname htail, Text.dropWhile_append_of_stop hname htail]
  simp [hnumbered, hgap.1, hnamed, hends]

end Listing

namespace ListedLink

open Listing (nameIn?)

variable (link : ListedLink)

/-- The name of the other end. -/
def peerText : String := (link.peer.map fun peer => "@" ++ peer).getD ""

/-- The line with the name. -/
def head : String :=
  link.indent ++ link.index ++ ":" ++ link.gap ++ link.name ++ link.peerText ++ ":" ++ link.rest

def lines : List String := link.head :: link.more

/-- The listing of links. -/
def listing (links : List ListedLink) : String := Text.unlines (links.flatMap lines)

/-- The name and what ends it. -/
theorem tail_ends {rest : List Char} :
    (∀ c ∈ (link.peerText.toList ++ ':' :: rest).head?, Listing.isNameChar c = false) ∧
      Listing.endsName (link.peerText.toList ++ ':' :: rest) = true := by
  unfold peerText
  cases hpeer : link.peer with
  | none =>
    refine ⟨?_, rfl⟩
    intro c hc
    obtain rfl := Option.some.inj hc
    rfl
  | some peer =>
    have at_peer : (("@" ++ peer : String)).toList ++ ':' :: rest =
        '@' :: (peer.toList ++ ':' :: rest) := by
      rw [String.toList_append]
      rfl
    have hne : peer.toList ≠ [] := Text.toList_ne_nil (link.peer_named peer hpeer)
    rw [Option.map_some, Option.getD_some, at_peer]
    refine ⟨?_, Listing.endsName_peer (link.peer_plain peer hpeer) hne⟩
    intro c hc
    obtain rfl := Option.some.inj hc
    rfl

theorem nameIn?_head : nameIn? (Text.dropReturn link.head.toList) = some link.name := by
  have named : link.name.toList ≠ [] := Text.toList_ne_nil link.named
  have numbered : link.index.toList ≠ [] := Text.toList_ne_nil link.numbered
  have whole : Text.dropReturn link.head.toList =
      link.indent.toList ++ (link.index.toList ++ ':' :: (link.gap.toList ++ (link.name.toList ++
        (link.peerText.toList ++ ':' :: Text.dropReturn link.rest.toList)))) := by
    have parts : link.head.toList = (link.indent.toList ++ (link.index.toList ++ ':' ::
        (link.gap.toList ++ (link.name.toList ++ link.peerText.toList)))) ++ ':' ::
          link.rest.toList := by
      simp [head, String.toList_append]
    rw [parts, Text.dropReturn_append_cons (by decide)]
    simp only [List.append_assoc, List.cons_append]
  -- a digit is no blank, so the number is what comes first
  have starts : ∀ c ∈ (link.index.toList ++ ':' :: (link.gap.toList ++ (link.name.toList ++
      (link.peerText.toList ++ ':' :: Text.dropReturn link.rest.toList)))).head?,
      Text.isBlank c = false := by
    intro c hc
    rw [List.head?_append_of_ne_nil _ numbered] at hc
    have hdigit := link.index_decimal c (List.mem_of_mem_head? hc)
    cases hblank : Text.isBlank c with
    | false => rfl
    | true => simp [Text.isDecimalDigit_of_isBlank hblank] at hdigit
  rw [whole, nameIn?, Text.trimStartChars, Text.dropWhile_append_of_stop link.indent_blank starts,
    Listing.nameChars?_append link.index_decimal numbered link.gap_blank
      (Text.toList_ne_nil link.apart) link.name_plain named link.tail_ends.1 link.tail_ends.2,
    Option.map_some, String.ofList_toList]

theorem nameIn?_more : ∀ line ∈ link.more, nameIn? (Text.dropReturn line.toList) = none := by
  intro line hline
  have unnumbered : ∀ c ∈ (Text.trimStartChars (Text.dropReturn line.toList)).head?,
      Text.isDecimalDigit c = false := by
    intro c hc
    refine link.more_unnumbered line hline c ?_
    exact Text.mem_head?_dropWhile_of_prefix Text.dropReturn_prefix c hc
  rw [nameIn?, Listing.nameChars?_of_unnumbered unnumbered]
  rfl

/-- Of all lines about the link, the first alone has a name. -/
theorem filterMap_lines :
    link.lines.filterMap (fun line => nameIn? (Text.dropReturn line.toList)) = [link.name] := by
  have more : link.more.filterMap (fun line => nameIn? (Text.dropReturn line.toList)) = [] :=
    List.filterMap_eq_nil_iff.mpr link.nameIn?_more
  simp only [lines, List.filterMap_cons, link.nameIn?_head, more]

theorem linkNames_listing {links : List ListedLink}
    (hline : ∀ link ∈ links, ∀ line ∈ link.lines, '\n' ∉ line.toList) :
    linkNames (listing links) = links.map name := by
  have plain : ∀ line ∈ links.flatMap lines, '\n' ∉ line.toList := by
    intro line hmem
    obtain ⟨link, hlink, hmem⟩ := List.mem_flatMap.mp hmem
    exact hline link hlink line hmem
  rw [Listing.linkNames_eq, listing, Text.lineChars_unlines plain, List.filterMap_map]
  clear hline plain
  induction links with
  | nil => rfl
  | cons link links ih =>
    rw [List.flatMap_cons, List.filterMap_append, ih, List.map_cons]
    exact congrArg (· ++ links.map name) link.filterMap_lines

end ListedLink

/-! ## The cleanup -/

namespace Device

/-- The deletion of a link in the namespace of a process. -/
def deletion (pid : Nat) (link : String) : Command :=
  ⟨"nsenter", ["-t", toString pid, "-n", "ip", "link", "del", link]⟩

/-- How a fault shows the deletion. -/
def deletionLine (pid : Nat) (link : String) : String :=
  (NetScope.ofPid pid).shownLine ⟨"ip", ["link", "del", link]⟩

/-- The link is deleted, or it is found that it is gone. -/
def Deleted (pid : Nat) (link : String) (x : Exchange Host) : Prop :=
  ∃ reply, x = (deletion pid link).ran reply ∧
    ∀ fault, checked (deletionLine pid link) reply = .error fault → fault.isMissing = true

/-- The link is not deleted, although it is not gone. -/
def NotDeleted (pid : Nat) (link : String) (fault : Fault) (x : Exchange Host) : Prop :=
  ∃ reply, x = (deletion pid link).ran reply ∧
    checked (deletionLine pid link) reply = .error fault ∧ fault.isMissing = false

/-- Links are deleted one after the other, up to the first that is not. -/
inductive Sweeps (pid : Nat) : List String → Trace Host → Except Fault Unit → Prop where
  | done : Sweeps pid [] [] (.ok ())
  | deleted {link links x t r} (h : Deleted pid link x) (rest : Sweeps pid links t r) :
    Sweeps pid (link :: links) (x :: t) r
  | stopped {link links x fault} (h : NotDeleted pid link fault x) :
    Sweeps pid (link :: links) [x] (.error fault)

section Sweeps

variable {pid : Nat} {link : String} {links : List String} {l l' : Ledger} {t : Trace Host}
  {r : Except Fault Unit}

theorem runs_deleteLink_ok_iff :
    Attempt.Runs ((NetScope.ofPid pid).deleteLink link) l t (.ok ()) l' ↔
      l' = l ∧ ∃ x, t = [x] ∧ Deleted pid link x := by
  refine (NetScope.calls_deleteLink _ _ _ _).trans ?_
  constructor
  · rintro ⟨reply, rfl, rfl, hreply⟩
    exact ⟨rfl, _, rfl, reply, rfl, forgiven_eq_ok_iff.mp hreply.symm⟩
  · rintro ⟨rfl, _, rfl, reply, rfl, hreply⟩
    exact ⟨reply, rfl, rfl, (forgiven_eq_ok_iff.mpr hreply).symm⟩

theorem runs_deleteLink_error_iff {fault : Fault} :
    Attempt.Runs ((NetScope.ofPid pid).deleteLink link) l t (.error fault) l' ↔
      l' = l ∧ ∃ x, t = [x] ∧ NotDeleted pid link fault x := by
  refine (NetScope.calls_deleteLink _ _ _ _).trans ?_
  constructor
  · rintro ⟨reply, rfl, rfl, hreply⟩
    exact ⟨rfl, _, rfl, reply, rfl, forgiven_eq_error_iff.mp hreply.symm⟩
  · rintro ⟨rfl, _, rfl, reply, rfl, hreply⟩
    exact ⟨reply, rfl, rfl, (forgiven_eq_error_iff.mpr hreply).symm⟩

theorem runs_deleteLinks_iff :
    Attempt.Runs (ForIn.forIn links PUnit.unit fun link _ => do
      (NetScope.ofPid pid).deleteLink link
      pure (ForInStep.yield PUnit.unit)) l t r l' ↔ l' = l ∧ Sweeps pid links t r := by
  induction links generalizing l t r with
  | nil =>
    refine Attempt.runs_pure_iff.trans ?_
    constructor
    · rintro ⟨rfl, rfl, rfl⟩
      exact ⟨rfl, .done⟩
    · rintro ⟨rfl, hs⟩
      cases hs
      exact ⟨rfl, rfl, rfl⟩
  | cons link links ih =>
    rw [List.forIn_cons, bind_assoc]
    simp only [pure_bind]
    rw [Attempt.runs_bind_iff]
    constructor
    · rintro (⟨u, v, _, l₁, rfl, hu, hv⟩ | ⟨fault, rfl, hu⟩)
      · obtain ⟨rfl, x, rfl, hx⟩ := runs_deleteLink_ok_iff.mp hu
        obtain ⟨rfl, hs⟩ := ih.mp hv
        exact ⟨rfl, .deleted hx hs⟩
      · obtain ⟨rfl, x, rfl, hx⟩ := runs_deleteLink_error_iff.mp hu
        exact ⟨rfl, .stopped hx⟩
    · rintro ⟨rfl, hs⟩
      cases hs with
      | deleted hx rest =>
        exact .inl ⟨[_], _, (), _, rfl, runs_deleteLink_ok_iff.mpr ⟨rfl, _, rfl, hx⟩,
          ih.mpr ⟨rfl, rest⟩⟩
      | stopped hx => exact .inr ⟨_, rfl, runs_deleteLink_error_iff.mpr ⟨rfl, _, rfl, hx⟩⟩

/-- All links are deleted. -/
theorem sweeps_ok_iff : Sweeps pid links t (.ok ()) ↔ List.Forall₂ (Deleted pid) links t := by
  constructor
  · intro h
    induction links generalizing t with
    | nil =>
      cases h
      exact .nil
    | cons link links ih =>
      cases h with
      | deleted hx rest => exact .cons hx (ih rest)
  · intro h
    induction h with
    | nil => exact .done
    | cons hx _ ih => exact .deleted hx ih

/-- All links up to one are deleted, and that one is not. -/
theorem sweeps_error_iff {fault : Fault} : Sweeps pid links t (.error fault) ↔
    ∃ before link after u x, links = before ++ link :: after ∧ t = u ++ [x] ∧
      List.Forall₂ (Deleted pid) before u ∧ NotDeleted pid link fault x := by
  constructor
  · intro h
    induction links generalizing t with
    | nil => cases h
    | cons link links ih =>
      cases h with
      | deleted hx rest =>
        obtain ⟨before, other, after, u, y, rfl, rfl, hbefore, hy⟩ := ih rest
        exact ⟨link :: before, other, after, _ :: u, y, rfl, rfl, .cons hx hbefore, hy⟩
      | stopped hx => exact ⟨[], link, links, [], _, rfl, rfl, .nil, hx⟩
  · rintro ⟨before, link, after, u, x, rfl, rfl, hbefore, hx⟩
    induction hbefore with
    | nil => exact .stopped hx
    | cons hy _ ih => exact .deleted hy ih

end Sweeps

section Cleanup

variable {d : Device} {pid : Nat} {links : List ListedLink} {output : Output}

/-- The names of the links that no switch has from the start. -/
def leftovers (links : List ListedLink) : List String :=
  (links.map ListedLink.name).filter fun name => !AllowList.default.allows name

/-- The namespace of a process is asked for its links, and answers. -/
def listed (pid : Nat) (output : Output) : Exchange Host :=
  Command.ran ⟨"nsenter", ["-t", toString pid, "-n", "ip", "-o", "link", "show"]⟩ (.ok output)

theorem runs_networkCleanup_listed_iff {l l' : Ledger} {t : Trace Host}
    {r : Except Fault (List String)} (hp : d.pid = some pid) (hsuccess : output.success = true) :
    Attempt.Runs d.networkCleanup l (listed pid output :: t) r l' ↔
      l' = l ∧ ∃ swept, Sweeps pid (AllowList.default.leaked (linkNames output.stdout)) t swept ∧
        r = swept.map fun _ => AllowList.default.leaked (linkNames output.stdout) := by
  have answered : checked ((NetScope.ofPid pid).shownLine ⟨"ip", ["-o", "link", "show"]⟩)
      (.ok output) = .ok output := checked_eq_ok_iff.mpr ⟨rfl, hsuccess⟩
  rw [networkCleanup, hp]
  refine (NetScope.calls_ip.runs_bind_answered_iff answered).trans ?_
  rw [Attempt.runs_bind_iff]
  constructor
  · rintro (⟨u, v, _, l₁, rfl, hu, hv⟩ | ⟨fault, rfl, hu⟩)
    · obtain ⟨rfl, hs⟩ := runs_deleteLinks_iff.mp hu
      obtain ⟨rfl, rfl, rfl⟩ := Attempt.runs_pure_iff.mp hv
      rw [List.append_nil]
      exact ⟨rfl, _, hs, rfl⟩
    · obtain ⟨rfl, hs⟩ := runs_deleteLinks_iff.mp hu
      exact ⟨rfl, _, hs, rfl⟩
  · rintro ⟨rfl, swept, hs, rfl⟩
    cases swept with
    | ok =>
      refine .inl ⟨t, [], (), l', (List.append_nil t).symm, ?_, ?_⟩
      · exact runs_deleteLinks_iff.mpr ⟨rfl, hs⟩
      · exact Attempt.runs_pure_iff.mpr ⟨rfl, rfl, rfl⟩
    | error fault => exact .inr ⟨fault, rfl, runs_deleteLinks_iff.mpr ⟨rfl, hs⟩⟩

/-- What no switch has from the start is deleted link for link, as far as that can be done, and
nothing else. -/
theorem networkCleanup_exact (hp : d.pid = some pid)
    (hline : ∀ link ∈ links, ∀ line ∈ link.lines, '\n' ∉ line.toList)
    (hsuccess : output.success = true) (htext : output.stdout = ListedLink.listing links) :
    linkNames output.stdout = links.map ListedLink.name ∧
    (∀ l l' t names,
      Attempt.Runs d.networkCleanup l (listed pid output :: t) (.ok names) l' ↔
        l' = l ∧ names = leftovers links ∧ List.Forall₂ (Deleted pid) (leftovers links) t) ∧
    ∀ l l' t fault,
      Attempt.Runs d.networkCleanup l (listed pid output :: t) (.error fault) l' ↔
        l' = l ∧ ∃ before link after u x, leftovers links = before ++ link :: after ∧
          t = u ++ [x] ∧ List.Forall₂ (Deleted pid) before u ∧ NotDeleted pid link fault x := by
  have names : linkNames output.stdout = links.map ListedLink.name := by
    rw [htext, ListedLink.linkNames_listing hline]
  have leaked : AllowList.default.leaked (linkNames output.stdout) = leftovers links := by
    rw [names]
    rfl
  refine ⟨names, fun l l' t removed => ?_, fun l l' t fault => ?_⟩
  · rw [runs_networkCleanup_listed_iff hp hsuccess, leaked, ← sweeps_ok_iff]
    refine and_congr_right fun _ => ?_
    constructor
    · rintro ⟨swept, hs, he⟩
      cases swept with
      | ok => exact ⟨Except.ok.inj he, hs⟩
      | error fault => cases he
    · rintro ⟨rfl, hs⟩
      exact ⟨_, hs, rfl⟩
  · rw [runs_networkCleanup_listed_iff hp hsuccess, leaked, ← sweeps_error_iff]
    refine and_congr_right fun _ => ?_
    constructor
    · rintro ⟨swept, hs, he⟩
      cases swept with
      | ok => cases he
      | error e =>
        cases he
        exact hs
    · intro hs
      exact ⟨_, hs, rfl⟩

end Cleanup

end Device

end SwitchLab

/-! ## Two leftovers

The loopback device belongs to a switch, the other two links do not. One of them is gone before it
is deleted. -/

namespace SwitchLab.TwoLeftovers

open Device

def loopback : ListedLink where
  indent := ""
  index := "1"
  gap := " "
  name := "lo"
  peer := none
  rest := " <LOOPBACK,UP,LOWER_UP> mtu 65536"
  more := ["    link/loopback 00:00:00:00:00:00", ""]
  indent_blank := by simp [Text.isBlank]
  index_decimal := by simp [Text.isDecimalDigit, Char.isDigit]
  numbered := by decide
  gap_blank := by simp [Text.isBlank]
  apart := by decide
  name_plain := by simp [Listing.isNameChar, Text.isBlank]
  named := by decide
  peer_plain := by simp [Listing.isPeerChar, Text.isBlank]
  peer_named := by simp
  more_unnumbered := by
    simp [Text.trimStartChars, Text.isBlank, Text.isDecimalDigit, Char.isDigit]

def tap : ListedLink where
  indent := "  "
  index := "7"
  gap := " "
  name := "testtap0"
  peer := none
  rest := " <BROADCAST,MULTICAST> mtu 1500"
  more := []
  indent_blank := by simp [Text.isBlank]
  index_decimal := by simp [Text.isDecimalDigit, Char.isDigit]
  numbered := by decide
  gap_blank := by simp [Text.isBlank]
  apart := by decide
  name_plain := by simp [Listing.isNameChar, Text.isBlank]
  named := by decide
  peer_plain := by simp [Listing.isPeerChar, Text.isBlank]
  peer_named := by simp
  more_unnumbered := by simp

def tunnel : ListedLink where
  indent := ""
  index := "18"
  gap := " "
  name := "vxlan_leak"
  peer := some "NONE"
  rest := " <BROADCAST,MULTICAST> mtu 1450"
  more := []
  indent_blank := by simp [Text.isBlank]
  index_decimal := by simp [Text.isDecimalDigit, Char.isDigit]
  numbered := by decide
  gap_blank := by simp [Text.isBlank]
  apart := by decide
  name_plain := by simp [Listing.isNameChar, Text.isBlank]
  named := by decide
  peer_plain := by simp [Listing.isPeerChar, Text.isBlank]
  peer_named := by simp
  more_unnumbered := by simp

def links : List ListedLink := [loopback, tap, tunnel]

def output : Output := ⟨0, ListedLink.listing links, ""⟩

def gone : Except Fault Output := .ok ⟨1, "", "Cannot find device \"vxlan_leak\""⟩

def trace : Trace Host :=
  [listed 7 output, (deletion 7 "testtap0").ran (.ok .silent), (deletion 7 "vxlan_leak").ran gone]

theorem leftovers_deleted :
    LatePort.goneDevice.pid = some 7 ∧
    (∀ link ∈ links, ∀ line ∈ link.lines, '\n' ∉ line.toList) ∧
    output.success = true ∧ output.stdout = ListedLink.listing links ∧
    Attempt.Runs LatePort.goneDevice.networkCleanup .empty trace
      (.ok ["testtap0", "vxlan_leak"]) .empty := by
  have hline : ∀ link ∈ links, ∀ line ∈ link.lines, '\n' ∉ line.toList := by decide +kernel
  have left : leftovers links = ["testtap0", "vxlan_leak"] := by decide +kernel
  have first : Deleted 7 "testtap0" ((deletion 7 "testtap0").ran (.ok .silent)) :=
    ⟨_, rfl, by rintro fault ⟨⟩⟩
  have second : Deleted 7 "vxlan_leak" ((deletion 7 "vxlan_leak").ran gone) := by
    refine ⟨_, rfl, ?_⟩
    rintro fault hfault
    obtain rfl := Except.error.inj hfault
    decide +kernel
  have hp : LatePort.goneDevice.pid = some 7 := rfl
  have htext : output.stdout = ListedLink.listing links := rfl
  have all : List.Forall₂ (Deleted 7) (leftovers links)
      [(deletion 7 "testtap0").ran (.ok .silent), (deletion 7 "vxlan_leak").ran gone] := by
    rw [left]
    exact .cons first (.cons second .nil)
  have exactly := (networkCleanup_exact hp hline rfl htext).2.1
  exact ⟨hp, hline, rfl, htext, (exactly _ _ _ _).mpr ⟨rfl, left.symm, all⟩⟩

end SwitchLab.TwoLeftovers
