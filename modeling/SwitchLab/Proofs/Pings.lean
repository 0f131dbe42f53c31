import Mathlib.Algebra.Group.Nat.Defs
import SwitchLab.Net.Ping
import SwitchLab.Proofs.Words

/-! What a ping reports. Its counts are found at the first summary, wherever that stands, and a
text without a summary reports that nothing came back. So all probes are taken for answered only
where a summary says so. -/

namespace SwitchLab.PingReport

open Text (isDecimalDigit)

/-! ## Runs of digits -/

/-- Digits of any script, one at least. -/
structure IsRun (cs : List Char) : Prop where
  ne_nil : cs ≠ []
  digits : ∀ c ∈ cs, isDecimalDigit c = true

variable {cs ds rest left right : List Char}

theorem digits?_append (h : IsRun ds) (hstop : ∀ c ∈ rest.head?, isDecimalDigit c = false) :
    digits? (ds ++ rest) = some (ds, rest) := by
  rw [digits?, Text.takeWhile_append_of_stop h.digits hstop,
    Text.dropWhile_append_of_stop h.digits hstop]
  exact if_neg fun he => h.ne_nil (List.isEmpty_iff.mp he)

theorem digits?_eq_some (h : digits? cs = some (ds, rest)) : IsRun ds ∧ cs = ds ++ rest := by
  rw [digits?] at h
  by_cases he : (cs.takeWhile isDecimalDigit).isEmpty = true
  · rw [if_pos he] at h
    cases h
  · rw [if_neg he] at h
    cases h
    exact ⟨⟨fun hnil => he (List.isEmpty_iff.mpr hnil), Text.forall_mem_takeWhile⟩,
      List.takeWhile_append_dropWhile.symm⟩

theorem isRun_toString (n : Nat) : IsRun (toString n).toList := by
  have chars : (toString n).toList = Nat.toDigits 10 n := Nat.toList_repr
  rw [chars]
  refine ⟨Nat.toDigits_ne_nil, fun c hc => ?_⟩
  have hdigit := Nat.isDigit_of_mem_toDigits (by decide) (by decide) hc
  have small : c.toNat < 0x80 := by
    have alphanum : c.isAlphanum = true := by simp [Char.isAlphanum, hdigit]
    have most := (Text.toNat_of_isAlphanum alphanum).2
    omega
  rw [isDecimalDigit, if_pos small, hdigit]

/-! ## Summaries -/

/-- What stands between the counts of a summary. -/
def marker : String := " packets transmitted, "

/-- What ends a summary, as the two programs write it. -/
def closings : List String := [" received", " packets received"]

structure Summary where
  sent : String
  received : String
  closing : String
  sent_run : IsRun sent.toList
  received_run : IsRun received.toList
  closing_mem : closing ∈ closings

namespace Summary

def text (s : Summary) : String := s.sent ++ marker ++ s.received ++ s.closing

theorem toList_text (s : Summary) : s.text.toList =
    s.sent.toList ++ (marker.toList ++ (s.received.toList ++ s.closing.toList)) := by
  simp only [text, String.toList_append, List.append_assoc]

end Summary

/-- A blank ends a run of digits. -/
theorem notDigit_of_head?_blank : ∀ c ∈ (' ' :: rest).head?, isDecimalDigit c = false := by
  intro c hc
  obtain rfl : ' ' = c := Option.some.inj hc
  exact Text.isDecimalDigit_of_isBlank (by decide)

/-- A summary is found where one begins. -/
theorem summaryHere?_text (s : Summary) :
    summaryHere? (s.text.toList ++ rest) = some (s.sent.toList, s.received.toList) := by
  obtain ⟨tail, hclosing, hword⟩ : ∃ tail, s.closing.toList = ' ' :: tail ∧
      Text.afterStartChars "received".toList (dropWord "packets ".toList (tail ++ rest)) =
        some rest := by
    rcases List.mem_cons.mp s.closing_mem with h | h
    · rw [h]
      exact ⟨_, rfl, Text.afterStartChars_append "received".toList rest⟩
    · rw [List.mem_singleton.mp h]
      exact ⟨_, rfl, Text.afterStartChars_append "received".toList rest⟩
  have sent (cs : List Char) : digits? (s.sent.toList ++ (marker.toList ++ cs)) =
      some (s.sent.toList, marker.toList ++ cs) := digits?_append s.sent_run notDigit_of_head?_blank
  have received (cs : List Char) : digits? (s.received.toList ++ (' ' :: cs)) =
      some (s.received.toList, " ".toList ++ cs) :=
    digits?_append s.received_run notDigit_of_head?_blank
  rw [summaryHere?, Summary.toList_text, hclosing]
  simp only [List.append_assoc, List.cons_append, sent, Option.bind_eq_bind, Option.bind_some]
  rw [← marker, Text.afterStartChars_append]
  simp only [received, Option.bind_some, Text.afterStartChars_append, hword]
  rfl

theorem exists_summary_of_summaryHere? (h : summaryHere? cs = some (left, right)) :
    ∃ s : Summary, ∃ after, cs = s.text.toList ++ after ∧ s.sent.toList = left ∧
      s.received.toList = right := by
  rw [summaryHere?] at h
  simp only [Option.bind_eq_bind, Option.bind_eq_some_iff] at h
  obtain ⟨⟨sent, r₁⟩, hsent, r₂, hmarker, ⟨received, r₃⟩, hreceived, h⟩ := h
  obtain ⟨r₄, hblank, after, hword, he⟩ := h
  cases he
  obtain ⟨sent_run, rfl⟩ := digits?_eq_some hsent
  obtain rfl := Text.afterStartChars_eq_some hmarker
  obtain ⟨received_run, rfl⟩ := digits?_eq_some hreceived
  obtain rfl := Text.afterStartChars_eq_some hblank
  have closing : ∃ closing ∈ closings, " ".toList ++ r₄ = closing.toList ++ after := by
    rw [dropWord] at hword
    cases hp : Text.afterStartChars "packets ".toList r₄ with
    | none =>
      rw [hp] at hword
      obtain rfl := Text.afterStartChars_eq_some hword
      exact ⟨" received", by decide, rfl⟩
    | some r₅ =>
      rw [hp] at hword
      obtain rfl := Text.afterStartChars_eq_some hp
      obtain rfl := Text.afterStartChars_eq_some hword
      exact ⟨" packets received", by decide, rfl⟩
  obtain ⟨closing, hmem, hclosing⟩ := closing
  let s : Summary :=
    { sent := String.ofList sent, received := String.ofList received, closing,
      sent_run := by rwa [String.toList_ofList],
      received_run := by rwa [String.toList_ofList],
      closing_mem := hmem }
  refine ⟨s, after, ?_, String.toList_ofList, String.toList_ofList⟩
  rw [Summary.toList_text, hclosing]
  simp only [s, String.toList_ofList, List.append_assoc]
  rfl

/-! ## The first summary -/

theorem summary?_text (s : Summary) :
    summary? (s.text.toList ++ rest) = some (s.sent.toList, s.received.toList) := by
  cases hcs : s.text.toList ++ rest with
  | nil =>
    rw [Summary.toList_text] at hcs
    simp [s.sent_run.ne_nil] at hcs
  | cons c cs =>
    rw [summary?, ← hcs, summaryHere?_text, Option.some_or]

theorem exists_summary_of_summary? (h : summary? cs = some (left, right)) :
    ∃ s : Summary, ∃ before after, cs = before ++ (s.text.toList ++ after) ∧
      s.sent.toList = left ∧ s.received.toList = right := by
  induction cs with
  | nil => cases h
  | cons c cs ih =>
    rw [summary?, Option.or_eq_some_iff] at h
    rcases h with here | ⟨-, later⟩
    · obtain ⟨s, after, he, hsides⟩ := exists_summary_of_summaryHere? here
      exact ⟨s, [], after, he, hsides⟩
    · obtain ⟨s, before, after, rfl, hsides⟩ := ih later
      exact ⟨s, c :: before, after, rfl, hsides⟩

theorem marker_infix_text (s : Summary) : marker.toList <:+: s.text.toList := by
  rw [Summary.toList_text, ← List.append_assoc]
  exact ⟨s.sent.toList, s.received.toList ++ s.closing.toList, rfl⟩

theorem summary?_eq_none (h : ¬marker.toList <:+: cs) : summary? cs = none := by
  cases hs : summary? cs with
  | none => rfl
  | some sides =>
    obtain ⟨s, before, after, rfl, -⟩ := exists_summary_of_summary? hs
    exact absurd ((marker_infix_text s).trans ⟨before, after, List.append_assoc _ _ _⟩) h

/-! ## Lines before it -/

theorem newline_notMem_start (s : Summary) : '\n' ∉ s.sent.toList ++ marker.toList := by
  intro h
  rcases List.mem_append.mp h with hsent | hmarker
  · have hdigit := s.sent_run.digits _ hsent
    rw [Text.isDecimalDigit_of_isBlank (by decide)] at hdigit
    cases hdigit
  · exact absurd hmarker (by decide)

/-- No summary begins in a line without the marker: its digits and the marker would both be in that
line. -/
theorem summaryHere?_line (h : ¬marker.toList <:+: left) :
    summaryHere? (left ++ '\n' :: rest) = none := by
  cases hs : summaryHere? (left ++ '\n' :: rest) with
  | none => rfl
  | some sides =>
    obtain ⟨s, after, he, -⟩ := exists_summary_of_summaryHere? hs
    have start : s.sent.toList ++ marker.toList <+: left ++ '\n' :: rest := by
      rw [he, Summary.toList_text]
      exact ⟨_, by simp only [List.append_assoc]; rfl⟩
    have inside := Text.prefix_of_prefix_append start (newline_notMem_start s)
    exact absurd ((List.suffix_append _ _).isInfix.trans inside.isInfix) h

theorem summary?_line (h : ¬marker.toList <:+: left) :
    summary? (left ++ '\n' :: rest) = summary? rest := by
  induction left with
  | nil =>
    have here : summaryHere? ('\n' :: rest) = none := summaryHere?_line h
    rw [List.nil_append, summary?, here, Option.none_or]
  | cons c left ih =>
    have here : summaryHere? (c :: (left ++ '\n' :: rest)) = none := summaryHere?_line h
    rw [List.cons_append, summary?, here, Option.none_or]
    exact ih fun hleft => h (hleft.trans (List.suffix_cons c left).isInfix)

theorem summary?_unlines {lines : List String}
    (h : ∀ line ∈ lines, Text.occursIn marker line = false) :
    summary? ((Text.unlines lines).toList ++ rest) = summary? rest := by
  rw [Text.unlines, String.toList_ofList]
  induction lines with
  | nil => rfl
  | cons line lines ih =>
    rw [List.forall_mem_cons] at h
    have clean : ¬marker.toList <:+: line.toList := by
      rw [← Text.occursInChars_iff, ← Text.occursIn, h.1]
      decide
    rw [List.flatMap_cons, List.append_assoc, List.append_assoc, List.singleton_append,
      summary?_line clean, ih h.2]

/-! ## Reports -/

namespace Summary

/-- What a summary reports. A count that does not fit is as good as none. -/
def report (s : Summary) (requested : Nat) : PingReport :=
  ⟨(Text.unsigned? 32 s.sent).getD requested, (Text.unsigned? 32 s.received).getD 0⟩

def ofCounts (sent received : Nat) (closing : String) (h : closing ∈ closings) : Summary :=
  ⟨toString sent, toString received, closing, isRun_toString sent, isRun_toString received, h⟩

theorem report_ofCounts {sent received requested : Nat} {closing : String} (h : closing ∈ closings)
    (hs : sent < 2 ^ 32) (hr : received < 2 ^ 32) :
    (ofCounts sent received closing h).report requested = ⟨sent, received⟩ := by
  rw [report, ofCounts, Text.unsigned?_toString hs, Text.unsigned?_toString hr]
  rfl

end Summary

variable {text : String} {requested : Nat}

theorem ofText_of_summary? {s : Summary}
    (h : summary? text.toList = some (s.sent.toList, s.received.toList)) :
    ofText text requested = s.report requested := by
  rw [ofText, h]
  rfl

/-- A text has no summary and reports that nothing came back, or has one that it reports. -/
theorem ofText_cases (text : String) (requested : Nat) :
    ofText text requested = ⟨requested, 0⟩ ∨
      ∃ s : Summary, ∃ before after, text = before ++ s.text ++ after ∧
        ofText text requested = s.report requested := by
  cases hs : summary? text.toList with
  | none =>
    left
    rw [ofText, hs]
  | some sides =>
    right
    obtain ⟨s, before, after, he, hsent, hreceived⟩ := exists_summary_of_summary? hs
    refine ⟨s, String.ofList before, String.ofList after, ?_, ofText_of_summary? ?_⟩
    · rw [← String.toList_inj, he]
      simp only [String.toList_append, String.toList_ofList, List.append_assoc]
    · rw [hs, hsent, hreceived]

theorem allReceived_iff {r : PingReport} :
    r.allReceived = true ↔ 0 < r.transmitted ∧ r.received = r.transmitted := by
  rw [allReceived, Bool.and_eq_true, decide_eq_true_iff, decide_eq_true_iff]

/-- The counts of a summary are found after any lines without the marker, whatever follows it. A
text without the marker reports that nothing came back. Where all probes are answered, a summary of
the text gives that number as received, and as sent unless that count does not fit and the number
asked for stands in. -/
theorem ofText_summary :
    (∀ (sent received requested : Nat) (lines : List String) (closing after : String),
      sent < 2 ^ 32 → received < 2 ^ 32 → closing ∈ closings →
      (∀ line ∈ lines, Text.occursIn " packets transmitted, " line = false) →
      ofText (Text.unlines lines ++
        (toString sent ++ " packets transmitted, " ++ toString received ++ closing) ++ after)
        requested = ⟨sent, received⟩) ∧
    (∀ text requested, Text.occursIn " packets transmitted, " text = false →
      ofText text requested = ⟨requested, 0⟩ ∧ (ofText text requested).allReceived = false) ∧
    ∀ text requested, (ofText text requested).allReceived = true →
      ∃ s : Summary, ∃ before after, text = before ++ s.text ++ after ∧
        ∃ n, 0 < n ∧ Text.unsigned? 32 s.received = some n ∧
          (Text.unsigned? 32 s.sent = some n ∨
            Text.unsigned? 32 s.sent = none ∧ requested = n) := by
  refine ⟨?_, ?_, ?_⟩
  · intro sent received requested lines closing after hs hr hclosing hlines
    let s := Summary.ofCounts sent received closing hclosing
    have found : summary? (Text.unlines lines ++ s.text ++ after).toList =
        some (s.sent.toList, s.received.toList) := by
      rw [String.toList_append, String.toList_append, List.append_assoc, summary?_unlines hlines,
        summary?_text]
    exact (ofText_of_summary? found).trans (Summary.report_ofCounts hclosing hs hr)
  · intro text requested habsent
    have nothing : ofText text requested = ⟨requested, 0⟩ := by
      have clean : ¬marker.toList <:+: text.toList := by
        rw [← Text.occursInChars_iff, ← Text.occursIn, marker, habsent]
        decide
      rw [ofText, summary?_eq_none clean]
    refine ⟨nothing, Bool.eq_false_iff.mpr ?_⟩
    rw [nothing, Ne, allReceived_iff]
    rintro ⟨hpos, heq⟩
    exact absurd heq hpos.ne
  · intro text requested hall
    obtain ⟨hpos, heq⟩ := allReceived_iff.mp hall
    rcases ofText_cases text requested with nothing | ⟨s, before, after, he, hreport⟩
    · rw [nothing] at hpos heq
      exact absurd heq hpos.ne
    · rw [hreport, Summary.report] at hpos heq
      refine ⟨s, before, after, he, _, hpos, ?_, ?_⟩
      · -- a count of zero would stand in for one that does not fit
        cases hr : Text.unsigned? 32 s.received with
        | none =>
          rw [hr] at heq
          exact absurd heq hpos.ne
        | some n =>
          rw [hr] at heq
          exact congrArg some heq
      · cases Text.unsigned? 32 s.sent with
        | none => exact .inr ⟨rfl, rfl⟩
        | some n => exact .inl rfl

end SwitchLab.PingReport

/-! ## Two reports -/

namespace SwitchLab.TwoPings

open PingReport

/-- What a program writes before its summary. -/
def lines : List String :=
  ["PING 10.0.0.2 (10.0.0.2) 56(84) bytes of data.", "", "--- 10.0.0.2 ping statistics ---"]

def summary : Summary := .ofCounts 5 5 " received" (by decide)

def unreachable : String := "connect: Network is unreachable"

theorem summary_found :
    (5 < 2 ^ 32 ∧ " packets received" ∈ closings ∧
      (∀ line ∈ lines, Text.occursIn " packets transmitted, " line = false) ∧
      ofText (Text.unlines lines ++
        (toString 5 ++ " packets transmitted, " ++ toString 2 ++ " packets received") ++
        ", 60% packet loss") 7 = ⟨5, 2⟩) ∧
    (Text.occursIn " packets transmitted, " unreachable = false ∧
      ofText unreachable 5 = ⟨5, 0⟩ ∧ (ofText unreachable 5).allReceived = false) ∧
    ((ofText summary.text 5).allReceived = true ∧
      ∃ s : Summary, ∃ before after, summary.text = before ++ s.text ++ after ∧
        ∃ n, 0 < n ∧ Text.unsigned? 32 s.received = some n ∧
          (Text.unsigned? 32 s.sent = some n ∨ Text.unsigned? 32 s.sent = none ∧ 5 = n)) := by
  obtain ⟨counts, nothing, reported⟩ := ofText_summary
  have clean : ∀ line ∈ lines, Text.occursIn " packets transmitted, " line = false := by
    decide +kernel
  have absent : Text.occursIn " packets transmitted, " unreachable = false := by decide +kernel
  have all : (ofText summary.text 5).allReceived = true := by decide +kernel
  exact ⟨⟨by decide, by decide, clean,
      counts 5 2 7 lines " packets received" ", 60% packet loss" (by decide) (by decide) (by decide)
        clean⟩,
    ⟨absent, nothing unreachable 5 absent⟩, all, reported summary.text 5 all⟩

end SwitchLab.TwoPings
