import SnippetAudit.Verdict
import SnippetAudit.Proofs.Reply.Fence

/-!
# Sections carry JSON unchanged

A completion that is laid out as the prompt demands — sections in any order, with any chatter around — is read as its
three bodies (`ofCompletion_laidOut`). For the reasoning and the claim this needs that no line of theirs is a marker; a
JSON text has no such line, and the carriage returns and blanks that are lost on the way are none of its value
(`findings_transported`).
-/

namespace SnippetAudit.Reply

open Text (Trimmed Blank trim lines unlines)

/-! ## One body -/

/-- The text of a section, before it is trimmed. -/
def bodyText (s : List Char) : List Char := unlines (lines (s ++ ['\n']) ++ [[]])

theorem trim_bodyText {s : List Char} (h : '\r' ∉ s) : trim (bodyText s) = trim s := by
  have hb : Blank ['\n', '\n'] := by decide
  rw [bodyText, Text.unlines_append, Text.unlines_lines h]
  exact List.append_assoc s ['\n'] ['\n'] ▸ Text.trim_append_blank hb s

/-- A JSON text spells its tree also behind the marker. -/
theorem textOf_bodyText {t : Json.Tree} {s : List Char} (h : Json.TextOf t s) : Json.TextOf t (bodyText s) := by
  have hgap : Json.Gap ['\n'] := by decide
  rw [bodyText, Text.unlines_append]
  exact ((h.append_gap hgap).thinned (Text.thinned_lines s)).append_gap hgap

/-- A text that spells the same tree has the same findings, also as the body of a section. -/
theorem findings_unfencedJson {s w : List Char} (h : (Json.parseChars? s).isSome = true)
    (hw : ∀ t, Json.TextOf t s → Json.TextOf t w) :
    Findings.ofText (String.ofList (unfencedJson (trim w))) = Findings.ofText (String.ofList s) := by
  obtain ⟨v, hv⟩ := Option.isSome_iff_exists.1 h
  obtain ⟨t, ht, hj⟩ := Json.parseChars?_eq_some.1 hv
  have htrim := (hw t ht).trim
  have hparse := Json.parseChars?_eq_some.2 ⟨t, htrim.textOf, hj⟩
  rw [unfencedJson_of_spells htrim]
  simp [Findings.ofText, Json.parse?, hparse, hv]

/-- **The findings of a JSON text are the findings of its section.** -/
theorem findings_transported {s : List Char} (h : (Json.parseChars? s).isSome = true) :
    Findings.ofText (String.ofList (unfencedJson (trim (bodyText s)))) = Findings.ofText (String.ofList s) :=
  findings_unfencedJson h fun _ => textOf_bodyText

/-! ## The whole completion -/

/-- A completion: what stands before the sections, the sections, the line that ends them, and what follows on that
line. -/
def laidOut (before : String) (parts : List (String × String)) (after : String) : String :=
  before ++ String.join (parts.map sectionText) ++ marker completedName ++ after

/-- The end of a completion: nothing more, or further lines without a marker. -/
def Trailer (after : String) : Prop := after = "" ∨ ∃ s, after = "\n" ++ s ∧ Unmarked s.toList

/-- The lines up to the first marker. -/
def Preamble (before : String) : Prop := (before = "" ∨ ∃ s, before = s ++ "\n") ∧ Unmarked before.toList

theorem Preamble.lines_append {before : String} (h : Preamble before) (s : List Char) :
    lines (before.toList ++ s) = lines before.toList ++ lines s := by
  rcases h.1 with rfl | ⟨p, rfl⟩
  · rfl
  · simpa using Text.lines_append_newline p.toList s

/-- The last line opens a section of its own, which takes the trailer. -/
theorem split_completed {after : String} (h : Trailer after) :
    ∃ ls, Section.split (lines ((marker completedName).toList ++ after.toList)) =
      ([], [⟨completedName.toList, ls⟩]) := by
  rcases h with rfl | ⟨s, rfl, hs⟩
  · exact ⟨[], by decide⟩
  · have hline : lines ((marker completedName).toList ++ ("\n" ++ s).toList) =
        (marker completedName).toList :: lines s.toList := by
      rw [String.toList_append]
      exact Text.lines_append_newline _ _
    have hbody : Section.split (lines s.toList) = (lines s.toList, []) := by
      simpa [Section.split] using Section.split_append hs []
    have hname : markerName? (marker completedName).toList = some completedName.toList := by decide
    rw [hline, Section.split_marker hname, hbody]
    exact ⟨_, rfl⟩

/-- **The sections of a completion are its parts.** -/
theorem ofText_laidOut {before after : String} {parts : List (String × String)} (hbefore : Preamble before)
    (hparts : ∀ part ∈ parts, IsPart part) (hafter : Trailer after) :
    ∃ ls, Section.ofText (laidOut before parts after).toList =
      parts.map sectionOf ++ [⟨completedName.toList, ls⟩] := by
  obtain ⟨ls, hls⟩ := split_completed hafter
  refine ⟨ls, ?_⟩
  have htext : (laidOut before parts after).toList = before.toList ++
      (parts.flatMap (fun part => (sectionText part).toList) ++ ((marker completedName).toList ++ after.toList)) := by
    simp [laidOut, String.toList_join, List.flatMap_map]
  rw [Section.ofText, htext, hbefore.lines_append, Section.split_append hbefore.2,
    split_parts hparts (by rw [hls]), hls]

/-- A name that one part has is read as the body of that part. -/
theorem field?_parts {name body : String} {parts : List (String × String)} {ls : List (List Char)}
    (h : parts.filter (·.1 == name) = [(name, body)]) (hn : name ≠ completedName) :
    Section.field? name (parts.map sectionOf ++ [⟨completedName.toList, ls⟩]) = some (trim (bodyText body.toList)) := by
  have hmap : (parts.map sectionOf).filter (·.name == name.toList) = [sectionOf (name, body)] := by
    have hp : ((fun s : Section => s.name == name.toList) ∘ sectionOf) =
        fun part : String × String => part.1 == name := by
      funext part
      rw [Bool.eq_iff_iff]
      simp [sectionOf, String.toList_inj]
    rw [List.filter_map, hp, h]
    rfl
  have hlast : [(⟨completedName.toList, ls⟩ : Section)].filter (·.name == name.toList) = [] := by
    simpa [String.toList_inj] using Ne.symm hn
  rw [Section.field?, Section.body?, List.filter_append, hmap, hlast]
  simp [sectionOf, bodyText]

/-- The three parts that are asked for. -/
def askedParts (reasoning hasBug details : String) : List (String × String) :=
  [("reasoning", reasoning), ("has_bug", hasBug), ("bug_details", details)]

theorem filter_askedParts {reasoning hasBug details : String} {parts : List (String × String)}
    (h : parts.Perm (askedParts reasoning hasBug details)) :
    parts.filter (·.1 == "reasoning") = [("reasoning", reasoning)] ∧
      parts.filter (·.1 == "has_bug") = [("has_bug", hasBug)] ∧
      parts.filter (·.1 == "bug_details") = [("bug_details", details)] :=
  ⟨List.perm_singleton.1 (h.filter _), List.perm_singleton.1 (h.filter _), List.perm_singleton.1 (h.filter _)⟩

/-- Every part that is asked for stays in its section. -/
theorem isPart_of_perm {reasoning hasBug details : String} {parts : List (String × String)}
    (h : parts.Perm (askedParts reasoning hasBug details)) (hr : Unmarked (reasoning.toList ++ ['\n']))
    (hh : Unmarked (hasBug.toList ++ ['\n'])) (hd : Unmarked (details.toList ++ ['\n'])) :
    ∀ part ∈ parts, IsPart part := by
  intro part hp
  have hp := h.mem_iff.1 hp
  simp only [askedParts, List.mem_cons, List.not_mem_nil, or_false] at hp
  rcases hp with rfl | rfl | rfl
  · exact ⟨(by decide : MarkerName "reasoning"), hr⟩
  · exact ⟨(by decide : MarkerName "has_bug"), hh⟩
  · exact ⟨(by decide : MarkerName "bug_details"), hd⟩

/-- The three fields, as they are read from a completion that is laid out. -/
theorem reply_laidOut {before after reasoning hasBug details : String} {parts : List (String × String)}
    (hbefore : Preamble before) (hafter : Trailer after) (hall : ∀ part ∈ parts, IsPart part)
    (hparts : parts.Perm (askedParts reasoning hasBug details)) :
    ofCompletion (laidOut before parts after) =
      { reasoning := ((some (trim (bodyText reasoning.toList))).filter (!·.isEmpty)).map String.ofList
        hasBug := String.ofList (trim (bodyText hasBug.toList))
        details := String.ofList (unfencedJson (trim (bodyText details.toList))) } := by
  obtain ⟨ls, hls⟩ := ofText_laidOut hbefore hall hafter
  obtain ⟨h₁, h₂, h₃⟩ := filter_askedParts hparts
  have hany : (parts.map sectionOf ++ [(⟨completedName.toList, ls⟩ : Section)]).any
      (·.name ≠ completedName.toList) = true := by
    have hmem : ("has_bug", hasBug) ∈ parts := hparts.mem_iff.2 (by simp [askedParts])
    have hname : (sectionOf ("has_bug", hasBug)).name ≠ completedName.toList := by
      dsimp only [sectionOf]
      decide
    rw [List.any_append, Bool.or_eq_true, List.any_eq_true]
    exact .inl ⟨sectionOf ("has_bug", hasBug), List.mem_map_of_mem hmem, decide_eq_true hname⟩
  rw [ofCompletion, hls]
  simp only [hany, if_true, ofSections, field?_parts h₁ (by decide), field?_parts h₂ (by decide),
    field?_parts h₃ (by decide), Option.getD_some, Option.map_some]

/-- **Marker transport is transparent.** -/
theorem ofCompletion_laidOut {before after reasoning hasBug details : String} {parts : List (String × String)}
    (hbefore : Preamble before) (hafter : Trailer after)
    (hreasoning : '\r' ∉ reasoning.toList ∧ Unmarked reasoning.toList)
    (hhasBug : '\r' ∉ hasBug.toList ∧ Unmarked hasBug.toList) (hdetails : (Json.parse? details).isSome = true)
    (hparts : parts.Perm (askedParts reasoning hasBug details)) :
    Verdict.ofCompletion (laidOut before parts after) =
        { hasBug := Verdict.saysYes (Text.trimmed hasBug)
          findings := .ofText details
          reasoning := if Text.isBlankText reasoning then none else some (Text.trimmed reasoning)
          completion := laidOut before parts after } ∧
      (Findings.ofText details).isUnread = false := by
  obtain ⟨v, hv⟩ := Option.isSome_iff_exists.1 hdetails
  obtain ⟨t, ht, -⟩ := Json.parseChars?_eq_some.1 hv
  have hd : Unmarked (details.toList ++ ['\n']) := unmarked_of_textOf (ht.append_gap (by decide))
  have hall := isPart_of_perm hparts (hreasoning.2.newline hreasoning.1) (hhasBug.2.newline hhasBug.1) hd
  have hfindings : Findings.ofText (String.ofList (unfencedJson (trim (bodyText details.toList)))) =
      Findings.ofText details := by
    rw [findings_transported hdetails, String.ofList_toList]
  have hreason : ((some (trim reasoning.toList)).filter (!·.isEmpty)).map String.ofList =
      if Text.isBlankText reasoning then none else some (Text.trimmed reasoning) := by
    by_cases hb : Text.isBlankText reasoning = true
    · simp [hb, Text.trim_eq_nil.2 (Text.isBlankText_iff.1 hb)]
    · have hne : trim reasoning.toList ≠ [] := fun h => hb (Text.isBlankText_iff.2 (Text.trim_eq_nil.1 h))
      rw [if_neg hb, Option.filter_some, if_pos (by simpa using hne)]
      rfl
  refine ⟨?_, by simp [Findings.ofText, hv, Findings.isUnread, Findings.raw?, Findings.ofJson]⟩
  rw [Verdict.ofCompletion, reply_laidOut hbefore hafter hall hparts]
  simp only [Verdict.ofReply, trim_bodyText hreasoning.1, trim_bodyText hhasBug.1, hfindings, hreason, Text.trimmed]

/-- A completion with chatter around its sections, in another order, with a JSON text of CRLF lines. -/
theorem ofCompletion_laidOut_crlf :
    Verdict.ofCompletion (laidOut "Sure:\n[[ ## ]\n" [("bug_details", " \r\n[\r\n \"[[ ## has_bug ## ]]\"\r\n]\r\n"),
        ("has_bug", " Yes"), ("reasoning", "a\n\nb ")] "\nDone.") =
      { hasBug := true
        findings := .ofText " \r\n[\r\n \"[[ ## has_bug ## ]]\"\r\n]\r\n"
        reasoning := some "a\n\nb"
        completion := laidOut "Sure:\n[[ ## ]\n" [("bug_details", " \r\n[\r\n \"[[ ## has_bug ## ]]\"\r\n]\r\n"),
          ("has_bug", " Yes"), ("reasoning", "a\n\nb ")] "\nDone." } :=
  (@ofCompletion_laidOut "Sure:\n[[ ## ]\n" "\nDone." "a\n\nb " " Yes"
    " \r\n[\r\n \"[[ ## has_bug ## ]]\"\r\n]\r\n" _ ⟨.inr ⟨"Sure:\n[[ ## ]", by decide⟩, by decide +kernel⟩
    (.inr ⟨"Done.", by decide, by decide +kernel⟩) (by decide +kernel) (by decide +kernel) (by decide +kernel)
    (by decide)).1

end SnippetAudit.Reply
