import SnippetAudit.Backend.Script
import SnippetAudit.Prompt.Program
import SnippetAudit.Proofs.Reply.Transport

/-!
# Replies of two sections

The claim and the details are written without a reasoning in two places: a script lays them out as a whole reply
(`Script.markedReply`), and a demo shows them as the answer to its snippet (`Demo.answer`). Both are read as what was
written, as long as the details are JSON (`ofCompletion_markedReply`, `ofCompletion_answer`).
-/

namespace SnippetAudit

open Text (trim lines unlines)

/-- The word for a claim. -/
def Verdict.claimWord (hasBug : Bool) : String := if hasBug then "True" else "False"

theorem Verdict.saysYes_claimWord (hasBug : Bool) : saysYes (claimWord hasBug) = hasBug := by
  cases hasBug with
  | false => decide +kernel
  | true => decide +kernel

/-- Findings that were listed come from a JSON text. -/
theorem Findings.isSome_parseChars? {details : String} {bugs : List Finding} (h : ofText details = .listed bugs) :
    (Json.parseChars? details.toList).isSome = true := by
  unfold ofText at h
  cases hparse : Json.parse? details with
  | none =>
    rw [hparse] at h
    cases h
  | some v =>
    rw [Json.parse?] at hparse
    rw [hparse]
    rfl

namespace Reply

section Pair

variable {details : String} {bugs : List Finding}

/-- No line of the details is a marker line. -/
theorem unmarked_details (h : Findings.ofText details = .listed bugs) : Unmarked (details.toList ++ ['\n']) := by
  obtain ⟨v, hv⟩ := Option.isSome_iff_exists.1 (Findings.isSome_parseChars? h)
  obtain ⟨t, ht, -⟩ := Json.parseChars?_eq_some.1 hv
  exact unmarked_of_textOf (ht.append_gap (by decide))

theorem unmarked_claimWord (hasBug : Bool) : Unmarked ((Verdict.claimWord hasBug).toList ++ ['\n']) := by
  cases hasBug with
  | false => decide +kernel
  | true => decide +kernel

theorem isPart_hasBug (hasBug : Bool) : IsPart ("has_bug", Verdict.claimWord hasBug) :=
  ⟨(by decide : MarkerName "has_bug"), unmarked_claimWord hasBug⟩

theorem isPart_details (h : Findings.ofText details = .listed bugs) : IsPart ("bug_details", details) :=
  ⟨(by decide : MarkerName "bug_details"), unmarked_details h⟩

/-- **Two sections are read as their fields**, when the body of the details spells what was written. -/
theorem ofCompletion_pair {completion : String} {hasBug : Bool} {body : List Char}
    (hany : (Section.ofText completion.toList).any (·.name ≠ completedName.toList) = true)
    (hclaim : Section.field? "has_bug" (Section.ofText completion.toList) = some (Verdict.claimWord hasBug).toList)
    (hdetails : Section.field? "bug_details" (Section.ofText completion.toList) = some (trim body))
    (hbody : ∀ t, Json.TextOf t details.toList → Json.TextOf t body) (h : Findings.ofText details = .listed bugs) :
    (Verdict.ofCompletion completion).hasBug = hasBug ∧ (Verdict.ofCompletion completion).findings = .listed bugs := by
  have hfindings := findings_unfencedJson (Findings.isSome_parseChars? h) hbody
  rw [String.ofList_toList, h] at hfindings
  rw [Verdict.ofCompletion, ofCompletion, if_pos hany, ofSections, hclaim, hdetails]
  constructor
  · simp only [Verdict.ofReply, Option.getD_some, String.ofList_toList, Verdict.saysYes_claimWord]
  · simpa only [Verdict.ofReply, Option.map_some, Option.getD_some] using hfindings

/-! ## A whole reply -/

theorem markedReply_eq (hasBug details : String) :
    Script.markedReply hasBug details = laidOut "" [("has_bug", hasBug), ("bug_details", details)] "\n" := by
  apply String.toList_inj.1
  simp [Script.markedReply, laidOut, sectionText]

/-- **A marked reply is read as its two fields.** -/
theorem ofCompletion_markedReply (hasBug : Bool) (h : Findings.ofText details = .listed bugs) :
    (Verdict.ofCompletion (Script.markedReply (Verdict.claimWord hasBug) details)).hasBug = hasBug ∧
      (Verdict.ofCompletion (Script.markedReply (Verdict.claimWord hasBug) details)).findings = .listed bugs := by
  have hparts : ∀ part ∈ [("has_bug", Verdict.claimWord hasBug), ("bug_details", details)], IsPart part :=
    List.forall_mem_cons.2 ⟨isPart_hasBug hasBug, List.forall_mem_singleton.2 (isPart_details h)⟩
  have hafter : Trailer "\n" := Or.inr ⟨"", by decide, by decide⟩
  obtain ⟨ls, hls⟩ := ofText_laidOut ⟨Or.inl rfl, by decide⟩ hparts hafter
  have hclaim := @field?_parts "has_bug" (Verdict.claimWord hasBug)
    [("has_bug", Verdict.claimWord hasBug), ("bug_details", details)] ls rfl (by decide)
  have hdetails := @field?_parts "bug_details" details
    [("has_bug", Verdict.claimWord hasBug), ("bug_details", details)] ls rfl (by decide)
  have hword : trim (bodyText (Verdict.claimWord hasBug).toList) = (Verdict.claimWord hasBug).toList := by
    cases hasBug with
    | false => decide +kernel
    | true => decide +kernel
  rw [← markedReply_eq] at hls
  refine ofCompletion_pair ?_ ?_ ?_ (fun _ => textOf_bodyText) h
  · have hname : (sectionOf ("has_bug", Verdict.claimWord hasBug)).name ≠ completedName.toList := by
      dsimp only [sectionOf]
      decide
    rw [hls, List.map_cons, List.cons_append, List.any_cons, decide_eq_true hname, Bool.true_or]
  · rw [hls, hclaim, hword]
  · rw [hls, hdetails]

/-! ## The answer of a demo -/

/-- The sections of an answer. -/
theorem sections_answer {d : Demo} (h : Findings.ofText d.details = .listed bugs) :
    Section.ofText d.answer.toList =
      [⟨"has_bug".toList, [(Verdict.claimWord d.hasBug).toList]⟩,
       ⟨"bug_details".toList, lines (d.details.toList ++ ['\n'])⟩] := by
  have htext : d.answer.toList = (marker "has_bug").toList ++ '\n' :: ((Verdict.claimWord d.hasBug).toList ++
      '\n' :: ((marker "bug_details").toList ++ '\n' :: (d.details.toList ++ ['\n']))) := by
    simp [Demo.answer, Verdict.claimWord]
  have hword : lines ((Verdict.claimWord d.hasBug).toList ++ ['\n']) = [(Verdict.claimWord d.hasBug).toList] ∧
      markerName? (Verdict.claimWord d.hasBug).toList = none := by
    cases d.hasBug with
    | false => decide +kernel
    | true => decide +kernel
  have hlines : lines d.answer.toList = (marker "has_bug").toList :: ([(Verdict.claimWord d.hasBug).toList] ++
      (marker "bug_details").toList :: (lines (d.details.toList ++ ['\n']) ++ [])) := by
    rw [htext, (isPart_hasBug d.hasBug).lines_marker, Text.lines_append_newline, hword.1,
      (isPart_details h).lines_marker, List.append_nil]
  have hdetails : Section.split ((marker "bug_details").toList :: (lines (d.details.toList ++ ['\n']) ++ [])) =
      ([], [⟨"bug_details".toList, lines (d.details.toList ++ ['\n'])⟩]) :=
    Section.split_section (markerName?_marker (isPart_details h).name.1) (unmarked_details h) rfl
  rw [Section.ofText, hlines, Section.split_section (markerName?_marker (isPart_hasBug d.hasBug).name.1)
    (List.forall_mem_singleton.2 hword.2) (by rw [hdetails]), hdetails]

/-- Of two sections, each name finds its own. -/
theorem field?_answer (ls ls' : List (List Char)) :
    Section.field? "has_bug" [⟨"has_bug".toList, ls⟩, ⟨"bug_details".toList, ls'⟩] = some (trim (unlines ls)) ∧
    Section.field? "bug_details" [⟨"has_bug".toList, ls⟩, ⟨"bug_details".toList, ls'⟩] = some (trim (unlines ls')) := by
  constructor
  · simp [Section.field?, Section.body?]
  · simp [Section.field?, Section.body?]

/-- **The answer of a demo is read as its two fields.** -/
theorem ofCompletion_answer {d : Demo} (h : Findings.ofText d.details = .listed bugs) :
    (Verdict.ofCompletion d.answer).hasBug = d.hasBug ∧ (Verdict.ofCompletion d.answer).findings = .listed bugs := by
  have hword : trim (unlines [(Verdict.claimWord d.hasBug).toList]) = (Verdict.claimWord d.hasBug).toList := by
    cases d.hasBug with
    | false => decide +kernel
    | true => decide +kernel
  have hbody : ∀ t, Json.TextOf t d.details.toList →
      Json.TextOf t (unlines (lines (d.details.toList ++ ['\n']))) := by
    intro t ht
    exact (ht.append_gap (by decide)).thinned (Text.thinned_lines d.details.toList)
  have hsections := sections_answer h
  refine ofCompletion_pair ?_ ?_ ?_ hbody h
  · have hname : "has_bug".toList ≠ completedName.toList := by decide
    rw [hsections]
    exact List.any_eq_true.2 ⟨_, List.mem_cons_self, decide_eq_true hname⟩
  · rw [hsections, (field?_answer _ _).1, hword]
  · rw [hsections, (field?_answer _ _).2]

end Pair
end Reply
end SnippetAudit
