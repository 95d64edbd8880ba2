import SnippetAudit.Grade
import SnippetAudit.Proofs.Finding
import SnippetAudit.Proofs.Reply.Pair

/-!
# Answering with the label

A model that answers a sample with its own label gets all points. The answer is read back with the bugs of the label
(`Sample.answered_findings`), and a verdict that agrees with the label in its claim and its bugs loses nothing
(`Grade.standard_of_agrees`). This holds of every label that claims a bug exactly when it lists one, and so of those
that samples are built with (`Sample.answered_earnsAll`).
-/

namespace SnippetAudit

/-! ## Verdicts that agree with a label -/

namespace Grade

variable {e : Sample} {v : Verdict}

/-- A verdict with the claim and the bugs of a label. -/
structure Agrees (e : Sample) (v : Verdict) : Prop where
  hasBug : v.hasBug = e.hasBug
  findings : v.findings = Findings.ofText e.details
  readable : v.isDegraded = false
  consistent : v.isConsistent = true

theorem forClaim_of_agrees (h : Agrees e v) : forClaim e v = (0.0 + 0.5, []) := if_pos h.hasBug

/-- The type id of the first bug is the one that is wanted. -/
theorem forType_self (points : Float) (typeId : String) : forType points typeId typeId = (points + 0.5, []) :=
  if_pos rfl

theorem forDetails_of_agrees (h : Agrees e v) (points : Float) : forDetails points e v = (points + 0.5, []) := by
  have hbugs : (Findings.ofText e.details).bugs = v.bugs := by rw [Verdict.bugs, h.findings]
  have hconsistent := h.consistent
  unfold Verdict.isConsistent at hconsistent
  unfold forDetails
  rw [← h.hasBug, hbugs]
  cases hempty : v.bugs.isEmpty with
  | true =>
    have hclaim : v.hasBug = false := by simpa [hempty] using hconsistent
    rw [hclaim, if_neg Bool.false_ne_true, if_pos rfl]
  | false =>
    have hclaim : v.hasBug = true := by simpa [hempty] using hconsistent
    simp only [hclaim, hempty, if_true, Bool.false_eq_true, if_false, forType_self]

/-- **All points and nothing to say.** -/
theorem standard_of_agrees (h : Agrees e v) : standard e v = ⟨1.0, some "correct"⟩ := by
  have htally : tally e v = ((0.0 + 0.5) + 0.5, []) := by
    unfold tally
    simp only [forClaim_of_agrees h, h.readable, Bool.false_eq_true, if_false, forDetails_of_agrees h,
      List.append_nil]
  have hsum : ((0.0 + 0.5 : Float) + 0.5) = 1.0 := by decide
  rw [standard, htally]
  simp only [hsum]
  rfl

end Grade

/-! ## The answer of a label -/

namespace Sample

/-- The verdict on a reply that gives the label of a sample. -/
def answered (e : Sample) : Verdict :=
  Verdict.ofCompletion (Script.markedReply (if e.hasBug then "True" else "False") e.details)

/-- A verdict that gets all points. -/
structure EarnsAll (e : Sample) (v : Verdict) : Prop where
  readable : v.isDegraded = false
  consistent : v.isConsistent = true
  grade : Grade.standard e v = ⟨1.0, some "correct"⟩

variable {e : Sample} {bugs : List Finding}

theorem answered_findings (h : Findings.ofText e.details = .listed bugs) :
    e.answered.hasBug = e.hasBug ∧ e.answered.findings = .listed bugs :=
  Reply.ofCompletion_markedReply e.hasBug h

/-- **The answer with the label agrees with it.** -/
theorem answered_agrees (h : Findings.ofText e.details = .listed bugs) (hclaim : e.hasBug = !bugs.isEmpty) :
    Grade.Agrees e e.answered := by
  obtain ⟨hhasBug, hfindings⟩ := answered_findings h
  constructor
  · exact hhasBug
  · rw [hfindings, h]
  · rw [Verdict.isDegraded, hfindings]
    rfl
  · have hbugs : e.answered.bugs = bugs := by
      rw [Verdict.bugs, hfindings]
      rfl
    rw [Verdict.isConsistent, hbugs, hhasBug, hclaim]
    cases bugs.isEmpty with
    | false => rfl
    | true => rfl

theorem Built.earnsAll (h : e.Built bugs) : e.EarnsAll e.answered := by
  have hagrees := answered_agrees h.findings h.hasBug
  exact ⟨hagrees.readable, hagrees.consistent, Grade.standard_of_agrees hagrees⟩

/-- **Answering with the label earns full marks**, and the bug of a buggy sample is found with its type. -/
theorem answered_earnsAll (snippet typeId typeName : String) :
    (buggy snippet typeId typeName).EarnsAll (buggy snippet typeId typeName).answered ∧
    (clean snippet).EarnsAll (clean snippet).answered ∧
    (buggy snippet typeId typeName).answered.findings =
      .listed [⟨none, none, some typeId, some ("This code contains " ++ typeName)⟩] := by
  have hbuggy := Built.buggy snippet typeId typeName
  refine ⟨hbuggy.earnsAll, (Built.clean snippet).earnsAll, ?_⟩
  exact (answered_findings hbuggy.findings).2

end Sample
end SnippetAudit
