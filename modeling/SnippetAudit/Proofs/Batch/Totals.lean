import SnippetAudit.Batch.Report
import Mathlib

/-!
# The totals of a report

The rows of a report and its totals are made in two passes over the outcomes, and say the same.

- Totals add up member by member, and every outcome has its share in them (`Summary.ofOutcomes_eq_sum`). So the totals
  of two lists are added for their concatenation, and the order of the outcomes does not matter.
- A row shows its outcome (`Row.shows_ofOutcome`), and the share of an outcome can be read off its row
  (`Row.share_ofOutcome`). So the totals of a report are those of its rows (`Row.sum_shares`, `Report.summary_eq_sum`).
-/

namespace SnippetAudit.Batch

/-! ## Totals -/

namespace Summary

instance : Zero Summary := ⟨zero⟩

instance : Add Summary where
  add a b := ⟨a.total + b.total, a.filesWithBugs + b.filesWithBugs, a.totalBugs + b.totalBugs, a.failures + b.failures⟩

theorem zero_def : (0 : Summary) = ⟨0, 0, 0, 0⟩ := rfl

theorem add_def (a b : Summary) : a + b =
    ⟨a.total + b.total, a.filesWithBugs + b.filesWithBugs, a.totalBugs + b.totalBugs, a.failures + b.failures⟩ := rfl

/-- Totals are added member by member. -/
instance : AddCommMonoid Summary where
  add_assoc a b c := by simp only [add_def, Nat.add_assoc]
  zero_add a := by simp only [add_def, zero_def, Nat.zero_add]
  add_zero a := by simp only [add_def, zero_def, Nat.add_zero]
  add_comm a b := by simp only [add_def, Nat.add_comm]
  nsmul := nsmulRec

/-- What one outcome adds to the totals. -/
def ofOutcome (o : Outcome) : Summary := zero.add o

theorem add_eq (s : Summary) (o : Outcome) : s.add o = s + ofOutcome o := by
  cases o <;> simp only [ofOutcome, add, add_def, zero, Nat.zero_add, Nat.add_zero]

theorem foldl_add (os : List Outcome) : ∀ s : Summary, os.foldl add s = s + (os.map ofOutcome).sum := by
  induction os with
  | nil =>
    intro s
    rw [List.foldl_nil, List.map_nil, List.sum_nil, add_zero]
  | cons o os ih =>
    intro s
    rw [List.foldl_cons, ih, add_eq, List.map_cons, List.sum_cons, add_assoc]

/-- **Totals are the sum of the shares.** -/
theorem ofOutcomes_eq_sum (os : List Outcome) : ofOutcomes os = (os.map ofOutcome).sum :=
  (foldl_add os 0).trans (zero_add _)

theorem ofOutcomes_append (os os' : List Outcome) : ofOutcomes (os ++ os') = ofOutcomes os + ofOutcomes os' := by
  rw [ofOutcomes_eq_sum, ofOutcomes_eq_sum, ofOutcomes_eq_sum, List.map_append, List.sum_append]

theorem ofOutcomes_perm {os os' : List Outcome} (h : os.Perm os') : ofOutcomes os = ofOutcomes os' := by
  rw [ofOutcomes_eq_sum, ofOutcomes_eq_sum]
  exact (h.map ofOutcome).sum_eq

end Summary

/-! ## Rows -/

namespace Row

/-- What a row shows of an outcome, also in its record: the verdict and the bugs, or the failure. -/
structure Shows (row : Row) (o : FileOutcome) : Prop where
  file : row.file = o.file
  hasBug : row.hasBug = o.outcome.verdict?.map (·.hasBug)
  bugs : row.bugs = o.outcome.verdict?.map (·.bugs)
  error : row.error = o.outcome.reason?
  record : row.json = .obj (("file", .str o.file.text) ::
    (o.outcome.verdict?.elim [] (fun v => [("has_bug", .bool v.hasBug), ("bugs", .arr (v.bugs.map Finding.json))]) ++
      o.outcome.reason?.elim [] fun reason => [("error", .str reason)]))

/-- A row of something found: a verdict with its bugs, and no failure. -/
def IsFound (row : Row) : Prop := row.hasBug.isSome ∧ row.bugs.isSome ∧ row.error = none

/-- A row of a failure, and of nothing else. -/
def IsFailed (row : Row) : Prop := row.hasBug = none ∧ row.bugs = none ∧ row.error.isSome

theorem shows_ofOutcome (o : FileOutcome) : (ofOutcome o).Shows o := by
  obtain ⟨file, v | reason⟩ := o <;> exact ⟨rfl, rfl, rfl, rfl, rfl⟩

/-- **A row is of one kind or the other.** -/
theorem found_or_failed (o : FileOutcome) : (ofOutcome o).IsFound ∨ (ofOutcome o).IsFailed := by
  obtain ⟨file, v | reason⟩ := o
  · exact .inl ⟨rfl, rfl, rfl⟩
  · exact .inr ⟨rfl, rfl, rfl⟩

/-- Whether a row claims a bug. -/
def claimsBug (row : Row) : Bool := row.hasBug == some true

/-- Whether a row is one of a failure. -/
def showsFailure (row : Row) : Bool := row.error.isSome

/-- The number of bugs in a row. -/
def bugCount (row : Row) : Nat := (row.bugs.getD []).length

/-- What a row adds to the totals. -/
def share (row : Row) : Summary :=
  ⟨1, if row.claimsBug then 1 else 0, row.bugCount, if row.showsFailure then 1 else 0⟩

theorem share_ofOutcome (o : FileOutcome) : (ofOutcome o).share = Summary.ofOutcome o.outcome := by
  obtain ⟨file, v | reason⟩ := o
  · simp [ofOutcome, share, claimsBug, bugCount, showsFailure, Summary.ofOutcome, Summary.add, Summary.zero]
  · rfl

/-- **The shares of rows count the rows**, and what stands in them. -/
theorem sum_shares (rows : List Row) : (rows.map share).sum =
    ⟨rows.length, rows.countP claimsBug, (rows.map bugCount).sum, rows.countP showsFailure⟩ := by
  induction rows with
  | nil => rfl
  | cons row rows ih =>
    rw [List.map_cons, List.sum_cons, ih, Summary.add_def, share, List.length_cons, List.countP_cons, List.countP_cons,
      List.map_cons, List.sum_cons]
    simp only [Nat.add_comm]

/-- No row counts twice. -/
theorem countP_add_countP_le {rows : List Row} (h : ∀ row ∈ rows, row.IsFound ∨ row.IsFailed) :
    rows.countP claimsBug + rows.countP showsFailure ≤ rows.length := by
  have hclaims : rows.countP claimsBug ≤ rows.countP fun row => !row.showsFailure := by
    refine List.countP_mono_left fun row hrow hclaims => ?_
    obtain ⟨-, -, herror⟩ | ⟨hnone, -, -⟩ := h row hrow
    · simp [showsFailure, herror]
    · simp [claimsBug, hnone] at hclaims
  have hlength := List.length_eq_countP_add_countP showsFailure (l := rows)
  simp only [Bool.not_eq_true, Bool.decide_eq_false] at hlength
  omega

end Row

/-! ## Reports -/

namespace Report

variable (now : Instant) (directory : Path) (pattern : String)

/-- **The totals of a report are those of its rows.** -/
theorem summary_eq_sum (os : List FileOutcome) :
    (ofOutcomes now directory pattern os).summary = ((ofOutcomes now directory pattern os).rows.map Row.share).sum := by
  simp only [ofOutcomes, Summary.ofOutcomes_eq_sum, List.map_map]
  congr 2
  funext o
  exact (Row.share_ofOutcome o).symm

/-- **A report agrees with itself.** Its rows show the outcomes one by one, each a finding or a failure; its totals are
those of its rows; and totals are added where lists are put together, in whatever order. -/
theorem ofOutcomes_agrees (os : List FileOutcome) :
    let report := ofOutcomes now directory pattern os
    let totals := fun os : List FileOutcome => (ofOutcomes now directory pattern os).summary
    List.Forall₂ Row.Shows report.rows os ∧
    (∀ row ∈ report.rows, row.IsFound ∨ row.IsFailed) ∧
    report.summary.total = report.rows.length ∧
    report.summary.failures = report.rows.countP (·.error.isSome) ∧
    report.summary.filesWithBugs = report.rows.countP (·.hasBug == some true) ∧
    report.summary.totalBugs = (report.rows.map fun row => (row.bugs.getD []).length).sum ∧
    report.summary.filesWithBugs + report.summary.failures ≤ report.summary.total ∧
    (∀ os', totals (os ++ os') = totals os + totals os') ∧
    ∀ os', os.Perm os' → totals os' = totals os := by
  intro report totals
  have hrows : ∀ row ∈ report.rows, row.IsFound ∨ row.IsFailed := by
    intro row hrow
    obtain ⟨o, -, rfl⟩ := List.mem_map.1 hrow
    exact Row.found_or_failed o
  have hsummary : report.summary = ⟨_, _, _, _⟩ := (summary_eq_sum now directory pattern os).trans (Row.sum_shares _)
  refine ⟨?_, hrows, congrArg Summary.total hsummary, congrArg Summary.failures hsummary,
    congrArg Summary.filesWithBugs hsummary, congrArg Summary.totalBugs hsummary, ?_, fun os' => ?_, fun os' h => ?_⟩
  · exact List.forall₂_map_left_iff.2 (List.forall₂_same.2 fun o _ => Row.shows_ofOutcome o)
  · rw [hsummary]
    exact Row.countP_add_countP_le hrows
  · simp only [totals, ofOutcomes, List.map_append]
    exact Summary.ofOutcomes_append _ _
  · exact (Summary.ofOutcomes_perm (h.map (·.outcome))).symm

/-- A verdict that lists no bug it claims, a failure, and a verdict that claims none of the bugs it lists. -/
def mixed : List FileOutcome :=
  [⟨⟨"a.c"⟩, .detected (Verdict.ofFields "yes" "none")⟩, ⟨⟨"b.c"⟩, .failed "down"⟩,
    ⟨⟨"c.c"⟩, .detected (Verdict.ofFields "no" "\x7b\"bugs\": [\x7b\x7d, \x7b\x7d]\x7d")⟩]

theorem ofOutcomes_agrees_mixed : mixed.Perm mixed.reverse ∧
    (ofOutcomes ⟨⟨2024, 1, 1⟩, 0, 0, 0, 0⟩ ⟨"."⟩ "*.c" mixed.reverse).summary = ⟨3, 1, 2, 1⟩ := by
  have h : mixed.Perm mixed.reverse := mixed.reverse_perm.symm
  have htotals : (ofOutcomes ⟨⟨2024, 1, 1⟩, 0, 0, 0, 0⟩ ⟨"."⟩ "*.c" mixed).summary = ⟨3, 1, 2, 1⟩ := by decide +kernel
  obtain ⟨-, -, -, -, -, -, -, -, horder⟩ := ofOutcomes_agrees ⟨⟨2024, 1, 1⟩, 0, 0, 0, 0⟩ ⟨"."⟩ "*.c" mixed
  exact ⟨h, (horder _ h).trans htotals⟩

end Report
end SnippetAudit.Batch
