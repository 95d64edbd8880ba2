import SnippetAudit.Backend.Script
import SnippetAudit.Evaluation
import SnippetAudit.Proofs.Run.Accounts
import SnippetAudit.Proofs.Run.Row

/-!
# What an evaluation reports

Samples are tried one after another, and the report is about just these tries.

- One try adds one trial, which shows the verdict and its score, or the failure (`Trial.Shows`,
  `Evaluation.Progress.add_trials`). What is carried along agrees with the trials so far
  (`Evaluation.Progress.Agrees`): one try more keeps it so (`Evaluation.Progress.Agrees.add`), and so it does at the end
  (`Detector.evaluate_agrees`).
- The trials are those of a row of tries (`Detector.evaluate_apply`), so a trial is settled by its sample and by the run
  in which it is reached (`Detector.evaluate_at`), and the tries under a smaller limit come first in those under a
  greater one (`Detector.evaluate_limited`).
- The numbers of a report are those of its trials (`Detector.evaluate_report`).
-/

namespace SnippetAudit

variable {σ : Type}

/-! ## Trials -/

namespace Trial

/-- What a trial shows, also in its record: a verdict, a score and a failure, as far as they are there. -/
structure Shows (t : Trial) (hasBug? : Option Bool) (points? : Option Float) (reason? : Option String) : Prop where
  predicted : t.predicted = hasBug?
  score : t.score = points?
  error : t.error = reason?
  record : t.json = .obj ([("index", .nat t.index), ("expected_has_bug", .bool t.expected)] ++
    ((hasBug?.map fun hasBug => ("predicted_has_bug", Json.bool hasBug)).toList ++
      (points?.map fun points => ("score", Json.real points)).toList ++
      (reason?.map fun reason => ("error", Json.str reason)).toList))

/-- A trial that has a verdict with a score, or a failure, and not both. -/
def Settled (t : Trial) : Prop :=
  (t.predicted.isSome ∧ t.score.isSome ∧ t.error = none) ∨ (t.predicted = none ∧ t.score = none ∧ t.error.isSome)

/-- The trial of a sample, from what its detection returned. -/
def ofResult (metric : Metric) (index : Nat) (s : Sample) : Except Failure Verdict → Trial
  | .ok v => ⟨index, s.hasBug, some v.hasBug, some (metric s v).score, none⟩
  | .error e => ⟨index, s.hasBug, none, none, some e.message⟩

theorem shows_self (t : Trial) : t.Shows t.predicted t.score t.error := by
  refine ⟨rfl, rfl, rfl, ?_⟩
  rw [json, List.append_assoc, List.append_assoc, List.append_assoc]

theorem settled_ofResult (metric : Metric) (index : Nat) (s : Sample) (r : Except Failure Verdict) :
    (ofResult metric index s r).Settled := by
  cases r with
  | ok v => exact Or.inl ⟨rfl, rfl, rfl⟩
  | error e => exact Or.inr ⟨rfl, rfl, rfl⟩

end Trial

/-! ## What is carried along -/

namespace Evaluation.Progress

/-- What is carried along is that of the trials: the sum is of their scores in order, and the number that of the right
ones. -/
structure Agrees (p : Progress) : Prop where
  settled : ∀ t ∈ p.trials, t.Settled
  scoreSum_eq : p.scoreSum = p.trials.foldl (fun sum t => t.score.elim sum (sum + ·)) 0.0
  correct_eq : p.correct = p.trials.countP fun t => t.predicted == some t.expected

theorem start_agrees : start.Agrees := ⟨by simp [start], rfl, rfl⟩

variable (metric : Metric) (p : Progress) (s : Sample) (index : Nat) (r : Except Failure Verdict)

/-- **One try is one trial more.** -/
theorem add_trials : (p.add metric s index r).trials = p.trials ++ [Trial.ofResult metric index s r] := by
  cases r <;> rfl

variable {p} in
/-- **One try more keeps the agreement.** -/
theorem Agrees.add (h : p.Agrees) : (p.add metric s index r).Agrees := by
  constructor
  · rw [add_trials, List.forall_mem_append, List.forall_mem_singleton]
    exact ⟨h.settled, Trial.settled_ofResult metric index s r⟩
  · rw [add_trials, List.foldl_append, ← h.scoreSum_eq]
    cases r <;> rfl
  · rw [add_trials, List.countP_append, ← h.correct_eq, List.countP_singleton]
    cases r with
    | error e => rfl
    | ok v =>
      by_cases hright : v.hasBug = s.hasBug <;> simp [Progress.add, Trial.ofResult, hright]

/-! ### The numbers of a report -/

variable {p} {total : Nat}

theorem errors_report : (p.report total).errors = p.trials.countP (·.error.isSome) := List.countP_eq_length_filter.symm

theorem scored_add_errors (h : p.trials.length = total) : (p.report total).scored + (p.report total).errors = total := by
  apply Nat.sub_add_cancel
  rw [← h]
  exact List.length_filter_le _ _

/-- The scores are added up in their order, and a failed try adds nothing. -/
theorem averageScore_report (h : p.Agrees) : (p.report total).averageScore = if total = 0 then 0.0 else
    p.trials.foldl (fun sum t => t.score.elim sum (sum + ·)) 0.0 / Float.ofNat total := by
  rw [← h.scoreSum_eq]
  rfl

theorem accuracy_report (h : p.Agrees) : (p.report total).accuracy = if total = 0 then 0.0 else
    Float.ofNat (p.trials.countP fun t => t.predicted == some t.expected) / Float.ofNat total := by
  rw [← h.correct_eq]
  rfl

end Evaluation.Progress

/-! ## Tries in a row -/

theorem take_zipIdx {α : Type} (xs : List α) (i : Nat) : xs.zipIdx.take i = (xs.take i).zipIdx := by
  apply List.ext_getElem?
  intro j
  rw [List.getElem?_zipIdx, List.getElem?_take, List.getElem?_take, List.getElem?_zipIdx]
  by_cases h : j < i
  · rw [if_pos h, if_pos h]
  · rw [if_neg h, if_neg h]
    rfl

namespace Detector

open Evaluation (Progress)

/-- The samples under a limit. -/
def chosen (samples : List Sample) (limit : Option Nat) : List Sample :=
  samples.take (limit.elim samples.length (min · samples.length))

theorem length_chosen (samples : List Sample) (limit : Option Nat) :
    (chosen samples limit).length = limit.elim samples.length (min · samples.length) := by
  cases limit <;> simp [chosen]

theorem chosen_some (samples : List Sample) (n : Nat) : chosen samples (some n) = samples.take n := by
  rw [chosen, Option.elim_some, ← List.take_eq_take_min]

theorem getElem?_of_chosen {samples : List Sample} {limit : Option Nat} {i : Nat} {s : Sample}
    (h : (chosen samples limit)[i]? = some s) : samples[i]? = some s := by
  rw [chosen, List.getElem?_take] at h
  split at h
  · exact h
  · cases h

/-- The first samples under a limit are those under a smaller one. -/
theorem take_chosen {samples : List Sample} {limit : Option Nat} {i : Nat} (h : i ≤ (chosen samples limit).length) :
    (chosen samples limit).take i = chosen samples (some i) := by
  have hle := h
  rw [length_chosen] at hle
  have hi : min i samples.length = i := by
    rw [chosen, List.length_take] at h
    omega
  rw [chosen, chosen, List.take_take, Nat.min_eq_left hle, Option.elim_some, hi]

/-- The trial of a sample at a place. -/
def trial (B : Backend σ) (d : Detector) (metric : Metric) (item : Sample × Nat) : Audit σ Trial := do
  return .ofResult metric item.2 item.1 (← d.detect B item.1.snippet)

section Tries

variable (B : Backend σ) (d : Detector) (samples : List Sample) (limit : Option Nat) (metric : Metric)

/-- **An evaluation is a row of tries**, each of them written down. -/
theorem evaluate_apply (run : Run σ) :
    (d.evaluate B samples limit metric run).1.trials =
        ((chosen samples limit).zipIdx.mapM (d.trial B metric) run).1 ∧
      (d.evaluate B samples limit metric run).2 = ((chosen samples limit).zipIdx.mapM (d.trial B metric) run).2 := by
  have hstep : ∀ (p : Progress) (item : Sample × Nat) (run : Run σ),
      (d.attempt B metric p item run).1.trials = p.trials ++ [(d.trial B metric item run).1] ∧
        (d.attempt B metric p item run).2 = (d.trial B metric item run).2 :=
    fun p item run => ⟨Progress.add_trials metric p item.1 item.2 _, rfl⟩
  exact Audit.foldlM_writes hstep (chosen samples limit).zipIdx .start run

/-- **What an evaluation carries along agrees with its trials** when the report is made. -/
theorem evaluate_agrees (run : Run σ) : ∃ p : Progress, p.Agrees ∧
    (d.evaluate B samples limit metric run).1 = p.report (limit.elim samples.length (min · samples.length)) := by
  have hstep : ∀ (p : Progress) (item : Sample × Nat) (run : Run σ), p.Agrees →
      (d.attempt B metric p item run).1.Agrees := by
    rintro p ⟨s, index⟩ run hp
    exact hp.add metric s index _
  exact ⟨_, Audit.foldlM_keeps hstep (chosen samples limit).zipIdx .start run Progress.start_agrees, rfl⟩

/-- An evaluation sends one prompt for each sample. -/
theorem evaluate_recorded (run : Run (σ × List String)) :
    (d.evaluate B.recording samples limit metric run).2.log =
      run.log ++ (chosen samples limit).map fun s => d.program.render s.snippet := by
  have hstep : ∀ (item : Sample × Nat) (run : Run (σ × List String)),
      (d.trial B.recording metric item run).2.log =
        run.log ++ [((fun s : Sample => d.program.render s.snippet) ∘ Prod.fst) item] :=
    fun item run => d.detect_recorded B item.1.snippet run
  have hlog := Audit.mapM_log hstep (chosen samples limit).zipIdx run
  rw [← List.map_map, List.zipIdx_map_fst] at hlog
  rw [(evaluate_apply B.recording d samples limit metric run).2]
  exact hlog

theorem length_trials (run : Run σ) :
    (d.evaluate B samples limit metric run).1.trials.length = limit.elim samples.length (min · samples.length) := by
  rw [(evaluate_apply B d samples limit metric run).1, ← length_chosen, ← List.length_zipIdx (l := chosen samples limit)]
  exact Audit.length_mapM _ _ run

variable {samples limit}

/-- **The trial at a place** is that of its sample, from the run that the tries before it leave behind. -/
theorem evaluate_at {i : Nat} {s : Sample} (h : (chosen samples limit)[i]? = some s) (run : Run σ) :
    (d.evaluate B samples limit metric run).1.trials[i]? =
      some (.ofResult metric i s (d.detect B s.snippet (d.evaluate B samples (some i) metric run).2).1) := by
  have hitem : (chosen samples limit).zipIdx[i]? = some (s, i) := by
    rw [List.getElem?_zipIdx, h]
    simp
  have hle : i ≤ (chosen samples limit).length := Nat.le_of_lt (List.getElem?_eq_some_iff.1 h).1
  obtain ⟨hresult, -⟩ := Audit.mapM_at (d.trial B metric) hitem run
  rw [take_zipIdx, take_chosen hle] at hresult
  rw [(evaluate_apply B d samples limit metric run).1, (evaluate_apply B d samples (some i) metric run).2]
  exact hresult

variable {B d metric} in
/-- **A trial is about the sample at its place**, and what the backend made of that sample's prompt. -/
theorem of_getElem?_trials {run : Run σ} {i : Nat} {t : Trial}
    (h : (d.evaluate B samples limit metric run).1.trials[i]? = some t) : ∃ s, samples[i]? = some s ∧
      t = .ofResult metric i s
        (outcome (B.complete (d.program.render s.snippet) (d.evaluate B samples (some i) metric run).2.backend).1) := by
  have hi : i < (chosen samples limit).length := by
    rw [length_chosen, ← length_trials B d samples limit metric run]
    exact (List.getElem?_eq_some_iff.1 h).1
  have hs := List.getElem?_eq_getElem hi
  obtain ⟨hresult, -⟩ := d.detect_run B (chosen samples limit)[i].snippet (d.evaluate B samples (some i) metric run).2
  have htrial := (evaluate_at B d metric hs run).symm.trans h
  rw [Option.some.injEq, hresult] at htrial
  exact ⟨_, getElem?_of_chosen hs, htrial.symm⟩

/-- **The tries under a smaller limit come first** in those under a greater one, or under none. -/
theorem evaluate_limited {n : Nat} (h : ∀ m ∈ limit, n ≤ m) (run : Run σ) :
    (d.evaluate B samples (some n) metric run).1.trials <+: (d.evaluate B samples limit metric run).1.trials := by
  have hchosen : chosen samples (some n) <+: chosen samples limit := by
    apply List.take_prefix_take_left
    cases limit with
    | none => exact Nat.min_le_right n samples.length
    | some m =>
      have hm : n ≤ m := h m rfl
      show min n samples.length ≤ min m samples.length
      omega
  obtain ⟨rest, hrest⟩ := hchosen
  rw [(evaluate_apply B d samples (some n) metric run).1, (evaluate_apply B d samples limit metric run).1, ← hrest,
    List.zipIdx_append, Audit.mapM_append_apply]
  exact List.prefix_append _ _

end Tries

/-! ## The report -/

/-- **What a report says.** -/
theorem evaluate_report (B : Backend σ) (d : Detector) (samples : List Sample) (limit : Option Nat) (metric : Metric)
    (run : Run σ) :
    let report := (d.evaluate B samples limit metric run).1
    -- the run in which the sample at a place is reached
    let reached := fun i => (d.evaluate B samples (some i) metric run).2
    report.total = limit.elim samples.length (min · samples.length) ∧
    report.trials.length = report.total ∧
    (∀ (i : Nat) (t : Trial), report.trials[i]? = some t → ∃ s, samples[i]? = some s ∧
      t.index = i ∧ t.expected = s.hasBug ∧
      match (B.complete (d.program.render s.snippet) (reached i).backend).1 with
      | .ok completion =>
        let v := Verdict.ofCompletion completion.text
        t.Shows (some v.hasBug) (some (metric s v).score) none
      | .error e => t.Shows none none (some e.message)) ∧
    (∀ t ∈ report.trials, t.Settled) ∧
    report.scored + report.errors = report.total ∧
    report.errors = report.trials.countP (·.error.isSome) ∧
    report.averageScore = (if report.total = 0 then 0.0 else
      report.trials.foldl (fun sum t => t.score.elim sum (sum + ·)) 0.0 / Float.ofNat report.total) ∧
    report.accuracy = (if report.total = 0 then 0.0 else
      Float.ofNat (report.trials.countP fun t => t.predicted == some t.expected) / Float.ofNat report.total) ∧
    (d.evaluate B.recording samples limit metric run.unlogged).2.log =
      (samples.take report.total).map (fun s => d.program.render s.snippet) ∧
    ∀ n, (∀ m ∈ limit, n ≤ m) → (d.evaluate B samples (some n) metric run).1.trials <+: report.trials := by
  intro report reached
  obtain ⟨p, hagrees, hreport⟩ : ∃ p : Progress, p.Agrees ∧ report = p.report _ :=
    evaluate_agrees B d samples limit metric run
  have hlength : report.trials.length = report.total := by
    rw [length_trials, hreport]
    rfl
  have hchosen : (chosen samples limit).length = report.total := by
    rw [length_chosen, hreport]
    rfl
  refine ⟨hchosen.symm.trans (length_chosen samples limit), hlength, ?_, ?_, ?_, ?_, ?_, ?_, ?_, ?_⟩
  · intro i t ht
    obtain ⟨s, hs, rfl⟩ := of_getElem?_trials ht
    refine ⟨s, hs, ?_⟩
    cases (B.complete (d.program.render s.snippet) (reached i).backend).1 with
    | ok completion => exact ⟨rfl, rfl, Trial.shows_self _⟩
    | error e => exact ⟨rfl, rfl, Trial.shows_self _⟩
  · rw [hreport]
    exact hagrees.settled
  · rw [hreport] at hlength ⊢
    exact Progress.scored_add_errors hlength
  · rw [hreport]
    exact Progress.errors_report
  · rw [hreport]
    exact Progress.averageScore_report hagrees
  · rw [hreport]
    exact Progress.accuracy_report hagrees
  · rw [evaluate_recorded, Run.log_unlogged, List.nil_append, ← hchosen]
    have hfirst : chosen samples limit <+: samples := List.take_prefix _ _
    exact congrArg (List.map _) (List.prefix_iff_eq_take.1 hfirst)
  · intro n hn
    exact evaluate_limited B d metric hn run

/-- A limit of one sample against none, where the detection of the second one fails. -/
theorem evaluate_report_failed :
    let run := Run.start (⟨[("gets", .fail "down")], fun _ => none, [], some "no", []⟩ : Script) .empty
    let samples : List Sample := [.clean "int x;", .clean "gets(a);"]
    (evaluate Script.backend (.base .legacy) samples (some 1) Grade.standard run).1.trials <+:
        (evaluate Script.backend (.base .legacy) samples none Grade.standard run).1.trials ∧
      ∃ t, (evaluate Script.backend (.base .legacy) samples none Grade.standard run).1.trials[1]? = some t ∧
        t.index = 1 ∧ t.expected = false := by
  intro run samples
  obtain ⟨htotal, hlength, htrials, -, -, -, -, -, -, hfirst⟩ := evaluate_report Script.backend (.base .legacy)
    samples none Grade.standard run
  have hlt : 1 < (evaluate Script.backend (.base .legacy) samples none Grade.standard run).1.trials.length :=
    Nat.lt_of_lt_of_eq Nat.one_lt_two (hlength.trans htotal).symm
  have ht := List.getElem?_eq_getElem hlt
  obtain ⟨s, hs, hindex, hexpected, -⟩ := htrials 1 _ ht
  obtain rfl : Sample.clean "gets(a);" = s := Option.some.inj hs
  exact ⟨hfirst 1 (fun _ h => by cases h), _, ht, hindex, hexpected⟩

end Detector
end SnippetAudit
