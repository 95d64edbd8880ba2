import SnippetAudit.Batch.Basic
import SnippetAudit.Evaluation
import SnippetAudit.Proofs.Optimizer.Bootstrap
import SnippetAudit.Proofs.Optimizer.Reflective
import Mathlib.Algebra.GroupWithZero.Nat

/-!
# Counted as logged

- One detection is one call, and changes the counters by its outcome (`Detector.detect_run`).
- A step accounts for what it does (`Audit.Accounts`) when it counts exactly the detections that it logs, and a known
  number of files that could not be read. A detection does, steps in a row do (`Audit.Accounts.bind`), and so do walks
  over lists.
- So every batch, evaluation and optimization accounts for what it does.
-/

namespace SnippetAudit

open Reflective (Call)

variable {σ τ α β : Type}

/-! ## Detections and their counters -/

/-- A detection: the program and the snippet of its prompt, and the answer to it. -/
structure Detection where
  program : Program
  snippet : String
  answer : Answer

namespace Detection

/-- What was sent, and what came back. -/
def call (d : Detection) : String × Answer := (d.program.render d.snippet, d.answer)

/-- What the detection returned. -/
def outcome (d : Detection) : Except Failure Verdict := Detector.outcome d.answer

/-- Whether it returned a verdict. -/
def succeeded (d : Detection) : Bool := d.outcome.isOk

/-- Whether it returned a verdict whose details could not be read. -/
def degraded (d : Detection) : Bool := d.outcome.toOption.any Verdict.isDegraded

theorem succeeded_of_degraded {d : Detection} (h : d.degraded = true) : d.succeeded = true := by
  unfold degraded at h
  unfold succeeded
  cases houtcome : d.outcome with
  | error e =>
    rw [houtcome] at h
    cases h
  | ok v => rfl

end Detection

/-- A call of a detection, as it is logged. -/
def Reflective.Call.asked? : Call → Option (String × Answer)
  | .detection prompt answer => some (prompt, answer)
  | .reflection _ _ => none

namespace Counters

instance : Add Counters :=
  ⟨fun a b => ⟨a.detections + b.detections, a.degraded + b.degraded, a.failures + b.failures⟩⟩

theorem add_def (a b : Counters) :
    a + b = ⟨a.detections + b.detections, a.degraded + b.degraded, a.failures + b.failures⟩ := rfl

protected theorem add_assoc (a b c : Counters) : a + b + c = a + (b + c) := by
  simp only [add_def, Nat.add_assoc]

protected theorem zero_add (a : Counters) : zero + a = a := by
  simp only [add_def, zero, Nat.zero_add]

/-- The counters of some detections, and of some files that could not be read. -/
def tally (ds : List Detection) (unreadable : Nat) : Counters where
  detections := ds.countP Detection.succeeded
  degraded := ds.countP Detection.degraded
  failures := ds.countP (fun d => !d.succeeded) + unreadable

theorem tally_append (ds ds' : List Detection) (n n' : Nat) :
    tally (ds ++ ds') (n + n') = tally ds n + tally ds' n' := by
  simp only [tally, add_def, List.countP_append, mk.injEq, true_and]
  omega

/-- Every unreadable reply is one that came. -/
theorem degraded_tally_le (ds : List Detection) (n : Nat) : (tally ds n).degraded ≤ (tally ds n).detections :=
  List.countP_mono_left fun _ _ h => Detection.succeeded_of_degraded h

end Counters

/-! ## One detection -/

namespace Detector

/-- A failure is passed on as it is, and there is no other. -/
theorem outcome_eq_error {answer : Answer} {e : Failure} : outcome answer = .error e ↔ answer = .error e := by
  cases answer with
  | error e' => simp [outcome, Except.map]
  | ok completion => simp [outcome, Except.map]

theorem report_files (v : Verdict) (run : Run σ) : (report v run).2.files = run.files := by
  unfold report
  cases v.findings.raw? <;> cases v.isConsistent <;> rfl

theorem report_counters (v : Verdict) (run : Run σ) :
    (report v run).2.counters = run.counters + ⟨1, if v.isDegraded then 1 else 0, 0⟩ := by
  unfold report Verdict.isDegraded Findings.isUnread
  cases v.findings.raw? <;> cases v.isConsistent <;> rfl

/-- **What one detection does**: it sends one prompt, passes the answer on, and counts what came of it. -/
theorem detect_run (B : Backend σ) (d : Detector) (snippet : String) (run : Run σ) :
    let answered := B.complete (d.program.render snippet) run.backend
    (d.detect B snippet run).1 = outcome answered.1 ∧
      (d.detect B snippet run).2.backend = answered.2 ∧
      (d.detect B snippet run).2.files = run.files ∧
      (d.detect B snippet run).2.counters =
        run.counters + Counters.tally [⟨d.program, snippet, answered.1⟩] 0 := by
  unfold detect
  simp only [Audit.bind_apply, Audit.emit_apply, Audit.ask_apply]
  cases hanswer : (B.complete (d.program.render snippet) run.backend).1 with
  | error e => exact ⟨rfl, rfl, rfl, rfl⟩
  | ok completion =>
    simp only [Audit.bind_apply, Audit.pure_apply, report_backend, report_files, report_counters]
    refine ⟨rfl, trivial, trivial, ?_⟩
    cases hdegraded : (Verdict.ofCompletion completion.text).isDegraded <;>
      simp [Counters.tally, Detection.degraded, Detection.succeeded, Detection.outcome, outcome, hdegraded,
        Except.map, Except.isOk, Except.toBool, Except.toOption]

end Detector

/-! ## Steps that account for what they do -/

namespace Audit

/-- A step that leaves the files `fs` alone, logs some detections, and counts them, with `unreadable` files more. -/
def Accounts (fs : Files) (unreadable : Nat) (m : Audit (σ × List Call) α) : Prop :=
  ∀ run, run.files = fs → ∃ ds : List Detection,
    (m run).2.files = fs ∧
    (m run).2.log.filterMap Call.asked? = run.log.filterMap Call.asked? ++ ds.map Detection.call ∧
    (m run).2.counters = run.counters + Counters.tally ds unreadable

namespace Accounts

variable {fs : Files} {a b n : Nat}

theorem pure (x : α) : Accounts fs 0 (Pure.pure x : Audit (σ × List Call) α) := by
  intro run hfiles
  exact ⟨[], hfiles, by simp [pure_apply], rfl⟩

theorem emit (e : Event) : Accounts fs 0 (Audit.emit e : Audit (σ × List Call) Unit) := by
  intro run hfiles
  exact ⟨[], hfiles, by simp [emit_apply, Run.log], rfl⟩

/-- A file that cannot be read is counted without a detection. -/
theorem unreadable : Accounts fs 1 (Audit.count .failed : Audit (σ × List Call) Unit) := by
  intro run hfiles
  exact ⟨[], hfiles, by simp [count_apply, Run.log], rfl⟩

/-- A request for instructions is no detection. -/
theorem reflection (R : Backend σ) (prompt : String) : Accounts fs 0 ((R.logged .reflection).ask prompt) := by
  intro run hfiles
  refine ⟨[], hfiles, ?_, rfl⟩
  rw [log_ask, List.filterMap_append]
  rfl

/-- **A detection accounts for itself.** -/
theorem detection (B : Backend σ) (d : Detector) (snippet : String) :
    Accounts fs 0 (d.detect (B.logged .detection) snippet) := by
  intro run hfiles
  obtain ⟨-, hbackend, hkept, hcounters⟩ := d.detect_run (B.logged .detection) snippet run
  refine ⟨[⟨d.program, snippet, _⟩], hkept.trans hfiles, ?_, hcounters⟩
  rw [Run.log, hbackend, Backend.logged, Run.log]
  simp only [List.filterMap_append]
  rfl

/-- **Steps in a row.** -/
theorem bind {m : Audit (σ × List Call) α} {k : α → Audit (σ × List Call) β} (hm : Accounts fs a m)
    (hk : ∀ x, Accounts fs b (k x)) : Accounts fs (a + b) (m >>= k) := by
  intro run hfiles
  obtain ⟨ds, hfiles₁, hlog₁, hcounters₁⟩ := hm run hfiles
  obtain ⟨ds', hfiles₂, hlog₂, hcounters₂⟩ := hk (m run).1 (m run).2 hfiles₁
  rw [bind_apply]
  refine ⟨ds ++ ds', hfiles₂, ?_, ?_⟩
  · rw [hlog₂, hlog₁, List.append_assoc, List.map_append]
  · rw [hcounters₂, hcounters₁, Counters.add_assoc, Counters.tally_append]

/-- A step with no unreadable file, before others. -/
theorem andThen {m : Audit (σ × List Call) α} {k : α → Audit (σ × List Call) β} (hm : Accounts fs 0 m)
    (hk : ∀ x, Accounts fs n (k x)) : Accounts fs n (m >>= k) := by
  have h := hm.bind hk
  rwa [Nat.zero_add] at h

/-- A step whose result is put into another form. -/
theorem map {m : Audit (σ × List Call) α} (hm : Accounts fs n m) (f : α → β) :
    Accounts fs n (m >>= fun x => Pure.pure (f x)) := by
  have h := hm.bind fun x => pure (f x)
  rwa [Nat.add_zero] at h

theorem files {k : Files → Audit (σ × List Call) β} (h : Accounts fs n (k fs)) :
    Accounts fs n (Audit.files >>= k) := by
  intro run hfiles
  rw [bind_apply, files_apply, hfiles]
  exact h run hfiles

theorem foldlM {step : β → α → Audit (σ × List Call) β} (h : ∀ y x, Accounts fs 0 (step y x)) (xs : List α) :
    ∀ y, Accounts fs 0 (xs.foldlM step y) := by
  induction xs with
  | nil =>
    intro y
    rw [List.foldlM_nil]
    exact pure y
  | cons x xs ih =>
    intro y
    rw [List.foldlM_cons]
    exact (h y x).andThen ih

theorem mapM {step : α → Audit (σ × List Call) β} (h : ∀ x, Accounts fs 0 (step x)) (xs : List α) :
    Accounts fs 0 (xs.mapM step) := by
  induction xs with
  | nil =>
    rw [List.mapM_nil]
    exact pure []
  | cons x xs ih =>
    rw [List.mapM_cons]
    exact (h x).andThen fun y => ih.andThen fun ys => pure _

/-- A walk that passes a state of its own along; every item has its own number of unreadable files. -/
theorem mapM_run {cost : α → Nat} {step : α → StateT τ (Audit (σ × List Call)) β}
    (h : ∀ x t, Accounts fs (cost x) ((step x).run t)) (xs : List α) :
    ∀ t, Accounts fs (xs.map cost).sum ((xs.mapM step).run t) := by
  induction xs with
  | nil =>
    intro t
    rw [List.mapM_nil]
    exact pure ([], t)
  | cons x xs ih =>
    intro t
    rw [List.mapM_cons, StateT.run_bind, List.map_cons, List.sum_cons]
    apply (h x t).bind
    rintro ⟨y, t'⟩
    rw [StateT.run_bind]
    exact (ih t').map fun p => (y :: p.1, p.2)

end Accounts
end Audit

/-! ## Batches, evaluations and optimizations -/

section Parts

variable {fs : Files}

/-- Whether a file can be read. -/
def Files.canRead (fs : Files) (file : Path) : Bool := (fs.read file).isOk

theorem Batch.detectFile_accounts (B : Backend σ) (d : Detector) (file : Path) :
    Audit.Accounts fs (if fs.canRead file then 0 else 1) (detectFile (B.logged .detection) d file) := by
  unfold detectFile Files.canRead
  apply Audit.Accounts.files
  cases fs.read file with
  | error e => exact Audit.Accounts.unreadable.bind fun _ => (Audit.Accounts.emit _).andThen fun _ => .pure _
  | ok bytes =>
    refine (Audit.Accounts.detection B d _).andThen fun outcome => ?_
    cases outcome with
    | error e => exact (Audit.Accounts.emit _).andThen fun _ => .pure _
    | ok v => exact .pure _

theorem Files.sum_unreadable (fs : Files) (files : List Path) :
    (files.map fun file => if fs.canRead file then 0 else 1).sum = files.countP fun file => !fs.canRead file := by
  induction files with
  | nil => rfl
  | cons file files ih =>
    rw [List.map_cons, List.sum_cons, List.countP_cons, ih, Nat.add_comm]
    cases fs.canRead file <;> rfl

/-- The step of a batch of files: a detection, and then the news of it. -/
def Batch.visit (B : Backend σ) (d : Detector) (onItem : Nat → FileOutcome → τ → τ) (item : Path × Nat) :
    StateT τ (Audit σ) FileOutcome := fun t => do
  let outcome ← detectFile B d item.1
  return (⟨item.1, outcome⟩, onItem item.2 ⟨item.1, outcome⟩ t)

theorem Batch.detectFilesWith_eq_mapM (B : Backend σ) (d : Detector) (onItem : Nat → FileOutcome → τ → τ)
    (files : List Path) : detectFilesWith B d onItem files = files.zipIdx.mapM (visit B d onItem) := rfl

theorem Batch.detectFilesWith_accounts (B : Backend σ) (d : Detector) (onItem : Nat → FileOutcome → τ → τ)
    (files : List Path) (t : τ) :
    Audit.Accounts fs (files.countP fun file => !fs.canRead file)
      ((detectFilesWith (B.logged .detection) d onItem files).run t) := by
  have hcost : files.zipIdx.map (fun item => if fs.canRead item.1 then 0 else 1) =
      files.map fun file => if fs.canRead file then 0 else 1 := by
    conv_rhs => rw [← List.zipIdx_map_fst 0 files]
    rw [List.map_map]
    rfl
  rw [← Files.sum_unreadable, ← hcost, detectFilesWith_eq_mapM]
  apply Audit.Accounts.mapM_run
  intro item t
  exact (detectFile_accounts B d item.1).map fun outcome =>
    (FileOutcome.mk item.1 outcome, onItem item.2 ⟨item.1, outcome⟩ t)

theorem Batch.detectSnippets_accounts (B : Backend σ) (d : Detector) (snippets : List String) :
    Audit.Accounts fs 0 (detectSnippets (B.logged .detection) d snippets) := by
  apply Audit.Accounts.mapM
  rintro ⟨snippet, index⟩
  refine (Audit.Accounts.detection B d snippet).andThen fun outcome => ?_
  cases outcome with
  | error e => exact (Audit.Accounts.emit _).andThen fun _ => .pure _
  | ok v => exact .pure _

theorem Detector.evaluate_accounts (B : Backend σ) (d : Detector) (samples : List Sample) (limit : Option Nat)
    (metric : Metric) : Audit.Accounts fs 0 (d.evaluate (B.logged .detection) samples limit metric) := by
  refine Audit.Accounts.andThen (Audit.Accounts.foldlM ?_ _ _) fun _ => .pure _
  rintro p ⟨s, index⟩
  exact (Audit.Accounts.detection B d s.snippet).map fun outcome => p.add metric s index outcome

theorem Bootstrap.compile_accounts (B : Backend σ) (c : Bootstrap) (student : Detector) (samples : List Sample)
    (metric : Metric) : Audit.Accounts fs 0 (c.compile (B.logged .detection) student samples metric) := by
  unfold compile
  by_cases h : samples.isEmpty = true
  · rw [if_pos h]
    exact .pure _
  rw [if_neg h, runRounds_eq_foldlM]
  refine (Audit.Accounts.foldlM ?_ _ _).andThen fun picks => .pure _
  intro picks turn
  unfold take visit
  by_cases hskip : (c.isFull picks || isPicked picks turn.position) = true
  · rw [if_pos hskip]
    exact .pure picks
  rw [if_neg hskip]
  refine (Audit.Accounts.detection B student turn.sample.snippet).andThen fun outcome => ?_
  cases outcome with
  | error e => exact .pure picks
  | ok v =>
    by_cases hscore : c.threshold ≤ (metric turn.sample v).score
    · simp only [if_pos hscore]
      exact (Audit.Accounts.emit _).andThen fun _ => .pure _
    · simp only [if_neg hscore]
      exact .pure picks

namespace Reflective

theorem score_accounts (B : Backend σ) (d : Detector) (samples : List Sample) (metric : Metric) :
    Audit.Accounts fs 0 (score (B.logged .detection) d samples metric) := by
  rw [score_eq_foldlM]
  apply Audit.Accounts.foldlM
  intro tally s
  exact (Audit.Accounts.detection B d s.snippet).andThen fun _ => .pure _

theorem runRound_accounts (B R : Backend σ) (c : Reflective) (samples : List Sample) (metric : Metric) (round : Nat)
    (best : Best) :
    Audit.Accounts fs 0 (c.runRound (B.logged .detection) (R.logged .reflection) samples metric round best) := by
  unfold runRound
  refine (Audit.Accounts.reflection R _).andThen fun answer => ?_
  cases answer with
  | error e => exact .pure best
  | ok completion =>
    cases hproposal : proposal? completion.text with
    | none =>
      simp only [hproposal]
      exact .pure best
    | some instructions =>
      simp only [hproposal]
      exact (score_accounts B _ samples metric).andThen fun _ => (Audit.Accounts.emit _).andThen fun _ => .pure _

theorem runRounds_accounts (B R : Backend σ) (c : Reflective) (samples : List Sample) (metric : Metric) (left : Nat) :
    ∀ (round : Nat) (best : Best), Audit.Accounts fs 0
      (c.runRounds (B.logged .detection) (R.logged .reflection) samples metric left round best) := by
  induction left with
  | zero =>
    intro round best
    exact .pure best
  | succ left ih =>
    intro round best
    unfold runRounds
    by_cases h : best.losses.isEmpty = true
    · rw [if_pos h]
      exact .pure best
    · rw [if_neg h]
      exact (runRound_accounts B R c samples metric round best).andThen fun best => ih (round + 1) best

theorem compile_accounts (B R : Backend σ) (c : Reflective) (student : Detector) (samples : List Sample)
    (metric : Metric) :
    Audit.Accounts fs 0 (c.compile (B.logged .detection) (R.logged .reflection) student samples metric) := by
  unfold compile
  by_cases h : samples.isEmpty = true
  · rw [if_pos h]
    exact .pure _
  · rw [if_neg h]
    exact (score_accounts B student samples metric).andThen fun tally =>
      (runRounds_accounts B R c samples metric c.rounds 0 _).andThen fun best => .pure _

end Reflective
end Parts

end SnippetAudit
