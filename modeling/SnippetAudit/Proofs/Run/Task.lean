import SnippetAudit.Proofs.Run.Accounts

/-!
# What the counters say

Whatever is called in a row, the counters are what the log says: so many detections, so many of them with details that
could not be read, so many failures, where a file of a batch that cannot be read is a failure without a detection.

- Every task accounts for what it does (`Task.accounts`), and a log changes nothing about it (`Task.perform_over`).
- Tasks in a row from counters at zero leave the counters that their log tells of (`performAll_counters`).
-/

namespace SnippetAudit

open Reflective (Call)

variable {σ τ : Type}

/-! ## Without a log -/

section Over

variable {f : τ → σ} {B' : Backend τ} {B : Backend σ}

theorem Batch.detectFile_over (hB : B'.Over f B) (d : Detector) (file : Path) :
    Audit.Over f (detectFile B' d file) (detectFile B d file) := by
  unfold detectFile
  refine Audit.Over.files.bind fun fs => ?_
  cases fs.read file with
  | error e => exact (Audit.Over.count _).bind fun _ => (Audit.Over.emit _).bind fun _ => .pure _
  | ok bytes =>
    refine (Detector.detect_over hB d _).bind fun outcome => ?_
    cases outcome with
    | error e => exact (Audit.Over.emit _).bind fun _ => .pure _
    | ok v => exact .pure _

theorem Batch.detectFilesWith_over {γ : Type} (hB : B'.Over f B) (d : Detector) (onItem : Nat → FileOutcome → γ → γ)
    (files : List Path) (t : γ) :
    Audit.Over f ((detectFilesWith B' d onItem files).run t) ((detectFilesWith B d onItem files).run t) := by
  simp only [detectFilesWith_eq_mapM]
  apply Audit.Over.mapM_run
  intro item t
  exact (detectFile_over hB d item.1).bind fun _ => .pure _

theorem Batch.detectSnippets_over (hB : B'.Over f B) (d : Detector) (snippets : List String) :
    Audit.Over f (detectSnippets B' d snippets) (detectSnippets B d snippets) := by
  apply Audit.Over.mapM
  rintro ⟨snippet, index⟩
  refine (Detector.detect_over hB d snippet).bind fun outcome => ?_
  cases outcome with
  | error e => exact (Audit.Over.emit _).bind fun _ => .pure _
  | ok v => exact .pure _

theorem Detector.evaluate_over (hB : B'.Over f B) (d : Detector) (samples : List Sample) (limit : Option Nat)
    (metric : Metric) :
    Audit.Over f (d.evaluate B' samples limit metric) (d.evaluate B samples limit metric) := by
  refine Audit.Over.bind (Audit.Over.foldlM ?_ _ _) fun _ => .pure _
  rintro p ⟨s, index⟩
  exact (Detector.detect_over hB d s.snippet).bind fun _ => .pure _

end Over

/-! ## Tasks -/

/-- What can be called, each with a backend of its own over a common state. -/
inductive Task (σ : Type) where
  | detect (B : Backend σ) (d : Detector) (snippet : String)
  | files {τ : Type} (B : Backend σ) (d : Detector) (onItem : Nat → FileOutcome → τ → τ) (start : τ)
      (paths : List Path)
  | snippets (B : Backend σ) (d : Detector) (texts : List String)
  | evaluate (B : Backend σ) (d : Detector) (samples : List Sample) (limit : Option Nat) (metric : Metric)
  | bootstrap (B : Backend σ) (c : Bootstrap) (student : Detector) (samples : List Sample) (metric : Metric)
  | reflective (B R : Backend σ) (c : Reflective) (student : Detector) (samples : List Sample) (metric : Metric)

namespace Task

/-- Performs a task for its effects. -/
def perform : Task σ → Audit σ Unit
  | .detect B d snippet => do let _ ← d.detect B snippet
  | .files B d onItem start paths => do let _ ← (Batch.detectFilesWith B d onItem paths).run start
  | .snippets B d texts => do let _ ← Batch.detectSnippets B d texts
  | .evaluate B d samples limit metric => do let _ ← d.evaluate B samples limit metric
  | .bootstrap B c student samples metric => do let _ ← c.compile B student samples metric
  | .reflective B R c student samples metric => do let _ ← c.compile B R student samples metric

/-- The task with logged backends. -/
def logged : Task σ → Task (σ × List Call)
  | .detect B d snippet => .detect (B.logged .detection) d snippet
  | .files B d onItem start paths => .files (B.logged .detection) d onItem start paths
  | .snippets B d texts => .snippets (B.logged .detection) d texts
  | .evaluate B d samples limit metric => .evaluate (B.logged .detection) d samples limit metric
  | .bootstrap B c student samples metric => .bootstrap (B.logged .detection) c student samples metric
  | .reflective B R c student samples metric =>
    .reflective (B.logged .detection) (R.logged .reflection) c student samples metric

/-- The number of files of a batch that cannot be read. -/
def unreadable (fs : Files) : Task σ → Nat
  | .files _ _ _ _ paths => paths.countP fun file => !fs.canRead file
  | _ => 0

/-- **Every task accounts for what it does.** -/
theorem accounts (fs : Files) (t : Task σ) : Audit.Accounts fs (t.unreadable fs) t.logged.perform := by
  cases t with
  | detect B d snippet => exact (Audit.Accounts.detection B d snippet).map fun _ => ()
  | files B d onItem start paths => exact (Batch.detectFilesWith_accounts B d onItem paths start).map fun _ => ()
  | snippets B d texts => exact (Batch.detectSnippets_accounts B d texts).map fun _ => ()
  | evaluate B d samples limit metric =>
    exact (Detector.evaluate_accounts B d samples limit metric).map fun _ => ()
  | bootstrap B c student samples metric =>
    exact (Bootstrap.compile_accounts B c student samples metric).map fun _ => ()
  | reflective B R c student samples metric =>
    exact (Reflective.compile_accounts B R c student samples metric).map fun _ => ()

/-- A log changes nothing about a task. -/
theorem perform_over (t : Task σ) : Audit.Over Prod.fst t.logged.perform t.perform := by
  have hlogged : ∀ B : Backend σ, (B.logged Call.detection).Over Prod.fst B := Backend.logged_over _
  cases t with
  | detect B d snippet => exact (Detector.detect_over (hlogged B) d snippet).bind fun _ => .pure _
  | files B d onItem start paths =>
    exact (Batch.detectFilesWith_over (hlogged B) d onItem paths start).bind fun _ => .pure _
  | snippets B d texts => exact (Batch.detectSnippets_over (hlogged B) d texts).bind fun _ => .pure _
  | evaluate B d samples limit metric =>
    exact (Detector.evaluate_over (hlogged B) d samples limit metric).bind fun _ => .pure _
  | bootstrap B c student samples metric =>
    exact (Bootstrap.compile_over (hlogged B) c student samples metric).bind fun _ => .pure _
  | reflective B R c student samples metric =>
    exact (Reflective.compile_over (hlogged B) (R.logged_over _) c student samples metric).bind fun _ => .pure _

end Task

/-! ## Tasks in a row -/

/-- Tasks in a row, each with the files that it finds. -/
def performAll : List (Files × Task σ) → Audit σ Unit
  | [] => return ()
  | (fs, t) :: steps => do
    Audit.setFiles fs
    t.perform
    performAll steps

/-- The number of files that could not be read, over all tasks. -/
def unreadableFiles (steps : List (Files × Task σ)) : Nat := (steps.map fun (fs, t) => t.unreadable fs).sum

/-- The tasks with logged backends. -/
def loggedSteps (steps : List (Files × Task σ)) : List (Files × Task (σ × List Call)) :=
  steps.map fun (fs, t) => (fs, t.logged)

theorem performAll_over (steps : List (Files × Task σ)) :
    Audit.Over Prod.fst (performAll (loggedSteps steps)) (performAll steps) := by
  induction steps with
  | nil => exact .pure ()
  | cons step steps ih => exact (Audit.Over.setFiles _).bind fun _ => step.2.perform_over.bind fun _ => ih

/-- **Tasks in a row count the detections that they log**, and the files that could not be read. -/
theorem performAll_accounts (steps : List (Files × Task σ)) : ∀ run : Run (σ × List Call), ∃ ds : List Detection,
    (performAll (loggedSteps steps) run).2.log.filterMap Call.asked? =
      run.log.filterMap Call.asked? ++ ds.map Detection.call ∧
    (performAll (loggedSteps steps) run).2.counters = run.counters + Counters.tally ds (unreadableFiles steps) := by
  induction steps with
  | nil =>
    intro run
    exact ⟨[], by simp [loggedSteps, performAll, Audit.pure_apply], rfl⟩
  | cons step steps ih =>
    intro run
    obtain ⟨fs, t⟩ := step
    obtain ⟨ds, -, hlog, hcounters⟩ := t.accounts fs { run with files := fs } rfl
    obtain ⟨ds', hlogs, hcounters'⟩ := ih (t.logged.perform { run with files := fs }).2
    refine ⟨ds ++ ds', ?_, ?_⟩
    · rw [List.map_append, ← List.append_assoc]
      exact hlogs.trans (congrArg (· ++ _) hlog)
    · have hsum : unreadableFiles ((fs, t) :: steps) = t.unreadable fs + unreadableFiles steps := List.sum_cons
      rw [hsum, Counters.tally_append, ← Counters.add_assoc]
      exact hcounters'.trans (congrArg (· + _) hcounters)

/-- **What the counters say** after any tasks. A detection is one call with the prompt of its program, and passes the
failure of the backend on as it is. -/
theorem performAll_counters (steps : List (Files × Task σ)) (run : Run σ) :
    let start : Run σ := { run with counters := .zero }
    let counters := (performAll steps start).2.counters
    (∃ ds : List Detection,
      (performAll (loggedSteps steps) start.unlogged).2.log.filterMap Call.asked? = ds.map Detection.call ∧
      counters.detections = ds.countP Detection.succeeded ∧
      counters.failures = ds.countP (fun d => !d.succeeded) + unreadableFiles steps ∧
      counters.degraded = ds.countP Detection.degraded) ∧
    counters.degraded ≤ counters.detections ∧
    ∀ (B : Backend σ) (d : Detector) (snippet : String) (run : Run σ),
      let prompt := d.program.render snippet
      let answer := (B.complete prompt run.backend).1
      (d.detect (B.logged Call.detection) snippet run.unlogged).2.log = [.detection prompt answer] ∧
      (d.detect B snippet run).1 = Detector.outcome answer ∧
      ∀ e, (d.detect B snippet run).1 = .error e ↔ answer = .error e := by
  intro start counters
  obtain ⟨ds, hlog, hlogged⟩ := performAll_accounts steps start.unlogged
  have hcounters : counters = Counters.tally ds (unreadableFiles steps) := by
    have hover := performAll_over steps start.unlogged
    rw [Run.map_fst_unlogged] at hover
    calc counters = (performAll (loggedSteps steps) start.unlogged).2.counters := by
          show (performAll steps start).2.counters = _
          rw [hover]
          rfl
      _ = Counters.zero + Counters.tally ds (unreadableFiles steps) := hlogged
      _ = Counters.tally ds (unreadableFiles steps) := Counters.zero_add _
  refine ⟨⟨ds, hlog, ?_, ?_, ?_⟩, ?_, ?_⟩
  · rw [hcounters]
    rfl
  · rw [hcounters]
    rfl
  · rw [hcounters]
    rfl
  · rw [hcounters]
    exact Counters.degraded_tally_le ds _
  · intro B d snippet run prompt answer
    obtain ⟨hresult, -⟩ := d.detect_run B snippet run
    obtain ⟨-, hbackend, -⟩ := d.detect_run (B.logged Call.detection) snippet run.unlogged
    refine ⟨?_, hresult, ?_⟩
    · rw [Run.log, hbackend]
      rfl
    · intro e
      rw [hresult]
      exact Detector.outcome_eq_error

end SnippetAudit
