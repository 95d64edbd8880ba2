import SnippetAudit.Detector

/-!
# Logged backends

A backend that keeps a log of its calls, and what a run with it has to do with the run without.

- A run whose backend state is a view of another one does the same (`Audit.Over`): this holds of every step
  (`Audit.Over.ask`, `Audit.Over.emit`, `Audit.Over.count`), of steps in a row (`Audit.Over.bind`,
  `Audit.Over.foldlM`, `Audit.Over.mapM`), and so of a detection (`Detector.detect_over`).
- A log does not change what a backend does (`Backend.logged_over`), and is only added to (`Audit.log_append`).
- A detection makes one call, with the prompt of the program (`Detector.detect_logged`).
-/

namespace SnippetAudit

variable {σ τ γ α β : Type}

abbrev Answer := Except Failure Completion

/-! ## Runs over another backend state -/

/-- The run with a view of its backend state. -/
def Run.map (f : τ → σ) (run : Run τ) : Run σ := ⟨f run.backend, run.files, run.counters, run.events⟩

/-- A backend that does on a state what another one does on the view of it. -/
def Backend.Over (f : τ → σ) (B' : Backend τ) (B : Backend σ) : Prop :=
  ∀ prompt s, B.complete prompt (f s) = ((B'.complete prompt s).1, f (B'.complete prompt s).2)

namespace Audit

theorem pure_apply (a : α) (run : Run σ) : (pure a : Audit σ α) run = (a, run) := rfl

theorem bind_apply (m : Audit σ α) (k : α → Audit σ β) (run : Run σ) : (m >>= k) run = k (m run).1 (m run).2 := rfl

theorem emit_apply (e : Event) (run : Run σ) :
    Audit.emit e run = ((), { run with events := run.events ++ [e] }) := rfl

theorem count_apply (g : Counters → Counters) (run : Run σ) :
    Audit.count g run = ((), { run with counters := g run.counters }) := rfl

theorem files_apply (run : Run σ) : Audit.files run = (run.files, run) := rfl

theorem ask_apply (B : Backend σ) (prompt : String) (run : Run σ) :
    B.ask prompt run =
      ((B.complete prompt run.backend).1, { run with backend := (B.complete prompt run.backend).2 }) := rfl

/-- A step that does on a run what another one does on the view of it. -/
def Over (f : τ → σ) (m' : Audit τ α) (m : Audit σ α) : Prop :=
  ∀ run, m (run.map f) = ((m' run).1, (m' run).2.map f)

namespace Over

variable {f : τ → σ}

theorem pure (a : α) : Over f (Pure.pure a : Audit τ α) (Pure.pure a) := by
  intro run
  rfl

theorem emit (e : Event) : Over f (Audit.emit e) (Audit.emit e) := by
  intro run
  rfl

theorem count (g : Counters → Counters) : Over f (Audit.count g) (Audit.count g) := by
  intro run
  rfl

theorem files : Over f Audit.files Audit.files := by
  intro run
  rfl

theorem setFiles (fs : Files) : Over f (Audit.setFiles fs) (Audit.setFiles fs) := by
  intro run
  rfl

theorem ask {B' : Backend τ} {B : Backend σ} (h : B'.Over f B) (prompt : String) :
    Over f (B'.ask prompt) (B.ask prompt) := by
  intro run
  have hcomplete := h prompt run.backend
  simp only [ask_apply, Run.map, hcomplete]

/-- **Steps in a row.** -/
theorem bind {m' : Audit τ α} {m : Audit σ α} {k' : α → Audit τ β} {k : α → Audit σ β} (h : Over f m' m)
    (hk : ∀ a, Over f (k' a) (k a)) : Over f (m' >>= k') (m >>= k) := by
  intro run
  rw [bind_apply, bind_apply, h run]
  exact hk _ _

theorem foldlM {step' : β → α → Audit τ β} {step : β → α → Audit σ β} (h : ∀ b a, Over f (step' b a) (step b a)) :
    ∀ (xs : List α) (b : β), Over f (xs.foldlM step' b) (xs.foldlM step b)
  | [], b => by
    simp only [List.foldlM_nil]
    exact pure b
  | x :: xs, b => by
    simp only [List.foldlM_cons]
    exact (h b x).bind fun b' => foldlM h xs b'

theorem mapM {step' : α → Audit τ β} {step : α → Audit σ β} (h : ∀ a, Over f (step' a) (step a)) (xs : List α) :
    Over f (xs.mapM step') (xs.mapM step) := by
  induction xs with
  | nil =>
    simp only [List.mapM_nil]
    exact pure []
  | cons x xs ih =>
    simp only [List.mapM_cons]
    exact (h x).bind fun b => ih.bind fun bs => pure (b :: bs)

/-- A walk that passes a state of its own along. -/
theorem mapM_run {step' : α → StateT γ (Audit τ) β} {step : α → StateT γ (Audit σ) β}
    (h : ∀ a t, Over f ((step' a).run t) ((step a).run t)) (xs : List α) :
    ∀ t, Over f ((xs.mapM step').run t) ((xs.mapM step).run t) := by
  induction xs with
  | nil =>
    intro t
    simp only [List.mapM_nil]
    exact pure ([], t)
  | cons x xs ih =>
    intro t
    simp only [List.mapM_cons, StateT.run_bind]
    exact (h x t).bind fun (b, t) => (ih t).bind fun (bs, t) => pure (b :: bs, t)

end Over
end Audit

/-! ## Logs -/

namespace Backend

/-- The backend that also logs its calls, oldest first, in a form of their own. -/
def logged (call : String → Answer → γ) (B : Backend σ) : Backend (σ × List γ) where
  name := B.name
  complete prompt := fun (state, log) =>
    let (answer, state) := B.complete prompt state
    (answer, (state, log ++ [call prompt answer]))

/-- A log changes nothing. -/
theorem logged_over (call : String → Answer → γ) (B : Backend σ) : (B.logged call).Over Prod.fst B := by
  intro prompt s
  rfl

/-- What was logged before changes nothing either. -/
theorem logged_over_append (call : String → Answer → γ) (B : Backend σ) (before : List γ) :
    (B.logged call).Over (Prod.map id (before ++ ·)) (B.logged call) := by
  intro prompt s
  simp only [logged, Prod.map, id, List.append_assoc]

/-- A backend that keeps its prompts logs them. -/
theorem recording_eq_logged (B : Backend σ) : B.recording = B.logged fun prompt _ => prompt := rfl

end Backend

/-- The calls of a run so far. -/
def Run.log (run : Run (σ × List γ)) : List γ := run.backend.2

/-- A run with an empty log. -/
def Run.unlogged (run : Run σ) : Run (σ × List γ) := run.map fun s => (s, [])

@[simp] theorem Run.log_unlogged (run : Run σ) : (run.unlogged : Run (σ × List γ)).log = [] := rfl

@[simp] theorem Run.map_fst_unlogged (run : Run σ) : (run.unlogged : Run (σ × List γ)).map Prod.fst = run := rfl

namespace Audit

/-- **One call is logged.** -/
theorem log_ask (call : String → Answer → γ) (B : Backend σ) (prompt : String) (run : Run (σ × List γ)) :
    ((B.logged call).ask prompt run).2.log = run.log ++ [call prompt ((B.logged call).ask prompt run).1] := rfl

/-- **A log is only added to.** -/
theorem log_append {m : Audit (σ × List γ) α} (h : ∀ before : List γ, Over (Prod.map id (before ++ ·)) m m)
    (run : Run (σ × List γ)) : ∃ more, (m run).2.log = run.log ++ more := by
  let fresh : Run (σ × List γ) := run.map fun s => (s.1, [])
  have hfresh : fresh.map (Prod.map id (run.log ++ ·)) = run := by
    simp only [fresh, Run.map, Prod.map, id, List.append_nil, Run.log]
  have hrun := h run.log fresh
  rw [hfresh] at hrun
  exact ⟨(m fresh).2.log, by rw [hrun]; rfl⟩

/-- Steps that log one call each. -/
theorem mapM_log {step : α → Audit (σ × List γ) β} {f : α → γ} (h : ∀ a run, (step a run).2.log = run.log ++ [f a])
    (xs : List α) : ∀ run, (xs.mapM step run).2.log = run.log ++ xs.map f := by
  induction xs with
  | nil =>
    intro run
    simp only [List.mapM_nil, pure_apply, List.map_nil, List.append_nil]
  | cons x xs ih =>
    intro run
    simp only [List.mapM_cons, bind_apply, pure_apply, List.map_cons]
    rw [ih, h, List.append_assoc, List.singleton_append]

end Audit

/-! ## Detections -/

namespace Detector

/-- What a detector makes of an answer. -/
def outcome (answer : Answer) : Except Failure Verdict := answer.map fun c => Verdict.ofCompletion c.text

theorem report_over (f : τ → σ) (v : Verdict) : Audit.Over f (report v) (report v) := by
  unfold report
  refine (Audit.Over.count _).bind fun _ => ?_
  cases v.findings.raw? with
  | none =>
    cases v.isConsistent with
    | false => exact (Audit.Over.emit _).bind fun _ => Audit.Over.emit _
    | true => exact Audit.Over.emit _
  | some raw =>
    refine (Audit.Over.count _).bind fun _ => ?_
    refine (Audit.Over.emit _).bind fun _ => ?_
    cases v.isConsistent with
    | false => exact (Audit.Over.emit _).bind fun _ => Audit.Over.emit _
    | true => exact Audit.Over.emit _

/-- **A detection is the same over another backend state.** -/
theorem detect_over {f : τ → σ} {B' : Backend τ} {B : Backend σ} (h : B'.Over f B) (d : Detector) (snippet : String) :
    Audit.Over f (d.detect B' snippet) (d.detect B snippet) := by
  unfold detect
  refine (Audit.Over.emit _).bind fun _ => ?_
  refine (Audit.Over.ask h _).bind fun answer => ?_
  cases answer with
  | error e => exact (Audit.Over.count _).bind fun _ => Audit.Over.pure _
  | ok completion => exact (report_over f _).bind fun _ => Audit.Over.pure _

/-- A report leaves the backend alone. -/
theorem report_backend (v : Verdict) (run : Run σ) : (report v run).2.backend = run.backend := by
  unfold report
  cases v.findings.raw? <;> cases v.isConsistent <;> rfl

/-- **A detection is one call**, with the prompt of the program. -/
theorem detect_logged (call : String → Answer → γ) (B : Backend σ) (d : Detector) (snippet : String)
    (run : Run (σ × List γ)) : ∃ answer,
      (d.detect (B.logged call) snippet run).1 = outcome answer ∧
      (d.detect (B.logged call) snippet run).2.log = run.log ++ [call (d.program.render snippet) answer] := by
  refine ⟨(B.complete (d.program.render snippet) run.backend.1).1, ?_⟩
  unfold detect
  simp only [Audit.bind_apply, Audit.emit_apply, Audit.ask_apply, Backend.logged]
  cases hanswer : (B.complete (d.program.render snippet) run.backend.1).1 with
  | error e => exact ⟨rfl, rfl⟩
  | ok completion =>
    simp only [Audit.bind_apply, Audit.pure_apply, Run.log, report_backend]
    exact ⟨rfl, trivial⟩

/-- The prompt of a detection is kept. -/
theorem detect_recorded (B : Backend σ) (d : Detector) (snippet : String) (run : Run (σ × List String)) :
    (d.detect B.recording snippet run).2.log = run.log ++ [d.program.render snippet] := by
  obtain ⟨-, -, hlog⟩ := d.detect_logged (fun prompt _ => prompt) B snippet run
  exact hlog

end Detector
end SnippetAudit
