import SnippetAudit.Backend.Script
import SnippetAudit.Command.Train
import SnippetAudit.Proofs.Artifact.Atomic
import SnippetAudit.Proofs.Artifact.Fallback
import SnippetAudit.Proofs.Command.Console
import SnippetAudit.Proofs.Evaluation
import SnippetAudit.Proofs.Optimizer.Demos
import SnippetAudit.Proofs.Run.Task

/-!
# Training saves what it scored

- Training ends where its dataset cannot be read, or leaves nothing to train on (`train_unreadable`, `train_empty`).
  Else it scores the base program, optimizes it, scores what is kept, and saves that (`train_tuned`).
- Its prompts are those of the base program, those of optimizing, and those of the program that is kept
  (`tune_recorded`).
- The program that is kept has the taxonomy that was asked for and no more demos than allowed (`Tuning.recorded`).
- So what is picked up from the output later is the program that was scored (`train_saves`).
-/

namespace SnippetAudit

variable {σ τ α : Type}

/-! ## Files that stay -/

/-- What accounts for its detections leaves the files alone. -/
theorem Audit.files_of_accounts {m' : Audit (σ × List Reflective.Call) α} {m : Audit σ α}
    (hover : Audit.Over Prod.fst m' m) {n : Nat} (h : ∀ fs, Audit.Accounts fs n m') (run : Run σ) :
    (m run).2.files = run.files := by
  have hlogged := hover run.unlogged
  rw [Run.map_fst_unlogged] at hlogged
  obtain ⟨-, hfiles, -⟩ := h run.files run.unlogged rfl
  rw [hlogged]
  exact hfiles

theorem Detector.evaluate_files (B : Backend σ) (d : Detector) (samples : List Sample) (limit : Option Nat)
    (metric : Metric) (run : Run σ) : (d.evaluate B samples limit metric run).2.files = run.files :=
  Audit.files_of_accounts (Detector.evaluate_over (B.logged_over _) d samples limit metric)
    (fun _ => Detector.evaluate_accounts B d samples limit metric) run

theorem Artifact.save_backend (p : Path) (a : Artifact) (run : Run σ) : (save p a run).2.backend = run.backend := by
  unfold save
  rw [Audit.bind_apply, Audit.files_apply]
  cases store run.files p a with
  | mk fs outcome => cases outcome <;> rfl

namespace Command

/-! ## The steps of training -/

/-- What training finds between the reading of a dataset and the saving of a program: how the base program scored, what
optimizing it came to, and how the program that was kept scored. -/
structure Tuning where
  before : Evaluation
  compiled : Except Failure Program
  after : Evaluation

/-- The program that is kept: the optimized one, or the base program where optimizing failed. -/
def kept (taxonomy : Taxonomy) : Except Failure Program → Program
  | .ok program => program
  | .error _ => .base taxonomy

/-- What is saved. -/
def Tuning.artifact (now : Instant) (taxonomy : Taxonomy) (s : Strategy) (r : Tuning) : Artifact :=
  { (Artifact.ofProgram now (kept taxonomy r.compiled)).withScores r.before.averageScore r.after.averageScore with
    optimizer := if r.compiled.isOk then some s.name else none }

/-- The two evaluations, and the optimization between them. -/
def tune (B : Backend σ) (taxonomy : Taxonomy) (o : TrainOptions) (split : Dataset.Split) : Audit σ Tuning := do
  let before ← (Detector.base taxonomy).evaluate B split.validation (some o.evaluated) Grade.standard
  let compiled ← Strategy.compile B o (.base taxonomy) (split.train.take o.trainLimit)
  let after ← Detector.evaluate B ⟨kept taxonomy compiled, true⟩ split.validation (some o.evaluated) Grade.standard
  return ⟨before, compiled, after⟩

section Steps

variable (B : Backend σ) (now : Instant) (taxonomy : Taxonomy) {directory : Path} (o : TrainOptions) (output : Path)
  (t : Transcript) {run : Run σ}

theorem readDataset_apply (directory : Path) (t : Transcript) (run : Run σ) : readDataset directory t run =
    (((Dataset.read run.files directory).mapError
      (Trouble.ofFailure ("cannot load dataset from " ++ directory.text)), t), run) := by
  unfold readDataset
  rw [Attempt.bind_ok (Attempt.files_apply t run), Attempt.expect_apply]

/-- What is left to do behind saving. -/
theorem saved_apply (subject : String) (artifact : Artifact) (r : Except Failure Path) (t : Transcript) (run : Run σ) :
    ∃ t', (do
      let path ← Attempt.expect subject r
      Attempt.say ("Optimized program saved to " ++ path.text)
      return (⟨path, artifact⟩ : Trained) : Attempt σ Trained) t run =
        (((r.mapError (Trouble.ofFailure subject)).map (⟨·, artifact⟩), t'), run) := by
  cases r <;> exact ⟨_, rfl⟩

/-- A dataset that cannot be read is the end. -/
theorem train_unreadable {e : Failure} (h : Dataset.read run.files directory = .error e) :
    train B now taxonomy directory o output t run =
      ((.error (.ofFailure ("cannot load dataset from " ++ directory.text) e), t), run) := by
  have hread := readDataset_apply directory t run
  rw [h] at hread
  exact Attempt.bind_error hread

section Split

variable {dataset : Dataset} (h : Dataset.read run.files directory = .ok dataset)
include h

/-- There being nothing to train on is the end. -/
theorem train_empty (hempty : (dataset.split run.files (some o.maxSamples)).train = []) : ∃ t',
    train B now taxonomy directory o output t run =
      ((.error (.plain "training set is empty; nothing to optimize"), t'), run) := by
  have hread := readDataset_apply directory t run
  rw [h] at hread
  unfold train
  rw [Attempt.bind_ok hread, Attempt.bind_ok (Attempt.files_apply t run)]
  simp only
  rw [Attempt.bind_ok (Attempt.say_apply _ _ _), if_pos (by rw [hempty]; rfl)]
  exact ⟨_, Attempt.bind_error (Attempt.throw_apply _ _ _)⟩

/-- **Otherwise a program is found, scored and saved.** -/
theorem train_tuned (hne : (dataset.split run.files (some o.maxSamples)).train ≠ []) :
    let tuned := tune B taxonomy o (dataset.split run.files (some o.maxSamples)) run
    let artifact := tuned.1.artifact now taxonomy o.strategy
    let saved := Artifact.save output artifact tuned.2
    ∃ t', train B now taxonomy directory o output t run =
      (((saved.1.mapError (Trouble.ofFailure ("failed to save artifact to " ++ output.text))).map (⟨·, artifact⟩), t'),
        saved.2) := by
  have hread := readDataset_apply directory t run
  rw [h] at hread
  have hnonempty : ¬(dataset.split run.files (some o.maxSamples)).train.isEmpty = true := by simpa using hne
  unfold train tune
  rw [Attempt.bind_ok hread, Attempt.bind_ok (Attempt.files_apply t run)]
  generalize dataset.split run.files (some o.maxSamples) = split at hnonempty
  simp only [Audit.bind_apply, Audit.pure_apply]
  rw [Attempt.bind_ok (Attempt.say_apply _ _ _), if_neg hnonempty, Attempt.bind_ok (Attempt.say_apply _ _ _),
    Attempt.bind_ok (Attempt.liftM_apply _ _ _), Attempt.bind_ok (Attempt.say_apply _ _ _),
    Attempt.bind_ok (Attempt.liftM_apply _ _ _)]
  generalize (Detector.base taxonomy).evaluate B split.validation (some o.evaluated) Grade.standard run = before
  generalize Strategy.compile B o (.base taxonomy) (split.train.take o.trainLimit) before.2 = found
  obtain ⟨compiled, run'⟩ := found
  cases compiled with
  | ok program =>
    dsimp only
    rw [Attempt.bind_ok (Attempt.pure_apply _ _ _), Attempt.bind_ok (Attempt.say_apply _ _ _),
      Attempt.bind_ok (Attempt.liftM_apply _ _ _), Attempt.bind_ok (Attempt.say_apply _ _ _),
      Attempt.bind_ok (Attempt.print_apply _ _ _), Attempt.bind_ok (Attempt.audit_apply _ _ _)]
    exact saved_apply _ _ _ _ _
  | error e =>
    dsimp only
    rw [Attempt.bind_ok (Attempt.remark_apply _ _ _), Attempt.bind_ok (Attempt.pure_apply _ _ _),
      Attempt.bind_ok (Attempt.say_apply _ _ _), Attempt.bind_ok (Attempt.liftM_apply _ _ _),
      Attempt.bind_ok (Attempt.say_apply _ _ _), Attempt.bind_ok (Attempt.print_apply _ _ _),
      Attempt.bind_ok (Attempt.audit_apply _ _ _)]
    exact saved_apply _ _ _ _ _

end Split
end Steps

/-! ## What the steps keep -/

section Steps

variable {B : Backend σ}

theorem Strategy.compile_over {f : τ → σ} {B' : Backend τ} (hB : B'.Over f B) (o : TrainOptions) (student : Detector)
    (samples : List Sample) :
    Audit.Over f (Strategy.compile B' o student samples) (Strategy.compile B o student samples) := by
  unfold Strategy.compile
  cases o.strategy with
  | bootstrap => exact Bootstrap.compile_over hB _ student samples _
  | reflective => exact Reflective.compile_over hB hB _ student samples _

theorem tune_over {f : τ → σ} {B' : Backend τ} (hB : B'.Over f B) (taxonomy : Taxonomy) (o : TrainOptions)
    (split : Dataset.Split) : Audit.Over f (tune B' taxonomy o split) (tune B taxonomy o split) :=
  (Detector.evaluate_over hB _ _ _ _).bind fun _ => (Strategy.compile_over hB o _ _).bind fun _ =>
    (Detector.evaluate_over hB _ _ _ _).bind fun _ => .pure _

theorem Strategy.compile_files (B : Backend σ) (o : TrainOptions) (student : Detector) (samples : List Sample)
    (run : Run σ) : (Strategy.compile B o student samples run).2.files = run.files := by
  unfold Strategy.compile
  cases o.strategy with
  | bootstrap =>
    exact Audit.files_of_accounts (Bootstrap.compile_over (B.logged_over _) _ student samples _)
      (fun _ => Bootstrap.compile_accounts B _ student samples _) run
  | reflective =>
    exact Audit.files_of_accounts (Reflective.compile_over (B.logged_over _) (B.logged_over _) _ student samples _)
      (fun _ => Reflective.compile_accounts B B _ student samples _) run

/-- The steps leave the files alone. -/
theorem tune_files (B : Backend σ) (taxonomy : Taxonomy) (o : TrainOptions) (split : Dataset.Split) (run : Run σ) :
    (tune B taxonomy o split run).2.files = run.files := by
  unfold tune
  simp only [Audit.bind_apply, Audit.pure_apply]
  rw [Detector.evaluate_files, Strategy.compile_files, Detector.evaluate_files]

/-- The most demos of an optimized program. -/
def TrainOptions.demoLimit (o : TrainOptions) : Nat :=
  match o.strategy with
  | .bootstrap => o.demos
  | .reflective => 0

/-- **An optimized program has the taxonomy of the student**, and not more demos than asked for. -/
theorem Strategy.compile_ok {o : TrainOptions} {taxonomy : Taxonomy} {samples : List Sample} {run : Run σ}
    {program : Program} (h : (Strategy.compile B o (.base taxonomy) samples run).1 = .ok program) :
    program.taxonomy = taxonomy ∧ program.demos.length ≤ o.demoLimit := by
  unfold Strategy.compile at h
  unfold TrainOptions.demoLimit
  cases hstrategy : o.strategy with
  | bootstrap =>
    simp only [hstrategy] at h
    have hlength := Bootstrap.length_demos_le h
    obtain ⟨demos, rfl⟩ := Bootstrap.compile_program h
    exact ⟨rfl, hlength.trans_eq (Nat.max_self _)⟩
  | reflective =>
    simp only [hstrategy] at h
    obtain ⟨instructions, rfl⟩ := Reflective.compile_program h
    exact ⟨rfl, Nat.le_refl 0⟩

theorem kept_ok {o : TrainOptions} {taxonomy : Taxonomy} {samples : List Sample} {run : Run σ} :
    let program := kept taxonomy (Strategy.compile B o (.base taxonomy) samples run).1
    program.taxonomy = taxonomy ∧ program.demos.length ≤ o.demoLimit := by
  cases hcompiled : (Strategy.compile B o (.base taxonomy) samples run).1 with
  | ok program => exact Strategy.compile_ok hcompiled
  | error e => exact ⟨rfl, Nat.zero_le _⟩

theorem Strategy.compile_recorded (B : Backend σ) (o : TrainOptions) (student : Detector) (samples : List Sample)
    (run : Run (σ × List String)) :
    ∃ more, (Strategy.compile B.recording o student samples run).2.log = run.log ++ more := by
  rw [B.recording_eq_logged]
  exact Audit.log_append (fun before => Strategy.compile_over (B.logged_over_append _ before) o student samples) run

/-- **The prompts of training**: those of the base program, those of optimizing it, and those of the program that was
kept. -/
theorem tune_recorded (B : Backend σ) (taxonomy : Taxonomy) (o : TrainOptions) (split : Dataset.Split)
    (run : Run (σ × List String)) :
    let tuned := tune B.recording taxonomy o split run
    let judged := split.validation.take o.evaluated
    ∃ compiling, tuned.2.log = run.log ++ judged.map (fun s => (Program.base taxonomy).render s.snippet) ++ compiling ++
      judged.map fun s => (kept taxonomy tuned.1.compiled).render s.snippet := by
  obtain ⟨compiling, hcompiling⟩ := Strategy.compile_recorded B o (.base taxonomy) (split.train.take o.trainLimit)
    ((Detector.base taxonomy).evaluate B.recording split.validation (some o.evaluated) Grade.standard run).2
  refine ⟨compiling, ?_⟩
  unfold tune
  simp only [Audit.bind_apply, Audit.pure_apply]
  rw [Detector.evaluate_recorded, hcompiling, Detector.evaluate_recorded, Detector.chosen_some]
  rfl

end Steps

/-! ## What is picked up -/

/-- What the artifact of a training says of it. -/
structure Recorded (taxonomy : Taxonomy) (o : TrainOptions) (compiled : Except Failure Program) (a : Artifact) :
    Prop where
  taxonomy_eq : a.program.taxonomy = taxonomy
  length_demos_le : a.program.demos.length ≤ o.demoLimit
  /-- No optimizer is named exactly when optimizing failed. -/
  optimizer_eq_none : a.optimizer = none ↔ ∃ e, compiled = .error e
  program_eq : a.optimizer = none → a.program = .base taxonomy

theorem Tuning.recorded {B : Backend σ} (now : Instant) {taxonomy : Taxonomy} {o : TrainOptions}
    {split : Dataset.Split} {run : Run σ} :
    let tuned := (tune B taxonomy o split run).1
    Recorded taxonomy o tuned.compiled (tuned.artifact now taxonomy o.strategy) := by
  intro tuned
  obtain ⟨htaxonomy, hdemos⟩ : (kept taxonomy tuned.compiled).taxonomy = taxonomy ∧
      (kept taxonomy tuned.compiled).demos.length ≤ o.demoLimit := kept_ok
  have hoptimizer : (tuned.artifact now taxonomy o.strategy).optimizer = none ↔ ∃ e, tuned.compiled = .error e := by
    unfold Tuning.artifact
    cases tuned.compiled <;> simp [Except.isOk, Except.toBool]
  refine ⟨htaxonomy, hdemos, hoptimizer, fun hnone => ?_⟩
  obtain ⟨e, he⟩ := hoptimizer.1 hnone
  show kept taxonomy tuned.compiled = _
  rw [he]
  rfl

/-- An artifact that is picked up from its path. -/
structure PickedUp (fs : Files) (path : Path) (a : Artifact) : Prop where
  loaded : ∃ b, Artifact.load fs path = .ok b ∧ a.Kept b
  /-- Whatever taxonomy is asked for, the detector of the path is an optimized one, with the prompts of the program. -/
  detector : ∀ {σ : Type} (taxonomy : Taxonomy) (run : Run σ), run.files = fs →
    ∃ d, Detector.withArtifact taxonomy (some path) run = (d, run) ∧ d.optimized = true ∧
      ∀ (B : Backend σ) (snippet : String),
        (d.detect B.recording snippet run.unlogged).2.log = [a.program.render snippet]

theorem PickedUp.of_load {fs : Files} {path : Path} {a b : Artifact} (h : Artifact.load fs path = .ok b)
    (hkept : a.Kept b) : PickedUp fs path a where
  loaded := ⟨b, h, hkept⟩
  detector := by
    intro σ taxonomy run hfiles
    refine ⟨⟨a.program, true⟩, ?_, rfl, fun B snippet => Detector.detect_recorded B _ snippet _⟩
    rw [← hfiles] at h
    rw [← hkept.program]
    exact Detector.withArtifact_of_load taxonomy h

/-! ## The whole training -/

section Whole

variable {B : Backend σ} {now : Instant} {taxonomy : Taxonomy} {directory : Path} {o : TrainOptions} {output : Path}
  {t : Transcript} {run : Run σ}

/-- **What a training that went well has done.** -/
theorem train_ok {trained : Trained} (h : (train B now taxonomy directory o output t run).1.1 = .ok trained) :
    ∃ dataset, Dataset.read run.files directory = .ok dataset ∧
      (dataset.split run.files (some o.maxSamples)).train ≠ [] ∧
      let tuned := tune B taxonomy o (dataset.split run.files (some o.maxSamples)) run
      trained.artifact = tuned.1.artifact now taxonomy o.strategy ∧
      (Artifact.save output trained.artifact tuned.2).1 = .ok trained.path ∧
      (train B now taxonomy directory o output t run).2 = (Artifact.save output trained.artifact tuned.2).2 := by
  cases hread : Dataset.read run.files directory with
  | error e =>
    rw [train_unreadable B now taxonomy o output t hread] at h
    cases h
  | ok dataset =>
    by_cases hne : (dataset.split run.files (some o.maxSamples)).train = []
    · obtain ⟨t', hempty⟩ := train_empty B now taxonomy o output t hread hne
      rw [hempty] at h
      cases h
    · obtain ⟨t', htuned⟩ := train_tuned B now taxonomy o output t hread hne
      rw [htuned] at h ⊢
      refine ⟨dataset, rfl, hne, ?_⟩
      intro tuned
      cases hsaved : (Artifact.save output (tuned.1.artifact now taxonomy o.strategy) tuned.2).1 with
      | error e =>
        simp only [tuned] at hsaved
        simp only [hsaved] at h
        cases h
      | ok path =>
        simp only [tuned] at hsaved
        simp only [hsaved] at h
        obtain rfl := Except.ok.inj h
        exact ⟨rfl, hsaved, rfl⟩

/-- **The prompts of the whole training.** Reading and saving send none. -/
theorem train_recorded (B : Backend σ) (now : Instant) (output : Path) (t : Transcript) {dataset : Dataset}
    (h : Dataset.read run.files directory = .ok dataset)
    (hne : (dataset.split run.files (some o.maxSamples)).train ≠ []) :
    let split := dataset.split run.files (some o.maxSamples)
    let judged := split.validation.take o.evaluated
    ∃ compiling, (train B.recording now taxonomy directory o output t run.unlogged).2.log =
      judged.map (fun s => (Program.base taxonomy).render s.snippet) ++ compiling ++
        judged.map fun s => (kept taxonomy (tune B taxonomy o split run).1.compiled).render s.snippet := by
  intro split judged
  have hread : Dataset.read (run.unlogged : Run (σ × List String)).files directory = .ok dataset := h
  obtain ⟨t', hrun⟩ := train_tuned B.recording now taxonomy o output t hread hne
  obtain ⟨compiling, hlog⟩ := tune_recorded B taxonomy o split run.unlogged
  have hover := tune_over (B.logged_over fun prompt _ => prompt) taxonomy o split run.unlogged
  rw [Run.map_fst_unlogged, ← B.recording_eq_logged] at hover
  refine ⟨compiling, ?_⟩
  rw [hrun, hover, Run.log, Artifact.save_backend]
  exact hlog

end Whole

/-- **Training saves what it scored.** The program in the output is the one whose prompts were sent last, and whatever
taxonomy is asked for, a detector of the output is an optimized one with these prompts. It has the taxonomy and the
demos that were asked for. An output whose path leads through a link that it has taken the place of is out of reach. A
training without a dataset, or without samples to train on, changes nothing. -/
theorem train_saves (B : Backend σ) {now : Instant} (hnow : now.isValid = true) (taxonomy : Taxonomy) (directory : Path)
    (o : TrainOptions) {output : Path} {f : Artifact.Format} (hformat : Artifact.Format.ofPath? output = some f)
    (t : Transcript) (run : Run σ) :
    let done := train B now taxonomy directory o output t run
    let prompts := (train B.recording now taxonomy directory o output t run.unlogged).2.log
    (∀ trained, done.1.1 = .ok trained → ∃ dataset, Dataset.read run.files directory = .ok dataset ∧
      let split := dataset.split run.files (some o.maxSamples)
      let judged := split.validation.take o.evaluated
      trained.path = output ∧
      Recorded taxonomy o (tune B taxonomy o split run).1.compiled trained.artifact ∧
      (∃ compiling, prompts = judged.map (fun s => (Program.base taxonomy).render s.snippet) ++ compiling ++
        judged.map fun s => trained.artifact.program.render s.snippet) ∧
      (¬Artifact.ThroughItself (Artifact.prepared run.files output) output →
        PickedUp done.2.files output trained.artifact) ∧
      (Artifact.ThroughItself (Artifact.prepared run.files output) output →
        Artifact.load done.2.files output = .error (.io .notDirectory) ∧
          ∀ (taxonomy : Taxonomy) (run : Run σ), run.files = done.2.files →
            (Detector.withArtifact taxonomy (some output) run).1 = .base taxonomy)) ∧
    (∀ e, Dataset.read run.files directory = .error e → (∃ trouble, done.1.1 = .error trouble) ∧ done.2 = run) ∧
    ∀ dataset, Dataset.read run.files directory = .ok dataset →
      (dataset.split run.files (some o.maxSamples)).train = [] →
        (∃ trouble, done.1.1 = .error trouble) ∧ done.2 = run := by
  intro done prompts
  refine ⟨fun trained htrained => ?_, fun e hread => ?_, fun dataset hread hempty => ?_⟩
  · obtain ⟨dataset, hread, hne, hartifact, hpath, hrun⟩ := train_ok htrained
    have hvalid : trained.artifact.createdAt.isValid = true := by
      rw [hartifact]
      exact hnow
    obtain ⟨hresult, hfiles⟩ := Artifact.save_apply output trained.artifact
      (tune B taxonomy o (dataset.split run.files (some o.maxSamples)) run).2
    rw [tune_files] at hresult hfiles
    have hstore : Artifact.store run.files output trained.artifact = (done.2.files, .ok trained.path) :=
      Prod.ext (by rw [← hfiles, ← hrun]) (by rw [← hresult, hpath])
    obtain ⟨hsame, hstopped, hloaded⟩ := Artifact.load_stored hvalid hformat hstore
    refine ⟨dataset, hread, hsame, ?_, ?_, fun hthrough => ?_, fun hthrough => ⟨hstopped hthrough, ?_⟩⟩
    · rw [hartifact]
      exact Tuning.recorded now
    · rw [hartifact]
      exact train_recorded B now output t hread hne
    · obtain ⟨b, hload, hkept⟩ := hloaded hthrough
      exact .of_load hload hkept
    · intro taxonomy run hrun
      rw [← hrun] at hstopped
      exact Detector.withArtifact_of_error taxonomy (hstopped hthrough)
  · have hdone : done = _ := train_unreadable B now taxonomy o output t hread
    rw [hdone]
    exact ⟨⟨_, rfl⟩, rfl⟩
  · obtain ⟨t', hempty⟩ := train_empty B now taxonomy o output t hread hempty
    have hdone : done = _ := hempty
    rw [hdone]
    exact ⟨⟨_, rfl⟩, rfl⟩

/-- A dataset of two samples, and a link to a directory. -/
def small : Files where
  entries :=
    [(["ds"], .directory),
      (["ds", "metadata.json"],
        .file "[\x7b\"files\": \x7b\"buggy_function\": \"b.c\", \"fixed_function\": \"f.c\"\x7d\x7d]".toUTF8),
      (["ds", "b.c"], .file "x".toUTF8), (["ds", "f.c"], .file "y".toUTF8),
      (["d"], .directory), (["l.json"], .link ⟨"d"⟩)]
  here := []

/-- A run over it whose backend always answers with nothing. -/
def smallRun : Run Script := .start ⟨[], fun _ => none, [], some "", []⟩ small

def smallNow : Instant := ⟨⟨2024, 1, 1⟩, 0, 0, 0, 0⟩

/-- One sample is trained on, for one demo, and one is judged by. -/
def smallOptions (s : Strategy) : TrainOptions := ⟨9, 1, 1, s, 1, 1⟩

theorem exists_of_isOk {ε : Type} {r : Except ε α} (h : r.isOk = true) : ∃ a, r = .ok a := by
  cases r with
  | ok a => exact ⟨a, rfl⟩
  | error e => cases h

/-- A training that went well, whose artifact is picked up. -/
theorem train_saves_small :
    smallNow.isValid = true ∧ Artifact.Format.ofPath? ⟨"m.json"⟩ = some .json ∧ ∃ trained,
      (train Script.backend smallNow .legacy ⟨"ds"⟩ (smallOptions .bootstrap) ⟨"m.json"⟩ .empty smallRun).1.1 =
        .ok trained ∧
      PickedUp (train Script.backend smallNow .legacy ⟨"ds"⟩ (smallOptions .bootstrap) ⟨"m.json"⟩ .empty
        smallRun).2.files ⟨"m.json"⟩ trained.artifact := by
  have hnow : smallNow.isValid = true := by decide
  have hformat : Artifact.Format.ofPath? ⟨"m.json"⟩ = some .json := by decide +kernel
  have hok : (train Script.backend smallNow .legacy ⟨"ds"⟩ (smallOptions .bootstrap) ⟨"m.json"⟩ .empty
      smallRun).1.1.isOk = true := by decide +kernel
  obtain ⟨trained, htrained⟩ := exists_of_isOk hok
  have hthrough : ¬Artifact.ThroughItself (Artifact.prepared smallRun.files ⟨"m.json"⟩) ⟨"m.json"⟩ := by
    rintro ⟨place, name, ls, m, hlands, hmem⟩
    -- There is nothing on the way to a name in the working directory.
    cases hlands.walk.unique (.done _ _)
    cases hmem
  have hsaves := (train_saves Script.backend hnow .legacy ⟨"ds"⟩ (smallOptions .bootstrap) hformat .empty smallRun).1
    trained htrained
  obtain ⟨dataset, -, -, -, -, hpicked, -⟩ := hsaves
  exact ⟨hnow, hformat, trained, htrained, hpicked hthrough⟩

/-- A training that went well, whose artifact is out of reach: the directory of the output was reached through the link
that the artifact has taken the place of. -/
theorem train_through_itself :
    let path : Path := ⟨"l.json/../l.json"⟩
    let done := train Script.backend smallNow .legacy ⟨"ds"⟩ (smallOptions .reflective) path .empty smallRun
    Artifact.Format.ofPath? path = some .json ∧ done.1.1.isOk = true ∧
      Program.load done.2.files path = .error (.io .notDirectory) ∧
      (Detector.withArtifact .legacy (some path) done.2).1 = Detector.base .legacy := by
  decide +kernel

end Command
end SnippetAudit
