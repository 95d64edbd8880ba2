import SnippetAudit.Backend.Script
import SnippetAudit.Proofs.Run.Accounts
import SnippetAudit.Proofs.Run.Row
import Mathlib.Data.List.Basic

/-!
# Batches of files

A batch looks at its files strictly one after another, and a file that fails stands in nobody's way.

- What becomes of one file, from the run in which it is reached (`Batch.Meets`, `Batch.detectFile_run`): it cannot be
  read and the backend is left alone, or its prompt is the one call, and the answer is passed on.
- Being told of the items changes nothing (`Batch.detectFilesWith_run`), so a batch is a row of such looks.
- So every file has its item, every readable file its prompt and every failed item its event, all of them in the order
  of the files, and a batch of two lists is one batch after the other (`Batch.detectFilesWith_sequential`).
-/

namespace SnippetAudit

variable {σ τ : Type}

/-! ## Events about failed items -/

/-- The item and the reason of an event about a failed item. -/
def Event.failedItem? : Event → Option (String × String)
  | .batchItemFailed item reason => some (item, reason)
  | _ => none

/-- What the event about an item says, if the item failed. -/
def FileOutcome.failed? (item : FileOutcome) : Option (String × String) :=
  item.outcome.reason?.map (item.file.text, ·)

namespace Detector

theorem report_events (v : Verdict) (run : Run σ) :
    ∃ events, (report v run).2.events = run.events ++ events ∧ events.filterMap Event.failedItem? = [] := by
  unfold report
  cases v.findings.raw? with
  | none =>
    cases v.isConsistent with
    | false => exact ⟨_, List.append_assoc _ _ _, rfl⟩
    | true => exact ⟨_, rfl, rfl⟩
  | some raw =>
    cases v.isConsistent with
    | false => exact ⟨_, (List.append_assoc _ _ _).trans (List.append_assoc _ _ _), rfl⟩
    | true => exact ⟨_, List.append_assoc _ _ _, rfl⟩

/-- A detection tells of itself, and of no item of a batch. -/
theorem detect_events (B : Backend σ) (d : Detector) (snippet : String) (run : Run σ) :
    ∃ events, (d.detect B snippet run).2.events = run.events ++ events ∧
      events.filterMap Event.failedItem? = [] := by
  unfold detect
  simp only [Audit.bind_apply, Audit.emit_apply, Audit.ask_apply]
  cases (B.complete (d.program.render snippet) run.backend).1 with
  | error e => exact ⟨_, rfl, rfl⟩
  | ok completion =>
    obtain ⟨events, hevents, hnone⟩ := report_events (Verdict.ofCompletion completion.text)
      (⟨(B.complete (d.program.render snippet) run.backend).2, run.files, run.counters,
        run.events ++ [.detectionStarted snippet.utf8ByteSize (d.program.render snippet).utf8ByteSize]⟩ : Run σ)
    refine ⟨.detectionStarted snippet.utf8ByteSize (d.program.render snippet).utf8ByteSize :: events, ?_, hnone⟩
    simp only [Audit.bind_apply, Audit.pure_apply, hevents, List.append_assoc, List.singleton_append]

end Detector

namespace Batch

/-! ## One file -/

/-- The prompt of a file that can be read. -/
def prompt? (d : Detector) (fs : Files) (file : Path) : Option String :=
  (fs.read file).toOption.map fun bytes => d.program.render (Text.decode bytes)

/-- What becomes of a file, with the run when it is reached and the run when it is left. -/
inductive Meets (B : Backend σ) (d : Detector) (run run' : Run σ) (file : Path) : Outcome → Prop
  | unread {e : IoError} (read : run.files.read file = .error e) (uncalled : run'.backend = run.backend) :
      Meets B d run run' file (.failed (Failure.io e).message)
  | failed {bytes : ByteArray} {e : Failure} (read : run.files.read file = .ok bytes)
      (call : B.complete (d.program.render (Text.decode bytes)) run.backend = (.error e, run'.backend)) :
      Meets B d run run' file (.failed e.message)
  | detected {bytes : ByteArray} {completion : Completion} (read : run.files.read file = .ok bytes)
      (call : B.complete (d.program.render (Text.decode bytes)) run.backend = (.ok completion, run'.backend)) :
      Meets B d run run' file (.detected (Verdict.ofCompletion completion.text))

namespace Meets

variable {B : Backend σ} {d : Detector} {file : Path} {o : Outcome}

/-- **When an item fails.** -/
theorem failed_iff {run run' : Run σ} (h : Meets B d run run' file o) :
    o.isSuccess = false ↔ (∃ e, run.files.read file = .error e) ∨
      ∃ bytes e, run.files.read file = .ok bytes ∧
        (B.complete (d.program.render (Text.decode bytes)) run.backend).1 = .error e := by
  cases h with
  | unread read => exact iff_of_true rfl (.inl ⟨_, read⟩)
  | failed read call => exact iff_of_true rfl (.inr ⟨_, _, read, congrArg Prod.fst call⟩)
  | detected read call => simp [Outcome.isSuccess, Outcome.verdict?, read, call]

/-- **The backend gets one prompt for a file that can be read**, and none for another. -/
theorem log {run run' : Run (σ × List String)} (h : Meets B.recording d run run' file o) :
    run'.log = run.log ++ (prompt? d run.files file).toList := by
  cases h with
  | unread read uncalled => simp [Run.log, uncalled, prompt?, read, Except.toOption]
  | failed read call | detected read call =>
    have hlog := congrArg (fun answered => answered.2.2) call
    simp only [Run.log, prompt?, read, Except.toOption, Option.map_some, Option.toList_some]
    exact hlog.symm

end Meets

/-- **One file**: what becomes of it, and the event if that is a failure. -/
theorem detectFile_run (B : Backend σ) (d : Detector) (file : Path) (run : Run σ) :
    Meets B d run (detectFile B d file run).2 file (detectFile B d file run).1 ∧
    (detectFile B d file run).2.files = run.files ∧
    ∃ events, (detectFile B d file run).2.events = run.events ++ events ∧
      events.filterMap Event.failedItem? = ((detectFile B d file run).1.reason?.map (file.text, ·)).toList := by
  unfold detectFile
  simp only [Audit.bind_apply, Audit.files_apply]
  cases hread : run.files.read file with
  | error e => exact ⟨.unread hread rfl, rfl, _, rfl, rfl⟩
  | ok bytes =>
    obtain ⟨hresult, hbackend, hfiles, -⟩ := d.detect_run B (Text.decode bytes) run
    obtain ⟨events, hevents, hnone⟩ := d.detect_events B (Text.decode bytes) run
    simp only [Audit.bind_apply]
    cases hanswer : (B.complete (d.program.render (Text.decode bytes)) run.backend).1 with
    | error e =>
      have houtcome : (d.detect B (Text.decode bytes) run).1 = .error e := by
        rw [hresult, hanswer]
        rfl
      simp only [houtcome, Audit.bind_apply, Audit.emit_apply, Audit.pure_apply]
      refine ⟨.failed hread (Prod.ext hanswer hbackend.symm), hfiles,
        events ++ [.batchItemFailed file.text e.message], ?_, ?_⟩
      · rw [hevents, List.append_assoc]
      · rw [List.filterMap_append, hnone]
        rfl
    | ok completion =>
      have houtcome : (d.detect B (Text.decode bytes) run).1 = .ok (Verdict.ofCompletion completion.text) := by
        rw [hresult, hanswer]
        rfl
      simp only [houtcome, Audit.pure_apply]
      exact ⟨.detected hread (Prod.ext hanswer hbackend.symm), hfiles, events, hevents, hnone⟩

/-! ## Batches as rows of looks -/

/-- One file as an item of a batch. -/
def look (B : Backend σ) (d : Detector) (file : Path) : Audit σ FileOutcome := do
  return ⟨file, ← detectFile B d file⟩

theorem look_apply (B : Backend σ) (d : Detector) (file : Path) (run : Run σ) :
    look B d file run = (⟨file, (detectFile B d file run).1⟩, (detectFile B d file run).2) := rfl

theorem look_meets (B : Backend σ) (d : Detector) (file : Path) (run : Run σ) :
    Meets B d run (look B d file run).2 file (look B d file run).1.outcome := by
  rw [look_apply]
  exact (detectFile_run B d file run).1

theorem look_files (B : Backend σ) (d : Detector) (file : Path) (run : Run σ) :
    (look B d file run).2.files = run.files := (detectFile_run B d file run).2.1

theorem visit_apply (B : Backend σ) (d : Detector) (onItem : Nat → FileOutcome → τ → τ) (file : Path) (n : Nat)
    (t : τ) (run : Run σ) : (visit B d onItem (file, n)).run t run =
      let looked := look B d file run
      ((looked.1, onItem n looked.1 t), looked.2) := rfl

/-- Tells somebody of items in their order, the first of them under the number `n`. -/
def tell (onItem : Nat → FileOutcome → τ → τ) (n : Nat) (items : List FileOutcome) (t : τ) : τ :=
  (items.zipIdx n).foldl (fun t item => onItem item.2 item.1 t) t

theorem tell_append (onItem : Nat → FileOutcome → τ → τ) (items more : List FileOutcome) (n : Nat) (t : τ) :
    tell onItem n (items ++ more) t =
      tell (fun i => onItem (items.length + i)) n more (tell onItem n items t) := by
  have hshift : more.zipIdx (n + items.length) =
      (more.zipIdx n).map (Prod.map id (items.length + ·)) := by
    rw [Nat.add_comm n, ← List.map_snd_add_zipIdx_eq_zipIdx]
    simp only [Nat.add_comm]
  rw [tell, List.zipIdx_append, List.foldl_append, hshift, List.foldl_map]
  rfl

theorem mapM_visit (B : Backend σ) (d : Detector) (onItem : Nat → FileOutcome → τ → τ) (files : List Path) :
    ∀ (n : Nat) (t : τ), ((files.zipIdx n).mapM (visit B d onItem)).run t =
      (do let items ← files.mapM (look B d); return (items, tell onItem n items t)) := by
  induction files with
  | nil =>
    intro n t
    rfl
  | cons file files ih =>
    intro n t
    funext run
    simp only [List.zipIdx_cons, List.mapM_cons, StateT.run_bind, Audit.bind_apply, visit_apply, ih]
    rfl

/-- **Being told changes nothing**: the items are those of the files in a row, and every item is told of. -/
theorem detectFilesWith_run (B : Backend σ) (d : Detector) (onItem : Nat → FileOutcome → τ → τ) (files : List Path)
    (t : τ) (run : Run σ) : (detectFilesWith B d onItem files).run t run =
      let looked := files.mapM (look B d) run
      ((looked.1, tell onItem 0 looked.1 t), looked.2) := by
  rw [detectFilesWith_eq_mapM, mapM_visit]
  rfl

theorem detectFiles_eq_mapM (B : Backend σ) (d : Detector) (files : List Path) :
    detectFiles B d files = files.mapM (look B d) := by
  funext run
  unfold detectFiles
  rw [Audit.bind_apply, detectFilesWith_run]
  rfl

/-- Every file has its item. -/
theorem map_file_look (B : Backend σ) (d : Detector) (files : List Path) : ∀ run,
    (files.mapM (look B d) run).1.map FileOutcome.file = files := by
  induction files with
  | nil =>
    intro run
    rfl
  | cons file files ih =>
    intro run
    rw [List.mapM_cons]
    exact congrArg (file :: ·) (ih (look B d file run).2)

/-- **Every file that can be read has its prompt.** -/
theorem log_look (B : Backend σ) (d : Detector) (files : List Path) : ∀ run : Run (σ × List String),
    (files.mapM (look B.recording d) run).2.log = run.log ++ files.filterMap (prompt? d run.files) := by
  induction files with
  | nil =>
    intro run
    exact (List.append_nil _).symm
  | cons file files ih =>
    intro run
    have hlook := (look_meets B.recording d file run).log
    rw [List.mapM_cons, List.filterMap_eq_flatMap_toList, List.flatMap_cons, ← List.filterMap_eq_flatMap_toList]
    refine (ih (look B.recording d file run).2).trans ?_
    rw [hlook, look_files, List.append_assoc]

/-- **Every item that failed has its event.** -/
theorem events_look (B : Backend σ) (d : Detector) (files : List Path) : ∀ run : Run σ,
    ∃ events, (files.mapM (look B d) run).2.events = run.events ++ events ∧
      events.filterMap Event.failedItem? = (files.mapM (look B d) run).1.filterMap FileOutcome.failed? := by
  induction files with
  | nil =>
    intro run
    exact ⟨[], (List.append_nil _).symm, rfl⟩
  | cons file files ih =>
    intro run
    obtain ⟨-, -, first, hfirst, hfailed⟩ := detectFile_run B d file run
    obtain ⟨rest, hrest, hfailures⟩ := ih (look B d file run).2
    refine ⟨first ++ rest, ?_, ?_⟩
    · rw [List.mapM_cons, ← List.append_assoc, ← hfirst]
      exact hrest
    · rw [List.mapM_cons, List.filterMap_append, hfailed, hfailures, List.filterMap_eq_flatMap_toList,
        List.filterMap_eq_flatMap_toList]
      rfl

/-! ## Whole batches -/

/-- **A batch is sequential, and a failure stands in nobody's way.** -/
theorem detectFilesWith_sequential (B : Backend σ) (d : Detector) (onItem : Nat → FileOutcome → τ → τ) (start : τ)
    (files : List Path) (run : Run σ) :
    let batch := (detectFilesWith B d onItem files).run start run
    let items := batch.1.1
    -- the run in which the file at a place is reached
    let reached := fun i => (detectFiles B d (files.take i) run).2
    items.map FileOutcome.file = files ∧
    batch.1.2 = items.zipIdx.foldl (fun t (item, i) => onItem i item t) start ∧
    (∀ (i : Nat) (item : FileOutcome), items[i]? = some item →
      (reached i).files = run.files ∧
      Meets B d (reached i) (reached (i + 1)) item.file item.outcome ∧
      (item.outcome.isSuccess = false ↔ (∃ e, run.files.read item.file = .error e) ∨
        ∃ bytes e, run.files.read item.file = .ok bytes ∧
          (B.complete (d.program.render (Text.decode bytes)) (reached i).backend).1 = .error e)) ∧
    ((detectFilesWith B.recording d onItem files).run start run.unlogged).2.log =
      files.filterMap (prompt? d run.files) ∧
    (∃ events, batch.2.events = run.events ++ events ∧
      events.filterMap Event.failedItem? = items.filterMap FileOutcome.failed?) ∧
    ∀ more : List Path, (detectFilesWith B d onItem (files ++ more)).run start run =
      let rest := (detectFilesWith B d (fun i => onItem (files.length + i)) more).run batch.1.2 batch.2
      ((items ++ rest.1.1, rest.1.2), rest.2) := by
  intro batch items reached
  have hbatch : batch = (((files.mapM (look B d) run).1, tell onItem 0 (files.mapM (look B d) run).1 start),
      (files.mapM (look B d) run).2) := detectFilesWith_run B d onItem files start run
  have hitems : items = (files.mapM (look B d) run).1 := congrArg (fun batch => batch.1.1) hbatch
  have hreached : ∀ i, reached i = ((files.take i).mapM (look B d) run).2 :=
    fun i => by simp only [reached, detectFiles_eq_mapM]
  have hfiles : items.map FileOutcome.file = files := by rw [hitems, map_file_look]
  refine ⟨hfiles, ?_, ?_, ?_, ?_, ?_⟩
  · rw [hitems, hbatch]
    rfl
  · intro i item hitem
    have hfile : files[i]? = some item.file := by
      rw [← hfiles, List.getElem?_map, hitem]
      rfl
    obtain ⟨hresult, hleft⟩ := Audit.mapM_at (look B d) hfile run
    rw [hitems, hresult, Option.some.injEq] at hitem
    have hkept : (reached i).files = run.files := by
      rw [hreached]
      exact Audit.mapM_keeps Run.files (look_files B d) _ run
    have hmeets : Meets B d (reached i) (reached (i + 1)) item.file item.outcome := by
      rw [hreached, hreached, hleft, ← hitem]
      exact look_meets B d item.file _
    refine ⟨hkept, hmeets, ?_⟩
    rw [hmeets.failed_iff, hkept]
  · rw [detectFilesWith_run]
    exact log_look B d files run.unlogged
  · rw [hitems, hbatch]
    exact events_look B d files run
  · intro more
    have hlength : (files.mapM (look B d) run).1.length = files.length := Audit.length_mapM _ _ run
    rw [hitems, hbatch, detectFilesWith_run, detectFilesWith_run, Audit.mapM_append_apply]
    simp only [tell_append, hlength]

/-- A file that is not there, between an empty one and one that is no text. -/
theorem detectFilesWith_sequential_missing :
    let script : Script := ⟨[("strcpy", .reply "True")], fun _ => none, [], none, []⟩
    let fs : Files :=
      ⟨[(["w"], .directory), (["w", "a.c"], .file .empty), (["w", "b.c"], .file ⟨#[0xFF]⟩)], ["w"]⟩
    let onItem := fun (i : Nat) (item : FileOutcome) told => told ++ [(i, item.file)]
    ∃ item, ((detectFilesWith Script.backend (.base .legacy) onItem [⟨"a.c"⟩, ⟨"gone.c"⟩, ⟨"b.c"⟩]).run []
        (Run.start script fs)).1.1[1]? = some item ∧
      item.file = ⟨"gone.c"⟩ ∧ item.outcome.isSuccess = false := by
  intro script fs onItem
  obtain ⟨hfiles, -, hitems, -⟩ := detectFilesWith_sequential Script.backend (.base .legacy) onItem []
    [⟨"a.c"⟩, ⟨"gone.c"⟩, ⟨"b.c"⟩] (Run.start script fs)
  have hget := congrArg (·[1]?) hfiles
  simp only [List.getElem?_map] at hget
  obtain ⟨item, hitem, hfile⟩ := Option.map_eq_some_iff.1 hget
  obtain ⟨-, -, hfails⟩ := hitems 1 item hitem
  have hunread : fs.read ⟨"gone.c"⟩ = .error .notFound := rfl
  rw [hfile] at hfails
  exact ⟨item, hitem, hfile, hfails.2 (.inl ⟨_, hunread⟩)⟩

end Batch
end SnippetAudit
