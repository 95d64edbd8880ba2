import SnippetAudit.Artifact.Store
import SnippetAudit.Batch.Basic
import SnippetAudit.Proofs.Backend.Script

/-!
# Steady backends

A backend is steady when the prompt settles its answer, whatever it was asked before. What runs over it then has a
settled result too, as long as the files stay.

- A settled step returns the same from every run over those files, and leaves such a run behind (`Audit.Settled`). Steps
  in a row are settled when each of them is (`Audit.Settled.bind`, `Audit.Settled.mapM`, `Audit.Settled.foldlM`).
- A detection is settled by the answer to its prompt (`Detector.detect_settled`), detections in a row by the answers to
  theirs (`Batch.detectSnippets_settled`), the loading of a program by the files (`Detector.withArtifact_settled`).
- A script without a queue is steady (`Script.backend_steady`).
-/

namespace SnippetAudit

variable {σ α β : Type}

/-- A backend that gives every prompt the answer that `reply` tells, in every state that `holds`. -/
structure Backend.Steady (B : Backend σ) (reply : String → Answer) (holds : σ → Prop) : Prop where
  answers : ∀ prompt s, holds s → (B.complete prompt s).1 = reply prompt
  keeps : ∀ prompt s, holds s → holds (B.complete prompt s).2

/-- A run over some files, with its backend in a state that `holds`. -/
structure Run.Stands (holds : σ → Prop) (fs : Files) (run : Run σ) : Prop where
  backend : holds run.backend
  files : run.files = fs

/-! ## Settled steps -/

namespace Audit

variable {holds : σ → Prop} {fs : Files}

/-- A step that returns `a` from every run over the files, and leaves such a run behind. -/
def Settled (holds : σ → Prop) (fs : Files) (m : Audit σ α) (a : α) : Prop :=
  ∀ run : Run σ, run.Stands holds fs → (m run).1 = a ∧ (m run).2.Stands holds fs

namespace Settled

theorem pure (a : α) : Settled holds fs (Pure.pure a) a := fun _ h => ⟨rfl, h⟩

theorem emit (e : Event) : Settled holds fs (Audit.emit e) () := fun _ h => ⟨rfl, h.backend, h.files⟩

theorem count (g : Counters → Counters) : Settled holds fs (Audit.count g) () := fun _ h => ⟨rfl, h.backend, h.files⟩

theorem files : Settled holds fs Audit.files fs := fun _ h => ⟨h.files, h⟩

theorem ask {B : Backend σ} {reply : String → Answer} (hB : B.Steady reply holds) (prompt : String) :
    Settled holds fs (B.ask prompt) (reply prompt) :=
  fun run h => ⟨hB.answers prompt run.backend h.backend, hB.keeps prompt run.backend h.backend, h.files⟩

/-- **Steps in a row.** -/
theorem bind {m : Audit σ α} {k : α → Audit σ β} {a : α} {b : β} (h : Settled holds fs m a)
    (hk : Settled holds fs (k a) b) : Settled holds fs (m >>= k) b := by
  intro run hrun
  obtain ⟨hresult, hrun'⟩ := h run hrun
  rw [bind_apply, hresult]
  exact hk _ hrun'

/-- A step whose result is returned in another form. -/
theorem returning {m : Audit σ α} {a : α} (h : Settled holds fs m a) (f : α → β) :
    Settled holds fs (do return f (← m)) (f a) := h.bind (pure _)

theorem mapM {step : α → Audit σ β} {f : α → β} (h : ∀ a, Settled holds fs (step a) (f a)) (xs : List α) :
    Settled holds fs (xs.mapM step) (xs.map f) := by
  induction xs with
  | nil =>
    simp only [List.mapM_nil]
    exact pure []
  | cons x xs ih =>
    simp only [List.mapM_cons]
    exact (h x).bind (ih.bind (pure _))

theorem foldlM {step : β → α → Audit σ β} {next : β → α → β} (h : ∀ b a, Settled holds fs (step b a) (next b a))
    (xs : List α) : ∀ b, Settled holds fs (xs.foldlM step b) (xs.foldl next b) := by
  induction xs with
  | nil =>
    intro b
    simp only [List.foldlM_nil]
    exact pure b
  | cons x xs ih =>
    intro b
    simp only [List.foldlM_cons]
    exact (h b x).bind (ih (next b x))

end Settled
end Audit

/-! ## Detections -/

section Detections

variable {B : Backend σ} {reply : String → Answer} {holds : σ → Prop} {fs : Files}

namespace Detector

theorem report_settled (v : Verdict) : Audit.Settled holds fs (report v) () := by
  unfold report
  refine (Audit.Settled.count _).bind ?_
  cases v.findings.raw? with
  | none =>
    cases v.isConsistent with
    | false => exact (Audit.Settled.emit _).bind (Audit.Settled.emit _)
    | true => exact Audit.Settled.emit _
  | some raw =>
    refine (Audit.Settled.count _).bind ((Audit.Settled.emit _).bind ?_)
    cases v.isConsistent with
    | false => exact (Audit.Settled.emit _).bind (Audit.Settled.emit _)
    | true => exact Audit.Settled.emit _

/-- **A detection is settled by the answer to its prompt.** -/
theorem detect_settled (hB : B.Steady reply holds) (d : Detector) (snippet : String) :
    Audit.Settled holds fs (d.detect B snippet) (outcome (reply (d.program.render snippet))) := by
  unfold detect
  refine (Audit.Settled.emit _).bind ((Audit.Settled.ask hB _).bind ?_)
  cases reply (d.program.render snippet) with
  | error e => exact (Audit.Settled.count _).bind (.pure _)
  | ok completion => exact (report_settled _).bind (.pure _)

/-- The detector of an artifact is settled by the files. -/
theorem withArtifact_settled (holds : σ → Prop) (fs : Files) (taxonomy : Taxonomy) (path : Option Path) :
    ∃ d, Audit.Settled holds fs (withArtifact taxonomy path) d := by
  cases path with
  | none => exact ⟨_, Audit.Settled.files.bind (.pure _)⟩
  | some p =>
    cases hexists : fs.pathExists p with
    | false =>
      refine ⟨base taxonomy, Audit.Settled.files.bind ?_⟩
      simp only [hexists]
      exact .pure _
    | true =>
      cases hload : Program.load fs p with
      | ok program =>
        refine ⟨⟨program, true⟩, Audit.Settled.files.bind ?_⟩
        simp only [hexists, Program.reload_of_ok hload]
        exact .pure _
      | error e =>
        refine ⟨base taxonomy, Audit.Settled.files.bind ?_⟩
        simp only [hexists, Program.reload_of_error hload]
        exact (Audit.Settled.emit _).bind (.pure _)

end Detector

/-- What becomes of an item, from the outcome of its detection. -/
def Outcome.ofResult : Except Failure Verdict → Outcome
  | .ok v => .detected v
  | .error e => .failed e.message

namespace Batch

theorem detectItem_settled (hB : B.Steady reply holds) (d : Detector) (index : Nat) (snippet : String) :
    Audit.Settled holds fs (detectItem B d index snippet)
      (.ofResult (Detector.outcome (reply (d.program.render snippet)))) := by
  unfold detectItem
  refine (Detector.detect_settled hB d snippet).bind ?_
  cases Detector.outcome (reply (d.program.render snippet)) with
  | ok v => exact .pure _
  | error e => exact (Audit.Settled.emit _).bind (.pure _)

/-- **Detections in a row are settled one by one**; the place in the row does not count. -/
theorem detectSnippets_settled (hB : B.Steady reply holds) (d : Detector) (snippets : List String) :
    Audit.Settled holds fs (detectSnippets B d snippets)
      (snippets.map fun snippet => .ofResult (Detector.outcome (reply (d.program.render snippet)))) := by
  let f := fun snippet => Outcome.ofResult (Detector.outcome (reply (d.program.render snippet)))
  have hmap : snippets.zipIdx.map (f ∘ Prod.fst) = snippets.map f := by
    rw [← List.map_map, List.zipIdx_map_fst]
  have hsettled : Audit.Settled holds fs (detectSnippets B d snippets) (snippets.zipIdx.map (f ∘ Prod.fst)) := by
    unfold detectSnippets
    apply Audit.Settled.mapM
    rintro ⟨snippet, index⟩
    exact detectItem_settled hB d index snippet
  rwa [hmap] at hsettled

end Batch
end Detections

/-! ## Scripts -/

namespace Script

/-- The answer of a script that has nothing queued. -/
def standing (s : Script) (prompt : String) : Answer := ({ s with queue := [] }.complete prompt).1

/-- The states of a script that has nothing queued: only the prompts are added to. -/
def Standing (s s' : Script) : Prop := ∃ prompts, s' = { s with queue := [], prompts := prompts }

/-- What a script without a queue answers does not depend on the prompts before. -/
theorem complete_standing (s : Script) (prompt : String) (prompts : List String) :
    { s with queue := [], prompts := prompts }.complete prompt =
      (s.standing prompt, { s with queue := [], prompts := prompts ++ [prompt] }) := by
  refine Prod.ext ?_ ?_
  · rw [standing, complete_fst, complete_fst]
    rfl
  · rw [complete_snd, asked, List.drop_nil]

theorem backend_steady (s : Script) : backend.Steady s.standing s.Standing where
  answers := by
    rintro prompt _ ⟨prompts, rfl⟩
    exact (Prod.mk.inj (complete_standing s prompt prompts)).1
  keeps := by
    rintro prompt _ ⟨prompts, rfl⟩
    exact ⟨prompts ++ [prompt], (Prod.mk.inj (complete_standing s prompt prompts)).2⟩

end Script
end SnippetAudit
