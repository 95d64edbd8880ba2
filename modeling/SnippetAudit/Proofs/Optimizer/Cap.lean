import SnippetAudit.Proofs.Optimizer.Demos
import SnippetAudit.Proofs.Optimizer.Rounds
import Mathlib.Data.List.Basic
import Mathlib.Data.List.Nodup
import Mathlib.Data.List.Perm.Subperm

/-!
# The number of demos

The bound on labeled demos is heeded where labels are added, but not where verdicts are accepted.

- A run has as many demos as it accepted verdicts, or as the bound and the samples allow where that is more
  (`History.length_demos_eq`). So it keeps the bound exactly when it accepts no more verdicts than that
  (`History.length_demos_le_iff`).
- Where every verdict is accepted, the first round takes as many as there may be (`le_length_walk`), and these can be
  more than the bound (`exists_over`). So a configuration keeps the bound over all backends and metrics only if it
  cannot accept more (`capped_iff`).
-/

namespace SnippetAudit.Bootstrap

variable {σ : Type}

/-! ## One run -/

section Run

variable {c : Bootstrap} {samples : List Sample} {metric : Metric} {student program : Program} {log : List Call}
  {tries : List Try}

/-- No more verdicts are accepted than there are samples. -/
theorem History.accepted_le_samples (h : History c samples metric student log tries program) :
    (accepted c metric tries).length ≤ samples.length := by
  have hpositions : (accepted c metric tries).map Pick.position ⊆ List.range samples.length := by
    intro position hposition
    obtain ⟨pick, hpick, rfl⟩ := List.mem_map.1 hposition
    obtain ⟨t, ht, v, -, -, rfl⟩ := h.earned pick hpick
    exact List.mem_range.2 (List.getElem?_eq_some_iff.1 (h.placed t ht).2).1
  have hle := (List.subperm_of_subset h.distinct hpositions).length_le
  rwa [List.length_map, List.length_range] at hle

/-- **As many demos as verdicts were accepted**, or as the bound and the samples allow. -/
theorem History.length_demos_eq (h : History c samples metric student log tries program) :
    program.demos.length = max (accepted c metric tries).length (min c.maxLabeled samples.length) := by
  have hdemos := h.length_demos
  have hsamples := h.accepted_le_samples
  omega

/-- A run keeps the bound when it accepts no more verdicts than that. -/
theorem History.length_demos_le_iff (h : History c samples metric student log tries program) :
    program.demos.length ≤ c.maxLabeled ↔ (accepted c metric tries).length ≤ c.maxLabeled := by
  rw [h.length_demos_eq]
  omega

/-- Nothing is accepted without a round, or where no score is enough. -/
theorem History.accepted_eq_nil (h : History c samples metric student log tries program)
    (hnever : c.rounds = 0 ∨ ∀ score, ¬c.threshold ≤ score) : accepted c metric tries = [] := by
  rcases hnever with hrounds | hthreshold
  · have hle := h.tries_le
    rw [hrounds, Nat.zero_mul] at hle
    obtain rfl : tries = [] := List.eq_nil_of_length_eq_zero (by omega)
    rfl
  · apply List.eq_nil_iff_forall_not_mem.2
    intro pick hpick
    obtain ⟨t, -, v, -, hscore, -⟩ := h.earned pick hpick
    exact hthreshold _ hscore

end Run

theorem compile_ok (B : Backend σ) (c : Bootstrap) (student : Detector) {samples : List Sample} (metric : Metric)
    (run : Run σ) (h : samples ≠ []) : ∃ program, (c.compile B student samples metric run).1 = .ok program :=
  ⟨_, congrArg Prod.fst (compile_apply B c student metric run h)⟩

theorem exists_history {B : Backend σ} {c : Bootstrap} {student : Detector} {samples : List Sample} {metric : Metric}
    {run : Run σ} {program : Program} (h : (c.compile B student samples metric run).1 = .ok program) :
    ∃ tries : List Try, History c samples metric student.program
      (c.compile (B.logged Prod.mk) student samples metric run.unlogged).2.log tries program := by
  obtain ⟨tries, hfollows, hlog, rfl⟩ := exists_follows B c student metric run h
  refine ⟨tries, ?_⟩
  rw [hlog]
  exact hfollows.history student.program

/-! ## All runs -/

/-- Where every verdict is accepted, a round takes as many as there may be, or all. -/
theorem le_length_walk {c : Bootstrap} {student : Program} {metric : Metric} {reply : String → Answer}
    (hoffer : ∀ turn, offer c student metric reply turn ≠ none) (samples : List Sample) :
    min c.maxBootstrapped samples.length ≤ (walk c student metric reply (turnsOf samples 0)).length := by
  by_cases hfull : c.maxBootstrapped ≤ (walk c student metric reply (turnsOf samples 0)).length
  · omega
  · -- there is room left, so every position was accepted
    have hpositions : List.range samples.length ⊆
        (walk c student metric reply (turnsOf samples 0)).map Pick.position := by
      intro position hposition
      have hlt := List.mem_range.1 hposition
      have hspent : Spent c student metric reply (walk c student metric reply (turnsOf samples 0))
          ⟨0, position, samples[position]⟩ :=
        spent_round c student metric reply samples (List.getElem?_eq_getElem hlt)
      rcases hspent with hroom | hpicked | hnone
      · exact absurd (of_decide_eq_true hroom) hfull
      · exact isPicked_iff.1 hpicked
      · exact absurd hnone (hoffer _)
    have hle := (List.subperm_of_subset List.nodup_range hpositions).length_le
    rw [List.length_range, List.length_map] at hle
    omega

/-- A configuration that keeps the bound on some samples, whatever the backend, the student and the metric are. -/
def Capped (c : Bootstrap) (samples : List Sample) : Prop :=
  ∀ {σ : Type} (B : Backend σ) (student : Detector) (metric : Metric) (run : Run σ), ∃ program,
    (c.compile B student samples metric run).1 = .ok program ∧ program.demos.length ≤ c.maxLabeled

/-- A script that has one reply to everything. -/
def agreeable : Script := ⟨[], fun _ => none, [], some "", []⟩

theorem offer_ne_none {c : Bootstrap} {score : Float} (h : c.threshold ≤ score) (student : Program) (turn : Turn) :
    offer c student (fun _ _ => ⟨score, none⟩) agreeable.standing turn ≠ none := by
  have hreply : agreeable.standing (student.render turn.sample.snippet) = .ok ⟨"", "scripted"⟩ := rfl
  unfold offer Try.pick?
  simp only [hreply, Detector.outcome, Except.map, if_pos h]
  exact Option.some_ne_none _

/-- **Verdicts that are all accepted pass the bound** where there may be more of them. -/
theorem exists_over {c : Bootstrap} {samples : List Sample} (hbound : c.maxLabeled < c.maxBootstrapped)
    (hsamples : c.maxLabeled < samples.length) (hrounds : c.rounds ≠ 0) {score : Float} (h : c.threshold ≤ score) :
    ∃ program, (c.compile Script.backend (.base .hierarchical) samples (fun _ _ => ⟨score, none⟩)
      (Run.start agreeable .empty)).1 = .ok program ∧ c.maxLabeled < program.demos.length := by
  have hne : samples ≠ [] := List.ne_nil_of_length_pos (by omega)
  obtain ⟨left, hleft⟩ := Nat.exists_eq_succ_of_ne_zero hrounds
  obtain ⟨hok, -⟩ := compile_settled agreeable.backend_steady c (.base .hierarchical) (fun _ _ => ⟨score, none⟩) hne
    (Run.start agreeable .empty) ⟨⟨[], rfl⟩, rfl⟩
  refine ⟨_, hok, ?_⟩
  have hle := le_length_walk (offer_ne_none h (Detector.base .hierarchical).program) samples
  simp only [hleft, walk_schedule, demos, List.length_append, List.length_map]
  omega

/-- **When the number of demos is bounded.** A run passes the bound exactly when it accepts more verdicts than that.
Over all backends, students and metrics none does exactly when it cannot: there may be no more accepted verdicts than
demos, there are no more samples, there is no round, or no score is enough. -/
theorem capped_iff (c : Bootstrap) {samples : List Sample} (h : samples ≠ []) :
    (∀ {σ : Type} (B : Backend σ) (student : Detector) (metric : Metric) (run : Run σ),
      ∃ (tries : List Try) (program : Program), (c.compile B student samples metric run).1 = .ok program ∧
        History c samples metric student.program
          (c.compile (B.logged Prod.mk) student samples metric run.unlogged).2.log tries program ∧
        program.demos.length = max (accepted c metric tries).length (min c.maxLabeled samples.length) ∧
        (program.demos.length ≤ c.maxLabeled ↔ (accepted c metric tries).length ≤ c.maxLabeled)) ∧
    (c.Capped samples ↔ c.maxBootstrapped ≤ c.maxLabeled ∨ samples.length ≤ c.maxLabeled ∨ c.rounds = 0 ∨
      ∀ score, ¬c.threshold ≤ score) := by
  refine ⟨fun B student metric run => ?_, ?_, ?_⟩
  · obtain ⟨program, hok⟩ := compile_ok B c student metric run h
    obtain ⟨tries, hhistory⟩ := exists_history hok
    exact ⟨tries, program, hok, hhistory, hhistory.length_demos_eq, hhistory.length_demos_le_iff⟩
  · intro hcapped
    by_contra hnot
    simp only [not_or, not_forall, not_not, Nat.not_le] at hnot
    obtain ⟨hbound, hsamples, hrounds, score, hscore⟩ := hnot
    obtain ⟨program, hok, hover⟩ := exists_over hbound hsamples hrounds hscore
    obtain ⟨program', hok', hle⟩ := hcapped Script.backend (.base .hierarchical) (fun _ _ => ⟨score, none⟩)
      (Run.start agreeable .empty)
    obtain rfl : program' = program := Except.ok.inj (hok'.symm.trans hok)
    omega
  · intro hcannot σ B student metric run
    obtain ⟨program, hok⟩ := compile_ok B c student metric run h
    obtain ⟨tries, hhistory⟩ := exists_history hok
    refine ⟨program, hok, hhistory.length_demos_le_iff.2 ?_⟩
    have haccepted := hhistory.accepted_le
    have hsamples := hhistory.accepted_le_samples
    rcases hcannot with hbound | hfew | hnever
    · omega
    · omega
    · rw [hhistory.accepted_eq_nil hnever]
      exact Nat.zero_le _

/-- The bounds that come with a number of demos agree; two demos of verdicts pass a bound of one. -/
theorem capped_iff_two : [Sample.clean "x", Sample.buggy "y" "C.1" "Overflow"] ≠ [] ∧
    (ofDemos 1 2).Capped [Sample.clean "x", Sample.buggy "y" "C.1" "Overflow"] ∧
    ¬(⟨2, 1, 1, 0.25⟩ : Bootstrap).Capped [Sample.clean "x", Sample.buggy "y" "C.1" "Overflow"] := by
  have hne : [Sample.clean "x", Sample.buggy "y" "C.1" "Overflow"] ≠ [] := by decide
  refine ⟨hne, (capped_iff (ofDemos 1 2) hne).2.2 (Or.inl (Nat.le_refl 1)), ?_⟩
  intro hcapped
  rcases (capped_iff ⟨2, 1, 1, 0.25⟩ hne).2.1 hcapped with hbound | hsamples | hrounds | hnever
  · exact absurd hbound (by decide)
  · exact absurd hsamples (by decide)
  · exact absurd hrounds (by decide)
  · exact hnever 1.0 (by decide)

/-- Two verdicts are accepted where there may be one demo. -/
theorem compile_over_cap :
    let c : Bootstrap := ⟨2, 1, 1, 0.25⟩
    let script : Script := ⟨[], fun _ => none, [], some (Script.markedReply "False" "\x7b\"bugs\": []\x7d"), []⟩
    ∃ program, (c.compile Script.backend (.base .hierarchical) [.clean "int x;", .clean "int y;"] Grade.standard
      (Run.start script .empty)).1 = .ok program ∧ program.demos.length = 2 ∧ ¬program.demos.length ≤ c.maxLabeled := by
  intro c script
  have hok := congrArg Prod.fst (compile_apply Script.backend c (.base .hierarchical) Grade.standard
    (Run.start script .empty) (by decide : [Sample.clean "int x;", Sample.clean "int y;"] ≠ []))
  exact ⟨_, hok, by decide +kernel⟩

end SnippetAudit.Bootstrap
