import SnippetAudit.Backend.Script
import SnippetAudit.Proofs.Optimizer.Bootstrap

/-!
# Larger bounds

With a larger bound on accepted verdicts a run goes on where it would have stopped.

- As long as there are not enough demos for the smaller bound, a turn is the same step under both bounds
  (`take_of_room`). So the run with the smaller bound is the other one, broken off behind some of its turns, and not
  before there are enough demos (`foldlM_take_bounded`).
- The turns behind them only add to what was accepted, and to the calls (`tour_append`). So the first run has the first
  demos and the first calls of the second one (`compile_bounded`).
-/

namespace SnippetAudit.Bootstrap

variable {σ : Type}

/-- The configuration with other bounds. -/
def withBounds (c : Bootstrap) (bootstrapped labeled : Nat) : Bootstrap :=
  { c with maxBootstrapped := bootstrapped, maxLabeled := labeled }

section Bounds

variable {c : Bootstrap} {bound bound' labeled labeled' : Nat}

theorem isFull_withBounds {picks : List Pick} :
    (c.withBounds bound labeled).isFull picks = true ↔ bound ≤ picks.length := decide_eq_true_iff

/-- Where there is room, only the threshold counts. -/
theorem take_of_room (B : Backend σ) (student : Detector) (metric : Metric) {picks : List Pick}
    (hroom : picks.length < bound) (hbound : bound ≤ bound') (turn : Turn) :
    take B (c.withBounds bound labeled) student metric picks turn =
      take B (c.withBounds bound' labeled') student metric picks turn := by
  have hfull : (c.withBounds bound labeled).isFull picks = false := by
    rw [Bool.eq_false_iff, Ne, isFull_withBounds]
    omega
  have hfull' : (c.withBounds bound' labeled').isFull picks = false := by
    rw [Bool.eq_false_iff, Ne, isFull_withBounds]
    omega
  unfold take visit
  rw [hfull, hfull']
  rfl

/-- **The run with the smaller bound is the other one, broken off** where there are enough demos. -/
theorem foldlM_take_bounded (B : Backend σ) (c : Bootstrap) (student : Detector) (metric : Metric)
    (hbound : bound ≤ bound') (labeled labeled' : Nat) (turns : List Turn) :
    ∀ (picks : List Pick) (run : Run σ), ∃ first later, turns = first ++ later ∧
      turns.foldlM (take B (c.withBounds bound labeled) student metric) picks run =
        first.foldlM (take B (c.withBounds bound' labeled') student metric) picks run ∧
      (later ≠ [] → bound ≤
        (first.foldlM (take B (c.withBounds bound' labeled') student metric) picks run).1.length) := by
  induction turns with
  | nil =>
    intro picks run
    exact ⟨[], [], rfl, rfl, fun h => absurd rfl h⟩
  | cons turn turns ih =>
    intro picks run
    by_cases hfull : bound ≤ picks.length
    · have hnothing := @foldlM_take_full _ (c.withBounds bound labeled) metric B student picks
        (isFull_withBounds.2 hfull) (turn :: turns)
      exact ⟨[], turn :: turns, rfl, by rw [hnothing, List.foldlM_nil], fun _ => hfull⟩
    · have hturn : take B (c.withBounds bound labeled) student metric picks turn =
          take B (c.withBounds bound' labeled') student metric picks turn :=
        take_of_room B student metric (Nat.lt_of_not_le hfull) hbound turn
      obtain ⟨first, later, rfl, hrun, henough⟩ :=
        ih (take B (c.withBounds bound' labeled') student metric picks turn run).1
          (take B (c.withBounds bound' labeled') student metric picks turn run).2
      refine ⟨turn :: first, later, rfl, ?_, ?_⟩
      · rw [List.foldlM_cons, List.foldlM_cons, Audit.bind_apply, Audit.bind_apply, hturn, hrun]
      · rw [List.foldlM_cons, Audit.bind_apply]
        exact henough

end Bounds

/-! ## The whole run -/

/-- A walk over some turns from the start of a run, with a log of its own. -/
def tour (B : Backend σ) (c : Bootstrap) (student : Detector) (metric : Metric) (turns : List Turn) (run : Run σ) :
    List Pick × Run (σ × List Call) :=
  turns.foldlM (take (B.logged Prod.mk) c student metric) [] run.unlogged

/-- **A longer tour adds to what was accepted, and to the calls.** -/
theorem tour_append (B : Backend σ) (c : Bootstrap) (student : Detector) (metric : Metric) (first later : List Turn)
    (run : Run σ) : ∃ more : List Try, (later = [] → more = []) ∧
      (tour B c student metric (first ++ later) run).1 =
        (tour B c student metric first run).1 ++ accepted c metric more ∧
      (tour B c student metric (first ++ later) run).2.log =
        (tour B c student metric first run).2.log ++ more.map (Try.call student.program) := by
  obtain ⟨before, -, hpicks, hlog⟩ := foldlM_take_unlogged B c student metric first run
  obtain ⟨more, hmore, hpicks', hlog'⟩ := foldlM_take_logged B c student metric later before
    (tour B c student metric first run).2
  rw [accepted_append, ← hpicks] at hpicks'
  rw [← hpicks] at hlog'
  refine ⟨more, ?_, ?_, ?_⟩
  · rintro rfl
    exact hmore
  · rw [tour, List.foldlM_append]
    exact hpicks'
  · rw [tour, List.foldlM_append]
    exact hlog'

/-- A run is the tour over its schedule, and the program made of what was accepted. -/
theorem exists_history_tour (B : Backend σ) (c : Bootstrap) (student : Detector) {samples : List Sample}
    (metric : Metric) (run : Run σ) (h : samples ≠ []) : ∃ (tries : List Try) (program : Program),
      (c.compile B student samples metric run).1 = .ok program ∧
      History c samples metric student.program
        (c.compile (B.logged Prod.mk) student samples metric run.unlogged).2.log tries program ∧
      accepted c metric tries = (tour B c student metric (schedule samples c.rounds 0) run).1 ∧
      (c.compile (B.logged Prod.mk) student samples metric run.unlogged).2.log =
        (tour B c student metric (schedule samples c.rounds 0) run).2.log := by
  have hover := compile_over (B.logged_over Prod.mk) c student samples metric (run.unlogged : Run (σ × List Call))
  rw [Run.map_fst_unlogged, compile_apply _ c student metric run.unlogged h] at hover
  rw [hover, compile_apply _ c student metric run.unlogged h]
  obtain ⟨tries, hfollows, hpicks, hlog⟩ :=
    foldlM_take_unlogged B c student metric (schedule samples c.rounds 0) run
  refine ⟨tries, _, rfl, ?_, hpicks.symm, rfl⟩
  simp only [hpicks, hlog]
  exact hfollows.history student.program

/-- **A larger bound only extends a run.** From the same state, the run with the smaller bound has the first accepted
verdicts and the first calls of the run with the larger one; it makes all of its calls unless it has enough demos. -/
theorem compile_bounded (B : Backend σ) (c : Bootstrap) (student : Detector) {samples : List Sample} (metric : Metric)
    (run : Run σ) (h : samples ≠ []) {bound bound' : Nat} (hbound : bound ≤ bound') (labeled labeled' : Nat) :
    ∃ (tries tries' : List Try) (program program' : Program) (log log' : List Call),
      ((c.withBounds bound labeled).compile B student samples metric run).1 = .ok program ∧
      ((c.withBounds bound' labeled').compile B student samples metric run).1 = .ok program' ∧
      log = ((c.withBounds bound labeled).compile (B.logged Prod.mk) student samples metric run.unlogged).2.log ∧
      log' = ((c.withBounds bound' labeled').compile (B.logged Prod.mk) student samples metric run.unlogged).2.log ∧
      History (c.withBounds bound labeled) samples metric student.program log tries program ∧
      History (c.withBounds bound' labeled') samples metric student.program log' tries' program' ∧
      accepted c metric tries = (accepted c metric tries').take bound ∧
      log <+: log' ∧ ((accepted c metric tries).length < bound → log = log') := by
  obtain ⟨tries, program, hok, hhistory, hpicks, hlog⟩ :=
    exists_history_tour B (c.withBounds bound labeled) student metric run h
  obtain ⟨tries', program', hok', hhistory', hpicks', hlog'⟩ :=
    exists_history_tour B (c.withBounds bound' labeled') student metric run h
  obtain ⟨first, later, hturns, hfirst, henough⟩ := foldlM_take_bounded (B.logged Prod.mk) c student metric hbound labeled
    labeled' (schedule samples c.rounds 0) [] (run.unlogged : Run (σ × List Call))
  have hsmall : tour B (c.withBounds bound labeled) student metric (schedule samples c.rounds 0) run =
    tour B (c.withBounds bound' labeled') student metric first run := hfirst
  obtain ⟨more, hnone, hmore, hcalls⟩ :=
    tour_append B (c.withBounds bound' labeled') student metric first later run
  have hlarge : (c.withBounds bound' labeled').rounds = c.rounds := rfl
  rw [hlarge, hturns, hmore] at hpicks'
  rw [hlarge, hturns, hcalls] at hlog'
  have haccepted : accepted c metric tries = (tour B (c.withBounds bound' labeled') student metric first run).1 :=
    hpicks.trans (congrArg Prod.fst hsmall)
  have hlog : ((c.withBounds bound labeled).compile (B.logged Prod.mk) student samples metric run.unlogged).2.log =
      (tour B (c.withBounds bound' labeled') student metric first run).2.log :=
    hlog.trans (congrArg (fun walked => walked.2.log) hsmall)
  have haccepted' : accepted c metric tries' = accepted c metric tries ++ accepted c metric more :=
    hpicks'.trans (congrArg (· ++ accepted c metric more) haccepted.symm)
  have hle : (accepted c metric tries).length ≤ bound := hhistory.accepted_le
  -- the run was broken off only where it had enough demos
  have hshort : (accepted c metric tries).length < bound → more = [] := by
    intro hlt
    apply hnone
    by_contra hlater
    have hge := henough hlater
    rw [← tour, ← haccepted] at hge
    omega
  refine ⟨tries, tries', program, program', _, _, hok, hok', rfl, rfl, hhistory, hhistory', ?_, ?_, ?_⟩
  · rw [haccepted']
    rcases Nat.lt_or_eq_of_le hle with hlt | heq
    · have hnil : accepted c metric more = [] := by
        rw [hshort hlt]
        rfl
      rw [hnil, List.append_nil, List.take_of_length_le hle]
    · rw [← heq, List.take_left]
  · rw [hlog', hlog]
    exact List.prefix_append _ _
  · intro hlt
    rw [hlog', hlog, hshort hlt, List.map_nil, List.append_nil]

/-- Room for one demo and for three, over a script that fails once and then changes its mind. -/
theorem compile_bounded_scripted :
    let samples := [Sample.clean "x", Sample.buggy "y" "C.1" "Overflow", Sample.clean "z"]
    let student := Detector.base .hierarchical
    let run := Run.start ⟨[], fun _ => none, [.fail "down", .reply (Script.markedReply "True" "[]")],
      some (Script.markedReply "False" "[]"), []⟩ .empty
    let c := ofDemos 0 2
    samples ≠ [] ∧ 1 ≤ 3 ∧ ∃ (tries tries' : List Try) (program program' : Program) (log log' : List Call),
      ((c.withBounds 1 1).compile Script.backend student samples Grade.standard run).1 = .ok program ∧
      ((c.withBounds 3 16).compile Script.backend student samples Grade.standard run).1 = .ok program' ∧
      History (c.withBounds 1 1) samples Grade.standard student.program log tries program ∧
      History (c.withBounds 3 16) samples Grade.standard student.program log' tries' program' ∧
      accepted c Grade.standard tries = (accepted c Grade.standard tries').take 1 ∧ log <+: log' := by
  intro samples student run c
  have hne : samples ≠ [] := List.cons_ne_nil _ _
  obtain ⟨tries, tries', program, program', log, log', hok, hok', -, -, hhistory, hhistory', hfirst, hcalls, -⟩ :=
    compile_bounded Script.backend c student Grade.standard run hne (by decide : 1 ≤ 3) 1 16
  exact ⟨hne, by decide, tries, tries', program, program', log, log', hok, hok', hhistory, hhistory', hfirst, hcalls⟩

end SnippetAudit.Bootstrap
