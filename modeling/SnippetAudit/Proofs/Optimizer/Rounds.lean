import SnippetAudit.Proofs.Backend.Steady
import SnippetAudit.Proofs.Optimizer.Bootstrap

/-!
# Further rounds

Over a steady backend a sample gets the same verdict in every round, so only the first round can accept anything.

- What a turn does is settled by what was accepted so far (`advance`, `take_settled`), and so is what a run returns
  (`compile_settled`).
- A turn is spent when there are enough demos, when its position was accepted, or when its verdict is not (`Spent`). A
  spent turn does nothing (`advance_of_spent`). A turn that was taken is spent (`spent_advance`), and stays so
  whatever is accepted later (`Spent.mono`).
- Behind one round every turn is spent (`spent_round`), also those of further rounds: they are of the same samples at
  the same positions (`walk_schedule`). So the number of rounds does not count (`compile_rounds`).
-/

namespace SnippetAudit.Bootstrap

variable {σ : Type} {holds : σ → Prop} {fs : Files}

/-! ## What a turn does -/

section Advance

variable (c : Bootstrap) (student : Program) (metric : Metric) (reply : String → Answer)

/-- What a turn can be accepted as, by the answer to its prompt. -/
def offer (turn : Turn) : Option Pick :=
  Try.pick? c metric ⟨turn, reply (student.render turn.sample.snippet)⟩

/-- What is accepted behind a turn. -/
def advance (picks : List Pick) (turn : Turn) : List Pick :=
  if c.isFull picks || isPicked picks turn.position then picks
  else picks ++ (offer c student metric reply turn).toList

/-- What is accepted of turns in a row. -/
def walk (turns : List Turn) : List Pick := turns.foldl (advance c student metric reply) []

/-- Nothing can be accepted at this turn, now or later. -/
def Spent (picks : List Pick) (turn : Turn) : Prop :=
  c.isFull picks = true ∨ isPicked picks turn.position = true ∨ offer c student metric reply turn = none

end Advance

section Settled

variable {c : Bootstrap} {metric : Metric} {reply : String → Answer} {B : Backend σ}

/-- **A turn is settled by what was accepted so far.** -/
theorem take_settled (hB : B.Steady reply holds) (student : Detector) (picks : List Pick) (turn : Turn) :
    Audit.Settled holds fs (take B c student metric picks turn)
      (advance c student.program metric reply picks turn) := by
  unfold take visit advance
  by_cases hskip : (c.isFull picks || isPicked picks turn.position) = true
  · simp only [if_pos hskip]
    exact .pure picks
  · simp only [if_neg hskip]
    apply (Detector.detect_settled hB student turn.sample.snippet).bind
    unfold offer Try.pick?
    cases Detector.outcome (reply (student.program.render turn.sample.snippet)) with
    | error e =>
      simp only [Option.toList_none, List.append_nil]
      exact .pure picks
    | ok v =>
      by_cases hscore : c.threshold ≤ (metric turn.sample v).score
      · simp only [if_pos hscore]
        exact (Audit.Settled.emit _).bind (.pure _)
      · simp only [if_neg hscore, Option.toList_none, List.append_nil]
        exact .pure picks

/-- **What a run returns is settled.** -/
theorem compile_settled (hB : B.Steady reply holds) (c : Bootstrap) (student : Detector) (metric : Metric)
    {samples : List Sample} (h : samples ≠ []) :
    Audit.Settled holds fs (c.compile B student samples metric)
      (.ok { student.program with
        demos := c.demos samples (walk c student.program metric reply (schedule samples c.rounds 0)) }) := by
  have hempty : ¬samples.isEmpty = true := by simpa using h
  unfold compile
  simp only [if_neg hempty, runRounds_eq_foldlM]
  exact (Audit.Settled.foldlM (take_settled hB student) _ []).bind (.pure _)

end Settled

/-! ## Spent turns -/

section Spent

variable {c : Bootstrap} {student : Program} {metric : Metric} {reply : String → Answer} {picks : List Pick}
  {turn : Turn}

theorem offer_position {pick : Pick} (h : offer c student metric reply turn = some pick) :
    pick.position = turn.position := by
  obtain ⟨v, -, -, rfl⟩ := Try.pick?_eq_some h
  rfl

/-- A turn only adds to what was accepted. -/
theorem prefix_advance (c : Bootstrap) (student : Program) (metric : Metric) (reply : String → Answer)
    (picks : List Pick) (turn : Turn) : picks <+: advance c student metric reply picks turn := by
  unfold advance
  split
  · exact List.prefix_refl picks
  · exact List.prefix_append picks _

/-- A spent turn does nothing. -/
theorem advance_of_spent (h : Spent c student metric reply picks turn) :
    advance c student metric reply picks turn = picks := by
  unfold advance
  rcases h with hfull | hpicked | hnone
  · rw [hfull, Bool.true_or, if_pos rfl]
  · rw [hpicked, Bool.or_true, if_pos rfl]
  · rw [hnone, Option.toList_none, List.append_nil, ite_self]

/-- **A turn that was taken is spent.** -/
theorem spent_advance (c : Bootstrap) (student : Program) (metric : Metric) (reply : String → Answer)
    (picks : List Pick) (turn : Turn) :
    Spent c student metric reply (advance c student metric reply picks turn) turn := by
  by_cases hspent : Spent c student metric reply picks turn
  · rwa [advance_of_spent hspent]
  · obtain ⟨hroom, hnew, hoffer⟩ : c.isFull picks = false ∧ isPicked picks turn.position = false ∧
        offer c student metric reply turn ≠ none := by
      simpa [Spent] using hspent
    obtain ⟨pick, hpick⟩ := Option.ne_none_iff_exists'.1 hoffer
    apply Or.inr
    apply Or.inl
    have hadvance : advance c student metric reply picks turn = picks ++ [pick] := by
      simp [advance, hroom, hnew, hpick]
    rw [hadvance, isPicked_iff]
    simp [offer_position hpick]

/-- A spent turn stays spent. -/
theorem Spent.mono {more : List Pick} (h : Spent c student metric reply picks turn) (hmore : picks <+: more) :
    Spent c student metric reply more turn := by
  obtain ⟨rest, rfl⟩ := hmore
  rcases h with hfull | hpicked | hnone
  · apply Or.inl
    simp only [isFull, decide_eq_true_eq, List.length_append] at hfull ⊢
    omega
  · apply Or.inr
    apply Or.inl
    rw [isPicked_iff] at hpicked ⊢
    rw [List.map_append]
    exact List.mem_append_left _ hpicked
  · exact Or.inr (Or.inr hnone)

/-- Turns in a row only add to what was accepted. -/
theorem prefix_foldl (turns : List Turn) :
    ∀ picks : List Pick, picks <+: turns.foldl (advance c student metric reply) picks := by
  induction turns with
  | nil =>
    intro picks
    exact List.prefix_refl picks
  | cons turn turns ih =>
    intro picks
    exact (prefix_advance c student metric reply picks turn).trans (ih _)

/-- **All turns are spent behind them.** -/
theorem spent_foldl (turns : List Turn) : ∀ (picks : List Pick), ∀ turn ∈ turns,
    Spent c student metric reply (turns.foldl (advance c student metric reply) picks) turn := by
  induction turns with
  | nil =>
    intro picks turn hturn
    cases hturn
  | cons first turns ih =>
    intro picks turn hturn
    rcases List.mem_cons.1 hturn with rfl | hturn
    · -- the turns behind the first one only add to what it left
      exact (spent_advance c student metric reply picks turn).mono (prefix_foldl turns _)
    · exact ih _ turn hturn

/-- Spent turns in a row do nothing. -/
theorem foldl_of_spent {turns : List Turn} (h : ∀ turn ∈ turns, Spent c student metric reply picks turn) :
    turns.foldl (advance c student metric reply) picks = picks := by
  induction turns with
  | nil => rfl
  | cons turn turns ih =>
    rw [List.foldl_cons, advance_of_spent (h turn List.mem_cons_self)]
    exact ih fun next hnext => h next (List.mem_cons_of_mem turn hnext)

end Spent

/-! ## Rounds -/

section Rounds

variable (c : Bootstrap) (student : Program) (metric : Metric) (reply : String → Answer) (samples : List Sample)

/-- **Behind one round every sample is spent**, in whatever round its turn is. -/
theorem spent_round {turn : Turn} (h : samples[turn.position]? = some turn.sample) :
    Spent c student metric reply (walk c student metric reply (turnsOf samples 0)) turn := by
  have hmem : (⟨0, turn.position, turn.sample⟩ : Turn) ∈ turnsOf samples 0 :=
    List.mem_map.2 ⟨(turn.sample, turn.position), List.mk_mem_zipIdx_iff_getElem?.2 h, rfl⟩
  have hspent : Spent c student metric reply (walk c student metric reply (turnsOf samples 0))
      ⟨0, turn.position, turn.sample⟩ := spent_foldl _ [] _ hmem
  -- the round of a turn is not looked at
  exact hspent

/-- **Further rounds accept nothing.** -/
theorem walk_schedule (left : Nat) :
    walk c student metric reply (schedule samples (left + 1) 0) = walk c student metric reply (turnsOf samples 0) := by
  rw [schedule, walk, List.foldl_append]
  apply foldl_of_spent
  intro turn hturn
  obtain ⟨-, -, hsample⟩ := mem_schedule hturn
  exact spent_round c student metric reply samples hsample

end Rounds

/-- **Further rounds are harmless**: over a steady backend every number of them gives the program of one. -/
theorem compile_rounds {B : Backend σ} {reply : String → Answer} (hB : B.Steady reply holds) (c : Bootstrap)
    (student : Detector) (metric : Metric) {samples : List Sample} (h : samples ≠ []) {rounds : Nat}
    (hrounds : 1 ≤ rounds) {run run' : Run σ} (hrun : holds run.backend) (hrun' : holds run'.backend) :
    ∃ program, ({ c with rounds }.compile B student samples metric run).1 = .ok program ∧
      ({ c with rounds := 1 }.compile B student samples metric run').1 = .ok program := by
  obtain ⟨left, rfl⟩ := Nat.exists_eq_add_of_le' hrounds
  obtain ⟨hmany, -⟩ := compile_settled hB { c with rounds := left + 1 } student metric h run ⟨hrun, rfl⟩
  obtain ⟨hone, -⟩ := compile_settled hB { c with rounds := 1 } student metric h run' ⟨hrun', rfl⟩
  rw [walk_schedule] at hmany hone
  exact ⟨_, hmany, hone⟩

/-- Three rounds with a script that fails for one snippet, against one round of a script that was asked before. -/
theorem compile_rounds_scripted :
    let script : Script :=
      ⟨[("strcpy", .fail "down")], fun _ => none, [], some (Script.markedReply "False" "\x7b\"bugs\": []\x7d"), []⟩
    let samples := [Sample.buggy "strcpy(a, b);" "C.3" "Overflow", Sample.clean "x", Sample.clean "x"]
    let student := Detector.base .hierarchical
    let run := Run.start script .empty
    let run' := Run.start { script with prompts := ["x"] } .empty
    Script.backend.Steady script.standing script.Standing ∧ samples ≠ [] ∧ 1 ≤ 3 ∧ script.Standing run.backend ∧
    script.Standing run'.backend ∧
    ∃ program, ({ ofDemos 2 1 with rounds := 3 }.compile Script.backend student samples Grade.standard run).1 =
        .ok program ∧
      ({ ofDemos 2 1 with rounds := 1 }.compile Script.backend student samples Grade.standard run').1 =
        .ok program := by
  intro script samples student run run'
  have hsteady := script.backend_steady
  have hne : samples ≠ [] := List.cons_ne_nil _ _
  have hrun : script.Standing run.backend := ⟨[], rfl⟩
  have hrun' : script.Standing run'.backend := ⟨["x"], rfl⟩
  refine ⟨hsteady, hne, by decide, hrun, hrun', ?_⟩
  exact compile_rounds hsteady (ofDemos 2 1) student Grade.standard hne (by decide) hrun hrun'

end SnippetAudit.Bootstrap
