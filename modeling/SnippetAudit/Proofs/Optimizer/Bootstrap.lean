import SnippetAudit.Backend.Script
import SnippetAudit.Optimizer.Bootstrap
import SnippetAudit.Proofs.Backend.Logged
import Mathlib.Data.List.Basic
import Mathlib.Data.List.Nodup

/-!
# The history of bootstrapped demos

What a run of the bootstrap does, told from the log of its calls.

- The rounds are one walk over a schedule: every sample has its turn in every round (`runRounds_eq_foldlM`).
- A turn is a call when it is due, and nothing otherwise (`take_logged`); turns in a row leave tries behind, one for
  each call (`Follows`, `foldlM_take_logged`).
- What the schedule and the rule of the turns give: tries stand in order, none is of a sample accepted before, and
  there are enough demos at no call (`Follows.sublist`, `Follows.due`, `Follows.sound`).
- The labels fill the room that is left with samples that were not accepted (`length_others`, `length_fill`).
- A run is its tries and the program made of them (`compile_demos`).
-/

namespace SnippetAudit.Bootstrap

variable {σ τ : Type}

/-! ## The schedule -/

/-- The turn of a sample in a round. -/
structure Turn where
  round : Nat
  position : Nat
  sample : Sample

/-- A turn comes before another one: in an earlier round, or in the same round at an earlier position. -/
def Turn.Before (t u : Turn) : Prop := t.round < u.round ∨ (t.round = u.round ∧ t.position < u.position)

/-- The turns of one round. -/
def turnsOf (samples : List Sample) (round : Nat) : List Turn :=
  samples.zipIdx.map fun (s, position) => ⟨round, position, s⟩

/-- The turns of `left` rounds, the first of them numbered `round`. -/
def schedule (samples : List Sample) : (left round : Nat) → List Turn
  | 0, _ => []
  | left + 1, round => turnsOf samples round ++ schedule samples left (round + 1)

section Schedule

variable {samples : List Sample}

theorem mem_turnsOf {round : Nat} {t : Turn} (h : t ∈ turnsOf samples round) :
    t.round = round ∧ samples[t.position]? = some t.sample := by
  obtain ⟨⟨s, position⟩, hmem, rfl⟩ := List.mem_map.1 h
  exact ⟨rfl, List.mk_mem_zipIdx_iff_getElem?.1 hmem⟩

/-- A turn is of one of the rounds, and of the sample at its position. -/
theorem mem_schedule {left : Nat} : ∀ {round : Nat} {t : Turn}, t ∈ schedule samples left round →
    round ≤ t.round ∧ t.round < round + left ∧ samples[t.position]? = some t.sample := by
  induction left with
  | zero =>
    intro round t h
    cases h
  | succ left ih =>
    intro round t h
    rcases List.mem_append.1 h with h | h
    · obtain ⟨hround, hsample⟩ := mem_turnsOf h
      exact ⟨by omega, by omega, hsample⟩
    · obtain ⟨hle, hlt, hsample⟩ := ih h
      exact ⟨by omega, by omega, hsample⟩

theorem length_schedule (samples : List Sample) (left : Nat) :
    ∀ round, (schedule samples left round).length = left * samples.length := by
  induction left with
  | zero =>
    intro round
    rw [Nat.zero_mul]
    rfl
  | succ left ih =>
    intro round
    have hturns : (turnsOf samples round).length = samples.length := by simp [turnsOf]
    rw [schedule, List.length_append, hturns, ih, Nat.succ_mul, Nat.add_comm]

theorem turnsOf_pairwise (samples : List Sample) (round : Nat) : (turnsOf samples round).Pairwise Turn.Before := by
  have hindices : samples.zipIdx.Pairwise fun a b => a.2 < b.2 := by
    rw [← List.pairwise_map, List.zipIdx_map_snd]
    exact List.pairwise_lt_range'
  refine List.pairwise_map.2 (hindices.imp ?_)
  intro a b hab
  exact Or.inr ⟨rfl, hab⟩

/-- **The turns stand in order.** -/
theorem schedule_pairwise (samples : List Sample) (left : Nat) :
    ∀ round, (schedule samples left round).Pairwise Turn.Before := by
  induction left with
  | zero =>
    intro round
    exact List.Pairwise.nil
  | succ left ih =>
    intro round
    refine List.pairwise_append.2 ⟨turnsOf_pairwise samples round, ih (round + 1), ?_⟩
    intro t ht u hu
    have hround := (mem_turnsOf ht).1
    have hlater := (mem_schedule hu).1
    exact Or.inl (by omega)

end Schedule

/-! ## Tries -/

/-- A call for a verdict: the prompt, and the answer to it. -/
abbrev Call := String × Answer

/-- A turn that was taken, with the answer it got. -/
structure Try where
  turn : Turn
  answer : Answer

/-- The call of a try. -/
def Try.call (student : Program) (t : Try) : Call := (student.render t.turn.sample.snippet, t.answer)

/-- What a try is accepted as. -/
def Try.pick? (c : Bootstrap) (metric : Metric) (t : Try) : Option Pick :=
  match Detector.outcome t.answer with
  | .error _ => none
  | .ok v =>
    if c.threshold ≤ (metric t.turn.sample v).score then some ⟨t.turn.position, verdictDemo t.turn.sample v⟩ else none

/-- What is accepted of some tries, in their order. -/
def accepted (c : Bootstrap) (metric : Metric) (tries : List Try) : List Pick := tries.filterMap (Try.pick? c metric)

/-- The turn is to be taken behind some tries: there are not enough demos, and none of this position. -/
def Due (c : Bootstrap) (metric : Metric) (before : List Try) (turn : Turn) : Prop :=
  (accepted c metric before).length < c.maxBootstrapped ∧ turn.position ∉ (accepted c metric before).map Pick.position

/-- The tries that some turns leave behind `before`: one for each turn that is due when it comes. -/
def Follows (c : Bootstrap) (metric : Metric) : List Try → List Turn → List Try → Prop
  | _, [], tries => tries = []
  | before, turn :: turns, tries =>
    (Due c metric before turn ∧ ∃ answer rest, tries = ⟨turn, answer⟩ :: rest ∧
      Follows c metric (before ++ [⟨turn, answer⟩]) turns rest) ∨
    (¬Due c metric before turn ∧ Follows c metric before turns tries)

section Tries

variable {c : Bootstrap} {metric : Metric}

theorem accepted_append (before tries : List Try) :
    accepted c metric (before ++ tries) = accepted c metric before ++ accepted c metric tries :=
  List.filterMap_append

/-- **What is accepted was earned**: the verdict of its try has the score that is asked for. -/
theorem Try.pick?_eq_some {t : Try} {pick : Pick} (h : t.pick? c metric = some pick) : ∃ v : Verdict,
    Detector.outcome t.answer = .ok v ∧ c.threshold ≤ (metric t.turn.sample v).score ∧
      pick = ⟨t.turn.position, ⟨t.turn.sample.snippet, v.hasBug, v.findings.json.compact⟩⟩ := by
  unfold pick? at h
  split at h
  · cases h
  · next v hv =>
    split at h
    · next hscore =>
      cases h
      exact ⟨v, hv, hscore, rfl⟩
    · cases h

/-- The tries are of turns of the schedule, in its order. -/
theorem Follows.sublist {turns : List Turn} : ∀ {before tries : List Try}, Follows c metric before turns tries →
    (tries.map Try.turn).Sublist turns := by
  induction turns with
  | nil =>
    intro before tries h
    obtain rfl : tries = [] := h
    exact List.Sublist.refl _
  | cons turn turns ih =>
    intro before tries h
    rcases h with ⟨-, answer, rest, rfl, hrest⟩ | ⟨-, hrest⟩
    · exact (ih hrest).cons_cons turn
    · exact (ih hrest).cons turn

/-- **No try but when it was due.** -/
theorem Follows.due {turns : List Turn} : ∀ {before tries : List Try}, Follows c metric before turns tries →
    ∀ {earlier later : List Try} {t : Try}, tries = earlier ++ t :: later →
      Due c metric (before ++ earlier) t.turn := by
  induction turns with
  | nil =>
    intro before tries h earlier later t heq
    obtain rfl : tries = [] := h
    exact absurd heq.symm (List.append_ne_nil_of_right_ne_nil _ (List.cons_ne_nil _ _))
  | cons turn turns ih =>
    intro before tries h earlier later t heq
    rcases h with ⟨hdue, answer, rest, rfl, hrest⟩ | ⟨-, hrest⟩
    · cases earlier with
      | nil =>
        obtain ⟨rfl, -⟩ := List.cons.inj heq
        rwa [List.append_nil]
      | cons first earlier =>
        obtain ⟨rfl, htail⟩ := List.cons.inj heq
        have hlater := ih hrest htail
        rwa [List.append_assoc] at hlater
    · exact ih hrest heq

/-- What is accepted so far: as many as there may be, each at a position of its own. -/
structure Sound (c : Bootstrap) (picks : List Pick) : Prop where
  length_le : picks.length ≤ c.maxBootstrapped
  nodup : (picks.map Pick.position).Nodup

/-- A try that was due keeps this. -/
theorem Sound.step {before : List Try} {t : Try} (h : Sound c (accepted c metric before))
    (hdue : Due c metric before t.turn) : Sound c (accepted c metric (before ++ [t])) := by
  obtain ⟨hroom, hnew⟩ := hdue
  rw [accepted_append]
  cases hpick : t.pick? c metric with
  | none =>
    have hnone : accepted c metric [t] = [] := List.filterMap_cons_none hpick
    rwa [hnone, List.append_nil]
  | some pick =>
    have hsome : accepted c metric [t] = [pick] := List.filterMap_cons_some hpick
    obtain ⟨v, -, -, rfl⟩ := Try.pick?_eq_some hpick
    rw [hsome]
    constructor
    · rw [List.length_append, List.length_singleton]
      omega
    · rw [List.map_append, List.map_singleton, ← List.concat_eq_append]
      exact h.nodup.concat hnew

/-- **At most as many demos as there may be, and none of a position twice.** -/
theorem Follows.sound {turns : List Turn} : ∀ {before tries : List Try}, Follows c metric before turns tries →
    Sound c (accepted c metric before) → Sound c (accepted c metric (before ++ tries)) := by
  induction turns with
  | nil =>
    intro before tries h hsound
    obtain rfl : tries = [] := h
    rwa [List.append_nil]
  | cons turn turns ih =>
    intro before tries h hsound
    rcases h with ⟨hdue, answer, rest, rfl, hrest⟩ | ⟨-, hrest⟩
    · have hnext := ih hrest (hsound.step hdue)
      rwa [List.append_assoc] at hnext
    · exact ih hrest hsound

end Tries

/-! ## Turns that are taken -/

/-- Takes a turn, if it is due. -/
def take (B : Backend σ) (c : Bootstrap) (student : Detector) (metric : Metric) (picks : List Pick) (turn : Turn) :
    Audit σ (List Pick) :=
  c.visit B student metric turn.round picks turn.sample turn.position

section Take

variable {c : Bootstrap} {metric : Metric}

/-- Nothing is done where there are enough demos. -/
theorem foldlM_take_full (B : Backend σ) (student : Detector) {picks : List Pick} (h : c.isFull picks = true)
    (turns : List Turn) : turns.foldlM (take B c student metric) picks = pure picks := by
  induction turns with
  | nil => rfl
  | cons turn turns ih =>
    have htake : take B c student metric picks turn = pure picks := by
      unfold take visit
      rw [h, Bool.true_or, if_pos rfl]
    rw [List.foldlM_cons, htake, pure_bind, ih]

/-- **The rounds are one walk over the schedule.** -/
theorem runRounds_eq_foldlM (B : Backend σ) (student : Detector) (samples : List Sample) (left : Nat) :
    ∀ (round : Nat) (picks : List Pick), c.runRounds B student metric samples left round picks =
      (schedule samples left round).foldlM (take B c student metric) picks := by
  induction left with
  | zero =>
    intro round picks
    rfl
  | succ left ih =>
    intro round picks
    unfold runRounds
    -- a round that is left out once there are enough demos would not do anything
    by_cases hfull : c.isFull picks = true
    · rw [if_pos hfull, foldlM_take_full B student hfull]
    · have hround : c.runRound B student metric samples round picks =
          (turnsOf samples round).foldlM (take B c student metric) picks := by
        rw [turnsOf, List.foldlM_map]
        rfl
      rw [if_neg hfull, schedule, List.foldlM_append, hround]
      exact bind_congr fun picks => ih (round + 1) picks

theorem isPicked_iff {picks : List Pick} {position : Nat} :
    isPicked picks position = true ↔ position ∈ picks.map Pick.position := by
  simp [isPicked]

/-- The test that the turns are taken by. -/
theorem due_iff {before : List Try} {turn : Turn} : Due c metric before turn ↔
    ¬(c.isFull (accepted c metric before) || isPicked (accepted c metric before) turn.position) = true := by
  rw [Bool.or_eq_true, isPicked_iff, not_or, isFull, decide_eq_true_eq, Nat.not_le]
  rfl

theorem take_not_due (B : Backend σ) (student : Detector) {before : List Try} {turn : Turn}
    (h : ¬Due c metric before turn) :
    take B c student metric (accepted c metric before) turn = pure (accepted c metric before) := by
  rw [due_iff, not_not] at h
  unfold take visit
  rw [if_pos h]

/-- **A turn that is due is a call.** -/
theorem take_logged (B : Backend σ) (student : Detector) {before : List Try} {turn : Turn}
    (h : Due c metric before turn) (run : Run (σ × List Call)) : ∃ answer,
      (take (B.logged Prod.mk) c student metric (accepted c metric before) turn run).1 =
        accepted c metric (before ++ [⟨turn, answer⟩]) ∧
      (take (B.logged Prod.mk) c student metric (accepted c metric before) turn run).2.log =
        run.log ++ [Try.call student.program ⟨turn, answer⟩] := by
  obtain ⟨answer, houtcome, hlog⟩ := student.detect_logged Prod.mk B turn.sample.snippet run
  refine ⟨answer, ?_⟩
  rw [due_iff] at h
  rw [accepted_append]
  unfold take visit
  rw [if_neg h, Audit.bind_apply, houtcome]
  cases hverdict : Detector.outcome answer with
  | error e =>
    have hpick : Try.pick? c metric ⟨turn, answer⟩ = none := by simp only [Try.pick?, hverdict]
    have hnone : accepted c metric [⟨turn, answer⟩] = [] := List.filterMap_cons_none hpick
    rw [hnone, List.append_nil]
    exact ⟨rfl, hlog⟩
  | ok v =>
    by_cases hscore : c.threshold ≤ (metric turn.sample v).score
    · have hpick : Try.pick? c metric ⟨turn, answer⟩ = some ⟨turn.position, verdictDemo turn.sample v⟩ := by
        simp only [Try.pick?, hverdict, if_pos hscore]
      have hsome : accepted c metric [⟨turn, answer⟩] = [⟨turn.position, verdictDemo turn.sample v⟩] :=
        List.filterMap_cons_some hpick
      rw [hsome]
      simp only [if_pos hscore]
      exact ⟨rfl, hlog⟩
    · have hpick : Try.pick? c metric ⟨turn, answer⟩ = none := by
        simp only [Try.pick?, hverdict, if_neg hscore]
      have hnone : accepted c metric [⟨turn, answer⟩] = [] := List.filterMap_cons_none hpick
      rw [hnone, List.append_nil]
      simp only [if_neg hscore]
      exact ⟨rfl, hlog⟩

/-- **Turns in a row leave their tries behind.** -/
theorem foldlM_take_logged (B : Backend σ) (c : Bootstrap) (student : Detector) (metric : Metric) (turns : List Turn) :
    ∀ (before : List Try) (run : Run (σ × List Call)), ∃ tries : List Try, Follows c metric before turns tries ∧
      (turns.foldlM (take (B.logged Prod.mk) c student metric) (accepted c metric before) run).1 =
        accepted c metric (before ++ tries) ∧
      (turns.foldlM (take (B.logged Prod.mk) c student metric) (accepted c metric before) run).2.log =
        run.log ++ tries.map (Try.call student.program) := by
  induction turns with
  | nil =>
    intro before run
    exact ⟨[], rfl, by simp [Audit.pure_apply], by simp [Audit.pure_apply]⟩
  | cons turn turns ih =>
    intro before run
    rw [List.foldlM_cons, Audit.bind_apply]
    by_cases hdue : Due c metric before turn
    · obtain ⟨answer, hpicks, hlog⟩ := take_logged B student hdue run
      obtain ⟨tries, hfollows, hresult, hlogs⟩ := ih (before ++ [⟨turn, answer⟩])
        (take (B.logged Prod.mk) c student metric (accepted c metric before) turn run).2
      refine ⟨⟨turn, answer⟩ :: tries, Or.inl ⟨hdue, answer, tries, rfl, hfollows⟩, ?_, ?_⟩
      · rw [hpicks, hresult, List.append_assoc]
        rfl
      · rw [hpicks, hlogs, hlog, List.append_assoc]
        rfl
    · obtain ⟨tries, hfollows, hresult, hlogs⟩ := ih before run
      rw [take_not_due _ student hdue, Audit.pure_apply]
      exact ⟨tries, Or.inr ⟨hdue, hfollows⟩, hresult, hlogs⟩

/-- Turns from the start of a run leave all tries behind that there are. -/
theorem foldlM_take_unlogged (B : Backend σ) (c : Bootstrap) (student : Detector) (metric : Metric)
    (turns : List Turn) (run : Run σ) : ∃ tries : List Try, Follows c metric [] turns tries ∧
      (turns.foldlM (take (B.logged Prod.mk) c student metric) [] run.unlogged).1 = accepted c metric tries ∧
      (turns.foldlM (take (B.logged Prod.mk) c student metric) [] run.unlogged).2.log =
        tries.map (Try.call student.program) := by
  obtain ⟨tries, hfollows, hpicks, hlog⟩ := foldlM_take_logged B c student metric turns [] run.unlogged
  have hnil : accepted c metric [] = [] := rfl
  rw [hnil, List.nil_append] at hpicks
  rw [hnil, Run.log_unlogged, List.nil_append] at hlog
  exact ⟨tries, hfollows, hpicks, hlog⟩

end Take

/-! ## Labels -/

section Labels

variable {c : Bootstrap} {samples : List Sample} {picks : List Pick}

/-- The samples at positions that were not accepted, with their positions. -/
def others (samples : List Sample) (picks : List Pick) : List (Sample × Nat) :=
  samples.zipIdx.filter fun (_, position) => position ∉ picks.map Pick.position

theorem fill_eq (c : Bootstrap) (samples : List Sample) (picks : List Pick) :
    c.fill samples picks = ((others samples picks).take (c.maxLabeled - picks.length)).map fun (s, _) =>
      ⟨s.snippet, s.hasBug, s.details⟩ := by
  have hothers : (samples.zipIdx.filter fun (_, position) => !isPicked picks position) = others samples picks := by
    refine List.filter_congr fun (_, position) _ => ?_
    rw [Bool.eq_iff_iff, Bool.not_eq_true', decide_eq_true_eq, ← isPicked_iff, Bool.not_eq_true]
  rw [fill, hothers]
  rfl

/-- Every position is accepted once, or left. -/
theorem length_others (hnodup : (picks.map Pick.position).Nodup)
    (hbound : ∀ pick ∈ picks, pick.position < samples.length) :
    (others samples picks).length = samples.length - picks.length := by
  -- the accepted positions are some of all positions, in another order
  have hpositions : ((List.range samples.length).filter (· ∈ picks.map Pick.position)).Perm
      (picks.map Pick.position) := by
    refine (List.perm_ext_iff_of_nodup (List.nodup_range.filter _) hnodup).2 fun position => ?_
    rw [List.mem_filter, List.mem_range, decide_eq_true_eq]
    refine ⟨And.right, fun h => ⟨?_, h⟩⟩
    obtain ⟨pick, hpick, rfl⟩ := List.mem_map.1 h
    exact hbound pick hpick
  have hothers : (others samples picks).map Prod.snd =
      (List.range samples.length).filter fun position => position ∉ picks.map Pick.position := by
    have hindices : samples.zipIdx.map Prod.snd = List.range samples.length := by
      rw [List.zipIdx_map_snd, List.range_eq_range']
    rw [← hindices, List.filter_map]
    rfl
  have hsplit := List.length_eq_length_filter_add (l := List.range samples.length) (· ∈ picks.map Pick.position)
  rw [List.length_range, hpositions.length_eq, List.length_map] at hsplit
  rw [← List.length_map (f := Prod.snd), hothers]
  simp only [decide_not]
  omega

/-- The labels are as many as there is room for, or as are left. -/
theorem length_fill (hnodup : (picks.map Pick.position).Nodup)
    (hbound : ∀ pick ∈ picks, pick.position < samples.length) :
    (c.fill samples picks).length = min (c.maxLabeled - picks.length) (samples.length - picks.length) := by
  rw [fill_eq, List.length_map, List.length_take, length_others hnodup hbound]

end Labels

/-! ## Without a log -/

section Over

variable {f : τ → σ} {B' : Backend τ} {B : Backend σ}

theorem take_over (hB : B'.Over f B) (c : Bootstrap) (student : Detector) (metric : Metric) (picks : List Pick)
    (turn : Turn) : Audit.Over f (take B' c student metric picks turn) (take B c student metric picks turn) := by
  unfold take visit
  by_cases hskip : (c.isFull picks || isPicked picks turn.position) = true
  · simp only [if_pos hskip]
    exact .pure picks
  · simp only [if_neg hskip]
    refine (Detector.detect_over hB student turn.sample.snippet).bind fun outcome => ?_
    cases outcome with
    | error e => exact .pure picks
    | ok v =>
      by_cases hscore : c.threshold ≤ (metric turn.sample v).score
      · simp only [if_pos hscore]
        exact (Audit.Over.emit _).bind fun _ => .pure _
      · simp only [if_neg hscore]
        exact .pure picks

/-- **A run is the same over another backend state.** -/
theorem compile_over (hB : B'.Over f B) (c : Bootstrap) (student : Detector) (samples : List Sample)
    (metric : Metric) : Audit.Over f (compile B' c student samples metric) (compile B c student samples metric) := by
  unfold compile
  by_cases h : samples.isEmpty = true
  · simp only [if_pos h]
    exact .pure _
  · simp only [if_neg h, runRounds_eq_foldlM]
    exact (Audit.Over.foldlM (take_over hB c student metric) _ _).bind fun picks => .pure _

end Over

/-! ## The whole run -/

/-- What a run from a student's program comes to, as its log tells: its tries, and the program made of them. -/
structure History (c : Bootstrap) (samples : List Sample) (metric : Metric) (student : Program) (log : List Call)
    (tries : List Try) (program : Program) : Prop where
  /-- The calls are those of the tries. -/
  log_eq : log = tries.map (Try.call student)
  /-- Every turn of the schedule is tried when it is due, and no other is. -/
  follows : Follows c metric [] (schedule samples c.rounds 0) tries
  /-- The tries come by rounds, and in a round by positions. -/
  ordered : (tries.map Try.turn).Pairwise Turn.Before
  /-- They are of samples at their positions, in the rounds there are. -/
  placed : ∀ t ∈ tries, t.turn.round < c.rounds ∧ samples[t.turn.position]? = some t.turn.sample
  /-- There is no try once there are enough demos, and none of a position that was accepted. -/
  due : ∀ earlier later t, tries = earlier ++ t :: later →
    (accepted c metric earlier).length < c.maxBootstrapped ∧
      t.turn.position ∉ (accepted c metric earlier).map Pick.position
  tries_le : tries.length ≤ c.rounds * samples.length
  /-- What is accepted is a demo of its sample, with a verdict of the score that is asked for. -/
  earned : ∀ pick ∈ accepted c metric tries, ∃ t ∈ tries, ∃ v : Verdict,
    Detector.outcome t.answer = .ok v ∧ c.threshold ≤ (metric t.turn.sample v).score ∧
      pick = ⟨t.turn.position, ⟨t.turn.sample.snippet, v.hasBug, v.findings.json.compact⟩⟩
  accepted_le : (accepted c metric tries).length ≤ c.maxBootstrapped
  /-- No position is accepted twice. -/
  distinct : ((accepted c metric tries).map Pick.position).Nodup
  /-- The program is the student's, with the demos accepted and then the labels of the first other samples. -/
  program_eq : program = { student with
    demos := (accepted c metric tries).map Pick.demo ++
      ((others samples (accepted c metric tries)).take (c.maxLabeled - (accepted c metric tries).length)).map
        fun (s, _) => ⟨s.snippet, s.hasBug, s.details⟩ }
  length_demos : program.demos.length = (accepted c metric tries).length +
    min (c.maxLabeled - (accepted c metric tries).length) (samples.length - (accepted c metric tries).length)

/-- The history of tries that follow the schedule. -/
theorem Follows.history {c : Bootstrap} {samples : List Sample} {metric : Metric} {tries : List Try}
    (h : Follows c metric [] (schedule samples c.rounds 0) tries) (student : Program) :
    History c samples metric student (tries.map (Try.call student)) tries
      { student with demos := c.demos samples (accepted c metric tries) } := by
  have hplaced : ∀ t ∈ tries, t.turn.round < c.rounds ∧ samples[t.turn.position]? = some t.turn.sample := by
    intro t ht
    obtain ⟨-, hround, hsample⟩ := mem_schedule (h.sublist.subset (List.mem_map_of_mem ht))
    exact ⟨by omega, hsample⟩
  have hearned : ∀ pick ∈ accepted c metric tries, ∃ t ∈ tries, ∃ v : Verdict,
      Detector.outcome t.answer = .ok v ∧ c.threshold ≤ (metric t.turn.sample v).score ∧
        pick = ⟨t.turn.position, ⟨t.turn.sample.snippet, v.hasBug, v.findings.json.compact⟩⟩ := by
    intro pick hpick
    obtain ⟨t, ht, hpick⟩ := List.mem_filterMap.1 hpick
    exact ⟨t, ht, Try.pick?_eq_some hpick⟩
  have hbound : ∀ pick ∈ accepted c metric tries, pick.position < samples.length := by
    intro pick hpick
    obtain ⟨t, ht, v, -, -, rfl⟩ := hearned pick hpick
    exact (List.getElem?_eq_some_iff.1 (hplaced t ht).2).1
  have hsound : Sound c (accepted c metric tries) := h.sound ⟨Nat.zero_le _, List.nodup_nil⟩
  exact
    { log_eq := rfl
      follows := h
      ordered := (schedule_pairwise samples c.rounds 0).sublist h.sublist
      placed := hplaced
      due := fun _ _ _ heq => h.due heq
      tries_le := by
        have hle := h.sublist.length_le
        rwa [List.length_map, length_schedule] at hle
      earned := hearned
      accepted_le := hsound.length_le
      distinct := hsound.nodup
      program_eq := by rw [demos, fill_eq]
      length_demos := by
        show (c.demos samples (accepted c metric tries)).length = _
        rw [demos, List.length_append, List.length_map, length_fill hsound.nodup hbound] }

/-- A run is a walk over the schedule. -/
theorem compile_apply (B : Backend σ) (c : Bootstrap) (student : Detector) {samples : List Sample} (metric : Metric)
    (run : Run σ) (h : samples ≠ []) :
    c.compile B student samples metric run =
      let found := (schedule samples c.rounds 0).foldlM (take B c student metric) [] run
      (.ok { student.program with demos := c.demos samples found.1 }, found.2) := by
  have hempty : ¬samples.isEmpty = true := by simpa using h
  unfold compile
  rw [if_neg hempty, runRounds_eq_foldlM]
  rfl

/-- **The shape of a bootstrapped program.** The backend may fail, and may change with every prompt. -/
theorem compile_demos (B : Backend σ) (c : Bootstrap) (student : Detector) {samples : List Sample} (metric : Metric)
    (run : Run σ) (h : samples ≠ []) : ∃ (tries : List Try) (program : Program),
      (c.compile B student samples metric run).1 = .ok program ∧
      History c samples metric student.program
        (c.compile (B.logged Prod.mk) student samples metric run.unlogged).2.log tries program := by
  have hover := compile_over (B.logged_over Prod.mk) c student samples metric (run.unlogged : Run (σ × List Call))
  rw [Run.map_fst_unlogged, compile_apply _ c student metric run.unlogged h] at hover
  rw [hover, compile_apply _ c student metric run.unlogged h]
  obtain ⟨tries, hfollows, hpicks, hlog⟩ := foldlM_take_logged B c student metric
    (schedule samples c.rounds 0) [] run.unlogged
  have hnil : accepted c metric [] = [] := rfl
  rw [hnil, List.nil_append] at hpicks
  rw [hnil, Run.log_unlogged, List.nil_append] at hlog
  refine ⟨tries, _, rfl, ?_⟩
  simp only [hpicks, hlog]
  exact hfollows.history student.program

/-- A run over two rounds with a backend that fails once; a sample is tried again until it is accepted. -/
theorem compile_demos_scripted : [Sample.clean "x", Sample.buggy "y" "C.1" "Overflow"] ≠ [] ∧
    let samples := [Sample.clean "x", Sample.buggy "y" "C.1" "Overflow"]
    let student := Detector.base .hierarchical
    let run := Run.start ⟨[], fun _ => none, [.fail "down"], some (Script.markedReply "False" "[]"), []⟩ .empty
    ∃ (tries : List Try) (program : Program),
      (compile Script.backend (ofDemos 1 2) student samples Grade.standard run).1 = .ok program ∧
      History (ofDemos 1 2) samples Grade.standard student.program
        (compile (Script.backend.logged Prod.mk) (ofDemos 1 2) student samples Grade.standard run.unlogged).2.log
        tries program :=
  ⟨by decide, compile_demos _ _ _ _ _ (by decide)⟩

end SnippetAudit.Bootstrap
