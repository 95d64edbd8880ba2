import SnippetAudit.Backend.Script
import SnippetAudit.Optimizer.Reflective
import SnippetAudit.Proofs.Backend.Logged
import SnippetAudit.Proofs.Prompt.Shown

/-!
# The history of better instructions

What a run of reflective optimization does, told from the log of its calls.

- One pass of a program over the samples makes one call for each of them, and its score is a function of the answers
  (`score_logged`): the average of the points, and the samples that lost any (`Pass.measures`).
- One round is a request, and a pass when something was proposed (`Turn`, `runRound_logged`).
- The rounds follow each other: each starts from the best program that the one before it left (`Linked`,
  `runRounds_logged`).
- A run is a first pass and the rounds behind it (`compile_history`): the best program, its average and its lost
  samples are of one pass, that of the student or of the last proposal that was better. They are what the request of the
  next round shows (`Turn.shows`).
-/

namespace SnippetAudit.Reflective

variable {σ τ : Type}

/-! ## Passes -/

/-- A call for a verdict, or for better instructions. -/
inductive Call where
  | detection (prompt : String) (answer : Answer)
  | reflection (prompt : String) (answer : Answer)

/-- The prompt of a request for better instructions. -/
def Call.request? : Call → Option String
  | .detection _ _ => none
  | .reflection prompt _ => some prompt

/-- The prompt of a detection. -/
def Call.detection? : Call → Option String
  | .detection prompt _ => some prompt
  | .reflection _ _ => none

/-- A program with the answers it got, one for each sample. -/
structure Pass where
  program : Program
  answers : List Answer

/-- The calls of a pass. -/
def Pass.calls (samples : List Sample) (pass : Pass) : List Call :=
  (samples.zip pass.answers).map fun (s, answer) => .detection (pass.program.render s.snippet) answer

/-- A tally with some more samples. -/
def Tally.extend (metric : Metric) (tally : Tally) (samples : List Sample) (answers : List Answer) : Tally :=
  (samples.zip answers).foldl (fun tally (s, answer) => tally.add metric s (Detector.outcome answer)) tally

/-- What a pass measures. -/
def Pass.best (samples : List Sample) (metric : Metric) (pass : Pass) : Best :=
  Best.ofTally pass.program samples (Tally.extend metric ⟨0.0, []⟩ samples pass.answers)

/-! ### What a pass measures -/

/-- The points of a verdict; a failure has none. -/
def points? (metric : Metric) (s : Sample) (r : Except Failure Verdict) : Option Float :=
  r.toOption.map fun v => (metric s v).score

/-- What is lost: a verdict without the full score, or a verdict that did not come. -/
def loss? (metric : Metric) (s : Sample) : Except Failure Verdict → Option Loss
  | .ok v =>
    if (metric s v).score < 1.0 then
      some
        { sample := s
          predicted := "has_bug=" ++ toString v.hasBug ++ " bug_details=" ++ v.findings.json.compact
          score := (metric s v).score
          feedback := (metric s v).feedback.getD "no feedback" }
    else none
  | .error e => some { sample := s, predicted := "none", score := 0.0, feedback := "detection failed: " ++ e.message }

/-- What a pass measured of its program, answer by answer. -/
structure Pass.Measures (samples : List Sample) (metric : Metric) (pass : Pass) (b : Best) : Prop where
  program_eq : b.program = pass.program
  /-- The points are added up in order, and divided by the number of all samples. -/
  average_eq : b.average = (samples.zip pass.answers).foldl
    (fun sum p => (points? metric p.1 (Detector.outcome p.2)).elim sum (sum + ·)) 0.0 / Float.ofNat samples.length
  losses_eq : b.losses = (samples.zip pass.answers).filterMap fun p => loss? metric p.1 (Detector.outcome p.2)

section Tally

variable (metric : Metric) (tally : Tally) (s : Sample) (r : Except Failure Verdict)

theorem Tally.add_sum : (tally.add metric s r).sum = (points? metric s r).elim tally.sum (tally.sum + ·) := by
  cases r <;> rfl

theorem Tally.add_losses : (tally.add metric s r).losses = tally.losses ++ (loss? metric s r).toList := by
  cases r with
  | error e => rfl
  | ok v =>
    by_cases h : (metric s v).score < 1.0
    · simp [add, loss?, h, answerText, String.append_assoc]
    · simp [add, loss?, h]

variable (samples : List Sample) (answers : List Answer)

theorem Tally.extend_sum : (tally.extend metric samples answers).sum = (samples.zip answers).foldl
    (fun sum p => (points? metric p.1 (Detector.outcome p.2)).elim sum (sum + ·)) tally.sum := by
  unfold extend
  induction samples.zip answers generalizing tally with
  | nil => rfl
  | cons p pairs ih =>
    rw [List.foldl_cons, List.foldl_cons, ih, add_sum]

theorem Tally.extend_losses : (tally.extend metric samples answers).losses =
    tally.losses ++ (samples.zip answers).filterMap fun p => loss? metric p.1 (Detector.outcome p.2) := by
  unfold extend
  induction samples.zip answers generalizing tally with
  | nil => exact (List.append_nil _).symm
  | cons p pairs ih =>
    rw [List.foldl_cons, ih, add_losses, List.append_assoc, List.filterMap_cons]
    cases loss? metric p.1 (Detector.outcome p.2) <;> rfl

/-- **A pass measures its program by the answers.** -/
theorem Pass.measures (pass : Pass) : pass.Measures samples metric (pass.best samples metric) where
  program_eq := rfl
  average_eq := congrArg (· / Float.ofNat samples.length) (Tally.extend_sum metric _ samples pass.answers)
  losses_eq := Tally.extend_losses metric _ samples pass.answers

end Tally

/-! ### The calls of a pass -/

/-- The step of scoring. -/
def visit (B : Backend σ) (d : Detector) (metric : Metric) (tally : Tally) (s : Sample) : Audit σ Tally := do
  return tally.add metric s (← d.detect B s.snippet)

theorem score_eq_foldlM (B : Backend σ) (d : Detector) (samples : List Sample) (metric : Metric) :
    score B d samples metric = samples.foldlM (visit B d metric) ⟨0.0, []⟩ := rfl

theorem visit_logged (B : Backend σ) (d : Detector) (metric : Metric) (tally : Tally) (s : Sample)
    (run : Run (σ × List Call)) : ∃ answer,
      (visit (B.logged .detection) d metric tally s run).1 = tally.add metric s (Detector.outcome answer) ∧
      (visit (B.logged .detection) d metric tally s run).2.log =
        run.log ++ [.detection (d.program.render s.snippet) answer] := by
  obtain ⟨answer, houtcome, hlog⟩ := d.detect_logged .detection B s.snippet run
  refine ⟨answer, ?_, hlog⟩
  unfold visit
  rw [Audit.bind_apply, houtcome, Audit.pure_apply]

/-- Some samples more are as many calls more. -/
theorem foldlM_visit_logged (B : Backend σ) (d : Detector) (metric : Metric) (samples : List Sample) :
    ∀ (tally : Tally) (run : Run (σ × List Call)), ∃ answers : List Answer, answers.length = samples.length ∧
      (samples.foldlM (visit (B.logged .detection) d metric) tally run).1 = tally.extend metric samples answers ∧
      (samples.foldlM (visit (B.logged .detection) d metric) tally run).2.log =
        run.log ++ Pass.calls samples ⟨d.program, answers⟩ := by
  induction samples with
  | nil =>
    intro tally run
    exact ⟨[], rfl, rfl, by simp [Pass.calls, Audit.pure_apply]⟩
  | cons s samples ih =>
    intro tally run
    obtain ⟨answer, htally, hlog⟩ := visit_logged B d metric tally s run
    obtain ⟨answers, hlength, htallies, hlogs⟩ :=
      ih (tally.add metric s (Detector.outcome answer)) (visit (B.logged .detection) d metric tally s run).2
    rw [List.foldlM_cons, Audit.bind_apply, htally]
    refine ⟨answer :: answers, ?_, htallies, ?_⟩
    · simp [hlength]
    · rw [hlogs, hlog, List.append_assoc]
      rfl

/-- **Scoring is one pass.** -/
theorem score_logged (B : Backend σ) (d : Detector) (samples : List Sample) (metric : Metric)
    (run : Run (σ × List Call)) : ∃ answers : List Answer, answers.length = samples.length ∧
      (score (B.logged .detection) d samples metric run).1 = Tally.extend metric ⟨0.0, []⟩ samples answers ∧
      (score (B.logged .detection) d samples metric run).2.log =
        run.log ++ Pass.calls samples ⟨d.program, answers⟩ :=
  foldlM_visit_logged B d metric samples _ run

/-! ## Rounds -/

/-- A round: the best program before it, the answer to the request, and those to the pass of a proposal. -/
structure Turn where
  best : Best
  answer : Answer
  answers : List Answer

namespace Turn

/-- The instructions that were proposed. -/
def proposed? (t : Turn) : Option String :=
  match t.answer with
  | .error _ => none
  | .ok completion => proposal? completion.text

/-- The pass of the proposal. -/
def pass? (t : Turn) : Option Pass :=
  t.proposed?.map fun instructions => ⟨{ t.best.program with instructions }, t.answers⟩

/-- What was measured, when it was better. -/
def accepted? (samples : List Sample) (metric : Metric) (t : Turn) : Option Best :=
  (t.pass?.map (Pass.best samples metric)).filter fun b => t.best.average < b.average

/-- The best program behind the round. -/
def next (samples : List Sample) (metric : Metric) (t : Turn) : Best := (t.accepted? samples metric).getD t.best

/-- The prompt of the request. -/
def request (c : Reflective) (t : Turn) : String :=
  c.request t.best.program.instructions (t.best.losses.take c.maxShown)

/-- The calls of the round. -/
def calls (c : Reflective) (samples : List Sample) (t : Turn) : List Call :=
  .reflection (t.request c) t.answer :: (t.pass?.map (Pass.calls samples)).getD []

end Turn

/-- A request shows what is lost up to a bound. -/
theorem request_take (c : Reflective) (instructions : String) (losses : List Loss) :
    c.request instructions (losses.take c.maxShown) = c.request instructions losses := by
  unfold request
  rw [List.take_take, Nat.min_self]

/-- **A request shows the instructions of the best program and the first samples it lost.** -/
theorem Turn.shows (c : Reflective) (t : Turn) :
    Shows c t.best.program.instructions (t.best.losses.take c.maxShown) (t.request c) := by
  rw [request, request_take]
  exact shows_request c t.best.program.instructions t.best.losses

/-- A better program takes the place of the best one. -/
theorem getD_filter_better (best candidate : Best) :
    ((some candidate).filter fun b => best.average < b.average).getD best =
      if best.average < candidate.average then candidate else best := by
  by_cases h : best.average < candidate.average <;> simp [Option.filter, h]

/-- **A look at a proposal is a pass.** -/
theorem consider_logged (B : Backend σ) (samples : List Sample) (metric : Metric) (round : Nat) (best : Best)
    (instructions : String) (run : Run (σ × List Call)) : ∃ answers : List Answer,
      let pass : Pass := ⟨{ best.program with instructions }, answers⟩
      answers.length = samples.length ∧
      (consider (B.logged .detection) samples metric round best instructions run).1 =
        ((some (pass.best samples metric)).filter fun b => best.average < b.average).getD best ∧
      (consider (B.logged .detection) samples metric round best instructions run).2.log =
        run.log ++ pass.calls samples := by
  obtain ⟨answers, hlength, htally, hlog⟩ :=
    score_logged B ⟨{ best.program with instructions }, false⟩ samples metric run
  refine ⟨answers, hlength, ?_, ?_⟩
  · rw [getD_filter_better]
    unfold consider
    simp only [Audit.bind_apply, Audit.pure_apply, htally]
    rfl
  · unfold consider
    simp only [Audit.bind_apply, Audit.pure_apply]
    exact hlog

/-- **A round is a request**, with a pass when there is a proposal. -/
theorem runRound_logged (B R : Backend σ) (c : Reflective) (samples : List Sample) (metric : Metric) (round : Nat)
    (best : Best) (run : Run (σ × List Call)) : ∃ t : Turn, t.best = best ∧
      (∀ pass ∈ t.pass?, pass.answers.length = samples.length) ∧
      (c.runRound (B.logged .detection) (R.logged .reflection) samples metric round best run).1 =
        t.next samples metric ∧
      (c.runRound (B.logged .detection) (R.logged .reflection) samples metric round best run).2.log =
        run.log ++ t.calls c samples := by
  unfold runRound
  rw [Audit.bind_apply, ← request_take]
  have hlog := Audit.log_ask .reflection R (c.request best.program.instructions (best.losses.take c.maxShown)) run
  revert hlog
  generalize (R.logged Call.reflection).ask _ run = asked
  intro hlog
  obtain ⟨answer, run'⟩ := asked
  cases answer with
  | error e => exact ⟨⟨best, .error e, []⟩, rfl, by simp [Turn.pass?, Turn.proposed?], rfl, hlog⟩
  | ok completion =>
    cases hproposal : proposal? completion.text with
    | none =>
      simp only [hproposal]
      refine ⟨⟨best, .ok completion, []⟩, rfl, by simp [Turn.pass?, Turn.proposed?, hproposal], ?_, ?_⟩
      · simp [Turn.next, Turn.accepted?, Turn.pass?, Turn.proposed?, hproposal, Audit.pure_apply]
      · simp only [Turn.calls, Turn.pass?, Turn.proposed?, hproposal]
        exact hlog
    | some instructions =>
      simp only [hproposal]
      obtain ⟨answers, hlength, hbest, hlogs⟩ := consider_logged B samples metric round best instructions run'
      refine ⟨⟨best, .ok completion, answers⟩, rfl, ?_, ?_, ?_⟩
      · simp [Turn.pass?, Turn.proposed?, hproposal, hlength]
      · simp only [hbest, Turn.next, Turn.accepted?, Turn.pass?, Turn.proposed?, hproposal]
        rfl
      · rw [hlogs, hlog, List.append_assoc]
        simp only [Turn.calls, Turn.pass?, Turn.proposed?, hproposal]
        rfl

/-! ## Runs -/

/-- Rounds that follow each other from a best program to another. -/
def Linked (samples : List Sample) (metric : Metric) : Best → List Turn → Best → Prop
  | best, [], last => last = best
  | best, t :: turns, last => t.best = best ∧ Linked samples metric (t.next samples metric) turns last

/-- **Rounds follow each other while something is lost.** -/
theorem runRounds_logged (B R : Backend σ) (c : Reflective) (samples : List Sample) (metric : Metric) (left : Nat) :
    ∀ (round : Nat) (best : Best) (run : Run (σ × List Call)), ∃ turns : List Turn,
      Linked samples metric best turns
        (c.runRounds (B.logged .detection) (R.logged .reflection) samples metric left round best run).1 ∧
      (c.runRounds (B.logged .detection) (R.logged .reflection) samples metric left round best run).2.log =
        run.log ++ turns.flatMap (Turn.calls c samples) ∧
      (∀ t ∈ turns, t.best.losses ≠ []) ∧
      (∀ t ∈ turns, ∀ pass ∈ t.pass?, pass.answers.length = samples.length) ∧
      turns.length ≤ left := by
  induction left with
  | zero =>
    intro round best run
    refine ⟨[], rfl, ?_, by simp, by simp, Nat.le_refl 0⟩
    simp [runRounds, Audit.pure_apply]
  | succ left ih =>
    intro round best run
    unfold runRounds
    by_cases hlosses : best.losses = []
    · simp only [hlosses, List.isEmpty_nil, if_pos]
      exact ⟨[], rfl, by simp [Audit.pure_apply], by simp, by simp, by simp⟩
    · have hempty : ¬best.losses.isEmpty = true := by simpa using hlosses
      simp only [if_neg hempty, Audit.bind_apply]
      obtain ⟨t, hbest, hfull, hnext, hlog⟩ := runRound_logged B R c samples metric round best run
      obtain ⟨turns, hlinked, hlogs, hlost, hfulls, hlength⟩ := ih (round + 1) (t.next samples metric)
        (c.runRound (B.logged .detection) (R.logged .reflection) samples metric round best run).2
      rw [hnext]
      refine ⟨t :: turns, ⟨hbest, hlinked⟩, ?_, ?_, ?_, ?_⟩
      · rw [hlogs, hlog, List.append_assoc, List.flatMap_cons]
      · rw [List.forall_mem_cons, hbest]
        exact ⟨hlosses, hlost⟩
      · rw [List.forall_mem_cons]
        exact ⟨hfull, hfulls⟩
      · rw [List.length_cons]
        omega

section Linked

variable {samples : List Sample} {metric : Metric}

/-- A round leaves its best program, or a better one. -/
theorem Turn.next_cases (samples : List Sample) (metric : Metric) (t : Turn) :
    (t.accepted? samples metric = none ∧ t.next samples metric = t.best) ∨
      ∃ pass b, t.pass? = some pass ∧ pass.best samples metric = b ∧ t.accepted? samples metric = some b ∧
        t.next samples metric = b ∧ t.best.average < b.average := by
  unfold next
  cases haccepted : t.accepted? samples metric with
  | none => exact Or.inl ⟨rfl, rfl⟩
  | some b =>
    unfold accepted? at haccepted
    obtain ⟨hpass, hbetter⟩ := Option.filter_eq_some_iff.1 haccepted
    obtain ⟨pass, hpass, hbest⟩ := Option.map_eq_some_iff.1 hpass
    exact Or.inr ⟨pass, b, hpass, hbest, rfl, rfl, by simpa using hbetter⟩

/-- A proposal changes nothing but instructions. -/
theorem Turn.pass_program {t : Turn} {pass : Pass} (h : t.pass? = some pass) :
    pass.program = { t.best.program with instructions := pass.program.instructions } := by
  obtain ⟨instructions, -, rfl⟩ := Option.map_eq_some_iff.1 h
  rfl

/-- **The last accepted instructions are those of the last program.** -/
theorem Linked.program {best last : Best} {turns : List Turn} (h : Linked samples metric best turns last) :
    last.program = { best.program with
      instructions := ((turns.filterMap (Turn.accepted? samples metric)).getLast?.map (·.program.instructions)).getD
        best.program.instructions } := by
  induction turns generalizing best with
  | nil =>
    obtain rfl : last = best := h
    rfl
  | cons t turns ih =>
    obtain ⟨rfl, hlinked⟩ := h
    have hlast := ih hlinked
    rcases t.next_cases samples metric with ⟨hnone, hnext⟩ | ⟨pass, b, hpass, hb, hsome, hnext, -⟩
    · rw [hlast, hnext, List.filterMap_cons_none hnone]
    · have hprogram := Turn.pass_program hpass
      have hb' : b.program = pass.program := by rw [← hb]; rfl
      rw [hlast, hnext, List.filterMap_cons_some hsome, List.getLast?_cons, hb', hprogram]
      cases (turns.filterMap (Turn.accepted? samples metric)).getLast? <;> simp [hb']

/-- **Every best program is the first one, or was accepted.** -/
theorem Linked.mem {best last : Best} {turns : List Turn} (h : Linked samples metric best turns last) :
    ∀ b ∈ last :: turns.map (·.best), b ∈ best :: turns.filterMap (Turn.accepted? samples metric) := by
  induction turns generalizing best with
  | nil =>
    obtain rfl : last = best := h
    simp
  | cons t turns ih =>
    obtain ⟨rfl, hlinked⟩ := h
    have hrest : ∀ b ∈ t.next samples metric :: turns.filterMap (Turn.accepted? samples metric),
        b ∈ t.best :: (t :: turns).filterMap (Turn.accepted? samples metric) := by
      intro b hb
      rcases t.next_cases samples metric with ⟨hnone, hnext⟩ | ⟨-, a, -, -, hsome, hnext, -⟩
      · rwa [List.filterMap_cons_none hnone, ← hnext]
      · rw [List.filterMap_cons_some hsome, ← hnext]
        exact List.mem_cons_of_mem _ hb
    intro b hb
    rw [List.map_cons, List.mem_cons, List.mem_cons] at hb
    rcases hb with rfl | rfl | hb
    · exact hrest _ (ih hlinked _ List.mem_cons_self)
    · exact List.mem_cons_self
    · exact hrest _ (ih hlinked _ (List.mem_cons_of_mem _ hb))

end Linked

/-! ### Prompts -/

section Prompts

variable {samples : List Sample}

/-- The prompts of a pass. -/
def Pass.prompts (samples : List Sample) (pass : Pass) : List String :=
  samples.map fun s => pass.program.render s.snippet

theorem Pass.detections {pass : Pass} (h : pass.answers.length = samples.length) :
    (pass.calls samples).filterMap Call.detection? = pass.prompts samples := by
  have hfst : (samples.zip pass.answers).map Prod.fst = samples := List.map_fst_zip (Nat.le_of_eq h.symm)
  calc (pass.calls samples).filterMap Call.detection?
      = (samples.zip pass.answers).map (fun p => pass.program.render p.1.snippet) := by
        unfold calls
        rw [List.filterMap_map]
        exact congrFun List.filterMap_eq_map _
    _ = ((samples.zip pass.answers).map Prod.fst).map (fun s => pass.program.render s.snippet) := by
        rw [List.map_map]
        rfl
    _ = pass.prompts samples := by
        rw [hfst]
        rfl

theorem Pass.requests (pass : Pass) : (pass.calls samples).filterMap Call.request? = [] := by
  unfold calls
  rw [List.filterMap_map, List.filterMap_eq_nil_iff]
  intro call _
  rfl

theorem Turn.detections (c : Reflective) {t : Turn} (h : ∀ pass ∈ t.pass?, pass.answers.length = samples.length) :
    ((t.calls c samples).filterMap Call.detection?).length = if t.proposed?.isSome then samples.length else 0 := by
  unfold calls
  rw [List.filterMap_cons_none rfl]
  unfold pass? at h ⊢
  cases hproposed : t.proposed? with
  | none => simp
  | some instructions =>
    have hpass := Pass.detections (h _ (by rw [hproposed]; rfl))
    simp [hpass, Pass.prompts]

theorem Turn.requests (c : Reflective) (t : Turn) : (t.calls c samples).filterMap Call.request? = [t.request c] := by
  have hrequest : Call.request? (.reflection (t.request c) t.answer) = some (t.request c) := rfl
  unfold calls
  rw [List.filterMap_cons_some hrequest]
  cases t.pass? with
  | none => rfl
  | some pass => simp [Pass.requests]

/-- As many detections as samples, for every proposal. -/
theorem length_detections (c : Reflective) {turns : List Turn}
    (h : ∀ t ∈ turns, ∀ pass ∈ t.pass?, pass.answers.length = samples.length) :
    ((turns.flatMap (Turn.calls c samples)).filterMap Call.detection?).length =
      samples.length * (turns.filterMap Turn.proposed?).length := by
  induction turns with
  | nil => rfl
  | cons t turns ih =>
    rw [List.forall_mem_cons] at h
    rw [List.flatMap_cons, List.filterMap_append, List.length_append, ih h.2, Turn.detections c h.1]
    cases hproposed : t.proposed? with
    | none => simp [List.filterMap_cons_none hproposed]
    | some instructions =>
      rw [List.filterMap_cons_some hproposed, List.length_cons, Nat.mul_succ, Nat.add_comm]
      rfl

end Prompts

/-! ### Without a log -/

section Over

variable {f : τ → σ} {B' R' : Backend τ} {B R : Backend σ}

theorem visit_over (hB : B'.Over f B) (d : Detector) (metric : Metric) (tally : Tally) (s : Sample) :
    Audit.Over f (visit B' d metric tally s) (visit B d metric tally s) :=
  (Detector.detect_over hB d s.snippet).bind fun _ => .pure _

theorem score_over (hB : B'.Over f B) (d : Detector) (samples : List Sample) (metric : Metric) :
    Audit.Over f (score B' d samples metric) (score B d samples metric) := by
  rw [score_eq_foldlM, score_eq_foldlM]
  exact Audit.Over.foldlM (visit_over hB d metric) samples _

theorem consider_over (hB : B'.Over f B) (samples : List Sample) (metric : Metric) (round : Nat) (best : Best)
    (instructions : String) :
    Audit.Over f (consider B' samples metric round best instructions)
      (consider B samples metric round best instructions) :=
  (score_over hB _ samples metric).bind fun _ => (Audit.Over.emit _).bind fun _ => .pure _

theorem runRound_over (hB : B'.Over f B) (hR : R'.Over f R) (c : Reflective) (samples : List Sample)
    (metric : Metric) (round : Nat) (best : Best) :
    Audit.Over f (c.runRound B' R' samples metric round best) (c.runRound B R samples metric round best) := by
  unfold runRound
  refine (Audit.Over.ask hR _).bind fun answer => ?_
  cases answer with
  | error e => exact .pure best
  | ok completion =>
    cases hproposal : proposal? completion.text with
    | none =>
      simp only [hproposal]
      exact .pure best
    | some instructions =>
      simp only [hproposal]
      exact consider_over hB samples metric round best instructions

theorem runRounds_over (hB : B'.Over f B) (hR : R'.Over f R) (c : Reflective) (samples : List Sample)
    (metric : Metric) (left : Nat) : ∀ (round : Nat) (best : Best),
      Audit.Over f (c.runRounds B' R' samples metric left round best)
        (c.runRounds B R samples metric left round best) := by
  induction left with
  | zero =>
    intro round best
    exact .pure best
  | succ left ih =>
    intro round best
    unfold runRounds
    by_cases h : best.losses.isEmpty = true
    · simp only [if_pos h]
      exact .pure best
    · simp only [if_neg h]
      exact (runRound_over hB hR c samples metric round best).bind fun best => ih (round + 1) best

/-- **A run is the same over another backend state.** -/
theorem compile_over (hB : B'.Over f B) (hR : R'.Over f R) (c : Reflective) (student : Detector)
    (samples : List Sample) (metric : Metric) :
    Audit.Over f (compile B' R' c student samples metric) (compile B R c student samples metric) := by
  unfold compile
  by_cases h : samples.isEmpty = true
  · simp only [if_pos h]
    exact .pure _
  · simp only [if_neg h]
    exact (score_over hB student samples metric).bind fun tally =>
      (runRounds_over hB hR c samples metric c.rounds 0 _).bind fun best => .pure _

end Over

/-! ### The whole run -/

/-- What a run from a student's program comes to, as its log tells: a first pass, then rounds to a last program. -/
structure History (c : Reflective) (samples : List Sample) (metric : Metric) (student : Program) (log : List Call)
    (first : Pass) (turns : List Turn) (last : Best) : Prop where
  /-- The calls are those of a pass of the student's program, then those of the rounds. -/
  log_eq : log = first.calls samples ++ turns.flatMap (Turn.calls c samples)
  first_program : first.program = student
  /-- Every pass has an answer for every sample. -/
  full : ∀ pass ∈ first :: turns.filterMap Turn.pass?, pass.answers.length = samples.length
  /-- What is known of a program is what its pass measured. -/
  measures : ∀ pass ∈ first :: turns.filterMap Turn.pass?, pass.Measures samples metric (pass.best samples metric)
  /-- Every round starts from what the one before it left. -/
  linked : Linked samples metric (first.best samples metric) turns last
  /-- The best programs stand as the first pass or that of an accepted proposal measured them. -/
  measured : ∀ b ∈ last :: turns.map (·.best),
    b ∈ first.best samples metric :: turns.filterMap (Turn.accepted? samples metric)
  /-- A round keeps its best program, or takes one with a greater average. -/
  better : ∀ t ∈ turns, t.next samples metric = t.best ∨
    ∃ pass ∈ t.pass?, t.next samples metric = pass.best samples metric ∧
      t.best.average < (t.next samples metric).average
  /-- The last program is the student's, with the instructions accepted last. -/
  program : last.program = { student with
    instructions := ((turns.filterMap (Turn.accepted? samples metric)).getLast?.map (·.program.instructions)).getD
      student.instructions }
  /-- There is one request in each round. -/
  requests : log.filterMap Call.request? = turns.map (Turn.request c)
  /-- Each request shows the best instructions and the first samples they lost. -/
  shows : ∀ t ∈ turns, Shows c t.best.program.instructions (t.best.losses.take c.maxShown) (t.request c)
  /-- Nothing is asked once nothing is lost. -/
  lost : ∀ t ∈ turns, t.best.losses ≠ []
  rounds : turns.length ≤ c.rounds
  /-- The detections are as many as the samples, for each pass. -/
  detections : (log.filterMap Call.detection?).length =
    samples.length * (1 + (turns.filterMap Turn.proposed?).length)

/-- The history of linked rounds. -/
theorem Linked.history {c : Reflective} {samples : List Sample} {metric : Metric} {first : Pass} {turns : List Turn}
    {last : Best} (hfirst : first.answers.length = samples.length)
    (hlinked : Linked samples metric (first.best samples metric) turns last)
    (hlost : ∀ t ∈ turns, t.best.losses ≠ [])
    (hfull : ∀ t ∈ turns, ∀ pass ∈ t.pass?, pass.answers.length = samples.length)
    (hrounds : turns.length ≤ c.rounds) :
    History c samples metric first.program (first.calls samples ++ turns.flatMap (Turn.calls c samples)) first turns
      last where
  log_eq := rfl
  first_program := rfl
  full := by
    rw [List.forall_mem_cons]
    refine ⟨hfirst, fun pass hpass => ?_⟩
    obtain ⟨t, ht, hpass⟩ := List.mem_filterMap.1 hpass
    exact hfull t ht pass hpass
  measures := fun pass _ => pass.measures metric samples
  linked := hlinked
  measured := hlinked.mem
  better := by
    intro t _
    rcases t.next_cases samples metric with ⟨-, hnext⟩ | ⟨pass, b, hpass, rfl, -, hnext, hbetter⟩
    · exact Or.inl hnext
    · exact Or.inr ⟨pass, hpass, hnext, by rwa [hnext]⟩
  program := hlinked.program
  requests := by
    rw [List.filterMap_append, Pass.requests, List.nil_append, List.filterMap_flatMap]
    simp only [Turn.requests]
    exact List.map_eq_flatMap.symm
  shows := fun t _ => t.shows c
  lost := hlost
  rounds := hrounds
  detections := by
    have hprompts : (first.prompts samples).length = samples.length := List.length_map _
    rw [List.filterMap_append, Pass.detections hfirst, List.length_append, length_detections c hfull, hprompts,
      Nat.mul_add, Nat.mul_one]

/-- A run is a first pass with rounds behind it. -/
theorem compile_apply (B R : Backend σ) (c : Reflective) (student : Detector) {samples : List Sample}
    (metric : Metric) (run : Run σ) (h : samples ≠ []) :
    c.compile B R student samples metric run =
      let scored := score B student samples metric run
      let last := c.runRounds B R samples metric c.rounds 0 (Best.ofTally student.program samples scored.1) scored.2
      (.ok last.1.program, last.2) := by
  have hempty : ¬samples.isEmpty = true := by simpa using h
  unfold compile
  rw [if_neg hempty]
  rfl

/-- Nothing but the instructions is new. -/
theorem compile_program {B R : Backend σ} {c : Reflective} {student : Detector} {samples : List Sample}
    {metric : Metric} {run : Run σ} {program : Program}
    (h : (c.compile B R student samples metric run).1 = .ok program) :
    ∃ instructions, program = { student.program with instructions } := by
  have hne : samples ≠ [] := by
    rintro rfl
    cases h
  have hover := compile_over (B.logged_over Call.detection) (R.logged_over Call.reflection) c student samples metric
    run.unlogged
  rw [Run.map_fst_unlogged] at hover
  rw [hover, compile_apply _ _ c student metric run.unlogged hne] at h
  obtain rfl := Except.ok.inj h
  obtain ⟨turns, hlinked, -⟩ := runRounds_logged B R c samples metric c.rounds 0
    (Best.ofTally student.program samples (score (B.logged Call.detection) student samples metric run.unlogged).1)
    (score (B.logged Call.detection) student samples metric run.unlogged).2
  exact ⟨_, hlinked.program⟩

/-- **The history of a run.** The backends may fail, may change with every prompt, and may share their state. -/
theorem compile_history (B R : Backend σ) (c : Reflective) (student : Detector) {samples : List Sample}
    (metric : Metric) (run : Run σ) (h : samples ≠ []) : ∃ (first : Pass) (turns : List Turn) (last : Best),
      (c.compile B R student samples metric run).1 = .ok last.program ∧
      History c samples metric student.program
        (c.compile (B.logged .detection) (R.logged .reflection) student samples metric run.unlogged).2.log
        first turns last := by
  have hover := compile_over (B.logged_over Call.detection) (R.logged_over Call.reflection) c student samples metric
    run.unlogged
  rw [Run.map_fst_unlogged, compile_apply _ _ c student metric run.unlogged h] at hover
  rw [hover, compile_apply _ _ c student metric run.unlogged h]
  obtain ⟨answers, hlength, htally, hlog⟩ := score_logged B student samples metric run.unlogged
  obtain ⟨turns, hlinked, hlogs, hlost, hfull, hrounds⟩ := runRounds_logged B R c samples metric c.rounds 0
    (Pass.best samples metric ⟨student.program, answers⟩)
    (score (B.logged .detection) student samples metric run.unlogged).2
  have hstart : Best.ofTally student.program samples
      (score (B.logged Call.detection) student samples metric run.unlogged).1 =
        Pass.best samples metric ⟨student.program, answers⟩ := by
    rw [htally]
    rfl
  refine ⟨⟨student.program, answers⟩, turns, _, rfl, ?_⟩
  simp only [hstart, hlogs, hlog, Run.log_unlogged, List.nil_append]
  exact Linked.history hlength hlinked hlost hfull hrounds

/-- A run with one scripted backend for verdicts and requests, whose first answer is a failure. -/
theorem compile_history_scripted : [Sample.clean "x"] ≠ [] ∧
    let student := Detector.base .hierarchical
    let run := Run.start ⟨[], fun _ => none, [.fail "down", .reply "Be brief."], some "", []⟩ .empty
    ∃ (first : Pass) (turns : List Turn) (last : Best),
      (compile Script.backend Script.backend (ofRounds 2) student [Sample.clean "x"] Grade.standard run).1 =
        .ok last.program ∧
      History (ofRounds 2) [Sample.clean "x"] Grade.standard student.program
        (compile (Script.backend.logged .detection) (Script.backend.logged .reflection) (ofRounds 2) student
          [Sample.clean "x"] Grade.standard run.unlogged).2.log first turns last :=
  ⟨by decide, compile_history _ _ _ _ _ _ (by decide)⟩

end SnippetAudit.Reflective
