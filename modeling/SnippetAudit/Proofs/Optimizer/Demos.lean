import SnippetAudit.Proofs.Finding
import SnippetAudit.Proofs.Optimizer.Bootstrap
import SnippetAudit.Proofs.Prompt.Shown
import SnippetAudit.Proofs.Reply.Pair

/-!
# Demos are readable replies

A demo shows the model an answer in the form that is asked of it. Whatever the backend replied, the details of a demo
are JSON: those of an accepted verdict were printed, and those of a label were built. So every demo of a bootstrapped
program, as its prompts show it, is read back with its claim and its bugs (`compile_demos_read`). The findings of a
verdict that could not be read are printed with the raw text beside an empty list, so its demo has no bugs.
-/

namespace SnippetAudit

variable {σ : Type}

/-! ## One demo -/

/-- The answer of a demo is read as its claim with some bugs, and was not hard to read. -/
structure Demo.Reads (d : Demo) (bugs : List Finding) : Prop where
  hasBug : (Verdict.ofCompletion d.answer).hasBug = d.hasBug
  findings : (Verdict.ofCompletion d.answer).findings = .listed bugs
  readable : (Verdict.ofCompletion d.answer).isDegraded = false

theorem Demo.reads {d : Demo} {bugs : List Finding} (h : Findings.ofText d.details = .listed bugs) :
    d.Reads bugs := by
  obtain ⟨hhasBug, hfindings⟩ := Reply.ofCompletion_answer h
  constructor
  · exact hhasBug
  · exact hfindings
  · rw [Verdict.isDegraded, hfindings]
    rfl

namespace Bootstrap

/-- **The demo of a verdict has its bugs.** -/
theorem verdictDemo_reads (s : Sample) (v : Verdict) : (verdictDemo s v).Reads v.bugs :=
  Demo.reads (Findings.ofText_json v.findings)

/-- **The demo of a label has its bugs.** -/
theorem labeledDemo_reads {s : Sample} {bugs : List Finding} (h : s.Built bugs) : (labeledDemo s).Reads bugs :=
  Demo.reads h.findings

theorem bugs_of_isDegraded {v : Verdict} (h : v.isDegraded = true) : v.bugs = [] := by
  unfold Verdict.isDegraded at h
  unfold Verdict.bugs
  cases hfindings : v.findings with
  | listed bugs =>
    rw [hfindings] at h
    cases h
  | unread raw => rfl

/-! ## Labels that fill the room -/

/-- The samples whose labels are used, in their order. -/
def labeled (c : Bootstrap) (samples : List Sample) (picks : List Pick) : List Sample :=
  ((others samples picks).take (c.maxLabeled - picks.length)).map Prod.fst

theorem labeled_sublist (c : Bootstrap) (samples : List Sample) (picks : List Pick) :
    (labeled c samples picks).Sublist samples := by
  have hothers : ((others samples picks).map Prod.fst).Sublist (samples.zipIdx.map Prod.fst) :=
    List.filter_sublist.map Prod.fst
  rw [List.zipIdx_map_fst] at hothers
  exact ((List.take_sublist _ _).map Prod.fst).trans hothers

theorem demos_eq (c : Bootstrap) (samples : List Sample) (picks : List Pick) :
    c.demos samples picks = picks.map Pick.demo ++ (labeled c samples picks).map labeledDemo := by
  rw [demos, fill_eq, labeled, List.map_map]
  rfl

/-! ## The whole run -/

/-- How the demos of a program are read, as the log of its run tells. -/
structure ReadBack (c : Bootstrap) (samples : List Sample) (metric : Metric) (student : Program) (log : List Call)
    (tries : List Try) (labels : List Sample) (program : Program) : Prop where
  /-- The calls are those of the tries. -/
  log_eq : log = tries.map (Try.call student)
  labels_sublist : labels.Sublist samples
  /-- There are no other demos than those accepted and those of labels. -/
  demos_eq : program.demos = (accepted c metric tries).map Pick.demo ++ labels.map labeledDemo
  /-- The prompts of the program show all of them, each with its answer. -/
  shown : program.ShowsDemos
  /-- What is read of a demo is its answer, that is two sections. -/
  sections : ∀ d ∈ program.demos, d.answer =
    "[[ ## has_bug ## ]]" ++ "\n" ++ (if d.hasBug then "True" else "False") ++ "\n" ++
      "[[ ## bug_details ## ]]" ++ "\n" ++ d.details ++ "\n"
  /-- What is accepted of a try is read as the claim and the bugs of its verdict. -/
  accepted_reads : ∀ t ∈ tries, ∀ pick, t.pick? c metric = some pick → ∃ v : Verdict,
    Detector.outcome t.answer = .ok v ∧ pick.demo.hasBug = v.hasBug ∧ pick.demo.Reads v.bugs
  /-- A verdict that was degraded leaves a demo without bugs. -/
  degraded_reads : ∀ t ∈ tries, ∀ pick, t.pick? c metric = some pick → ∀ v : Verdict,
    Detector.outcome t.answer = .ok v → v.isDegraded = true → pick.demo.Reads []
  /-- A label is read as its claim and the bugs it was built with. -/
  labels_read : ∀ s ∈ labels, ∃ bugs, s.Built bugs ∧ (labeledDemo s).hasBug = s.hasBug ∧ (labeledDemo s).Reads bugs

/-- A run that returns a program has tried the turns that were due, and made the program of them. -/
theorem exists_follows (B : Backend σ) (c : Bootstrap) (student : Detector) {samples : List Sample} (metric : Metric)
    (run : Run σ) {program : Program} (h : (c.compile B student samples metric run).1 = .ok program) :
    ∃ tries : List Try, Follows c metric [] (schedule samples c.rounds 0) tries ∧
      (c.compile (B.logged Prod.mk) student samples metric run.unlogged).2.log =
        tries.map (Try.call student.program) ∧
      program = { student.program with demos := c.demos samples (accepted c metric tries) } := by
  have hne : samples ≠ [] := by
    rintro rfl
    cases h
  have hover := compile_over (B.logged_over Prod.mk) c student samples metric (run.unlogged : Run (σ × List Call))
  rw [Run.map_fst_unlogged] at hover
  rw [hover, compile_apply _ c student metric run.unlogged hne] at h
  rw [compile_apply _ c student metric run.unlogged hne]
  obtain ⟨tries, hfollows, hpicks, hlog⟩ := foldlM_take_unlogged B c student metric (schedule samples c.rounds 0) run
  refine ⟨tries, hfollows, hlog, ?_⟩
  rw [← hpicks]
  exact (Except.ok.inj h).symm

theorem exists_tries (B : Backend σ) (c : Bootstrap) (student : Detector) {samples : List Sample} (metric : Metric)
    (run : Run σ) {program : Program} (h : (c.compile B student samples metric run).1 = .ok program) :
    ∃ tries : List Try,
      (c.compile (B.logged Prod.mk) student samples metric run.unlogged).2.log =
        tries.map (Try.call student.program) ∧
      program = { student.program with demos := c.demos samples (accepted c metric tries) } := by
  obtain ⟨tries, -, hlog, hprogram⟩ := exists_follows B c student metric run h
  exact ⟨tries, hlog, hprogram⟩

/-- **The two bounds are kept**: there are as many demos as the greater of them allows. -/
theorem length_demos_le {B : Backend σ} {c : Bootstrap} {student : Detector} {samples : List Sample} {metric : Metric}
    {run : Run σ} {program : Program} (h : (c.compile B student samples metric run).1 = .ok program) :
    program.demos.length ≤ max c.maxBootstrapped c.maxLabeled := by
  obtain ⟨tries, hfollows, -, rfl⟩ := exists_follows B c student metric run h
  have haccepted := (hfollows.history student.program).accepted_le
  rw [(hfollows.history student.program).length_demos]
  omega

/-- Nothing but the demos is new. -/
theorem compile_program {B : Backend σ} {c : Bootstrap} {student : Detector} {samples : List Sample} {metric : Metric}
    {run : Run σ} {program : Program} (h : (c.compile B student samples metric run).1 = .ok program) :
    ∃ demos, program = { student.program with demos } := by
  obtain ⟨tries, -, -, hprogram⟩ := exists_follows B c student metric run h
  exact ⟨_, hprogram⟩

/-- **Every demo is a readable reply**, whatever the backend said. -/
theorem compile_demos_read (B : Backend σ) (c : Bootstrap) (student : Detector) {samples : List Sample}
    (metric : Metric) (run : Run σ) {program : Program} (hbuilt : ∀ s ∈ samples, ∃ bugs, s.Built bugs)
    (h : (c.compile B student samples metric run).1 = .ok program) : ∃ (tries : List Try) (labels : List Sample),
      ReadBack c samples metric student.program
        (c.compile (B.logged Prod.mk) student samples metric run.unlogged).2.log tries labels program := by
  obtain ⟨tries, hlog, rfl⟩ := exists_tries B c student metric run h
  have hsublist := labeled_sublist c samples (accepted c metric tries)
  have hdemo : ∀ t ∈ tries, ∀ pick, t.pick? c metric = some pick → ∃ v : Verdict,
      Detector.outcome t.answer = .ok v ∧ pick.demo = verdictDemo t.turn.sample v := by
    intro t _ pick hpick
    obtain ⟨v, hv, -, rfl⟩ := Try.pick?_eq_some hpick
    exact ⟨v, hv, rfl⟩
  refine ⟨tries, labeled c samples (accepted c metric tries), ?_⟩
  constructor
  · exact hlog
  · exact hsublist
  · exact demos_eq c samples (accepted c metric tries)
  · exact Program.shows_demos _
  · exact fun d _ => d.sections
  · intro t ht pick hpick
    obtain ⟨v, hv, hpick⟩ := hdemo t ht pick hpick
    rw [hpick]
    exact ⟨v, hv, rfl, verdictDemo_reads t.turn.sample v⟩
  · intro t ht pick hpick v hv hdegraded
    obtain ⟨v', hv', hpick⟩ := hdemo t ht pick hpick
    obtain rfl : v' = v := Except.ok.inj (hv'.symm.trans hv)
    rw [hpick, ← bugs_of_isDegraded hdegraded]
    exact verdictDemo_reads t.turn.sample v'
  · intro s hs
    obtain ⟨bugs, hbugs⟩ := hbuilt s (hsublist.subset hs)
    exact ⟨bugs, hbugs, rfl, labeledDemo_reads hbugs⟩

/-- A run whose first verdict is degraded, and whose second call fails. -/
theorem compile_demos_read_degraded :
    let samples := [Sample.clean "x", (Sample.buggy "y" "C.1" "Overflow").withSource "y.c"]
    let student := Detector.base .hierarchical
    let run := Run.start ⟨[], fun _ => none, [.reply (Script.markedReply "False" "[[ ## has_bug ## ]]"), .fail "down"],
      none, []⟩ .empty
    (∀ s ∈ samples, ∃ bugs, s.Built bugs) ∧
    ∃ program, (compile Script.backend (ofDemos 2 1) student samples Grade.standard run).1 = .ok program ∧
      ∃ (tries : List Try) (labels : List Sample), ReadBack (ofDemos 2 1) samples Grade.standard student.program
        (compile (Script.backend.logged Prod.mk) (ofDemos 2 1) student samples Grade.standard run.unlogged).2.log
        tries labels program := by
  intro samples student run
  have hbuilt : ∀ s ∈ samples, ∃ bugs, s.Built bugs :=
    List.forall_mem_cons.2 ⟨⟨_, .clean "x"⟩,
      List.forall_mem_singleton.2 ⟨_, (Sample.Built.buggy "y" "C.1" "Overflow").withSource "y.c"⟩⟩
  have hok := congrArg Prod.fst
    (compile_apply Script.backend (ofDemos 2 1) student Grade.standard run (List.cons_ne_nil _ _ : samples ≠ []))
  exact ⟨hbuilt, _, hok, compile_demos_read Script.backend (ofDemos 2 1) student Grade.standard run hbuilt hok⟩

end Bootstrap
end SnippetAudit
