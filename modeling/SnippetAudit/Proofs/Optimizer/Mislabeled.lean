import SnippetAudit.Proofs.Grade.Notes
import SnippetAudit.Proofs.Optimizer.Demos

/-!
# Demos with the wrong label

A verdict is accepted for a quarter of the points, and details earn as much without the claim.

- A right claim is always enough. A wrong one is enough where the details earn points, and such a verdict is at odds
  with itself (`Grade.Misleads`, `Grade.le_standard_iff`, `Grade.Misleads.inconsistent`). It earns half of the points,
  or a quarter for a type that is only of the right family (`Grade.Misleads.score`).
- So a demo of a run over the default grade has the label of its sample, unless its verdict misleads; every such
  verdict that is met is accepted (`compile_labels`).
-/

namespace SnippetAudit

/-! ## Misleading verdicts -/

namespace Grade

/-- A verdict with a wrong claim, whose details earn points. -/
inductive Misleads (e : Sample) (v : Verdict) : Prop
  /-- A bug is claimed of a clean sample, and none is listed. -/
  | alarm (label : e.hasBug = false) (claim : v.hasBug = true) (readable : v.isDegraded = false)
      (nothing : v.bugs = [])
  /-- No bug is claimed of a buggy sample, and one of the wanted family is listed first. -/
  | denial (label : e.hasBug = true) (claim : v.hasBug = false) (wants : wanted e ≠ []) (listed : v.bugs ≠ [])
      (related : family (firstTypeId (wanted e)) = family (firstTypeId v.bugs))

variable {e : Sample} {v : Verdict}

theorem Misleads.claim_ne (h : Misleads e v) : v.hasBug ≠ e.hasBug := by
  cases h with
  | alarm label claim => simp [label, claim]
  | denial label claim => simp [label, claim]

theorem Misleads.isDegraded (h : Misleads e v) : v.isDegraded = false := by
  cases h with
  | alarm _ _ readable => exact readable
  | denial _ _ _ listed =>
    rw [← Bool.not_eq_true]
    exact fun hdegraded => listed (Bootstrap.bugs_of_isDegraded hdegraded)

/-- **A misleading verdict is at odds with itself.** -/
theorem Misleads.inconsistent (h : Misleads e v) : v.isConsistent = false := by
  cases h with
  | alarm _ claim _ nothing => simp [Verdict.isConsistent, claim, nothing]
  | denial _ claim _ listed => simp [Verdict.isConsistent, claim, listed]

/-- With a wrong claim, points are left for details that fit or are related. -/
theorem misleads_iff (h : v.hasBug ≠ e.hasBug) (hread : v.isDegraded = false) :
    Misleads e v ↔ Fits e v ∨ Related e v := by
  constructor
  · rintro (⟨label, -, -, nothing⟩ | ⟨label, -, wants, listed, related⟩)
    · exact Or.inl (.empty label nothing)
    · by_cases hsame : firstTypeId (wanted e) = firstTypeId v.bugs
      · exact Or.inl (.typed label wants listed hsame)
      · exact Or.inr ⟨label, wants, listed, hsame, related⟩
  · rintro ((⟨label, wants, listed, same⟩ | ⟨label, nothing⟩) | ⟨label, wants, listed, -, related⟩)
    · have hclaim : v.hasBug = false := by simpa [label] using h
      exact .denial label hclaim wants listed (congrArg family same)
    · have hclaim : v.hasBug = true := by simpa [label] using h
      exact .alarm label hclaim hread nothing
    · have hclaim : v.hasBug = false := by simpa [label] using h
      exact .denial label hclaim wants listed related

/-- A right claim is enough for the least score. -/
theorem le_standard_of_eq (h : v.hasBug = e.hasBug) : (0.25 : Float) ≤ (standard e v).score := by
  show (0.25 : Float) ≤ (tally e v).1
  have hclaim := forClaim_of_eq h
  cases hread : v.isDegraded with
  | true =>
    rw [tally_unread hread, hclaim]
    show (0.25 : Float) ≤ 0.0 + 0.5
    decide
  | false =>
    rw [tally_read hread, hclaim]
    show (0.25 : Float) ≤ (forDetails (0.0 + 0.5) e v).1
    rcases (forDetails_compared (0.0 + 0.5) e v).points with hfull | hpart | hnone
    · rw [hfull]
      decide
    · rw [hpart]
      decide
    · rw [hnone]
      decide

/-- With a wrong claim there are the points for the details: half of all, a quarter or none. -/
theorem points_of_ne (h : v.hasBug ≠ e.hasBug) (hread : v.isDegraded = false) :
    (Fits e v ∧ (standard e v).score = 0.5) ∨ (Related e v ∧ (standard e v).score = 0.25) ∨
      (¬Fits e v ∧ ¬Related e v ∧ (standard e v).score = 0.0) := by
  have hhalf : (0.0 + 0.5 : Float) = 0.5 := by decide
  have hquarter : (0.0 + 0.25 : Float) = 0.25 := by decide
  obtain ⟨note, -, hclaim⟩ := forClaim_of_ne h
  have hscore : (standard e v).score = (forDetails 0.0 e v).1 := by
    show (tally e v).1 = _
    rw [tally_read hread, hclaim]
  rw [hscore]
  have hdetails := forDetails_compared 0.0 e v
  generalize forDetails 0.0 e v = t at hdetails ⊢
  cases hdetails with
  | full hfits => exact Or.inl ⟨hfits, hhalf⟩
  | part hrelated => exact Or.inr (Or.inl ⟨hrelated, hquarter⟩)
  | unlisted label wants =>
    have hfits : ¬Fits e v := fun hfull => ((fits_iff_of_buggy label).1 hfull).1 wants
    exact Or.inr (Or.inr ⟨hfits, fun hrelated => hrelated.wants wants, rfl⟩)
  | lost hfits hrelated => exact Or.inr (Or.inr ⟨hfits, hrelated, rfl⟩)

/-- **The points of a misleading verdict.** -/
theorem Misleads.score (h : Misleads e v) : (standard e v).score =
    if e.hasBug ∧ firstTypeId (wanted e) ≠ firstTypeId v.bugs then 0.25 else 0.5 := by
  rcases points_of_ne h.claim_ne h.isDegraded with ⟨hfits, hscore⟩ | ⟨hrelated, hscore⟩ | ⟨hfits, hrelated, -⟩
  · have hsame : ¬(e.hasBug = true ∧ firstTypeId (wanted e) ≠ firstTypeId v.bugs) := by
      rcases hfits with ⟨-, -, -, same⟩ | ⟨label, -⟩
      · exact fun hdiffers => hdiffers.2 same
      · exact fun hdiffers => Bool.false_ne_true (label.symm.trans hdiffers.1)
    rw [if_neg hsame, hscore]
  · rw [if_pos ⟨hrelated.label, hrelated.differs⟩, hscore]
  · exact absurd ((misleads_iff h.claim_ne h.isDegraded).1 h) (not_or.2 ⟨hfits, hrelated⟩)

/-- A wrong claim is enough where the verdict misleads. -/
theorem le_standard_of_ne (h : v.hasBug ≠ e.hasBug) : (0.25 : Float) ≤ (standard e v).score ↔ Misleads e v := by
  have hnone : ¬(0.25 : Float) ≤ 0.0 := by decide
  cases hread : v.isDegraded with
  | true =>
    obtain ⟨note, -, hclaim⟩ := forClaim_of_ne h
    have hmisleads : ¬Misleads e v := fun hmisleads => Bool.false_ne_true (hmisleads.isDegraded.symm.trans hread)
    show (0.25 : Float) ≤ (tally e v).1 ↔ _
    rw [tally_unread hread, hclaim]
    exact iff_of_false hnone hmisleads
  | false =>
    rw [misleads_iff h hread]
    rcases points_of_ne h hread with ⟨hfits, hscore⟩ | ⟨hrelated, hscore⟩ | ⟨hfits, hrelated, hscore⟩
    · rw [hscore]
      exact iff_of_true (by decide) (Or.inl hfits)
    · rw [hscore]
      exact iff_of_true (by decide) (Or.inr hrelated)
    · rw [hscore]
      exact iff_of_false hnone (not_or.2 ⟨hfits, hrelated⟩)

/-- **What has the least score**: a right claim, or a misleading verdict. -/
theorem le_standard_iff (e : Sample) (v : Verdict) :
    (0.25 : Float) ≤ (standard e v).score ↔ v.hasBug = e.hasBug ∨ Misleads e v := by
  by_cases h : v.hasBug = e.hasBug
  · exact ⟨fun _ => Or.inl h, fun _ => le_standard_of_eq h⟩
  · rw [le_standard_of_ne h]
    exact ⟨Or.inr, fun hor => hor.resolve_left h⟩

end Grade

namespace Bootstrap

open Grade (Misleads firstTypeId wanted)

variable {σ : Type}

/-! ## The whole run -/

/-- How the demos of a program are labeled, as the log of its run tells. -/
structure Labeled (c : Bootstrap) (samples : List Sample) (student : Program) (log : List Call) (tries : List Try)
    (labels : List Sample) (program : Program) : Prop where
  /-- The calls are those of the tries. -/
  log_eq : log = tries.map (Try.call student)
  /-- They are of samples at their positions. -/
  placed : ∀ t ∈ tries, samples[t.turn.position]? = some t.turn.sample
  labels_sublist : labels.Sublist samples
  /-- There are no other demos than those accepted and those of labels. -/
  demos_eq : program.demos = (accepted c Grade.standard tries).map Pick.demo ++ labels.map labeledDemo
  /-- A verdict is accepted for a right claim, or because it misleads. -/
  accepted_iff : ∀ t ∈ tries, ∀ v, Detector.outcome t.answer = .ok v →
    (t.pick? c Grade.standard = some ⟨t.turn.position, verdictDemo t.turn.sample v⟩ ↔
      v.hasBug = t.turn.sample.hasBug ∨ Misleads t.turn.sample v)
  /-- A verdict that misleads has half of the points, or a quarter where its first type is another one of the wanted
  family. -/
  points : ∀ t ∈ tries, ∀ v, Detector.outcome t.answer = .ok v → Misleads t.turn.sample v →
    (Grade.standard t.turn.sample v).score =
      if t.turn.sample.hasBug ∧ firstTypeId (wanted t.turn.sample) ≠ firstTypeId v.bugs then 0.25 else 0.5
  /-- What is accepted has another label than its sample exactly when its verdict misleads, which is then at odds with
  itself. -/
  mislabeled_iff : ∀ t ∈ tries, ∀ pick, t.pick? c Grade.standard = some pick → ∃ v,
    Detector.outcome t.answer = .ok v ∧ pick.demo = verdictDemo t.turn.sample v ∧
      (pick.demo.hasBug ≠ t.turn.sample.hasBug ↔ Misleads t.turn.sample v) ∧
      (pick.demo.hasBug ≠ t.turn.sample.hasBug → v.isConsistent = false)
  /-- Every demo is of a sample, with its label or from a verdict that misleads. -/
  demo_of_sample : ∀ demo ∈ program.demos, ∃ s ∈ samples, demo.snippet = s.snippet ∧
    (demo.hasBug = s.hasBug ∨ ∃ v, Misleads s v ∧ demo = verdictDemo s v)

section Default

variable {c : Bootstrap} (hthreshold : c.threshold = 0.25)

include hthreshold

/-- A try with the least score that is asked for by default. -/
theorem Try.pick?_iff {t : Try} {v : Verdict} (h : Detector.outcome t.answer = .ok v) :
    t.pick? c Grade.standard = some ⟨t.turn.position, verdictDemo t.turn.sample v⟩ ↔
      v.hasBug = t.turn.sample.hasBug ∨ Misleads t.turn.sample v := by
  rw [← Grade.le_standard_iff, ← hthreshold]
  simp only [pick?, h]
  split
  · next hscore => simp [hscore]
  · next hscore => simp [hscore]

/-- What is accepted of a try has the claim of its verdict. -/
theorem Try.claim_of_pick? {t : Try} {pick : Pick} (h : t.pick? c Grade.standard = some pick) : ∃ v,
    Detector.outcome t.answer = .ok v ∧ pick.demo = verdictDemo t.turn.sample v ∧
      (v.hasBug ≠ t.turn.sample.hasBug ↔ Misleads t.turn.sample v) := by
  obtain ⟨v, hv, -, rfl⟩ := Try.pick?_eq_some h
  have hcase := (Try.pick?_iff hthreshold hv).1 h
  exact ⟨v, hv, rfl, fun hne => hcase.resolve_left hne, Misleads.claim_ne⟩

/-- **Tries that follow a schedule leave demos with the labels of their samples**, but for those that mislead. -/
theorem Follows.labeled {samples : List Sample} {tries : List Try}
    (h : Follows c Grade.standard [] (schedule samples c.rounds 0) tries) (student : Program) :
    Labeled c samples student (tries.map (Try.call student)) tries
      (Bootstrap.labeled c samples (accepted c Grade.standard tries))
      { student with demos := c.demos samples (accepted c Grade.standard tries) } := by
  have hplaced : ∀ t ∈ tries, samples[t.turn.position]? = some t.turn.sample :=
    fun t ht => ((h.history student).placed t ht).2
  have hsublist := labeled_sublist c samples (accepted c Grade.standard tries)
  have hdemos := demos_eq c samples (accepted c Grade.standard tries)
  constructor
  · rfl
  · exact hplaced
  · exact hsublist
  · exact hdemos
  · exact fun t _ v hv => Try.pick?_iff hthreshold hv
  · exact fun t _ v _ hmisleads => hmisleads.score
  · intro t _ pick hpick
    obtain ⟨v, hv, hdemo, hmisleads⟩ := Try.claim_of_pick? hthreshold hpick
    rw [hdemo]
    exact ⟨v, hv, rfl, hmisleads, fun hne => (hmisleads.1 hne).inconsistent⟩
  · intro demo hdemo
    have hmem : demo ∈ c.demos samples (accepted c Grade.standard tries) := hdemo
    rw [hdemos] at hmem
    rcases List.mem_append.1 hmem with hpicked | hlabel
    · obtain ⟨pick, hpick, rfl⟩ := List.mem_map.1 hpicked
      obtain ⟨t, ht, hpick⟩ := List.mem_filterMap.1 hpick
      obtain ⟨v, -, hdemo, hmisleads⟩ := Try.claim_of_pick? hthreshold hpick
      refine ⟨t.turn.sample, List.mem_of_getElem? (hplaced t ht), ?_⟩
      rw [hdemo]
      refine ⟨rfl, ?_⟩
      by_cases hclaim : v.hasBug = t.turn.sample.hasBug
      · exact Or.inl hclaim
      · exact Or.inr ⟨v, hmisleads.1 hclaim, rfl⟩
    · obtain ⟨s, hs, rfl⟩ := List.mem_map.1 hlabel
      exact ⟨s, hsublist.subset hs, rfl, Or.inl rfl⟩

end Default

/-- **Demos have the labels of their samples**, but for those of verdicts that mislead. -/
theorem compile_labels (B : Backend σ) (count rounds : Nat) (student : Detector) {samples : List Sample}
    (run : Run σ) {program : Program}
    (h : ((ofDemos count rounds).compile B student samples Grade.standard run).1 = .ok program) :
    ∃ (tries : List Try) (labels : List Sample), Labeled (ofDemos count rounds) samples student.program
      ((ofDemos count rounds).compile (B.logged Prod.mk) student samples Grade.standard run.unlogged).2.log
      tries labels program := by
  obtain ⟨tries, hfollows, hlog, rfl⟩ := exists_follows B (ofDemos count rounds) student Grade.standard run h
  rw [hlog]
  exact ⟨tries, _, hfollows.labeled rfl student.program⟩

/-- A run over two rounds, with a claim that is wrong for both samples. -/
theorem compile_labels_scripted :
    let samples := [Sample.clean "int x;", (Sample.buggy "y" "C.1" "Overflow").withSource "y.c"]
    let student := Detector.base .hierarchical
    let run := Run.start ⟨[("int x;", .reply (Script.markedReply "True" "\x7b\"bugs\": []\x7d"))], fun _ => none, [],
      some (Script.markedReply "False" "\x7b\"bugs\": [\x7b\"bug_type_id\": \"C.3\"\x7d]\x7d"), []⟩ .empty
    ∃ program, (compile Script.backend (ofDemos 2 2) student samples Grade.standard run).1 = .ok program ∧
      ∃ (tries : List Try) (labels : List Sample), Labeled (ofDemos 2 2) samples student.program
        (compile (Script.backend.logged Prod.mk) (ofDemos 2 2) student samples Grade.standard run.unlogged).2.log
        tries labels program := by
  intro samples student run
  have hok := congrArg Prod.fst
    (compile_apply Script.backend (ofDemos 2 2) student Grade.standard run (List.cons_ne_nil _ _ : samples ≠ []))
  exact ⟨_, hok, compile_labels Script.backend 2 2 student run hok⟩

/-- A clean sample becomes a demo of a bug. -/
theorem compile_mislabels :
    let script : Script := ⟨[], fun _ => none, [], some (Script.markedReply "True" "\x7b\"bugs\": []\x7d"), []⟩
    ∃ program, (compile Script.backend (ofDemos 1 1) (.base .hierarchical) [.clean "int x;"] Grade.standard
      (Run.start script .empty)).1 = .ok program ∧
      program.demos = [⟨"int x;", true, "\x7b\"bugs\":[]\x7d"⟩] ∧ (Sample.clean "int x;").hasBug = false := by
  intro script
  have hok := congrArg Prod.fst (compile_apply Script.backend (ofDemos 1 1) (.base .hierarchical) Grade.standard
    (Run.start script .empty) (by decide : [Sample.clean "int x;"] ≠ []))
  exact ⟨_, hok, by decide +kernel⟩

end Bootstrap
end SnippetAudit
