import SnippetAudit.Grade

/-!
# Losses are noted

What the default grade says about a verdict, beside the points it gives.

- The points for the details are all, a part, or none, and a note stands beside all but the first
  (`Compared`, `forDetails_compared`). The exception is a buggy sample whose label lists no bug (`Unlisted`): a verdict
  that lists one earns nothing for it and is told nothing.
- A note cannot be taken for the word that says there was none (`IsNote`, `feedbackOf_ne_correct`).
- A wrong claim is noted in any case, a right one is told of with its details (`tally_tells`). So a grade says that
  all is correct exactly when it gives all points, that exception apart (`standard_correct_iff`).
-/

namespace SnippetAudit.Grade

/-! ## Notes -/

/-- The notes there are, each on a loss. -/
inductive IsNote : String → Prop
  | missed : IsNote "missed the bug: predicted has_bug=false"
  | alarm : IsNote "false positive: the code is clean"
  | unread : IsNote "bug_details was not valid JSON"
  | silent : IsNote "no bug records reported"
  | related (got want : String) : IsNote ("bug type " ++ got ++ " is in the right family, expected " ++ want)
  | wrong (got want : String) : IsNote ("bug type " ++ got ++ " is wrong, expected " ++ want)
  | excess (count : Nat) : IsNote ("reported " ++ toString count ++ " bug(s) in clean code")

/-- A text that begins with a character. -/
def Begins (c : Char) (text : String) : Prop := ∃ rest, text.toList = c :: rest

theorem Begins.append {c : Char} {text : String} (h : Begins c text) (more : String) : Begins c (text ++ more) := by
  obtain ⟨rest, htext⟩ := h
  exact ⟨rest ++ more.toList, by simp [htext]⟩

/-- A note does not begin like the word that says there is none. -/
theorem IsNote.begins {note : String} (h : IsNote note) : ∃ c, c ≠ 'c' ∧ Begins c note := by
  have htype : Begins 'b' "bug type " := ⟨_, rfl⟩
  have hreported : Begins 'r' "reported " := ⟨_, rfl⟩
  cases h with
  | missed => exact ⟨'m', by decide, _, rfl⟩
  | alarm => exact ⟨'f', by decide, _, rfl⟩
  | unread => exact ⟨'b', by decide, _, rfl⟩
  | silent => exact ⟨'n', by decide, _, rfl⟩
  | related got want => exact ⟨'b', by decide, ((htype.append _).append _).append _⟩
  | wrong got want => exact ⟨'b', by decide, ((htype.append _).append _).append _⟩
  | excess count => exact ⟨'r', by decide, (hreported.append _).append _⟩

/-- **Feedback with a note does not say that all is correct.** -/
theorem feedbackOf_ne_correct {note : String} (h : IsNote note) (more : List String) :
    feedbackOf (note :: more) ≠ "correct" := by
  obtain ⟨c, hc, hnote⟩ := h.begins
  have hbegins : Begins c (feedbackOf (note :: more)) := by
    cases more with
    | nil => simpa [feedbackOf] using hnote
    | cons second more => simpa [feedbackOf] using (hnote.append "; ").append ("; ".intercalate (second :: more))
  intro heq
  rw [heq] at hbegins
  obtain ⟨rest, hrest⟩ := hbegins
  exact hc (List.cons.inj hrest).1.symm

/-! ## Points for the details -/

/-- The bugs that the label of a sample lists. -/
def wanted (e : Sample) : List Finding := (Findings.ofText e.details).bugs

/-- Details that earn all their points: those of a buggy sample with the wanted type first, and empty ones of a clean
sample. -/
inductive Fits (e : Sample) (v : Verdict) : Prop
  | typed (label : e.hasBug = true) (wants : wanted e ≠ []) (listed : v.bugs ≠ [])
      (same : firstTypeId (wanted e) = firstTypeId v.bugs)
  | empty (label : e.hasBug = false) (nothing : v.bugs = [])

/-- Details of a buggy sample with another type of the wanted family first. -/
structure Related (e : Sample) (v : Verdict) : Prop where
  label : e.hasBug = true
  wants : wanted e ≠ []
  listed : v.bugs ≠ []
  differs : firstTypeId (wanted e) ≠ firstTypeId v.bugs
  related : family (firstTypeId (wanted e)) = family (firstTypeId v.bugs)

/-- What the details of a verdict come to, on top of some points. -/
inductive Compared (e : Sample) (v : Verdict) (points : Float) : Tally → Prop
  | full (h : Fits e v) : Compared e v points (points + 0.5, [])
  | part {note : String} (h : Related e v) (hnote : IsNote note) : Compared e v points (points + 0.25, [note])
  | unlisted (label : e.hasBug = true) (wants : wanted e = []) (listed : v.bugs ≠ []) : Compared e v points (points, [])
  | lost {note : String} (hfits : ¬Fits e v) (hrelated : ¬Related e v) (hnote : IsNote note) :
      Compared e v points (points, [note])

section Details

variable {e : Sample} {v : Verdict}

theorem fits_iff_of_clean (h : e.hasBug = false) : Fits e v ↔ v.bugs = [] := by
  constructor
  · rintro (⟨label, -, -, -⟩ | ⟨-, nothing⟩)
    · exact absurd (h.symm.trans label) Bool.false_ne_true
    · exact nothing
  · exact Fits.empty h

theorem fits_iff_of_buggy (h : e.hasBug = true) :
    Fits e v ↔ wanted e ≠ [] ∧ v.bugs ≠ [] ∧ firstTypeId (wanted e) = firstTypeId v.bugs := by
  constructor
  · rintro (⟨-, wants, listed, same⟩ | ⟨label, -⟩)
    · exact ⟨wants, listed, same⟩
    · exact absurd (label.symm.trans h) Bool.false_ne_true
  · rintro ⟨wants, listed, same⟩
    exact .typed h wants listed same

/-- The points for the details of a clean sample. -/
theorem compared_of_clean (points : Float) (h : e.hasBug = false) : Compared e v points (forDetails points e v) := by
  simp only [forDetails, h, Bool.false_eq_true, if_false, List.isEmpty_iff]
  split
  · next hnothing => exact .full (.empty h hnothing)
  · next hlisted =>
    apply Compared.lost
    · rwa [fits_iff_of_clean h]
    · exact fun hrelated => absurd (h.symm.trans hrelated.label) Bool.false_ne_true
    · exact .excess _

/-- The points for the details of a buggy sample. -/
theorem compared_of_buggy (points : Float) (h : e.hasBug = true) : Compared e v points (forDetails points e v) := by
  have hfits := fits_iff_of_buggy (v := v) h
  simp only [forDetails, h, if_true, List.isEmpty_iff]
  split
  · next hnothing =>
    apply Compared.lost
    · exact fun hfull => (hfits.1 hfull).2.1 hnothing
    · exact fun hrelated => hrelated.listed hnothing
    · exact .silent
  · next hlisted =>
    split
    · next hnone => exact .unlisted h hnone hlisted
    · next hwants =>
      unfold forType
      split
      · next hsame => exact .full (.typed h hwants hlisted hsame)
      · next hdiffers =>
        split
        · next hrelated =>
          exact .part ⟨h, hwants, hlisted, hdiffers, hrelated⟩ (.related _ _)
        · next hunrelated =>
          apply Compared.lost
          · exact fun hfull => hdiffers (hfits.1 hfull).2.2
          · exact fun hrelated => hunrelated hrelated.related
          · exact .wrong _ _

/-- **What the details can come to.** -/
theorem forDetails_compared (points : Float) (e : Sample) (v : Verdict) :
    Compared e v points (forDetails points e v) := by
  cases h : e.hasBug with
  | true => exact compared_of_buggy points h
  | false => exact compared_of_clean points h

/-- Half a point, a quarter or none is added. -/
theorem Compared.points {points : Float} {t : Tally} (h : Compared e v points t) :
    t.1 = points + 0.5 ∨ t.1 = points + 0.25 ∨ t.1 = points := by
  cases h with
  | full => exact Or.inl rfl
  | part => exact Or.inr (Or.inl rfl)
  | unlisted => exact Or.inr (Or.inr rfl)
  | lost => exact Or.inr (Or.inr rfl)

end Details

/-! ## The whole grade -/

section Standard

variable {e : Sample} {v : Verdict}

theorem forClaim_of_eq (h : v.hasBug = e.hasBug) : forClaim e v = (0.0 + 0.5, []) := if_pos h

/-- A claim that is not the label's is noted. -/
theorem forClaim_of_ne (h : v.hasBug ≠ e.hasBug) : ∃ note, IsNote note ∧ forClaim e v = (0.0, [note]) := by
  unfold forClaim
  rw [if_neg h]
  cases e.hasBug with
  | true => exact ⟨_, .missed, rfl⟩
  | false => exact ⟨_, .alarm, rfl⟩

theorem tally_unread (h : v.isDegraded = true) :
    tally e v = ((forClaim e v).1, (forClaim e v).2 ++ ["bug_details was not valid JSON"]) := by
  simp only [tally, h, if_true]

theorem tally_read (h : v.isDegraded = false) : tally e v =
    ((forDetails (forClaim e v).1 e v).1, (forClaim e v).2 ++ (forDetails (forClaim e v).1 e v).2) := by
  simp only [tally, h, Bool.false_eq_true, if_false]

/-- A bug is rightly claimed and listed, of a sample whose label lists none. -/
structure Unlisted (e : Sample) (v : Verdict) : Prop where
  label : e.hasBug = true
  wants : wanted e = []
  claim : v.hasBug = true
  readable : v.isDegraded = false
  listed : v.bugs ≠ []

/-- A tally with all points and no note, or with fewer and a note. -/
def Tells (t : Tally) : Prop := t = (1.0, []) ∨ (t.1 < 1.0 ∧ ∃ note more, IsNote note ∧ t.2 = note :: more)

theorem Tells.feedback {t : Tally} (h : Tells t) : feedbackOf t.2 = "correct" ↔ t.1 = 1.0 := by
  rcases h with rfl | ⟨hlt, note, more, hnote, hnotes⟩
  · exact ⟨fun _ => rfl, fun _ => rfl⟩
  · have hless : ¬((1.0 : Float) < 1.0) := by decide
    rw [hnotes]
    constructor
    · exact fun hcorrect => absurd hcorrect (feedbackOf_ne_correct hnote more)
    · intro hfull
      rw [hfull] at hlt
      exact absurd hlt hless

/-- **A wrong claim is told of**, whatever the details are. -/
theorem tells_of_ne (h : v.hasBug ≠ e.hasBug) : Tells (tally e v) := by
  obtain ⟨note, hnote, hclaim⟩ := forClaim_of_ne h
  apply Or.inr
  cases hread : v.isDegraded with
  | true =>
    have hnone : (0.0 : Float) < 1.0 := by decide
    rw [tally_unread hread, hclaim]
    exact ⟨hnone, note, _, hnote, rfl⟩
  | false =>
    rw [tally_read hread, hclaim]
    refine ⟨?_, note, _, hnote, rfl⟩
    show (forDetails 0.0 e v).1 < 1.0
    rcases (forDetails_compared 0.0 e v).points with hfull | hpart | hnone
    · rw [hfull]
      decide
    · rw [hpart]
      decide
    · rw [hnone]
      decide

/-- **A right claim is told of with its details**, but where the label lists no bug. -/
theorem tells_of_eq (h : v.hasBug = e.hasBug) (hlisted : ¬Unlisted e v) : Tells (tally e v) := by
  have hclaim := forClaim_of_eq h
  cases hread : v.isDegraded with
  | true =>
    rw [tally_unread hread, hclaim]
    exact Or.inr ⟨by decide, _, [], .unread, rfl⟩
  | false =>
    rw [tally_read hread, hclaim]
    have hdetails := forDetails_compared (0.0 + 0.5) e v
    simp only [List.nil_append]
    generalize forDetails (0.0 + 0.5) e v = t at hdetails ⊢
    cases hdetails with
    | full =>
      have hsum : ((0.0 + 0.5 : Float) + 0.5) = 1.0 := by decide
      exact Or.inl (by rw [hsum])
    | part _ hnote =>
      have hless : (0.0 + 0.5 + 0.25 : Float) < 1.0 := by decide
      exact Or.inr ⟨hless, _, [], hnote, rfl⟩
    | unlisted label wants listed => exact absurd ⟨label, wants, h.trans label, hread, listed⟩ hlisted
    | lost _ _ hnote =>
      have hless : (0.0 + 0.5 : Float) < 1.0 := by decide
      exact Or.inr ⟨hless, _, [], hnote, rfl⟩

/-- **Every loss is noted**, but that of a bug where the label lists none. -/
theorem tally_tells (h : ¬Unlisted e v) : Tells (tally e v) := by
  by_cases hclaim : v.hasBug = e.hasBug
  · exact tells_of_eq hclaim h
  · exact tells_of_ne hclaim

/-- A bug that the label does not list earns nothing, and nothing is said. -/
theorem standard_of_unlisted (h : Unlisted e v) : standard e v = ⟨0.5, some "correct"⟩ := by
  have hwants : (Findings.ofText e.details).bugs = [] := h.wants
  have hdetails : forDetails (0.0 + 0.5) e v = (0.0 + 0.5, []) := by
    simp [forDetails, h.label, h.listed, hwants]
  have htally : tally e v = (0.0 + 0.5, []) := by
    rw [tally_read h.readable, forClaim_of_eq (h.claim.trans h.label.symm), hdetails]
    rfl
  have hsum : (0.0 + 0.5 : Float) = 0.5 := by decide
  rw [standard, htally]
  simp only [hsum]
  rfl

end Standard

/-- **Feedback says that all is correct exactly for all points**, and otherwise is made of notes on the losses. The
exception is a verdict that lists a bug where the label claims one and lists none: it has half a point, and is told
that all is correct. -/
theorem standard_correct_iff (e : Sample) (v : Verdict) :
    (((standard e v).feedback = some "correct" ↔ (standard e v).score = 1.0) ↔ ¬Unlisted e v) ∧
    ((standard e v).score = 1.0 → (standard e v).feedback = some "correct") ∧
    ((standard e v).score ≠ 1.0 → ¬Unlisted e v → (standard e v).score < 1.0 ∧ ∃ note more, IsNote note ∧
      (standard e v).feedback = some ("; ".intercalate (note :: more))) ∧
    (Unlisted e v → standard e v = ⟨0.5, some "correct"⟩) := by
  by_cases hlisted : Unlisted e v
  · have hhalf : ¬(0.5 : Float) = 1.0 := by decide
    rw [standard_of_unlisted hlisted]
    refine ⟨⟨fun hiff => absurd (hiff.1 rfl) hhalf, fun hnot => absurd hlisted hnot⟩, ?_, ?_, fun _ => rfl⟩
    · exact fun hfull => absurd hfull hhalf
    · exact fun _ hnot => absurd hlisted hnot
  · have htells := tally_tells hlisted
    have hcorrect := htells.feedback
    have hstandard : standard e v = ⟨(tally e v).1, some (feedbackOf (tally e v).2)⟩ := rfl
    rw [hstandard]
    refine ⟨⟨fun _ => hlisted, fun _ => ?_⟩, ?_, ?_, fun h => absurd h hlisted⟩
    · rw [Option.some.injEq]
      exact hcorrect
    · exact fun hfull => congrArg some (hcorrect.2 hfull)
    · intro hless _
      rcases htells with hfull | ⟨hlt, note, more, hnote, hnotes⟩
      · exact absurd (congrArg Prod.fst hfull) hless
      · refine ⟨hlt, note, more, hnote, ?_⟩
        rw [hnotes]
        rfl

/-- Half a point with nothing to say. -/
theorem standard_unlisted_bug :
    let e : Sample := ⟨"int x;", true, "\x7b\"bugs\": []\x7d", none⟩
    let v := Verdict.ofFields "True" "\x7b\"bugs\": [\x7b\"bug_type_id\": \"A.1\"\x7d]\x7d"
    (standard e v).feedback = some "correct" ∧ (standard e v).score = 0.5 ∧ (standard e v).score ≠ 1.0 := by
  decide +kernel

end SnippetAudit.Grade
