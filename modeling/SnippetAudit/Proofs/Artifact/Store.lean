import SnippetAudit.Artifact.Store
import SnippetAudit.Proofs.Artifact.RoundTrip
import SnippetAudit.Proofs.Files.Path
import SnippetAudit.Proofs.Files.Walk

/-!
# Stored artifacts are loaded

An artifact that was saved is loaded from the path that saving returned, with two exceptions (`load_store`).

- A path without a name before its end was given the name `.json`, which is no format to load (`format_target`).
- A path that reaches its directory through a link leads nowhere when the artifact has taken the place of that link.
-/

namespace SnippetAudit.Artifact

/-! ## The path of a stored artifact -/

/-- A path that is given a name by saving: it has no format and no name at its end. -/
def Nameless (p : Path) : Prop := Format.ofPath? p = none ∧ p.Open

/-- **The format that is loaded is the one that was saved**, but for nameless paths. -/
theorem format_target (p : Path) :
    (Nameless p → Format.ofPath? (target p).1 = none) ∧
      (¬Nameless p → Format.ofPath? (target p).1 = some (target p).2) := by
  unfold target Nameless
  cases hf : Format.ofPath? p with
  | some f => simp [hf]
  | none =>
    have hext := p.extension?_appendText
    by_cases hopen : p.Open
    · rw [if_pos hopen] at hext
      simp [hopen, Format.ofPath?, hext]
    · rw [if_neg hopen] at hext
      simp [hopen, Format.ofPath?, hext]

/-- The tree with the directories of an artifact. -/
def prepared (fs : Files) (p : Path) : Files := (fs.withDirectories (directoryOf (target p).1)).1

/-- **What saving has done when it returns a path.** -/
theorem replace_of_store {fs fs' : Files} {p q : Path} {a : Artifact} (h : store fs p a = (fs', .ok q)) :
    q = (target p).1 ∧ (prepared fs p).replace q (a.encode (target p).2) = .ok fs' := by
  unfold store at h
  unfold prepared
  generalize hd : fs.withDirectories (directoryOf (target p).1) = d at h ⊢
  obtain ⟨fs₁, _ | _⟩ := d
  · simp [hd] at h
  · simp only [hd] at h
    cases hr : fs₁.replace (target p).1 (a.encode (target p).2) with
    | error e => simp [hr] at h
    | ok fs₂ =>
      simp only [hr, Prod.mk.injEq, Except.ok.injEq] at h
      obtain ⟨rfl, rfl⟩ := h
      exact ⟨rfl, hr⟩

/-- A path whose way to its directory follows a link that stands where the path ends. -/
def ThroughItself (fs : Files) (p : Path) : Prop :=
  ∃ place name ls m, fs.LandsAt p place name ls m ∧ place ++ [name] ∈ ls

/-! ## Loading -/

/-- **An artifact saved under a path with a format** is loaded from it, unless the path leads through itself. -/
theorem load_stored {fs fs' : Files} {p q : Path} {f : Format} {a : Artifact} (ha : a.createdAt.isValid = true)
    (hf : Format.ofPath? p = some f) (h : store fs p a = (fs', .ok q)) :
    q = p ∧ (ThroughItself (prepared fs p) p → load fs' p = .error (.io .notDirectory)) ∧
      (¬ThroughItself (prepared fs p) p → ∃ b, load fs' p = .ok b ∧ a.Kept b) := by
  obtain ⟨rfl, hreplace⟩ := replace_of_store h
  have htarget : target p = (p, f) := by simp only [target, hf]
  rw [htarget] at hreplace ⊢
  obtain ⟨place, name, ls, m, hlands, rfl⟩ := Files.landsAt_of_replace hreplace
  refine ⟨rfl, fun hthrough => ?_, fun hthrough => ?_⟩
  · obtain ⟨place', name', ls', m', hlands', hmem⟩ := hthrough
    obtain ⟨rfl, rfl, rfl⟩ := hlands.unique hlands'
    simp only [load, hf, hlands.read_stopped hmem]
  · have hls : place ++ [name] ∉ ls := fun hmem => hthrough ⟨place, name, ls, m, hlands, hmem⟩
    obtain ⟨b, hb, hk⟩ := exists_kept ha f
    exact ⟨b, by simp only [load, hf, hlands.read_put hls, hb], hk⟩

/-- **A saved artifact is loaded again**, unless its path was nameless, or leads through itself. -/
theorem load_store {fs fs' : Files} {p q : Path} {a : Artifact} (ha : a.createdAt.isValid = true)
    (h : store fs p a = (fs', .ok q)) :
    (Nameless p → load fs' q = .error (.unsupportedFormat q.text)) ∧
      (¬Nameless p → ThroughItself (prepared fs p) q → load fs' q = .error (.io .notDirectory)) ∧
      (¬Nameless p → ¬ThroughItself (prepared fs p) q → ∃ b, load fs' q = .ok b ∧ a.Kept b) := by
  obtain ⟨rfl, hreplace⟩ := replace_of_store h
  obtain ⟨hnone, hsome⟩ := format_target p
  obtain ⟨place, name, ls, m, hlands, rfl⟩ := Files.landsAt_of_replace hreplace
  refine ⟨fun hn => ?_, fun hn hthrough => ?_, fun hn hthrough => ?_⟩
  · simp only [load, hnone hn]
  · obtain ⟨place', name', ls', m', hlands', hmem⟩ := hthrough
    obtain ⟨rfl, rfl, rfl⟩ := hlands.unique hlands'
    simp only [load, hsome hn, hlands.read_stopped hmem]
  · have hls : place ++ [name] ∉ ls := fun hmem => hthrough ⟨place, name, ls, m, hlands, hmem⟩
    obtain ⟨b, hb, hk⟩ := exists_kept ha (target p).2
    refine ⟨b, ?_, hk⟩
    simp only [load, hsome hn, hlands.read_put hls, hb]

/-- A path that ends in a slash is stored without a format to load. -/
theorem load_store_slash : ∃ fs', store .empty ⟨"models/"⟩ odd = (fs', .ok ⟨"models/.json"⟩) ∧
    load fs' ⟨"models/.json"⟩ = .error (.unsupportedFormat "models/.json") :=
  ⟨_, rfl, rfl⟩

theorem load_store_unknown : odd.createdAt.isValid = true ∧ ¬Nameless ⟨"m.pkl"⟩ ∧
    ¬ThroughItself (prepared .empty ⟨"m.pkl"⟩) ⟨"m.pkl.json"⟩ ∧
    ∃ fs', store .empty ⟨"m.pkl"⟩ odd = (fs', .ok ⟨"m.pkl.json"⟩) ∧
      ∃ b, load fs' ⟨"m.pkl.json"⟩ = .ok b ∧ odd.Kept b := by
  have hname : ¬Nameless ⟨"m.pkl"⟩ := by
    unfold Nameless
    decide
  have hthrough : ¬ThroughItself (prepared .empty ⟨"m.pkl"⟩) ⟨"m.pkl.json"⟩ := by
    rintro ⟨place, name, ls, m, hlands, hmem⟩
    -- There is nothing on the way to a name in the working directory.
    cases hlands.walk.unique (.done _ _)
    cases hmem
  obtain ⟨fs', hstore⟩ : ∃ fs', store .empty ⟨"m.pkl"⟩ odd = (fs', .ok ⟨"m.pkl.json"⟩) := ⟨_, rfl⟩
  exact ⟨by decide, hname, hthrough, fs', hstore, (load_store (by decide) hstore).2.2 hname hthrough⟩

end SnippetAudit.Artifact
