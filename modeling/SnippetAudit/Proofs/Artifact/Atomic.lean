import SnippetAudit.Proofs.Artifact.Store
import SnippetAudit.Proofs.Backend.Logged
import SnippetAudit.Proofs.Files.Rename

/-!
# Saving is all or nothing

An artifact is written to a temporary file beside its path, which is then renamed. Written out step by step (`stage`),
with a fault at any of them, saving has one of two ends.

- It fails, and the tree has grown by directories alone (`stage_error`).
- It succeeds, and has done what putting the finished file in its place does (`stage_ok`): the place where the path ends
  holds the artifact, and all other places are as they were or new directories.

Without faults the steps do what `store` does at once (`stage_eq_store`).
-/

namespace SnippetAudit.Artifact

/-! ## The steps -/

/-- What may be refused for other reasons than the tree: the temporary file, what is written to it, with the part that
was written, and its renaming. -/
structure Faults where
  create : Option IoError
  write : Option (ByteArray × IoError)
  rename : Option IoError

/-- Nothing is refused. -/
def Faults.none : Faults := ⟨.none, .none, .none⟩

/-- Makes a temporary file under a name of a directory; tells its place. -/
def createIn (fault : Option IoError) (fs : Files) (directory : Path) (name : String) :
    Except IoError (Files × Place) := do
  let place ← fs.resolve directory
  if !fs.isDirectoryAt place then throw .notDirectory
  match fault with
  | some e => throw e
  | none => pure (fs.put (place ++ [name]) (.file .empty), place ++ [name])

/-- Writes a temporary file and renames it; where that is refused, takes it away. -/
def persist (faults : Faults) (fs : Files) (t : Place) (p : Path) (content : ByteArray) : Files × Except IoError Unit :=
  match faults.write with
  | some (written, e) => ((fs.put t (.file written)).erase t, .error e)
  | none =>
    let written := fs.put t (.file content)
    match faults.rename with
    | some e => (written.erase t, .error e)
    | none =>
      match written.rename t p with
      | .error e => (written.erase t, .error e)
      | .ok fs' => (fs', .ok ())

/-- Saves an artifact by way of a temporary file. -/
def stage (temp : String) (faults : Faults) (fs : Files) (p : Path) (a : Artifact) : Files × Except Failure Path :=
  let (path, format) := target p
  match fs.withDirectories (directoryOf path) with
  | (fs, .error e) => (fs, .error (.io e))
  | (fs, .ok ()) =>
    match createIn faults.create fs (directoryOf path) temp with
    | .error e => (fs, .error (.io e))
    | .ok (fs, t) =>
      match persist faults fs t path (a.encode format) with
      | (fs, .error e) => (fs, .error (.io e))
      | (fs, .ok ()) => (fs, .ok path)

/-- A name that nothing has in the directory of an artifact. -/
def Fresh (fs : Files) (p : Path) (temp : String) : Prop :=
  ∀ place, (prepared fs p).resolve (directoryOf (target p).1) = .ok place →
    Files.entry? (prepared fs p) (place ++ [temp]) = none

/-! ## One by one -/

section Steps

variable {fs fs' : Files} {t : Place} {p : Path} {content : ByteArray}

theorem createIn_ok {fault : Option IoError} {directory : Path} {name : String}
    (h : createIn fault fs directory name = .ok (fs', t)) :
    ∃ place, fs.resolve directory = .ok place ∧ t = place ++ [name] ∧ fs' = fs.put t (.file .empty) := by
  unfold createIn at h
  cases hplace : fs.resolve directory with
  | error e => simp [hplace, bind, Except.bind] at h
  | ok place =>
    cases hd : fs.isDirectoryAt place with
    | false => simp [hplace, hd, bind, Except.bind, throw, throwThe, MonadExceptOf.throw] at h
    | true =>
      cases fault with
      | some e => simp [hplace, hd, bind, Except.bind, throw, throwThe, MonadExceptOf.throw] at h
      | none =>
        simp only [hplace, hd, bind, Except.bind, pure, Except.pure, Bool.not_true, Bool.false_eq_true, if_false,
          Except.ok.injEq, Prod.mk.injEq] at h
        obtain ⟨rfl, rfl⟩ := h
        exact ⟨place, rfl, rfl, rfl⟩

/-- A directory takes a temporary file. -/
theorem createIn_none {directory : Path} (h : fs.isDirectory directory = true) (name : String) :
    ∃ place, fs.resolve directory = .ok place ∧
      createIn none fs directory name = .ok (fs.put (place ++ [name]) (.file .empty), place ++ [name]) := by
  obtain ⟨place, hplace, hd⟩ := Files.isDirectory_iff.1 h
  exact ⟨place, hplace, by simp [createIn, hplace, hd, bind, Except.bind, pure, Except.pure]⟩

/-- A temporary file is renamed, or taken away. -/
theorem persist_cases (faults : Faults) (h : fs.entry? t = none) (p : Path) (content : ByteArray) :
    (∃ e, persist faults (fs.put t (.file .empty)) t p content = (fs, .error e)) ∨
      ∃ fs', persist faults (fs.put t (.file .empty)) t p content = (fs', .ok ()) ∧ fs.replace p content = .ok fs' := by
  unfold persist
  simp only [Files.put_put, Files.erase_put h]
  cases faults.write with
  | some r => exact .inl ⟨r.2, rfl⟩
  | none =>
    cases faults.rename with
    | some e => exact .inl ⟨e, rfl⟩
    | none =>
      cases hrename : (fs.put t (.file content)).rename t p with
      | error e => exact .inl ⟨e, rfl⟩
      | ok fs' => exact .inr ⟨fs', rfl, (Files.rename_put h).1 hrename⟩

/-- Without faults it is renamed where it can be put. -/
theorem persist_none (h : fs.entry? t = none) (hreplace : fs.replace p content = .ok fs') :
    persist .none (fs.put t (.file .empty)) t p content = (fs', .ok ()) := by
  simp only [persist, Faults.none, Files.put_put, (Files.rename_put h).2 hreplace]

end Steps

/-! ## All of them -/

theorem directoryOf_text (p : Path) : (directoryOf p).text.isEmpty = false := by
  unfold directoryOf
  cases p.parent? with
  | none => decide
  | some q =>
    cases h : q.text.isEmpty with
    | true => simp [h]
    | false => simp [h]

section Stage

variable {fs fs' : Files} {p q : Path} {temp : String} {faults : Faults} {a : Artifact}

/-- **Saving fails with the directories made, or does what putting the file in its place does.** -/
theorem stage_cases (hfresh : Fresh fs p temp) (faults : Faults) (a : Artifact) :
    (∃ e, stage temp faults fs p a = (prepared fs p, .error e)) ∨
      ∃ fs', stage temp faults fs p a = (fs', .ok (target p).1) ∧
        (prepared fs p).replace (target p).1 (a.encode (target p).2) = .ok fs' := by
  unfold Fresh prepared at hfresh
  unfold stage prepared
  cases hmade : fs.withDirectories (directoryOf (target p).1) with
  | mk fs₁ made =>
    rw [hmade] at hfresh
    cases made with
    | error e => exact .inl ⟨.io e, by simp only [hmade]⟩
    | ok =>
      simp only [hmade]
      cases hcreate : createIn faults.create fs₁ (directoryOf (target p).1) temp with
      | error e => exact .inl ⟨.io e, rfl⟩
      | ok r =>
        obtain ⟨fs₂, t⟩ := r
        obtain ⟨place, hplace, rfl, rfl⟩ := createIn_ok hcreate
        rcases persist_cases faults (hfresh place hplace) (target p).1 (a.encode (target p).2) with
          ⟨e, he⟩ | ⟨fs', hfs', hreplace⟩
        · exact .inl ⟨.io e, by simp only [he]⟩
        · exact .inr ⟨fs', by simp only [hfs'], hreplace⟩

/-- **Without faults the steps do what saving at once does**, up to the reason of a failure. -/
theorem stage_none (hfresh : Fresh fs p temp) (a : Artifact) :
    (stage temp .none fs p a).1 = (store fs p a).1 ∧
      ∀ q, (stage temp .none fs p a).2 = .ok q ↔ (store fs p a).2 = .ok q := by
  unfold Fresh prepared at hfresh
  unfold stage store
  cases hmade : fs.withDirectories (directoryOf (target p).1) with
  | mk fs₁ made =>
    rw [hmade] at hfresh
    cases made with
    | error e => simp only [hmade, implies_true, and_self]
    | ok =>
      have hd := Files.isDirectory_of_withDirectories (directoryOf_text _) hmade
      obtain ⟨place, hplace, hcreate⟩ := createIn_none hd temp
      have hvacant := hfresh place hplace
      simp only [hmade, Faults.none, hcreate]
      cases hreplace : fs₁.replace (target p).1 (a.encode (target p).2) with
      | ok fs' =>
        have hpersist := persist_none hvacant hreplace
        rw [Faults.none] at hpersist
        simp only [hpersist, implies_true, and_self]
      | error e =>
        rcases persist_cases Faults.none hvacant (target p).1 (a.encode (target p).2) with
          ⟨e', hpersist⟩ | ⟨fs', -, hreplace'⟩
        · rw [Faults.none] at hpersist
          simp only [hpersist, reduceCtorEq, implies_true, and_self]
        · rw [hreplace] at hreplace'
          cases hreplace'

end Stage

/-! ## All or nothing -/

theorem prepared_grown (fs : Files) (p : Path) : fs.Grown (prepared fs p) := Files.withDirectories_grown fs _

theorem save_apply {σ : Type} (p : Path) (a : Artifact) (run : Run σ) :
    (save p a run).1 = (store run.files p a).2 ∧ (save p a run).2.files = (store run.files p a).1 := by
  unfold save
  rw [Audit.bind_apply, Audit.files_apply]
  cases store run.files p a with
  | mk fs' outcome => cases outcome <;> exact ⟨rfl, rfl⟩

/-- **Saving is all or nothing**, whatever is refused on the way. When it fails, there are new directories at most, and
every file is read as before. When it succeeds, the place where the path ends holds the artifact, and all other places
are as before or new directories; the artifact is read under the path, unless this leads through a link that the
artifact has taken the place of. Without faults, this is what `save` does. -/
theorem save_atomic {fs : Files} {p : Path} {temp : String} (hfresh : Fresh fs p temp) (faults : Faults)
    (a : Artifact) :
    let done := stage temp faults fs p a
    (∀ e, done.2 = .error e →
      fs.Grown done.1 ∧ ∀ r content, fs.read r = .ok content → done.1.read r = .ok content) ∧
    (∀ q, done.2 = .ok q → q = (target p).1 ∧
      ∃ place name ls m, (prepared fs p).LandsAt q place name ls m ∧
        Files.entry? done.1 (place ++ [name]) = some (.file (a.encode (target p).2)) ∧ done.1.here = fs.here ∧
        (∀ r, r ≠ place ++ [name] →
          Files.entry? done.1 r = fs.entry? r ∨ fs.entry? r = none ∧ Files.entry? done.1 r = some .directory) ∧
        (place ++ [name] ∉ ls → done.1.read q = .ok (a.encode (target p).2)) ∧
        (place ++ [name] ∈ ls → done.1.read q = .error .notDirectory)) ∧
    ∀ {σ : Type} (run : Run σ), run.files = fs →
      (save p a run).2.files = (stage temp .none fs p a).1 ∧
        ∀ q, (save p a run).1 = .ok q ↔ (stage temp .none fs p a).2 = .ok q := by
  have hgrown := prepared_grown fs p
  refine ⟨fun e h => ?_, fun q h => ?_, fun run hfiles => ?_⟩
  · rcases stage_cases hfresh faults a with ⟨e', he⟩ | ⟨fs', hok, -⟩
    · simp only [he]
      exact ⟨hgrown, fun r content => hgrown.read⟩
    · simp only [hok, reduceCtorEq] at h
  · rcases stage_cases hfresh faults a with ⟨e', he⟩ | ⟨fs', hok, hreplace⟩
    · simp only [he, reduceCtorEq] at h
    · simp only [hok] at h ⊢
      obtain rfl : (target p).1 = q := Except.ok.inj h
      obtain ⟨place, name, ls, m, hlands, rfl⟩ := Files.landsAt_of_replace hreplace
      refine ⟨rfl, place, name, ls, m, hlands, Files.entry?_put_self _ (by simp) _,
        (Files.put_here _ _ _).trans hgrown.here, ?_, fun hls => hlands.read_put hls _,
        fun hls => hlands.read_stopped hls _⟩
      intro r hr
      rw [Files.entry?_put_ne hr]
      exact hgrown.entries r
  · obtain ⟨hresult, hrun⟩ := save_apply p a run
    obtain ⟨htree, hsame⟩ := stage_none hfresh a
    rw [hresult, hrun, hfiles]
    exact ⟨htree.symm, fun q => (hsame q).symm⟩

/-- A directory beside a link to it. -/
def linked : Files := ⟨[(["d"], .directory), (["l.json"], .link ⟨"d"⟩)], []⟩

/-- An artifact that takes the place of a link, and one that the disk refuses behind its first byte. -/
theorem save_atomic_linked :
    let path : Path := ⟨"m/../l.json"⟩
    let full : Faults := ⟨none, some (⟨#[0]⟩, .busy), none⟩
    Fresh linked path ".tmpQ7aX2c" ∧
    (stage ".tmpQ7aX2c" .none linked path odd).2 = .ok path ∧
    (stage ".tmpQ7aX2c" .none linked path odd).1.read path = .ok (odd.encode .json) ∧
    (stage ".tmpQ7aX2c" full linked path odd).2 = .error (.io .busy) ∧
    linked.Grown (stage ".tmpQ7aX2c" full linked path odd).1 := by
  intro path full
  have hfresh : Fresh linked path ".tmpQ7aX2c" := by
    intro place hplace
    have hdirectory : (prepared linked path).resolve (directoryOf (target path).1) = .ok [] := by decide +kernel
    rw [hdirectory, Except.ok.injEq] at hplace
    rw [← hplace]
    exact Option.isNone_iff_eq_none.1 (by decide +kernel)
  have hstage : (stage ".tmpQ7aX2c" .none linked path odd).2 = .ok path := by decide +kernel
  have hfault : (stage ".tmpQ7aX2c" full linked path odd).2 = .error (.io .busy) := by decide +kernel
  have hgrown : linked.Grown (stage ".tmpQ7aX2c" full linked path odd).1 :=
    ((save_atomic hfresh full odd).1 (.io .busy) hfault).1
  refine ⟨hfresh, hstage, ?_, hfault, hgrown⟩
  have hread : ((stage ".tmpQ7aX2c" .none linked path odd).1.read path).isOk = true := by decide +kernel
  have hformat : (target path).2 = .json := by decide +kernel
  obtain ⟨-, place, name, ls, m, -, -, -, -, hreached, hstopped⟩ := (save_atomic hfresh .none odd).2.1 _ hstage
  by_cases hls : place ++ [name] ∈ ls
  · rw [hstopped hls] at hread
    cases hread
  · rw [hreached hls, hformat]

/-- An artifact that is out of reach of the path it was saved under: its directory was reached through the link that it
has taken the place of. -/
theorem store_through_itself :
    (store linked ⟨"l.json/../l.json"⟩ odd).2 = .ok ⟨"l.json/../l.json"⟩ ∧
      (store linked ⟨"l.json/../l.json"⟩ odd).1.read ⟨"l.json/../l.json"⟩ = .error .notDirectory := by
  decide +kernel

end SnippetAudit.Artifact
