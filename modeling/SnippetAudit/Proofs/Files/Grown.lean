import SnippetAudit.Proofs.Files.Walk

/-!
# Trees that have grown

The directories of a path are made where they are missing. That only ever adds directories where nothing was
(`withDirectories_grown`), whether it succeeds or stops on the way, so every file stays what it was and is read as it
was (`Grown.read`). When it succeeds, the path leads to a directory (`isDirectory_of_withDirectories`).
-/

namespace SnippetAudit.Files

variable {fs fs' fs'' : Files}

/-! ## What is asked of a tree -/

theorem resolve_eq_ok {p : Path} {place : Place} : fs.resolve p = .ok place ↔
    checked p = .ok () ∧ ∃ m, fs.follow linkLimit (fs.start p) p.segments = .ok (place, m) := by
  unfold resolve
  cases checked p with
  | error e => simp [bind, Except.bind]
  | ok =>
    cases fs.follow linkLimit (fs.start p) p.segments with
    | error e => simp [bind, Except.bind]
    | ok r => simp [bind, Except.bind, pure, Except.pure, Prod.ext_iff]

theorem read_eq_ok {p : Path} {content : ByteArray} : fs.read p = .ok content ↔
    ∃ place, fs.resolve p = .ok place ∧ fs.entry? place = some (.file content) := by
  unfold read
  cases fs.resolve p with
  | error e => simp [bind, Except.bind]
  | ok place =>
    simp only [bind, Except.bind, Except.ok.injEq, exists_eq_left']
    cases fs.entry? place with
    | none => simp [throw, throwThe, MonadExceptOf.throw]
    | some e => cases e <;> simp [throw, throwThe, MonadExceptOf.throw, pure, Except.pure]

theorem pathExists_of_read {p : Path} {content : ByteArray} (h : fs.read p = .ok content) :
    fs.pathExists p = true := by
  obtain ⟨place, hplace, hentry⟩ := read_eq_ok.1 h
  simp only [pathExists, lookup?, hplace, hentry, Option.isSome_some]

theorem isDirectory_iff {p : Path} : fs.isDirectory p = true ↔
    ∃ place, fs.resolve p = .ok place ∧ fs.isDirectoryAt place = true := by
  unfold isDirectory lookup? isDirectoryAt
  cases fs.resolve p with
  | error e => simp
  | ok place => simp

/-! ## Growth -/

/-- A tree with the same entries, and directories where nothing was. -/
structure Grown (fs fs' : Files) : Prop where
  here : fs'.here = fs.here
  entries : ∀ p, fs'.entry? p = fs.entry? p ∨ fs.entry? p = none ∧ fs'.entry? p = some .directory

namespace Grown

theorem refl (fs : Files) : Grown fs fs := ⟨rfl, fun _ => .inl rfl⟩

theorem trans (h : Grown fs fs') (h' : Grown fs' fs'') : Grown fs fs'' where
  here := h'.here.trans h.here
  entries p := by
    rcases h'.entries p with he' | ⟨hnone, hdir⟩
    · rw [he']
      exact h.entries p
    · rcases h.entries p with he | ⟨-, hdir'⟩
      · exact .inr ⟨he ▸ hnone, hdir⟩
      · rw [hdir'] at hnone
        cases hnone

/-- What was there is there. -/
theorem keeps (h : Grown fs fs') {p : Place} {e : Entry} (he : fs.entry? p = some e) : fs'.entry? p = some e := by
  rcases h.entries p with h | ⟨hnone, -⟩
  · rw [h, he]
  · rw [he] at hnone
    cases hnone

theorem isDirectoryAt (h : Grown fs fs') {p : Place} (hp : fs.isDirectoryAt p = true) :
    fs'.isDirectoryAt p = true := by
  unfold Files.isDirectoryAt at hp ⊢
  cases he : fs.entry? p with
  | none => simp [he] at hp
  | some e =>
    rw [h.keeps he]
    simpa [he] using hp

theorem enter (h : Grown fs fs') {at_ : Place} {seg : List Char} {s : Step} (hs : fs.enter at_ seg = .ok s) :
    fs'.enter at_ seg = .ok s := by
  have hd := isDirectoryAt_of_enter hs
  rcases enter_cases hs with ⟨hname, hsize⟩ | ⟨p, rfl, hall⟩
  · rw [enter_name hd hname hsize] at hs
    rw [enter_name (h.isDirectoryAt hd) hname hsize]
    cases he : fs.entry? (at_ ++ [String.ofList seg]) with
    | none => simp [he] at hs
    | some e =>
      rw [h.keeps he]
      simpa [he] using hs
  · exact hall fs' (h.isDirectoryAt hd)

/-- **Every walk stays.** -/
theorem walk (h : Grown fs fs') {n m : Nat} {at_ q : Place} {segs : List (List Char)} {ls : List Place}
    (hw : Walk fs n at_ segs ls q m) : Walk fs' n at_ segs ls q m := by
  induction hw with
  | done n at_ => exact .done n at_
  | place hs _ ih => exact .place (h.enter hs) ih
  | link hs _ ih => exact .link (h.enter hs) ih

theorem start (h : Grown fs fs') (p : Path) : fs'.start p = fs.start p := by
  rw [Files.start, Files.start, h.here]

theorem resolve (h : Grown fs fs') {p : Path} {place : Place} (hp : fs.resolve p = .ok place) :
    fs'.resolve p = .ok place := by
  obtain ⟨hchecked, m, hfollow⟩ := resolve_eq_ok.1 hp
  obtain ⟨ls, hw⟩ := walk_of_follow _ _ hfollow
  exact resolve_eq_ok.2 ⟨hchecked, m, by rw [h.start p, (h.walk hw).follow]⟩

/-- **A file is read as it was.** -/
theorem read (h : Grown fs fs') {p : Path} {content : ByteArray} (hp : fs.read p = .ok content) :
    fs'.read p = .ok content := by
  obtain ⟨place, hplace, hentry⟩ := read_eq_ok.1 hp
  exact read_eq_ok.2 ⟨place, h.resolve hplace, h.keeps hentry⟩

end Grown

/-! ## Making directories -/

theorem makeDirectory_ok {p : Path} (h : fs.makeDirectory p = .ok fs') :
    ∃ place name, fs.parentOf p = .ok (place, .name name) ∧ fs.entry? (place ++ [name]) = none ∧
      fs' = fs.put (place ++ [name]) .directory := by
  unfold makeDirectory at h
  cases hparent : fs.parentOf p with
  | error e => simp [hparent, bind, Except.bind] at h
  | ok r =>
    obtain ⟨place, last⟩ := r
    cases last with
    | dots => simp [hparent, bind, Except.bind, throw, throwThe, MonadExceptOf.throw] at h
    | name s =>
      cases hentry : fs.entry? (place ++ [s]) with
      | some e => simp [hparent, hentry, bind, Except.bind, throw, throwThe, MonadExceptOf.throw] at h
      | none =>
        simp only [hparent, hentry, bind, Except.bind, pure, Except.pure, Except.ok.injEq] at h
        exact ⟨place, s, rfl, hentry, h.symm⟩

/-- **One more directory.** -/
theorem grown_put_directory {t : Place} (h : fs.entry? t = none) : Grown fs (fs.put t .directory) where
  here := rfl
  entries p := by
    by_cases hp : p = t
    · subst hp
      have hne : p ≠ [] := by
        rintro rfl
        cases h
      exact .inr ⟨h, entry?_put_self fs hne _⟩
    · exact .inl (entry?_put_ne hp)

theorem makeDirectory_grown {p : Path} (h : fs.makeDirectory p = .ok fs') : Grown fs fs' := by
  obtain ⟨place, name, -, hentry, rfl⟩ := makeDirectory_ok h
  exact grown_put_directory hentry

section Keeps

variable {P : Files → Prop} (step : ∀ {fs fs' : Files} {p : Path}, P fs → fs.makeDirectory p = .ok fs' → P fs')
include step

theorem ensureDirectory_keeps {p : Path} (hfs : P fs) (h : fs.ensureDirectory p = .ok fs') : P fs' := by
  unfold ensureDirectory at h
  split at h
  · next hmade =>
    cases h
    exact step hfs hmade
  · split at h
    · cases h
      exact hfs
    · cases h

/-- What one more directory keeps is kept by all of them. -/
theorem makeDirectories_keeps (hfs : P fs) (fuel : Nat) : ∀ p : Path, P (fs.makeDirectories p fuel).1 := by
  induction fuel with
  | zero => exact fun _ => hfs
  | succ fuel ih =>
    intro p
    unfold makeDirectories
    split
    · exact hfs
    · split
      · next hmade => exact step hfs hmade
      · split
        · exact hfs
        · next q _ =>
          have hq := ih q
          split
          · next hmade => rwa [hmade] at hq
          · next hmade =>
            rw [hmade] at hq
            split
            · next hensured => exact ensureDirectory_keeps step hq hensured
            · exact hq
      · split <;> exact hfs

end Keeps

/-- **Directories are all that is added.** -/
theorem withDirectories_grown (fs : Files) (p : Path) : Grown fs (fs.withDirectories p).1 :=
  makeDirectories_keeps (fun hgrown hmade => hgrown.trans (makeDirectory_grown hmade)) (.refl fs) _ p

/-! ## The directory that was made -/

theorem follow_replicate {at_ : Place} (hd : fs.isDirectoryAt at_ = true) (n : Nat) : ∀ k : Nat,
    fs.follow n at_ (List.replicate k []) = .ok (at_, n)
  | 0 => follow_nil fs n at_
  | k + 1 => by
    have henter : fs.enter at_ [] = .ok (.place at_) := by simp [enter, hd]
    rw [List.replicate_succ, follow_place henter]
    exact follow_replicate hd n k

theorem isDirectory_of_makeDirectory {p : Path} (h : fs.makeDirectory p = .ok fs') : fs'.isDirectory p = true := by
  have hgrown := makeDirectory_grown h
  obtain ⟨place, name, hparent, hentry, rfl⟩ := makeDirectory_ok h
  obtain ⟨hchecked, hlast, m, hdirectory⟩ := parentOf_ok hparent
  obtain ⟨hfollow, hd, hsize⟩ := directoryOf_ok hdirectory
  obtain ⟨ls, hw⟩ := walk_of_follow _ _ hfollow
  obtain ⟨k, hsegs, hname⟩ := segments_of_cut hlast
  have hnew : Files.entry? (fs.put (place ++ [name]) .directory) (place ++ [name]) = some .directory :=
    entry?_put_self fs (by simp) _
  have hnew' : (fs.put (place ++ [name]) .directory).isDirectoryAt (place ++ [name]) = true := by
    simp [isDirectoryAt, hnew]
  have henter : (fs.put (place ++ [name]) .directory).enter place name.toList = .ok (.place (place ++ [name])) := by
    rw [enter_name (hgrown.isDirectoryAt hd) hname (by rw [String.ofList_toList]; exact hsize name hlast),
      String.ofList_toList, hnew]
  refine isDirectory_iff.2 ⟨place ++ [name], resolve_eq_ok.2 ⟨hchecked, m, ?_⟩, hnew'⟩
  rw [hgrown.start p, hsegs, (hgrown.walk hw).follow_append, follow_place henter]
  exact follow_replicate hnew' m k

theorem isDirectory_of_ensureDirectory {p : Path} (h : fs.ensureDirectory p = .ok fs') :
    fs'.isDirectory p = true := by
  unfold ensureDirectory at h
  split at h
  · next hmade =>
    cases h
    exact isDirectory_of_makeDirectory hmade
  · split at h
    · next hthere =>
      cases h
      exact hthere
    · cases h

theorem isDirectory_of_makeDirectories {p : Path} (hp : p.text.isEmpty = false) {fuel : Nat}
    (h : fs.makeDirectories p fuel = (fs', .ok ())) : fs'.isDirectory p = true := by
  cases fuel with
  | zero => cases h
  | succ fuel =>
    unfold makeDirectories at h
    rw [hp, if_neg Bool.false_ne_true] at h
    split at h
    · next hmade =>
      cases h
      exact isDirectory_of_makeDirectory hmade
    · split at h
      · cases h
      · split at h
        · cases h
        · split at h
          · next hensured =>
            cases h
            exact isDirectory_of_ensureDirectory hensured
          · cases h
    · split at h
      · next hthere =>
        cases h
        exact hthere
      · cases h

/-- **Where all directories were made, the path leads to one.** -/
theorem isDirectory_of_withDirectories {p : Path} (hp : p.text.isEmpty = false)
    (h : fs.withDirectories p = (fs', .ok ())) : fs'.isDirectory p = true :=
  isDirectory_of_makeDirectories hp h

end SnippetAudit.Files
