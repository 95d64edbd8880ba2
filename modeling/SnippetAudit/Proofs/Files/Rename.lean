import SnippetAudit.Proofs.Files.Grown

/-!
# Renaming

A file gets to its path in one step when it is written elsewhere first and then renamed. A file at a place where nothing
was leads nowhere, so paths lead where they led (`parentOf_agree`). Renaming it is then the same as putting it in the
place of its path at once (`rename_put`), and taking it away again leaves the tree as it was (`erase_put`).
-/

namespace SnippetAudit.Files

/-- The tree without the entry of a place. -/
def erase (fs : Files) (t : Place) : Files := { fs with entries := fs.entries.filter (·.1 ≠ t) }

/-- The place that a path has for a file: the one of its name, unless there is a directory. -/
def landing (fs : Files) (p : Path) : Except IoError Place := do
  match ← fs.parentOf p with
  | (_, .dots) => throw .busy
  | (place, .name s) =>
    if (cut p.segments).slash then throw .notDirectory
    match fs.entry? (place ++ [s]) with
    | some .directory => throw .isDirectory
    | _ => pure (place ++ [s])

/-- Moves the file of a place to a path, in one step: what was there is replaced, a link too. -/
def rename (fs : Files) (source : Place) (p : Path) : Except IoError Files := do
  let target ← fs.landing p
  match fs.entry? source with
  | none => throw .notFound
  | some e => pure ((fs.erase source).put target e)

variable {fs fs' : Files} {t : Place}

/-! ## Where nothing was -/

theorem setEntry_setEntry (p : Place) (e e' : Entry) : ∀ es : List (Place × Entry),
    setEntry p e' (setEntry p e es) = setEntry p e' es
  | [] => by simp [setEntry]
  | (q, d) :: es => by
    by_cases h : q = p
    · simp [setEntry, h]
    · simp [setEntry, h, setEntry_setEntry p e e' es]

theorem put_put (fs : Files) (t : Place) (e e' : Entry) : (fs.put t e).put t e' = fs.put t e' := by
  simp [put, setEntry_setEntry]

theorem filter_setEntry {p : Place} (e : Entry) : ∀ {es : List (Place × Entry)}, es.lookup p = none →
    (setEntry p e es).filter (·.1 ≠ p) = es
  | [], _ => by simp [setEntry]
  | (q, d) :: es, h => by
    have hq : q ≠ p := by
      rintro rfl
      simp at h
    rw [List.lookup_cons, beq_eq_false_iff_ne.2 (Ne.symm hq)] at h
    rw [setEntry, if_neg hq, List.filter_cons_of_pos (by simpa using hq), filter_setEntry e h]

theorem ne_nil_of_vacant (h : fs.entry? t = none) : t ≠ [] := by
  rintro rfl
  cases h

/-- **A new file that is taken away leaves no trace.** -/
theorem erase_put (h : fs.entry? t = none) (e : Entry) : (fs.put t e).erase t = fs := by
  have hlookup : fs.entries.lookup t = none := by simpa [ entry?, ne_nil_of_vacant h] using h
  simp only [erase, put, filter_setEntry e hlookup]

/-! ## Paths past a file -/

/-- Nothing goes on from a place: there is nothing, or a file. -/
def IsEnd (fs : Files) (t : Place) : Prop := ∀ e, fs.entry? t = some e → ∃ content, e = .file content

theorem IsEnd.isDirectoryAt (h : IsEnd fs t) : fs.isDirectoryAt t = false := by
  unfold Files.isDirectoryAt
  cases he : fs.entry? t with
  | none => rfl
  | some e =>
    obtain ⟨content, rfl⟩ := h e he
    rfl

theorem isEnd_of_vacant (h : fs.entry? t = none) : IsEnd fs t := by
  intro e he
  rw [h] at he
  cases he

theorem isEnd_put_file (fs : Files) (ht : t ≠ []) (content : ByteArray) : IsEnd (fs.put t (.file content)) t := by
  intro e he
  rw [entry?_put_self fs ht] at he
  exact ⟨content, (Option.some.inj he).symm⟩

theorem link_of_enter {at_ from_ : Place} {seg : List Char} {segs : List (List Char)}
    (h : fs.enter at_ seg = .ok (.link from_ segs)) :
    ∃ target, fs.entry? (at_ ++ [String.ofList seg]) = some (.link target) := by
  rcases enter_cases h with ⟨hname, hsize⟩ | ⟨p, hp, -⟩
  · rw [enter_name (isDirectoryAt_of_enter h) hname hsize] at h
    split at h
    · cases h
    · next target htarget => exact ⟨target, htarget⟩
    · cases h
  · cases hp

theorem Walk.link_of_mem {n m : Nat} {at_ q l : Place} {segs : List (List Char)} {ls : List Place}
    (h : Walk fs n at_ segs ls q m) (hl : l ∈ ls) : ∃ target, fs.entry? l = some (.link target) := by
  induction h with
  | done => cases hl
  | place _ _ ih => exact ih hl
  | link hs _ ih =>
    rcases List.mem_cons.1 hl with rfl | hl
    · exact link_of_enter hs
    · exact ih hl

/-- **A walk does not care for a place where nothing goes on.** -/
theorem Walk.agree_end {n m : Nat} {at_ q : Place} {segs : List (List Char)} {ls : List Place}
    (h : Walk fs n at_ segs ls q m) (hagree : AgreeBut t fs fs') (ht : IsEnd fs t)
    (hq : fs.isDirectoryAt q = true) : Walk fs' n at_ segs ls q m := by
  refine h.agree hagree hq ht.isDirectoryAt fun hl => ?_
  obtain ⟨target, htarget⟩ := h.link_of_mem hl
  obtain ⟨content, hcontent⟩ := ht _ htarget
  cases hcontent

theorem IsEnd.ne_of_directory (ht : IsEnd fs t) {p : Place} (hp : fs.isDirectoryAt p = true) : p ≠ t := by
  rintro rfl
  rw [ht.isDirectoryAt] at hp
  cases hp

theorem parentOf_eq_ok {p : Path} {place : Place} {last : Last} : fs.parentOf p = .ok (place, last) ↔
    checked p = .ok () ∧ (cut p.segments).last = last ∧
      (∃ m, fs.follow linkLimit (fs.start p) (cut p.segments).directory = .ok (place, m)) ∧
      fs.isDirectoryAt place = true ∧ ∀ s, last = .name s → s.utf8ByteSize ≤ nameLimit := by
  constructor
  · intro h
    obtain ⟨hchecked, hlast, m, hdirectory⟩ := parentOf_ok h
    obtain ⟨hfollow, hd, hsize⟩ := directoryOf_ok hdirectory
    exact ⟨hchecked, hlast, ⟨m, hfollow⟩, hd, hlast ▸ hsize⟩
  · rintro ⟨hchecked, rfl, ⟨m, hfollow⟩, hd, hsize⟩
    have hdirectory : fs.directoryOf linkLimit (fs.start p) (cut p.segments) = .ok (place, m) := by
      unfold directoryOf
      cases hlast : (cut p.segments).last with
      | dots => simp [hfollow, hd, bind, Except.bind, pure, Except.pure]
      | name s =>
        have hlimit : ¬nameLimit < s.utf8ByteSize := Nat.not_lt.2 (hsize s hlast)
        simp [hfollow, hd, hlimit, bind, Except.bind, pure, Except.pure]
    simp [parentOf, hchecked, hdirectory, bind, Except.bind, pure, Except.pure]

/-- **A path leads to its directory as before**, past a place where nothing goes on. -/
theorem parentOf_agree {p : Path} {place : Place} {last : Last} (hagree : AgreeBut t fs fs')
    (hhere : fs'.here = fs.here)
    (ht : IsEnd fs t) (h : fs.parentOf p = .ok (place, last)) : fs'.parentOf p = .ok (place, last) := by
  obtain ⟨hchecked, hlast, ⟨m, hfollow⟩, hd, hsize⟩ := parentOf_eq_ok.1 h
  obtain ⟨ls, hw⟩ := walk_of_follow _ _ hfollow
  have hstart : fs'.start p = fs.start p := by rw [start, start, hhere]
  refine parentOf_eq_ok.2 ⟨hchecked, hlast, ⟨m, ?_⟩, ?_, hsize⟩
  · rw [hstart]
    exact (hw.agree_end hagree ht hd).follow
  · rw [hagree.isDirectoryAt (ht.ne_of_directory hd), hd]

/-! ## The same in one step -/

theorem landing_eq_ok {p : Path} {target : Place} : fs.landing p = .ok target ↔
    ∃ place name, fs.parentOf p = .ok (place, .name name) ∧ (cut p.segments).slash = false ∧
      fs.isDirectoryAt target = false ∧ target = place ++ [name] := by
  unfold landing
  cases hparent : fs.parentOf p with
  | error err => simp [bind, Except.bind]
  | ok r =>
    obtain ⟨place, last⟩ := r
    cases last with
    | dots => simp [bind, Except.bind, throw, throwThe, MonadExceptOf.throw]
    | name s =>
      cases hslash : (cut p.segments).slash with
      | true => simp [bind, Except.bind, throw, throwThe, MonadExceptOf.throw]
      | false =>
        simp only [bind, Except.bind, Bool.false_eq_true, if_false]
        constructor
        · intro h
          split at h
          · cases h
          · next hfree =>
            cases h
            refine ⟨place, s, rfl, trivial, ?_, rfl⟩
            unfold isDirectoryAt
            split
            · next hd => exact absurd hd hfree
            · rfl
        · rintro ⟨_, _, hlast, -, hfree, rfl⟩
          cases hlast
          unfold isDirectoryAt at hfree
          split
          · next hd => simp [hd] at hfree
          · rfl

/-- What is put in the place of a path goes to its landing. -/
theorem replace_eq_landing (p : Path) (content : ByteArray) :
    fs.replace p content = (fs.landing p).map fun target => fs.put target (.file content) := by
  unfold replace landing
  cases fs.parentOf p with
  | error err => rfl
  | ok r =>
    obtain ⟨place, last⟩ := r
    cases last with
    | dots => rfl
    | name s =>
      simp only [bind, Except.bind]
      cases (cut p.segments).slash with
      | true => rfl
      | false =>
        cases fs.entry? (place ++ [s]) with
        | none => rfl
        | some e => cases e <;> rfl

/-- A path has the same landing past a place where nothing goes on in either tree. -/
theorem landing_agree {p : Path} {target : Place} (hagree : AgreeBut t fs fs') (hhere : fs'.here = fs.here)
    (ht : IsEnd fs t) (ht' : IsEnd fs' t) (h : fs.landing p = .ok target) : fs'.landing p = .ok target := by
  obtain ⟨place, name, hparent, hslash, hfree, rfl⟩ := landing_eq_ok.1 h
  refine landing_eq_ok.2 ⟨place, name, parentOf_agree hagree hhere ht hparent, hslash, ?_, rfl⟩
  by_cases hne : place ++ [name] = t
  · rw [hne, ht'.isDirectoryAt]
  · rw [hagree.isDirectoryAt hne, hfree]

/-- **A new file that is renamed** gets to its path as if it were put there at once. -/
theorem rename_put {p : Path} {content : ByteArray} (h : fs.entry? t = none) :
    (fs.put t (.file content)).rename t p = .ok fs' ↔ fs.replace p content = .ok fs' := by
  have ht := ne_nil_of_vacant h
  have hagree := agreeBut_put fs t (.file content)
  have hagree' : AgreeBut t (fs.put t (.file content)) fs := fun p hp => (hagree p hp).symm
  have hend := isEnd_put_file fs ht content
  have hlanding : ∀ target, (fs.put t (.file content)).landing p = .ok target ↔ fs.landing p = .ok target := fun _ =>
    ⟨landing_agree hagree' rfl hend (isEnd_of_vacant h), landing_agree hagree rfl (isEnd_of_vacant h) hend⟩
  have hrename : (fs.put t (.file content)).rename t p =
      ((fs.put t (.file content)).landing p).map fun target => fs.put target (.file content) := by
    unfold rename
    rw [entry?_put_self fs ht, erase_put h]
    cases (fs.put t (.file content)).landing p <;> rfl
  have hmap : ∀ (r : Except IoError Place) (g : Place → Files),
      r.map g = .ok fs' ↔ ∃ target, r = .ok target ∧ g target = fs' := by
    intro r g
    cases r <;> simp [Except.map]
  rw [hrename, replace_eq_landing, hmap, hmap]
  simp only [hlanding]

end SnippetAudit.Files
