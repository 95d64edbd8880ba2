import SnippetAudit.Files.Basic

/-!
# Walks

The way of a path through a tree, name by name, with the links that it follows.

- A path resolves exactly when there is a walk (`walk_of_follow`, `Walk.follow_append`).
- A file that is put in the place of anything but a directory leaves every walk as it was that follows no link there
  (`Walk.agree`, `Walk.put`), and stops every walk that does (`Walk.stopped`).
- What `replace` needs and does (`LandsAt`, `landsAt_of_replace`), and when the file can be read again under its path
  (`LandsAt.read_put`, `LandsAt.read_stopped`).
-/

namespace SnippetAudit.Files

/-! ## Entries of a changed tree -/

theorem lookup_setEntry_self (p : Place) (e : Entry) : ∀ es : List (Place × Entry),
    (setEntry p e es).lookup p = some e
  | [] => by simp [setEntry]
  | (q, d) :: es => by
    unfold setEntry
    split
    · simp
    · next h => rw [List.lookup_cons, beq_eq_false_iff_ne.2 (Ne.symm h)]; exact lookup_setEntry_self p e es

theorem lookup_setEntry_ne {p q : Place} (e : Entry) (h : q ≠ p) : ∀ es : List (Place × Entry),
    (setEntry p e es).lookup q = es.lookup q
  | [] => by simp [setEntry, h]
  | (r, d) :: es => by
    unfold setEntry
    split
    · next hr => simp [List.lookup_cons, hr, beq_eq_false_iff_ne.2 h]
    · rw [List.lookup_cons, List.lookup_cons, lookup_setEntry_ne e h es]

variable {fs : Files} {t : Place} {e : Entry}

@[simp] theorem put_here (fs : Files) (t : Place) (e : Entry) : (fs.put t e).here = fs.here := rfl

theorem entry?_put_self (fs : Files) (ht : t ≠ []) (e : Entry) : Files.entry? (fs.put t e) t = some e := by
  simp [ entry?, put, ht, lookup_setEntry_self]

theorem entry?_put_ne {p : Place} (h : p ≠ t) : Files.entry? (fs.put t e) p = fs.entry? p := by
  simp [ entry?, put, lookup_setEntry_ne e h]

theorem isDirectoryAt_put {p : Place} (h : p ≠ t) : (fs.put t e).isDirectoryAt p = fs.isDirectoryAt p := by
  simp [isDirectoryAt, entry?_put_ne h]

theorem isDirectoryAt_put_file (fs : Files) (ht : t ≠ []) (content : ByteArray) :
    (fs.put t (.file content)).isDirectoryAt t = false := by
  simp [isDirectoryAt, entry?_put_self fs ht]

/-! ## One name -/

theorem isDirectoryAt_of_enter {at_ : Place} {seg : List Char} {s : Step} (h : fs.enter at_ seg = .ok s) :
    fs.isDirectoryAt at_ = true := by
  unfold enter at h
  split at h
  · cases h
  · next hd => simpa using hd

theorem enter_stopped {at_ : Place} (h : fs.isDirectoryAt at_ = false) (seg : List Char) :
    fs.enter at_ seg = .error .notDirectory := by
  simp [enter, h]

/-- A text between slashes that is looked up. -/
def IsName (seg : List Char) : Prop := seg ≠ [] ∧ seg ≠ ['.'] ∧ seg ≠ ['.', '.']

/-- A name of a directory is looked up. -/
theorem enter_name {at_ : Place} {seg : List Char} (hd : fs.isDirectoryAt at_ = true) (hseg : IsName seg)
    (hsize : (String.ofList seg).utf8ByteSize ≤ nameLimit) :
    fs.enter at_ seg = match fs.entry? (at_ ++ [String.ofList seg]) with
      | none => .error .notFound
      | some (.link target) => .ok (.link (if target.isAbsolute then [] else at_) target.segments)
      | some _ => .ok (.place (at_ ++ [String.ofList seg])) := by
  have hhere : ¬(seg = [] ∨ seg = ['.']) := not_or.2 ⟨hseg.1, hseg.2.1⟩
  have hlimit : ¬nameLimit < (String.ofList seg).utf8ByteSize := Nat.not_lt.2 hsize
  unfold enter
  rw [hd, if_neg (by decide), if_neg hhere, if_neg hseg.2.2]
  exact if_neg hlimit

/-- Where a name leads is settled by the entry under it, unless the text is no name. -/
theorem enter_cases {at_ : Place} {seg : List Char} {s : Step} (h : fs.enter at_ seg = .ok s) :
    (IsName seg ∧ (String.ofList seg).utf8ByteSize ≤ nameLimit) ∨
      ∃ p, s = .place p ∧ ∀ fs' : Files, fs'.isDirectoryAt at_ = true → fs'.enter at_ seg = .ok (.place p) := by
  have hd := isDirectoryAt_of_enter h
  unfold enter at h
  rw [hd, if_neg (by decide)] at h
  by_cases hhere : seg = [] ∨ seg = ['.']
  · rw [if_pos hhere] at h
    cases h
    exact Or.inr ⟨at_, rfl, fun fs' hd' => by simp [enter, hd', hhere]⟩
  rw [if_neg hhere] at h
  by_cases hup : seg = ['.', '.']
  · rw [if_pos hup] at h
    cases h
    exact Or.inr ⟨at_.dropLast, rfl, fun fs' hd' => by simp [enter, hd', hup]⟩
  rw [if_neg hup] at h
  refine Or.inl ⟨⟨fun h0 => hhere (Or.inl h0), fun h0 => hhere (Or.inr h0), hup⟩, ?_⟩
  by_cases hsize : nameLimit < (String.ofList seg).utf8ByteSize
  · simp [hsize] at h
  · omega

/-- Two trees with the same entries but maybe at one place. -/
def AgreeBut (t : Place) (fs fs' : Files) : Prop := ∀ p, p ≠ t → fs'.entry? p = fs.entry? p

theorem AgreeBut.isDirectoryAt {fs' : Files} {p : Place} (h : AgreeBut t fs fs') (hp : p ≠ t) :
    fs'.isDirectoryAt p = fs.isDirectoryAt p := by
  simp [Files.isDirectoryAt, h p hp]

theorem agreeBut_put (fs : Files) (t : Place) (e : Entry) : AgreeBut t fs (fs.put t e) := fun _ hp => entry?_put_ne hp

/-- A difference elsewhere does not matter. -/
theorem enter_agree {fs' : Files} {at_ : Place} {seg : List Char} {s : Step} (hagree : AgreeBut t fs fs')
    (hd : fs.isDirectoryAt t = false) (h : fs.enter at_ seg = .ok s)
    (ht : at_ ++ [String.ofList seg] = t → ∃ p, s = .place p ∧ p ≠ t) : fs'.enter at_ seg = .ok s := by
  have hat := isDirectoryAt_of_enter h
  have hne : at_ ≠ t := by
    rintro rfl
    rw [hd] at hat
    cases hat
  have hat' : fs'.isDirectoryAt at_ = true := by rw [hagree.isDirectoryAt hne, hat]
  rcases enter_cases h with ⟨hseg, hsize⟩ | ⟨p, rfl, hall⟩
  · by_cases hplace : at_ ++ [String.ofList seg] = t
    · obtain ⟨p, rfl, hp⟩ := ht hplace
      rw [enter_name hat hseg hsize] at h
      split at h
      · cases h
      · cases h
      · cases h
        exact absurd hplace hp
    · rw [enter_name hat' hseg hsize, hagree _ hplace, ← enter_name hat hseg hsize, h]
  · exact hall _ hat'

/-- A change elsewhere does not matter. -/
theorem enter_put {at_ : Place} {seg : List Char} {s : Step} (hd : fs.isDirectoryAt t = false)
    (h : fs.enter at_ seg = .ok s) (ht : at_ ++ [String.ofList seg] = t → ∃ p, s = .place p ∧ p ≠ t) :
    (fs.put t e).enter at_ seg = .ok s :=
  enter_agree (agreeBut_put fs t e) hd h ht

/-- Where a link was, a file is found. -/
theorem enter_put_link {at_ from_ : Place} {seg : List Char} {segs : List (List Char)}
    (h : fs.enter at_ seg = .ok (.link from_ segs)) (content : ByteArray) :
    (fs.put (at_ ++ [String.ofList seg]) (.file content)).enter at_ seg =
      .ok (.place (at_ ++ [String.ofList seg])) := by
  have hat := isDirectoryAt_of_enter h
  have hne : at_ ≠ at_ ++ [String.ofList seg] := by simp
  have hat' : (fs.put (at_ ++ [String.ofList seg]) (.file content)).isDirectoryAt at_ = true := by
    rw [isDirectoryAt_put hne, hat]
  rcases enter_cases h with ⟨hseg, hsize⟩ | ⟨p, hp, -⟩
  · rw [enter_name hat' hseg hsize, entry?_put_self fs (by simp)]
  · cases hp

/-! ## The whole way -/

theorem follow_nil (fs : Files) (n : Nat) (at_ : Place) : fs.follow n at_ [] = .ok (at_, n) := by cases n <;> rfl

variable {n m : Nat} {at_ q : Place} {seg : List Char} {segs : List (List Char)} {ls : List Place}

theorem follow_error {err : IoError} (h : fs.enter at_ seg = .error err) (n : Nat) (segs : List (List Char)) :
    fs.follow n at_ (seg :: segs) = .error err := by
  cases n <;> simp [follow, advance, h]

theorem follow_place {p : Place} (h : fs.enter at_ seg = .ok (.place p)) (n : Nat) (segs : List (List Char)) :
    fs.follow n at_ (seg :: segs) = fs.follow n p segs := by
  cases n <;> simp [follow, advance, h]

theorem follow_link {from_ : Place} {segs' : List (List Char)} (h : fs.enter at_ seg = .ok (.link from_ segs'))
    (n : Nat) (segs : List (List Char)) : fs.follow (n + 1) at_ (seg :: segs) = fs.follow n from_ (segs' ++ segs) := by
  simp [follow, advance, h]

theorem follow_link_zero {from_ : Place} {segs' : List (List Char)} (h : fs.enter at_ seg = .ok (.link from_ segs'))
    (segs : List (List Char)) : fs.follow 0 at_ (seg :: segs) = .error .tooManyLinks := by
  simp [follow, advance, h]

/-- The way that segments lead from a place, with the links on it in their order, the place it ends at, and the number
of links that may still be followed. -/
inductive Walk (fs : Files) : Nat → Place → List (List Char) → List Place → Place → Nat → Prop
  | done (n : Nat) (at_ : Place) : Walk fs n at_ [] [] at_ n
  | place {n m : Nat} {at_ p q : Place} {seg : List Char} {segs : List (List Char)} {ls : List Place}
      (h : fs.enter at_ seg = .ok (.place p)) (rest : Walk fs n p segs ls q m) : Walk fs n at_ (seg :: segs) ls q m
  | link {n m : Nat} {at_ from_ q : Place} {seg : List Char} {segs segs' : List (List Char)} {ls : List Place}
      (h : fs.enter at_ seg = .ok (.link from_ segs')) (rest : Walk fs n from_ (segs' ++ segs) ls q m) :
      Walk fs (n + 1) at_ (seg :: segs) ((at_ ++ [String.ofList seg]) :: ls) q m

/-- **What resolves has a walk.** -/
theorem walk_of_follow : ∀ (n : Nat) (segs : List (List Char)) {at_ q : Place} {m : Nat},
    fs.follow n at_ segs = .ok (q, m) → ∃ ls, Walk fs n at_ segs ls q m
  | n, [], at_, q, m, h => by
    rw [follow_nil] at h
    cases h
    exact ⟨[], .done n at_⟩
  | n, seg :: segs, at_, q, m, h => by
    cases hs : fs.enter at_ seg with
    | error err =>
      rw [follow_error hs] at h
      cases h
    | ok s =>
      cases s with
      | place p =>
        rw [follow_place hs] at h
        obtain ⟨ls, hw⟩ := walk_of_follow n segs h
        exact ⟨ls, .place hs hw⟩
      | link from_ segs' =>
        cases n with
        | zero =>
          rw [follow_link_zero hs] at h
          cases h
        | succ n =>
          rw [follow_link hs] at h
          obtain ⟨ls, hw⟩ := walk_of_follow n (segs' ++ segs) h
          exact ⟨_ :: ls, .link hs hw⟩
termination_by n segs => (n, segs.length)

namespace Walk

/-- **A walk is what resolving does first.** -/
theorem follow_append (h : Walk fs n at_ segs ls q m) (tail : List (List Char)) :
    fs.follow n at_ (segs ++ tail) = fs.follow m q tail := by
  induction h with
  | done => rfl
  | place hs _ ih => rw [List.cons_append, follow_place hs, ih]
  | link hs _ ih => rw [List.cons_append, follow_link hs, ← List.append_assoc, ih]

theorem follow (h : Walk fs n at_ segs ls q m) : fs.follow n at_ segs = .ok (q, m) := by
  have ht := h.follow_append []
  rwa [List.append_nil, follow_nil] at ht

/-- A walk that ends at a directory starts at one. -/
theorem isDirectoryAt_start (h : Walk fs n at_ segs ls q m) (hq : fs.isDirectoryAt q = true) :
    fs.isDirectoryAt at_ = true := by
  cases h with
  | done => exact hq
  | place hs => exact isDirectoryAt_of_enter hs
  | link hs => exact isDirectoryAt_of_enter hs

/-- The links of a walk are settled by where it starts. -/
theorem unique (h : Walk fs n at_ segs ls q m) : ∀ {ls' : List Place} {q' : Place} {m' : Nat},
    Walk fs n at_ segs ls' q' m' → ls' = ls := by
  induction h with
  | done =>
    intro ls' q' m' h'
    cases h'
    rfl
  | place hs _ ih =>
    intro ls' q' m' h'
    cases h' with
    | place hs' rest' =>
      cases hs.symm.trans hs'
      exact ih rest'
    | link hs' => cases hs.symm.trans hs'
  | link hs _ ih =>
    intro ls' q' m' h'
    cases h' with
    | place hs' => cases hs.symm.trans hs'
    | link hs' rest' =>
      cases hs.symm.trans hs'
      rw [ih rest']

/-- **A walk that follows no link at a place does not care for it**, unless there is a directory. -/
theorem agree {fs' : Files} (h : Walk fs n at_ segs ls q m) (hagree : AgreeBut t fs fs')
    (hq : fs.isDirectoryAt q = true) (hd : fs.isDirectoryAt t = false) (ht : t ∉ ls) :
    Walk fs' n at_ segs ls q m := by
  induction h with
  | done n at_ => exact .done n at_
  | @place n m at_ p q seg segs ls hs rest ih =>
    have hp : p ≠ t := by
      rintro rfl
      rw [rest.isDirectoryAt_start hq] at hd
      cases hd
    exact .place (enter_agree hagree hd hs fun _ => ⟨p, rfl, hp⟩) (ih hq ht)
  | link hs rest ih =>
    rw [List.mem_cons, not_or] at ht
    exact .link (enter_agree hagree hd hs fun he => absurd he.symm ht.1) (ih hq ht.2)

theorem put (h : Walk fs n at_ segs ls q m) (hq : fs.isDirectoryAt q = true) (hd : fs.isDirectoryAt t = false)
    (ht : t ∉ ls) : Walk (fs.put t e) n at_ segs ls q m :=
  h.agree (agreeBut_put fs t e) hq hd ht

/-- **A walk that follows a link stops where the link has become a file.** -/
theorem stopped (h : Walk fs n at_ segs ls q m) (hd : fs.isDirectoryAt t = false) (ht : t ∈ ls) (content : ByteArray)
    {tail : List (List Char)} (htail : tail ≠ []) :
    (fs.put t (.file content)).follow n at_ (segs ++ tail) = .error .notDirectory := by
  induction h with
  | done => cases ht
  | @place n m at_ p q seg segs ls hs rest ih =>
    have hp : p ≠ t := by
      rintro rfl
      cases rest with
      | done => cases ht
      | place hs' => rw [isDirectoryAt_of_enter hs'] at hd; cases hd
      | link hs' => rw [isDirectoryAt_of_enter hs'] at hd; cases hd
    rw [List.cons_append, follow_place (enter_put hd hs fun _ => ⟨p, rfl, hp⟩)]
    exact ih ht
  | @link n m at_ from_ q seg segs segs' ls hs rest ih =>
    by_cases hplace : at_ ++ [String.ofList seg] = t
    · subst hplace
      have hfile : (fs.put (at_ ++ [String.ofList seg]) (.file content)).isDirectoryAt
          (at_ ++ [String.ofList seg]) = false :=
        isDirectoryAt_put_file fs (by simp) content
      obtain ⟨s, r, hr⟩ := List.exists_cons_of_ne_nil (List.append_ne_nil_of_right_ne_nil segs htail)
      rw [List.cons_append, follow_place (enter_put_link hs content), hr, follow_error (enter_stopped hfile s)]
    · have hmem : t ∈ ls := (List.mem_cons.1 ht).resolve_left fun he => hplace he.symm
      have ih := ih hmem
      rw [List.append_assoc] at ih
      rw [List.cons_append, follow_link (enter_put hd hs fun he => absurd he hplace), ih]

end Walk

/-! ## Putting a file in its place -/

/-- A cut path whose last text is a name is that name behind its directory, and maybe slashes. -/
theorem segments_of_cut {segs : List (List Char)} {name : String} (h : (cut segs).last = .name name) :
    ∃ k, segs = (cut segs).directory ++ name.toList :: List.replicate k [] ∧ IsName name.toList := by
  have hsplit := List.takeWhile_append_dropWhile (p := List.isEmpty) (l := segs.reverse)
  unfold cut at h ⊢
  cases hdrop : segs.reverse.dropWhile List.isEmpty with
  | nil => simp [hdrop] at h
  | cons s before =>
    simp only [hdrop] at h hsplit ⊢
    have hs : s.isEmpty = false := by
      have := List.head?_dropWhile_not List.isEmpty segs.reverse
      simpa [hdrop] using this
    have hempties : segs.reverse.takeWhile List.isEmpty =
        List.replicate (segs.reverse.takeWhile List.isEmpty).length [] := by
      rw [List.eq_replicate_iff]
      refine ⟨rfl, fun e he => ?_⟩
      have hall : (segs.reverse.takeWhile List.isEmpty).all List.isEmpty = true := List.all_takeWhile
      exact List.isEmpty_iff.1 (List.all_eq_true.1 hall e he)
    split at h
    · cases h
    · next hdots =>
      cases h
      rw [String.toList_ofList]
      refine ⟨(segs.reverse.takeWhile List.isEmpty).length, ?_, ?_, fun h0 => hdots (Or.inl h0),
        fun h0 => hdots (Or.inr h0)⟩
      · calc segs = segs.reverse.reverse := (List.reverse_reverse segs).symm
          _ = (segs.reverse.takeWhile List.isEmpty ++ s :: before).reverse := by rw [hsplit]
          _ = before.reverse ++ s :: (segs.reverse.takeWhile List.isEmpty).reverse := by simp
          _ = _ := by rw [hempties, List.reverse_replicate, List.length_replicate]
      · rintro rfl
        cases hs

/-- Without a slash at its end, nothing stands behind the name. -/
theorem cut_name {segs : List (List Char)} {name : String} (h : (cut segs).last = .name name)
    (hslash : (cut segs).slash = false) : segs = (cut segs).directory ++ [name.toList] ∧ IsName name.toList := by
  obtain ⟨k, hsegs, hname⟩ := segments_of_cut h
  cases k with
  | zero => exact ⟨hsegs, hname⟩
  | succ k =>
    have hlast : segs.getLast? = some [] := by
      rw [hsegs, List.replicate_succ', ← List.cons_append, ← List.append_assoc, List.getLast?_concat]
    unfold cut at h hslash
    split at hslash
    · next hnil => simp [hnil] at h
    · simp [hlast] at hslash

/-- A path that ends with a name in a directory, where a file can be put: its directory, its name, the links on the
way to the directory, and how many more may be followed. -/
structure LandsAt (fs : Files) (p : Path) (place : Place) (name : String) (ls : List Place) (m : Nat) : Prop where
  checked : checked p = .ok ()
  segments : p.segments = (cut p.segments).directory ++ [name.toList]
  isName : IsName name.toList
  size : name.utf8ByteSize ≤ nameLimit
  walk : Walk fs linkLimit (fs.start p) (cut p.segments).directory ls place m
  directory : fs.isDirectoryAt place = true
  free : fs.isDirectoryAt (place ++ [name]) = false

theorem directoryOf_ok {n m : Nat} {at_ place : Place} {c : Cut} (h : fs.directoryOf n at_ c = .ok (place, m)) :
    fs.follow n at_ c.directory = .ok (place, m) ∧ fs.isDirectoryAt place = true ∧
      ∀ s, c.last = .name s → s.utf8ByteSize ≤ nameLimit := by
  unfold directoryOf at h
  cases hfollow : fs.follow n at_ c.directory with
  | error err => simp [hfollow, bind, Except.bind] at h
  | ok r =>
    obtain ⟨place', m'⟩ := r
    simp only [hfollow, bind, Except.bind] at h
    cases hdir : fs.isDirectoryAt place' with
    | false => simp [hdir, throw, throwThe, MonadExceptOf.throw] at h
    | true =>
      cases hlast : c.last with
      | dots =>
        simp only [hdir, hlast, pure, Except.pure, Bool.not_true, Bool.false_eq_true, if_false] at h
        cases h
        exact ⟨rfl, hdir, fun s hs => by cases hs⟩
      | name s =>
        by_cases hsize : nameLimit < s.utf8ByteSize
        · simp [hdir, hlast, hsize, throw, throwThe, MonadExceptOf.throw] at h
        · simp only [hdir, hlast, hsize, pure, Except.pure, Bool.not_true, Bool.false_eq_true, if_false] at h
          cases h
          refine ⟨rfl, hdir, fun s' hs' => ?_⟩
          cases hs'
          omega

theorem parentOf_ok {p : Path} {place : Place} {last : Last} (h : fs.parentOf p = .ok (place, last)) :
    checked p = .ok () ∧ (cut p.segments).last = last ∧
      ∃ m, fs.directoryOf linkLimit (fs.start p) (cut p.segments) = .ok (place, m) := by
  unfold parentOf at h
  cases hchecked : checked p with
  | error err => simp [hchecked, bind, Except.bind] at h
  | ok =>
    cases hdir : fs.directoryOf linkLimit (fs.start p) (cut p.segments) with
    | error err => simp [hchecked, hdir, bind, Except.bind] at h
    | ok r =>
      obtain ⟨place', m⟩ := r
      simp only [hchecked, hdir, bind, Except.bind, pure, Except.pure, Except.ok.injEq, Prod.mk.injEq] at h
      obtain ⟨rfl, rfl⟩ := h
      exact ⟨rfl, rfl, m, rfl⟩

theorem replace_ok {p : Path} {content : ByteArray} {fs' : Files} (h : fs.replace p content = .ok fs') :
    ∃ place name, fs.parentOf p = .ok (place, .name name) ∧ (cut p.segments).slash = false ∧
      fs.isDirectoryAt (place ++ [name]) = false ∧ fs' = fs.put (place ++ [name]) (.file content) := by
  unfold replace at h
  cases hparent : fs.parentOf p with
  | error err => simp [hparent, bind, Except.bind] at h
  | ok r =>
    obtain ⟨place, last⟩ := r
    cases last with
    | dots => simp [hparent, bind, Except.bind, throw, throwThe, MonadExceptOf.throw] at h
    | name s =>
      cases hslash : (cut p.segments).slash with
      | true => simp [hparent, hslash, bind, Except.bind, throw, throwThe, MonadExceptOf.throw] at h
      | false =>
        simp only [hparent, hslash, bind, Except.bind, Bool.false_eq_true, if_false] at h
        refine ⟨place, s, rfl, rfl, ?_⟩
        unfold isDirectoryAt
        split at h
        · cases h
        · cases h
          exact ⟨rfl, rfl⟩

/-- **What a file that was put in its place says of its path.** -/
theorem landsAt_of_replace {p : Path} {content : ByteArray} {fs' : Files} (h : fs.replace p content = .ok fs') :
    ∃ place name ls m, LandsAt fs p place name ls m ∧ fs' = fs.put (place ++ [name]) (.file content) := by
  obtain ⟨place, name, hparent, hslash, hfree, rfl⟩ := replace_ok h
  obtain ⟨hchecked, hlast, m, hdir⟩ := parentOf_ok hparent
  obtain ⟨hfollow, hd, hsize⟩ := directoryOf_ok hdir
  obtain ⟨ls, hwalk⟩ := walk_of_follow _ _ hfollow
  obtain ⟨hsegs, hname⟩ := cut_name hlast hslash
  exact ⟨place, name, ls, m, ⟨hchecked, hsegs, hname, hsize name hlast, hwalk, hd, hfree⟩, rfl⟩

namespace LandsAt

variable {p : Path} {place : Place} {name : String}

/-- A path lands at one place only, and gets there one way only. -/
theorem unique {place' : Place} {name' : String} {ls' : List Place} {m' : Nat} (h : LandsAt fs p place name ls m)
    (h' : LandsAt fs p place' name' ls' m') : place' = place ∧ name' = name ∧ ls' = ls := by
  have hfollow := h.walk.follow.symm.trans h'.walk.follow
  simp only [Except.ok.injEq, Prod.mk.injEq] at hfollow
  have hname := List.append_cancel_left (h.segments.symm.trans h'.segments)
  rw [List.cons.injEq, String.toList_inj] at hname
  exact ⟨hfollow.1.symm, hname.1.symm, h.walk.unique h'.walk⟩

theorem resolve_eq (h : LandsAt fs p place name ls m) (fs' : Files) (hhere : fs'.here = fs.here) :
    fs'.resolve p = (fs'.follow linkLimit (fs.start p) ((cut p.segments).directory ++ [name.toList])).map (·.1) := by
  have hstart : fs'.start p = fs.start p := by unfold start; rw [hhere]
  rw [resolve, h.checked, hstart, ← h.segments]
  cases fs'.follow linkLimit (fs.start p) p.segments <;> rfl

/-- **The file is read again** when its path follows no link that it took the place of. -/
theorem read_put (h : LandsAt fs p place name ls m) (hls : place ++ [name] ∉ ls) (content : ByteArray) :
    (fs.put (place ++ [name]) (.file content)).read p = .ok content := by
  have hne : place ≠ place ++ [name] := by simp
  have hentry := entry?_put_self fs (t := place ++ [name]) (by simp) (.file content)
  have hd : (fs.put (place ++ [name]) (.file content)).isDirectoryAt place = true := by
    rw [isDirectoryAt_put hne, h.directory]
  have henter : (fs.put (place ++ [name]) (.file content)).enter place name.toList =
      .ok (.place (place ++ [name])) := by
    rw [enter_name hd h.isName (by rw [String.ofList_toList]; exact h.size), String.ofList_toList, hentry]
  have hput : Walk (fs.put (place ++ [name]) (.file content)) linkLimit (fs.start p) (cut p.segments).directory ls
      place m :=
    h.walk.put h.directory h.free hls
  have hwalk := hput.follow_append [name.toList]
  rw [follow_place henter, follow_nil] at hwalk
  rw [read, h.resolve_eq _ (put_here fs _ _), hwalk]
  simp [bind, Except.bind, Except.map, hentry, pure, Except.pure]

/-- **The file is out of reach of its path** when this follows a link that the file took the place of. -/
theorem read_stopped (h : LandsAt fs p place name ls m) (hls : place ++ [name] ∈ ls) (content : ByteArray) :
    (fs.put (place ++ [name]) (.file content)).read p = .error .notDirectory := by
  have hstop := h.walk.stopped h.free hls content (List.cons_ne_nil name.toList [])
  rw [read, h.resolve_eq _ (put_here fs _ _), hstop]
  rfl

/-- The path of this file leads through the link that it took the place of. -/
example (content : ByteArray) :
    ((Files.mk [(["d"], .directory), (["l"], .link ⟨"d"⟩)] []).replace ⟨"l/../l"⟩ content).bind (·.read ⟨"l/../l"⟩) =
      .error .notDirectory := rfl

end LandsAt

end SnippetAudit.Files
