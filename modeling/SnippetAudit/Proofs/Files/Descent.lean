import SnippetAudit.Files.Walk
import SnippetAudit.Proofs.Files.Grown
import SnippetAudit.Proofs.Files.Path
import SnippetAudit.Proofs.Files.Tree
import Mathlib.Data.Finset.Card
import Mathlib.Data.List.Nodup

/-!
# Ways down a directory

What a walk comes past, as a relation (`Reaches`): name by name, what a name stands for once links are followed
(`StandsFor`). A link that leads nowhere stands for nothing, and neither does one to a directory that the way is already
in.

- No way is longer than what is left to go into (`Reaches.length_le`): behind a followed link the way is in one more
  directory, and behind the name of a directory there are fewer entries below.
- So the walk has room for all ways, and lists exactly those to files, each once (`mem_walk`, `nodup_walk`).
- The order of the entries does not matter to any way (`Reaches.reordered`).
-/

namespace SnippetAudit.Files

variable {fs fs' : Files} {place goal : Place} {path : Path} {name : String} {names : List String}

/-! ## What a name stands for -/

/-- What a name in a directory stands for once links are followed, on a way that is in the directories `inside`. -/
inductive StandsFor (fs : Files) (inside : List Place) (place : Place) (path : Path) (name : String) : Found → Prop
  | file {content : ByteArray} (h : fs.entry? (place ++ [name]) = some (.file content)) :
      StandsFor fs inside place path name .file
  | linkedFile {target : Path} (h : fs.entry? (place ++ [name]) = some (.link target))
      (hfile : fs.isFile (path.join ⟨name⟩) = true) : StandsFor fs inside place path name .file
  | directory {goal : Place} (h : fs.entry? (place ++ [name]) = some .directory)
      (hgoal : fs.resolve (path.join ⟨name⟩) = .ok goal) : StandsFor fs inside place path name (.directory goal)
  | linkedDirectory {target : Path} {goal : Place} (h : fs.entry? (place ++ [name]) = some (.link target))
      (hgoal : fs.resolve (path.join ⟨name⟩) = .ok goal) (hdir : fs.isDirectoryAt goal = true)
      (hout : goal ∉ inside) : StandsFor fs inside place path name (.directory goal)

/-- The ways down from a directory with a place and a path, and what they come to. -/
inductive Reaches (fs : Files) : List Place → Place → Path → List String → Found → Prop
  | last {inside : List Place} {place : Place} {path : Path} {name : String} {w : Found}
      (h : StandsFor fs (place :: inside) place path name w) : Reaches fs inside place path [name] w
  | into {inside : List Place} {place goal : Place} {path : Path} {name : String} {names : List String} {w : Found}
      (h : StandsFor fs (place :: inside) place path name (.directory goal))
      (rest : Reaches fs (place :: inside) goal (path.join ⟨name⟩) names w) :
      Reaches fs inside place path (name :: names) w

/-- The names that lead from a directory to a file or a directory below it, links followed. -/
def LeadsTo (fs : Files) (dir : Path) (names : List String) (w : Found) : Prop :=
  ∃ place, fs.resolve dir = .ok place ∧ Reaches fs [] place dir names w

variable {inside : List Place} {w : Found}

theorem isFile_iff {p : Path} : fs.isFile p = true ↔
    ∃ goal content, fs.resolve p = .ok goal ∧ fs.entry? goal = some (.file content) := by
  unfold isFile lookup?
  cases fs.resolve p with
  | error e => simp
  | ok goal =>
    simp only [Except.ok.injEq, exists_and_left, exists_eq_left']
    cases fs.entry? goal with
    | none => simp
    | some e => cases e <;> simp

theorem isDirectoryAt_iff {p : Place} : fs.isDirectoryAt p = true ↔ fs.entry? p = some .directory := by
  unfold isDirectoryAt
  cases fs.entry? p with
  | none => simp
  | some e => cases e <;> simp

/-- What is found under a name is what it stands for. -/
theorem found_eq_iff (hw : w ≠ .nothing) :
    fs.found inside place path name = w ↔ StandsFor fs inside place path name w := by
  constructor
  · rintro rfl
    unfold found at hw ⊢
    cases hentry : fs.entry? (place ++ [name]) with
    | none => simp [hentry] at hw
    | some e =>
      cases e with
      | file content => exact .file hentry
      | directory =>
        cases hgoal : fs.resolve (path.join ⟨name⟩) with
        | error err => simp [hentry, hgoal] at hw
        | ok goal => exact .directory hentry hgoal
      | link target =>
        cases hgoal : fs.resolve (path.join ⟨name⟩) with
        | error err => simp [hentry, hgoal] at hw
        | ok goal =>
          cases hend : fs.entry? goal with
          | none => simp [hentry, hgoal, hend] at hw
          | some e =>
            cases e with
            | link target' => simp [hentry, hgoal, hend] at hw
            | file content =>
              have hstands : StandsFor fs inside place path name .file :=
                .linkedFile hentry (isFile_iff.2 ⟨goal, content, hgoal, hend⟩)
              simpa [hgoal, hend] using hstands
            | directory =>
              by_cases hin : goal ∈ inside
              · simp [hentry, hgoal, hend, hin] at hw
              · simpa [hgoal, hend, hin] using
                  StandsFor.linkedDirectory hentry hgoal (isDirectoryAt_iff.2 hend) hin
  · rintro (⟨h⟩ | ⟨h, hfile⟩ | ⟨h, hgoal⟩ | ⟨h, hgoal, hdir, hout⟩)
    · simp [found, h]
    · obtain ⟨goal, content, hgoal, hend⟩ := isFile_iff.1 hfile
      simp [found, h, hgoal, hend]
    · simp [found, h, hgoal]
    · simp [found, h, hgoal, isDirectoryAt_iff.1 hdir, hout]

theorem StandsFor.exists_entry (h : StandsFor fs inside place path name w) :
    ∃ e, fs.entry? (place ++ [name]) = some e := by
  cases h with
  | file h => exact ⟨_, h⟩
  | linkedFile h => exact ⟨_, h⟩
  | directory h => exact ⟨_, h⟩
  | linkedDirectory h => exact ⟨_, h⟩

theorem StandsFor.ne_nothing (h : StandsFor fs inside place path name w) : w ≠ .nothing := by
  cases h <;> exact Found.noConfusion

theorem mem_children {e : Entry} (h : fs.entry? (place ++ [name]) = some e) : name ∈ fs.children place :=
  List.mem_filterMap.2 ⟨_, mem_of_entry h, by simp⟩

/-- **What the walk lists are the ways to files that its fuel is enough for.** -/
theorem mem_filesBelow : ∀ {fuel : Nat} {inside : List Place} {place : Place} {path : Path} {names : List String},
    names ∈ fs.filesBelow inside place path fuel ↔
      Reaches fs inside place path names .file ∧ names.length ≤ fuel
  | 0, inside, place, path, names => by
    refine ⟨fun h => by simp [filesBelow] at h, ?_⟩
    rintro ⟨h, hlength⟩
    cases h <;> simp at hlength
  | fuel + 1, inside, place, path, names => by
    rw [filesBelow, List.mem_flatMap]
    constructor
    · rintro ⟨name, -, h⟩
      cases hfound : fs.found (place :: inside) place path name with
      | nothing => simp [hfound] at h
      | file =>
        obtain rfl : names = [name] := by simpa [hfound] using h
        exact ⟨.last ((found_eq_iff Found.noConfusion).1 hfound), by simp⟩
      | directory goal =>
        obtain ⟨rest, hrest, rfl⟩ : ∃ rest ∈ fs.filesBelow (place :: inside) goal (path.join ⟨name⟩) fuel,
            name :: rest = names := by simpa [hfound] using h
        obtain ⟨hreaches, hlength⟩ := mem_filesBelow.1 hrest
        exact ⟨.into ((found_eq_iff Found.noConfusion).1 hfound) hreaches, Nat.succ_le_succ hlength⟩
    · rintro ⟨h, hlength⟩
      cases h with
      | @last _ _ _ name _ h =>
        obtain ⟨e, hentry⟩ := h.exists_entry
        refine ⟨name, mem_children hentry, ?_⟩
        rw [(found_eq_iff Found.noConfusion).2 h]
        exact List.mem_singleton_self _
      | @into _ _ goal _ name names _ h rest =>
        obtain ⟨e, hentry⟩ := h.exists_entry
        refine ⟨name, mem_children hentry, ?_⟩
        rw [(found_eq_iff Found.noConfusion).2 h]
        exact List.mem_map_of_mem (mem_filesBelow.2 ⟨rest, Nat.le_of_succ_le_succ hlength⟩)

/-! ## The length of a way -/

/-- A walk along segments stops on the way behind each of them. -/
theorem Walk.split {n m : Nat} {at_ q : Place} {segs : List (List Char)} {ls : List Place}
    (h : Walk fs n at_ segs ls q m) : ∀ {front back : List (List Char)}, segs = front ++ back →
      ∃ ls₁ p k ls₂, Walk fs n at_ front ls₁ p k ∧ Walk fs k p back ls₂ q m := by
  induction h with
  | done n at_ =>
    intro front back heq
    obtain ⟨rfl, rfl⟩ := List.append_eq_nil_iff.1 heq.symm
    exact ⟨[], at_, n, [], .done n at_, .done n at_⟩
  | @place n m at_ p q seg segs ls hs rest ih =>
    intro front back heq
    cases front with
    | nil =>
      obtain rfl : seg :: segs = back := heq
      exact ⟨[], at_, n, ls, .done n at_, .place hs rest⟩
    | cons s front =>
      obtain ⟨rfl, rfl⟩ := List.cons.inj heq
      obtain ⟨ls₁, r, k, ls₂, hfront, hback⟩ := ih rfl
      exact ⟨ls₁, r, k, ls₂, .place hs hfront, hback⟩
  | @link n m at_ from_ q seg segs segs' ls hs rest ih =>
    intro front back heq
    cases front with
    | nil =>
      obtain rfl : seg :: segs = back := heq
      exact ⟨[], at_, n + 1, _, .done (n + 1) at_, .link hs rest⟩
    | cons s front =>
      obtain ⟨rfl, rfl⟩ := List.cons.inj heq
      obtain ⟨ls₁, r, k, ls₂, hfront, hback⟩ := ih (List.append_assoc segs' front back).symm
      exact ⟨_, r, k, ls₂, .link hs hfront, hback⟩

theorem ofSegment?_eq_none {seg : List Char} :
    Path.Component.ofSegment? seg = none ↔ seg = [] ∨ seg = ['.'] := by
  unfold Path.Component.ofSegment?
  split
  · next h => simp [h]
  · next h => split <;> simp [h]

/-- A text that is no component leads nowhere else. -/
theorem enter_stay {at_ : Place} {seg : List Char} {s : Step} (h : fs.enter at_ seg = .ok s)
    (hseg : Path.Component.ofSegment? seg = none) : s = .place at_ := by
  have hd := isDirectoryAt_of_enter h
  unfold enter at h
  rw [hd, if_neg (by decide), if_pos (ofSegment?_eq_none.1 hseg)] at h
  cases h
  rfl

theorem Walk.stay {n m : Nat} {at_ q : Place} {segs : List (List Char)} {ls : List Place}
    (h : Walk fs n at_ segs ls q m) (hsegs : segs.filterMap Path.Component.ofSegment? = []) : q = at_ := by
  induction h with
  | done => rfl
  | place hs _ ih =>
    rw [List.filterMap_eq_nil_iff] at hsegs ih
    cases enter_stay hs (hsegs _ List.mem_cons_self)
    exact ih fun seg hseg => hsegs seg (List.mem_cons_of_mem _ hseg)
  | link hs =>
    rw [List.filterMap_eq_nil_iff] at hsegs
    cases enter_stay hs (hsegs _ List.mem_cons_self)

/-! ### Proper names -/

theorem segments_name (h : Proper name) : (⟨name⟩ : Path).segments = [name.toList] := Text.splitAt_of_not_mem h.2

theorem isAbsolute_name (h : Proper name) : (⟨name⟩ : Path).isAbsolute = false := by
  have hhead : name.toList.head? ≠ some '/' := fun he => h.2 (List.mem_of_mem_head? he)
  simpa [Path.isAbsolute] using hhead

/-- A proper name is one more component. -/
theorem components_join_name (h : Proper name) (path : Path) :
    (path.join ⟨name⟩).components = path.components ++ [.name name] := by
  have hhere : (⟨name⟩ : Path).segments.head? ≠ some ['.'] := by
    rw [segments_name h]
    simpa using h.1.2.1
  have hname : (⟨name⟩ : Path).components = [.name name] := by
    rw [Path.components_eq, isAbsolute_name h, if_neg Bool.false_ne_true, if_neg hhere, Path.parts, segments_name h]
    simp [Path.Component.ofSegment?, h.1.1, h.1.2.1, h.1.2.2]
  rw [Path.components_join (isAbsolute_name h) hhere, hname]

/-- **A directory under a name is gone into at its place.** -/
theorem goal_of_directory (hpath : fs.resolve path = .ok place) (hname : Proper name)
    (hentry : fs.entry? (place ++ [name]) = some .directory) (hgoal : fs.resolve (path.join ⟨name⟩) = .ok goal) :
    goal = place ++ [name] := by
  obtain ⟨hchecked, m, hfollow⟩ := resolve_eq_ok.1 hpath
  obtain ⟨-, k, hjoined⟩ := resolve_eq_ok.1 hgoal
  have hne : path.text ≠ "" := by
    intro hempty
    simp [checked, hempty] at hchecked
  have hrelative := isAbsolute_name hname
  have hstart : fs.start (path.join ⟨name⟩) = fs.start path := by
    rw [start, Path.isAbsolute_join hne hrelative, start]
  obtain ⟨front, rest, -, hsegments, hrest, hjoin⟩ := Path.segments_join hne hrelative
  obtain ⟨ls, hwalk⟩ := walk_of_follow _ _ hfollow
  obtain ⟨ls₁, p, n, ls₂, hfront, hback⟩ := hwalk.split hsegments
  obtain rfl := hback.stay hrest
  rw [hstart, hjoin, segments_name hname, hfront.follow_append] at hjoined
  cases henter : fs.enter place name.toList with
  | error err =>
    rw [follow_error henter] at hjoined
    cases hjoined
  | ok s =>
    have hs : s = .place (place ++ [name]) := by
      have hhere : ¬(name.toList = [] ∨ name.toList = ['.']) := not_or.2 ⟨hname.1.1, hname.1.2.1⟩
      have hd := isDirectoryAt_of_enter henter
      unfold enter at henter
      rw [hd, if_neg (by decide), if_neg hhere, if_neg hname.1.2.2] at henter
      simp only [String.ofList_toList, hentry] at henter
      split at henter <;> cases henter
      rfl
    rw [hs] at henter
    rw [follow_place henter, follow_nil] at hjoined
    cases hjoined
    rfl

/-! ### What is left to go into -/

/-- The number of places that a way is not in yet. -/
def outside (fs : Files) (inside : List Place) : Nat :=
  (([] :: fs.entries.map (·.1)).toFinset \ inside.toFinset).card

/-- The number of entries below a place. -/
def deeper (fs : Files) (place : Place) : Nat :=
  ((fs.entries.map (·.1)).toFinset.filter fun q => place <+: q ∧ q ≠ place).card

/-- How far a way can still go: it can only follow a link into a place that it is not in yet, and in between it goes
down. -/
def room (fs : Files) (inside : List Place) (place : Place) : Nat :=
  fs.outside (place :: inside) * (fs.entries.length + 1) + fs.deeper place

theorem outside_le (fs : Files) (inside : List Place) : fs.outside inside ≤ fs.entries.length + 1 := by
  calc fs.outside inside ≤ ([] :: fs.entries.map (·.1)).toFinset.card := Finset.card_le_card Finset.sdiff_subset
    _ ≤ ([] :: fs.entries.map (·.1)).length := List.toFinset_card_le _
    _ = fs.entries.length + 1 := by rw [List.length_cons, List.length_map]

theorem deeper_le (fs : Files) (place : Place) : fs.deeper place ≤ fs.entries.length := by
  calc fs.deeper place ≤ (fs.entries.map (·.1)).toFinset.card := Finset.card_filter_le _ _
    _ ≤ (fs.entries.map (·.1)).length := List.toFinset_card_le _
    _ = fs.entries.length := List.length_map _

theorem outside_cons_le (fs : Files) (inside : List Place) (goal : Place) :
    fs.outside (goal :: inside) ≤ fs.outside inside := by
  refine Finset.card_le_card (Finset.sdiff_subset_sdiff (Finset.Subset.refl _) ?_)
  rw [List.toFinset_cons]
  exact Finset.subset_insert _ _

theorem outside_cons_lt {inside : List Place} (hdir : fs.isDirectoryAt goal = true) (hout : goal ∉ inside) :
    fs.outside (goal :: inside) < fs.outside inside := by
  have hmem : goal ∈ ([] :: fs.entries.map (·.1)).toFinset \ inside.toFinset := by
    rw [Finset.mem_sdiff, List.mem_toFinset, List.mem_toFinset]
    refine ⟨?_, hout⟩
    rcases List.eq_nil_or_concat goal with rfl | ⟨place, name, rfl⟩
    · exact List.mem_cons_self
    · rw [List.concat_eq_append] at hdir ⊢
      exact List.mem_cons_of_mem _ (place_mem_of_entry (isDirectoryAt_iff.1 hdir))
  unfold outside
  rw [List.toFinset_cons (a := goal), Finset.sdiff_insert]
  exact Finset.card_erase_lt_of_mem hmem

theorem deeper_concat_lt {e : Entry} (h : fs.entry? (place ++ [name]) = some e) :
    fs.deeper (place ++ [name]) < fs.deeper place := by
  refine Finset.card_lt_card (Finset.ssubset_iff_of_subset ?_ |>.2 ⟨place ++ [name], ?_, ?_⟩)
  · intro q hq
    obtain ⟨hmem, hbelow, -⟩ := Finset.mem_filter.1 hq
    have hplace := (List.prefix_append place [name]).trans hbelow
    refine Finset.mem_filter.2 ⟨hmem, hplace, ?_⟩
    rintro rfl
    have hlength := hbelow.length_le
    rw [List.length_append, List.length_singleton] at hlength
    omega
  · exact Finset.mem_filter.2 ⟨List.mem_toFinset.2 (place_mem_of_entry h), List.prefix_append _ _, by simp⟩
  · simp

/-- **Behind every directory that a way goes into there is less room.** -/
theorem StandsFor.room_lt (hfs : WellFormed fs) (hpath : fs.resolve path = .ok place)
    (h : StandsFor fs (place :: inside) place path name (.directory goal)) :
    fs.room (place :: inside) goal < fs.room inside place := by
  unfold room
  cases h with
  | directory hentry hgoal =>
    obtain rfl := goal_of_directory hpath (hfs.proper_of_entry hentry) hentry hgoal
    have hdeeper := deeper_concat_lt hentry
    have houtside := Nat.mul_le_mul_right (fs.entries.length + 1)
      (fs.outside_cons_le (place :: inside) (place ++ [name]))
    omega
  | linkedDirectory hentry hgoal hdir hout =>
    have hdeeper := fs.deeper_le goal
    have houtside := Nat.mul_le_mul_right (fs.entries.length + 1) (outside_cons_lt hdir hout)
    rw [Nat.succ_mul] at houtside
    omega

theorem StandsFor.resolve_eq (h : StandsFor fs inside place path name (.directory goal)) :
    fs.resolve (path.join ⟨name⟩) = .ok goal := by
  cases h with
  | directory _ hgoal => exact hgoal
  | linkedDirectory _ hgoal => exact hgoal

/-- **No way is longer than its room.** -/
theorem Reaches.length_le (hfs : WellFormed fs) (h : Reaches fs inside place path names w)
    (hpath : fs.resolve path = .ok place) : names.length ≤ fs.room inside place + 1 := by
  induction h with
  | last h => simp
  | @into inside place goal path name names w h rest ih =>
    have hlength := ih h.resolve_eq
    have hroom := h.room_lt hfs hpath
    rw [List.length_cons]
    omega

/-- The fuel of the walk is enough for every way. -/
theorem room_lt_fuel (fs : Files) (inside : List Place) (place : Place) :
    fs.room inside place + 1 ≤ (fs.entries.length + 2) * (fs.entries.length + 2) := by
  have houtside := Nat.mul_le_mul_right (fs.entries.length + 1) (fs.outside_le (place :: inside))
  have hdeeper := fs.deeper_le place
  unfold room
  generalize fs.entries.length = n at *
  have hsquare : (n + 2) * (n + 2) = (n + 1) * (n + 1) + (2 * n + 3) := by
    simp only [Nat.add_mul, Nat.mul_add]
    omega
  omega

/-! ## The walk -/

/-- The path that names make behind a directory. -/
def along (dir : Path) (names : List String) : Path := names.foldl (fun p name => p.join ⟨name⟩) dir

theorem Reaches.proper (hfs : WellFormed fs) (h : Reaches fs inside place path names w) :
    ∀ name ∈ names, Proper name := by
  induction h with
  | last h =>
    obtain ⟨e, hentry⟩ := h.exists_entry
    exact List.forall_mem_singleton.2 (hfs.proper_of_entry hentry)
  | into h _ ih =>
    obtain ⟨e, hentry⟩ := h.exists_entry
    exact List.forall_mem_cons.2 ⟨hfs.proper_of_entry hentry, ih⟩

/-- The components of a path that was walked are those of the directory and the names. -/
theorem components_along : ∀ {names : List String} (dir : Path), (∀ name ∈ names, Proper name) →
    (along dir names).components = dir.components ++ names.map .name
  | [], dir, _ => by simp [along]
  | name :: names, dir, h => by
    obtain ⟨hname, hnames⟩ := List.forall_mem_cons.1 h
    have ih := components_along (dir.join ⟨name⟩) hnames
    rw [components_join_name hname, List.append_assoc] at ih
    exact ih

/-- **The walk comes to every file below a directory.** -/
theorem mem_walk (hfs : WellFormed fs) {dir : Path} {v : Walked} :
    v ∈ fs.walk dir ↔ v.path = along dir v.names ∧ LeadsTo fs dir v.names .file := by
  unfold walk LeadsTo
  cases hdir : fs.resolve dir with
  | error e => simp
  | ok place =>
    simp only [List.mem_map, mem_filesBelow, Except.ok.injEq, exists_eq_left']
    constructor
    · rintro ⟨names, ⟨h, -⟩, rfl⟩
      exact ⟨rfl, h⟩
    · rintro ⟨hpath, h⟩
      exact ⟨v.names, ⟨h, (h.length_le hfs hdir).trans (fs.room_lt_fuel [] place)⟩, by rw [← along, ← hpath]⟩

/-- The name of a place in a directory. -/
def nameIn? (place q : Place) : Option String := if q.dropLast = place then q.getLast? else none

theorem children_eq (fs : Files) (place : Place) :
    fs.children place = (fs.entries.map (·.1)).filterMap (nameIn? place) := by
  rw [children, List.filterMap_map]
  refine congrArg (List.filterMap · fs.entries) (funext fun ⟨q, e⟩ => ?_)
  rw [Function.comp_apply, nameIn?]
  cases hlast : q.getLast? <;> split <;> simp_all

theorem eq_of_nameIn? {q : Place} (h : nameIn? place q = some name) : q = place ++ [name] := by
  unfold nameIn? at h
  split at h
  · next hq =>
    rw [← hq]
    exact (List.dropLast_append_getLast? _ h).symm
  · cases h

theorem nodup_children (hfs : WellFormed fs) (place : Place) : (fs.children place).Nodup := by
  rw [children_eq]
  exact hfs.distinct.filterMap fun q q' name h h' => (eq_of_nameIn? h).trans (eq_of_nameIn? h').symm

/-- Ways that differ in their first name differ. -/
theorem nodup_flatMap_head {f : String → List (List String)} {heads : List String} (hheads : heads.Nodup)
    (hnodup : ∀ name, (f name).Nodup) (hhead : ∀ name, ∀ names ∈ f name, names.head? = some name) :
    (heads.flatMap f).Nodup := by
  rw [List.nodup_flatMap]
  refine ⟨fun name _ => hnodup name, hheads.imp fun {name name'} hne names h h' => hne ?_⟩
  exact Option.some.inj ((hhead name names h).symm.trans (hhead name' names h'))

theorem nodup_filesBelow (hfs : WellFormed fs) : ∀ (fuel : Nat) (inside : List Place) (place : Place) (path : Path),
    (fs.filesBelow inside place path fuel).Nodup
  | 0, _, _, _ => List.nodup_nil
  | fuel + 1, inside, place, path => by
    rw [filesBelow]
    refine nodup_flatMap_head (nodup_children hfs place) (fun name => ?_) fun name names h => ?_
    · cases fs.found (place :: inside) place path name with
      | nothing => exact List.nodup_nil
      | file => exact List.nodup_singleton _
      | directory goal =>
        exact (nodup_filesBelow hfs fuel (place :: inside) goal (path.join ⟨name⟩)).map List.cons_injective
    · cases hfound : fs.found (place :: inside) place path name with
      | nothing => simp [hfound] at h
      | file =>
        obtain rfl : names = [name] := by simpa [hfound] using h
        rfl
      | directory goal =>
        obtain ⟨rest, -, rfl⟩ : ∃ rest ∈ fs.filesBelow (place :: inside) goal (path.join ⟨name⟩) fuel,
            name :: rest = names := by simpa [hfound] using h
        rfl

theorem nodup_walk (hfs : WellFormed fs) (dir : Path) : ((fs.walk dir).map (·.names)).Nodup := by
  unfold walk
  split
  · exact List.nodup_nil
  · rw [List.map_map]
    exact (List.map_id _).symm ▸ nodup_filesBelow hfs _ _ _ _

theorem LeadsTo.proper {dir : Path} (hfs : WellFormed fs) (h : LeadsTo fs dir names w) :
    ∀ name ∈ names, Proper name := by
  obtain ⟨_, _, hreaches⟩ := h
  exact hreaches.proper hfs

/-! ### One end only -/

theorem StandsFor.unique {w' : Found} (h : StandsFor fs inside place path name w)
    (h' : StandsFor fs inside place path name w') : w = w' :=
  ((found_eq_iff h.ne_nothing).2 h).symm.trans ((found_eq_iff h'.ne_nothing).2 h')

theorem Reaches.ne_nil (h : Reaches fs inside place path names w) : names ≠ [] := by
  cases h <;> exact List.cons_ne_nil _ _

theorem Reaches.unique {w' : Found} (h : Reaches fs inside place path names w)
    (h' : Reaches fs inside place path names w') : w = w' := by
  induction h with
  | last h =>
    cases h' with
    | last h' => exact h.unique h'
    | into _ rest' => exact absurd rfl rest'.ne_nil
  | into h rest ih =>
    cases h' with
    | last => exact absurd rfl rest.ne_nil
    | into h' rest' =>
      cases h.unique h'
      exact ih rest'

theorem LeadsTo.unique {dir : Path} {w' : Found} (h : LeadsTo fs dir names w) (h' : LeadsTo fs dir names w') :
    w = w' := by
  obtain ⟨place, hplace, hreaches⟩ := h
  obtain ⟨place', hplace', hreaches'⟩ := h'
  cases hplace.symm.trans hplace'
  exact hreaches.unique hreaches'

/-! ## The order of the entries -/

theorem StandsFor.same (hentry : ∀ p, fs'.entry? p = fs.entry? p) (hhere : fs'.here = fs.here)
    (h : StandsFor fs inside place path name w) : StandsFor fs' inside place path name w := by
  cases h with
  | file h => exact .file (by rw [hentry, h])
  | linkedFile h hfile =>
    refine .linkedFile (by rw [hentry, h]) ?_
    rw [isFile, lookup?_same hentry hhere]
    exact hfile
  | directory h hgoal => exact .directory (by rw [hentry, h]) (by rw [resolve_same hentry hhere, hgoal])
  | linkedDirectory h hgoal hdir hout =>
    exact .linkedDirectory (by rw [hentry, h]) (by rw [resolve_same hentry hhere, hgoal])
      (by rw [isDirectoryAt_same hentry, hdir]) hout

theorem Reaches.same (hentry : ∀ p, fs'.entry? p = fs.entry? p) (hhere : fs'.here = fs.here)
    (h : Reaches fs inside place path names w) : Reaches fs' inside place path names w := by
  induction h with
  | last h => exact .last (h.same hentry hhere)
  | into h _ ih => exact .into (h.same hentry hhere) ih

/-- **Where names lead to does not depend on the order of the entries.** -/
theorem LeadsTo.reordered {dir : Path} (hfs : WellFormed fs) (h : Reordered fs fs') (hway : LeadsTo fs dir names w) :
    LeadsTo fs' dir names w := by
  have hentry := h.same_entry hfs
  obtain ⟨place, hplace, hreaches⟩ := hway
  exact ⟨place, (resolve_same hentry h.here dir).trans hplace, hreaches.same hentry h.here⟩

end SnippetAudit.Files
