import SnippetAudit.Proofs.Dataset.Entry
import SnippetAudit.Proofs.Finding
import SnippetAudit.Proofs.Text.Blank

/-!
# Samples entry by entry

What a listed value yields depends on the files and on nothing else (`Dataset.Yields`): nothing where it is no entry or
its buggy file says nothing, else a buggy sample, and a clean one behind it where the other file says anything. The
samples of a dataset are those of its values in a row (`Dataset.entries_independent`), so a value that yields nothing may
stand anywhere, a limit takes the first values, and the labels are those of the entries. Every value is counted under one
type (`Dataset.lookup_typeCounts`, `Dataset.sum_typeCounts`).
-/

namespace SnippetAudit.Dataset

variable {fs : Files} {directory : Path}

/-! ## Files -/

/-- A file of a dataset that says something. -/
structure Says (fs : Files) (directory : Path) (name text : String) : Prop where
  named : name ≠ ""
  read : ∃ bytes, fs.read (directory.join ⟨name⟩) = .ok bytes ∧ Text.decode bytes = text
  any : ¬Text.Blank text.toList

/-- A file of a dataset that says nothing. -/
inductive Silent (fs : Files) (directory : Path) : String → Prop
  | unnamed : Silent fs directory ""
  | unread {name : String} {e : IoError} (read : fs.read (directory.join ⟨name⟩) = .error e) : Silent fs directory name
  | blank {name : String} {bytes : ByteArray} (read : fs.read (directory.join ⟨name⟩) = .ok bytes)
      (blank : Text.Blank (Text.decode bytes).toList) : Silent fs directory name

theorem says_or_silent (fs : Files) (directory : Path) (name : String) :
    (∃ text, Says fs directory name text) ∨ Silent fs directory name := by
  by_cases hname : name = ""
  · exact .inr (hname ▸ .unnamed)
  · cases hread : fs.read (directory.join ⟨name⟩) with
    | error e => exact .inr (.unread hread)
    | ok bytes =>
      by_cases hblank : Text.Blank (Text.decode bytes).toList
      · exact .inr (.blank hread hblank)
      · exact .inl ⟨_, hname, ⟨bytes, hread, rfl⟩, hblank⟩

theorem Says.code {name text : String} (h : Says fs directory name text) :
    code fs directory name = text ∧ Text.isBlankText text = false := by
  obtain ⟨hname, ⟨bytes, hread, htext⟩, hblank⟩ := h
  refine ⟨?_, Bool.eq_false_iff.2 (mt Text.isBlankText_iff.1 hblank)⟩
  rw [Dataset.code, if_neg (by simpa using hname), hread]
  exact htext

theorem Silent.code {name : String} (h : Silent fs directory name) :
    Text.isBlankText (code fs directory name) = true := by
  unfold Dataset.code
  cases h with
  | unnamed => rfl
  | unread read =>
    rw [read]
    split
    · rfl
    · rfl
  | blank read blank =>
    rw [read]
    split
    · rfl
    · exact Text.isBlankText_iff.2 blank

/-! ## Samples of an entry -/

namespace Entry

/-- The buggy sample of an entry. -/
def flawed (directory : Path) (e : Entry) (text : String) : Sample :=
  (Sample.buggy text (e.typeId.getD unknownTypeId) (e.typeName.getD unknownType)).withSource
    (directory.join ⟨e.buggyFile⟩).text

/-- The clean sample of an entry. -/
def mended (directory : Path) (e : Entry) (text : String) : Sample :=
  (Sample.clean text).withSource (directory.join ⟨e.fixedFile⟩).text

/-- A sample with the label of an entry. -/
structure Labels (e : Entry) (s : Sample) : Prop where
  buggy : s.hasBug = true → Findings.ofText s.details = .listed [⟨none, none, some (e.typeId.getD "D.1"),
    some ("This code contains " ++ e.typeName.getD "Unknown")⟩]
  clean : s.hasBug = false → Findings.ofText s.details = .listed []

theorem labels_flawed (directory : Path) (e : Entry) (text : String) : e.Labels (e.flawed directory text) where
  buggy _ := (Sample.Built.buggy _ _ _ |>.withSource _).findings
  clean h := nomatch h

theorem labels_mended (directory : Path) (e : Entry) (text : String) : e.Labels (e.mended directory text) where
  buggy h := nomatch h
  clean _ := (Sample.Built.clean _ |>.withSource _).findings

end Entry

/-- What a listed value yields. -/
inductive Yields (fs : Files) (directory : Path) : Json → List Sample → Prop
  | malformed {v : Json} (other : ∀ e, ¬Entry.Describes v e) : Yields fs directory v []
  | silent {v : Json} {e : Entry} (entry : Entry.Describes v e) (buggy : Silent fs directory e.buggyFile) :
      Yields fs directory v []
  | alone {v : Json} {e : Entry} {text : String} (entry : Entry.Describes v e)
      (buggy : Says fs directory e.buggyFile text) (fixed : Silent fs directory e.fixedFile) :
      Yields fs directory v [e.flawed directory text]
  | both {v : Json} {e : Entry} {text text' : String} (entry : Entry.Describes v e)
      (buggy : Says fs directory e.buggyFile text) (fixed : Says fs directory e.fixedFile text') :
      Yields fs directory v [e.flawed directory text, e.mended directory text']

theorem Yields.samplesOf {v : Json} {ss : List Sample} (h : Yields fs directory v ss) :
    samplesOf fs directory v = ss := by
  unfold Dataset.samplesOf
  cases h with
  | malformed other =>
    have hnone : Entry.ofJson? v = none :=
      Option.eq_none_iff_forall_ne_some.2 fun e h => other e (Entry.ofJson?_eq_some_iff.1 h)
    rw [hnone]
  | silent entry buggy =>
    rw [Entry.ofJson?_eq_some_iff.2 entry]
    simp only [Entry.samples, buggy.code, if_true]
  | alone entry buggy fixed =>
    rw [Entry.ofJson?_eq_some_iff.2 entry]
    simp only [Entry.samples, buggy.code, fixed.code, if_true, Bool.false_eq_true, if_false]
    rfl
  | both entry buggy fixed =>
    rw [Entry.ofJson?_eq_some_iff.2 entry]
    simp only [Entry.samples, buggy.code, fixed.code, Bool.false_eq_true, if_false]
    rfl

theorem yields_samplesOf (fs : Files) (directory : Path) (v : Json) :
    Yields fs directory v (samplesOf fs directory v) := by
  obtain ⟨ss, h⟩ : ∃ ss, Yields fs directory v ss := by
    by_cases hentry : ∃ e, Entry.Describes v e
    · obtain ⟨e, entry⟩ := hentry
      obtain ⟨text, buggy⟩ | buggy := says_or_silent fs directory e.buggyFile
      · obtain ⟨text', fixed⟩ | fixed := says_or_silent fs directory e.fixedFile
        · exact ⟨_, .both entry buggy fixed⟩
        · exact ⟨_, .alone entry buggy fixed⟩
      · exact ⟨_, .silent entry buggy⟩
    · exact ⟨_, .malformed (not_exists.1 hentry)⟩
  rwa [h.samplesOf]

/-- **Exactly one outcome fits a listed value.** -/
theorem samplesOf_eq_iff {v : Json} {ss : List Sample} : samplesOf fs directory v = ss ↔ Yields fs directory v ss :=
  ⟨fun h => h ▸ yields_samplesOf fs directory v, Yields.samplesOf⟩

theorem Yields.labels {v : Json} {ss : List Sample} (h : Yields fs directory v ss) {s : Sample} (hs : s ∈ ss) :
    ∃ e, Entry.Describes v e ∧ e.Labels s := by
  cases h with
  | malformed | silent => cases hs
  | alone entry buggy fixed =>
    rw [List.mem_singleton.1 hs]
    exact ⟨_, entry, Entry.labels_flawed _ _ _⟩
  | both entry buggy fixed =>
    obtain rfl | hs := List.mem_cons.1 hs
    · exact ⟨_, entry, Entry.labels_flawed _ _ _⟩
    · rw [List.mem_singleton.1 hs]
      exact ⟨_, entry, Entry.labels_mended _ _ _⟩

/-! ## Counts -/

/-- Counts as the members of an object. -/
def shown (counts : List (String × Nat)) : List (String × Json) := counts.map fun (name, k) => (name, .nat k)

/-- How often a name was counted. -/
def tally (counts : List (String × Nat)) (name : String) : Nat := (counts.lookup name).getD 0

theorem lookup_shown (counts : List (String × Nat)) (name : String) :
    (shown counts).lookup name = (counts.lookup name).map Json.nat := by
  induction counts with
  | nil => rfl
  | cons c counts ih =>
    rw [shown, List.map_cons, List.lookup_cons, List.lookup_cons]
    split
    · rfl
    · exact ih

/-- To count a name is to set its member to one more. -/
theorem shown_countName {counts : List (String × Nat)} (h : Json.Ordered (shown counts)) (name : String) :
    shown (countName name counts) = Json.insertMember name (.nat (tally counts name + 1)) (shown counts) := by
  induction counts with
  | nil => rfl
  | cons c counts ih =>
    obtain ⟨n, k⟩ := c
    have hshown : shown ((n, k) :: counts) = (n, .nat k) :: shown counts := rfl
    rw [hshown, Json.Ordered, List.map_cons, List.pairwise_cons] at h
    obtain ⟨hfirst, hrest⟩ := h
    rw [countName, hshown, Json.insertMember]
    by_cases hsame : name = n
    · subst hsame
      rw [if_pos rfl, if_pos rfl, tally, List.lookup_cons_self]
      rfl
    by_cases hlt : name < n
    · have hnew : tally ((n, k) :: counts) name = 0 := by
        have hnone : (shown counts).lookup name = none := by
          rw [List.lookup_eq_none_iff]
          intro m hm
          simpa using (lt_trans hlt (hfirst m.1 (List.mem_map_of_mem hm))).ne
        rw [lookup_shown, Option.map_eq_none_iff] at hnone
        rw [tally, List.lookup_cons, beq_false_of_ne hsame, hnone]
        rfl
      rw [if_neg hsame, if_neg hsame, if_pos hlt, if_pos hlt, hnew]
      rfl
    · have hold : tally ((n, k) :: counts) name = tally counts name := by
        rw [tally, List.lookup_cons, beq_false_of_ne hsame, tally]
      rw [if_neg hsame, if_neg hsame, if_neg hlt, if_neg hlt, hold, ← ih hrest]
      rfl

theorem tally_countName {counts : List (String × Nat)} (h : Json.Ordered (shown counts)) (name other : String) :
    tally (countName name counts) other = tally counts other + if other = name then 1 else 0 := by
  have hnat : Function.Injective Json.nat := fun m n h => by simpa [Json.nat] using h
  have hlookup := Json.lookup_insertMember other name (.nat (tally counts name + 1)) (shown counts)
  rw [← shown_countName h, lookup_shown, lookup_shown] at hlookup
  by_cases hother : other = name
  · subst hother
    rw [if_pos rfl, Option.map_eq_some_iff] at hlookup
    obtain ⟨k, hk, hnatk⟩ := hlookup
    rw [if_pos rfl, tally, hk, hnat hnatk]
    rfl
  · rw [if_neg hother] at hlookup
    rw [if_neg hother, tally, Option.map_injective hnat hlookup]
    rfl

theorem sum_countName (name : String) (counts : List (String × Nat)) :
    ((countName name counts).map (·.2)).sum = (counts.map (·.2)).sum + 1 := by
  induction counts with
  | nil => rfl
  | cons c counts ih =>
    obtain ⟨n, k⟩ := c
    rw [countName]
    split
    · simp only [List.map_cons, List.sum_cons]
      omega
    split
    · simp only [List.map_cons, List.sum_cons]
      omega
    · simp only [List.map_cons, List.sum_cons, ih]
      omega

/-- One more value is one more of its type. -/
theorem typeCounts_concat (directory : Path) (vs : List Json) (v : Json) :
    typeCounts ⟨directory, vs ++ [v]⟩ = countName (typeOf v) (typeCounts ⟨directory, vs⟩) := by
  rw [typeCounts, List.foldl_append]
  rfl

theorem ordered_typeCounts (d : Dataset) : Json.Ordered (shown d.typeCounts) := by
  obtain ⟨directory, vs⟩ := d
  induction vs using List.reverseRecOn with
  | nil => exact List.Pairwise.nil
  | append_singleton vs v ih =>
    rw [typeCounts_concat, shown_countName ih]
    exact ih.insert _ _

/-- **A type is counted as often as it is given.** -/
theorem tally_typeCounts (d : Dataset) (name : String) :
    tally d.typeCounts name = d.entries.countP (typeOf · = name) := by
  obtain ⟨directory, vs⟩ := d
  induction vs using List.reverseRecOn with
  | nil => rfl
  | append_singleton vs v ih =>
    rw [typeCounts_concat, tally_countName (ordered_typeCounts _), ih, List.countP_append, List.countP_singleton]
    simp only [decide_eq_true_eq, eq_comm (a := name)]

/-- **Every value is counted once.** -/
theorem sum_typeCounts (d : Dataset) : (d.typeCounts.map (·.2)).sum = d.entries.length := by
  obtain ⟨directory, vs⟩ := d
  induction vs using List.reverseRecOn with
  | nil => rfl
  | append_singleton vs v ih =>
    rw [typeCounts_concat, sum_countName, ih, List.length_append]
    rfl

/-! ## The whole dataset -/

theorem samples_none (fs : Files) (d : Dataset) : d.samples fs none = d.entries.flatMap (samplesOf fs d.directory) := rfl

theorem samples_some (fs : Files) (d : Dataset) (k : Nat) :
    d.samples fs (some k) = samples fs ⟨d.directory, d.entries.take k⟩ none := rfl

/-- The samples of one listed value. -/
theorem samples_one (fs : Files) (directory : Path) (v : Json) :
    samples fs ⟨directory, [v]⟩ none = samplesOf fs directory v := by
  rw [samples_none, List.flatMap_singleton]

theorem Split.append_ofSamples (samples : List Sample) (ratio : Float) :
    (ofSamples samples ratio).train ++ (ofSamples samples ratio).validation = samples :=
  List.take_append_drop _ _

theorem exists_entry_of_mem {d : Dataset} {limit : Option Nat} {s : Sample} (h : s ∈ d.samples fs limit) :
    ∃ v ∈ d.entries, s ∈ samplesOf fs d.directory v := by
  cases limit with
  | none => exact List.mem_flatMap.1 h
  | some k =>
    obtain ⟨v, hv, hs⟩ := List.mem_flatMap.1 h
    exact ⟨v, List.mem_of_mem_take hv, hs⟩

/-- **The listed values are independent.** Each yields alone what it yields in a row with the others; one that yields
nothing may stand anywhere. A limit is one of values, not of samples. Every sample has the label of the entry it comes
from. No sample is lost or moved when they are split, and no value when they are counted. -/
theorem entries_independent (fs : Files) (d : Dataset) :
    (∀ v ss, samples fs ⟨d.directory, [v]⟩ none = ss ↔ Yields fs d.directory v ss) ∧
      d.samples fs none = (d.entries.map fun v => samples fs ⟨d.directory, [v]⟩ none).flatten ∧
      (∀ before v after, d.entries = before ++ v :: after → Yields fs d.directory v [] →
        samples fs ⟨d.directory, before ++ after⟩ none = d.samples fs none) ∧
      (∀ k, d.samples fs (some k) = samples fs ⟨d.directory, d.entries.take k⟩ none ∧
        d.samples fs (some k) <+: d.samples fs none) ∧
      (∀ limit, ∀ s ∈ d.samples fs limit, ∃ v ∈ d.entries, s ∈ samples fs ⟨d.directory, [v]⟩ none ∧
        ∃ e, Entry.Describes v e ∧ e.Labels s) ∧
      (∀ limit, (d.split fs limit).train ++ (d.split fs limit).validation = d.samples fs limit) ∧
      d.statistics = .obj [("total_bugs", .nat d.entries.length), ("bug_types", .obj (shown d.typeCounts))] ∧
      (∀ name, tally d.typeCounts name = d.entries.countP (typeOf · = name)) ∧
      (d.typeCounts.map (·.2)).sum = d.entries.length := by
  refine ⟨?_, ?_, ?_, ?_, ?_, fun limit => Split.append_ofSamples _ _, rfl, tally_typeCounts d, sum_typeCounts d⟩
  · intro v ss
    rw [samples_one]
    exact samplesOf_eq_iff
  · simp only [samples_one]
    exact List.flatMap_def
  · intro before v after hentries hnothing
    rw [samples_none, samples_none, hentries, List.flatMap_append, List.flatMap_append, List.flatMap_cons,
      hnothing.samplesOf, List.nil_append]
  · intro k
    exact ⟨samples_some fs d k, (List.take_prefix k d.entries).flatMap _⟩
  · intro limit s hs
    obtain ⟨v, hv, hsv⟩ := exists_entry_of_mem hs
    exact ⟨v, hv, samples_one fs d.directory v ▸ hsv, (yields_samplesOf fs d.directory v).labels hsv⟩

/-- A dataset with an entry, a value that is none, an entry whose buggy file is blank, and one in an array. -/
def sparse : Dataset where
  directory := ⟨"ds"⟩
  entries :=
    [.obj [("bug_type_id", .null), ("files", .obj [("buggy_function", .str "b.c"), ("fixed_function", .str "f.c")])],
      .num (.whole 3), .obj [("files", .obj [("buggy_function", .str "blank.c")])],
      .arr [.str "C.1", .str "Leak", .arr [.str "b.c", .str "gone.c"]]]

def sparseFiles : Files where
  entries :=
    [(["ds"], .directory), (["ds", "b.c"], .file "x".toUTF8), (["ds", "f.c"], .file "y".toUTF8),
      (["ds", "blank.c"], .file " \n".toUTF8)]
  here := []

theorem entries_independent_sparse :
    Yields sparseFiles ⟨"ds"⟩ (.num (.whole 3)) [] ∧
      samples sparseFiles ⟨⟨"ds"⟩, sparse.entries.eraseIdx 1⟩ none = sparse.samples sparseFiles none ∧
      (sparse.samples sparseFiles none).map (·.hasBug) = [true, false, true] ∧
      (sparse.samples sparseFiles (some 3)).map (·.hasBug) = [true, false] ∧
      (sparse.typeCounts.map (·.2)).sum = 4 := by
  obtain ⟨halone, -, hskipped, -, -, -, -, -, hsum⟩ := entries_independent sparseFiles sparse
  have hnothing : Yields sparseFiles ⟨"ds"⟩ (.num (.whole 3)) [] := (halone _ _).1 rfl
  exact ⟨hnothing, hskipped [_] _ [_, _] rfl hnothing, by decide +kernel, by decide +kernel, hsum⟩

end SnippetAudit.Dataset
