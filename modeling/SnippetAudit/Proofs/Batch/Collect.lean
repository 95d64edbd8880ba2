import SnippetAudit.Batch.Basic
import SnippetAudit.Proofs.Files.Descent
import SnippetAudit.Proofs.Files.Order

/-!
# The files of a batch

What a batch does with a walk is settled by what the walk comes to, in whatever order (`sources_eq`): of the files below
a directory those that match, by their name or by their path behind the directory (`Matches`), in the strict order of
paths. Together with the walk, which comes to every file once, that is all that `collect` gives (`collect_exact`).
-/

namespace SnippetAudit

/-! ## Paths behind a directory -/

/-- What is left of a path behind the components of a directory. -/
def Path.behind? (dir p : Path) : Option Path :=
  if dir.components <+: p.components then some (ofComponents (p.components.drop dir.components.length)) else none

namespace Files

variable {dir : Path} {names names' : List String}

/-- Names that make the same path are the same. -/
theorem names_eq_of_components_along (h : ∀ name ∈ names, Proper name) (h' : ∀ name ∈ names', Proper name)
    (heq : (along dir names).components = (along dir names').components) : names = names' := by
  rw [components_along dir h, components_along dir h'] at heq
  have hname : Function.Injective Path.Component.name := fun _ _ => Path.Component.name.inj
  exact List.map_injective_iff.2 hname (List.append_cancel_left heq)

theorem fileName?_along (h : ∀ name ∈ names, Proper name) (hne : names ≠ []) :
    (along dir names).fileName? = names.getLast? := by
  have hlast : (along dir names).components.getLast? = names.getLast?.map .name := by
    rw [components_along dir h, List.getLast?_append_of_ne_nil _ (by simpa using hne), List.getLast?_map]
  rw [Path.fileName?, hlast]
  cases names.getLast? <;> rfl

theorem behind?_along (h : ∀ name ∈ names, Proper name) :
    Path.behind? dir (along dir names) = some ⟨"/".intercalate names⟩ := by
  have hcomponents := components_along dir h
  have hroot : names.map Path.Component.name ≠ [.root] := by
    cases names <;> simp
  have htext : (names.map Path.Component.name).map Path.Component.text = names := by
    rw [List.map_map]
    exact List.map_id names
  rw [Path.behind?, hcomponents, if_pos (List.prefix_append _ _), List.drop_left, Path.ofComponents, if_neg hroot,
    htext]

end Files

namespace Batch

open Files

variable {fs fs' : Files} {dir p : Path} {g : Glob} {ws ws' : List Walked}

/-! ## What is made of a walk -/

/-- A path that a pattern matches: by its file name, or by what is left of it behind the directory. -/
def Matches (g : Glob) (dir p : Path) : Prop :=
  (∃ name, p.fileName? = some name ∧ g.accepts name = true) ∨
    ∃ rest, Path.behind? dir p = some rest ∧ g.accepts rest.text = true

/-- A list of what a walk can come to: every file below the directory once, in any order. -/
structure Lists (fs : Files) (dir : Path) (ws : List Walked) : Prop where
  nodup : (ws.map (·.names)).Nodup
  mem_iff : ∀ v, v ∈ ws ↔ v.path = along dir v.names ∧ LeadsTo fs dir v.names .file

/-- The paths that belong to a batch, sorted. -/
def sources (g : Glob) (ws : List Walked) : List Path := ((ws.filter (belongs g)).map (·.path)).mergeSort Path.le

theorem lists_walk (hfs : fs.WellFormed) (dir : Path) : Lists fs dir (fs.walk dir) :=
  ⟨nodup_walk hfs dir, fun _ => mem_walk hfs⟩

theorem belongs_iff {v : Walked} (hpath : v.path = along dir v.names) (h : ∀ name ∈ v.names, Proper name)
    (hne : v.names ≠ []) : belongs g v = true ↔ Matches g dir v.path := by
  have hlast : v.names.getLast? = some (v.names.getLast hne) := List.getLast?_eq_some_getLast hne
  rw [belongs, Matches, hpath, fileName?_along h hne, behind?_along h, hlast, Bool.or_eq_true]
  simp

namespace Lists

theorem proper (hfs : fs.WellFormed) (hws : Lists fs dir ws) {v : Walked} (hv : v ∈ ws) :
    v.names ≠ [] ∧ ∀ name ∈ v.names, Proper name := by
  obtain ⟨-, place, -, hreaches⟩ := (hws.mem_iff v).1 hv
  exact ⟨hreaches.ne_nil, hreaches.proper hfs⟩

/-- **What belongs to a batch.** -/
theorem mem_sources (hfs : fs.WellFormed) (hws : Lists fs dir ws) :
    p ∈ sources g ws ↔ ∃ names, p = along dir names ∧ LeadsTo fs dir names .file ∧ Matches g dir p := by
  rw [sources, List.mem_mergeSort, List.mem_map]
  constructor
  · rintro ⟨v, hv, rfl⟩
    obtain ⟨hmem, hbelongs⟩ := List.mem_filter.1 hv
    obtain ⟨hpath, hleads⟩ := (hws.mem_iff v).1 hmem
    obtain ⟨hne, hproper⟩ := hws.proper hfs hmem
    exact ⟨v.names, hpath, hleads, (belongs_iff hpath hproper hne).1 hbelongs⟩
  · rintro ⟨names, rfl, hleads, hmatches⟩
    have hmem : ⟨along dir names, names⟩ ∈ ws := (hws.mem_iff _).2 ⟨rfl, hleads⟩
    obtain ⟨hne, hproper⟩ := hws.proper hfs hmem
    exact ⟨_, List.mem_filter.2 ⟨hmem, (belongs_iff rfl hproper hne).2 hmatches⟩, rfl⟩

/-- **The files of a batch stand in strict order.** -/
theorem pairwise_sources (hfs : fs.WellFormed) (hws : Lists fs dir ws) : (sources g ws).Pairwise Path.Before := by
  refine Path.pairwise_before_mergeSort ?_
  have hnodup : ((ws.filter (belongs g)).map (·.names)).Nodup := hws.nodup.sublist (List.filter_sublist.map _)
  rw [List.Nodup, List.pairwise_map] at hnodup
  rw [List.Nodup, List.map_map, List.pairwise_map]
  refine hnodup.imp_of_mem fun {v v'} hv hv' hne heq => hne ?_
  have hmem := (List.mem_filter.1 hv).1
  have hmem' := (List.mem_filter.1 hv').1
  have hpath := ((hws.mem_iff v).1 hmem).1
  have hpath' := ((hws.mem_iff v').1 hmem').1
  rw [Function.comp_apply, Function.comp_apply, hpath, hpath'] at heq
  exact names_eq_of_components_along (hws.proper hfs hmem).2 (hws.proper hfs hmem').2 heq

/-- **The order of a walk does not matter.** -/
theorem sources_eq (hfs : fs.WellFormed) (hws : Lists fs dir ws) (hws' : Lists fs dir ws') :
    sources g ws = sources g ws' := by
  refine Path.eq_of_pairwise_before (hws.pairwise_sources hfs) (hws'.pairwise_sources hfs) fun p => ?_
  rw [hws.mem_sources hfs, hws'.mem_sources hfs]

end Lists

/-- Nor does the order in which the tree keeps its entries. -/
theorem lists_reordered (hfs : fs.WellFormed) (h : Reordered fs fs') (dir : Path) : Lists fs dir (fs'.walk dir) := by
  have hfs' := hfs.reordered h
  refine ⟨nodup_walk hfs' dir, fun v => ?_⟩
  rw [mem_walk hfs']
  exact and_congr_right fun _ => ⟨fun hleads => hleads.reordered hfs' h.symm, fun hleads => hleads.reordered hfs h⟩

/-! ## Collecting -/

theorem collect_noDirectory (hdir : fs.isDirectory dir = false) (text : String) :
    collect fs dir text = .error (.io (.wantsDirectory dir.text)) := by
  simp [collect, hdir, throw, throwThe, MonadExceptOf.throw, bind, Except.bind]

theorem collect_invalid {text : String} {e : Glob.Error} (hdir : fs.isDirectory dir = true)
    (h : Glob.ofPattern text = .error e) :
    collect fs dir text = .error (.config ("invalid pattern " ++ Text.quoted text ++ ": " ++ e.message text)) := by
  simp [collect, hdir, pattern, h, bind, Except.bind]

theorem collect_valid {text : String} (hdir : fs.isDirectory dir = true) (h : Glob.ofPattern text = .ok g) :
    collect fs dir text = .ok (sources g (fs.walk dir)) := by
  simp [collect, hdir, pattern, h, sources, bind, Except.bind, pure, Except.pure]

/-- **Collecting is exact, and no order of the tree shows in it.** Without a directory or a pattern there is an error
and nothing else. Otherwise the files stand in strict order; of all that the walk comes to they are the files that
match; and every other order, of the entries or of the walk, gives the same files. -/
theorem collect_exact (fs : Files) (hfs : fs.WellFormed) (dir : Path) (text : String) :
    (fs.isDirectory dir = false → collect fs dir text = .error (.io (.wantsDirectory dir.text))) ∧
    (∀ e, fs.isDirectory dir = true → Glob.ofPattern text = .error e →
      collect fs dir text = .error (.config ("invalid pattern " ++ Text.quoted text ++ ": " ++ e.message text))) ∧
    ∀ g, fs.isDirectory dir = true → Glob.ofPattern text = .ok g →
      Lists fs dir (fs.walk dir) ∧ ∃ files, collect fs dir text = .ok files ∧
        files.Pairwise Path.Before ∧
        (∀ p ∈ files, ∃ names, p = along dir names ∧ LeadsTo fs dir names .file) ∧
        (∀ names w, LeadsTo fs dir names w →
          (along dir names ∈ files ↔ w = .file ∧ Matches g dir (along dir names))) ∧
        (∀ fs', Reordered fs fs' → collect fs' dir text = .ok files) ∧
        ∀ ws, Lists fs dir ws → sources g ws = files := by
  refine ⟨fun hdir => collect_noDirectory hdir text, fun e => collect_invalid, fun g hdir hg => ?_⟩
  have hwalk := lists_walk hfs dir
  refine ⟨hwalk, _, collect_valid hdir hg, hwalk.pairwise_sources hfs, fun p hp => ?_, fun names w hleads => ?_,
    fun fs' h => ?_, fun ws hws => hws.sources_eq hfs hwalk⟩
  · obtain ⟨names, hpath, hleads, -⟩ := (hwalk.mem_sources hfs).1 hp
    exact ⟨names, hpath, hleads⟩
  · rw [hwalk.mem_sources hfs]
    constructor
    · rintro ⟨names', hpath, hfile, hmatches⟩
      obtain rfl := names_eq_of_components_along (hleads.proper hfs) (hfile.proper hfs) (congrArg _ hpath)
      exact ⟨hleads.unique hfile, hmatches⟩
    · rintro ⟨rfl, hmatches⟩
      exact ⟨names, rfl, hleads, hmatches⟩
  · rw [collect_valid ((isDirectory_reordered hfs h dir).trans hdir) hg]
    exact congrArg _ ((lists_reordered hfs h dir).sources_eq hfs hwalk)

/-- A directory with a link that leads out of it and back: what is below the link counts, the way back does not. -/
theorem collect_exact_linked :
    let entries : List (Place × Entry) :=
      [(["s"], .directory), (["s", "l"], .link ⟨"../d"⟩), (["s", "b.h"], .file ⟨#[]⟩), (["s", "gone.c"], .link ⟨"no"⟩),
        (["d"], .directory), (["d", "back.c"], .link ⟨"../s"⟩), (["d", "c.c"], .file ⟨#[]⟩)]
    WellFormed ⟨entries, []⟩ ∧ Files.isDirectory ⟨entries, []⟩ ⟨"s"⟩ = true ∧ ∃ g, Glob.ofPattern "*.c" = .ok g ∧
      ∃ files, collect ⟨entries, []⟩ ⟨"s"⟩ "*.c" = .ok files ∧ collect ⟨entries.reverse, []⟩ ⟨"s"⟩ "*.c" = .ok files ∧
        ⟨"s/l/c.c"⟩ ∈ files ∧ ⟨"s/b.h"⟩ ∉ files := by
  intro entries
  have hfs : WellFormed ⟨entries, []⟩ := by
    refine ⟨by decide, ?_⟩
    unfold Proper IsName
    decide
  have hdir : Files.isDirectory ⟨entries, []⟩ ⟨"s"⟩ = true := rfl
  obtain ⟨-, -, hexact⟩ := collect_exact ⟨entries, []⟩ hfs ⟨"s"⟩ "*.c"
  obtain ⟨-, files, hcollect, -, -, hmem, horder, -⟩ := hexact ⟨[.run, .literal '.', .literal 'c']⟩ hdir rfl
  have hlink : StandsFor ⟨entries, []⟩ [["s"]] ["s"] ⟨"s"⟩ "l" (.directory ["d"]) :=
    .linkedDirectory rfl rfl rfl (by decide)
  have hlinked : LeadsTo ⟨entries, []⟩ ⟨"s"⟩ ["l", "c.c"] .file := ⟨["s"], rfl, .into hlink (.last (.file rfl))⟩
  have hheader : LeadsTo ⟨entries, []⟩ ⟨"s"⟩ ["b.h"] .file := ⟨["s"], rfl, .last (.file rfl)⟩
  refine ⟨hfs, hdir, _, rfl, files, hcollect, horder _ ⟨rfl, entries.reverse_perm⟩, ?_, fun h => ?_⟩
  · exact (hmem _ _ hlinked).2 ⟨rfl, .inl ⟨"c.c", rfl, by decide +kernel⟩⟩
  · have hno : Glob.accepts ⟨[.run, .literal '.', .literal 'c']⟩ "b.h" = false := by decide +kernel
    obtain ⟨-, ⟨name, hname, haccepts⟩ | ⟨rest, hrest, haccepts⟩⟩ := (hmem _ _ hheader).1 h
    · obtain rfl : "b.h" = name := Option.some.inj hname
      exact Bool.false_ne_true (hno.symm.trans haccepts)
    · obtain rfl : ⟨"b.h"⟩ = rest := Option.some.inj hrest
      exact Bool.false_ne_true (hno.symm.trans haccepts)

end Batch
end SnippetAudit
