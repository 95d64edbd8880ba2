import SnippetAudit.Reply.Fence
import SnippetAudit.Reply.Section
import SnippetAudit.Proofs.Json.Layout
import SnippetAudit.Proofs.Text.Search

/-!
# Markers, marker lines and sections

* Two markers of a name never overlap in a text (`unbordered_marker`).
* The marker of a name is a marker line with that name (`markerName?_marker`), and no line of a JSON text is one
  (`unmarked_of_textOf`).
* A marker line opens a section that takes the lines up to the next marker (`split_section`), so sections that are
  written one behind the other are found again (`split_parts`).
-/

namespace SnippetAudit.Reply

open Text (Trimmed Blank trim lines stripStart?_append stripEnd?_append eq_append_of_stripStart?)

/-! ## Markers -/

theorem toList_marker (name : String) :
    (marker name).toList = '[' :: '[' :: ([' ', '#', '#', ' '] ++ (name.toList ++ [' ', '#', '#', ' ', ']', ']'])) := by
  simp [marker]

theorem marker_ne_nil (name : String) : (marker name).toList ≠ [] := by
  rw [toList_marker]
  exact List.cons_ne_nil _ _

theorem not_mem_marker {c : Char} {name : String} (hc : c ∉ ['[', ' ', '#', ']']) (h : c ∉ name.toList) :
    c ∉ (marker name).toList := by
  simp only [List.mem_cons, List.not_mem_nil, or_false, not_or] at hc
  simp [toList_marker, hc, h]

/-- **Two markers of a name never overlap**, unless the name opens a bracket itself. -/
theorem unbordered_marker {name : String} (h : '[' ∉ name.toList) : Text.Unbordered (marker name).toList := by
  rw [toList_marker]
  exact Text.unbordered_of_twice (by simpa using h) (List.cons_ne_nil _ _)

/-! ## Marker lines -/

/-- A text none of whose lines is a marker line. -/
def Unmarked (s : List Char) : Prop := ∀ l ∈ lines s, markerName? l = none

instance (s : List Char) : Decidable (Unmarked s) := List.decidableBAll (fun l => markerName? l = none) (lines s)

theorem markerName?_marker {name : String} (h : Trimmed name.toList) :
    markerName? (marker name).toList = some name.toList := by
  have hline : (marker name).toList =
      ['[', '[', ' ', '#', '#'] ++ ([' '] ++ (name.toList ++ [' ']) ++ ['#', '#', ' ', ']', ']']) := by
    simp [marker]
  have hlast : (marker name).toList =
      (['[', '[', ' ', '#', '#', ' '] ++ name.toList ++ [' ', '#', '#', ' ', ']']) ++ [']'] := by
    simp [marker]
  have htrim : Trimmed (marker name).toList := by
    refine ⟨?_, ?_⟩
    · rw [hline]
      rintro _ ⟨⟩
      decide
    · rw [hlast, List.getLast?_concat]
      rintro _ ⟨⟩
      decide
  have hblank : Blank [' '] := by intro c hc; rw [List.mem_singleton.1 hc]; decide
  rw [markerName?, Text.trim_of_ends htrim, hline, stripStart?_append]
  simp only [Option.bind_eq_bind, Option.bind_some, stripEnd?_append, Option.pure_def]
  rw [Text.trim_between hblank h hblank]

theorem markerName?_blank_append {b : List Char} (hb : Blank b) (l : List Char) :
    markerName? (b ++ l) = markerName? l := by
  rw [markerName?, Text.trim_blank_append hb, markerName?]

theorem markerName?_of_blank {b : List Char} (hb : Blank b) : markerName? b = none := by
  rw [markerName?, Text.trim_of_blank hb]
  rfl

/-- A marker line starts with two brackets, blanks apart. -/
theorem exists_of_markerName? {l name : List Char} (h : markerName? l = some name) :
    ∃ b r, Blank b ∧ l = b ++ (['[', '[', ' ', '#', '#'] ++ r) := by
  simp only [markerName?, Option.bind_eq_bind, Option.bind_eq_some_iff] at h
  obtain ⟨r, hr, -⟩ := h
  obtain ⟨b, b', hb, -, hl⟩ := Text.exists_trim l
  refine ⟨b, r ++ b', hb, ?_⟩
  rw [eq_append_of_stripStart? hr] at hl
  rw [hl, List.append_assoc]

/-- A marker line has a `#` outside of every string. -/
theorem markerName?_eq_none {l : List Char} (h : (Json.Spot.outside.run l).isSome = true) : markerName? l = none := by
  refine Option.eq_none_iff_forall_ne_some.2 fun name hm => ?_
  obtain ⟨b, r, hb, rfl⟩ := exists_of_markerName? hm
  rw [Json.Spot.run_append (Json.run_blank hb)] at h
  cases h

/-- A line that starts with another character is no marker line. -/
theorem markerName?_of_head {l : List Char} (h : ∀ c ∈ l.head?, Text.isBlank c = false ∧ c ≠ '[') :
    markerName? l = none := by
  refine Option.eq_none_iff_forall_ne_some.2 fun name hm => ?_
  obtain ⟨b, r, hb, rfl⟩ := exists_of_markerName? hm
  cases b with
  | nil => exact (h '[' rfl).2 rfl
  | cons c b =>
    have hblank := hb c List.mem_cons_self
    rw [(h c rfl).1] at hblank
    cases hblank

theorem unmarked_of_outside {s : List Char} (h : Json.Spot.outside.run s = some .outside) : Unmarked s := by
  intro l hl
  refine markerName?_eq_none (Json.Spot.lines_outside ?_ hl)
  rw [h]
  rfl

/-- **No line of a JSON text is a marker line.** -/
theorem unmarked_of_textOf {t : Json.Tree} {s : List Char} (h : Json.TextOf t s) : Unmarked s :=
  unmarked_of_outside h.run

/-- A blank in front of a text brings no marker line. -/
theorem Unmarked.cons_blank {c : Char} {s : List Char} (h : Unmarked s) (hc : Text.isBlank c = true) :
    Unmarked (c :: s) := by
  by_cases hn : c = '\n'
  · subst hn
    exact List.forall_mem_cons.2 ⟨rfl, h⟩
  by_cases hr : c = '\r' ∧ s.head? = some '\n'
  · -- the line feed ends the same line with the carriage return and without
    obtain ⟨rfl, hr⟩ := hr
    obtain ⟨r, rfl⟩ := List.head?_eq_some_iff.1 hr
    exact h
  have hblank : Blank [c] := by
    intro d hd
    rwa [List.mem_singleton.1 hd]
  rw [Unmarked, Text.lines_cons hn fun he hhead => hr ⟨he, hhead⟩]
  cases hls : lines s with
  | nil => exact List.forall_mem_singleton.2 (markerName?_of_blank hblank)
  | cons l ls =>
    rw [Unmarked, hls] at h
    obtain ⟨hl, hls⟩ := List.forall_mem_cons.1 h
    exact List.forall_mem_cons.2 ⟨(markerName?_blank_append hblank l).trans hl, hls⟩

theorem Unmarked.blank_append {b s : List Char} (h : Unmarked s) (hb : Blank b) : Unmarked (b ++ s) := by
  induction b with
  | nil => exact h
  | cons c b ih =>
    obtain ⟨hc, hb⟩ := List.forall_mem_cons.1 hb
    exact (ih hb).cons_blank hc

/-- The blank line behind a body brings no marker line. -/
theorem Unmarked.newline {s : List Char} (h : Unmarked s) (hr : '\r' ∉ s) : Unmarked (s ++ ['\n']) := by
  intro l hl
  rcases Text.lines_newline hr with he | he
  · exact h l (he ▸ hl)
  · rw [he, List.mem_append, List.mem_singleton] at hl
    rcases hl with hl | rfl
    · exact h l hl
    · rfl

/-! ## Splitting -/

namespace Section

theorem split_append {ls : List (List Char)} (h : ∀ l ∈ ls, markerName? l = none) (ls' : List (List Char)) :
    split (ls ++ ls') = (ls ++ (split ls').1, (split ls').2) := by
  induction ls with
  | nil => rfl
  | cons l ls ih =>
    rw [List.cons_append, split, ih fun l' hl' => h l' (List.mem_cons_of_mem _ hl')]
    simp [h l List.mem_cons_self]

theorem split_marker {l name : List Char} (h : markerName? l = some name) (ls : List (List Char)) :
    split (l :: ls) = ([], ⟨name, (split ls).1⟩ :: (split ls).2) := by
  rw [split]
  simp [h]

/-- A marker line and lines that are none make a section, if a marker line or nothing follows. -/
theorem split_section {l name : List Char} {ls ls' : List (List Char)} (hl : markerName? l = some name)
    (hls : ∀ l ∈ ls, markerName? l = none) (hls' : (split ls').1 = []) :
    split (l :: (ls ++ ls')) = ([], ⟨name, ls⟩ :: (split ls').2) := by
  rw [split_marker hl, split_append hls, hls', List.append_nil]

end Section

/-! ## Sections one behind the other -/

/-- A section as it is written: its marker line, its body, and a blank line. -/
def sectionText (part : String × String) : String := marker part.1 ++ "\n" ++ part.2 ++ "\n\n"

/-- The section that is read back. -/
def sectionOf (part : String × String) : Section where
  name := part.1.toList
  lines := lines (part.2.toList ++ ['\n']) ++ [[]]

/-- A name that can stand on a marker line. -/
def MarkerName (name : String) : Prop := Trimmed name.toList ∧ '\n' ∉ name.toList ∧ '\r' ∉ name.toList

instance (name : String) : Decidable (MarkerName name) :=
  inferInstanceAs (Decidable (Trimmed name.toList ∧ '\n' ∉ name.toList ∧ '\r' ∉ name.toList))

/-- A body that stays in its section. -/
structure IsPart (part : String × String) : Prop where
  name : MarkerName part.1
  body : Unmarked (part.2.toList ++ ['\n'])

theorem lines_line {l : List Char} (hn : '\n' ∉ l) (hr : '\r' ∉ l) : lines (l ++ ['\n']) = [l] := by
  induction l with
  | nil => rfl
  | cons c l ih =>
    simp only [List.mem_cons, not_or] at hn hr
    rw [List.cons_append, Text.lines_cons (Ne.symm hn.1) fun e => absurd e.symm hr.1, ih hn.2 hr.2]
    rfl

theorem IsPart.lines_marker {part : String × String} (h : IsPart part) (s : List Char) :
    lines ((marker part.1).toList ++ '\n' :: s) = (marker part.1).toList :: lines s := by
  rw [Text.lines_append_newline, lines_line]
  · rfl
  · exact not_mem_marker (by decide) h.name.2.1
  · exact not_mem_marker (by decide) h.name.2.2

theorem IsPart.lines_sectionText {part : String × String} (h : IsPart part) (s : List Char) :
    lines ((sectionText part).toList ++ s) =
      (marker part.1).toList :: ((lines (part.2.toList ++ ['\n']) ++ [[]]) ++ lines s) := by
  have hs : (sectionText part).toList ++ s =
      (marker part.1).toList ++ '\n' :: (part.2.toList ++ '\n' :: ([] ++ '\n' :: s)) := by
    simp [sectionText]
  rw [hs, h.lines_marker, Text.lines_append_newline, Text.lines_append_newline]
  simp [lines]

/-- **Sections are found again**, in their order, with their bodies and nothing else. -/
theorem split_parts : ∀ {parts : List (String × String)}, (∀ part ∈ parts, IsPart part) → ∀ {s : List Char},
    (Section.split (lines s)).1 = [] →
    Section.split (lines (parts.flatMap (fun part => (sectionText part).toList) ++ s)) =
      ([], parts.map sectionOf ++ (Section.split (lines s)).2)
  | [], _, s, hs => by simp [← hs]
  | part :: parts, h, s, hs => by
    have hpart := h part List.mem_cons_self
    have ih := split_parts (fun part hp => h part (List.mem_cons_of_mem _ hp)) hs
    rw [List.flatMap_cons, List.append_assoc, hpart.lines_sectionText,
      Section.split_section (markerName?_marker hpart.name.1) ?_ (by rw [ih]), ih]
    · rfl
    · intro l hl
      rw [List.mem_append, List.mem_singleton] at hl
      rcases hl with hl | rfl
      · exact hpart.body l hl
      · rfl

end SnippetAudit.Reply
