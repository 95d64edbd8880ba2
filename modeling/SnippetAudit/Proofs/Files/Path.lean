import SnippetAudit.Files.Path
import Mathlib.Data.List.TakeDrop

/-!
# File names

- A text without a slash that is put behind a path extends its last segment (`segments_appendText`).
- So the extension of a path with `.json` behind it is `json`, unless the path is open: empty or with a slash at its
  end.
  Then the name is `.json`, which has no extension (`extension?_appendText`).
- A relative path that is put behind another has its components behind those of the other (`components_join`).
-/

namespace SnippetAudit

/-! ## Segments -/

theorem Text.splitAt_ne_nil (sep : Char) (s : List Char) : splitAt sep s ≠ [] := by
  cases s with
  | nil => simp [splitAt]
  | cons c r =>
    unfold splitAt
    split
    · simp
    · split <;> simp

theorem Text.splitAt_of_not_mem {sep : Char} : ∀ {s : List Char}, sep ∉ s → splitAt sep s = [s]
  | [], _ => rfl
  | c :: r, h => by
    rw [List.mem_cons, not_or] at h
    have hc : (c == sep) = false := beq_eq_false_iff_ne.2 (Ne.symm h.1)
    simp [splitAt, hc, splitAt_of_not_mem h.2]

/-- What is behind the last separator grows, and nothing else. -/
theorem Text.splitAt_append {sep : Char} {t : List Char} (h : sep ∉ t) : ∀ s : List Char,
    ∃ before last, splitAt sep s = before ++ [last] ∧ splitAt sep (s ++ t) = before ++ [last ++ t]
  | [] => ⟨[], [], rfl, splitAt_of_not_mem h⟩
  | c :: r => by
    obtain ⟨before, last, hr, hrt⟩ := splitAt_append h r
    by_cases hc : (c == sep) = true
    · exact ⟨[] :: before, last, by simp [splitAt, hc, hr], by simp [splitAt, hc, hrt]⟩
    · cases before with
      | nil => exact ⟨[], c :: last, by simp [splitAt, hc, hr], by simp [splitAt, hc, hrt]⟩
      | cons b bs => exact ⟨(c :: b) :: bs, last, by simp [splitAt, hc, hr], by simp [splitAt, hc, hrt]⟩

theorem Text.splitAt_concat (sep : Char) : ∀ s : List Char, splitAt sep (s ++ [sep]) = splitAt sep s ++ [[]]
  | [] => by simp [splitAt]
  | c :: r => by
    by_cases hc : (c == sep) = true
    · simp [splitAt, hc, splitAt_concat sep r]
    · obtain ⟨b, bs, hb⟩ := List.exists_cons_of_ne_nil (splitAt_ne_nil sep r)
      simp [splitAt, hc, splitAt_concat sep r, hb]

/-- The last segment is empty only behind a separator, or of the empty text. -/
theorem Text.splitAt_last {sep : Char} {s last : List Char} {before : List (List Char)}
    (h : splitAt sep s = before ++ [last]) : last = [] ↔ s = [] ∨ s.getLast? = some sep := by
  rcases List.eq_nil_or_concat s with rfl | ⟨r, c, rfl⟩
  · have hlast : last = [] := by
      rcases before with _ | ⟨b, _ | ⟨b', bs⟩⟩ <;> simp [splitAt] at h
      exact h
    simp [hlast]
  rw [List.concat_eq_append] at h ⊢
  by_cases hc : c = sep
  · subst hc
    rw [splitAt_concat] at h
    have hlast := (List.append_inj' h rfl).2
    simp_all
  · have hmem : sep ∉ [c] := by simpa using Ne.symm hc
    obtain ⟨before', last', -, hs⟩ := splitAt_append hmem r
    rw [hs] at h
    have hlast := (List.append_inj' h rfl).2
    have hne : last ≠ [] := by
      rintro rfl
      simp at hlast
    simp [hne, hc]

theorem Text.splitAt_eq_splitOn (sep : Char) (s : List Char) : splitAt sep s = s.splitOn sep := by
  induction s with
  | nil => rfl
  | cons c s ih =>
    rw [splitAt, ih, List.splitOn_cons_eq_if_modifyHead]
    obtain ⟨p, ps, hp⟩ := List.exists_cons_of_ne_nil (List.splitOn_ne_nil sep s)
    rw [hp]
    rfl

theorem Text.not_mem_of_mem_splitAt {sep : Char} {part : List Char} :
    ∀ {s : List Char}, part ∈ splitAt sep s → sep ∉ part
  | [], h => by
    rw [List.mem_singleton.1 h]
    exact List.not_mem_nil
  | c :: r, h => by
    obtain ⟨b, bs, hb⟩ := List.exists_cons_of_ne_nil (splitAt_ne_nil sep r)
    by_cases hc : c = sep
    · rw [splitAt, if_pos (beq_iff_eq.2 hc)] at h
      obtain rfl | h := List.mem_cons.1 h
      · exact List.not_mem_nil
      · exact not_mem_of_mem_splitAt h
    · rw [splitAt, if_neg (mt beq_iff_eq.1 hc), hb] at h
      obtain rfl | h := List.mem_cons.1 h
      · exact List.not_mem_cons_of_ne_of_not_mem (Ne.symm hc) (not_mem_of_mem_splitAt (hb ▸ List.mem_cons_self))
      · exact not_mem_of_mem_splitAt (hb ▸ List.mem_cons_of_mem _ h)

/-- The parts of a text around a separator. -/
theorem Text.splitAt_append_cons (sep : Char) (s t : List Char) :
    splitAt sep (s ++ sep :: t) = splitAt sep s ++ splitAt sep t := by
  rw [splitAt_eq_splitOn, splitAt_eq_splitOn, splitAt_eq_splitOn, List.splitOn_append_cons_self]

namespace Path

/-- A path that ends before a name: the empty one, or one with a slash at its end. -/
def Open (p : Path) : Prop := p.text = "" ∨ p.text.toList.getLast? = some '/'

instance (p : Path) : Decidable p.Open := inferInstanceAs (Decidable (p.text = "" ∨ p.text.toList.getLast? = some '/'))

/-- **A text behind a path extends its last segment.** -/
theorem segments_appendText (p : Path) {suffix : String} (h : '/' ∉ suffix.toList) :
    ∃ before last, p.segments = before ++ [last] ∧ (p.appendText suffix).segments = before ++ [last ++ suffix.toList] ∧
      (last = [] ↔ p.Open) := by
  obtain ⟨before, last, hp, happ⟩ := Text.splitAt_append h p.text.toList
  refine ⟨before, last, hp, ?_, ?_⟩
  · rw [segments, appendText, String.toList_append]
    exact happ
  · rw [Text.splitAt_last hp, Open, ← String.toList_inj]
    rfl

/-! ## Extensions -/

/-- The component of the last segment is the last component. -/
theorem getLast?_components {p : Path} {before : List (List Char)} {s : List Char} {c : Component}
    (h : p.segments = before ++ [s]) (hs : Component.ofSegment? s = some c) : p.components.getLast? = some c := by
  have hrest : p.segments.filterMap Component.ofSegment? = before.filterMap Component.ofSegment? ++ [c] := by
    rw [h, List.filterMap_append]
    simp [hs]
  unfold components
  simp only [hrest]
  split
  · rw [← List.cons_append, List.getLast?_concat]
  · split
    · rw [← List.cons_append, List.getLast?_concat]
    · rw [List.getLast?_concat]

theorem span_of_not_mem {c : Char} : ∀ {s : List Char} (r : List Char), c ∉ s → (s ++ c :: r).span (· ≠ c) = (s, c :: r)
  | [], r, _ => by simp [List.span_eq_takeWhile_dropWhile]
  | d :: s, r, h => by
    rw [List.span_eq_takeWhile_dropWhile]
    have hall : ∀ x ∈ d :: s, (decide (x ≠ c)) = true := by
      intro x hx
      simpa using fun he : x = c => h (he ▸ hx)
    rw [List.takeWhile_append_of_pos hall, List.dropWhile_append_of_pos hall]
    simp

/-- The extension that is put behind a name, which is one only where something stands before the point. -/
theorem extension?_append {p : Path} {before : List (List Char)} {last ext : List Char}
    (h : p.segments = before ++ [last ++ '.' :: ext]) (hext : '.' ∉ ext) (hne : ext ≠ []) :
    p.extension? = if last = [] then none else some (String.ofList ext) := by
  have hseg : Component.ofSegment? (last ++ '.' :: ext) = some (.name (String.ofList (last ++ '.' :: ext))) := by
    have hlen : 0 < ext.length := List.length_pos_iff.2 hne
    have h1 : last ++ '.' :: ext ≠ [] := by simp
    have h2 : last ++ '.' :: ext ≠ ['.'] := by
      intro he
      have := congrArg List.length he
      simp at this
      omega
    have h3 : last ++ '.' :: ext ≠ ['.', '.'] := by
      intro he
      have hmem : '.' ∈ ext := by
        have hlen' := congrArg List.length he
        have hlast : last = [] := List.eq_nil_of_length_eq_zero (by simp at hlen'; omega)
        rw [hlast, List.nil_append, List.cons.injEq] at he
        rw [he.2]
        exact List.mem_singleton_self _
      exact hext hmem
    simp [Component.ofSegment?, h1, h2, h3]
  have hspan := span_of_not_mem last.reverse (fun hm => hext (List.mem_reverse.1 hm))
  have hname : p.fileName? = some (String.ofList (last ++ '.' :: ext)) := by
    rw [fileName?, getLast?_components h hseg]
  have hreverse : (String.ofList (last ++ '.' :: ext)).toList.reverse = ext.reverse ++ '.' :: last.reverse := by simp
  rw [extension?, hname]
  simp only [Option.bind_eq_bind, Option.bind_some, hreverse, hspan]
  by_cases hlast : last = []
  · simp [hlast]
  · obtain ⟨c, r, hr⟩ := List.exists_cons_of_ne_nil (mt List.reverse_eq_nil_iff.1 hlast)
    simp [hlast, hr]

/-- **The extension of a path that was given one.** -/
theorem extension?_appendText (p : Path) :
    (p.appendText ".json").extension? = if p.Open then none else some "json" := by
  obtain ⟨before, last, -, happ, hopen⟩ := p.segments_appendText (by decide : '/' ∉ ".json".toList)
  rw [extension?_append happ (by decide) (by decide)]
  by_cases h : p.Open
  · rw [if_pos h, if_pos (hopen.2 h)]
  · rw [if_neg h, if_neg (mt hopen.1 h)]
    rfl

/-! ## Joining -/

/-- The components that the segments of a path stand for. -/
def parts (p : Path) : List Component := p.segments.filterMap Component.ofSegment?

theorem components_eq (p : Path) : p.components =
    (if p.isAbsolute then [.root] else if p.segments.head? = some ['.'] then [.here] else []) ++ p.parts := by
  unfold components
  split
  · rfl
  · split
    · rfl
    · rfl

/-- The segments of a relative path stand behind those of the other, an empty one at its end apart. -/
theorem segments_join {p q : Path} (hp : p.text ≠ "") (hq : q.isAbsolute = false) :
    ∃ front rest, front ≠ [] ∧ p.segments = front ++ rest ∧ rest.filterMap Component.ofSegment? = [] ∧
      (p.join q).segments = front ++ q.segments := by
  have hempty : p.text.isEmpty = false := by simpa using hp
  unfold join
  rw [hq, if_neg Bool.false_ne_true, hempty]
  by_cases hslash : p.text.toList.getLast? = some '/'
  · obtain ⟨s, hs⟩ := List.getLast?_eq_some_iff.1 hslash
    refine ⟨Text.splitAt '/' s, [[]], Text.splitAt_ne_nil _ _, ?_, rfl, ?_⟩
    · rw [segments, hs]
      exact Text.splitAt_append_cons '/' s []
    · rw [if_pos (Or.inr hslash), segments, String.toList_append, hs, List.append_assoc]
      exact Text.splitAt_append_cons '/' s q.text.toList
  · refine ⟨p.segments, [], Text.splitAt_ne_nil _ _, (List.append_nil _).symm, rfl, ?_⟩
    have hnot : ¬(false = true ∨ p.text.toList.getLast? = some '/') := by simpa using hslash
    rw [if_neg hnot, segments, String.toList_append, String.toList_append, List.append_assoc]
    exact Text.splitAt_append_cons '/' p.text.toList q.text.toList

theorem isAbsolute_join {p q : Path} (hp : p.text ≠ "") (hq : q.isAbsolute = false) :
    (p.join q).isAbsolute = p.isAbsolute := by
  obtain ⟨c, s, hs⟩ := List.exists_cons_of_ne_nil (mt String.toList_eq_nil_iff.1 hp)
  unfold join
  rw [hq, if_neg Bool.false_ne_true]
  split
  · simp [isAbsolute, hs]
  · simp [isAbsolute, hs]

/-- **The components of a relative path stand behind those of the other.** -/
theorem components_join {p q : Path} (hq : q.isAbsolute = false) (hhere : q.segments.head? ≠ some ['.']) :
    (p.join q).components = p.components ++ q.components := by
  have hqparts : q.components = q.parts := by
    rw [components_eq, hq, if_neg Bool.false_ne_true, if_neg hhere, List.nil_append]
  by_cases hp : p.text = ""
  · have hjoin : p.join q = q := by
      unfold join
      rw [hq, hp]
      simp
    have hnone : p.components = [] := by
      obtain ⟨text⟩ := p
      obtain rfl : text = "" := hp
      rfl
    rw [hjoin, hnone, List.nil_append]
  obtain ⟨front, rest, hne, hsegments, hrest, hjoined⟩ := segments_join hp hq
  have hhead : (p.join q).segments.head? = p.segments.head? := by
    obtain ⟨first, others, rfl⟩ := List.exists_cons_of_ne_nil hne
    rw [hsegments, hjoined]
    rfl
  have hparts : (p.join q).parts = p.parts ++ q.parts := by
    unfold parts
    rw [hsegments, hjoined, List.filterMap_append, List.filterMap_append, hrest, List.append_nil]
  rw [components_eq, components_eq p, hqparts, isAbsolute_join hp hq, hhead, hparts, List.append_assoc]

end Path
end SnippetAudit
