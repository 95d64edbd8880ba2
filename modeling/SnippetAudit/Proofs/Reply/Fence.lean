import SnippetAudit.Reply.Basic
import SnippetAudit.Proofs.Reply.Section

/-!
# Fences around JSON

What `unfenced` takes away is one fence, with its tag or without (`unfenced_cases`), and it takes away the fence that
is put around a text (`unfenced_fencedBy`). A completion that is JSON behind its fence has no marker line
(`unmarked_of_unfenced`): the tag stands on a line that starts with a backquote, and all other lines are those of the
JSON text.
-/

namespace SnippetAudit.Reply

open Text (Blank trim isBlank cutAt_append eq_append_of_cutAt stripStart? stripStart?_append stripEnd?_append
  eq_append_of_stripStart? eq_append_of_stripEnd?)

/-! ## Taking a fence away -/

theorem fenced?_eq_some {s inside : List Char} : fenced? s = some inside ↔ s = fence ++ (inside ++ fence) := by
  constructor
  · intro h
    obtain ⟨r, hr, hinside⟩ := Option.bind_eq_some_iff.1 h
    rw [eq_append_of_stripStart? hr, eq_append_of_stripEnd? hinside]
  · rintro rfl
    rw [fenced?, stripStart?_append]
    exact stripEnd?_append fence inside

/-- What is left of a text: all of it, what stands between two fences, or what stands there behind a tag. -/
theorem unfenced_cases (s : List Char) :
    unfenced s = trim s ∨
      (∃ inside, trim s = fence ++ (inside ++ fence) ∧ unfenced s = trim inside) ∨
      ∃ tag rest, '\n' ∉ tag ∧ trim s = fence ++ (tag ++ '\n' :: (rest ++ fence)) ∧ unfenced s = trim rest := by
  rw [unfenced]
  split
  · next inside hinside =>
    have hs := fenced?_eq_some.1 hinside
    refine Or.inr ?_
    rw [untagged]
    split
    · next tag rest hcut =>
      obtain ⟨rfl, htag⟩ := eq_append_of_cutAt hcut
      split
      · exact Or.inr ⟨tag, rest, htag, by rw [hs]; simp, rfl⟩
      · exact Or.inl ⟨_, hs, rfl⟩
    · exact Or.inl ⟨inside, hs, rfl⟩
  · exact Or.inl rfl

theorem unfenced_trim (s : List Char) : unfenced (trim s) = unfenced s := by
  rw [unfenced, unfenced, Text.trim_trim]

theorem unfencedJson_trim (s : List Char) : unfencedJson (trim s) = unfencedJson s := by
  rw [unfencedJson, unfencedJson, unfenced_trim, Text.trim_trim]

/-- A value does not start with a fence. -/
theorem unfenced_of_spells {t : Json.Tree} {w : List Char} (h : Json.Spells (.value t) w) : unfenced w = w := by
  have htrim := Text.trim_of_ends h.trimmed
  obtain ⟨c, r, rfl, hc⟩ := h.exists_cons
  have hfence : fenced? (c :: r) = none := by
    have hne : c ≠ '\x60' := by rintro rfl; cases hc
    simp [fenced?, stripStart?, fence, Ne.symm hne]
  rw [unfenced, htrim, hfence]

theorem unfenced_of_textOf {t : Json.Tree} {s : List Char} (h : Json.TextOf t s) : unfenced s = trim s := by
  rw [← unfenced_trim, unfenced_of_spells h.trim]

theorem unfencedJson_of_spells {t : Json.Tree} {w : List Char} (h : Json.Spells (.value t) w) : unfencedJson w = w := by
  simp [unfencedJson, unfenced_of_spells h, Text.trim_of_ends h.trimmed]

/-! ## Putting a fence around a text -/

/-- A text between two fences, with a tag behind the first. -/
def fencedBy (tag text : String) : String :=
  String.ofList fence ++ tag ++ "\n" ++ text ++ "\n" ++ String.ofList fence

/-- Nothing, or a word that is not the start of a JSON object or array. -/
def FenceTag (tag : String) : Prop := Text.Word tag.toList ∧ ∀ c ∈ tag.toList.head?, c ≠ '\x7b' ∧ c ≠ '['

instance (tag : String) : Decidable (FenceTag tag) :=
  @instDecidableAnd _ _ inferInstance (Option.decidableForallMem tag.toList.head?)

theorem toList_fencedBy (tag text : String) :
    (fencedBy tag text).toList = fence ++ ((tag.toList ++ '\n' :: (text.toList ++ ['\n'])) ++ fence) := by
  simp [fencedBy]

/-- A fence has no blanks around it. -/
theorem trim_fence (inside : List Char) : trim (fence ++ (inside ++ fence)) = fence ++ (inside ++ fence) := by
  refine Text.trim_of_ends ⟨?_, ?_⟩
  · rintro _ ⟨⟩
    decide
  · have hlast : fence = ['\x60', '\x60'] ++ ['\x60'] := rfl
    rw [← List.append_assoc, hlast, ← List.append_assoc _ ['\x60', '\x60'], List.getLast?_concat]
    rintro _ ⟨⟩
    decide

theorem trim_fencedBy (tag text : String) : trim (fencedBy tag text).toList = (fencedBy tag text).toList := by
  rw [toList_fencedBy, trim_fence]

theorem FenceTag.isTag {tag : String} (h : FenceTag tag) (hne : tag.toList ≠ []) : isTag tag.toList = true := by
  obtain ⟨hword, hhead⟩ := h
  rw [Reply.isTag, hword.trim_eq]
  generalize tag.toList = s at hword hhead hne
  obtain ⟨c, r, rfl⟩ := List.exists_cons_of_ne_nil hne
  have hany : (c :: r).any isBlank = false := List.any_eq_false.2 fun d hd => by simp [hword d hd]
  simp [hany, hhead c rfl]

/-- **A fence that was put around a text is taken away again.** -/
theorem unfenced_fencedBy {tag : String} (htag : FenceTag tag) (text : String) :
    unfenced (fencedBy tag text).toList = trim text.toList := by
  have hblank : Blank ['\n'] := by decide
  have hnewline : '\n' ∉ tag.toList := fun hmem => absurd (htag.1 _ hmem) (by decide)
  have hinside := fenced?_eq_some.2 (toList_fencedBy tag text)
  rw [unfenced, trim_fencedBy, hinside]
  simp only [untagged, cutAt_append hnewline]
  by_cases hne : tag.toList = []
  · have hnot : isTag tag.toList = false := by rw [hne]; rfl
    rw [hnot, if_neg (by decide), hne, List.nil_append, ← List.singleton_append, Text.trim_blank_append hblank,
      Text.trim_append_blank hblank]
  · rw [htag.isTag hne, if_pos rfl, Text.trim_append_blank hblank]

/-! ## No marker line -/

/-- A line that starts with a fence is no marker line, whatever stands on it. -/
theorem unmarked_fence_line {z : List Char} (hz : '\n' ∉ z) : Unmarked ((fence ++ z) ++ ['\n']) := by
  intro l hl
  refine markerName?_of_head fun c hc => ?_
  obtain ⟨r, rfl⟩ := List.head?_eq_some_iff.1 hc
  rcases Text.mem_lines hl with ⟨b, hb⟩ | ⟨a, b, hab⟩
  · obtain rfl : '\x60' = c := (List.cons.inj hb).1
    decide
  · -- the only line feed is the last character, so nothing stands behind it
    have hlast := congrArg List.dropLast hab
    rw [List.dropLast_concat, List.dropLast_append_of_ne_nil (List.cons_ne_nil _ _)] at hlast
    have hmem : '\n' ∈ fence ++ z := by
      rw [hlast]
      exact List.mem_append_right a List.mem_cons_self
    simp [fence, hz] at hmem

/-- A text around JSON is outside of strings at its end. -/
theorem run_of_trim {t : Json.Tree} {s : List Char} (h : Json.TextOf t (trim s)) :
    Json.Spot.outside.run s = some .outside := by
  obtain ⟨b, b', hb, hb', hs⟩ := Text.exists_trim s
  rw [hs, Json.Spot.run_append (Json.run_blank hb), Json.Spot.run_append h.run, Json.run_blank hb']

/-- **A completion that is JSON behind its fence has no marker line.** -/
theorem unmarked_of_unfenced {t : Json.Tree} {s : List Char} (h : Json.TextOf t (unfenced s)) : Unmarked s := by
  have hfence : Json.Spot.outside.run fence = some .outside := rfl
  obtain ⟨b, b', hb, hb', hs⟩ := Text.exists_trim s
  rcases unfenced_cases s with hall | ⟨inside, htrim, hinside⟩ | ⟨tag, rest, htag, htrim, hrest⟩
  · exact unmarked_of_outside (run_of_trim (hall ▸ h))
  · rw [hinside] at h
    refine unmarked_of_outside ?_
    rw [hs, htrim, Json.Spot.run_append (Json.run_blank hb), List.append_assoc, Json.Spot.run_append hfence,
      List.append_assoc, Json.Spot.run_append (run_of_trim h), Json.Spot.run_append hfence, Json.run_blank hb']
  · rw [hrest] at h
    -- the tag may hold any character, so its line is looked at by itself
    have hrun : Json.Spot.outside.run (rest ++ (fence ++ b')) = some .outside := by
      rw [Json.Spot.run_append (run_of_trim h), Json.Spot.run_append hfence, Json.run_blank hb']
    have hsplit : trim s ++ b' = (fence ++ tag) ++ '\n' :: (rest ++ (fence ++ b')) := by
      rw [htrim]
      simp
    rw [hs, hsplit]
    refine Unmarked.blank_append ?_ hb
    rw [Unmarked, Text.lines_append_newline]
    exact List.forall_mem_append.2 ⟨unmarked_fence_line htag, unmarked_of_outside hrun⟩

end SnippetAudit.Reply
