import SnippetAudit.Verdict
import SnippetAudit.Proofs.Reply.Fence

/-!
# Details without their fence

What `unfencedString` makes of the details of a reply. It is the trimmed text, or JSON that stood inside of a fence
(`unfencedJson_cases`), so a second time changes nothing (`unfencedJson_idem`), and a text that cannot be read keeps
its fence (`eq_trim_of_unread`).

JSON comes out of its fence, with a tag behind the opening fence or without (`unfencedJson_between`). An object or an
array may even start on the line of the opening fence: this line is no tag, since a tag does not start with a bracket
(`isTag_bracketed`).
-/

namespace SnippetAudit

open Text (Blank Trimmed trim eq_append_of_cutAt)

/-- A JSON text is read as the same value without the blanks around it. -/
theorem Json.parseChars?_trim {s : List Char} {v : Json} (h : parseChars? s = some v) :
    parseChars? (trim s) = some v := by
  obtain ⟨t, ht, hv⟩ := parseChars?_eq_some.1 h
  exact parseChars?_eq_some.2 ⟨t, ht.trim.textOf, hv⟩

namespace Reply

/-! ## What is left of a text -/

theorem trimmed_unfenced (s : List Char) : Trimmed (unfenced s) := by
  rcases unfenced_cases s with h | ⟨inside, -, h⟩ | ⟨tag, rest, -, -, h⟩
  · rw [h]
    exact Text.trimmed_trim s
  · rw [h]
    exact Text.trimmed_trim inside
  · rw [h]
    exact Text.trimmed_trim rest

/-- JSON in a fence is taken out of it, and any other text stays as it is. -/
theorem unfencedJson_cases (s : List Char) :
    unfencedJson s = trim s ∨
      ((Json.parseChars? (unfenced s)).isSome = true ∧ unfencedJson s = unfenced s) := by
  unfold unfencedJson
  by_cases hkeep : unfenced s ≠ trim s ∧ (Json.parseChars? (unfenced s)).isNone
  · exact Or.inl (if_pos hkeep)
  · simp only [if_neg hkeep]
    by_cases hsame : unfenced s = trim s
    · exact Or.inl hsame
    · refine Or.inr ⟨?_, trivial⟩
      rw [Option.isSome_iff_ne_none, ne_eq, ← Option.isNone_iff_eq_none]
      exact fun hnone => hkeep ⟨hsame, hnone⟩

theorem unfencedJson_of_parse {s : List Char} (h : (Json.parseChars? (unfenced s)).isSome = true) :
    unfencedJson s = unfenced s := by
  unfold unfencedJson
  have hnot : ¬(unfenced s ≠ trim s ∧ (Json.parseChars? (unfenced s)).isNone) := by
    rintro ⟨-, hnone⟩
    rw [Option.isNone_iff_eq_none] at hnone
    rw [hnone] at h
    cases h
  exact if_neg hnot

/-- **A second time changes nothing.** -/
theorem unfencedJson_idem (s : List Char) : unfencedJson (unfencedJson s) = unfencedJson s := by
  rcases unfencedJson_cases s with h | ⟨hparse, h⟩
  · rw [h, unfencedJson_trim, h]
  · obtain ⟨v, hv⟩ := Option.isSome_iff_exists.1 hparse
    obtain ⟨t, ht, -⟩ := Json.parseChars?_eq_some.1 hv
    have hspells := ht.trim
    rw [Text.trim_of_ends (trimmed_unfenced s)] at hspells
    rw [h, unfencedJson_of_spells hspells]

/-- **A text that cannot be read is kept with its fence.** -/
theorem eq_trim_of_unread {s : List Char} {raw : String}
    (h : Findings.ofText (String.ofList (unfencedJson s)) = .unread raw) : raw = String.ofList (trim s) := by
  unfold Findings.ofText at h
  rw [Json.parse?, String.toList_ofList] at h
  rcases unfencedJson_cases s with hkept | ⟨hparse, hjson⟩
  · rw [hkept] at h
    split at h
    · cases h
    · exact (Findings.unread.inj h).symm
  · obtain ⟨v, hv⟩ := Option.isSome_iff_exists.1 hparse
    rw [hjson, hv] at h
    cases h

/-! ## What is found in a fence -/

/-- **JSON comes out of its fence**, whatever blanks are around the whole. -/
theorem unfencedJson_between {b b' s text : List Char} (hb : Blank b) (hb' : Blank b') (h : unfenced s = trim text)
    (hjson : (Json.parseChars? text).isSome = true) : unfencedJson (b ++ (s ++ b')) = trim text := by
  have hblanks : unfenced (b ++ (s ++ b')) = trim text := by
    rw [← unfenced_trim, Text.trim_blank_append hb, Text.trim_append_blank hb', unfenced_trim, h]
  obtain ⟨v, hv⟩ := Option.isSome_iff_exists.1 hjson
  have hparse : (Json.parseChars? (unfenced (b ++ (s ++ b')))).isSome = true := by
    rw [hblanks, Json.parseChars?_trim hv]
    rfl
  rw [unfencedJson_of_parse hparse, hblanks]

/-- A line that starts with a bracket is no tag, and a blank line is none either. -/
theorem isTag_bracketed {g line rest r : List Char} {c : Char} (hg : Blank g) (hc : c = '\x7b' ∨ c = '[')
    (h : line ++ '\n' :: rest = g ++ c :: r) : isTag line = false := by
  have hblank : Text.isBlank c = false := by
    rcases hc with rfl | rfl
    · decide
    · decide
  rcases List.append_eq_append_iff.1 h with ⟨g', rfl, -⟩ | ⟨line', rfl, hline⟩
  · -- the line ends among the blanks
    have hnil : trim line = [] := Text.trim_of_blank fun d hd => hg d (List.mem_append_left _ hd)
    rw [isTag, hnil]
  · cases line' with
    | nil =>
      obtain ⟨rfl, -⟩ := List.cons.inj hline
      rcases hc with hc | hc
      · cases hc
      · cases hc
    | cons d line' =>
      obtain ⟨rfl, -⟩ := List.cons.inj hline
      obtain ⟨word, hword⟩ := Text.exists_trim_cons hblank line'
      rw [isTag, Text.trim_blank_append hg, hword]
      rcases hc with rfl | rfl
      · simp
      · simp

/-- An object or an array starts with its bracket, blanks apart. -/
theorem exists_bracket {s : List Char} {v : Json} (h : Json.parseChars? s = some v)
    (hv : (∃ ms, v = .obj ms) ∨ ∃ vs, v = .arr vs) : ∃ g c r, Blank g ∧ (c = '\x7b' ∨ c = '[') ∧ s = g ++ c :: r := by
  obtain ⟨t, ⟨g, w, g', hg, hw, -, rfl⟩, hjson⟩ := Json.parseChars?_eq_some.1 h
  have htree : (∃ ms, t = .obj ms) ∨ ∃ ts, t = .arr ts := by
    cases t with
    | obj ms => exact Or.inl ⟨ms, rfl⟩
    | arr ts => exact Or.inr ⟨ts, rfl⟩
    | null | bool | num | str | broken =>
      rcases hv with ⟨ms, rfl⟩ | ⟨vs, rfl⟩
      · simp [Json.Tree.json?] at hjson
      · simp [Json.Tree.json?] at hjson
  have hbracket : ∃ c r, (c = '\x7b' ∨ c = '[') ∧ w = c :: r := by
    rcases htree with ⟨ms, rfl⟩ | ⟨ts, rfl⟩
    · cases hw with
      | noMembers | obj => exact ⟨_, _, Or.inl rfl, rfl⟩
    · cases hw with
      | noItems | arr => exact ⟨_, _, Or.inr rfl, rfl⟩
  obtain ⟨c, r, hc, rfl⟩ := hbracket
  exact ⟨g, c, r ++ g', hg.blank, hc, by simp⟩

/-- **Brackets may open on the line of the fence.** -/
theorem unfenced_bracketed {text : List Char} {v : Json} (h : Json.parseChars? text = some v)
    (hv : (∃ ms, v = .obj ms) ∨ ∃ vs, v = .arr vs) :
    unfenced (fence ++ ((text ++ ['\n']) ++ fence)) = trim text := by
  obtain ⟨g, c, r, hg, hc, htext⟩ := exists_bracket h hv
  have hblank : Blank ['\n'] := by decide
  rw [unfenced, trim_fence, fenced?_eq_some.2 rfl]
  simp only [untagged]
  split
  · next line rest hcut =>
    obtain ⟨hline, -⟩ := eq_append_of_cutAt hcut
    have htag : isTag line = false := by
      refine @isTag_bracketed g line rest (r ++ ['\n']) c hg hc ?_
      rw [← hline, htext, List.append_assoc, List.cons_append]
    rw [htag, if_neg Bool.false_ne_true, Text.trim_append_blank hblank]
  · exact Text.trim_append_blank hblank text

/-! ## On strings -/

/-- What is left of a text stands between its fences, behind what is on the line of the first one. -/
theorem exists_around (s : List Char) : unfenced s = trim s ∨
    ∃ opening closing, Blank closing ∧ trim s = fence ++ (opening ++ (unfenced s ++ (closing ++ fence))) := by
  rcases unfenced_cases s with hall | ⟨inside, htrim, hinside⟩ | ⟨tag, rest, -, htrim, hrest⟩
  · exact Or.inl hall
  · obtain ⟨b, b', -, hb', hsplit⟩ := Text.exists_trim inside
    refine Or.inr ⟨b, b', hb', ?_⟩
    rw [hinside]
    calc trim s = fence ++ (inside ++ fence) := htrim
      _ = fence ++ ((b ++ (trim inside ++ b')) ++ fence) := by rw [← hsplit]
      _ = _ := by simp only [List.append_assoc]
  · obtain ⟨b, b', -, hb', hsplit⟩ := Text.exists_trim rest
    refine Or.inr ⟨tag ++ '\n' :: b, b', hb', ?_⟩
    rw [hrest]
    calc trim s = fence ++ (tag ++ '\n' :: (rest ++ fence)) := htrim
      _ = fence ++ (tag ++ '\n' :: ((b ++ (trim rest ++ b')) ++ fence)) := by rw [← hsplit]
      _ = _ := by simp only [List.append_assoc, List.cons_append]

theorem parse?_ofList (s : List Char) : Json.parse? (String.ofList s) = Json.parseChars? s := by
  rw [Json.parse?, String.toList_ofList]

/-- The details are kept, or they are JSON from between two fences. -/
theorem unfencedString_cases (s : String) : unfencedString s = Text.trimmed s ∨
    ((Json.parse? (unfencedString s)).isSome = true ∧ ∃ opening closing, Text.isBlankText closing = true ∧
      Text.trimmed s = String.ofList fence ++ opening ++ unfencedString s ++ closing ++ String.ofList fence) := by
  unfold unfencedString
  rcases unfencedJson_cases s.toList with hkept | ⟨hparse, hjson⟩
  · exact Or.inl (congrArg String.ofList hkept)
  · rcases exists_around s.toList with hall | ⟨opening, closing, hclosing, hsplit⟩
    · exact Or.inl (congrArg String.ofList (hjson.trans hall))
    · refine Or.inr ⟨?_, String.ofList opening, String.ofList closing, ?_, ?_⟩
      · rw [parse?_ofList, hjson, hparse]
      · rw [Text.isBlankText_iff, String.toList_ofList]
        exact hclosing
      · rw [Text.trimmed, hsplit, hjson]
        simp only [String.ofList_append, String.append_assoc]

/-- JSON in a fence, on strings. -/
theorem unfencedString_between {before after inside text : String} (hbefore : Text.isBlankText before = true)
    (hafter : Text.isBlankText after = true) (h : unfenced inside.toList = trim text.toList)
    (hjson : (Json.parse? text).isSome = true) : unfencedString (before ++ inside ++ after) = Text.trimmed text := by
  have hbetween := unfencedJson_between (Text.isBlankText_iff.1 hbefore) (Text.isBlankText_iff.1 hafter) h hjson
  rw [unfencedString, String.append_assoc, String.toList_append, String.toList_append, hbetween]
  rfl

/-- **Taking a fence away loses nothing and finds JSON.** JSON is what the reader takes; of it, an object or an array
may start on the line of the opening fence. -/
theorem unfencedString_laws (s : String) :
    (unfencedString s = Text.trimmed s ∨
      ((Json.parse? (unfencedString s)).isSome = true ∧ ∃ opening closing, Text.isBlankText closing = true ∧
        Text.trimmed s = String.ofList fence ++ opening ++ unfencedString s ++ closing ++ String.ofList fence)) ∧
      unfencedString (unfencedString s) = unfencedString s ∧
      (∀ raw, Findings.ofText (unfencedString s) = .unread raw → raw = Text.trimmed s) ∧
      (∀ before after tag text : String, Text.isBlankText before = true → Text.isBlankText after = true →
        FenceTag tag → (Json.parse? text).isSome = true → s = before ++ fencedBy tag text ++ after →
        unfencedString s = Text.trimmed text) ∧
      ∀ before after text : String, Text.isBlankText before = true → Text.isBlankText after = true →
        ((∃ ms, Json.parse? text = some (.obj ms)) ∨ ∃ vs, Json.parse? text = some (.arr vs)) →
        s = before ++ (String.ofList fence ++ text ++ "\n" ++ String.ofList fence) ++ after →
        unfencedString s = Text.trimmed text := by
  refine ⟨unfencedString_cases s, ?_, ?_, ?_, ?_⟩
  · rw [unfencedString, unfencedString, String.toList_ofList, unfencedJson_idem]
  · intro raw hraw
    exact eq_trim_of_unread hraw
  · rintro before after tag text hbefore hafter htag hjson rfl
    exact unfencedString_between hbefore hafter (unfenced_fencedBy htag text) hjson
  · rintro before after text hbefore hafter hv rfl
    have hparse : ∃ v, Json.parse? text = some v ∧ ((∃ ms, v = .obj ms) ∨ ∃ vs, v = .arr vs) := by
      rcases hv with ⟨ms, hms⟩ | ⟨vs, hvs⟩
      · exact ⟨_, hms, Or.inl ⟨ms, rfl⟩⟩
      · exact ⟨_, hvs, Or.inr ⟨vs, rfl⟩⟩
    obtain ⟨v, hparse, hv⟩ := hparse
    refine unfencedString_between hbefore hafter ?_ (by rw [hparse]; rfl)
    have hinside : (String.ofList fence ++ text ++ "\n" ++ String.ofList fence).toList =
        fence ++ ((text.toList ++ ['\n']) ++ fence) := by simp
    rw [hinside, unfenced_bracketed hparse hv]

/-- A fence within a string of the JSON stays; the one around it goes, with its tag and where there is none. -/
theorem unfencedString_laws_inner :
    (Json.parse? "[true,\n\"\x60\x60\x60\"]" = some (.arr [.bool true, .str "\x60\x60\x60"]) ∧ FenceTag "json") ∧
      unfencedString (" " ++ fencedBy "json" "[true,\n\"\x60\x60\x60\"]" ++ "\n") = "[true,\n\"\x60\x60\x60\"]" ∧
      unfencedString ("" ++ (String.ofList fence ++ "[true,\n\"\x60\x60\x60\"]" ++ "\n" ++ String.ofList fence) ++ "") =
        "[true,\n\"\x60\x60\x60\"]" := by
  have hparse : Json.parse? "[true,\n\"\x60\x60\x60\"]" = some (.arr [.bool true, .str "\x60\x60\x60"]) := by cbv
  have htag : FenceTag "json" := by decide
  have htrim : Text.trimmed "[true,\n\"\x60\x60\x60\"]" = "[true,\n\"\x60\x60\x60\"]" := by decide +kernel
  refine ⟨⟨hparse, htag⟩, ?_, ?_⟩
  · have htagged := (unfencedString_laws _).2.2.2.1 " " "\n" "json" "[true,\n\"\x60\x60\x60\"]" (by decide) (by decide) htag
      (by rw [hparse]; rfl) rfl
    rw [htagged, htrim]
  · have hplain := (unfencedString_laws _).2.2.2.2 "" "" "[true,\n\"\x60\x60\x60\"]" (by decide) (by decide)
      (Or.inr ⟨_, hparse⟩) rfl
    rw [hplain, htrim]

end Reply
end SnippetAudit
