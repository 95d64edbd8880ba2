import SnippetAudit.Text.Blank

/-!
# Trimming

A text is blanks, its trimmed text, and blanks (`exists_trim`), and the trimmed text has a blank at neither end
(`trim_of_ends`, `trim_trim`); a word has none at all (`Word`). Blanks put at the ends of a text change nothing
(`trim_blank_append`, `trim_append_blank`).
-/

namespace SnippetAudit.Text

/-- A run of blanks. -/
def Blank (b : List Char) : Prop := ∀ c ∈ b, isBlank c = true

instance (b : List Char) : Decidable (Blank b) := List.decidableBAll (fun c => isBlank c = true) b

theorem Blank.append {b b' : List Char} (h : Blank b) (h' : Blank b') : Blank (b ++ b') := fun c hc =>
  (List.mem_append.1 hc).elim (h c) (h' c)

theorem Blank.reverse {b : List Char} (h : Blank b) : Blank b.reverse := fun c hc => h c (List.mem_reverse.1 hc)

theorem isBlankText_iff {s : String} : isBlankText s = true ↔ Blank s.toList := by
  simp [isBlankText, Blank]

theorem isBlank_of_isDigit {c : Char} (h : c.isDigit = true) : isBlank c = false := by
  simp only [Char.isDigit, Bool.and_eq_true, decide_eq_true_eq, UInt32.le_iff_toNat_le] at h
  have hc : 48 ≤ c.toNat ∧ c.toNat ≤ 57 := h
  simp only [isBlank, Bool.or_eq_false_iff, Bool.and_eq_false_iff, decide_eq_false_iff_not, beq_eq_false_iff_ne]
  omega

theorem isUpper_of_isBlank {c : Char} (h : isBlank c = true) : c.isUpper = false := by
  simp only [isBlank, Bool.or_eq_true, Bool.and_eq_true, decide_eq_true_eq, beq_iff_eq] at h
  refine decide_eq_false fun hupper => ?_
  have hge : 65 ≤ c.toNat := UInt32.le_iff_toNat_le.1 hupper.1
  have hle : c.toNat ≤ 90 := UInt32.le_iff_toNat_le.1 hupper.2
  omega

/-- A text that neither starts nor ends with a blank. -/
def Trimmed (s : List Char) : Prop := (∀ c ∈ s.head?, isBlank c = false) ∧ ∀ c ∈ s.getLast?, isBlank c = false

instance (s : List Char) : Decidable (Trimmed s) :=
  @instDecidableAnd _ _ (Option.decidableForallMem s.head?) (Option.decidableForallMem s.getLast?)

/-- A text without blanks. -/
def Word (s : List Char) : Prop := ∀ c ∈ s, isBlank c = false

instance (s : List Char) : Decidable (Word s) := List.decidableBAll (fun c => isBlank c = false) s

variable {b s : List Char}

theorem trimStart_blank_append (hb : Blank b) (s : List Char) : trimStart (b ++ s) = trimStart s := by
  simp [trimStart, List.dropWhile_append_of_pos hb]

theorem trimEnd_append_blank (hb : Blank b) (s : List Char) : trimEnd (s ++ b) = trimEnd s := by
  simp [trimEnd, List.dropWhile_append_of_pos hb.reverse]

theorem trim_blank_append (hb : Blank b) (s : List Char) : trim (b ++ s) = trim s := by
  rw [trim, trimStart_blank_append hb, trim]

theorem trim_of_blank (hb : Blank b) : trim b = [] := by
  simpa [trim, trimStart, trimEnd] using trim_blank_append hb []

theorem trim_append_blank (hb : Blank b) (s : List Char) : trim (s ++ b) = trim s := by
  rw [trim, trimStart, List.dropWhile_append]
  split
  · next h =>
    have hs : trimStart s = [] := List.isEmpty_iff.1 h
    have hb' : trimStart b = [] := by simpa [trimStart] using trimStart_blank_append hb []
    rw [← trimStart, hb', trim, hs]
  · rw [trimEnd_append_blank hb, trim, trimStart]

/-- What was cut off are blanks. -/
theorem exists_trim (s : List Char) : ∃ b b', Blank b ∧ Blank b' ∧ s = b ++ (trim s ++ b') := by
  refine ⟨s.takeWhile isBlank, ((trimStart s).reverse.takeWhile isBlank).reverse,
    List.all_eq_true.1 List.all_takeWhile, Blank.reverse (List.all_eq_true.1 List.all_takeWhile), ?_⟩
  rw [trim, trimEnd, ← List.reverse_append, List.takeWhile_append_dropWhile, List.reverse_reverse, trimStart,
    List.takeWhile_append_dropWhile]

theorem trim_infix (s : List Char) : trim s <:+: s := by
  obtain ⟨b, b', -, -, he⟩ := exists_trim s
  exact ⟨b, b', by rw [List.append_assoc, ← he]⟩

theorem trimStart_of_head (h : ∀ c ∈ s.head?, isBlank c = false) : trimStart s = s := by
  cases s with
  | nil => rfl
  | cons c r => simp [trimStart, h c rfl]

theorem trim_of_ends (h : Trimmed s) : trim s = s := by
  rw [trim, trimStart_of_head h.1, trimEnd]
  have hr : trimStart s.reverse = s.reverse := trimStart_of_head (by simpa using h.2)
  rw [trimStart] at hr
  rw [hr, List.reverse_reverse]

theorem Word.trim_eq (h : Word s) : trim s = s :=
  trim_of_ends ⟨fun c hc => h c (List.mem_of_mem_head? hc), fun c hc => h c (List.mem_of_getLast? hc)⟩

theorem head?_trimStart (s : List Char) : ∀ c ∈ (trimStart s).head?, isBlank c = false := by
  intro c hc
  have h := List.head?_dropWhile_not isBlank s
  rw [trimStart] at hc
  rw [Option.mem_def.1 hc] at h
  exact h

theorem trimmed_trim (s : List Char) : Trimmed (trim s) := by
  constructor
  · intro c hc
    obtain ⟨r, hr⟩ := List.head?_eq_some_iff.1 hc
    -- trimming the end leaves the first character in its place
    obtain ⟨b', -, he⟩ : ∃ b', Blank b' ∧ trimStart s = trim s ++ b' :=
      ⟨((trimStart s).reverse.takeWhile isBlank).reverse, Blank.reverse (List.all_eq_true.1 List.all_takeWhile), by
        rw [trim, trimEnd, ← List.reverse_append, List.takeWhile_append_dropWhile, List.reverse_reverse]⟩
    exact head?_trimStart s c (by rw [he, hr]; rfl)
  · intro c hc
    rw [trim, trimEnd, List.getLast?_reverse] at hc
    exact head?_trimStart _ c hc

theorem trim_trim (s : List Char) : trim (trim s) = trim s := trim_of_ends (trimmed_trim s)

theorem trim_eq_nil : trim s = [] ↔ Blank s := by
  refine ⟨fun h => ?_, trim_of_blank⟩
  obtain ⟨b, b', hb, hb', he⟩ := exists_trim s
  rw [h, List.nil_append] at he
  exact he ▸ hb.append hb'

/-- A text that does not start with a blank keeps its first character. -/
theorem exists_trim_cons {c : Char} (hc : isBlank c = false) (s : List Char) : ∃ r, trim (c :: s) = c :: r := by
  obtain ⟨b, b', hb, hb', he⟩ := exists_trim (c :: s)
  have hnot : ∀ {d : Char}, c = d → isBlank d = true → False := by
    rintro d rfl hd
    rw [hc] at hd
    cases hd
  cases b with
  | cons d b => exact (hnot (List.cons.inj he).1 (hb d List.mem_cons_self)).elim
  | nil =>
    rw [List.nil_append] at he
    cases htrim : trim (c :: s) with
    | cons d r => exact ⟨r, by rw [htrim] at he; rw [(List.cons.inj he).1]⟩
    | nil =>
      rw [htrim, List.nil_append] at he
      exact (hnot rfl (hb' c (he ▸ List.mem_cons_self))).elim

/-- The only text between two runs of blanks that is trimmed is the trimmed text. -/
theorem trim_between {b' : List Char} (hb : Blank b) (hs : Trimmed s) (hb' : Blank b') : trim (b ++ (s ++ b')) = s := by
  rw [trim_blank_append hb, trim_append_blank hb', trim_of_ends hs]

end SnippetAudit.Text
