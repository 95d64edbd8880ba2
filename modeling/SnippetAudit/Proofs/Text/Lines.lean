import SnippetAudit.Text.Lines

/-!
# Lines

A text is cut after every line feed, so the lines of a text and of what follows its line feed stand one behind the
other (`lines_append_newline`). Writing the lines out again drops nothing but carriage returns (`thinned_lines`), and
nothing at all where there are none (`unlines_lines`).
-/

namespace SnippetAudit.Text

/-- `Thinned s t`: `t` is `s` without some of its carriage returns. -/
inductive Thinned : List Char → List Char → Prop
  | nil : Thinned [] []
  | keep (c : Char) {s t : List Char} (h : Thinned s t) : Thinned (c :: s) (c :: t)
  | drop {s t : List Char} (h : Thinned s t) : Thinned ('\r' :: s) t

namespace Thinned

variable {s t : List Char}

theorem refl : ∀ s, Thinned s s
  | [] => .nil
  | c :: s => .keep c (refl s)

/-- What is thinned out of two texts is thinned out of each of them. -/
theorem of_append : ∀ {s s' t : List Char}, Thinned (s ++ s') t → ∃ u u', Thinned s u ∧ Thinned s' u' ∧ t = u ++ u'
  | [], _, t, h => ⟨[], t, .nil, h, rfl⟩
  | c :: s, s', _, .keep _ h => by
    obtain ⟨u, u', hu, hu', rfl⟩ := of_append h
    exact ⟨c :: u, u', .keep c hu, hu', rfl⟩
  | _ :: s, s', _, .drop h => by
    obtain ⟨u, u', hu, hu', rfl⟩ := of_append h
    exact ⟨u, u', .drop hu, hu', rfl⟩

theorem of_cons {c : Char} (h : Thinned (c :: s) t) (hc : c ≠ '\r') : ∃ u, Thinned s u ∧ t = c :: u := by
  cases h with
  | keep _ h => exact ⟨_, h, rfl⟩
  | drop => exact absurd rfl hc

/-- Where there is no carriage return, none can be dropped. -/
theorem eq_of_not_mem (h : Thinned s t) (hs : '\r' ∉ s) : t = s := by
  induction h with
  | nil => rfl
  | keep c _ ih => rw [ih fun hm => hs (List.mem_cons_of_mem _ hm)]
  | drop => exact absurd List.mem_cons_self hs

theorem mem (h : Thinned s t) {c : Char} (hc : c ∈ t) : c ∈ s := by
  induction h with
  | nil => exact hc
  | keep d _ ih =>
    rcases List.mem_cons.1 hc with rfl | hc
    · exact List.mem_cons_self
    · exact List.mem_cons_of_mem _ (ih hc)
  | drop _ ih => exact List.mem_cons_of_mem _ (ih hc)

end Thinned

/-! ## Cutting a text into lines -/

/-- A character that does not end a line goes in front of the first one. -/
theorem lines_cons {c : Char} {r : List Char} (hc : c ≠ '\n') (hr : c = '\r' → r.head? ≠ some '\n') :
    lines (c :: r) = consLine c (lines r) := by
  rw [lines.eq_def]
  split
  · next heq => cases heq
  · next heq => exact absurd (List.cons.inj heq).1 hc
  · next heq =>
    obtain ⟨rfl, rfl⟩ := List.cons.inj heq
    exact absurd rfl (hr rfl)
  · next heq =>
    obtain ⟨rfl, rfl⟩ := List.cons.inj heq
    rfl

theorem consLine_append {ls : List (List Char)} (h : ls ≠ []) (c : Char) (ls' : List (List Char)) :
    consLine c (ls ++ ls') = consLine c ls ++ ls' := by
  obtain ⟨l, ls, rfl⟩ := List.exists_cons_of_ne_nil h
  rfl

theorem consLine_ne_nil (c : Char) (ls : List (List Char)) : consLine c ls ≠ [] := by
  cases ls <;> simp [consLine]

theorem lines_ne_nil {s : List Char} (h : s ≠ []) : lines s ≠ [] := by
  fun_induction lines s with
  | case1 => exact absurd rfl h
  | case2 => simp
  | case3 => simp
  | case4 => exact consLine_ne_nil _ _

theorem lines_append_newline (a b : List Char) : lines (a ++ '\n' :: b) = lines (a ++ ['\n']) ++ lines b := by
  fun_induction lines a with
  | case1 => rfl
  | case2 r ih => simp only [List.cons_append, lines, ih]
  | case3 r ih => simp only [List.cons_append, lines, ih]
  | case4 c r hc hr ih =>
    by_cases hcr : c = '\r' ∧ r = []
    · obtain ⟨rfl, rfl⟩ := hcr
      rfl
    · have hhead : ∀ t, c = '\r' → (r ++ '\n' :: t).head? ≠ some '\n' := by
        rintro t rfl h
        cases r with
        | nil => exact hcr ⟨rfl, rfl⟩
        | cons d r =>
          obtain rfl : d = '\n' := by simpa using h
          exact hr _ rfl rfl
      have hne : lines (r ++ ['\n']) ≠ [] := lines_ne_nil (by simp)
      rw [List.cons_append, List.cons_append, lines_cons hc (hhead _), lines_cons hc (hhead _), ih,
        consLine_append hne]

/-- The first line stands at the start, the others behind line feeds. -/
theorem lines_eq_cons {s l : List Char} {ls : List (List Char)} (h : lines s = l :: ls) :
    (∃ b, s = l ++ b) ∧ ∀ l' ∈ ls, ∃ a b, s = a ++ '\n' :: (l' ++ b) := by
  -- one line feed in front of a text turns its first line into one of the others
  have hnext : ∀ {r : List Char}, (∀ {l ls}, lines r = l :: ls → (∃ b, r = l ++ b) ∧
      ∀ l' ∈ ls, ∃ a b, r = a ++ '\n' :: (l' ++ b)) → ∀ l' ∈ lines r, ∃ a b, '\n' :: r = a ++ '\n' :: (l' ++ b) := by
    intro r hr l' hl'
    cases hls : lines r with
    | nil => rw [hls] at hl'; cases hl'
    | cons l₀ ls₀ =>
      obtain ⟨⟨b, hb⟩, hrest⟩ := hr hls
      rw [hls] at hl'
      rcases List.mem_cons.1 hl' with rfl | hl'
      · exact ⟨[], b, by rw [hb]; rfl⟩
      · obtain ⟨a, b, hab⟩ := hrest l' hl'
        exact ⟨'\n' :: a, b, by rw [hab]; rfl⟩
  fun_induction lines s generalizing l ls with
  | case1 => cases h
  | case2 r ih =>
    obtain ⟨rfl, rfl⟩ := List.cons.inj h
    exact ⟨⟨_, rfl⟩, hnext ih⟩
  | case3 r ih =>
    obtain ⟨rfl, rfl⟩ := List.cons.inj h
    refine ⟨⟨_, rfl⟩, fun l' hl' => ?_⟩
    obtain ⟨a, b, hab⟩ := hnext ih l' hl'
    exact ⟨'\r' :: a, b, by rw [hab]; rfl⟩
  | case4 c r _ _ ih =>
    cases hls : lines r with
    | nil =>
      rw [hls] at h
      obtain ⟨rfl, rfl⟩ := List.cons.inj h
      exact ⟨⟨r, rfl⟩, by simp⟩
    | cons l₀ ls₀ =>
      rw [hls] at h
      obtain ⟨rfl, rfl⟩ := List.cons.inj h
      obtain ⟨⟨b, hb⟩, hrest⟩ := ih hls
      refine ⟨⟨b, by rw [hb]; rfl⟩, fun l' hl' => ?_⟩
      obtain ⟨a, b, hab⟩ := hrest l' hl'
      exact ⟨c :: a, b, by rw [hab]; rfl⟩

/-- A line stands at the start of its text or behind a line feed. -/
theorem mem_lines {s l : List Char} (h : l ∈ lines s) :
    (∃ b, s = l ++ b) ∨ ∃ a b, s = a ++ '\n' :: (l ++ b) := by
  cases hls : lines s with
  | nil => rw [hls] at h; cases h
  | cons l₀ ls =>
    obtain ⟨hfirst, hrest⟩ := lines_eq_cons hls
    rw [hls] at h
    rcases List.mem_cons.1 h with rfl | h
    · exact .inl hfirst
    · exact .inr (hrest l h)

/-! ## Writing the lines out again -/

theorem unlines_append (ls ls' : List (List Char)) : unlines (ls ++ ls') = unlines ls ++ unlines ls' := by
  simp [unlines]

theorem unlines_consLine {ls : List (List Char)} (h : ls ≠ []) (c : Char) :
    unlines (consLine c ls) = c :: unlines ls := by
  obtain ⟨l, ls, rfl⟩ := List.exists_cons_of_ne_nil h
  simp [unlines, consLine]

/-- Only the carriage returns at line ends are lost. -/
theorem thinned_lines (s : List Char) : Thinned (s ++ ['\n']) (unlines (lines (s ++ ['\n']))) := by
  induction s with
  | nil => exact .refl _
  | cons c r ih =>
    have hne : lines (r ++ ['\n']) ≠ [] := lines_ne_nil (by simp)
    by_cases hc : c = '\n'
    · subst hc
      exact .keep '\n' ih
    · by_cases hr : c = '\r' ∧ (r ++ ['\n']).head? = some '\n'
      · obtain ⟨rfl, hr⟩ := hr
        obtain ⟨t, ht⟩ := List.head?_eq_some_iff.1 hr
        -- the line feed behind the carriage return ends the same, empty line
        have hl : lines ('\r' :: r ++ ['\n']) = lines (r ++ ['\n']) := by rw [List.cons_append, ht]; rfl
        rw [hl]
        exact .drop ih
      · rw [List.cons_append, lines_cons hc fun h => fun h' => hr ⟨h, h'⟩, unlines_consLine hne]
        exact .keep c ih

theorem unlines_lines {s : List Char} (h : '\r' ∉ s) : unlines (lines (s ++ ['\n'])) = s ++ ['\n'] :=
  (thinned_lines s).eq_of_not_mem (by simpa using h)

/-- A line feed at the end adds an empty line or none. -/
theorem lines_newline {s : List Char} (h : '\r' ∉ s) :
    lines (s ++ ['\n']) = lines s ∨ lines (s ++ ['\n']) = lines s ++ [[]] := by
  induction s with
  | nil => exact .inr rfl
  | cons c r ih =>
    have ih := ih fun hr => h (List.mem_cons_of_mem _ hr)
    by_cases hc : c = '\n'
    · subst hc
      exact ih.imp (congrArg ([] :: ·)) (congrArg ([] :: ·))
    · have hcr : c ≠ '\r' := fun e => h (e ▸ List.mem_cons_self)
      rw [List.cons_append, lines_cons hc fun e => absurd e hcr, lines_cons hc fun e => absurd e hcr]
      rcases ih with ih | ih
      · exact .inl (by rw [ih])
      · cases r with
        | nil => exact .inl rfl
        | cons d r => exact .inr (by rw [ih, consLine_append (lines_ne_nil (by simp))])

end SnippetAudit.Text
