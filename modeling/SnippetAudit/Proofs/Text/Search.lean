import SnippetAudit.Text.Search

/-!
# Occurrences

- The first occurrence of a pattern in a text is the one that no other begins before (`FirstAt`). `cutAt` finds it
  (`cutAt_eq_some_iff`), and nothing where there is none (`cutAt_eq_none_iff`). What follows it (`Behind`), or comes before
  it (`UpTo`), is the whole text in that case.
- A pattern whose occurrences never overlap (`Unbordered`) has its first one behind every text in which it does not occur
  (`firstAt_append`).
- The last occurrence is the one that no other begins after (`LastAt`). That is so when there is none behind its first
  character (`lastAt_of_not_infix`), and then `fromLast` finds it (`fromLast_append`).
- A pattern that has its last character at its end only does not reach over that character in a text
  (`infix_append_cons_iff`), and none reaches over a character that it does not have
  (`infix_append_cons_iff_of_not_mem`).
-/

namespace SnippetAudit.Text

variable {pat before after s r a b p : List Char} {c : Char}

/-! ## Beginnings and ends -/

theorem stripStart?_append (pat s : List Char) : stripStart? pat (pat ++ s) = some s := by
  simp [stripStart?, List.isPrefixOf_iff_prefix]

theorem eq_append_of_stripStart? (h : stripStart? pat s = some r) : s = pat ++ r := by
  rw [stripStart?] at h
  split at h
  · next hp =>
    obtain ⟨t, rfl⟩ := List.isPrefixOf_iff_prefix.1 hp
    rw [List.drop_left] at h
    rw [Option.some.inj h]
  · cases h

theorem stripEnd?_append (pat s : List Char) : stripEnd? pat (s ++ pat) = some s := by
  simp [stripEnd?, List.isSuffixOf_iff_suffix]

theorem eq_append_of_stripEnd? (h : stripEnd? pat s = some r) : s = r ++ pat := by
  rw [stripEnd?] at h
  split at h
  · next hp =>
    obtain ⟨t, rfl⟩ := List.isSuffixOf_iff_suffix.1 hp
    rw [List.length_append, Nat.add_sub_cancel, List.take_left] at h
    rw [Option.some.inj h]
  · cases h

/-! ## First occurrences -/

/-- The first occurrence of a pattern in a text, by what is before it and what follows. -/
structure FirstAt (pat before after s : List Char) : Prop where
  eq_append : s = before ++ (pat ++ after)
  first : ∀ before' after', s = before' ++ (pat ++ after') → before.length ≤ before'.length

namespace FirstAt

theorem isInfix (h : FirstAt pat before after s) : pat <:+: s := by
  rw [h.eq_append]
  exact List.infix_append' before pat after

theorem of_append (pat after : List Char) : FirstAt pat [] after (pat ++ after) := ⟨rfl, fun _ _ _ => Nat.zero_le _⟩

/-- A character in front, if no occurrence begins with it. -/
theorem cons (h : FirstAt pat before after s) (hc : ¬pat <+: c :: s) : FirstAt pat (c :: before) after (c :: s) where
  eq_append := by rw [h.eq_append, List.cons_append]
  first before' after' heq := by
    cases before' with
    | nil => exact (hc ⟨after', heq.symm⟩).elim
    | cons d before' => exact Nat.succ_le_succ (h.first before' after' (List.cons.inj heq).2)

/-- There is one first occurrence. -/
theorem unique {before' after' : List Char} (h : FirstAt pat before after s) (h' : FirstAt pat before' after' s) :
    before = before' ∧ after = after' := by
  have hlength : before.length = before'.length :=
    Nat.le_antisymm (h.first _ _ h'.eq_append) (h'.first _ _ h.eq_append)
  obtain ⟨hbefore, hrest⟩ := List.append_inj (h.eq_append.symm.trans h'.eq_append) hlength
  exact ⟨hbefore, List.append_cancel_left hrest⟩

/-- No occurrence stands before the first one. -/
theorem not_infix (h : FirstAt pat before after s) (hpat : pat ≠ []) : ¬pat <:+: before := by
  rintro ⟨u, v, huv⟩
  have hs : s = u ++ (pat ++ (v ++ (pat ++ after))) := by
    rw [h.eq_append, ← huv]
    simp only [List.append_assoc]
  have hle := h.first u _ hs
  have hlength := congrArg List.length huv
  simp only [List.length_append] at hlength
  have hpos := List.length_pos_iff.2 hpat
  omega

end FirstAt

theorem cutAt_eq_none_iff : cutAt pat s = none ↔ ¬pat <:+: s := by
  induction s with
  | nil => cases pat <;> simp [cutAt]
  | cons c r ih =>
    rw [cutAt, List.infix_cons_iff, not_or, ← ih]
    cases hstrip : stripStart? pat (c :: r) with
    | some rest =>
      have hbegins : pat <+: c :: r := ⟨rest, (eq_append_of_stripStart? hstrip).symm⟩
      simp [hbegins]
    | none =>
      have hbegins : ¬pat <+: c :: r := by
        rintro ⟨rest, hrest⟩
        rw [← hrest, stripStart?_append] at hstrip
        cases hstrip
      simp [hbegins]

theorem firstAt_of_cutAt (h : cutAt pat s = some (before, after)) : FirstAt pat before after s := by
  induction s generalizing before with
  | nil =>
    cases pat with
    | nil =>
      obtain ⟨rfl, rfl⟩ := Prod.mk.inj (Option.some.inj h)
      exact .of_append [] []
    | cons d p => cases h
  | cons c r ih =>
    rw [cutAt] at h
    cases hstrip : stripStart? pat (c :: r) with
    | some rest =>
      rw [hstrip] at h
      obtain ⟨rfl, rfl⟩ := Prod.mk.inj (Option.some.inj h)
      rw [eq_append_of_stripStart? hstrip]
      exact .of_append pat rest
    | none =>
      rw [hstrip] at h
      obtain ⟨⟨before', after'⟩, hcut, heq⟩ := Option.map_eq_some_iff.1 h
      obtain ⟨rfl, rfl⟩ := Prod.mk.inj heq
      refine (ih hcut).cons ?_
      rintro ⟨rest, hrest⟩
      rw [← hrest, stripStart?_append] at hstrip
      cases hstrip

/-- **A text is cut at the first occurrence.** -/
theorem cutAt_eq_some_iff : cutAt pat s = some (before, after) ↔ FirstAt pat before after s := by
  refine ⟨firstAt_of_cutAt, fun h => ?_⟩
  cases hcut : cutAt pat s with
  | none => exact (cutAt_eq_none_iff.1 hcut h.isInfix).elim
  | some parts =>
    obtain ⟨rfl, rfl⟩ := (firstAt_of_cutAt hcut).unique h
    rfl

theorem contains_iff : contains pat s = true ↔ pat <:+: s := by
  rw [contains, Option.isSome_iff_ne_none, ne_eq, cutAt_eq_none_iff, Decidable.not_not]

theorem holds_iff {s pat : String} : holds s pat = true ↔ pat.toList <:+: s.toList := contains_iff

/-! ## The parts around it -/

/-- What follows the first occurrence of a pattern, or the whole text where there is none. -/
inductive Behind (pat s : List Char) : List Char → Prop
  | found {before after : List Char} (h : FirstAt pat before after s) : Behind pat s after
  | absent (h : ¬pat <:+: s) : Behind pat s s

/-- What comes before the first occurrence of a pattern, or the whole text where there is none. -/
inductive UpTo (pat s : List Char) : List Char → Prop
  | found {before after : List Char} (h : FirstAt pat before after s) : UpTo pat s before
  | absent (h : ¬pat <:+: s) : UpTo pat s s

theorem exists_behind (pat s : List Char) : ∃ r, Behind pat s r := by
  cases hcut : cutAt pat s with
  | some parts => exact ⟨parts.2, .found (firstAt_of_cutAt hcut)⟩
  | none => exact ⟨s, .absent (cutAt_eq_none_iff.1 hcut)⟩

theorem exists_upTo (pat s : List Char) : ∃ r, UpTo pat s r := by
  cases hcut : cutAt pat s with
  | some parts => exact ⟨parts.1, .found (firstAt_of_cutAt hcut)⟩
  | none => exact ⟨s, .absent (cutAt_eq_none_iff.1 hcut)⟩

/-- The pattern is not in what comes before it. -/
theorem UpTo.not_infix (h : UpTo pat s r) (hpat : pat ≠ []) : ¬pat <:+: r := by
  cases h with
  | found hfirst => exact hfirst.not_infix hpat
  | absent hnot => exact hnot

/-! ## Patterns that do not overlap -/

/-- A pattern of which no proper end is a beginning, so that its occurrences never overlap. -/
def Unbordered (pat : List Char) : Prop := ∀ u v, pat = u ++ v → u ≠ [] → v <+: pat → v = []

theorem unbordered_singleton (c : Char) : Unbordered [c] := by
  intro u v huv hu _
  obtain ⟨d, u, rfl⟩ := List.exists_cons_of_ne_nil hu
  exact (List.append_eq_nil_iff.1 (List.cons.inj huv).2.symm).2

/-- A pattern that begins with a character twice, and has it nowhere else. -/
theorem unbordered_of_twice (hc : c ∉ r) (hr : r ≠ []) : Unbordered (c :: c :: r) := by
  intro u v huv hu hv
  cases v with
  | nil => rfl
  | cons d v =>
    obtain ⟨e, u, rfl⟩ := List.exists_cons_of_ne_nil hu
    obtain ⟨rfl, hv⟩ := List.cons_prefix_cons.1 hv
    have hrest := (List.cons.inj huv).2
    cases u with
    | nil =>
      -- the end is all but the first character, and as a beginning has the character as its second
      obtain ⟨-, rfl⟩ := List.cons.inj hrest
      obtain ⟨e, r, rfl⟩ := List.exists_cons_of_ne_nil hr
      obtain ⟨rfl, -⟩ := List.cons_prefix_cons.1 hv
      exact (hc List.mem_cons_self).elim
    | cons e u =>
      rw [(List.cons.inj hrest).2] at hc
      exact (hc (by simp)).elim

/-- **The first occurrence behind a text that has none**, whatever follows. -/
theorem firstAt_append (hpat : Unbordered pat) (h : ¬pat <:+: before) (after : List Char) :
    FirstAt pat before after (before ++ (pat ++ after)) where
  eq_append := rfl
  first before' after' heq := by
    obtain ⟨w, rfl, -⟩ | ⟨w, rfl, hrest⟩ := List.append_eq_append_iff.1 heq
    · exact (List.prefix_append before w).length_le
    · -- another occurrence begins before, and cannot end there
      obtain ⟨z, rfl, -⟩ | ⟨z, hsplit, hz⟩ := List.append_eq_append_iff.1 hrest
      · exact (h (List.infix_append' before' pat z)).elim
      · by_cases hw : w = []
        · simp [hw]
        · have hbegins : z <+: pat := by
            refine List.prefix_of_prefix_length_le ⟨after', hz.symm⟩ (List.prefix_append pat after) ?_
            rw [hsplit]
            exact (List.suffix_append w z).length_le
          rw [hpat w z hsplit hw hbegins, List.append_nil] at hsplit
          rw [hsplit] at h
          exact (h (List.suffix_append before' w).isInfix).elim

/-! ## Cutting at a character -/

theorem cutAt_append (h : c ∉ a) (b : List Char) : cutAt [c] (a ++ c :: b) = some (a, b) := by
  have hnot : ¬[c] <:+: a := fun hholds => h (hholds.subset List.mem_cons_self)
  exact cutAt_eq_some_iff.2 (firstAt_append (unbordered_singleton c) hnot b)

theorem eq_append_of_cutAt (h : cutAt [c] s = some (a, b)) : s = a ++ c :: b ∧ c ∉ a := by
  have hfirst := firstAt_of_cutAt h
  refine ⟨hfirst.eq_append, fun hc => ?_⟩
  obtain ⟨u, v, rfl⟩ := List.mem_iff_append.1 hc
  exact hfirst.not_infix (List.cons_ne_nil c []) (List.infix_append' u [c] v)

/-! ## Last occurrences -/

/-- The last occurrence of a pattern in a text, by what is before it and what follows. -/
structure LastAt (pat before after s : List Char) : Prop where
  eq_append : s = before ++ (pat ++ after)
  last : ∀ before' after', s = before' ++ (pat ++ after') → before'.length ≤ before.length

/-- **An occurrence is the last one** when there is none behind its first character. -/
theorem lastAt_of_not_infix (h : ¬pat <:+: (pat ++ after).tail) (before : List Char) :
    LastAt pat before after (before ++ (pat ++ after)) where
  eq_append := rfl
  last before' after' heq := by
    obtain ⟨w, hbefore, hrest⟩ | ⟨w, hbefore, -⟩ := List.append_eq_append_iff.1 heq
    · cases w with
      | nil => simp [hbefore]
      | cons c w =>
        -- an occurrence that begins later is one behind the first character
        rw [hrest, List.cons_append, List.tail_cons] at h
        exact (h ⟨w, after', by rw [List.append_assoc]⟩).elim
    · simp [hbefore]

/-- Nothing is found where a pattern does not occur. -/
theorem fromLast_eq_none (h : ¬pat <:+: s) : fromLast pat s = none := by
  induction s with
  | nil =>
    cases pat with
    | nil => exact (h List.nil_infix).elim
    | cons c p => rfl
  | cons c r ih =>
    rw [List.infix_cons_iff, not_or] at h
    have hfirst : pat.isPrefixOf (c :: r) = false := by
      rw [← Bool.not_eq_true, List.isPrefixOf_iff_prefix]
      exact h.1
    rw [fromLast, ih h.2, hfirst]
    rfl

/-- **What is found is the text from the last occurrence on.** -/
theorem fromLast_append (hpat : pat ≠ []) (h : ¬pat <:+: (pat ++ after).tail) (before : List Char) :
    fromLast pat (before ++ (pat ++ after)) = some (pat ++ after) := by
  induction before with
  | nil =>
    obtain ⟨c, p, rfl⟩ := List.exists_cons_of_ne_nil hpat
    have hfirst : (c :: p).isPrefixOf (c :: (p ++ after)) = true :=
      List.isPrefixOf_iff_prefix.2 (List.prefix_append (c :: p) after)
    have hrest : fromLast (c :: p) (p ++ after) = none := fromLast_eq_none h
    rw [List.nil_append, List.cons_append, fromLast, hrest, hfirst]
    rfl
  | cons c before ih => rw [List.cons_append, fromLast, ih]

/-- **A pattern does not reach over its end mark.** -/
theorem infix_append_cons_iff (hc : c ∉ p) :
    p ++ [c] <:+: a ++ c :: b ↔ p ++ [c] <:+: a ++ [c] ∨ p ++ [c] <:+: b := by
  constructor
  · rintro ⟨u, v, huv⟩
    rw [← List.append_assoc u, List.append_assoc (u ++ p), List.singleton_append] at huv
    obtain ⟨w, ha, hw⟩ | ⟨w, hu, hw⟩ := List.append_eq_append_iff.1 huv
    · -- the pattern ends where the mark stands, or before it
      left
      rw [ha, List.append_assoc, List.append_assoc]
      cases w with
      | nil => exact (List.suffix_append u _).isInfix
      | cons d w =>
        obtain ⟨rfl, -⟩ := List.cons.inj hw
        exact ⟨u, w ++ [c], by simp⟩
    · cases w with
      | nil =>
        left
        rw [List.append_nil] at hu
        rw [← hu, List.append_assoc]
        exact (List.suffix_append u _).isInfix
      | cons d w =>
        -- the pattern ends behind the mark, which it does not hold before its end
        right
        obtain ⟨rfl, hb⟩ := List.cons.inj hw
        obtain ⟨z, -, hz⟩ | ⟨z, -, hz⟩ := List.append_eq_append_iff.1 hu
        · rw [hz] at hc
          exact (hc (by simp)).elim
        · cases z with
          | nil =>
            obtain rfl : _ = p := hz
            exact (hc List.mem_cons_self).elim
          | cons d z =>
            obtain ⟨-, rfl⟩ := List.cons.inj hz
            rw [hb]
            exact ⟨z, v, by simp⟩
  · rintro (h | h)
    · exact h.trans ⟨[], b, by simp⟩
    · exact h.trans ⟨a ++ [c], [], by simp⟩

/-- **A pattern does not reach over a character that it does not have.** -/
theorem infix_append_cons_iff_of_not_mem (hc : c ∉ pat) : pat <:+: a ++ c :: b ↔ pat <:+: a ∨ pat <:+: b := by
  constructor
  · rintro ⟨u, v, huv⟩
    obtain ⟨w, rfl, -⟩ | ⟨w, hu, hw⟩ := List.append_eq_append_iff.1 huv
    · exact Or.inl (List.infix_append u pat w)
    · cases w with
      | nil =>
        rw [List.append_nil] at hu
        exact Or.inl (hu ▸ (List.suffix_append u pat).isInfix)
      | cons d w =>
        obtain ⟨rfl, rfl⟩ := List.cons.inj hw
        obtain ⟨z, -, rfl⟩ | ⟨z, rfl, hz⟩ := List.append_eq_append_iff.1 hu
        · exact (hc (by simp)).elim
        · cases z with
          | nil =>
            rw [← List.nil_append pat, ← hz] at hc
            exact (hc List.mem_cons_self).elim
          | cons d z =>
            obtain ⟨-, rfl⟩ := List.cons.inj hz
            exact Or.inr (List.infix_append z pat v)
  · rintro (h | h)
    · exact h.trans (List.prefix_append a (c :: b)).isInfix
    · exact h.trans ⟨a ++ [c], [], by simp⟩

end SnippetAudit.Text
