import SnippetAudit.Proofs.Json.Reader
import SnippetAudit.Proofs.Text.Blank
import SnippetAudit.Proofs.Text.Lines

/-!
# The layout of JSON texts

What may be done to a text without changing the value it denotes: carriage returns may be dropped (`Spells.thinned`) and
the blanks around the value trimmed (`TextOf.trim`). Followed character by character, a text is outside of its strings
wherever a line ends, and no `#` stands there (`TextOf.run`, `Spot.lines_outside`).
-/

namespace SnippetAudit.Json

open Text (Thinned Blank Trimmed isBlank isBlank_of_isDigit lines mem_lines)

/-! ## Characters of tokens -/

/-- Without control characters. -/
def Printable (w : List Char) : Prop := ∀ c ∈ w, 0x20 ≤ c.toNat

theorem Printable.nil : Printable [] := fun _ h => absurd h (by simp)

theorem Printable.cons {c : Char} {w : List Char} (hc : 0x20 ≤ c.toNat) (h : Printable w) : Printable (c :: w) := by
  intro d hd
  rcases List.mem_cons.1 hd with rfl | hd
  · exact hc
  · exact h d hd

theorem Printable.append {w w' : List Char} (h : Printable w) (h' : Printable w') : Printable (w ++ w') := fun c hc =>
  (List.mem_append.1 hc).elim (h c) (h' c)

theorem Printable.not_mem_return {w : List Char} (h : Printable w) : '\r' ∉ w := fun hm =>
  absurd (h _ hm) (by decide)

theorem printable_of_unescape? {e c : Char} (h : unescape? e = some c) : 0x20 ≤ e.toNat := by
  refine Nat.le_of_not_lt fun hlt => ?_
  have hne : ∀ d, 0x20 ≤ d.toNat → e ≠ d := by rintro d hd rfl; omega
  simp [unescape?, hne '"' (by decide), hne '\\' (by decide), hne '/' (by decide), hne 'n' (by decide),
    hne 'r' (by decide), hne 't' (by decide), hne 'b' (by decide), hne 'f' (by decide)] at h

theorem printable_of_isDigit {c : Char} (h : c.isDigit = true) : 0x20 ≤ c.toNat := by
  simp only [Char.isDigit, Bool.and_eq_true, decide_eq_true_eq] at h
  have := UInt32.le_iff_toNat_le.1 h.1
  exact Nat.le_trans (by decide) this

theorem printable_of_hexValue? {c : Char} {n : Nat} (h : hexValue? c = some n) : 0x20 ≤ c.toNat := by
  rw [hexValue?] at h
  split at h
  · next hd => exact printable_of_isDigit hd
  · split at h
    · next hd => exact Nat.le_trans (by decide) (UInt32.le_iff_toNat_le.1 hd.1)
    · split at h
      · next hd => exact Nat.le_trans (by decide) (UInt32.le_iff_toNat_le.1 hd.1)
      · cases h

theorem printable_of_unit? {a b c d : Char} {n : Nat} (h : unit? a b c d = some n) : Printable [a, b, c, d] := by
  simp only [unit?, Option.bind_eq_bind, Option.bind_eq_some_iff] at h
  obtain ⟨_, ha, _, hb, _, hc, _, hd, -⟩ := h
  exact .cons (printable_of_hexValue? ha) (.cons (printable_of_hexValue? hb)
    (.cons (printable_of_hexValue? hc) (.cons (printable_of_hexValue? hd) .nil)))

theorem Pieced.printable {ps : List Piece} {w : List Char} (h : Pieced ps w) : Printable w := by
  induction h with
  | nil => exact .nil
  | char low _ _ _ ih => exact .cons low ih
  | short escape _ ih => exact .cons (by decide) (.cons (printable_of_unescape? escape) ih)
  | unit digits _ ih => exact .cons (by decide) (.cons (by decide) ((printable_of_unit? digits).append ih))

theorem printable_quotedBy {ps : List Piece} {w : List Char} (h : Pieced ps w) : Printable (quotedBy w) :=
  .cons (by decide) (h.printable.append (.cons (by decide) .nil))

/-- A numeral is made of digits, signs, a point and the mark of an exponent. -/
theorem Numeral.Spelled.mem {n : Numeral} {w : List Char} (h : n.Spelled w) {c : Char} (hc : c ∈ w) :
    c.isDigit = true ∨ c ∈ ['-', '+', '.', 'e', 'E'] := by
  obtain ⟨hs, hw, hf, he⟩ := h
  simp only [List.mem_append] at hc
  rcases hc with hc | hc | hc | hc
  · cases hs with
    | absent => cases hc
    | present => obtain rfl := List.mem_singleton.1 hc; exact Or.inr (by decide)
  · exact Or.inl (hw.1.2 c hc)
  · cases hf with
    | absent => cases hc
    | present hd =>
      rcases List.mem_cons.1 hc with rfl | hc
      · exact Or.inr (by decide)
      · exact Or.inl (hd.2 c hc)
  · cases he with
    | absent => cases hc
    | present hm hs hd =>
      simp only [List.mem_cons, List.mem_append] at hc
      rcases hc with rfl | hc | hc
      · rcases hm with rfl | rfl
        · exact Or.inr (by decide)
        · exact Or.inr (by decide)
      · cases hs with
        | absent => cases hc
        | plus | minus => obtain rfl := List.mem_singleton.1 hc; exact Or.inr (by decide)
      · exact Or.inl (hd.2 c hc)

theorem Numeral.Spelled.printable {n : Numeral} {w : List Char} (h : n.Spelled w) : Printable w := by
  intro c hc
  rcases h.mem hc with hd | hc
  · exact printable_of_isDigit hd
  · simp only [List.mem_cons, List.not_mem_nil, or_false] at hc
    rcases hc with rfl | rfl | rfl | rfl | rfl <;> decide

/-! ## Dropping carriage returns -/

theorem Gap.thinned {g g' : List Char} (hg : Gap g) (h : Thinned g g') : Gap g' := fun c hc => hg c (h.mem hc)

theorem Printable.thinned {w w' : List Char} (hw : Printable w) (h : Thinned w w') : w' = w :=
  h.eq_of_not_mem hw.not_mem_return

/-- **Carriage returns may be dropped.** -/
theorem Spells.thinned {sh : Shape} {w w' : List Char} (h : Spells sh w) (ht : Thinned w w') : Spells sh w' := by
  induction h generalizing w' with
  | null | yes | no =>
    obtain rfl := ht.eq_of_not_mem (by decide)
    constructor
  | num hn =>
    obtain rfl := hn.printable.thinned ht
    exact .num hn
  | str hp =>
    obtain rfl := (printable_quotedBy hp).thinned ht
    exact .str hp
  | noItems hg =>
    obtain ⟨u, hu, rfl⟩ := ht.of_cons (by decide)
    obtain ⟨g', e, hg', he, rfl⟩ := hu.of_append
    obtain rfl := he.eq_of_not_mem (by decide)
    exact .noItems (hg.thinned hg')
  | noMembers hg =>
    obtain ⟨u, hu, rfl⟩ := ht.of_cons (by decide)
    obtain ⟨g', e, hg', he, rfl⟩ := hu.of_append
    obtain rfl := he.eq_of_not_mem (by decide)
    exact .noMembers (hg.thinned hg')
  | arr _ ih =>
    obtain ⟨u, hu, rfl⟩ := ht.of_cons (by decide)
    obtain ⟨v, e, hv, he, rfl⟩ := hu.of_append
    obtain rfl := he.eq_of_not_mem (by decide)
    exact .arr (ih hv)
  | obj _ ih =>
    obtain ⟨u, hu, rfl⟩ := ht.of_cons (by decide)
    obtain ⟨v, e, hv, he, rfl⟩ := hu.of_append
    obtain rfl := he.eq_of_not_mem (by decide)
    exact .obj (ih hv)
  | lastItem hg _ hg' ih =>
    obtain ⟨g₀, u₁, hg₀, h₁, rfl⟩ := ht.of_append
    obtain ⟨w₀, g₀', hw₀, hg₀', rfl⟩ := h₁.of_append
    exact .lastItem (hg.thinned hg₀) (ih hw₀) (hg'.thinned hg₀')
  | item hg _ hg' _ ih ihs =>
    obtain ⟨g₀, u₁, hg₀, h₁, rfl⟩ := ht.of_append
    obtain ⟨w₀, u₂, hw₀, h₂, rfl⟩ := h₁.of_append
    obtain ⟨g₀', u₃, hg₀', h₃, rfl⟩ := h₂.of_append
    obtain ⟨ws₀, hws₀, rfl⟩ := h₃.of_cons (by decide)
    exact .item (hg.thinned hg₀) (ih hw₀) (hg'.thinned hg₀') (ihs hws₀)
  | lastMember hg hk hg₁ hg₂ _ hg' ih =>
    obtain ⟨g₀, u₁, hg₀, h₁, rfl⟩ := ht.of_append
    obtain ⟨k₀, u₂, hk₀, h₂, rfl⟩ := h₁.of_append
    obtain rfl := (printable_quotedBy hk).thinned hk₀
    obtain ⟨v₁, u₃, hv₁, h₃, rfl⟩ := h₂.of_append
    obtain ⟨u₄, h₄, rfl⟩ := h₃.of_cons (by decide)
    obtain ⟨v₂, u₅, hv₂, h₅, rfl⟩ := h₄.of_append
    obtain ⟨w₀, g₀', hw₀, hg₀', rfl⟩ := h₅.of_append
    exact .lastMember (hg.thinned hg₀) hk (hg₁.thinned hv₁) (hg₂.thinned hv₂) (ih hw₀) (hg'.thinned hg₀')
  | member hg hk hg₁ hg₂ _ hg' _ ih ihs =>
    obtain ⟨g₀, u₁, hg₀, h₁, rfl⟩ := ht.of_append
    obtain ⟨k₀, u₂, hk₀, h₂, rfl⟩ := h₁.of_append
    obtain rfl := (printable_quotedBy hk).thinned hk₀
    obtain ⟨v₁, u₃, hv₁, h₃, rfl⟩ := h₂.of_append
    obtain ⟨u₄, h₄, rfl⟩ := h₃.of_cons (by decide)
    obtain ⟨v₂, u₅, hv₂, h₅, rfl⟩ := h₄.of_append
    obtain ⟨w₀, u₆, hw₀, h₆, rfl⟩ := h₅.of_append
    obtain ⟨g₀', u₇, hg₀', h₇, rfl⟩ := h₆.of_append
    obtain ⟨ws₀, hws₀, rfl⟩ := h₇.of_cons (by decide)
    exact .member (hg.thinned hg₀) hk (hg₁.thinned hv₁) (hg₂.thinned hv₂) (ih hw₀) (hg'.thinned hg₀') (ihs hws₀)

theorem TextOf.thinned {t : Tree} {s s' : List Char} (h : TextOf t s) (ht : Thinned s s') : TextOf t s' := by
  obtain ⟨g, w, g', hg, hw, hg', rfl⟩ := h
  obtain ⟨g₀, u, hg₀, hu, rfl⟩ := ht.of_append
  obtain ⟨w₀, g₀', hw₀, hg₀', rfl⟩ := hu.of_append
  exact ⟨g₀, w₀, g₀', hg.thinned hg₀, hw.thinned hw₀, hg'.thinned hg₀', rfl⟩

/-! ## Trimming -/

theorem isBlank_of_isGap {c : Char} (h : isGap c = true) : isBlank c = true := by
  simp only [isGap, Bool.or_eq_true, beq_iff_eq] at h
  rcases h with ((rfl | rfl) | rfl) | rfl <;> decide

theorem Gap.blank {g : List Char} (h : Gap g) : Blank g := fun c hc => isBlank_of_isGap (h c hc)

theorem isBlank_of_isOpening {c : Char} (h : isOpening c = true) : isBlank c = false := by
  simp only [isOpening, Bool.or_eq_true, decide_eq_true_eq, List.mem_cons, List.not_mem_nil, or_false] at h
  rcases h with (rfl | rfl | rfl | rfl | rfl | rfl | rfl) | h
  iterate 7 decide
  exact isBlank_of_isDigit h

theorem isBlank_of_isClosing {c : Char} (h : isClosing c = true) : isBlank c = false := by
  simp only [isClosing, Bool.or_eq_true, decide_eq_true_eq, List.mem_cons, List.not_mem_nil, or_false] at h
  rcases h with (rfl | rfl | rfl | rfl | rfl) | h
  iterate 5 decide
  exact isBlank_of_isDigit h

theorem Spells.trimmed {t : Tree} {w : List Char} (h : Spells (.value t) w) : Trimmed w := by
  constructor
  · obtain ⟨c, r, rfl, hc⟩ := h.exists_cons
    rintro _ ⟨⟩
    exact isBlank_of_isOpening hc
  · obtain ⟨r, c, rfl, hc⟩ := h.exists_concat
    intro d hd
    obtain rfl : c = d := by simpa using hd
    exact isBlank_of_isClosing hc

/-- **The blanks around a value may be trimmed**, and what is left is the value alone. -/
theorem TextOf.trim {t : Tree} {s : List Char} (h : TextOf t s) : Spells (.value t) (Text.trim s) := by
  obtain ⟨g, w, g', hg, hw, hg', rfl⟩ := h
  rw [Text.trim_between hg.blank hw.trimmed hg'.blank]
  exact hw

theorem Spells.textOf {t : Tree} {w : List Char} (h : Spells (.value t) w) : TextOf t w :=
  ⟨[], w, [], .nil, h, .nil, by simp⟩

theorem TextOf.append_gap {t : Tree} {s g : List Char} (h : TextOf t s) (hg : Gap g) : TextOf t (s ++ g) := by
  obtain ⟨g₀, w, g', hg₀, hw, hg', rfl⟩ := h
  exact ⟨g₀, w, g' ++ g, hg₀, hw, hg'.append hg, by simp⟩

/-! ## Inside and outside of strings -/

/-- Where a character of a JSON text stands. -/
inductive Spot where
  | outside
  | inside
  | escaped

/-- Where the next character stands. There is no way on behind a `#` outside of strings or a line feed inside. -/
def Spot.step : Spot → Char → Option Spot
  | .outside, c => if c = '"' then some .inside else if c = '#' then none else some .outside
  | .inside, c =>
    if c = '"' then some .outside else if c = '\\' then some .escaped else if c = '\n' then none else some .inside
  | .escaped, c => if c = '\n' then none else some .inside

/-- Where the character behind a text stands. -/
def Spot.run (p : Spot) (s : List Char) : Option Spot := s.foldlM Spot.step p

namespace Spot

theorem run_cons (p : Spot) (c : Char) (s : List Char) : p.run (c :: s) = (p.step c).bind (·.run s) := by
  rw [run, List.foldlM_cons]; rfl

theorem run_append {p q : Spot} {s : List Char} (h : p.run s = some q) (s' : List Char) :
    p.run (s ++ s') = q.run s' := by
  simp only [run] at h ⊢
  simp [h]

/-- What holds neither a quote nor a `#` stays outside. -/
theorem run_plain {s : List Char} (h : ∀ c ∈ s, c ≠ '"' ∧ c ≠ '#') : outside.run s = some outside := by
  induction s with
  | nil => rfl
  | cons c s ih =>
    obtain ⟨hq, hh⟩ := h c List.mem_cons_self
    simp [run_cons, step, hq, hh, ih fun d hd => h d (List.mem_cons_of_mem _ hd)]

/-- What holds neither a quote nor a backslash nor a line feed stays inside. -/
theorem step_inside {c : Char} (hq : c ≠ '"') (hs : c ≠ '\\') (hc : 0x20 ≤ c.toNat) : inside.step c = some inside := by
  have hn : c ≠ '\n' := by rintro rfl; exact absurd hc (by decide)
  simp [step, hq, hs, hn]

theorem step_escaped {c : Char} (hc : 0x20 ≤ c.toNat) : escaped.step c = some inside := by
  have hn : c ≠ '\n' := by rintro rfl; exact absurd hc (by decide)
  simp [step, hn]

end Spot

open Spot (run_cons run_append run_plain)

theorem plain_of_isDigit {c : Char} (h : c.isDigit = true) : c ≠ '"' ∧ c ≠ '#' := by
  constructor <;> rintro rfl <;> cases h

theorem run_blank {b : List Char} (h : Blank b) : Spot.outside.run b = some .outside :=
  run_plain fun c hc => by
    have := h c hc
    constructor <;> rintro rfl <;> exact absurd this (by decide)

theorem Gap.run {g : List Char} (h : Gap g) : Spot.outside.run g = some .outside := run_blank h.blank

theorem hexValue?_plain {c : Char} {n : Nat} (h : hexValue? c = some n) : c ≠ '"' ∧ c ≠ '\\' := by
  constructor <;> rintro rfl <;> cases h

theorem Pieced.run {ps : List Piece} {w : List Char} (h : Pieced ps w) : Spot.inside.run w = some .inside := by
  induction h with
  | nil => rfl
  | char low quote slash _ ih => rw [run_cons, Spot.step_inside quote slash low]; exact ih
  | short escape _ ih =>
    rw [run_cons]
    show Spot.escaped.run _ = _
    rw [run_cons, Spot.step_escaped (printable_of_unescape? escape)]
    exact ih
  | @unit a b c d n ps w digits _ ih =>
    have hp := printable_of_unit? digits
    simp only [unit?, Option.bind_eq_bind, Option.bind_eq_some_iff] at digits
    obtain ⟨_, ha, _, hb, _, hc, _, hd, -⟩ := digits
    have hstep : ∀ e ∈ [a, b, c, d], ∀ k, hexValue? e = some k → Spot.inside.step e = some .inside := fun e he k hk =>
      Spot.step_inside (hexValue?_plain hk).1 (hexValue?_plain hk).2 (hp e he)
    simp only [run_cons, show Spot.inside.step '\\' = some .escaped from rfl,
      show Spot.escaped.step 'u' = some .inside from rfl, hstep a (by simp) _ ha, hstep b (by simp) _ hb,
      hstep c (by simp) _ hc, hstep d (by simp) _ hd, Option.bind_some, ih]

theorem Pieced.run_quotedBy {ps : List Piece} {w : List Char} (h : Pieced ps w) :
    Spot.outside.run (quotedBy w) = some .outside := by
  rw [quotedBy, run_cons]
  show Spot.inside.run (w ++ ['"']) = _
  rw [run_append h.run]
  rfl

theorem Numeral.Spelled.run {n : Numeral} {w : List Char} (h : n.Spelled w) :
    Spot.outside.run w = some .outside := by
  refine run_plain fun c hc => ?_
  rcases h.mem hc with hd | hc
  · exact plain_of_isDigit hd
  · simp only [List.mem_cons, List.not_mem_nil, or_false] at hc
    rcases hc with rfl | rfl | rfl | rfl | rfl <;> decide

/-- **A value stays outside of its strings at every line end, and holds no `#` there.** -/
theorem Spells.run {sh : Shape} {w : List Char} (h : Spells sh w) : Spot.outside.run w = some .outside := by
  -- brackets, commas and colons leave the spot as it is
  have hmark : ∀ c ∈ ['[', ']', '\x7b', '\x7d', ',', ':'], ∀ s, Spot.outside.run (c :: s) = Spot.outside.run s := by
    intro c hc s
    simp only [List.mem_cons, List.not_mem_nil, or_false] at hc
    rcases hc with rfl | rfl | rfl | rfl | rfl | rfl <;> rfl
  induction h with
  | null | yes | no => rfl
  | num hn => exact hn.run
  | str hp => exact hp.run_quotedBy
  | noItems hg => rw [hmark _ (by simp), run_append hg.run]; rfl
  | noMembers hg => rw [hmark _ (by simp), run_append hg.run]; rfl
  | arr _ ih => rw [hmark _ (by simp), run_append ih]; rfl
  | obj _ ih => rw [hmark _ (by simp), run_append ih]; rfl
  | lastItem hg _ hg' ih => rw [run_append hg.run, run_append ih, hg'.run]
  | item hg _ hg' _ ih ihs => rw [run_append hg.run, run_append ih, run_append hg'.run, hmark _ (by simp), ihs]
  | lastMember hg hk hg₁ hg₂ _ hg' ih =>
    rw [run_append hg.run, run_append hk.run_quotedBy, run_append hg₁.run, hmark _ (by simp), run_append hg₂.run,
      run_append ih, hg'.run]
  | member hg hk hg₁ hg₂ _ hg' _ ih ihs =>
    rw [run_append hg.run, run_append hk.run_quotedBy, run_append hg₁.run, hmark _ (by simp), run_append hg₂.run,
      run_append ih, run_append hg'.run, hmark _ (by simp), ihs]

theorem TextOf.run {t : Tree} {s : List Char} (h : TextOf t s) : Spot.outside.run s = some .outside := by
  obtain ⟨g, w, g', hg, hw, hg', rfl⟩ := h
  rw [run_append hg.run, run_append hw.run, hg'.run]

theorem Spot.isSome_of_append {p : Spot} {s s' : List Char} (h : (p.run (s ++ s')).isSome = true) :
    (p.run s).isSome = true := by
  simp only [run, List.foldlM_append] at h ⊢
  cases hs : s.foldlM step p with
  | none => rw [hs] at h; cases h
  | some q => rfl

/-- A line feed that is passed is passed outside. -/
theorem Spot.isSome_of_newline {p : Spot} {a b : List Char} (h : (p.run (a ++ '\n' :: b)).isSome = true) :
    (Spot.outside.run b).isSome = true := by
  obtain ⟨q, hq⟩ := Option.isSome_iff_exists.1 (isSome_of_append h)
  rw [run_append hq, run_cons] at h
  cases q with
  | outside => exact h
  | inside | escaped => cases h

/-- **No line of what is passed from outside has a `#` in front of its first quote.** -/
theorem Spot.lines_outside {s l : List Char} (h : (Spot.outside.run s).isSome = true) (hl : l ∈ lines s) :
    (Spot.outside.run l).isSome = true := by
  rcases mem_lines hl with ⟨b, rfl⟩ | ⟨a, b, rfl⟩
  · exact isSome_of_append h
  · exact isSome_of_append (isSome_of_newline h)

end SnippetAudit.Json
