import SnippetAudit.Json.Decoder
import SnippetAudit.Proofs.Json.Grammar

/-!
# The reader and the grammar

* **Soundness** (`spells_of_value`): a tree without a broken place was spelled by the text that was read.
* **Completeness** (`value_of_spells`): a spelling is read as its tree, whatever follows, if no numeral at its end can
  go on there and there is fuel for two calls a character.

Both go from the leaves up: gaps, strings, numerals, then values. For whole texts they give `parseChars?_eq_some`.
-/

namespace SnippetAudit.Json

open Number (ofDigits)

/-! ## Gaps -/

theorem Gap.nil : Gap [] := fun _ h => absurd h (by simp)

theorem Gap.append {g g' : List Char} (h : Gap g) (h' : Gap g') : Gap (g ++ g') := fun c hc =>
  (List.mem_append.1 hc).elim (h c) (h' c)

theorem skipGap_append {g : List Char} (h : Gap g) (r : List Char) : skipGap (g ++ r) = skipGap r := by
  rw [skipGap, List.dropWhile_append_of_pos h, skipGap]

theorem skipGap_of_gap {g : List Char} (h : Gap g) : skipGap g = [] := by
  simpa [skipGap] using skipGap_append h []

theorem skipGap_cons {c : Char} (h : isGap c = false) (r : List Char) : skipGap (c :: r) = c :: r := by
  simp [skipGap, h]

theorem exists_gap (s : List Char) : ∃ g, Gap g ∧ s = g ++ skipGap s :=
  ⟨s.takeWhile isGap, List.all_eq_true.1 List.all_takeWhile, List.takeWhile_append_dropWhile.symm⟩

theorem exists_gap_of_skipGap {s r : List Char} (h : skipGap s = r) : ∃ g, Gap g ∧ s = g ++ r := h ▸ exists_gap s

theorem isGap_of_isOpening {c : Char} (h : isOpening c = true) : isGap c = false := by
  have hg : ∀ d, isGap d = true → isOpening d = false := by
    intro d hd
    simp only [isGap, Bool.or_eq_true, beq_iff_eq] at hd
    rcases hd with ((rfl | rfl) | rfl) | rfl <;> rfl
  cases hc : isGap c with
  | false => rfl
  | true => rw [hg c hc] at h; cases h

/-! ## Strings -/

theorem pieces?_of_pieced {ps : List Piece} {w : List Char} (h : Pieced ps w) (r : List Char) :
    pieces? (w ++ '"' :: r) = some (ps, r) := by
  induction h with
  | nil => rfl
  | @char c ps w low quote slash rest ih =>
    rw [List.cons_append, pieces?.eq_def]
    split
    · simp_all
    · simp_all
    · simp_all
    · simp_all
    · next heq =>
      obtain ⟨rfl, rfl⟩ := List.cons.inj heq
      have hlow : ¬ c.toNat < 32 := by omega
      simp [hlow, slash, ih]
  | @short e c ps w escape rest ih =>
    rw [List.cons_append, List.cons_append, pieces?.eq_def]
    split
    · simp_all
    · simp_all
    · next heq =>
      -- `u` is no short escape
      have he : e = 'u' := by simp_all
      rw [he] at escape
      simp [unescape?] at escape
    · next heq =>
      obtain ⟨-, heq⟩ := List.cons.inj heq
      obtain ⟨rfl, rfl⟩ := List.cons.inj heq
      simp [escape, ih]
    · next hne heq =>
      obtain ⟨rfl, rfl⟩ := List.cons.inj heq
      exact absurd rfl (hne _ _ rfl)
  | @unit a b c d n ps w digits rest ih =>
    simp only [List.cons_append]
    rw [pieces?]
    simp [digits, ih]

theorem pieced_of_pieces? {s r : List Char} {ps : List Piece} (h : pieces? s = some (ps, r)) :
    ∃ w, Pieced ps w ∧ s = w ++ '"' :: r := by
  fun_induction pieces? s generalizing ps r with
  | case1 => cases h
  | case2 s =>
    simp only [Option.some.injEq, Prod.mk.injEq] at h
    obtain ⟨rfl, rfl⟩ := h
    exact ⟨[], .nil, rfl⟩
  | case3 => cases h
  | case4 a b c d s n hn ih =>
    simp only [Option.map_eq_some_iff, Prod.mk.injEq, Prod.exists] at h
    obtain ⟨ps, r', h, rfl, rfl⟩ := h
    obtain ⟨w, hw, rfl⟩ := ih h
    exact ⟨_, .unit hn hw, rfl⟩
  | case5 => cases h
  | case6 e s _ c hc ih =>
    simp only [Option.map_eq_some_iff, Prod.mk.injEq, Prod.exists] at h
    obtain ⟨ps, r', h, rfl, rfl⟩ := h
    obtain ⟨w, hw, rfl⟩ := ih h
    exact ⟨_, .short hc hw, rfl⟩
  | case7 => cases h
  | case8 c s hq _ _ hc ih =>
    simp only [Option.map_eq_some_iff, Prod.mk.injEq, Prod.exists] at h
    obtain ⟨ps, r', h, rfl, rfl⟩ := h
    obtain ⟨w, hw, rfl⟩ := ih h
    simp only [Bool.or_eq_true, decide_eq_true_eq, beq_iff_eq, not_or, Nat.not_lt] at hc
    exact ⟨_, .char hc.1 (fun e => hq e) hc.2 hw, rfl⟩

theorem string?_of_pieced {ps : List Piece} {w : List Char} (h : Pieced ps w) (r : List Char) :
    string? (w ++ '"' :: r) = some (stringOf? ps, r) := by
  simp [string?, pieces?_of_pieced h, stringOf?]

theorem pieced_of_string? {s r : List Char} {o : Option String} (h : string? s = some (o, r)) :
    ∃ ps w, Pieced ps w ∧ o = stringOf? ps ∧ s = w ++ '"' :: r := by
  simp only [string?, Option.map_eq_some_iff, Prod.mk.injEq, Prod.exists] at h
  obtain ⟨ps, r', h, rfl, rfl⟩ := h
  obtain ⟨w, hw, rfl⟩ := pieced_of_pieces? h
  exact ⟨ps, w, hw, rfl, rfl⟩

/-! ## Numerals -/

theorem NumeralEnd.nil : NumeralEnd [] := fun _ h => absurd h (by simp)

/-- What follows does not go on with a digit. -/
def DigitEnd (r : List Char) : Prop := ∀ c ∈ r.head?, c.isDigit = false

theorem spanDigits_append {ds r : List Char} (hd : ∀ c ∈ ds, c.isDigit = true) (hr : DigitEnd r) :
    spanDigits (ds ++ r) = (ds, r) := by
  rw [spanDigits, List.takeWhile_append_of_pos hd, List.dropWhile_append_of_pos hd]
  cases r with
  | nil => simp
  | cons c r =>
    have hc : c.isDigit = false := hr c rfl
    simp [hc]

theorem spanDigits_spec {s ds r : List Char} (h : spanDigits s = (ds, r)) :
    s = ds ++ r ∧ ∀ c ∈ ds, c.isDigit = true := by
  simp only [spanDigits, Prod.mk.injEq] at h
  obtain ⟨rfl, rfl⟩ := h
  exact ⟨List.takeWhile_append_dropWhile.symm, List.all_eq_true.1 List.all_takeWhile⟩

theorem wholePart?_append {ds r : List Char} (hd : Whole ds) (hr : DigitEnd r) :
    wholePart? (ds ++ r) = some (ds, r) := by
  obtain ⟨⟨hne, hd⟩, hz⟩ := hd
  rw [wholePart?, spanDigits_append hd hr]
  split
  · simp_all
  · next heq =>
    obtain ⟨rfl, -⟩ := Prod.mk.inj heq
    simp at hz
  · next heq =>
    obtain ⟨rfl, rfl⟩ := Prod.mk.inj heq
    rfl

theorem whole_of_wholePart? {s ds r : List Char} (h : wholePart? s = some (ds, r)) : Whole ds ∧ s = ds ++ r := by
  rw [wholePart?] at h
  split at h
  · cases h
  · cases h
  · next ds' r' hne hz heq =>
    obtain ⟨rfl, rfl⟩ := Prod.mk.inj (Option.some.inj h)
    obtain ⟨hs, hd⟩ := spanDigits_spec heq
    refine ⟨⟨⟨fun e => hne (by rw [← e]), hd⟩, fun h0 => ?_⟩, hs⟩
    match ds', h0 with
    | [_], h0 => simpa using h0
    | a :: b :: l, h0 =>
      obtain rfl : a = '0' := by simpa using h0
      exact absurd rfl (hz b l)

theorem fractionPart?_append {fraction f r : List Char} (hf : FractionText fraction f) (hr : DigitEnd r)
    (hp : ∀ c ∈ r.head?, c ≠ '.') : fractionPart? (f ++ r) = some (fraction, r) := by
  cases hf with
  | absent =>
    rw [List.nil_append, fractionPart?.eq_def]
    split
    · exact absurd rfl (hp '.' rfl)
    · rfl
  | present hd =>
    rw [List.cons_append, fractionPart?, spanDigits_append hd.2 hr]
    split
    · next heq => exact absurd (Prod.mk.inj heq).1 hd.1
    · next heq =>
      obtain ⟨rfl, rfl⟩ := Prod.mk.inj heq
      rfl

theorem fractionText_of_fractionPart? {s fraction r : List Char} (h : fractionPart? s = some (fraction, r)) :
    ∃ f, FractionText fraction f ∧ s = f ++ r := by
  rw [fractionPart?.eq_def] at h
  split at h
  · split at h
    · cases h
    · next hne heq =>
      obtain ⟨rfl, rfl⟩ := Prod.mk.inj (Option.some.inj h)
      obtain ⟨rfl, hd⟩ := spanDigits_spec heq
      exact ⟨_, .present ⟨fun e => hne (by rw [← e]), hd⟩, rfl⟩
  · obtain ⟨rfl, rfl⟩ := Prod.mk.inj (Option.some.inj h)
    exact ⟨[], .absent, rfl⟩

theorem exponentDigits?_append {negative : Bool} {ds r : List Char} (hd : Digits ds) (hr : DigitEnd r) :
    exponentDigits? negative (ds ++ r) =
      some (some (if negative then -(ofDigits ds : Int) else ofDigits ds), r) := by
  rw [exponentDigits?, spanDigits_append hd.2 hr]
  split
  · next heq => exact absurd (Prod.mk.inj heq).1 hd.1
  · next heq =>
    obtain ⟨rfl, rfl⟩ := Prod.mk.inj heq
    rfl

theorem digits_of_exponentDigits? {negative : Bool} {s r : List Char} {e : Option Int}
    (h : exponentDigits? negative s = some (e, r)) :
    ∃ ds, Digits ds ∧ e = some (if negative then -(ofDigits ds : Int) else ofDigits ds) ∧ s = ds ++ r := by
  rw [exponentDigits?] at h
  split at h
  · cases h
  · next hne heq =>
    obtain ⟨rfl, rfl⟩ := Prod.mk.inj (Option.some.inj h)
    obtain ⟨hs, hd⟩ := spanDigits_spec heq
    exact ⟨_, ⟨fun e => hne (by rw [← e]), hd⟩, rfl, hs⟩

theorem exponentPart?_append {exponent : Option Int} {e r : List Char} (he : ExponentText exponent e)
    (hr : NumeralEnd r) : exponentPart? (e ++ r) = some (exponent, r) := by
  have hd : DigitEnd r := fun c hc => (hr c hc).1
  cases he with
  | absent =>
    cases r with
    | nil => rfl
    | cons c r =>
      obtain ⟨-, -, he, hE⟩ := hr c rfl
      simp [exponentPart?, he, hE]
  | @present m negative s ds hm hs hds =>
    rw [List.cons_append, exponentPart?.eq_def]
    simp only [if_pos hm]
    cases hs with
    | absent =>
      obtain ⟨c, ds', rfl, hc⟩ := hds.exists_cons
      simp only [List.nil_append, List.cons_append]
      split
      · next heq => rw [(List.cons.inj heq).1] at hc; cases hc
      · next heq => rw [(List.cons.inj heq).1] at hc; cases hc
      · exact exponentDigits?_append hds hd
    | plus => exact exponentDigits?_append hds hd
    | minus => exact exponentDigits?_append hds hd

theorem exponentText_of_exponentPart? {s r : List Char} {exponent : Option Int}
    (h : exponentPart? s = some (exponent, r)) : ∃ e, ExponentText exponent e ∧ s = e ++ r := by
  rw [exponentPart?.eq_def] at h
  split at h
  · obtain ⟨rfl, rfl⟩ := Prod.mk.inj (Option.some.inj h)
    exact ⟨[], .absent, rfl⟩
  · split at h
    · next hm =>
      split at h
      · obtain ⟨ds, hds, rfl, rfl⟩ := digits_of_exponentDigits? h
        exact ⟨_, .present hm .minus hds, rfl⟩
      · obtain ⟨ds, hds, rfl, rfl⟩ := digits_of_exponentDigits? h
        exact ⟨_, .present hm .plus hds, rfl⟩
      · obtain ⟨ds, hds, rfl, rfl⟩ := digits_of_exponentDigits? h
        exact ⟨_, .present hm .absent hds, rfl⟩
    · obtain ⟨rfl, rfl⟩ := Prod.mk.inj (Option.some.inj h)
      exact ⟨[], .absent, rfl⟩

theorem FractionText.digitEnd {fraction f r : List Char} (h : FractionText fraction f) (hr : DigitEnd r) :
    DigitEnd (f ++ r) := by
  cases h with
  | absent => exact hr
  | present => rintro _ ⟨⟩; rfl

/-- An exponent starts with a letter, so neither digits nor a point can go on before it. -/
theorem ExponentText.numeralEnd {exponent : Option Int} {e r : List Char} (h : ExponentText exponent e)
    (hr : NumeralEnd r) : DigitEnd (e ++ r) ∧ ∀ c ∈ (e ++ r).head?, c ≠ '.' := by
  cases h with
  | absent => exact ⟨fun c hc => (hr c hc).1, fun c hc => (hr c hc).2.1⟩
  | present hm =>
    constructor <;> rintro _ ⟨⟩ <;> rcases hm with rfl | rfl <;> decide

/-- A numeral behind its sign. -/
def unsigned? (negative : Bool) (s : List Char) : Option (Numeral × List Char) := do
  let (whole, r) ← wholePart? s
  let (fraction, r) ← fractionPart? r
  let (exponent, r) ← exponentPart? r
  pure (⟨negative, whole, fraction, exponent⟩, r)

theorem numeral?_of_head {s : List Char} (h : s.head? ≠ some '-') : numeral? s = unsigned? false s := by
  rw [numeral?.eq_def, unsigned?]
  match s, h with
  | [], _ => rfl
  | c :: r, h =>
    have hc : c ≠ '-' := fun e => h (by rw [e]; rfl)
    simp [hc]

theorem unsigned?_append {whole fraction f e r : List Char} {exponent : Option Int} (negative : Bool)
    (hw : Whole whole) (hf : FractionText fraction f) (he : ExponentText exponent e) (hr : NumeralEnd r) :
    unsigned? negative (whole ++ (f ++ (e ++ r))) = some (⟨negative, whole, fraction, exponent⟩, r) := by
  obtain ⟨hd, hp⟩ := he.numeralEnd hr
  simp [unsigned?, wholePart?_append hw (hf.digitEnd hd), fractionPart?_append hf hd hp, exponentPart?_append he hr]

theorem spelled_of_unsigned? {negative : Bool} {m s r : List Char} {n : Numeral} (hm : MinusText negative m)
    (h : unsigned? negative s = some (n, r)) : ∃ w, n.Spelled w ∧ m ++ s = w ++ r := by
  simp only [unsigned?, Option.bind_eq_bind, Option.bind_eq_some_iff, Option.pure_def, Prod.exists,
    Option.some.injEq, Prod.mk.injEq] at h
  obtain ⟨whole, r₁, h₁, fraction, r₂, h₂, exponent, r₃, h₃, rfl, rfl⟩ := h
  obtain ⟨hw, rfl⟩ := whole_of_wholePart? h₁
  obtain ⟨f, hf, rfl⟩ := fractionText_of_fractionPart? h₂
  obtain ⟨e, he, rfl⟩ := exponentText_of_exponentPart? h₃
  exact ⟨_, .mk hm hw hf he, by simp⟩

theorem numeral?_of_spelled {n : Numeral} {w r : List Char} (h : n.Spelled w) (hr : NumeralEnd r) :
    numeral? (w ++ r) = some (n, r) := by
  obtain ⟨hs, hw, hf, he⟩ := h
  have hbody := fun negative => unsigned?_append negative hw hf he hr
  simp only [List.append_assoc]
  cases hs with
  | absent =>
    rw [List.nil_append, numeral?_of_head, hbody]
    obtain ⟨c, ds, rfl, hc⟩ := hw.1.exists_cons
    simp only [List.cons_append, List.head?_cons, ne_eq, Option.some.injEq]
    rintro rfl
    cases hc
  | present => exact hbody true

theorem spelled_of_numeral? {s r : List Char} {n : Numeral} (h : numeral? s = some (n, r)) :
    ∃ w, n.Spelled w ∧ s = w ++ r := by
  by_cases hs : s.head? = some '-'
  · obtain ⟨s, rfl⟩ := List.head?_eq_some_iff.1 hs
    exact spelled_of_unsigned? .present h
  · rw [numeral?_of_head hs] at h
    exact spelled_of_unsigned? .absent h

/-! ## One step of the reader -/

section Steps

variable {fuel : Nat} {s r g : List Char}

theorem value_gap (hg : Gap g) (s : List Char) : value fuel (g ++ s) = value fuel s := by
  cases fuel with
  | zero => rfl
  | succ fuel => rw [value.eq_def, value.eq_def, skipGap_append hg]

theorem items_gap (hg : Gap g) (s : List Char) : items fuel (g ++ s) = items fuel s := by
  cases fuel with
  | zero => rfl
  | succ fuel =>
    rw [items.eq_def, items.eq_def]
    simp only [value_gap hg]

theorem members_gap (hg : Gap g) (s : List Char) : members fuel (g ++ s) = members fuel s := by
  cases fuel with
  | zero => rfl
  | succ fuel => rw [members.eq_def, members.eq_def, skipGap_append hg]

theorem value_str (r : List Char) : value (fuel + 1) ('"' :: r) =
    match string? r with
    | some (s, r) => (.str s, r)
    | none => (.broken, []) := rfl

theorem value_arr_empty (hg : Gap g) : value (fuel + 1) ('[' :: (g ++ ']' :: r)) = (.arr [], r) := by
  rw [value.eq_def]
  simp only [skipGap_cons (c := '[') rfl, skipGap_append hg, skipGap_cons (c := ']') rfl]

theorem value_obj_empty (hg : Gap g) : value (fuel + 1) ('\x7b' :: (g ++ '\x7d' :: r)) = (.obj [], r) := by
  rw [value.eq_def]
  simp only [skipGap_cons (c := '\x7b') rfl, skipGap_append hg, skipGap_cons (c := '\x7d') rfl]

/-- A character that opens a value closes nothing. -/
theorem ne_of_isOpening {c : Char} (h : isOpening c = true) : c ≠ ']' ∧ c ≠ '\x7d' := by
  constructor <;> rintro rfl <;> cases h

theorem value_arr {c : Char} (hg : Gap g) (hc : isOpening c = true) :
    value (fuel + 1) ('[' :: (g ++ c :: r)) = (.arr (items fuel (c :: r)).1, (items fuel (c :: r)).2) := by
  rw [value.eq_def]
  simp only [skipGap_cons (c := '[') rfl, skipGap_append hg, skipGap_cons (isGap_of_isOpening hc)]
  split
  · next heq => exact absurd (List.cons.inj heq).1 (ne_of_isOpening hc).1
  · rfl

theorem value_obj (hg : Gap g) : value (fuel + 1) ('\x7b' :: (g ++ '"' :: r)) =
    (.obj (members fuel ('"' :: r)).1, (members fuel ('"' :: r)).2) := by
  rw [value.eq_def]
  simp only [skipGap_cons (c := '\x7b') rfl, skipGap_append hg, skipGap_cons (c := '"') rfl]
  rfl

theorem value_num {c : Char} (hc : c = '-' ∨ c.isDigit = true) : value (fuel + 1) (c :: r) =
    match numeral? (c :: r) with
    | some (n, r) => (.num n.number?, r)
    | none => (.broken, []) := by
  have hg : isGap c = false := by
    apply isGap_of_isOpening
    rcases hc with rfl | hc
    · rfl
    · simp [isOpening, hc]
  have hne : ∀ d, d ≠ '-' → d.isDigit = false → c ≠ d := by
    rintro d h h' rfl
    rcases hc with rfl | hc
    · exact h rfl
    · rw [h'] at hc; cases hc
  rw [value.eq_def]
  simp only [skipGap_cons hg]
  split
  · next heq => cases heq
  · next heq => exact absurd (List.cons.inj heq).1 (hne _ (by decide) rfl)
  · next heq => exact absurd (List.cons.inj heq).1 (hne _ (by decide) rfl)
  · next heq => exact absurd (List.cons.inj heq).1 (hne _ (by decide) rfl)
  · next heq => exact absurd (List.cons.inj heq).1 (hne _ (by decide) rfl)
  · next heq => exact absurd (List.cons.inj heq).1 (hne _ (by decide) rfl)
  · next heq => exact absurd (List.cons.inj heq).1 (hne _ (by decide) rfl)
  · rfl

end Steps

/-! ## Completeness -/

/-- The inside of an array starts with a value. -/
theorem Spells.items_start {ts : List Tree} {w : List Char} (h : Spells (.items ts) w) :
    ∃ g c r, Gap g ∧ isOpening c = true ∧ w = g ++ c :: r := by
  cases h with
  | @lastItem t g w g' hg h =>
    obtain ⟨c, r, rfl, hc⟩ := h.exists_cons
    exact ⟨g, c, r ++ g', hg, hc, rfl⟩
  | @item t ts g w g' ws hg h =>
    obtain ⟨c, r, rfl, hc⟩ := h.exists_cons
    exact ⟨g, c, r ++ (g' ++ ',' :: ws), hg, hc, rfl⟩

/-- The inside of an object starts with a name. -/
theorem Spells.members_start {ms : List (Option String × Tree)} {w : List Char} (h : Spells (.members ms) w) :
    ∃ g r, Gap g ∧ w = g ++ '"' :: r := by
  cases h with
  | lastMember hg => exact ⟨_, _, hg, rfl⟩
  | member hg => exact ⟨_, _, hg, rfl⟩

/-- What it means that the reader reads a spelling as what it spells. -/
def ReadsAs (w : List Char) : Shape → Prop
  | .value t => ∀ fuel r, 2 * w.length ≤ fuel → NumeralEnd r → value fuel (w ++ r) = (t, r)
  | .items ts => ∀ fuel r, 2 * w.length + 1 ≤ fuel → items fuel (w ++ ']' :: r) = (ts, r)
  | .members ms => ∀ fuel r, 2 * w.length + 1 ≤ fuel → members fuel (w ++ '\x7d' :: r) = (ms, r)

theorem numeralEnd_gap {g : List Char} (hg : Gap g) {c : Char} (hc : c.isDigit = false ∧ c ≠ '.' ∧ c ≠ 'e' ∧ c ≠ 'E')
    (r : List Char) : NumeralEnd (g ++ c :: r) := by
  cases g with
  | nil => rintro _ ⟨⟩; exact hc
  | cons d g =>
    rintro _ ⟨⟩
    have hd := hg d List.mem_cons_self
    simp only [isGap, Bool.or_eq_true, beq_iff_eq] at hd
    rcases hd with ((rfl | rfl) | rfl) | rfl <;> decide

theorem readsAs_of_spells {sh : Shape} {w : List Char} (h : Spells sh w) : ReadsAs w sh := by
  induction h with
  | null | yes | no =>
    intro fuel r hf _
    obtain ⟨fuel, rfl⟩ : ∃ k, fuel = k + 1 := ⟨fuel - 1, by simp at hf; omega⟩
    rfl
  | @num n w hn =>
    intro fuel r hf hr
    obtain ⟨c, w', rfl, hc⟩ := hn.exists_cons
    obtain ⟨fuel, rfl⟩ : ∃ k, fuel = k + 1 := ⟨fuel - 1, by simp at hf; omega⟩
    rw [List.cons_append, value_num hc, ← List.cons_append, numeral?_of_spelled hn hr]
  | @str ps w hp =>
    intro fuel r hf _
    obtain ⟨fuel, rfl⟩ : ∃ k, fuel = k + 1 := ⟨fuel - 1, by simp [quotedBy] at hf; omega⟩
    simp [quotedBy, value_str, string?_of_pieced hp]
  | noItems hg =>
    intro fuel r hf _
    obtain ⟨fuel, rfl⟩ : ∃ k, fuel = k + 1 := ⟨fuel - 1, by simp at hf; omega⟩
    simpa using value_arr_empty hg
  | noMembers hg =>
    intro fuel r hf _
    obtain ⟨fuel, rfl⟩ : ∃ k, fuel = k + 1 := ⟨fuel - 1, by simp at hf; omega⟩
    simpa using value_obj_empty hg
  | @arr ts w h ih =>
    intro fuel r hf _
    obtain ⟨fuel, rfl⟩ : ∃ k, fuel = k + 1 := ⟨fuel - 1, by simp at hf; omega⟩
    have hread := ih fuel r (by simp at hf; omega)
    obtain ⟨g, c, r', hg, hc, rfl⟩ := h.items_start
    simp only [List.cons_append, List.append_assoc, List.nil_append] at hread ⊢
    rw [items_gap hg] at hread
    rw [value_arr hg hc, hread]
  | @obj ms w h ih =>
    intro fuel r hf _
    obtain ⟨fuel, rfl⟩ : ∃ k, fuel = k + 1 := ⟨fuel - 1, by simp at hf; omega⟩
    have hread := ih fuel r (by simp at hf; omega)
    obtain ⟨g, r', hg, rfl⟩ := h.members_start
    simp only [List.cons_append, List.append_assoc, List.nil_append] at hread ⊢
    rw [members_gap hg] at hread
    rw [value_obj hg, hread]
  | @lastItem t g w g' hg h hg' ih =>
    intro fuel r hf
    obtain ⟨fuel, rfl⟩ : ∃ k, fuel = k + 1 := ⟨fuel - 1, by omega⟩
    have hread := ih fuel (g' ++ ']' :: r) (by simp at hf; omega) (numeralEnd_gap hg' (by decide) r)
    simp only [List.append_assoc]
    rw [items_gap hg, items.eq_def]
    simp only [hread, skipGap_append hg', skipGap_cons (c := ']') rfl]
  | @item t ts g w g' ws hg h hg' hs ih ihs =>
    intro fuel r hf
    obtain ⟨fuel, rfl⟩ : ∃ k, fuel = k + 1 := ⟨fuel - 1, by omega⟩
    have hread := ih fuel (g' ++ ',' :: (ws ++ ']' :: r)) (by simp at hf; omega) (numeralEnd_gap hg' (by decide) _)
    have hreads := ihs fuel r (by simp at hf; omega)
    simp only [List.append_assoc, List.cons_append]
    rw [items_gap hg, items.eq_def]
    simp only [hread, skipGap_append hg', skipGap_cons (c := ',') rfl, hreads]
  | @lastMember ps t g k g₁ g₂ w g' hg hk hg₁ hg₂ h hg' ih =>
    intro fuel r hf
    obtain ⟨fuel, rfl⟩ : ∃ k, fuel = k + 1 := ⟨fuel - 1, by omega⟩
    have hread := ih fuel (g' ++ '\x7d' :: r) (by simp [quotedBy] at hf; omega) (numeralEnd_gap hg' (by decide) r)
    simp only [List.append_assoc, List.cons_append, List.nil_append, quotedBy]
    rw [members_gap hg, members.eq_def]
    simp only [skipGap_cons (c := '"') rfl, string?_of_pieced hk, skipGap_append hg₁, skipGap_cons (c := ':') rfl,
      value_gap hg₂, hread, skipGap_append hg', skipGap_cons (c := '\x7d') rfl]
  | @member ps t ms g k g₁ g₂ w g' ws hg hk hg₁ hg₂ h hg' hs ih ihs =>
    intro fuel r hf
    obtain ⟨fuel, rfl⟩ : ∃ k, fuel = k + 1 := ⟨fuel - 1, by omega⟩
    have hread := ih fuel (g' ++ ',' :: (ws ++ '\x7d' :: r)) (by simp [quotedBy] at hf; omega)
      (numeralEnd_gap hg' (by decide) _)
    have hreads := ihs fuel r (by simp [quotedBy] at hf; omega)
    simp only [List.append_assoc, List.cons_append, List.nil_append, quotedBy]
    rw [members_gap hg, members.eq_def]
    simp only [skipGap_cons (c := '"') rfl, string?_of_pieced hk, skipGap_append hg₁, skipGap_cons (c := ':') rfl,
      value_gap hg₂, hread, skipGap_append hg', skipGap_cons (c := ',') rfl, hreads]

/-- **Completeness.** -/
theorem value_of_spells {t : Tree} {w : List Char} (h : Spells (.value t) w) {fuel : Nat} {r : List Char}
    (hf : 2 * w.length ≤ fuel) (hr : NumeralEnd r) : value fuel (w ++ r) = (t, r) :=
  readsAs_of_spells h fuel r hf hr

/-! ## Soundness -/

/-- What it means that a value that was read was spelled by the text in front of the rest. -/
def SpelledBefore (s r : List Char) (t : Tree) : Prop := ∃ g w, Gap g ∧ Spells (.value t) w ∧ s = g ++ (w ++ r)

theorem expect_eq {word s r : List Char} {tree t : Tree} (h : expect word tree s = (t, r)) (ht : t.sound = true) :
    t = tree ∧ s = word ++ r := by
  rw [expect] at h
  split at h
  · next hp =>
    obtain ⟨rfl, rfl⟩ := Prod.mk.inj h
    obtain ⟨r, rfl⟩ := List.isPrefixOf_iff_prefix.1 hp
    exact ⟨rfl, by simp⟩
  · obtain ⟨rfl, -⟩ := Prod.mk.inj h
    cases ht

theorem Spells.gap_items {ts : List Tree} {g w : List Char} (hg : Gap g) (h : Spells (.items ts) w) :
    Spells (.items ts) (g ++ w) := by
  cases h with
  | lastItem hg₀ h hg' =>
    rw [← List.append_assoc]
    exact .lastItem (hg.append hg₀) h hg'
  | item hg₀ h hg' hs =>
    rw [← List.append_assoc]
    exact .item (hg.append hg₀) h hg' hs

theorem Spells.gap_members {ms : List (Option String × Tree)} {g w : List Char} (hg : Gap g)
    (h : Spells (.members ms) w) : Spells (.members ms) (g ++ w) := by
  cases h with
  | lastMember hg₀ hk hg₁ hg₂ h hg' =>
    rw [← List.append_assoc]
    exact .lastMember (hg.append hg₀) hk hg₁ hg₂ h hg'
  | member hg₀ hk hg₁ hg₂ h hg' hs =>
    rw [← List.append_assoc]
    exact .member (hg.append hg₀) hk hg₁ hg₂ h hg' hs

/-- Soundness for an amount of fuel, at a value and inside the two kinds of brackets. -/
structure SoundAt (fuel : Nat) : Prop where
  value : ∀ s t r, value fuel s = (t, r) → t.sound = true → SpelledBefore s r t
  items : ∀ s ts r, items fuel s = (ts, r) → Tree.soundItems ts = true → ∃ w, Spells (.items ts) w ∧ s = w ++ ']' :: r
  members : ∀ s ms r, members fuel s = (ms, r) → Tree.soundMembers ms = true →
    ∃ w, Spells (.members ms) w ∧ s = w ++ '\x7d' :: r

theorem sound_value {fuel : Nat} (ih : SoundAt fuel) {s r : List Char} {t : Tree} (h : Json.value (fuel + 1) s = (t, r))
    (ht : t.sound = true) : SpelledBefore s r t := by
  obtain ⟨g, hg, hs⟩ := exists_gap s
  refine ⟨g, ?_⟩
  suffices h : ∃ w, Spells (.value t) w ∧ skipGap s = w ++ r by
    obtain ⟨w, hw, he⟩ := h
    exact ⟨w, hg, hw, he ▸ hs⟩
  clear hs
  rw [Json.value.eq_def] at h
  simp only at h
  split at h
  · obtain ⟨rfl, -⟩ := Prod.mk.inj h
    cases ht
  · next s' hs =>
    split at h
    · next s'' hs' =>
      obtain ⟨rfl, rfl⟩ := Prod.mk.inj h
      obtain ⟨g', hg', he⟩ := exists_gap_of_skipGap hs'
      exact ⟨_, .noMembers hg', by rw [hs, he]; simp⟩
    · obtain ⟨rfl, rfl⟩ := Prod.mk.inj h
      obtain ⟨g', hg', he⟩ := exists_gap s'
      obtain ⟨w, hw, hs'⟩ := ih.members _ _ _ rfl ht
      refine ⟨_, .obj (hw.gap_members hg'), ?_⟩
      conv => lhs; rw [hs, he, hs']
      simp
  · next s' hs =>
    split at h
    · next s'' hs' =>
      obtain ⟨rfl, rfl⟩ := Prod.mk.inj h
      obtain ⟨g', hg', he⟩ := exists_gap_of_skipGap hs'
      exact ⟨_, .noItems hg', by rw [hs, he]; simp⟩
    · obtain ⟨rfl, rfl⟩ := Prod.mk.inj h
      obtain ⟨g', hg', he⟩ := exists_gap s'
      obtain ⟨w, hw, hs'⟩ := ih.items _ _ _ rfl ht
      refine ⟨_, .arr (hw.gap_items hg'), ?_⟩
      conv => lhs; rw [hs, he, hs']
      simp
  · next s' hs =>
    split at h
    · next o r' ho =>
      obtain ⟨rfl, rfl⟩ := Prod.mk.inj h
      obtain ⟨ps, w, hp, rfl, rfl⟩ := pieced_of_string? ho
      exact ⟨_, .str hp, by rw [hs, quotedBy]; simp⟩
    · obtain ⟨rfl, -⟩ := Prod.mk.inj h
      cases ht
  · next s' hs =>
    obtain ⟨rfl, he⟩ := expect_eq h ht
    exact ⟨_, .null, hs.trans he⟩
  · next s' hs =>
    obtain ⟨rfl, he⟩ := expect_eq h ht
    exact ⟨_, .yes, hs.trans he⟩
  · next s' hs =>
    obtain ⟨rfl, he⟩ := expect_eq h ht
    exact ⟨_, .no, hs.trans he⟩
  · split at h
    · next n r' hn =>
      obtain ⟨rfl, rfl⟩ := Prod.mk.inj h
      obtain ⟨w, hw, he⟩ := spelled_of_numeral? hn
      exact ⟨w, .num hw, he⟩
    · obtain ⟨rfl, -⟩ := Prod.mk.inj h
      cases ht

theorem sound_items {fuel : Nat} (ih : SoundAt fuel) {s r : List Char} {ts : List Tree}
    (h : Json.items (fuel + 1) s = (ts, r)) (hts : Tree.soundItems ts = true) :
    ∃ w, Spells (.items ts) w ∧ s = w ++ ']' :: r := by
  rw [Json.items.eq_def] at h
  simp only at h
  split at h
  · next r' hr =>
    obtain ⟨rfl, rfl⟩ := Prod.mk.inj h
    obtain ⟨g', hg', he'⟩ := exists_gap_of_skipGap hr
    simp only [Tree.soundItems, Bool.and_eq_true] at hts
    obtain ⟨g, w, hg, hw, he⟩ := ih.value s _ _ rfl hts.1
    obtain ⟨ws, hws, hs⟩ := ih.items _ _ _ rfl hts.2
    refine ⟨_, .item hg hw hg' hws, ?_⟩
    conv => lhs; rw [he, he', hs]
    simp
  · next r' hr =>
    obtain ⟨rfl, rfl⟩ := Prod.mk.inj h
    obtain ⟨g', hg', he'⟩ := exists_gap_of_skipGap hr
    simp only [Tree.soundItems, Bool.and_eq_true] at hts
    obtain ⟨g, w, hg, hw, he⟩ := ih.value s _ _ rfl hts.1
    exact ⟨_, .lastItem hg hw hg', by rw [he, he']; simp⟩
  · obtain ⟨rfl, -⟩ := Prod.mk.inj h
    simp [Tree.soundItems, Tree.sound] at hts

theorem sound_members {fuel : Nat} (ih : SoundAt fuel) {s r : List Char} {ms : List (Option String × Tree)}
    (h : Json.members (fuel + 1) s = (ms, r)) (hms : Tree.soundMembers ms = true) :
    ∃ w, Spells (.members ms) w ∧ s = w ++ '\x7d' :: r := by
  rw [Json.members.eq_def] at h
  simp only at h
  split at h
  · next s' hs =>
    obtain ⟨g, hg, he⟩ := exists_gap_of_skipGap hs
    split at h
    · obtain ⟨rfl, -⟩ := Prod.mk.inj h
      simp [Tree.soundMembers, Tree.sound] at hms
    · next o r₁ ho =>
      obtain ⟨ps, k, hk, rfl, rfl⟩ := pieced_of_string? ho
      split at h
      · next r₂ hr₂ =>
        obtain ⟨g₁, hg₁, he₁⟩ := exists_gap_of_skipGap hr₂
        split at h
        · next r₃ hr₃ =>
          obtain ⟨rfl, rfl⟩ := Prod.mk.inj h
          obtain ⟨g', hg', he'⟩ := exists_gap_of_skipGap hr₃
          simp only [Tree.soundMembers, Bool.and_eq_true] at hms
          obtain ⟨g₂, w, hg₂, hw, he₂⟩ := ih.value r₂ _ _ rfl hms.1
          obtain ⟨ws, hws, hs'⟩ := ih.members _ _ _ rfl hms.2
          refine ⟨_, .member hg hk hg₁ hg₂ hw hg' hws, ?_⟩
          conv => lhs; rw [he, he₁, he₂, he', hs']
          simp [quotedBy]
        · next r₃ hr₃ =>
          obtain ⟨rfl, rfl⟩ := Prod.mk.inj h
          obtain ⟨g', hg', he'⟩ := exists_gap_of_skipGap hr₃
          simp only [Tree.soundMembers, Bool.and_eq_true] at hms
          obtain ⟨g₂, w, hg₂, hw, he₂⟩ := ih.value r₂ _ _ rfl hms.1
          refine ⟨_, .lastMember hg hk hg₁ hg₂ hw hg', ?_⟩
          rw [he, he₁, he₂, he']
          simp [quotedBy]
        · obtain ⟨rfl, -⟩ := Prod.mk.inj h
          simp [Tree.soundMembers, Tree.sound] at hms
      · obtain ⟨rfl, -⟩ := Prod.mk.inj h
        simp [Tree.soundMembers, Tree.sound] at hms
  · obtain ⟨rfl, -⟩ := Prod.mk.inj h
    simp [Tree.soundMembers, Tree.sound] at hms

theorem soundAt : ∀ fuel, SoundAt fuel
  | 0 =>
    { value := by rintro _ _ _ ⟨⟩ ⟨⟩
      items := by rintro _ _ _ ⟨⟩ ⟨⟩
      members := by rintro _ _ _ ⟨⟩ ⟨⟩ }
  | fuel + 1 =>
    { value := fun _ _ _ => sound_value (soundAt fuel)
      items := fun _ _ _ => sound_items (soundAt fuel)
      members := fun _ _ _ => sound_members (soundAt fuel) }

/-- **Soundness.** -/
theorem spells_of_value {fuel : Nat} {s r : List Char} {t : Tree} (h : value fuel s = (t, r)) (ht : t.sound = true) :
    SpelledBefore s r t := (soundAt fuel).value s t r h ht

/-! ## Whole texts -/

/-- A text that spells a tree, with gaps around. -/
def TextOf (t : Tree) (s : List Char) : Prop := ∃ g w g', Gap g ∧ Spells (.value t) w ∧ Gap g' ∧ s = g ++ (w ++ g')

theorem numeralEnd_of_gap {g : List Char} (hg : Gap g) : NumeralEnd g := by
  cases g with
  | nil => exact .nil
  | cons c g =>
    rintro _ ⟨⟩
    exact numeralEnd_gap hg (c := ',') (by decide) [] c rfl

theorem read_of_textOf {t : Tree} {s : List Char} (h : TextOf t s) : read s = (t, true) := by
  obtain ⟨g, w, g', hg, hw, hg', rfl⟩ := h
  rw [read, value_gap hg, value_of_spells hw (by simp; omega) (numeralEnd_of_gap hg')]
  simp [skipGap_of_gap hg']

theorem textOf_of_read {t : Tree} {s : List Char} (h : read s = (t, true)) (ht : t.sound = true) : TextOf t s := by
  rw [read] at h
  obtain ⟨t', r, hv⟩ : ∃ t' r, value (2 * s.length + 2) s = (t', r) := ⟨_, _, rfl⟩
  rw [hv] at h
  obtain ⟨rfl, hr⟩ := Prod.mk.inj h
  obtain ⟨g, w, hg, hw, hs⟩ := spells_of_value hv ht
  obtain ⟨g', hg', he⟩ := exists_gap_of_skipGap (List.isEmpty_iff.1 hr)
  rw [List.append_nil] at he
  exact ⟨g, w, g', hg, hw, hg', hs.trans (by rw [he])⟩

mutual

/-- A tree that denotes a value has no broken place. -/
theorem sound_of_json? : ∀ {depth : Nat} {t : Tree} {v : Json}, t.json? depth = some v → t.sound = true
  | _, .null, _, _ | _, .bool _, _, _ | _, .num _, _, _ | _, .str _, _, _ => rfl
  | 0, .arr _, _, h | 0, .obj _, _, h | _, .broken, _, h => by simp [Tree.json?] at h
  | depth + 1, .arr ts, v, h => by
    simp only [Tree.json?, Option.map_eq_some_iff] at h
    obtain ⟨vs, h, -⟩ := h
    exact sound_of_jsons? h
  | depth + 1, .obj ms, v, h => by
    simp only [Tree.json?, Option.map_eq_some_iff] at h
    obtain ⟨vs, h, -⟩ := h
    exact sound_of_jsonMembers? h

theorem sound_of_jsons? : ∀ {depth : Nat} {ts : List Tree} {vs : List Json}, Tree.jsons? depth ts = some vs →
    Tree.soundItems ts = true
  | _, [], _, _ => rfl
  | depth, t :: ts, vs, h => by
    rw [Tree.jsons?] at h
    split at h
    · cases h
    · next v hv =>
      obtain ⟨vs, h, -⟩ := Option.map_eq_some_iff.1 h
      simp [Tree.soundItems, sound_of_json? hv, sound_of_jsons? h]

theorem sound_of_jsonMembers? : ∀ {depth : Nat} {ms : List (Option String × Tree)} {vs : List (String × Json)},
    Tree.jsonMembers? depth ms = some vs → Tree.soundMembers ms = true
  | _, [], _, _ => rfl
  | _, (none, _) :: _, _, h => by simp [Tree.jsonMembers?] at h
  | depth, (some n, t) :: ms, vs, h => by
    rw [Tree.jsonMembers?] at h
    split at h
    · cases h
    · next v hv =>
      obtain ⟨vs, h, -⟩ := Option.map_eq_some_iff.1 h
      simp [Tree.soundMembers, sound_of_json? hv, sound_of_jsonMembers? h]

end

/-- A text has the value of the tree it spells, if that denotes one. -/
theorem parseChars?_of_textOf {t : Tree} {s : List Char} (h : TextOf t s) : parseChars? s = t.json? depthLimit := by
  rw [parseChars?, read_of_textOf h]
  rfl

/-- **A text has a value** when it spells a tree that denotes one. -/
theorem parseChars?_eq_some {s : List Char} {v : Json} :
    parseChars? s = some v ↔ ∃ t, TextOf t s ∧ t.json? depthLimit = some v := by
  constructor
  · intro h
    rw [parseChars?] at h
    obtain ⟨t, whole, hr⟩ : ∃ t whole, read s = (t, whole) := ⟨_, _, rfl⟩
    simp only [hr] at h
    split at h
    · next hw =>
      subst hw
      exact ⟨t, textOf_of_read hr (sound_of_json? h), h⟩
    · cases h
  · rintro ⟨t, ht, hv⟩
    rw [parseChars?_of_textOf ht, hv]

end SnippetAudit.Json
