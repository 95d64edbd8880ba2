import SnippetAudit.Time.Text
import SnippetAudit.Proofs.Number.Digits
import SnippetAudit.Proofs.Text.Blank

/-!
# Instants are read back

Every part of the text of an instant is read back by the reader of that part, whatever follows it, so a valid instant is
read back from its text (`ofText?_text`).
-/

namespace SnippetAudit

/-! ## Padded numbers -/

namespace Number

theorem digits_padded (width n : Nat) : ∀ c ∈ padded width n, c.isDigit = true := by
  intro c h
  rcases List.mem_append.1 h with h | h
  · exact isDigit_zeros h
  · exact isDigit_toDigits h

@[simp] theorem ofDigits_padded (width n : Nat) : ofDigits (padded width n) = n := by
  rw [padded, ofDigits_padding, ofDigits_toDigits]

theorem padded_ne_nil (width n : Nat) : padded width n ≠ [] := by simp [padded]

/-- A number below a power of ten fills its width. -/
theorem length_padded {width n : Nat} (hw : 0 < width) (h : n < 10 ^ width) : (padded width n).length = width := by
  have hle := length_toDigits_le hw h
  rw [padded, List.length_append, List.length_replicate]
  omega

end Number

namespace Instant

open Number (padded ofDigits digits_padded ofDigits_padded padded_ne_nil length_padded)
open Text (trimStart isBlank_of_isDigit)

/-- No blanks stand before digits. -/
theorem trimStart_digits {ds : List Char} (hne : ds ≠ []) (h : ∀ c ∈ ds, c.isDigit = true) (r : List Char) :
    trimStart (ds ++ r) = ds ++ r := by
  obtain ⟨c, s, rfl⟩ := List.exists_cons_of_ne_nil hne
  simp [trimStart, isBlank_of_isDigit (h c List.mem_cons_self)]

theorem takeWhile_digits {ds r : List Char} (h : ∀ c ∈ ds, c.isDigit = true) (hr : ∀ c ∈ r.head?, c.isDigit = false) :
    (ds ++ r).takeWhile Char.isDigit = ds := by
  rw [List.takeWhile_append_of_pos h]
  cases r with
  | nil => simp
  | cons c r => simp [hr c rfl]

/-! ## The parts -/

/-- A padded number is read back, whatever follows it. -/
theorem number?_padded {width n : Nat} (hw : 0 < width) (h : n < 10 ^ width) (r : List Char) :
    number? width (padded width n ++ r) = some (n, r) := by
  have hd := digits_padded width n
  have hlen := length_padded hw h
  have htake : (padded width n ++ r).take width = padded width n := List.take_left' hlen
  have hrun : (padded width n).takeWhile Char.isDigit = padded width n := by
    simpa using takeWhile_digits (r := []) hd (by simp)
  rw [number?, trimStart_digits (padded_ne_nil _ _) hd]
  simp [htake, hrun, padded_ne_nil, hlen, List.drop_left' hlen]

theorem longNumber?_padded (width n : Nat) {r : List Char} (hr : ∀ c ∈ r.head?, c.isDigit = false) :
    longNumber? (padded width n ++ r) = some (n, r) := by
  have hrun := takeWhile_digits (digits_padded width n) hr
  simp [longNumber?, hrun, padded_ne_nil]

theorem year?_of_digit {c : Char} (h : c.isDigit = true) (s : List Char) :
    year? (c :: s) = (number? 4 (c :: s)).map fun (n, r) => ((n : Int), r) := by
  have htrim : trimStart (c :: s) = c :: s := by simp [trimStart, isBlank_of_isDigit h]
  have hm : c ≠ '-' := by rintro rfl; cases h
  have hp : c ≠ '+' := by rintro rfl; cases h
  rw [year?, htrim]
  split
  · next he => exact absurd (List.cons.inj he).1 hm
  · next he => exact absurd (List.cons.inj he).1 hp
  · rfl

theorem year?_minus (s : List Char) : year? ('-' :: s) = (longNumber? s).map fun (n, r) => (-(n : Int), r) := rfl

theorem year?_plus (s : List Char) : year? ('+' :: s) = (longNumber? s).map fun (n, r) => ((n : Int), r) := rfl

/-- A year is read back before a separator. -/
theorem year?_yearText (y : Int) (r : List Char) : year? (yearText y ++ '-' :: r) = some (y, '-' :: r) := by
  have hr : ∀ c ∈ ('-' :: r).head?, c.isDigit = false := by
    rintro _ ⟨⟩
    rfl
  have hsome : ∀ {z : Int}, z = y → some (z, '-' :: r) = some (y, '-' :: r) := by
    rintro _ rfl
    rfl
  unfold yearText
  split
  · next hy =>
    have hn := number?_padded (by decide) (by omega : y.toNat < 10 ^ 4) ('-' :: r)
    obtain ⟨c, s, hs⟩ := List.exists_cons_of_ne_nil (padded_ne_nil 4 y.toNat)
    have hc : c.isDigit = true := digits_padded 4 y.toNat c (hs ▸ List.mem_cons_self)
    rw [hs, List.cons_append] at hn ⊢
    rw [year?_of_digit hc, hn]
    exact hsome (by omega)
  · split
    · rw [List.cons_append, year?_minus, longNumber?_padded 4 _ hr]
      exact hsome (by omega)
    · rw [List.cons_append, year?_plus, longNumber?_padded 4 _ hr]
      exact hsome (by omega)

/-- The places of a second are read back. -/
theorem fraction?_places {width n : Nat} (hw : 0 < width) (hle : width ≤ 9) (h : n < 10 ^ width) (r : List Char)
    (hr : ∀ c ∈ r.head?, c.isDigit = false) :
    fraction? ('.' :: (padded width n ++ r)) = some (n * 10 ^ (9 - width), r) := by
  have hrun := takeWhile_digits (digits_padded width n) hr
  have hlen := length_padded hw h
  have htake : (padded width n).take 9 = padded width n := List.take_of_length_le (by omega)
  simp [fraction?, hrun, htake, hlen, padded_ne_nil, List.drop_left' hlen]

theorem fraction?_fractionText {nano : Nat} (h : nano < 1000000000) :
    fraction? (fractionText nano ++ ['Z']) = some (nano, ['Z']) := by
  have hr : ∀ c ∈ ['Z'].head?, c.isDigit = false := by
    rintro _ ⟨⟩
    rfl
  unfold fractionText
  split
  · next h0 =>
    subst h0
    rfl
  · split
    · next h3 =>
      rw [List.cons_append, fraction?_places (by decide) (by decide) (by omega) _ hr]
      simp only [Option.some.injEq, Prod.mk.injEq, and_true]
      omega
    · split
      · next h6 =>
        rw [List.cons_append, fraction?_places (by decide) (by decide) (by omega) _ hr]
        simp only [Option.some.injEq, Prod.mk.injEq, and_true]
        omega
      · rw [List.cons_append, fraction?_places (by decide) (by decide) (by omega) _ hr]
        simp

/-! ## The whole -/

/-- The ranges of the parts of a valid instant. -/
theorem ranges_of_isValid {t : Instant} (h : t.isValid = true) :
    t.date.month < 100 ∧ t.date.day < 100 ∧ t.hour < 24 ∧ t.minute < 60 ∧ t.second ≤ 60 ∧ t.nano < 1000000000 := by
  simp only [isValid, Date.isValid, Bool.and_eq_true, decide_eq_true_eq] at h
  obtain ⟨⟨⟨⟨⟨⟨⟨-, hm⟩, -⟩, hd⟩, hh⟩, hmin⟩, hs⟩, hn⟩ := h
  have hdays : Date.daysIn t.date.year t.date.month ≤ 31 := by
    unfold Date.daysIn
    split
    · split <;> omega
    · split <;> omega
  omega

theorem minus_zero {t : Instant} (hh : t.hour < 24) (hm : t.minute < 60) : t.minus 0 = t := by
  obtain ⟨date, hour, minute, second, nano⟩ := t
  simp only at hh hm
  have h1 : ¬(60 * (hour : Int) + minute - 0 < 0) := by omega
  have h2 : ¬(1440 ≤ 60 * (hour : Int) + minute - 0) := by omega
  simp only [minus, if_neg h1, if_neg h2, mk.injEq, true_and, and_true]
  omega

theorem ofChars?_chars {t : Instant} (h : t.isValid = true) : ofChars? t.chars = some t := by
  obtain ⟨hmonth, hday, hhour, hminute, hsecond, hnano⟩ := ranges_of_isValid h
  have h2 : ∀ {n : Nat} (r : List Char), n < 100 → number? 2 (padded 2 n ++ r) = some (n, r) := fun r hn =>
    number?_padded (by decide) hn r
  have hdash : ∀ r : List Char, mark? '-' ('-' :: r) = some r := fun _ => rfl
  have hcolon : ∀ r : List Char, mark? ':' (':' :: r) = some r := fun _ => rfl
  have hsep : ∀ r : List Char, separator? ('T' :: r) = some r := fun _ => rfl
  have hzone : zone? ['Z'] = some (0, []) := rfl
  have hmonth' := fun r => h2 r hmonth
  have hday' := fun r => h2 r hday
  have hhour' := fun r => h2 r (Nat.lt_trans hhour (by decide))
  have hminute' := fun r => h2 r (Nat.lt_trans hminute (by decide))
  have hsecond' := fun r => h2 r (Nat.lt_of_le_of_lt hsecond (by decide))
  unfold ofChars? chars
  simp only [Option.bind_eq_bind]
  -- One part after the other: a rewriting of all of them at once copies the rest of the text into every part.
  rw [year?_yearText, Option.bind_some, hdash, Option.bind_some, hmonth', Option.bind_some, hdash, Option.bind_some,
    hday', Option.bind_some, hsep, Option.bind_some, hhour', Option.bind_some, hcolon, Option.bind_some, hminute',
    Option.bind_some, hcolon, Option.bind_some, hsecond', Option.bind_some, fraction?_fractionText hnano,
    Option.bind_some, hzone, Option.bind_some]
  change (if t.isValid = true ∧ (t.minus 0).isValid = true ∧ _ then some (t.minus 0) else none) = some t
  rw [minus_zero hhour hminute, if_pos ⟨h, h, rfl⟩]

/-- **A valid instant is read back.** -/
theorem ofText?_text {t : Instant} (h : t.isValid = true) : ofText? t.text = some t := by
  rw [ofText?, text, String.toList_ofList, ofChars?_chars h]

end Instant
end SnippetAudit
