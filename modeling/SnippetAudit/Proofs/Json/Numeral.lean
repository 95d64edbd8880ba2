import SnippetAudit.Json.Printer
import SnippetAudit.Proofs.Json.Grammar
import SnippetAudit.Proofs.Number.Digits
import Mathlib.Algebra.Group.Int.Defs

/-!
# Printed numbers are numerals

A double is printed as a numeral or as null (`spelled_shortestText`), an integer as a numeral (`spelled_whole`).
`Decimal.numeral` is the numeral that a decimal is printed as, in each of the three layouts.
-/

namespace SnippetAudit

open Json (Numeral Digits Whole FractionText ExponentText MinusText SignText)

/-! ## Runs of digits -/

theorem Number.digits_toDigits (n : Nat) : Digits (Nat.toDigits 10 n) :=
  ⟨Nat.toDigits_ne_nil, fun _ hc => isDigit_toDigits hc⟩

namespace Number.Decimal

theorem digits_digits (d : Decimal) : Digits d.digits := digits_toDigits d.coefficient

/-- Digits, or a zero where there are none. -/
def orZero (ds : List Char) : List Char := if ds.isEmpty then ['0'] else ds

theorem digits_orZero {ds : List Char} (h : ∀ c ∈ ds, c.isDigit = true) : Digits (orZero ds) := by
  cases ds with
  | nil => exact ⟨by simp [orZero], by simp [orZero]⟩
  | cons c r => exact ⟨by simp [orZero], by simpa [orZero] using h⟩

/-- The numeral that a decimal is printed as. -/
def numeral (negative : Bool) (d : Decimal) : Numeral :=
  let x := d.magnitude
  if 0 ≤ x ∧ x < 16 then
    ⟨negative, d.digits.take (x.toNat + 1) ++ List.replicate (x.toNat + 1 - d.digits.length) '0',
      orZero (d.digits.drop (x.toNat + 1)), none⟩
  else if -5 ≤ x ∧ x < 0 then ⟨negative, ['0'], List.replicate (-x - 1).toNat '0' ++ d.digits, none⟩
  else ⟨negative, d.digits.take 1, d.digits.drop 1, some x⟩

variable {d : Decimal}

/-- The first digits of a decimal, with zeros behind them, stand before a point. -/
theorem whole_take (h : d.coefficient ≠ 0) (k j : Nat) : Whole (d.digits.take (k + 1) ++ List.replicate j '0') := by
  have hd := d.digits_digits.2
  have hhead := head?_toDigits h
  rw [← digits] at hhead
  obtain ⟨c, r, hr⟩ := List.exists_cons_of_ne_nil d.digits_digits.1
  rw [hr] at hd hhead ⊢
  rw [List.take_succ_cons, List.cons_append]
  refine ⟨⟨List.cons_ne_nil _ _, fun c' hc' => ?_⟩, fun h0 => absurd h0 hhead⟩
  rw [List.mem_cons, List.mem_append] at hc'
  rcases hc' with rfl | hc' | hc'
  · exact hd _ List.mem_cons_self
  · exact hd _ (List.mem_cons_of_mem _ (List.mem_of_mem_take hc'))
  · exact isDigit_zeros hc'

theorem whole_zero : Whole ['0'] := ⟨⟨by simp, by simp⟩, fun _ => rfl⟩

/-- An exponent as it is printed. -/
theorem exponentText_signed (x : Int) : ExponentText (some x) ('e' :: signedDigits x) := by
  have hd := digits_toDigits x.natAbs
  by_cases hx : x < 0
  · have hval : x =
        if true then -(ofDigits (Nat.toDigits 10 x.natAbs) : Int) else ofDigits (Nat.toDigits 10 x.natAbs) := by
      rw [ofDigits_toDigits, if_pos rfl]
      omega
    rw [signedDigits, if_pos hx]
    conv => lhs; rw [hval]
    exact .present (.inl rfl) .minus hd
  · have hval : x =
        if false then -(ofDigits (Nat.toDigits 10 x.natAbs) : Int) else ofDigits (Nat.toDigits 10 x.natAbs) := by
      rw [ofDigits_toDigits, if_neg (by decide)]
      omega
    rw [signedDigits, if_neg hx]
    conv => lhs; rw [hval]
    exact .present (.inl rfl) .plus hd

/-- **A decimal is printed as its numeral.** -/
theorem spelled_text (h : d.coefficient ≠ 0) {negative : Bool} {s : List Char} (hs : MinusText negative s) :
    (d.numeral negative).Spelled (s ++ d.text) := by
  have hd := d.digits_digits
  unfold numeral text
  simp only
  split
  · have hw := whole_take h d.magnitude.toNat (d.magnitude.toNat + 1 - d.digits.length)
    have hf : Digits (orZero (d.digits.drop (d.magnitude.toNat + 1))) :=
      digits_orZero fun c hc => hd.2 c (List.mem_of_mem_drop hc)
    have hpointed := Numeral.Spelled.mk hs hw (.present hf) .absent
    rw [List.append_nil] at hpointed
    simpa only [pointed, List.isEmpty_eq_false_iff.2 hw.1.1, orZero, Bool.false_eq_true, if_false] using hpointed
  · split
    · have hf : Digits (List.replicate (-d.magnitude - 1).toNat '0' ++ d.digits) := by
        refine ⟨by simp [hd.1], fun c hc => ?_⟩
        rcases List.mem_append.1 hc with hc | hc
        · exact isDigit_zeros hc
        · exact hd.2 c hc
      have hsmall := Numeral.Spelled.mk hs whole_zero (.present hf) .absent
      rwa [List.append_nil] at hsmall
    · have hw := whole_take h 0 0
      have he := exponentText_signed d.magnitude
      rw [List.replicate_zero, List.append_nil] at hw
      split
      · next c hc =>
        rw [hc] at hw ⊢
        exact .mk hs hw .absent he
      · next c cs hne hc =>
        rw [hc] at hw hd ⊢
        have hcs : Digits cs := ⟨fun h0 => hne (h0 ▸ rfl), fun c' hc' => hd.2 c' (List.mem_cons_of_mem _ hc')⟩
        exact .mk hs hw (.present hcs) he
      · next hc => exact absurd hc hd.1

/-! ## The shortest decimal -/

theorem dropZeros_ne_zero : ∀ {fuel : Nat} {d : Decimal}, d.coefficient ≠ 0 → (d.dropZeros fuel).coefficient ≠ 0
  | 0, _, h => h
  | fuel + 1, d, h => by
    rw [dropZeros]
    split
    · next hd =>
      refine dropZeros_ne_zero fun h0 => h ?_
      have hdiv : d.coefficient / 10 = 0 := h0
      omega
    · exact h

theorem round_zero {F : Format} {d : Decimal} (h : d.coefficient = 0) : (d.round F).mantissa = 0 := by
  simp [round, ratio, h, Format.round]

theorem round_either {F : Format} {goal : Dyadic} {first second d : Decimal}
    (h : (if first.round F = goal then some first else if second.round F = goal then some second else none) = some d) :
    d.round F = goal := by
  split at h
  · next hr =>
    cases h
    exact hr
  · split at h
    · next hr =>
      cases h
      exact hr
    · cases h

/-- A decimal that is cut short still rounds to its goal. -/
theorem round_shortened {F : Format} {goal : Dyadic} {d d' : Decimal} {cut : Nat}
    (h : shortened? F goal d cut = some d') : d'.round F = goal := by
  simp only [shortened?] at h
  split at h
  · exact round_either h
  · exact round_either h

/-- What is found is the decimal itself or rounds to the goal. -/
theorem shortenFrom_cases (F : Format) (goal : Dyadic) (d : Decimal) : ∀ cut : Nat,
    shortenFrom F goal d cut = d ∨ (shortenFrom F goal d cut).round F = goal
  | 0 => .inl rfl
  | cut + 1 => by
    rw [shortenFrom]
    cases h : shortened? F goal d (cut + 1) with
    | none => exact shortenFrom_cases F goal d cut
    | some d' => exact .inr (round_shortened h)

theorem ofDyadic_ne_zero {m : Dyadic} (h : m.mantissa ≠ 0) : (ofDyadic m).coefficient ≠ 0 :=
  Nat.mul_ne_zero (Nat.mul_ne_zero h (Nat.ne_of_gt (Nat.two_pow_pos _))) (Nat.ne_of_gt (Nat.pow_pos (by decide)))

theorem shortest_ne_zero {F : Format} {goal : Dyadic} (h : goal.mantissa ≠ 0) :
    (shortest F goal).coefficient ≠ 0 := by
  refine dropZeros_ne_zero ?_
  rcases shortenFrom_cases F goal (ofDyadic goal) ((ofDyadic goal).digits.length - 1) with he | he
  · rw [he]
    exact ofDyadic_ne_zero h
  · exact fun h0 => h (he ▸ round_zero h0)

end Number.Decimal

namespace Json.Num

open Number (Decimal shortestText)

/-- The numeral of a value that is no zero. -/
def numeralOf (F : Number.Format) (negative : Bool) (d : Number.Dyadic) : Numeral :=
  if d.mantissa = 0 then ⟨negative, ['0'], ['0'], none⟩ else (Decimal.shortest F d).numeral negative

/-- A finite value is printed as a numeral. -/
theorem spelled_shortestText (F : Number.Format) (negative : Bool) (d : Number.Dyadic) :
    ∃ w, shortestText F (.finite negative d) = some w ∧ (numeralOf F negative d).Spelled w := by
  have hs : MinusText negative (if negative then ['-'] else []) := by
    cases negative
    · exact .absent
    · exact .present
  have hzero : Digits ['0'] := ⟨by simp, by simp⟩
  have hw : ∀ body : List Char,
      (if negative then '-' :: body else body) = (if negative then ['-'] else []) ++ body := by
    cases negative <;> exact fun _ => rfl
  refine ⟨_, rfl, ?_⟩
  rw [hw, numeralOf]
  split
  · have h0 := Numeral.Spelled.mk hs Decimal.whole_zero (.present hzero) .absent
    exact h0
  · next hd => exact Decimal.spelled_text (Decimal.shortest_ne_zero hd) hs

theorem whole_toDigits (n : Nat) : Whole (Nat.toDigits 10 n) := by
  refine ⟨Number.digits_toDigits n, fun h => ?_⟩
  rcases Nat.eq_zero_or_pos n with rfl | hn
  · rfl
  · exact absurd h (Number.head?_toDigits (Nat.ne_of_gt hn))

/-- An integer is printed as a numeral. -/
theorem spelled_whole (n : Int) : Numeral.Spelled ⟨n < 0, Nat.toDigits 10 n.natAbs, [], none⟩ (text (.whole n)) := by
  have hs : MinusText (n < 0) (if n < 0 then ['-'] else []) := by
    by_cases hn : n < 0
    · simpa [hn] using MinusText.present
    · simpa [hn] using MinusText.absent
  have hw := Numeral.Spelled.mk hs (whole_toDigits n.natAbs) .absent .absent
  simpa [text] using hw

/-- Digits of a number that fits are all gathered. -/
theorem gather_exact : ∀ {s : Nat} {ds : List Char}, s * 10 ^ ds.length + Number.ofDigits ds < UInt64.size →
    gather s ds = (s * 10 ^ ds.length + Number.ofDigits ds, 0)
  | s, [], _ => by simp [gather, Number.ofDigits]
  | s, d :: ds, h => by
    have hsplit : s * 10 ^ (d :: ds).length + Number.ofDigits (d :: ds) =
        (10 * s + Number.digitValue d) * 10 ^ ds.length + Number.ofDigits ds := by
      rw [Number.ofDigits_cons, List.length_cons, Nat.pow_succ, Nat.add_mul, Nat.mul_comm 10 s, Nat.mul_assoc s,
        Nat.mul_comm 10, Nat.mul_comm (Number.digitValue d), Nat.add_assoc]
    have hnext : 10 * s + Number.digitValue d < UInt64.size := by
      refine Nat.lt_of_le_of_lt ?_ (hsplit ▸ h)
      exact Nat.le_trans (Nat.le_mul_of_pos_right _ (Nat.pow_pos (by decide))) (Nat.le_add_right _ _)
    rw [hsplit] at h ⊢
    rw [gather]
    simp only [hnext, if_true]
    exact gather_exact h

/-- The integers that are read as integers: those of 64 bits, with a sign or without. -/
def IsWord (n : Int) : Prop := -2 ^ 63 ≤ n ∧ n < 2 ^ 64

/-- **An integer of 64 bits is read back.** -/
theorem number?_whole {n : Int} (h : IsWord n) :
    (Numeral.mk (n < 0) (Nat.toDigits 10 n.natAbs) [] none).number? = some (.whole n) := by
  obtain ⟨hlow, hhigh⟩ := h
  have hsize : UInt64.size = 2 ^ 64 := rfl
  have hg : gather 0 (Nat.toDigits 10 n.natAbs) = (n.natAbs, 0) := by
    have hfits : 0 * 10 ^ (Nat.toDigits 10 n.natAbs).length + Number.ofDigits (Nat.toDigits 10 n.natAbs) <
        UInt64.size := by
      rw [Nat.zero_mul, Nat.zero_add, Number.ofDigits_toDigits]
      omega
    have hexact := gather_exact hfits
    rwa [Nat.zero_mul, Nat.zero_add, Number.ofDigits_toDigits] at hexact
  by_cases hn : n < 0
  · have hne : n.natAbs ≠ 0 := by omega
    have hle : n.natAbs ≤ UInt64.size / 2 := by omega
    have hvalue : -(n.natAbs : Int) = n := by omega
    generalize n.natAbs = k at hg hne hle hvalue ⊢
    simp [Numeral.number?, hg, hn, hne, hle, hvalue]
  · have hvalue : (n.natAbs : Int) = n := by omega
    generalize n.natAbs = k at hg hvalue ⊢
    simp [Numeral.number?, hg, hn, hvalue]

/-- A natural of 64 bits is read back. -/
theorem number?_nat {n : Nat} (h : n < UInt64.size) :
    (Numeral.mk false (Nat.toDigits 10 n) [] none).number? = some (.whole n) := by
  have hsize : UInt64.size = 2 ^ 64 := rfl
  have hword : IsWord (n : Int) := by
    constructor
    · omega
    · omega
  have hsign : decide ((n : Int) < 0) = false := decide_eq_false (Int.not_lt.2 (Int.natCast_nonneg n))
  have hwhole := number?_whole hword
  rwa [hsign, Int.natAbs_natCast] at hwhole

end Json.Num
end SnippetAudit
