import SnippetAudit.Number.Shortest
import Mathlib.Algebra.Order.Field.Power
import Mathlib.Algebra.Order.Ring.Unbundled.Rat
import Mathlib.Tactic.FieldSimp
import Mathlib.Tactic.GCongr
import Mathlib.Tactic.Linarith
import Mathlib.Tactic.NormNum
import Mathlib.Tactic.Positivity
import Mathlib.Tactic.Ring

/-!
# What rounding does to a number

Dyadics and decimals as rationals. The exponent of a ratio is the one at which it fills the mantissa
(`freeExponent_bounds`), so that what it is rounded to is less than half a unit away (`le_round`, `value_round_le`). A
ratio below the midpoint behind the greatest number of a format does not exceed the format (`exceeds_round`).
-/

namespace SnippetAudit.Number

/-- The number itself. -/
def Dyadic.value (d : Dyadic) : ℚ := d.mantissa * 2 ^ d.exponent

/-- The number itself. -/
def Decimal.value (d : Decimal) : ℚ := d.coefficient * 10 ^ d.exponent

theorem zpow_pos_part {b : ℚ} (hb : b ≠ 0) (e : ℤ) : b ^ e.toNat / b ^ (-e).toNat = b ^ e := by
  rw [← zpow_natCast, ← zpow_natCast, ← zpow_sub₀ hb]
  congr 1
  omega

/-- Numerator and denominator of a dyadic. -/
theorem Dyadic.ratio_value (d : Dyadic) : (d.ratio.1 : ℚ) / d.ratio.2 = d.value := by
  have h := zpow_pos_part (two_ne_zero' ℚ) d.exponent
  simp only [ratio, value, Nat.pow_eq, Nat.cast_mul, Nat.cast_pow, Nat.cast_ofNat]
  rw [mul_div_assoc, h]

theorem Dyadic.ratio_pos (d : Dyadic) : 0 < d.ratio.2 := Nat.two_pow_pos _

/-- Numerator and denominator of a decimal. -/
theorem Decimal.ratio_value (d : Decimal) : (d.ratio.1 : ℚ) / d.ratio.2 = d.value := by
  have h := zpow_pos_part (show (10 : ℚ) ≠ 0 by norm_num) d.exponent
  simp only [ratio, value, Nat.pow_eq, Nat.cast_mul, Nat.cast_pow, Nat.cast_ofNat]
  rw [mul_div_assoc, h]

theorem Decimal.ratio_pos (d : Decimal) : 0 < d.ratio.2 := Nat.pow_pos (by decide)

/-! ## Rounding a ratio -/

/-- A natural is a half away at most. -/
theorem roundRatio_bounds (num : Nat) {den : Nat} (h : 0 < den) :
    2 * num ≤ (2 * roundRatio num den + 1) * den ∧ 2 * roundRatio num den * den ≤ 2 * num + den := by
  have hdiv := Nat.div_add_mod' num den
  have hmod := Nat.mod_lt num h
  -- What matters of the outcome `m` is how many denominators it is away from the quotient.
  have key : ∀ m : Nat, (m = num / den ∧ 2 * (num % den) ≤ den) ∨ (m = num / den + 1 ∧ den ≤ 2 * (num % den)) →
      2 * num ≤ (2 * m + 1) * den ∧ 2 * m * den ≤ 2 * num + den := by
    rintro m (⟨rfl, hr⟩ | ⟨rfl, hr⟩)
    · simp only [Nat.add_mul, Nat.mul_assoc]
      omega
    · simp only [Nat.add_mul, Nat.mul_add, Nat.mul_assoc]
      omega
  refine key _ ?_
  unfold roundRatio
  simp only
  split
  · exact .inl ⟨rfl, by omega⟩
  · split
    · exact .inr ⟨rfl, by omega⟩
    · rcases Nat.mod_two_eq_zero_or_one (num / den) with h0 | h1
      · exact .inl ⟨by rw [h0, Nat.add_zero], by omega⟩
      · exact .inr ⟨by rw [h1], by omega⟩

theorem scaled_pos {num den : Nat} (h : 0 < den) (e : Int) : 0 < (scaled num den e).2 :=
  Nat.mul_pos h (Nat.two_pow_pos _)

theorem scaled_value (num den : Nat) (e : Int) :
    ((scaled num den e).1 : ℚ) / (scaled num den e).2 = num / den / 2 ^ e := by
  have h := zpow_pos_part (two_ne_zero' ℚ) e
  have hne : (2 : ℚ) ^ (-e).toNat ≠ 0 := by positivity
  simp only [scaled, Nat.pow_eq, Nat.cast_mul, Nat.cast_pow, Nat.cast_ofNat]
  rw [← h]
  field_simp

/-- A scaled ratio against the natural it is rounded to. -/
theorem roundRatio_scaled {num den : Nat} (h : 0 < den) (e : Int) :
    (num / den : ℚ) ≤ (roundRatio (scaled num den e).1 (scaled num den e).2 + 1 / 2) * 2 ^ e ∧
      roundRatio (scaled num den e).1 (scaled num den e).2 * 2 ^ e ≤ (num / den : ℚ) + 2 ^ e / 2 := by
  have hpos : (0 : ℚ) < (scaled num den e).2 := by exact_mod_cast scaled_pos h e
  have htwo : (0 : ℚ) < 2 ^ e := by positivity
  have hvalue : (num / den : ℚ) = (scaled num den e).1 / (scaled num den e).2 * 2 ^ e := by
    rw [scaled_value, div_mul_cancel₀ _ htwo.ne']
  obtain ⟨hle, hge⟩ := roundRatio_bounds (scaled num den e).1 (scaled_pos h e)
  generalize roundRatio (scaled num den e).1 (scaled num den e).2 = m at hle hge ⊢
  have hle' : ((scaled num den e).1 : ℚ) / (scaled num den e).2 ≤ m + 1 / 2 := by
    rw [div_le_iff₀ hpos]
    have hcast : (2 * (scaled num den e).1 : ℚ) ≤ (2 * m + 1) * (scaled num den e).2 := by exact_mod_cast hle
    linarith
  have hge' : (m : ℚ) ≤ (scaled num den e).1 / (scaled num den e).2 + 1 / 2 := by
    rw [← sub_le_iff_le_add, le_div_iff₀ hpos]
    have hcast : (2 * m * (scaled num den e).2 : ℚ) ≤ 2 * (scaled num den e).1 + (scaled num den e).2 := by
      exact_mod_cast hge
    linarith
  rw [hvalue]
  constructor
  · gcongr
  · calc (m : ℚ) * 2 ^ e ≤ ((scaled num den e).1 / (scaled num den e).2 + 1 / 2) * 2 ^ e := by gcongr
      _ = (scaled num den e).1 / (scaled num den e).2 * 2 ^ e + 2 ^ e / 2 := by ring

/-! ## The exponent of a ratio -/

theorem two_zpow_log2_le {n : Nat} (h : n ≠ 0) : (2 : ℚ) ^ (n.log2 : ℤ) ≤ n := by
  rw [zpow_natCast]
  exact_mod_cast Nat.log2_self_le h

theorem lt_two_zpow_log2 (n : Nat) : (n : ℚ) < 2 ^ ((n.log2 : ℤ) + 1) := by
  have h : n < 2 ^ (n.log2 + 1) := Nat.lt_log2_self
  rw [show ((n.log2 : ℤ) + 1) = ((n.log2 + 1 : ℕ) : ℤ) by push_cast; rfl, zpow_natCast]
  exact_mod_cast h

variable {F : Format} {num den : Nat}

/-- The logarithms of numerator and denominator bound the ratio. -/
theorem ratio_log2 (hn : num ≠ 0) (hd : 0 < den) :
    (2 : ℚ) ^ ((num.log2 : ℤ) - den.log2 - 1) ≤ num / den ∧ (num / den : ℚ) < 2 ^ ((num.log2 : ℤ) - den.log2 + 1) := by
  have hden : (0 : ℚ) < den := by exact_mod_cast hd
  have h2 : (2 : ℚ) ≠ 0 := two_ne_zero
  constructor
  · rw [le_div_iff₀ hden]
    calc (2 : ℚ) ^ ((num.log2 : ℤ) - den.log2 - 1) * den
        ≤ 2 ^ ((num.log2 : ℤ) - den.log2 - 1) * 2 ^ ((den.log2 : ℤ) + 1) := by
          gcongr
          exact (lt_two_zpow_log2 den).le
      _ = 2 ^ (num.log2 : ℤ) := by
          rw [← zpow_add₀ h2]
          congr 1
          ring
      _ ≤ num := two_zpow_log2_le hn
  · rw [div_lt_iff₀ hden]
    calc (num : ℚ) < 2 ^ ((num.log2 : ℤ) + 1) := lt_two_zpow_log2 num
      _ = 2 ^ ((num.log2 : ℤ) - den.log2 + 1) * 2 ^ (den.log2 : ℤ) := by
          rw [← zpow_add₀ h2]
          congr 1
          ring
      _ ≤ 2 ^ ((num.log2 : ℤ) - den.log2 + 1) * den := by
          gcongr
          exact two_zpow_log2_le hd.ne'

/-- Whether a scaled ratio fits the mantissa, said of the ratio. -/
theorem scaled_div_lt (num : Nat) (hd : 0 < den) (e : Int) (p : Nat) :
    (scaled num den e).1 / (scaled num den e).2 < Nat.pow 2 p ↔ (num / den : ℚ) < 2 ^ ((p : ℤ) + e) := by
  have hpos : (0 : ℚ) < (scaled num den e).2 := by exact_mod_cast scaled_pos hd e
  have htwo : (0 : ℚ) < 2 ^ e := by positivity
  rw [Nat.div_lt_iff_lt_mul (scaled_pos hd e), zpow_add₀ two_ne_zero, zpow_natCast, ← div_lt_iff₀ htwo, ← scaled_value,
    div_lt_iff₀ hpos, Nat.pow_eq]
  exact_mod_cast Iff.rfl

/-- The exponent before it is raised to the least one. -/
def freeExponent (F : Format) (num den : Nat) : Int :=
  let low : Int := (num.log2 : Int) - den.log2 - F.precision
  if (scaled num den low).1 / (scaled num den low).2 < Nat.pow 2 F.precision then low else low + 1

theorem exponentOf_eq (F : Format) (num den : Nat) : F.exponentOf num den = max (freeExponent F num den) F.least := rfl

/-- At its own exponent a ratio fills the mantissa. -/
theorem freeExponent_bounds (F : Format) (hn : num ≠ 0) (hd : 0 < den) :
    (2 : ℚ) ^ ((F.precision : ℤ) - 1 + freeExponent F num den) ≤ num / den ∧
      (num / den : ℚ) < 2 ^ ((F.precision : ℤ) + freeExponent F num den) := by
  obtain ⟨hlow, hhigh⟩ := ratio_log2 hn hd
  unfold freeExponent
  simp only
  have hp : (num.log2 : ℤ) - den.log2 = F.precision + ((num.log2 : ℤ) - den.log2 - F.precision) := by ring
  rw [hp] at hlow hhigh
  generalize (num.log2 : ℤ) - den.log2 - F.precision = low at hlow hhigh ⊢
  have hfit := scaled_div_lt num hd low F.precision
  split
  · next h =>
    rw [show (F.precision : ℤ) - 1 + low = F.precision + low - 1 by ring]
    exact ⟨hlow, hfit.1 h⟩
  · next h =>
    rw [show (F.precision : ℤ) - 1 + (low + 1) = F.precision + low by ring, ← add_assoc]
    exact ⟨le_of_not_gt (mt hfit.2 h), hhigh⟩

theorem le_ratio_exponentOf (hn : num ≠ 0) (hd : 0 < den) (h : F.least < F.exponentOf num den) :
    (2 : ℚ) ^ ((F.precision : ℤ) - 1 + F.exponentOf num den) ≤ num / den := by
  have hfree : F.exponentOf num den = freeExponent F num den := by
    rw [exponentOf_eq] at h ⊢
    omega
  rw [hfree]
  exact (freeExponent_bounds F hn hd).1

/-! ## The outcome of rounding -/

/-- The mantissa before a carry. -/
def roundedMantissa (F : Format) (num den : Nat) : Nat :=
  roundRatio (scaled num den (F.exponentOf num den)).1 (scaled num den (F.exponentOf num den)).2

/-- A mantissa that has grown by a bit is halved. -/
theorem round_eq (F : Format) (hn : num ≠ 0) (den : Nat) :
    F.round num den = if roundedMantissa F num den = 2 ^ F.precision
      then ⟨2 ^ (F.precision - 1), F.exponentOf num den + 1⟩
      else ⟨roundedMantissa F num den, F.exponentOf num den⟩ := by
  rw [Format.round, if_neg hn]
  rfl

theorem roundedMantissa_bounds (F : Format) (num : Nat) (hd : 0 < den) :
    (num / den : ℚ) ≤ (roundedMantissa F num den + 1 / 2) * 2 ^ F.exponentOf num den ∧
      roundedMantissa F num den * 2 ^ F.exponentOf num den ≤ (num / den : ℚ) + 2 ^ F.exponentOf num den / 2 :=
  roundRatio_scaled hd (F.exponentOf num den)

theorem two_pow_pred {p : Nat} (hp : 0 < p) : (2 : ℚ) ^ p = 2 ^ (p - 1) * 2 := by
  rw [← pow_succ, Nat.sub_add_cancel hp]

/-- The value that is rounded to, by the mantissa before a carry. -/
theorem value_round (hp : 0 < F.precision) (hn : num ≠ 0) (den : Nat) :
    (F.round num den).value = roundedMantissa F num den * 2 ^ F.exponentOf num den := by
  rw [round_eq F hn]
  split
  · next h =>
    rw [h]
    simp only [Dyadic.value, Nat.cast_pow, Nat.cast_ofNat]
    rw [zpow_add_one₀ two_ne_zero, two_pow_pred hp]
    ring
  · rfl

/-- **A ratio is at most half a unit above what it is rounded to.** -/
theorem le_round (hp : 0 < F.precision) (hd : 0 < den) :
    (num / den : ℚ) ≤ ((F.round num den).mantissa + 1 / 2) * 2 ^ (F.round num den).exponent := by
  rcases Nat.eq_zero_or_pos num with rfl | hpos
  · rw [Nat.cast_zero, zero_div]
    positivity
  · have hle := (roundedMantissa_bounds F num hd).1
    rw [round_eq F hpos.ne']
    split
    · next h =>
      have htwo : (0 : ℚ) < 2 ^ F.exponentOf num den := by positivity
      rw [h, Nat.cast_pow, Nat.cast_ofNat, two_pow_pred hp] at hle
      rw [Nat.cast_pow, Nat.cast_ofNat, zpow_add_one₀ two_ne_zero]
      nlinarith
    · exact hle

/-- A ratio that is not among the least numbers grows by less than its share of half a unit. -/
theorem value_round_le (hp : 0 < F.precision) (hd : 0 < den)
    (h : (2 : ℚ) ^ ((F.precision : ℤ) - 1 + F.least) ≤ num / den) :
    (F.round num den).value ≤ num / den * (1 + 2 ^ (-(F.precision : ℤ))) := by
  have hn : num ≠ 0 := by
    rintro rfl
    rw [Nat.cast_zero, zero_div] at h
    exact absurd h (not_le_of_gt (by positivity))
  have hunit : (2 : ℚ) ^ ((F.precision : ℤ) - 1 + F.exponentOf num den) ≤ num / den := by
    rcases eq_or_lt_of_le (show F.least ≤ F.exponentOf num den from by rw [exponentOf_eq]; omega) with he | he
    · rwa [← he]
    · exact le_ratio_exponentOf hn hd he
  rw [value_round hp hn]
  calc (roundedMantissa F num den * 2 ^ F.exponentOf num den : ℚ)
      ≤ num / den + 2 ^ F.exponentOf num den / 2 := (roundedMantissa_bounds F num hd).2
    _ = num / den + 2 ^ ((F.precision : ℤ) - 1 + F.exponentOf num den) * 2 ^ (-(F.precision : ℤ)) := by
        rw [← zpow_add₀ two_ne_zero, show (F.precision : ℤ) - 1 + F.exponentOf num den + -F.precision =
          F.exponentOf num den - 1 by ring, zpow_sub_one₀ two_ne_zero, div_eq_mul_inv (2 ^ F.exponentOf num den : ℚ)]
    _ ≤ num / den + num / den * 2 ^ (-(F.precision : ℤ)) := by gcongr
    _ = num / den * (1 + 2 ^ (-(F.precision : ℤ))) := by ring

/-- **A ratio below the midpoint behind the greatest number does not exceed the format.** -/
theorem exceeds_round (hg : F.least ≤ F.greatest) (hd : 0 < den)
    (h : (num / den : ℚ) < (2 ^ F.precision - 1 / 2) * 2 ^ F.greatest) : F.exceeds (F.round num den) = false := by
  have hgoal : ∀ d : Dyadic, d.exponent ≤ F.greatest → F.exceeds d = false := by
    intro d hd
    simpa [Format.exceeds] using hd
  rcases Nat.eq_zero_or_pos num with rfl | hpos
  · exact hgoal _ (by simpa [Format.round] using hg)
  have hn := hpos.ne'
  have htwo : (0 : ℚ) < 2 ^ F.greatest := by positivity
  have hle : F.exponentOf num den ≤ F.greatest := by
    by_contra hlt
    have hbelow := le_ratio_exponentOf hn hd (show F.least < F.exponentOf num den by omega)
    have hmono : (2 : ℚ) ^ ((F.precision : ℤ) + F.greatest) ≤ 2 ^ ((F.precision : ℤ) - 1 + F.exponentOf num den) :=
      zpow_le_zpow_right₀ one_le_two (by omega)
    rw [zpow_add₀ two_ne_zero, zpow_natCast] at hmono
    nlinarith
  refine hgoal _ ?_
  rw [round_eq F hn]
  split
  · next hcarry =>
    rcases eq_or_lt_of_le hle with he | he
    · -- At the greatest exponent the mantissa would have to be rounded up from below the midpoint.
      have hupper := (roundedMantissa_bounds F num hd).2
      rw [hcarry, he, Nat.cast_pow, Nat.cast_ofNat] at hupper
      nlinarith
    · exact he
  · exact hle

end SnippetAudit.Number
