import SnippetAudit.Proofs.Json.Numeral
import SnippetAudit.Proofs.Number.Rounding

/-!
# Printed doubles stay in range

The digits of a number are multiplied by a power of ten with two roundings (`scaledByTens?`), so a numeral close to the
greatest double might be read as too large. It is not: what the shortest decimal of a double denotes, grown by both
roundings, stays below the midpoint behind the greatest double (`scaledByTens?_isSome`), except for three doubles, which
are tried out. So every finite double is printed as a numeral that is read as a number again (`number?_numeralOf`).
-/

namespace SnippetAudit

open Number (Decimal double digitValue ofDigits ofDigits_cons)

namespace Json

/-! ## Scaling by a power of ten -/

/-- What two roundings to a double may add. -/
def growth : ℚ := (1 + 2 ^ (-53 : ℤ)) * (1 + 2 ^ (-53 : ℤ))

/-- The midpoint behind the greatest double. -/
def ceiling : ℚ := (2 ^ 53 - 1 / 2) * 2 ^ (971 : ℤ)

/-- A natural grows by its share of half a unit. -/
theorem value_round_natural {n : Nat} (h : n ≠ 0) : (double.round n 1).value ≤ n * (1 + 2 ^ (-53 : ℤ)) := by
  have hone : (1 : ℚ) ≤ (n : ℚ) / (1 : Nat) := by
    rw [Nat.cast_one, div_one]
    exact_mod_cast Nat.pos_of_ne_zero h
  have hleast : (2 : ℚ) ^ ((double.precision : ℤ) - 1 + double.least) ≤ 1 :=
    zpow_le_one_of_nonpos₀ one_le_two (by decide)
  have hvalue := Number.value_round_le (F := double) (by decide) Nat.one_pos (hleast.trans hone)
  rwa [Nat.cast_one, div_one] at hvalue

theorem value_tenTo (k : Nat) : (tenTo k).value ≤ 10 ^ k * (1 + 2 ^ (-53 : ℤ)) := by
  have h := value_round_natural (n := 10 ^ k) (Nat.pow_pos (by decide)).ne'
  rwa [Nat.cast_pow, Nat.cast_ofNat] at h

/-- **A product below the ceiling, also when it has grown, is a double.** -/
theorem scaledByTens?_isSome {s : Nat} {e : Int} (he : e ≤ 308) (h : (s * 10 ^ e : ℚ) * growth < ceiling) :
    (scaledByTens? s e).isSome = true := by
  unfold scaledByTens?
  simp only
  split
  · rfl
  next hneg =>
  split
  · rfl
  next hs =>
  have hs0 : s ≠ 0 := by
    rintro rfl
    exact hs rfl
  obtain ⟨k, rfl⟩ := Int.eq_ofNat_of_zero_le (not_lt.1 hneg)
  rw [Int.toNat_natCast]
  have hratio : (((double.round s 1).ratio.1 * (tenTo k).ratio.1 : Nat) : ℚ) /
      ((double.round s 1).ratio.2 * (tenTo k).ratio.2 : Nat) = (double.round s 1).value * (tenTo k).value := by
    rw [Nat.cast_mul, Nat.cast_mul, mul_div_mul_comm, Number.Dyadic.ratio_value, Number.Dyadic.ratio_value]
  have hbelow : (double.round s 1).value * (tenTo k).value < ceiling := by
    have h0 : 0 ≤ (tenTo k).value := by
      unfold Number.Dyadic.value
      positivity
    refine lt_of_le_of_lt ?_ h
    calc (double.round s 1).value * (tenTo k).value
        ≤ (s * (1 + 2 ^ (-53 : ℤ))) * (10 ^ k * (1 + 2 ^ (-53 : ℤ))) := by
          gcongr
          · exact value_round_natural hs0
          · exact value_tenTo k
      _ = (s * 10 ^ (k : ℤ) : ℚ) * growth := by
        rw [growth, zpow_natCast]
        ring
  have hfits : double.exceeds ((double.round s 1).mul double (tenTo k)) = false := by
    refine Number.exceeds_round (by decide) (Nat.mul_pos (Number.Dyadic.ratio_pos _) (Number.Dyadic.ratio_pos _)) ?_
    rw [hratio]
    exact hbelow
  rw [hfits]
  rfl

/-! ## Gathering digits -/

/-- What is gathered, with the digits that are left over as zeros, is at most what the digits denote. -/
theorem gather_le : ∀ (s : Nat) (ds : List Char),
    (gather s ds).1 * 10 ^ (gather s ds).2 ≤ s * 10 ^ ds.length + ofDigits ds ∧ (gather s ds).2 ≤ ds.length
  | s, [] => by simp [gather]
  | s, d :: ds => by
    unfold gather
    simp only
    split
    · obtain ⟨hle, hlen⟩ := gather_le (10 * s + digitValue d) ds
      refine ⟨hle.trans (le_of_eq ?_), hlen.trans (Nat.le_succ _)⟩
      rw [ofDigits_cons, List.length_cons, pow_succ]
      ring
    · exact ⟨Nat.le_add_right _ _, le_rfl⟩

theorem gather_lt : ∀ {s : Nat}, s < UInt64.size → ∀ ds : List Char, (gather s ds).1 < UInt64.size
  | _, h, [] => h
  | s, h, d :: ds => by
    unfold gather
    simp only
    split
    · next hnext => exact gather_lt hnext ds
    · exact h

namespace Numeral

/-- A numeral without an exponent and with few digits before the point is a double. -/
theorem real?_isSome_of_short {n : Numeral} (he : n.exponent = none) (hw : n.whole.length ≤ 16) :
    n.real?.isSome = true := by
  have hwhole := gather_le 0 n.whole
  have hlt := gather_lt (gather_lt (by decide : 0 < UInt64.size) n.whole) n.fraction
  unfold real?
  simp only [he]
  generalize gather (gather 0 n.whole).1 n.fraction = g at hlt ⊢
  generalize (gather 0 n.whole).2 = extra at hwhole ⊢
  have hplaces : (extra : Int) - (n.fraction.length - g.2 : Nat) ≤ 16 := by omega
  generalize (extra : Int) - (n.fraction.length - g.2 : Nat) = places at hplaces ⊢
  refine scaledByTens?_isSome (by omega) ?_
  have hsize : (g.1 : ℚ) ≤ 2 ^ 64 := by exact_mod_cast hlt.le
  have hpower : (10 : ℚ) ^ places ≤ 10 ^ (16 : ℤ) := zpow_le_zpow_right₀ (by norm_num) hplaces
  have hgrowth : 0 < growth := by
    unfold growth
    positivity
  calc (g.1 * 10 ^ places : ℚ) * growth ≤ 2 ^ 64 * 10 ^ (16 : ℤ) * growth := by gcongr
    _ < (2 ^ 53 - 1 / 2) * 2 ^ (200 : ℤ) := by norm_num [growth]
    _ ≤ ceiling := by
        unfold ceiling
        gcongr <;> norm_num

/-- A numeral with a point or an exponent denotes a double. -/
theorem number?_of_real {n : Numeral} (h : n.fraction ≠ [] ∨ n.exponent ≠ none) (hr : n.real?.isSome = true) :
    ∃ x, n.number? = some (.real x) := by
  obtain ⟨d, hd⟩ := Option.isSome_iff_exists.1 hr
  refine ⟨Number.Binary.toFloat (.finite n.negative d), ?_⟩
  unfold number?
  simp only
  rw [if_neg, hd]
  · rfl
  · rcases h with h | h
    · simp [h]
    · simp [h]

end Numeral
end Json

/-! ## The value of a shortest decimal -/

namespace Number.Decimal

variable {d : Decimal}

theorem value_nonneg (d : Decimal) : 0 ≤ d.value := by
  unfold value
  positivity

theorem value_dropZeros : ∀ (fuel : Nat) (d : Decimal), (d.dropZeros fuel).value = d.value
  | 0, _ => rfl
  | fuel + 1, d => by
    rw [dropZeros]
    split
    · next h =>
      have hten : (d.coefficient : ℚ) = (d.coefficient / 10 : Nat) * 10 := by
        exact_mod_cast (Nat.div_mul_cancel (Nat.dvd_of_mod_eq_zero h.2)).symm
      rw [value_dropZeros fuel]
      simp only [value]
      rw [hten, zpow_add_one₀ (by norm_num)]
      ring
    · rfl

theorem value_ofDyadic (m : Dyadic) : (ofDyadic m).value = m.value := by
  obtain ⟨m, e⟩ := m
  simp only [value, ofDyadic, Dyadic.value, Nat.pow_eq, Nat.cast_mul, Nat.cast_pow, Nat.cast_ofNat]
  rcases Int.le_total 0 e with h | h
  · obtain ⟨k, rfl⟩ := Int.eq_ofNat_of_zero_le h
    simp
  · obtain ⟨k, hk⟩ := Int.eq_ofNat_of_zero_le (Int.neg_nonneg_of_nonpos h)
    have he : e = -(k : ℤ) := by omega
    subst he
    have h10 : (10 : ℚ) = 2 * 5 := by norm_num
    simp only [neg_neg, Int.toNat_natCast, Int.toNat_neg_natCast, pow_zero, mul_one, zpow_neg, zpow_natCast,
      min_eq_left (show -(k : ℤ) ≤ 0 by omega), h10, mul_pow]
    field_simp

/-- **A shortest decimal is at most half a unit above its goal.** -/
theorem value_shortest_le {F : Format} (hp : 0 < F.precision) (goal : Dyadic) :
    (shortest F goal).value ≤ (goal.mantissa + 1 / 2) * 2 ^ goal.exponent := by
  have htwo : (0 : ℚ) < 2 ^ goal.exponent := by positivity
  rw [shortest, value_dropZeros]
  rcases shortenFrom_cases F goal (ofDyadic goal) ((ofDyadic goal).digits.length - 1) with h | h
  · rw [h, value_ofDyadic, Dyadic.value]
    gcongr
    linarith
  · generalize shortenFrom F goal (ofDyadic goal) ((ofDyadic goal).digits.length - 1) = d at h ⊢
    have hround : F.round d.ratio.1 d.ratio.2 = goal := h
    have hle : (d.ratio.1 / d.ratio.2 : ℚ) ≤ ((F.round d.ratio.1 d.ratio.2).mantissa + 1 / 2) *
        2 ^ (F.round d.ratio.1 d.ratio.2).exponent := le_round hp d.ratio_pos
    rwa [ratio_value, hround] at hle

/-- The first digit of a decimal bounds it from below. -/
theorem pow_magnitude_le (h : d.coefficient ≠ 0) : (10 : ℚ) ^ d.magnitude ≤ d.value := by
  have hlen : 0 < d.digits.length := List.length_pos_of_ne_nil d.digits_digits.1
  have hlow : 10 ^ (d.digits.length - 1) ≤ d.coefficient := pow_le_of_length h (Nat.sub_lt hlen Nat.one_pos)
  have hcast : (10 : ℚ) ^ (d.digits.length - 1) ≤ d.coefficient := by exact_mod_cast hlow
  have hexp : d.magnitude = ((d.digits.length - 1 : Nat) : ℤ) + d.exponent := by
    rw [magnitude, Nat.cast_sub hlen]
    push_cast
    ring
  rw [hexp, zpow_add₀ (by norm_num), zpow_natCast, value]
  gcongr

end Number.Decimal

namespace Json

theorem ceiling_lt : ceiling < 10 ^ (309 : ℤ) := by
  have hsplit : (2 : ℚ) ^ 53 * 2 ^ (971 : ℤ) = (2 ^ 93) ^ 11 * 2 := by
    rw [← pow_mul, ← pow_succ, ← zpow_natCast, ← zpow_natCast, ← zpow_add₀ two_ne_zero]
    congr 1
  have hjoin : ((10 : ℚ) ^ 28) ^ 11 * 10 = 10 ^ (309 : ℤ) := by
    rw [← pow_mul, ← pow_succ, ← zpow_natCast]
    congr 1
  have hpos : (0 : ℚ) < 2 ^ (971 : ℤ) := by positivity
  calc ceiling < 2 ^ 53 * 2 ^ (971 : ℤ) := by
        unfold ceiling
        gcongr
        norm_num
    _ = (2 ^ 93) ^ 11 * 2 := hsplit
    _ ≤ (10 ^ 28) ^ 11 * 10 := by
        gcongr
        · norm_num
        · norm_num
    _ = 10 ^ (309 : ℤ) := hjoin

theorem one_le_growth : 1 ≤ growth := by norm_num [growth]

theorem gather_digit {c : Char} (h : c.isDigit = true) : gather 0 [c] = (digitValue c, 0) := by
  have hc : c.toNat ≤ 57 := by
    simp only [Char.isDigit, Bool.and_eq_true, decide_eq_true_eq] at h
    exact h.2
  have hlt : digitValue c < UInt64.size :=
    Nat.lt_of_le_of_lt (Nat.sub_le_of_le_add (Nat.le_add_right_of_le hc)) (by decide)
  simp [gather, hlt]

/-- A numeral with an exponent is a double when the decimal it was printed from stays below the ceiling. -/
theorem Numeral.real?_isSome_of_decimal {d : Decimal} (h : d.coefficient ≠ 0) (hv : d.value * growth < ceiling)
    (negative : Bool) :
    (Numeral.mk negative (d.digits.take 1) (d.digits.drop 1) (some d.magnitude)).real?.isSome = true := by
  obtain ⟨c, cs, hds⟩ := List.exists_cons_of_ne_nil d.digits_digits.1
  have hc := gather_digit (d.digits_digits.2 c (hds ▸ List.mem_cons_self))
  have hdigits : ofDigits (c :: cs) = d.coefficient := by
    rw [← hds]
    exact Number.ofDigits_toDigits d.coefficient
  obtain ⟨hle, hlen⟩ := gather_le (digitValue c) cs
  rw [mul_comm (digitValue c), ← ofDigits_cons, hdigits] at hle
  have hmag : d.magnitude < 309 := by
    have hvalue : d.value ≤ d.value * growth := le_mul_of_one_le_right d.value_nonneg one_le_growth
    have hpow := (Number.Decimal.pow_magnitude_le h).trans_lt ((hvalue.trans_lt hv).trans ceiling_lt)
    exact (zpow_lt_zpow_iff_right₀ (by norm_num)).1 hpow
  have hexp : d.magnitude = d.exponent + cs.length := by
    rw [Decimal.magnitude, hds, List.length_cons]
    push_cast
    ring
  unfold Numeral.real?
  simp only [hds, List.take_succ_cons, List.take_zero, List.drop_succ_cons, List.drop_zero, hc]
  generalize gather (digitValue c) cs = g at hle hlen ⊢
  split
  · refine scaledByTens?_isSome (by omega) (lt_of_le_of_lt ?_ hv)
    have hgrowth := one_le_growth
    have hplaces : ((0 : Nat) : ℤ) - (cs.length - g.2 : Nat) + d.magnitude = g.2 + d.exponent := by omega
    have hcast : (g.1 * 10 ^ g.2 : ℚ) ≤ d.coefficient := by exact_mod_cast hle
    rw [hplaces, zpow_add₀ (by norm_num), zpow_natCast, ← mul_assoc, Decimal.value]
    gcongr
  · next hlimit =>
    have hfar : ¬(g.1 ≠ 0 ∧ 0 < d.magnitude) := by
      rintro ⟨-, hpos⟩
      rw [exponentLimit] at hlimit
      omega
    rw [if_neg hfar]
    rfl

/-! ## Printed doubles -/

/-- But for the last three, the doubles stay below the ceiling, grown and half a unit up. -/
theorem growth_lt {m : Nat} {e : Int} (hm : m < 2 ^ 53) (he : e ≤ 971) (htop : e < 971 ∨ m + 4 ≤ 2 ^ 53) :
    ((m + 1 / 2) * 2 ^ e : ℚ) * growth < ceiling := by
  have hpos : (0 : ℚ) < 2 ^ (971 : ℤ) := by positivity
  have hvalue : ((m + 1 / 2) * 2 ^ e : ℚ) ≤ (2 ^ 53 - 7 / 2) * 2 ^ (971 : ℤ) := by
    rcases htop with htop | htop
    · have hhalf : (2 : ℚ) ^ e ≤ 2 ^ (971 : ℤ) / 2 := by
        rw [div_eq_mul_inv, ← zpow_sub_one₀ two_ne_zero]
        exact zpow_le_zpow_right₀ one_le_two (by omega)
      have hcast : (m + 1 : ℚ) ≤ 2 ^ 53 := by exact_mod_cast hm
      generalize (2 : ℚ) ^ (971 : ℤ) = p at hpos hhalf ⊢
      nlinarith [zpow_pos (show (0 : ℚ) < 2 by norm_num) e]
    · have hle : (2 : ℚ) ^ e ≤ 2 ^ (971 : ℤ) := zpow_le_zpow_right₀ one_le_two he
      have hcast : (m + 4 : ℚ) ≤ 2 ^ 53 := by exact_mod_cast htop
      generalize (2 : ℚ) ^ (971 : ℤ) = p at hpos hle ⊢
      nlinarith [zpow_pos (show (0 : ℚ) < 2 by norm_num) e]
  have hgrowth : (2 ^ 53 - 7 / 2 : ℚ) * growth < 2 ^ 53 - 1 / 2 := by norm_num [growth]
  have hone := one_le_growth
  rw [ceiling]
  generalize (2 : ℚ) ^ (971 : ℤ) = p at hpos hvalue ⊢
  calc ((m + 1 / 2) * 2 ^ e : ℚ) * growth ≤ (2 ^ 53 - 7 / 2) * p * growth := by gcongr
    _ = (2 ^ 53 - 7 / 2) * growth * p := by ring
    _ < (2 ^ 53 - 1 / 2) * p := by gcongr

/-- The three greatest doubles are read as numbers. -/
theorem real?_top (negative : Bool) {m : Nat} (h : m < 2 ^ 53) (h' : 2 ^ 53 < m + 4) :
    ((Num.numeralOf double negative ⟨m, 971⟩).real?).isSome = true := by
  have hm : m = 2 ^ 53 - 1 ∨ m = 2 ^ 53 - 2 ∨ m = 2 ^ 53 - 3 := by omega
  rcases hm with rfl | rfl | rfl <;> cases negative <;> decide +kernel

/-- The numeral of a decimal below the ceiling, in each of its layouts. -/
theorem real?_numeral {d : Decimal} (h : d.coefficient ≠ 0) (hv : d.value * growth < ceiling) (negative : Bool) :
    (d.numeral negative).real?.isSome = true := by
  unfold Decimal.numeral
  simp only
  split
  · next hx =>
    refine Numeral.real?_isSome_of_short rfl ?_
    rw [List.length_append, List.length_take, List.length_replicate]
    omega
  · split
    · exact Numeral.real?_isSome_of_short rfl (by simp)
    · exact Numeral.real?_isSome_of_decimal h hv negative

/-- The numeral of a decimal is never that of an integer. -/
theorem pointed_numeral (d : Decimal) (negative : Bool) :
    (d.numeral negative).fraction ≠ [] ∨ (d.numeral negative).exponent ≠ none := by
  unfold Decimal.numeral
  simp only
  split
  · exact .inl (Decimal.digits_orZero fun c hc => d.digits_digits.2 c (List.mem_of_mem_drop hc)).1
  · split
    · exact .inl (List.append_ne_nil_of_right_ne_nil _ d.digits_digits.1)
    · exact .inr (Option.some_ne_none _)

/-- **Every finite double is printed as a numeral that is read as a double.** -/
theorem number?_numeralOf (negative : Bool) {d : Number.Dyadic} (hm : d.mantissa < 2 ^ 53) (he : d.exponent ≤ 971) :
    ∃ x, (Num.numeralOf double negative d).number? = some (.real x) := by
  by_cases h0 : d.mantissa = 0
  · refine Numeral.number?_of_real ?_ ?_
    · rw [Num.numeralOf, if_pos h0]
      exact .inl (List.cons_ne_nil _ _)
    · rw [Num.numeralOf, if_pos h0]
      exact Numeral.real?_isSome_of_short rfl (by simp)
  · refine Numeral.number?_of_real ?_ ?_
    · rw [Num.numeralOf, if_neg h0]
      exact pointed_numeral _ negative
    · by_cases htop : d.exponent < 971 ∨ d.mantissa + 4 ≤ 2 ^ 53
      · rw [Num.numeralOf, if_neg h0]
        refine real?_numeral (Decimal.shortest_ne_zero h0) (lt_of_le_of_lt ?_ (growth_lt hm he htop)) negative
        have hgrowth := one_le_growth
        have hle := Decimal.value_shortest_le (F := double) (by decide) d
        gcongr
      · have hlast : d = ⟨d.mantissa, 971⟩ := by rw [← show d.exponent = 971 by omega]
        rw [hlast]
        exact real?_top negative hm (by omega)

end Json
end SnippetAudit
