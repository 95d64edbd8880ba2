import Mathlib.Algebra.Group.Nat.Defs
import SnippetAudit.Number.Binary

/-!
# Finite doubles

The exponent field of a double says whether it is finite (`isFinite_iff`), so the exact value of a finite double is a
dyadic in the range of the format (`ofFloat_finite`) and that of another one is none (`ofFloat_not_finite`).
-/

namespace SnippetAudit.Number

open Float.Model (UnpackedFloat)

/-- The field that holds the exponent of a double. -/
def exponentField (x : Float) : Nat := x.toBits.toNat / 2 ^ 52 % 2 ^ 11

theorem toNat_unpackExponent (x : Float) :
    (@UnpackedFloat.unpackExponent .binary64 x.toBits.toBitVec).toNat = exponentField x := by
  simp [UnpackedFloat.unpackExponent, exponentField, BitVec.extractLsb_toNat, Nat.shiftRight_eq_div_pow]

/-- The field that is all ones is that of NaN and the infinities. -/
theorem isFinite_iff (x : Float) : x.isFinite = true ↔ exponentField x ≠ 2047 := by
  have hones : @UnpackedFloat.unpackExponent .binary64 x.toBits.toBitVec = -1#11 ↔ exponentField x = 2047 := by
    rw [← BitVec.toNat_inj, toNat_unpackExponent]
    rfl
  have hmodel : x.isFinite = (UnpackedFloat.unpack .binary64 x.toBits.toBitVec).isFinite := rfl
  rw [hmodel, Ne, ← hones]
  by_cases h : @UnpackedFloat.unpackExponent .binary64 x.toBits.toBitVec = -1#11
  · refine iff_of_false ?_ (not_not_intro h)
    rw [show UnpackedFloat.unpack .binary64 x.toBits.toBitVec = _ from if_pos h]
    split
    · exact Bool.false_ne_true
    · exact Bool.false_ne_true
  · refine iff_of_true ?_ h
    by_cases h0 : @UnpackedFloat.unpackExponent .binary64 x.toBits.toBitVec = 0#11
    · by_cases hm : @UnpackedFloat.unpackMantissa .binary64 x.toBits.toBitVec = 0#52
      · rw [show UnpackedFloat.unpack .binary64 x.toBits.toBitVec = _ from
          (if_neg h).trans ((if_pos h0).trans (dif_pos hm))]
        rfl
      · rw [show UnpackedFloat.unpack .binary64 x.toBits.toBitVec = _ from
          (if_neg h).trans ((if_pos h0).trans (dif_neg hm))]
        rfl
    · rw [show UnpackedFloat.unpack .binary64 x.toBits.toBitVec = _ from (if_neg h).trans (if_neg h0)]
      rfl

theorem ofFloat_eq (x : Float) : ∃ negative, Binary.ofFloat x =
    if exponentField x = 2047 then if x.toBits.toNat % 2 ^ 52 = 0 then .infinite negative else .nan
    else if exponentField x = 0 then .finite negative ⟨x.toBits.toNat % 2 ^ 52, -1074⟩
    else .finite negative ⟨2 ^ 52 + x.toBits.toNat % 2 ^ 52, -1074 + exponentField x - 1⟩ := ⟨_, rfl⟩

/-- **The exact value of a finite double.** -/
theorem ofFloat_finite {x : Float} (h : x.isFinite = true) :
    ∃ negative d, Binary.ofFloat x = .finite negative d ∧ d.mantissa < 2 ^ 53 ∧ d.exponent ≤ 971 := by
  have hfield : exponentField x ≠ 2047 := (isFinite_iff x).1 h
  have hlt : exponentField x < 2 ^ 11 := Nat.mod_lt _ (by decide)
  have hfraction : x.toBits.toNat % 2 ^ 52 < 2 ^ 52 := Nat.mod_lt _ (by decide)
  obtain ⟨negative, heq⟩ := ofFloat_eq x
  rw [heq, if_neg hfield]
  by_cases h0 : exponentField x = 0
  · rw [if_pos h0]
    exact ⟨_, _, rfl, by simp only; omega, by simp⟩
  · rw [if_neg h0]
    exact ⟨_, _, rfl, by simp only; omega, by simp only; omega⟩

/-- A double that is not finite has no value. -/
theorem ofFloat_not_finite {x : Float} (h : x.isFinite = false) :
    Binary.ofFloat x = .nan ∨ ∃ negative, Binary.ofFloat x = .infinite negative := by
  have hfield : exponentField x = 2047 := by
    refine Decidable.byContradiction fun hne => ?_
    rw [(isFinite_iff x).2 hne] at h
    cases h
  obtain ⟨negative, heq⟩ := ofFloat_eq x
  rw [heq, if_pos hfield]
  by_cases h0 : x.toBits.toNat % 2 ^ 52 = 0
  · exact .inr ⟨negative, if_pos h0⟩
  · exact .inl (if_neg h0)

end SnippetAudit.Number
