import Mathlib.Algebra.Group.Nat.Defs
import SnippetAudit.Number.Shortest
import SnippetAudit.Number.Reader

/-!
# Decimal digits

* `ofDigits` undoes `Nat.toDigits` (`ofDigits_toDigits`), and zeros in front do not count (`ofDigits_padding`).
* A number that is not zero starts with another digit (`head?_toDigits`), so its digits bound it from below
  (`pow_le_of_length`).
-/

namespace SnippetAudit.Number

theorem ofDigits_eq (ds : List Char) : ofDigits ds = Nat.ofDigitChars 10 ds 0 := rfl

@[simp] theorem ofDigits_toDigits (n : Nat) : ofDigits (Nat.toDigits 10 n) = n := Nat.ofDigitChars_ten_toDigits

theorem ofDigits_append (ds ds' : List Char) :
    ofDigits (ds ++ ds') = 10 ^ ds'.length * ofDigits ds + ofDigits ds' := by
  rw [ofDigits_eq, Nat.ofDigitChars_append, Nat.ofDigitChars_eq_ofDigitChars_zero]
  rfl

theorem ofDigits_cons (d : Char) (ds : List Char) :
    ofDigits (d :: ds) = 10 ^ ds.length * digitValue d + ofDigits ds := by
  have h := ofDigits_append [d] ds
  simpa [ofDigits] using h

@[simp] theorem ofDigits_zeros (k : Nat) : ofDigits (List.replicate k '0') = 0 := by
  rw [ofDigits_eq, Nat.ofDigitChars_replicate_zero, Nat.mul_zero]

/-- Zeros in front do not count. -/
@[simp] theorem ofDigits_padding (k : Nat) (ds : List Char) : ofDigits (List.replicate k '0' ++ ds) = ofDigits ds := by
  rw [ofDigits_append, ofDigits_zeros, Nat.mul_zero, Nat.zero_add]

theorem isDigit_toDigits {n : Nat} {c : Char} (h : c ∈ Nat.toDigits 10 n) : c.isDigit = true :=
  Nat.isDigit_of_mem_toDigits (by decide) (by decide) h

theorem isDigit_zeros {k : Nat} {c : Char} (h : c ∈ List.replicate k '0') : c.isDigit = true := by
  rw [(List.mem_replicate.1 h).2]
  rfl

/-- A number below a power of ten has at most as many digits. -/
theorem length_toDigits_le {n k : Nat} (hk : 0 < k) (h : n < 10 ^ k) : (Nat.toDigits 10 n).length ≤ k :=
  (Nat.length_toDigits_le_iff (by decide) hk).2 h

/-- A number of more than `k` digits is at least a power of ten. -/
theorem pow_le_of_length {n k : Nat} (hn : n ≠ 0) (h : k < (Nat.toDigits 10 n).length) : 10 ^ k ≤ n := by
  rcases Nat.eq_zero_or_pos k with rfl | hk
  · exact Nat.pos_of_ne_zero hn
  · exact Nat.le_of_not_lt fun hlt => absurd (length_toDigits_le hk hlt) (Nat.not_le_of_lt h)

theorem digitChar_ne_zero {n : Nat} (h : n < 10) (hn : n ≠ 0) : n.digitChar ≠ '0' := by
  have : ∀ m : Fin 10, m.val ≠ 0 → m.val.digitChar ≠ '0' := by decide
  exact this ⟨n, h⟩ hn

/-- A number that is not zero does not start with one. -/
theorem head?_toDigits {n : Nat} (hn : n ≠ 0) : (Nat.toDigits 10 n).head? ≠ some '0' := by
  induction n using Nat.strongRecOn with
  | _ n ih =>
    rw [Nat.toDigits_eq_if (by decide)]
    split
    · next hlt => simpa using digitChar_ne_zero hlt hn
    · next hge =>
      have hdiv : n / 10 ≠ 0 := fun h => hge (Nat.lt_of_div_eq_zero (by decide) h)
      have ih := ih (n / 10) (Nat.div_lt_self (Nat.pos_of_ne_zero hn) (by decide)) hdiv
      obtain ⟨c, r, hr⟩ := List.exists_cons_of_ne_nil (Nat.toDigits_ne_nil (n := n / 10) (b := 10))
      rw [hr] at ih ⊢
      exact ih

end SnippetAudit.Number
