import SnippetAudit.Number.Binary

/-!
# The shortest decimal that reads back

Every dyadic is a decimal (`Decimal.ofDyadic`). `shortest` looks for the fewest digits of that decimal, rounded to
one of its two neighbours on the shorter grid, that still round to the number they came from; of two such
neighbours the nearer one wins, a tie going to the even one. `shortestText` writes the digits: positionally where
the decimal exponent is from -5 to 15, with a mark and a signed exponent elsewhere, and always with a point or a
mark so that the text is never that of an integer.
-/

namespace SnippetAudit.Number

/-- The number `coefficient · 10 ^ exponent`. -/
structure Decimal where
  coefficient : Nat
  exponent : Int
  deriving DecidableEq, Repr

namespace Decimal

/-- Numerator and denominator. -/
def ratio (d : Decimal) : Nat × Nat :=
  (d.coefficient * Nat.pow 10 d.exponent.toNat, Nat.pow 10 (-d.exponent).toNat)

/-- The nearest number of the format. -/
def round (F : Format) (d : Decimal) : Dyadic := F.round d.ratio.1 d.ratio.2

/-- A dyadic as a decimal, exactly: `2 ^ (-k)` is `5 ^ k · 10 ^ (-k)`. -/
def ofDyadic (d : Dyadic) : Decimal :=
  ⟨d.mantissa * Nat.pow 2 d.exponent.toNat * Nat.pow 5 (-d.exponent).toNat, min d.exponent 0⟩

/-- The decimal digits of the coefficient. -/
def digits (d : Decimal) : List Char := Nat.toDigits 10 d.coefficient

/-- Drops the zeros at the end of the coefficient, at most `fuel` of them. -/
def dropZeros (d : Decimal) : (fuel : Nat) → Decimal
  | 0 => d
  | fuel + 1 =>
    if d.coefficient ≠ 0 ∧ d.coefficient % 10 = 0 then
      dropZeros ⟨d.coefficient / 10, d.exponent + 1⟩ fuel
    else d

/-- The decimal with its last `cut` digits rounded away so that it still rounds to `goal`. -/
def shortened? (F : Format) (goal : Dyadic) (d : Decimal) (cut : Nat) : Option Decimal :=
  let grid := Nat.pow 10 cut
  let low : Decimal := ⟨d.coefficient / grid, d.exponent + cut⟩
  let high : Decimal := ⟨d.coefficient / grid + 1, d.exponent + cut⟩
  let rest := 2 * (d.coefficient % grid)
  let lowFirst := rest < grid ∨ (rest = grid ∧ low.coefficient % 2 = 0)
  let (first, second) := if lowFirst then (low, high) else (high, low)
  if first.round F = goal then some first
  else if second.round F = goal then some second
  else none

/-- Tries to drop `cut` digits, then fewer. -/
def shortenFrom (F : Format) (goal : Dyadic) (d : Decimal) : (cut : Nat) → Decimal
  | 0 => d
  | cut + 1 => (shortened? F goal d (cut + 1)).getD (shortenFrom F goal d cut)

/-- The shortest decimal that rounds to a number of the format. -/
def shortest (F : Format) (goal : Dyadic) : Decimal :=
  let exact := ofDyadic goal
  let d := shortenFrom F goal exact (exact.digits.length - 1)
  d.dropZeros d.digits.length

/-- The power of ten of the first digit. -/
def magnitude (d : Decimal) : Int := d.exponent + (d.digits.length - 1)

/-- Digits with a point after the first `k`; a zero stands where a side would be empty. -/
def pointed (ds : List Char) (k : Nat) : List Char :=
  let whole := ds.take k ++ List.replicate (k - ds.length) '0'
  let fraction := ds.drop k
  (if whole.isEmpty then ['0'] else whole) ++ '.' :: (if fraction.isEmpty then ['0'] else fraction)

/-- The digits of an integer with its sign. -/
def signedDigits (n : Int) : List Char :=
  (if n < 0 then '-' else '+') :: Nat.toDigits 10 n.natAbs

/-- The text of a decimal without trailing zeros. -/
def text (d : Decimal) : List Char :=
  let x := d.magnitude
  if 0 ≤ x ∧ x < 16 then pointed d.digits (x.toNat + 1)
  else if -5 ≤ x ∧ x < 0 then '0' :: '.' :: (List.replicate (-x - 1).toNat '0' ++ d.digits)
  else
    let mantissa := match d.digits with
      | [c] => [c]
      | c :: cs => c :: '.' :: cs
      | [] => ['0']
    mantissa ++ 'e' :: signedDigits x

end Decimal

/-- The shortest text of a finite value; NaN and the infinities have none. -/
def shortestText (F : Format) : Binary → Option (List Char)
  | .nan => none
  | .infinite _ => none
  | .finite negative d =>
    let body := if d.mantissa = 0 then ['0', '.', '0'] else (Decimal.shortest F d).text
    some (if negative then '-' :: body else body)

end SnippetAudit.Number
