/-!
# Binary floating-point numbers, exactly

A finite number of a binary format is a `Dyadic`, a mantissa times a power of two. `Format.round` takes a ratio of
naturals to the nearest dyadic of the format, a tie to the even mantissa; whether the outcome is too large for the
format is asked separately (`Format.exceeds`). All arithmetic is on naturals.
-/

namespace SnippetAudit.Number

/-- The number `mantissa · 2 ^ exponent`. -/
structure Dyadic where
  mantissa : Nat
  exponent : Int
  deriving DecidableEq, Repr

/-- A binary format: the bits of a mantissa, and the exponents of its least and its greatest numbers. -/
structure Format where
  precision : Nat
  least : Int
  greatest : Int
  deriving DecidableEq, Repr

/-- The 64-bit format. -/
def double : Format := ⟨53, -1074, 971⟩

/-- The 32-bit format. -/
def single : Format := ⟨24, -149, 104⟩

/-- The nearest natural to `num / den`, a half going to the even neighbour. -/
def roundRatio (num den : Nat) : Nat :=
  let q := num / den
  let r := num % den
  if 2 * r < den then q
  else if den < 2 * r then q + 1
  else q + q % 2

/-- The ratio `(num / den) / 2 ^ e`, as numerator and denominator. -/
def scaled (num den : Nat) (e : Int) : Nat × Nat :=
  (num * Nat.pow 2 (-e).toNat, den * Nat.pow 2 e.toNat)

namespace Format

/-- The exponent at which `num / den` has as many mantissa bits as the format keeps. -/
def exponentOf (F : Format) (num den : Nat) : Int :=
  let low : Int := (num.log2 : Int) - den.log2 - F.precision
  let (n, d) := scaled num den low
  max (if n / d < Nat.pow 2 F.precision then low else low + 1) F.least

/-- The nearest dyadic of the format to `num / den`. -/
def round (F : Format) (num den : Nat) : Dyadic :=
  if num = 0 then ⟨0, F.least⟩
  else
    let e := F.exponentOf num den
    let (n, d) := scaled num den e
    let m := roundRatio n d
    if m = Nat.pow 2 F.precision then ⟨Nat.pow 2 (F.precision - 1), e + 1⟩ else ⟨m, e⟩

/-- Whether a rounded number lies beyond the greatest one of the format. -/
def exceeds (F : Format) (d : Dyadic) : Bool := F.greatest < d.exponent

end Format

namespace Dyadic

/-- Numerator and denominator. -/
def ratio (d : Dyadic) : Nat × Nat :=
  (d.mantissa * Nat.pow 2 d.exponent.toNat, Nat.pow 2 (-d.exponent).toNat)

/-- The rounded product. -/
def mul (F : Format) (a b : Dyadic) : Dyadic :=
  F.round (a.ratio.1 * b.ratio.1) (a.ratio.2 * b.ratio.2)

/-- The rounded quotient. -/
def div (F : Format) (a b : Dyadic) : Dyadic :=
  F.round (a.ratio.1 * b.ratio.2) (a.ratio.2 * b.ratio.1)

end Dyadic

/-- A value of a binary format. -/
inductive Binary where
  | nan
  | infinite (negative : Bool)
  | finite (negative : Bool) (magnitude : Dyadic)
  deriving DecidableEq, Repr

namespace Binary

/-- A rounded magnitude with its sign, infinite when it exceeds the format. -/
def ofDyadic (F : Format) (negative : Bool) (d : Dyadic) : Binary :=
  if F.exceeds d then .infinite negative else .finite negative d

/-- The value with the given bits: a fraction of `precision - 1` bits, an exponent field of `width` bits and a
sign. -/
def ofBits (F : Format) (width : Nat) (bits : Nat) : Binary :=
  let fractionSize := Nat.pow 2 (F.precision - 1)
  let fraction := bits % fractionSize
  let field := bits / fractionSize % Nat.pow 2 width
  let negative := bits / fractionSize / Nat.pow 2 width % 2 == 1
  if field = Nat.pow 2 width - 1 then
    if fraction = 0 then .infinite negative else .nan
  else if field = 0 then .finite negative ⟨fraction, F.least⟩
  else .finite negative ⟨fractionSize + fraction, F.least + field - 1⟩

/-- The bits of a value. -/
def toBits (F : Format) (width : Nat) (v : Binary) : Nat :=
  let fractionSize := Nat.pow 2 (F.precision - 1)
  let signed (negative : Bool) (rest : Nat) :=
    if negative then fractionSize * Nat.pow 2 width + rest else rest
  match v with
  | .nan => fractionSize * (Nat.pow 2 width - 1) + fractionSize / 2
  | .infinite negative => signed negative (fractionSize * (Nat.pow 2 width - 1))
  | .finite negative d =>
    if d.mantissa < fractionSize then signed negative d.mantissa
    else signed negative (fractionSize * (d.exponent - F.least + 1).toNat + (d.mantissa - fractionSize))

/-- The exact value of a double. -/
def ofFloat (x : Float) : Binary := ofBits double 11 x.toBits.toNat

/-- The exact value of a single. -/
def ofFloat32 (x : Float32) : Binary := ofBits single 8 x.toBits.toNat

/-- The double with this value. -/
def toFloat (v : Binary) : Float := Float.ofBits (UInt64.ofNat (v.toBits double 11))

/-- The single with this value. -/
def toFloat32 (v : Binary) : Float32 := Float32.ofBits (UInt32.ofNat (v.toBits single 8))

end Binary

end SnippetAudit.Number
