import SnippetAudit.Json.Basic
import SnippetAudit.Number.Reader

/-!
# Numbers in JSON texts

`numeral?` takes the longest number off the front of a text. Its value is computed in two steps: the digits are
gathered into a significand of at most 64 bits, later digits only counting as places, and the significand is then
multiplied or divided by a power of ten, both steps rounded to a double. A numeral without point and exponent that
fits 64 bits is an integer; minus zero is not. A value that exceeds the doubles is no number (`none` inside).
-/

namespace SnippetAudit.Json

open Number (digitValue ofDigits double)

/-- A numeral cut into its parts; an exponent carries its sign. -/
structure Numeral where
  negative : Bool
  whole : List Char
  fraction : List Char
  exponent : Option Int
  deriving DecidableEq, Repr

/-- The digits at the front of a text. -/
def spanDigits (s : List Char) : List Char × List Char :=
  (s.takeWhile Char.isDigit, s.dropWhile Char.isDigit)

/-- The digits before the point: a zero alone, or a run that starts with another digit. -/
def wholePart? (s : List Char) : Option (List Char × List Char) :=
  match spanDigits s with
  | ([], _) => none
  | ('0' :: _ :: _, _) => none
  | (ds, r) => some (ds, r)

/-- The digits behind a point; none without a point. -/
def fractionPart? : List Char → Option (List Char × List Char)
  | '.' :: r =>
    match spanDigits r with
    | ([], _) => none
    | (ds, r) => some (ds, r)
  | r => some ([], r)

/-- The digits of an exponent. -/
def exponentDigits? (negative : Bool) (s : List Char) : Option (Option Int × List Char) :=
  match spanDigits s with
  | ([], _) => none
  | (ds, r) => some (some (if negative then -(ofDigits ds : Int) else ofDigits ds), r)

/-- The exponent behind a mark; none without a mark. -/
def exponentPart? : List Char → Option (Option Int × List Char)
  | [] => some (none, [])
  | c :: r =>
    if c = 'e' ∨ c = 'E' then
      match r with
      | '-' :: r => exponentDigits? true r
      | '+' :: r => exponentDigits? false r
      | r => exponentDigits? false r
    else some (none, c :: r)

/-- The numeral at the front of a text, and what follows it. -/
def numeral? (s : List Char) : Option (Numeral × List Char) := do
  let (negative, r) := match s with
    | '-' :: r => (true, r)
    | r => (false, r)
  let (whole, r) ← wholePart? r
  let (fraction, r) ← fractionPart? r
  let (exponent, r) ← exponentPart? r
  pure (⟨negative, whole, fraction, exponent⟩, r)

/-- Appends digits to a significand while it stays below `2 ^ 64`; the digits left over are counted. -/
def gather (significand : Nat) : List Char → Nat × Nat
  | [] => (significand, 0)
  | d :: ds =>
    let next := 10 * significand + digitValue d
    if next < UInt64.size then gather next ds else (significand, ds.length + 1)

/-- A power of ten as a double. -/
def tenTo (k : Nat) : Number.Dyadic := double.round (Nat.pow 10 k) 1

/-- Divides by a power of ten, 308 places at a time. -/
def divideByTens (d : Number.Dyadic) (k : Nat) : Number.Dyadic :=
  if k ≤ 308 then d.div double (tenTo k)
  else if d.mantissa = 0 then d
  else divideByTens (d.div double (tenTo 308)) (k - 308)
termination_by k

/-- `significand · 10 ^ exponent`, unless it exceeds the doubles. -/
def scaledByTens? (significand : Nat) (exponent : Int) : Option Number.Dyadic :=
  let d := double.round significand 1
  if exponent < 0 then some (divideByTens d (-exponent).toNat)
  else if d.mantissa = 0 then some d
  else if exponent ≤ 308 then
    let product := d.mul double (tenTo exponent.toNat)
    if double.exceeds product then none else some product
  else none

namespace Numeral

/-- The greatest exponent that is counted; a greater one moves every significand out of the doubles. -/
def exponentLimit : Nat := 2147483647

/-- The double a numeral denotes. -/
def real? (n : Numeral) : Option Number.Dyadic :=
  let (significand, extra) := gather 0 n.whole
  let (significand, unread) := gather significand n.fraction
  let places : Int := extra - (n.fraction.length - unread : Nat)
  match n.exponent with
  | none => scaledByTens? significand places
  | some e =>
    if e.natAbs ≤ exponentLimit then scaledByTens? significand (places + e)
    else if significand ≠ 0 ∧ 0 < e then none
    else some ⟨0, double.least⟩

/-- The number a numeral denotes, unless it exceeds the doubles. -/
def number? (n : Numeral) : Option Json.Num :=
  let (significand, extra) := gather 0 n.whole
  if n.fraction.isEmpty && n.exponent.isNone && extra == 0 && !(n.negative && significand == 0) &&
      (!n.negative || significand ≤ UInt64.size / 2) then
    some (.whole (if n.negative then -(significand : Int) else significand))
  else
    n.real?.map fun d => .real (Number.Binary.toFloat (.finite n.negative d))

end Numeral
end SnippetAudit.Json
