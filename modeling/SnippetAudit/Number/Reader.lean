import SnippetAudit.Number.Shortest

/-!
# Reading numbers from text

Unsigned integers take an optional plus and ASCII digits. Decimal numbers take a sign, digits with an optional point,
an optional exponent, or one of the words for infinity and NaN in either case; the nearest value of the format is
meant.
-/

namespace SnippetAudit.Number

/-- The value of a decimal digit. -/
def digitValue (c : Char) : Nat := c.toNat - '0'.toNat

/-- The number a run of digits denotes. -/
def ofDigits (ds : List Char) : Nat := ds.foldl (fun n c => 10 * n + digitValue c) 0

/-- An unsigned integer below `bound`. -/
def natBelow? (bound : Nat) (s : List Char) : Option Nat :=
  let ds := match s with
    | '+' :: r => r
    | _ => s
  if ds.isEmpty || !ds.all Char.isDigit then none
  else
    let n := ofDigits ds
    if n < bound then some n else none

/-- The value of a format nearest to `coefficient · 10 ^ exponent`. Beyond the four hundredth place from the point
every value of the formats is infinite or zero. -/
def nearest (F : Format) (negative : Bool) (d : Decimal) : Binary :=
  let size : Int := d.digits.length + d.exponent
  if d.coefficient = 0 ∨ size < -400 then .finite negative ⟨0, F.least⟩
  else if 400 < size then .infinite negative
  else .ofDyadic F negative (d.round F)

/-- The digits, and the places behind the point, of an unsigned mantissa, with what follows it. -/
def mantissa? (s : List Char) : Option (List Char × Nat × List Char) :=
  let whole := s.takeWhile Char.isDigit
  let rest := s.dropWhile Char.isDigit
  let (fraction, rest) := match rest with
    | '.' :: r => (r.takeWhile Char.isDigit, r.dropWhile Char.isDigit)
    | _ => ([], rest)
  if whole.isEmpty && fraction.isEmpty then none else some (whole ++ fraction, fraction.length, rest)

/-- An exponent, or nothing where the text has ended. -/
def exponent? : List Char → Option Int
  | [] => some 0
  | c :: r =>
    if c = 'e' ∨ c = 'E' then
      let (negative, ds) := match r with
        | '-' :: ds => (true, ds)
        | '+' :: ds => (false, ds)
        | ds => (false, ds)
      if ds.isEmpty || !ds.all Char.isDigit then none
      else some (if negative then -(ofDigits ds : Int) else ofDigits ds)
    else none

/-- A value of a binary format. -/
def binary? (F : Format) (s : List Char) : Option Binary :=
  let (negative, body) := match s with
    | '-' :: r => (true, r)
    | '+' :: r => (false, r)
    | r => (false, r)
  let word := String.ofList (body.map Char.toLower)
  if word = "inf" ∨ word = "infinity" then some (.infinite negative)
  else if word = "nan" then some .nan
  else do
    let (ds, places, rest) ← mantissa? body
    let e ← exponent? rest
    pure (nearest F negative ⟨ofDigits ds, e - places⟩)

end SnippetAudit.Number
