import SnippetAudit.Number.Binary

/-!
# Fixed places

The text of a value with a set number of places behind the point. The exact value is rounded, a half going to the
even digit.
-/

namespace SnippetAudit.Number

/-- Digits padded with leading zeros to at least `width`. -/
def padded (width : Nat) (n : Nat) : List Char :=
  let ds := Nat.toDigits 10 n
  List.replicate (width - ds.length) '0' ++ ds

/-- The digits of a ratio with `places` places, rounded. -/
def fixedDigits (places num den : Nat) : List Char :=
  let ds := padded (places + 1) (roundRatio (num * Nat.pow 10 places) den)
  let whole := ds.take (ds.length - places)
  if places = 0 then whole else whole ++ '.' :: ds.drop (ds.length - places)

/-- A value with `places` places; `plus` writes the sign of a value that is not negative. -/
def fixedText (plus : Bool) (places : Nat) : Binary → List Char
  | .nan => ['N', 'a', 'N']
  | .infinite negative => signed negative ['i', 'n', 'f']
  | .finite negative d => signed negative (fixedDigits places d.ratio.1 d.ratio.2)
where
  signed (negative : Bool) (body : List Char) : List Char :=
    if negative then '-' :: body else if plus then '+' :: body else body

/-- `fixedText` of a double, as a string. -/
def fixed (places : Nat) (x : Float) : String :=
  String.ofList (fixedText false places (Binary.ofFloat x))

/-- `fixed` with the sign written always. -/
def fixedSigned (places : Nat) (x : Float) : String :=
  String.ofList (fixedText true places (Binary.ofFloat x))

end SnippetAudit.Number
