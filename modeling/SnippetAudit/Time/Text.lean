import SnippetAudit.Number.Fixed
import SnippetAudit.Number.Reader
import SnippetAudit.Text.Blank
import SnippetAudit.Time.Instant

/-!
# The text of an instant

An instant is written as date, `T`, time and `Z`, with as many of 0, 3, 6 or 9 places of a second as hold it; a year
that has not four digits carries a sign. Reading is more lenient: numbers need no padding, blanks may stand between the
parts, and the zone may be an offset, which is taken off.
-/

namespace SnippetAudit.Instant

open Number (padded ofDigits)
open Text (trimStart isBlank)

/-- The places of a second. -/
def fractionText (nano : Nat) : List Char :=
  if nano = 0 then []
  else if nano % 1000000 = 0 then '.' :: padded 3 (nano / 1000000)
  else if nano % 1000 = 0 then '.' :: padded 6 (nano / 1000)
  else '.' :: padded 9 nano

def yearText (year : Int) : List Char :=
  if 0 ≤ year ∧ year ≤ 9999 then padded 4 year.toNat
  else (if year < 0 then '-' else '+') :: padded 4 year.natAbs

/-- The text of an instant. -/
def chars (t : Instant) : List Char :=
  yearText t.date.year ++ '-' :: (padded 2 t.date.month ++ '-' :: (padded 2 t.date.day ++ 'T' ::
    (padded 2 t.hour ++ ':' :: (padded 2 t.minute ++ ':' :: (padded 2 t.second ++
      (fractionText t.nano ++ ['Z']))))))

def text (t : Instant) : String := String.ofList t.chars

/-! ### Reading -/

/-- A number of one to `width` digits behind blanks. -/
def number? (width : Nat) (s : List Char) : Option (Nat × List Char) :=
  let s := trimStart s
  let ds := (s.take width).takeWhile Char.isDigit
  if ds.isEmpty then none else some (ofDigits ds, s.drop ds.length)

/-- A number of any length. -/
def longNumber? (s : List Char) : Option (Nat × List Char) :=
  let ds := s.takeWhile Char.isDigit
  if ds.isEmpty then none else some (ofDigits ds, s.drop ds.length)

/-- A year: four digits at most, or any number with a sign. -/
def year? (s : List Char) : Option (Int × List Char) :=
  match trimStart s with
  | '-' :: r => (longNumber? r).map fun (n, r) => (-(n : Int), r)
  | '+' :: r => (longNumber? r).map fun (n, r) => ((n : Int), r)
  | r => (number? 4 r).map fun (n, r) => ((n : Int), r)

/-- Passes over a separator behind blanks. -/
def mark? (c : Char) (s : List Char) : Option (List Char) :=
  match trimStart s with
  | d :: r => if d = c then some r else none
  | [] => none

/-- The places of a second, nine of which count. -/
def fraction? : List Char → Option (Nat × List Char)
  | '.' :: r =>
    let ds := r.takeWhile Char.isDigit
    if ds.isEmpty then none
    else
      let kept := ds.take 9
      some (ofDigits kept * Nat.pow 10 (9 - kept.length), r.drop ds.length)
  | r => some (0, r)

/-- Two digits. -/
def twoDigits? : List Char → Option (Nat × List Char)
  | a :: b :: r => if a.isDigit ∧ b.isDigit then some (ofDigits [a, b], r) else none
  | _ => none

/-- The minutes of an offset behind its sign. -/
def offset? (s : List Char) : Option (Nat × List Char) := do
  let (hours, r) ← twoDigits? s
  let (minutes, r) ← twoDigits? (r.dropWhile fun c => c == ':' || isBlank c)
  if minutes < 60 ∧ hours < 24 then some (60 * hours + minutes, r) else none

/-- The zone, in minutes ahead of UTC. -/
def zone? (s : List Char) : Option (Int × List Char) :=
  match trimStart s with
  | 'Z' :: r => some (0, r)
  | 'z' :: r => some (0, r)
  | '+' :: r => (offset? r).map fun (n, r) => ((n : Int), r)
  | '-' :: r => (offset? r).map fun (n, r) => (-(n : Int), r)
  | '\u2212' :: r => (offset? r).map fun (n, r) => (-(n : Int), r)
  | u :: t :: c :: r =>
    if u.toLower = 'u' ∧ t.toLower = 't' ∧ c.toLower = 'c' then some (0, r) else none
  | _ => none

/-- The separator of date and time. -/
def separator? : List Char → Option (List Char)
  | c :: r => if c = 'T' ∨ c = 't' ∨ c = ' ' then some r else none
  | [] => none

/-- The instant of a text of characters. -/
def ofChars? (s : List Char) : Option Instant := do
  let (year, r) ← year? s
  let (month, r) ← number? 2 (← mark? '-' r)
  let (day, r) ← number? 2 (← mark? '-' r)
  let (hour, r) ← number? 2 (← separator? r)
  let (minute, r) ← number? 2 (← mark? ':' r)
  let (second, r) ← number? 2 (← mark? ':' r)
  let (nano, r) ← fraction? r
  let (ahead, r) ← zone? r
  let there : Instant := ⟨⟨year, month, day⟩, hour, minute, second, nano⟩
  let t := there.minus ahead
  if there.isValid ∧ t.isValid ∧ (trimStart r).isEmpty then some t else none

/-- The instant of a text. -/
def ofText? (s : String) : Option Instant := ofChars? s.toList

end SnippetAudit.Instant
