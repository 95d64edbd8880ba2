/-!
# Labels in ASCII letters

A label with characters beyond ASCII is written with ASCII letters and digits: its ASCII characters first, and behind
a dash the others in the order of their numbers, each by the distance from the one before, counted over all places
where it could stand. A distance is a number in base 36 with digits of variable weight, the least one first; the
weights follow the distances seen so far.
-/

namespace SnippetAudit.Host.Punycode

def base : Nat := 36

def leastWeight : Nat := 1

def greatestWeight : Nat := 26

/-- The first character that is not written as itself. -/
def firstNumber : Nat := 0x80

def firstBias : Nat := 72

/-- The characters of digits: letters, and then the decimal digits. -/
def digit (n : Nat) : Char := Char.ofNat (if n < 26 then 'a'.toNat + n else '0'.toNat + (n - 26))

def digitValue? (c : Char) : Option Nat :=
  if c.isLower then some (c.toNat - 'a'.toNat)
  else if c.isUpper then some (c.toNat - 'A'.toNat)
  else if c.isDigit then some (c.toNat - '0'.toNat + 26)
  else none

/-- What a digit at place `k` is compared with: from there on it is the last one. -/
def threshold (k bias : Nat) : Nat :=
  if k ≤ bias + leastWeight then leastWeight
  else if bias + greatestWeight ≤ k then greatestWeight
  else k - bias

/-- Divides by 35 until what remains is small; `fuel` bounds the steps, of which a number needs fewer than it has
binary places. -/
def shrink (fuel : Nat) (delta k : Nat) : Nat × Nat :=
  match fuel with
  | 0 => (delta, k)
  | fuel + 1 =>
    if (base - leastWeight) * greatestWeight / 2 < delta then shrink fuel (delta / (base - leastWeight)) (k + base)
    else (delta, k)

/-- The bias after a distance, where `count` characters are placed. -/
def adapt (delta count : Nat) (isFirst : Bool) : Nat :=
  let delta := if isFirst then delta / 700 else delta / 2
  let delta := delta + delta / count
  let (delta, k) := shrink delta delta 0
  k + (base - leastWeight + 1) * delta / (delta + 38)

/-! ### Writing -/

/-- The digits of a distance from place `k` on; `fuel` is the distance. -/
def digits (bias : Nat) (fuel k q : Nat) : List Char :=
  let t := threshold k bias
  match fuel with
  | 0 => [digit q]
  | fuel + 1 =>
    if q < t then [digit q]
    else digit (t + (q - t) % (base - t)) :: digits bias fuel (k + base) ((q - t) / (base - t))

structure Writing where
  written : List Char
  delta : Nat
  bias : Nat
  count : Nat

/-- Passes a character of the label, in the turn of those with number `n`. -/
def Writing.pass (plain n : Nat) (w : Writing) (c : Char) : Writing :=
  if c.toNat < n then { w with delta := w.delta + 1 }
  else if c.toNat = n then
    { written := w.written ++ digits w.bias w.delta base w.delta
      delta := 0
      bias := adapt w.delta (w.count + 1) (w.count == plain)
      count := w.count + 1 }
  else w

/-- Writes the characters with the given numbers, which rise from `n` on. -/
def writeFrom (label : List Char) (plain : Nat) : List Nat → Nat → Writing → Writing
  | [], _, w => w
  | m :: rest, n, w =>
    let w := { w with delta := w.delta + (m - n) * (w.count + 1) }
    let w := label.foldl (Writing.pass plain m) w
    writeFrom label plain rest (m + 1) { w with delta := w.delta + 1 }

/-- The ASCII form of a label. -/
def encode (label : List Char) : List Char :=
  let plain := label.filter (·.toNat < firstNumber)
  let others := (((label.filter fun c => firstNumber ≤ c.toNat).map Char.toNat).mergeSort (· ≤ ·)).eraseReps
  let w := writeFrom label plain.length others firstNumber ⟨[], 0, firstBias, plain.length⟩
  (if plain.isEmpty then [] else plain ++ ['-']) ++ w.written

/-! ### Reading -/

/-- Where reading stands: characters placed so far, the place after the last one and its number, and the bias. -/
structure Placing where
  placed : List Char
  place : Nat
  number : Nat
  bias : Nat

/-- The distance at the beginning of a text, and the rest; `k` is the place of the next digit, `weight` what it
counts. -/
def distance? (bias : Nat) : List Char → Nat → Nat → Option (Nat × List Char)
  | [], _, _ => none
  | c :: r, k, weight => do
    let d ← digitValue? c
    let t := threshold k bias
    if d < t then some (d * weight, r)
    else
      let (n, r) ← distance? bias r (k + base) (weight * (base - t))
      some (d * weight + n, r)

/-- Places the character at a distance. -/
def Placing.add (p : Placing) (distance : Nat) : Option Placing :=
  let size := p.placed.length + 1
  let i := p.place + distance
  let number := p.number + i / size
  let at_ := i % size
  if number.isValidChar then
    some
      { placed := p.placed.take at_ ++ Char.ofNat number :: p.placed.drop at_
        place := at_ + 1
        number
        bias := adapt distance size (p.place == 0) }
  else none

/-- Places the characters of a text; `fuel` is its length, and every distance takes a digit. -/
def placeAll : Nat → Placing → List Char → Option (List Char)
  | _, p, [] => some p.placed
  | 0, _, _ => none
  | fuel + 1, p, s =>
    match distance? p.bias s base 1 with
    | some (n, r) =>
      match p.add n with
      | some p => placeAll fuel p r
      | none => none
    | none => none

/-- The label of an ASCII form. -/
def decode (s : List Char) : Option (List Char) :=
  let digits := (s.reverse.takeWhile (· ≠ '-')).reverse
  let plain := (s.take (s.length - digits.length)).dropLast
  let digits := if plain.isEmpty then s else digits
  if plain.all (·.toNat < firstNumber) then
    placeAll digits.length ⟨plain, 0, firstNumber, firstBias⟩ digits
  else none

end SnippetAudit.Host.Punycode
