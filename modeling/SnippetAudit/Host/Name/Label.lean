import SnippetAudit.Host.Name.Property
import SnippetAudit.Text.Normal.Basic

/-!
# Labels of host names

Where characters may stand in a label. A label does not begin with a mark. A joiner stands behind a mark that
combines letters, and the one that keeps letters apart may also stand between letters that would join. In a name with
letters written from the right every label has one direction: it begins with a letter of that direction and ends with
a letter or a digit of it.
-/

namespace SnippetAudit.Host

open Text (Runs runs)

/-! ### Tables -/

/-- The directions in which characters are written. -/
inductive Direction where
  | left
  | right
  | arabic
  | arabicNumber
  | europeanNumber
  | numberSign
  | numberMark
  | numberUnit
  | neutral
  | boundary
  | overlaid
  deriving DecidableEq, Repr

def directions : List (Direction × Runs) :=
  [(.right, runs rightRuns), (.arabic, runs arabicRuns), (.arabicNumber, runs arabicNumberRuns),
   (.europeanNumber, runs europeanNumberRuns), (.numberSign, runs numberSignRuns),
   (.numberMark, runs numberMarkRuns), (.numberUnit, runs numberUnitRuns), (.neutral, runs neutralRuns),
   (.boundary, runs boundaryRuns), (.overlaid, runs overlaidRuns)]

/-- The direction of a character below 80. -/
def plainDirection (c : Char) : Direction :=
  if c.isAlpha then .left
  else if c.isDigit then .europeanNumber
  else if "+-".toList.contains c then .numberSign
  else if ",./:".toList.contains c then .numberMark
  else if "#$%".toList.contains c then .numberUnit
  else .neutral

def direction (c : Char) : Direction :=
  if c.toNat < 0x80 then plainDirection c
  else ((directions.find? fun (_, rs) => rs.holds c).map (·.1)).getD .left

/-- How a character joins its neighbours in a text written from the right. -/
inductive Joining where
  | both
  | left
  | right
  | passed
  deriving DecidableEq, Repr

def joinings : List (Joining × Runs) :=
  [(.both, runs bothJoiningRuns), (.left, runs leftJoiningRuns), (.right, runs rightJoiningRuns),
   (.passed, runs passedJoiningRuns)]

def joining? (c : Char) : Option Joining :=
  if c.toNat < 0x80 then none else (joinings.find? fun (_, rs) => rs.holds c).map (·.1)

def marks : Runs := runs markRuns

def isMark (c : Char) : Bool := !(c.toNat < 0x80) && marks.holds c

/-! ### Joiners -/

/-- Keeps letters apart that would join. -/
def nonJoiner : Char := '\u200C'

def joiner : Char := '\u200D'

/-- The class of the marks that combine letters. -/
def letterJoiningClass : Nat := 9

/-- Whether the first character that joins at all joins in one of the given ways. -/
def reaches (ways : List Joining) : List Char → Bool
  | [] => false
  | c :: r =>
    match joining? c with
    | some way => ways.contains way || (way == .passed && reaches ways r)
    | none => false

/-- Whether the joiners among the characters stand where they may; `before` holds those already passed, in
reverse. -/
def joinersFit (before : List Char) : List Char → Bool
  | [] => true
  | c :: r =>
    let fits :=
      (c ≠ nonJoiner && c ≠ joiner) ||
        (before.head?.map Text.Normal.combiningClass) == some letterJoiningClass ||
        (c == nonJoiner && reaches [.both, .left] before && reaches [.both, .right] r)
    fits && joinersFit (c :: before) r

/-- Whether the characters of a label stand where they may. -/
def isLabel (s : List Char) : Bool := !s.head?.any isMark && joinersFit [] s

/-! ### Directions -/

/-- Whether a character makes the directions of a name matter. -/
def isFromRight (c : Char) : Bool := [.right, .arabic, .arabicNumber].contains (direction c)

/-- Directions that stand in a label of either direction, but not at its ends. -/
def inner : List Direction :=
  [.europeanNumber, .numberSign, .numberMark, .numberUnit, .neutral, .boundary, .overlaid]

/-- Whether a label is written from the left throughout. -/
def runsRight (s : List Direction) (last : Option Direction) : Bool :=
  s.all (fun d => d == .left || inner.contains d) && last.any ([.left, .europeanNumber].contains ·)

/-- Whether a label is written from the right throughout; its digits are of one kind. -/
def runsLeft (s : List Direction) (last : Option Direction) : Bool :=
  s.all (fun d => [.right, .arabic, .arabicNumber].contains d || inner.contains d) &&
    last.any ([.right, .arabic, .europeanNumber, .arabicNumber].contains ·) &&
    !(s.contains .europeanNumber && s.contains .arabicNumber)

/-- Whether a label has one direction. -/
def hasOneDirection (label : List Char) : Bool :=
  let s := label.map direction
  let last := (s.reverse.dropWhile (· == .overlaid)).head?
  match s.head? with
  | none => true
  | some .left => runsRight s last
  | some .right => runsLeft s last
  | some .arabic => runsLeft s last
  | some _ => false

end SnippetAudit.Host
