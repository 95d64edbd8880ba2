import SnippetAudit.Text.Normal.Table
import SnippetAudit.Text.Runs

/-!
# Texts in canonical form

Two texts that look the same have one canonical form. To get there the characters are taken apart, the marks behind a
character are put in the order of their combining classes, and what composes to a single character is composed: a
mark with the last character before it that has class zero, unless a mark of the same or a higher class stands
between them. A syllable of Hangul is composed of two or three letters by its place among all syllables.
-/

namespace SnippetAudit.Text.Normal

/-! ### Hangul -/

def firstSyllable : Nat := 0xAC00

def syllables : Nat := 11172

/-- The numbers before the first leading, the first vowel and the first trailing letter. -/
def leadBase : Nat := 0x1100

def vowelBase : Nat := 0x1161

def tailBase : Nat := 0x11A7

def vowels : Nat := 21

/-- Trailing letters, and one for none. -/
def tails : Nat := 28

def isSyllable (c : Char) : Bool := firstSyllable ≤ c.toNat && c.toNat < firstSyllable + syllables

/-- The letters of a syllable. -/
def letters (c : Char) : List Char :=
  let n := c.toNat - firstSyllable
  let lead := Char.ofNat (leadBase + n / (vowels * tails))
  let vowel := Char.ofNat (vowelBase + n / tails % vowels)
  if n % tails = 0 then [lead, vowel] else [lead, vowel, Char.ofNat (tailBase + n % tails)]

/-- The syllable of a leading letter and a vowel, or of a syllable without a trailing letter and one. -/
def syllable? (a b : Char) : Option Char :=
  if leadBase ≤ a.toNat ∧ a.toNat < leadBase + 19 ∧ vowelBase ≤ b.toNat ∧ b.toNat < vowelBase + vowels then
    some (Char.ofNat (firstSyllable + ((a.toNat - leadBase) * vowels + (b.toNat - vowelBase)) * tails))
  else if isSyllable a ∧ (a.toNat - firstSyllable) % tails = 0 ∧ tailBase < b.toNat ∧ b.toNat < tailBase + tails then
    some (Char.ofNat (a.toNat + (b.toNat - tailBase)))
  else none

/-! ### Tables -/

/-- The characters that their parts compose to, with their parts. -/
def composed : List ((Nat × Nat) × List Char) := entries composedForms

def replaced : List ((Nat × Nat) × List Char) := entries replacedForms

def combining : List (Nat × Runs) := combiningForms.map fun (n, s) => (n, runs s)

/-- The first character with parts. -/
def firstWithParts : Nat := 0xC0

/-- The first character that combines with one before it. -/
def firstCombining : Nat := 0x300

/-- The combining class of a character. -/
def combiningClass (c : Char) : Nat :=
  if c.toNat < firstCombining then 0 else ((combining.find? fun (_, rs) => rs.holds c).map (·.1)).getD 0

/-- The parts of a character. -/
def parts (c : Char) : List Char :=
  if c.toNat < firstWithParts then [c]
  else if isSyllable c then letters c
  else
    match target? composed c with
    | some (_, s) => s
    | none => ((target? replaced c).map (·.2)).getD [c]

/-- The character that two compose to. -/
def pair? (a b : Char) : Option Char :=
  if b.toNat < firstCombining then none
  else
    match syllable? a b with
    | some c => some c
    | none =>
      let whole := parts a ++ [b]
      (composed.find? fun e => e.2 == whole).map fun e => Char.ofNat e.1.1

/-! ### Order -/

/-- Puts a character with its class behind others, which stand in reverse, and before those of a higher class. -/
def put (c : Char × Nat) : List (Char × Nat) → List (Char × Nat)
  | [] => [c]
  | d :: ds => if c.2 ≠ 0 ∧ c.2 < d.2 then d :: put c ds else c :: d :: ds

/-- The characters with their classes, marks in order. -/
def ordered (s : List Char) : List (Char × Nat) :=
  (s.foldl (fun done c => put (c, combiningClass c) done) []).reverse

/-! ### Composition -/

/-- What is composed so far: characters that are done, in reverse, the last one of class zero, and the marks behind
it with their classes, in reverse. -/
structure Composition where
  done : List Char
  base : Option Char
  marks : List (Char × Nat)

namespace Composition

def empty : Composition := ⟨[], none, []⟩

/-- The characters so far, in reverse. -/
def reversed (p : Composition) : List Char := p.marks.map (·.1) ++ p.base.toList ++ p.done

/-- Whether a mark stands between the base and a character of a class. -/
def isBlocked (p : Composition) (k : Nat) : Bool :=
  match p.marks with
  | [] => false
  | (_, j) :: _ => k ≤ j

def add (p : Composition) (c : Char × Nat) : Composition :=
  match p.base.bind fun b => if p.isBlocked c.2 then none else pair? b c.1 with
  | some d => { p with base := some d }
  | none =>
    if c.2 = 0 then ⟨p.reversed, some c.1, []⟩
    else { p with marks := c :: p.marks }

end Composition

/-- The canonical form of a text. -/
def form (s : List Char) : List Char :=
  (((ordered (s.flatMap parts)).foldl Composition.add .empty).reversed).reverse

end SnippetAudit.Text.Normal
