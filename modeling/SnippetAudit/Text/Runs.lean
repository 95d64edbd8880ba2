import SnippetAudit.Text.Hex
import SnippetAudit.Text.Search

/-!
# Runs of characters

Sets of characters as runs of code points. Tables write them as lines of compact text: hexadecimal numbers between
blanks, where a dash stands between the first and the last number of a run.
-/

namespace SnippetAudit.Text

/-- The first and the last code point of each run. -/
abbrev Runs := List (Nat × Nat)

/-- The number that hexadecimal digits denote. -/
def hexNumber (s : List Char) : Nat := s.foldl (fun n c => 16 * n + (hexDigit? c).getD 0) 0

/-- A run of one number, or of the numbers between two. -/
def run (s : List Char) : Nat × Nat :=
  match cutAt ['-'] s with
  | some (first, last) => (hexNumber first, hexNumber last)
  | none => (hexNumber s, hexNumber s)

/-- The words of a table. -/
def words (lines : List String) : List (List Char) := lines.flatMap fun s => splitAt ' ' s.toList

/-- The runs of a table. -/
def runs (lines : List String) : Runs := (words lines).map run

/-- The run that a character belongs to. -/
def Runs.around? (rs : Runs) (c : Char) : Option (Nat × Nat) :=
  rs.find? fun (first, last) => first ≤ c.toNat && c.toNat ≤ last

def Runs.holds (rs : Runs) (c : Char) : Bool := (rs.around? c).isSome

/-- An entry of a table that takes a run to characters. -/
def entry (s : List Char) : (Nat × Nat) × List Char :=
  match cutAt [':'] s with
  | some (source, target) => (run source, (splitAt ',' target).map fun t => Char.ofNat (hexNumber t))
  | none => (run s, [])

/-- The entries of a table. -/
def entries (lines : List String) : List ((Nat × Nat) × List Char) := (words lines).map entry

/-- What the first entry around a character takes it to. -/
def target? (es : List ((Nat × Nat) × List Char)) (c : Char) : Option (Nat × List Char) :=
  (es.find? fun e => e.1.1 ≤ c.toNat && c.toNat ≤ e.1.2).map fun e => (c.toNat - e.1.1, e.2)

end SnippetAudit.Text
