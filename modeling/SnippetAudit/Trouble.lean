import SnippetAudit.Failure
import SnippetAudit.Text.Search

/-!
# Troubles

What a program says when it gives up: what it was about, and under that the causes. A single cause is indented, several
are numbered; the further lines of a cause stand below its first one.
-/

namespace SnippetAudit

structure Trouble where
  subject : String
  /-- Outermost first; a cause without wording keeps its number. -/
  causes : List (Option String)
  deriving DecidableEq, Repr

namespace Trouble

/-- A trouble that is its own cause. -/
def plain (subject : String) : Trouble := ⟨subject, []⟩

def ofFailure (subject : String) (f : Failure) : Trouble := ⟨subject, f.causes⟩

def ofIo (subject : String) (e : IoError) : Trouble := ⟨subject, [some e.message]⟩

/-- A text whose lines start with `lead`, the first one with `first`. -/
def indented (first lead text : String) : String :=
  first ++ String.intercalate ("\n" ++ lead) ((Text.splitAt '\n' text.toList).map String.ofList) ++ "\n"

/-- A cause with its number. -/
def numbered (index : Nat) : Option String → String
  | some text => indented ("    " ++ toString index ++ ": ") "       " text
  | none => ""

/-- The text of a trouble. -/
def text (t : Trouble) : String :=
  "Error: " ++ t.subject ++ "\n" ++
    match t.causes with
    | [] => ""
    | [cause] => "\nCaused by:\n" ++ indented "    " "    " (cause.getD "")
    | causes => "\nCaused by:\n" ++ String.join (causes.mapIdx numbered)

/-- The subject and the causes on one line. -/
def line (t : Trouble) : String := ": ".intercalate (t.subject :: t.causes.filterMap id)

end Trouble
end SnippetAudit
