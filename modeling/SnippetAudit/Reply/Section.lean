import SnippetAudit.Text.Blank
import SnippetAudit.Text.Lines
import SnippetAudit.Text.Search

/-!
# Sections of a reply

A marker line names the section that follows it. `Section.split` takes a text apart: every marker line opens a
section, which holds the lines up to the next marker. The body of a name (`Section.body?`) joins all its sections in
their order. Lines before the first marker belong to no section.
-/

namespace SnippetAudit.Reply

/-- The marker line of a name. -/
def marker (name : String) : String := "[[ ## " ++ name ++ " ## ]]"

/-- A named run of lines. -/
structure Section where
  name : List Char
  lines : List (List Char)
  deriving DecidableEq, Repr

/-- The name on a marker line. -/
def markerName? (line : List Char) : Option (List Char) := do
  let rest ← Text.stripStart? ['[', '[', ' ', '#', '#'] (Text.trim line)
  let inside ← Text.stripEnd? ['#', '#', ' ', ']', ']'] rest
  pure (Text.trim inside)

namespace Section

/-- The lines before the first marker, and the sections. -/
def split : List (List Char) → List (List Char) × List Section
  | [] => ([], [])
  | l :: ls =>
    let (before, sections) := split ls
    match markerName? l with
    | some name => ([], ⟨name, before⟩ :: sections)
    | none => (l :: before, sections)

/-- The sections of a text. -/
def ofText (s : List Char) : List Section := (split (Text.lines s)).2

/-- The lines under a name, each with a line feed; nothing where no marker has the name. -/
def body? (name : String) (sections : List Section) : Option (List Char) :=
  let named := sections.filter (·.name == name.toList)
  if named.isEmpty then none else some (named.flatMap fun s => Text.unlines s.lines)

/-- The trimmed text under a name. -/
def field? (name : String) (sections : List Section) : Option (List Char) :=
  (body? name sections).map Text.trim

end Section
end SnippetAudit.Reply
