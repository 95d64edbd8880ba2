import SnippetAudit.Json.Printer
import SnippetAudit.Json.Decoder

/-!
# Labeled snippets

A sample is a snippet with the answer that is expected of a detector: whether it has a bug, and the details as JSON
text.
-/

namespace SnippetAudit

structure Sample where
  snippet : String
  hasBug : Bool
  /-- The findings as JSON text. -/
  details : String
  /-- The file the snippet came from. -/
  source : Option String
  deriving DecidableEq, Repr

namespace Sample

/-- A snippet with one bug of a type. -/
def buggy (snippet typeId typeName : String) : Sample where
  snippet := snippet
  hasBug := true
  details := Json.compact (.obj [("bugs", .arr [.obj
    [("bug_type", .str typeName), ("bug_type_id", .str typeId),
     ("explanation", .str ("This code contains " ++ typeName))]])])
  source := none

/-- A snippet without bugs. -/
def clean (snippet : String) : Sample where
  snippet := snippet
  hasBug := false
  details := Json.compact (.obj [("bugs", .arr [])])
  source := none

/-- The sample with the file it came from. -/
def withSource (s : Sample) (path : String) : Sample := { s with source := some path }

def json (s : Sample) : Json :=
  .obj ([("code_snippet", .str s.snippet), ("has_bug", .bool s.hasBug), ("bug_details", .str s.details)] ++
    match s.source with
    | some path => [("source", .str path)]
    | none => [])

def decoder : Json.Decoder Sample := fun t => do
  let slots ← t.slots
    [.required "code_snippet" .string, .required "has_bug" .bool, .required "bug_details" .string,
     .omitted "source" (.nullable .string)]
  pure
    { snippet := ← slots.get "code_snippet" .string
      hasBug := ← slots.get "has_bug" .bool
      details := ← slots.get "bug_details" .string
      source := ← slots.get? "source" .string }

end Sample
end SnippetAudit
