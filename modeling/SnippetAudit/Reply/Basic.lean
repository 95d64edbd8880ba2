import SnippetAudit.Json.Printer
import SnippetAudit.Reply.Fence
import SnippetAudit.Reply.Section

/-!
# Replies

The raw fields of a completion. A completion with a marker line is read by its sections. One without is read as a JSON
object that carries the fields, in a fence or not; failing that, the whole text stands for the details.
-/

namespace SnippetAudit

/-- The fields of a completion, before they are interpreted. -/
structure Reply where
  reasoning : Option String
  hasBug : String
  details : String
  deriving DecidableEq, Repr

namespace Reply

/-- The name of the section that ends a reply. -/
def completedName : String := "completed"

/-- The fields of a list of sections. -/
def ofSections (sections : List Section) : Reply where
  reasoning := ((Section.field? "reasoning" sections).filter (!·.isEmpty)).map String.ofList
  hasBug := String.ofList ((Section.field? "has_bug" sections).getD [])
  details := String.ofList (((Section.field? "bug_details" sections).map unfencedJson).getD [])

/-- The text of a member: a string as it is, null as nothing, all else as JSON. -/
def memberText (onString : String → String) : Option Json → String
  | none => ""
  | some .null => ""
  | some (.str s) => onString s
  | some v => v.compact

/-- `unfencedJson` on strings. -/
def unfencedString (s : String) : String := String.ofList (unfencedJson s.toList)

/-- The fields of a JSON object that has one of them. -/
def ofJson? (v : Json) : Option Reply :=
  match v with
  | .obj _ =>
    if (v.member? "has_bug").isSome || (v.member? "bug_details").isSome then
      some
        { reasoning := v.member? "reasoning" >>= Json.asString?
          hasBug := memberText id (v.member? "has_bug")
          details := memberText unfencedString (v.member? "bug_details") }
    else none
  | _ => none

/-- The fields of a text without sections. -/
def ofPlainText (s : List Char) : Reply :=
  ((Json.parseChars? (unfenced s)).bind ofJson?).getD
    { reasoning := none, hasBug := "", details := String.ofList (Text.trim s) }

/-- The fields of a completion. The section `completed` alone does not make a text one of sections. -/
def ofCompletion (completion : String) : Reply :=
  let sections := Section.ofText completion.toList
  if sections.any (·.name ≠ completedName.toList) then ofSections sections
  else ofPlainText completion.toList

end Reply
end SnippetAudit
