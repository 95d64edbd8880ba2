import SnippetAudit.Finding
import SnippetAudit.Reply.Basic

/-!
# Verdicts

The typed result of one detection. A verdict may disagree with its own findings; `isConsistent` says whether it does,
and nothing corrects it.
-/

namespace SnippetAudit

structure Verdict where
  hasBug : Bool
  findings : Findings
  reasoning : Option String
  /-- The completion the verdict was read from. -/
  completion : String
  deriving DecidableEq, Repr

namespace Verdict

/-- The answers that mean yes, in either case. No letter outside ASCII has a lower case made of the letters of these
words. -/
def saysYes (s : String) : Bool :=
  let word := Text.lowered s
  word == "true" || word == "yes" || word == "1"

/-- The verdict of the fields of a completion. -/
def ofReply (reply : Reply) (completion : String) : Verdict where
  hasBug := saysYes reply.hasBug
  findings := .ofText reply.details
  reasoning := reply.reasoning
  completion := completion

/-- The verdict of a completion. -/
def ofCompletion (completion : String) : Verdict := ofReply (.ofCompletion completion) completion

/-- The verdict of the two fields alone, with the completion they would have stood in. -/
def ofFields (hasBug details : String) : Verdict :=
  ofReply { reasoning := none, hasBug, details }
    (Reply.marker "has_bug" ++ "\n" ++ hasBug ++ "\n\n" ++ Reply.marker "bug_details" ++ "\n" ++ details)

def bugs (v : Verdict) : List Finding := v.findings.bugs

/-- Whether the details of the reply could not be read. -/
def isDegraded (v : Verdict) : Bool := v.findings.isUnread

/-- Whether a bug is claimed exactly when one is listed. -/
def isConsistent (v : Verdict) : Bool := v.hasBug != v.bugs.isEmpty

def json (v : Verdict) : Json :=
  .obj ([("has_bug", .bool v.hasBug), ("bug_details", v.findings.json)] ++
    match v.reasoning with
    | some r => [("reasoning", .str r)]
    | none => [])

end Verdict
end SnippetAudit
