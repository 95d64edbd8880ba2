import SnippetAudit.Taxonomy
import SnippetAudit.Verdict

/-!
# Reports of one detection

A verdict as text for a terminal, and as the JSON of one file.
-/

namespace SnippetAudit.Report

/-- The line that frames a report. -/
def rule : String := String.ofList (List.replicate 80 '=')

/-- What is shown for a part that is missing. -/
def missing : String := "N/A"

/-- A bug with its parts, one to a line. -/
def bugText (t : Taxonomy) (index : Nat) (bug : Finding) : String :=
  "Bug #" ++ toString (index + 1) ++ ":\n" ++
    "  Line: " ++ ((bug.line.map fun n => toString n.toNat).getD missing) ++ "\n" ++
    "  Code: " ++ bug.code.getD missing ++ "\n" ++
    "  Type: " ++ t.describe (bug.typeId.getD t.fallbackId) ++ "\n" ++
    "  Explanation: " ++ bug.explanation.getD missing ++ "\n\n"

/-- The text of a verdict. The bugs of a verdict that claims none are not shown. -/
def verdictText (t : Taxonomy) (v : Verdict) : String :=
  rule ++ "\nBug detection result\n" ++ rule ++ "\n" ++
    (if v.hasBug then "\n✗ Detected bugs:\n\n" ++ String.join (v.bugs.mapIdx (bugText t))
     else "\n✓ No bugs detected, the code looks fine.\n\n") ++
    (match v.findings.raw? with
     | some raw => "! Bug details could not be parsed. Raw response:\n" ++ raw ++ "\n\n"
     | none => "") ++
    rule

/-- The JSON of a verdict on a file. -/
def fileJson (file : String) (v : Verdict) : Json :=
  .obj ([("file", .str file), ("has_bug", .bool v.hasBug), ("bugs", .arr (v.bugs.map Finding.json))] ++
    match v.findings.raw? with
    | some raw => [("raw_response", .str raw)]
    | none => [])

end SnippetAudit.Report
