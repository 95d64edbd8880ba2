import SnippetAudit.Sample
import SnippetAudit.Taxonomy
import SnippetAudit.Verdict

/-!
# Grades

A grade compares a verdict with the answer of a sample. Half a point is for the claim itself. The other half is for
the details: on a buggy sample the first type id earns all of it, the right family a quarter; on a clean sample an
empty list earns it. A verdict whose details could not be read earns nothing for them. The feedback names each loss.
-/

namespace SnippetAudit

/-- A score from 0 to 1, and what is to be said about it. -/
structure Grade where
  score : Float
  feedback : Option String

/-- A way of grading verdicts. -/
abbrev Metric := Sample → Verdict → Grade

namespace Grade

/-- Points with the notes on what was lost. -/
abbrev Tally := Float × List String

/-- The points for the claim. -/
def forClaim (expected : Sample) (v : Verdict) : Tally :=
  if v.hasBug = expected.hasBug then (0.0 + 0.5, [])
  else if expected.hasBug then (0.0, ["missed the bug: predicted has_bug=false"])
  else (0.0, ["false positive: the code is clean"])

/-- The type id of the first bug of a list. -/
def firstTypeId (bugs : List Finding) : String := (bugs.head?.bind (·.typeId)).getD ""

/-- The points for the first type id, on top of `points`. -/
def forType (points : Float) (want got : String) : Tally :=
  if want = got then (points + 0.5, [])
  else if family want = family got then
    (points + 0.25, ["bug type " ++ got ++ " is in the right family, expected " ++ want])
  else (points, ["bug type " ++ got ++ " is wrong, expected " ++ want])

/-- The points for the details, on top of `points`. -/
def forDetails (points : Float) (expected : Sample) (v : Verdict) : Tally :=
  if expected.hasBug then
    let want := (Findings.ofText expected.details).bugs
    if v.bugs.isEmpty then (points, ["no bug records reported"])
    else if want.isEmpty then (points, [])
    else forType points (firstTypeId want) (firstTypeId v.bugs)
  else if v.bugs.isEmpty then (points + 0.5, [])
  else (points, ["reported " ++ toString v.bugs.length ++ " bug(s) in clean code"])

/-- The points of a verdict with all notes. -/
def tally (expected : Sample) (v : Verdict) : Tally :=
  let (points, notes) := forClaim expected v
  if v.isDegraded then (points, notes ++ ["bug_details was not valid JSON"])
  else
    let (points, more) := forDetails points expected v
    (points, notes ++ more)

/-- The notes as one text. -/
def feedbackOf (notes : List String) : String :=
  if notes.isEmpty then "correct" else "; ".intercalate notes

/-- The default grade. -/
def standard (expected : Sample) (v : Verdict) : Grade :=
  let (points, notes) := tally expected v
  ⟨points, some (feedbackOf notes)⟩

end Grade
end SnippetAudit
