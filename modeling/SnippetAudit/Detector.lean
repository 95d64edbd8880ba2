import SnippetAudit.Backend.Basic
import SnippetAudit.Prompt.Program
import SnippetAudit.Text.Quoted
import SnippetAudit.Verdict

/-!
# Detection

A detector is a prompt program, and the mark whether it was tuned. One detection sends one prompt; the failure of a
backend is passed on as it is. The counters and events tell what came of it.
-/

namespace SnippetAudit

structure Detector where
  program : Program
  optimized : Bool
  deriving DecidableEq, Repr

namespace Detector

variable {σ : Type}

/-- The detector of a taxonomy before tuning. -/
def base (taxonomy : Taxonomy) : Detector := ⟨.base taxonomy, false⟩

/-- The word for whether the program was tuned. -/
def modelType (d : Detector) : String := if d.optimized then "optimized" else "base"

/-- A detector as it shows itself. -/
def describe (B : Backend σ) (d : Detector) : String :=
  "Detector \x7b backend: " ++ Text.quoted B.name ++ ", taxonomy: " ++ d.program.taxonomy.title ++
    ", demos: " ++ toString d.program.demos.length ++ ", optimized: " ++ toString d.optimized ++ " \x7d"

/-- Counts a verdict and tells of it. -/
def report (v : Verdict) : Audit σ Unit := do
  Audit.count .detected
  if let some raw := v.findings.raw? then
    Audit.count .sawDegraded
    Audit.emit (.replyDegraded raw.utf8ByteSize)
  if !v.isConsistent then
    Audit.emit (.replyInconsistent v.hasBug v.bugs.length)
  Audit.emit (.detectionFinished v.hasBug v.bugs.length)

/-- The verdict on a snippet. -/
def detect (B : Backend σ) (d : Detector) (snippet : String) : Audit σ (Except Failure Verdict) := do
  let prompt := d.program.render snippet
  Audit.emit (.detectionStarted snippet.utf8ByteSize prompt.utf8ByteSize)
  match ← B.ask prompt with
  | .error e =>
    Audit.count .failed
    return .error e
  | .ok completion =>
    let v := Verdict.ofCompletion completion.text
    report v
    return .ok v

end Detector
end SnippetAudit
