import SnippetAudit.Artifact.Store
import SnippetAudit.Command.Console
import SnippetAudit.Command.Invocation
import SnippetAudit.Dataset
import SnippetAudit.Evaluation
import SnippetAudit.Number.Fixed
import SnippetAudit.Optimizer.Bootstrap
import SnippetAudit.Optimizer.Reflective
import SnippetAudit.Report.Single

/-!
# Training

Training splits a dataset, evaluates the base program, optimizes it on the one part, evaluates what came of it on the
other, and saves it. When optimizing fails the base program is kept and saved without the name of an optimizer.
-/

namespace SnippetAudit.Command

variable {σ : Type}

def Strategy.name : Strategy → String
  | .bootstrap => Bootstrap.name
  | .reflective => Reflective.name

/-- Optimizes a student. -/
def Strategy.compile (B : Backend σ) (o : TrainOptions) (student : Detector) (samples : List Sample) :
    Audit σ (Except Failure Program) :=
  match o.strategy with
  | .bootstrap => (Bootstrap.ofDemos o.demos o.rounds).compile B student samples Grade.standard
  | .reflective => (Reflective.ofRounds o.rounds).compile B B student samples Grade.standard

/-- The line about an evaluation. -/
def evaluationLine (e : Evaluation) : String :=
  "  examples: " ++ toString e.total ++ "  errors: " ++ toString e.errors ++ "  average score: " ++
    Number.fixed 3 e.averageScore ++ "  has_bug accuracy: " ++ Number.fixed 1 (e.accuracy * 100.0) ++ "%"

/-- How much better a score is than another one, in percent of that. -/
def improvement (before after : Float) : Float :=
  if 0.0 < before then (after - before) / before * 100.0 else 0.0

/-- The scores before and after. -/
def comparison (before after : Float) : String :=
  Report.rule ++ "\n" ++
    "Base score:      " ++ Number.fixed 3 before ++ "\n" ++
    "Optimized score: " ++ Number.fixed 3 after ++ "\n" ++
    "Improvement:     " ++ Number.fixedSigned 1 (improvement before after) ++ "%\n" ++
    Report.rule ++ "\n"

/-- Reads a dataset. -/
def readDataset (directory : Path) : Attempt σ Dataset := do
  Attempt.expect ("cannot load dataset from " ++ directory.text) (Dataset.read (← Attempt.files) directory)

/-- What training made. -/
structure Trained where
  path : Path
  artifact : Artifact

/-- Trains on a dataset and saves the outcome. -/
def train (B : Backend σ) (now : Instant) (taxonomy : Taxonomy) (directory : Path) (o : TrainOptions)
    (output : Path) : Attempt σ Trained := do
  let dataset ← readDataset directory
  let split := dataset.split (← Attempt.files) (some o.maxSamples)
  Attempt.say ("Loaded " ++ toString split.train.length ++ " training and " ++
    toString split.validation.length ++ " validation examples")
  if split.train.isEmpty then throw (.plain "training set is empty; nothing to optimize")
  let base := Detector.base taxonomy
  Attempt.say "Evaluating base program..."
  let before ← base.evaluate B split.validation (some o.evaluated) Grade.standard
  Attempt.say (evaluationLine before)
  let compiled ← Strategy.compile B o base (split.train.take o.trainLimit)
  let (program, optimizer) ← match compiled with
    | .ok program => pure (program, some o.strategy.name)
    | .error e =>
      Attempt.remark ("Optimization failed: " ++ e.message ++ "; keeping the base program")
      pure (base.program, none)
  Attempt.say "Evaluating optimized program..."
  let after ← Detector.evaluate B ⟨program, true⟩ split.validation (some o.evaluated) Grade.standard
  Attempt.say (evaluationLine after)
  Attempt.print (comparison before.averageScore after.averageScore)
  let artifact :=
    { (Artifact.ofProgram now program).withScores before.averageScore after.averageScore with optimizer }
  let path ← Attempt.expect ("failed to save artifact to " ++ output.text)
    (← Attempt.audit (Artifact.save output artifact))
  Attempt.say ("Optimized program saved to " ++ path.text)
  return ⟨path, artifact⟩

end SnippetAudit.Command
