import SnippetAudit.Detector
import SnippetAudit.Grade

/-!
# Evaluation

A detector is tried on samples, one after another, and every verdict is graded. The trials, the sum of the scores and
the number of right verdicts are carried along; a failed try changes neither sum nor number, and still counts in the
averages.
-/

namespace SnippetAudit

structure Trial where
  index : Nat
  expected : Bool
  /-- The claim of the verdict, where there is one. -/
  predicted : Option Bool
  score : Option Float
  /-- Why there is no verdict. -/
  error : Option String

/-- A trial as a record, with the members that are there. -/
def Trial.json (t : Trial) : Json :=
  .obj ([("index", .nat t.index), ("expected_has_bug", .bool t.expected)] ++
    (t.predicted.map fun hasBug => ("predicted_has_bug", Json.bool hasBug)).toList ++
    (t.score.map fun points => ("score", Json.real points)).toList ++
    (t.error.map fun reason => ("error", Json.str reason)).toList)

structure Evaluation where
  total : Nat
  scored : Nat
  errors : Nat
  averageScore : Float
  accuracy : Float
  trials : List Trial

namespace Evaluation

/-- The number of samples that are judged by default. -/
def defaultLimit : Nat := 10

/-- A sum over a number of tries; nothing where there are none. -/
def ratio (sum : Float) (total : Nat) : Float := if total = 0 then 0.0 else sum / Float.ofNat total

/-- What an evaluation carries along. -/
structure Progress where
  trials : List Trial
  scoreSum : Float
  correct : Nat

namespace Progress

def start : Progress := ⟨[], 0.0, 0⟩

/-- One sample more. -/
def add (metric : Metric) (p : Progress) (s : Sample) (index : Nat) : Except Failure Verdict → Progress
  | .ok v =>
    let score := (metric s v).score
    { trials := p.trials ++ [⟨index, s.hasBug, some v.hasBug, some score, none⟩]
      scoreSum := p.scoreSum + score
      correct := if v.hasBug = s.hasBug then p.correct + 1 else p.correct }
  | .error e => { p with trials := p.trials ++ [⟨index, s.hasBug, none, none, some e.message⟩] }

/-- The report on a number of tries. -/
def report (p : Progress) (total : Nat) : Evaluation :=
  let errors := (p.trials.filter (·.error.isSome)).length
  { total := total
    scored := total - errors
    errors := errors
    averageScore := ratio p.scoreSum total
    accuracy := ratio (Float.ofNat p.correct) total
    trials := p.trials }

end Progress

def json (e : Evaluation) : Json :=
  .obj
    [("total", .nat e.total), ("scored", .nat e.scored), ("errors", .nat e.errors),
     ("average_score", .real e.averageScore), ("has_bug_accuracy", .real e.accuracy),
     ("outcomes", .arr (e.trials.map Trial.json))]

end Evaluation

namespace Detector

variable {σ : Type}

/-- Tries the sample at a place. -/
def attempt (B : Backend σ) (d : Detector) (metric : Metric) (p : Evaluation.Progress) (item : Sample × Nat) :
    Audit σ Evaluation.Progress := do
  let (s, index) := item
  return p.add metric s index (← d.detect B s.snippet)

/-- Tries the first `limit` samples, or all. -/
def evaluate (B : Backend σ) (d : Detector) (samples : List Sample) (limit : Option Nat) (metric : Metric) :
    Audit σ Evaluation := do
  let total := limit.elim samples.length (min · samples.length)
  let p ← (samples.take total).zipIdx.foldlM (d.attempt B metric) .start
  return p.report total

end Detector
end SnippetAudit
