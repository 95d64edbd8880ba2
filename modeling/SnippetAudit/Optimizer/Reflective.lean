import SnippetAudit.Detector
import SnippetAudit.Grade
import SnippetAudit.Number.Fixed

/-!
# Better instructions

In every round a backend is shown the instructions of the best program so far, with the samples it lost points on, and
asked for better ones. A proposal takes the place of the best program when its average over all samples is greater.
The best program, its average and the samples it lost points on change together or not at all.
-/

namespace SnippetAudit

structure Reflective where
  rounds : Nat
  /-- The most samples in a request. -/
  maxShown : Nat
  /-- The most characters of a snippet in a request. -/
  maxSnippet : Nat
  deriving DecidableEq, Repr

namespace Reflective

variable {σ : Type}

instance : Inhabited Reflective := ⟨⟨3, 5, 1500⟩⟩

def ofRounds (rounds : Nat) : Reflective := { (default : Reflective) with rounds := rounds }

def name : String := "reflective_instructions"

/-- The section of a reply with the new instructions. -/
def sectionName : String := "instructions"

/-- A sample that lost points. -/
structure Loss where
  sample : Sample
  predicted : String
  score : Float
  feedback : String

/-- The two fields of an answer on one line. -/
def answerText (hasBug : Bool) (details : String) : String :=
  "has_bug=" ++ toString hasBug ++ " bug_details=" ++ details

/-- A lost sample as it stands in a request. -/
def Loss.text (c : Reflective) (index : Nat) (l : Loss) : String :=
  "Example " ++ toString (index + 1) ++ " (score " ++ Number.fixed 2 l.score ++ "):\n" ++
    "Snippet:\n" ++ String.ofList (l.sample.snippet.toList.take c.maxSnippet) ++ "\n" ++
    "Expected: " ++ answerText l.sample.hasBug l.sample.details ++ "\n" ++
    "Predicted: " ++ l.predicted ++ "\n" ++
    "Feedback: " ++ l.feedback ++ "\n\n"

/-- The request for better instructions. -/
def request (c : Reflective) (instructions : String) (losses : List Loss) : String :=
  "You are improving the instructions given to a model that finds bugs in C code.\n\n" ++
    "Current instructions:\n" ++ instructions ++
    "\n\nThe model lost points on these examples:\n\n" ++
    String.join ((losses.take c.maxShown).mapIdx (Loss.text c)) ++
    "Write improved instructions that avoid these mistakes and still ask for the " ++
    "has_bug and bug_details fields. Put them after the line\n" ++
    Reply.marker sectionName ++ "\n"

/-- The instructions in a reply: what stands behind the marker, or all of it, up to the end marker. -/
def proposal? (reply : String) : Option String :=
  let body := match Text.cutAt (Reply.marker sectionName).toList reply.toList with
    | some (_, after) => after
    | none => reply.toList
  let text := match Text.cutAt (Reply.marker Reply.completedName).toList body with
    | some (before, _) => Text.trim before
    | none => Text.trim body
  if text.isEmpty then none else some (String.ofList text)

/-! ### Scoring -/

/-- The sum of the scores so far, and the samples that lost points. -/
structure Tally where
  sum : Float
  losses : List Loss

/-- The tally with one more sample. -/
def Tally.add (metric : Metric) (tally : Tally) (s : Sample) : Except Failure Verdict → Tally
  | .ok v =>
    let grade := metric s v
    let losses :=
      if grade.score < 1.0 then
        tally.losses ++ [⟨s, answerText v.hasBug v.findings.json.compact, grade.score,
          grade.feedback.getD "no feedback"⟩]
      else tally.losses
    ⟨tally.sum + grade.score, losses⟩
  | .error e =>
    { tally with losses := tally.losses ++ [⟨s, "none", 0.0, "detection failed: " ++ e.message⟩] }

/-- Runs a detector on all samples. -/
def score (B : Backend σ) (d : Detector) (samples : List Sample) (metric : Metric) : Audit σ Tally :=
  samples.foldlM (fun tally s => do return tally.add metric s (← d.detect B s.snippet)) ⟨0.0, []⟩

/-! ### Rounds -/

/-- The best program with what it scored. -/
structure Best where
  program : Program
  average : Float
  losses : List Loss

/-- A scored program. -/
def Best.ofTally (program : Program) (samples : List Sample) (tally : Tally) : Best :=
  ⟨program, tally.sum / Float.ofNat samples.length, tally.losses⟩

/-- Scores new instructions, and takes them when they are better. -/
def consider (B : Backend σ) (samples : List Sample) (metric : Metric) (round : Nat) (best : Best)
    (instructions : String) : Audit σ Best := do
  let program := { best.program with instructions }
  let candidate := Best.ofTally program samples (← score B ⟨program, false⟩ samples metric)
  let accepted := best.average < candidate.average
  Audit.emit (.instructionsProposed round best.average candidate.average accepted)
  return if accepted then candidate else best

/-- One round: a request to `R`, and a look at what it proposes. -/
def runRound (B R : Backend σ) (c : Reflective) (samples : List Sample) (metric : Metric) (round : Nat)
    (best : Best) : Audit σ Best := do
  match ← R.ask (c.request best.program.instructions best.losses) with
  | .error _ => return best
  | .ok completion =>
    match proposal? completion.text with
    | none => return best
    | some instructions => consider B samples metric round best instructions

/-- `left` rounds, the first of them numbered `round`; none once nothing is lost. -/
def runRounds (B R : Backend σ) (c : Reflective) (samples : List Sample) (metric : Metric) :
    (left round : Nat) → Best → Audit σ Best
  | 0, _, best => return best
  | left + 1, round, best => do
    if best.losses.isEmpty then return best
    let best ← c.runRound B R samples metric round best
    runRounds B R c samples metric left (round + 1) best

/-- The student's program with the best instructions found; `R` is asked for them. -/
def compile (B R : Backend σ) (c : Reflective) (student : Detector) (samples : List Sample) (metric : Metric) :
    Audit σ (Except Failure Program) := do
  if samples.isEmpty then return .error (.dataset "training set is empty")
  let start := Best.ofTally student.program samples (← score B student samples metric)
  let best ← c.runRounds B R samples metric c.rounds 0 start
  return .ok best.program

end Reflective
end SnippetAudit
