import SnippetAudit.Detector
import SnippetAudit.Grade

/-!
# Bootstrapped demos

A student runs over the samples. What the metric accepts becomes a demo, until there are enough; the samples that were
not accepted then fill the room that is left, with their labels. A sample is accepted once at most.
-/

namespace SnippetAudit

structure Bootstrap where
  /-- The most demos made from verdicts. -/
  maxBootstrapped : Nat
  /-- The number of demos up to which labeled ones are added. -/
  maxLabeled : Nat
  rounds : Nat
  /-- The least score of an accepted verdict. -/
  threshold : Float

namespace Bootstrap

variable {σ : Type}

instance : Inhabited Bootstrap := ⟨⟨4, 16, 1, 0.25⟩⟩

/-- At most `demos` demos of either kind, from a number of rounds. -/
def ofDemos (demos rounds : Nat) : Bootstrap :=
  { (default : Bootstrap) with maxBootstrapped := demos, maxLabeled := demos, rounds := rounds }

def name : String := "bootstrap_few_shot"

/-- An accepted verdict: the position of its sample, and the demo it makes. -/
structure Pick where
  position : Nat
  demo : Demo
  deriving DecidableEq, Repr

/-- The demo of a label. -/
def labeledDemo (s : Sample) : Demo := ⟨s.snippet, s.hasBug, s.details⟩

/-- The demo of a verdict. -/
def verdictDemo (s : Sample) (v : Verdict) : Demo := ⟨s.snippet, v.hasBug, v.findings.json.compact⟩

/-- Whether the sample of a position was accepted. -/
def isPicked (picks : List Pick) (position : Nat) : Bool := picks.any (·.position == position)

def isFull (c : Bootstrap) (picks : List Pick) : Bool := c.maxBootstrapped ≤ picks.length

/-- Runs the student on a sample, unless there are enough demos or this one was accepted. -/
def visit (B : Backend σ) (c : Bootstrap) (student : Detector) (metric : Metric) (round : Nat)
    (picks : List Pick) (s : Sample) (position : Nat) : Audit σ (List Pick) := do
  if c.isFull picks || isPicked picks position then return picks
  match ← student.detect B s.snippet with
  | .error _ => return picks
  | .ok v =>
    let score := (metric s v).score
    if c.threshold ≤ score then
      let picks := picks ++ [⟨position, verdictDemo s v⟩]
      Audit.emit (.demoAccepted round position score picks.length)
      return picks
    else return picks

/-- One round over all samples. -/
def runRound (B : Backend σ) (c : Bootstrap) (student : Detector) (metric : Metric) (samples : List Sample)
    (round : Nat) (picks : List Pick) : Audit σ (List Pick) :=
  samples.zipIdx.foldlM (fun picks (s, position) => c.visit B student metric round picks s position) picks

/-- `left` rounds, the first of them numbered `round`; none once there are enough demos. -/
def runRounds (B : Backend σ) (c : Bootstrap) (student : Detector) (metric : Metric) (samples : List Sample) :
    (left round : Nat) → List Pick → Audit σ (List Pick)
  | 0, _, picks => return picks
  | left + 1, round, picks => do
    if c.isFull picks then return picks
    let picks ← c.runRound B student metric samples round picks
    runRounds B c student metric samples left (round + 1) picks

/-- The labels of the first samples that were not accepted. -/
def fill (c : Bootstrap) (samples : List Sample) (picks : List Pick) : List Demo :=
  ((samples.zipIdx.filter fun (_, position) => !isPicked picks position).take
    (c.maxLabeled - picks.length)).map fun (s, _) => labeledDemo s

/-- The demos of accepted verdicts, then those of labels. -/
def demos (c : Bootstrap) (samples : List Sample) (picks : List Pick) : List Demo :=
  picks.map (·.demo) ++ c.fill samples picks

/-- The student's program with the demos found. -/
def compile (B : Backend σ) (c : Bootstrap) (student : Detector) (samples : List Sample) (metric : Metric) :
    Audit σ (Except Failure Program) := do
  if samples.isEmpty then return .error (.dataset "training set is empty")
  let picks ← c.runRounds B student metric samples c.rounds 0 []
  return .ok { student.program with demos := c.demos samples picks }

end Bootstrap
end SnippetAudit
