import SnippetAudit.Backend.Basic
import SnippetAudit.Prompt.Program
import SnippetAudit.Text.Search

/-!
# Scripted backends

A script answers from what it was given in advance. A prompt that holds the text of a rule gets the answer of the
first such rule; else the responder is asked; else the next queued answer is played; else the fallback stands. Without
any of these there is no completion. Every prompt is recorded. A script is written from `empty` or `always` on, one rule
or queued answer after another.
-/

namespace SnippetAudit

/-- A planned answer: a reply, or a network failure. -/
inductive Script.Step where
  | reply (text : String)
  | fail (reason : String)
  deriving DecidableEq, Repr

structure Script where
  rules : List (String × Script.Step)
  responder : String → Option String
  queue : List Script.Step
  fallback : Option String
  prompts : List String

namespace Script

/-! ### Writing a script -/

/-- The script without an answer to anything. -/
def empty : Script := ⟨[], fun _ => none, [], none, []⟩

/-- The script with one answer to everything. -/
def always (text : String) : Script := { empty with fallback := some text }

/-- Queues an answer behind those queued before. -/
def enqueue (s : Script) (step : Step) : Script := { s with queue := s.queue ++ [step] }

/-- Adds a rule behind those added before. -/
def addRule (s : Script) (needle : String) (step : Step) : Script := { s with rules := s.rules ++ [(needle, step)] }

/-- Takes a responder, in the place of the one before. -/
def respondWith (s : Script) (responder : String → Option String) : Script := { s with responder }

/-- What is queued in turn stands in the queue in that order. -/
theorem queue_foldl_enqueue (steps : List Step) (s : Script) : (steps.foldl enqueue s).queue = s.queue ++ steps := by
  induction steps generalizing s with
  | nil => exact (List.append_nil s.queue).symm
  | cons step steps ih => rw [List.foldl_cons, ih, enqueue, List.append_assoc, List.singleton_append]

/-! ### Answering -/

def Step.answer : Step → Except Failure Completion
  | .reply text => .ok ⟨text, "scripted"⟩
  | .fail reason => .error (.network reason)

/-- The answer of the first rule whose text the prompt holds. -/
def rule? (s : Script) (prompt : String) : Option Step :=
  (s.rules.find? fun (needle, _) => Text.holds prompt needle).map (·.2)

/-- The answer that is no part of the queue. -/
def direct? (s : Script) (prompt : String) : Option Step :=
  match s.rule? prompt with
  | some step => some step
  | none => (s.responder prompt).map .reply

/-- Plays the next step of the queue. -/
def play (s : Script) : Except Failure Completion × Script :=
  match s.queue with
  | step :: rest => (step.answer, { s with queue := rest })
  | [] =>
    match s.fallback with
    | some text => ((Step.reply text).answer, s)
    | none => (.error .emptyCompletion, s)

/-- Answers a prompt. -/
def complete (prompt : String) (s : Script) : Except Failure Completion × Script :=
  let s := { s with prompts := s.prompts ++ [prompt] }
  match s.direct? prompt with
  | some step => (step.answer, s)
  | none => s.play

def backend : Backend Script := ⟨"scripted", complete⟩

/-- The number of prompts so far. -/
def calls (s : Script) : Nat := s.prompts.length

/-- A well-formed completion with the two fields. -/
def markedReply (hasBug details : String) : String :=
  Reply.marker "has_bug" ++ "\n" ++ hasBug ++ "\n\n" ++ Reply.marker "bug_details" ++ "\n" ++ details ++ "\n\n" ++
    Reply.marker Reply.completedName ++ "\n"

/-- The part of a prompt from its last snippet header on. -/
def tail? (prompt : String) : Option (List Char) :=
  Text.fromLast Demo.snippetHeader.toList prompt.toList

/-- A reply for the prompts that hold some texts, and whose tail holds others. -/
structure Cue where
  inPrompt : List String
  inTail : List String
  reply : String
  deriving DecidableEq, Repr

/-- Whether every text occurs in the tail of a prompt. Without a tail none does. -/
def tailHolds (prompt : String) (texts : List String) : Bool :=
  match tail? prompt with
  | some tail => texts.all fun t => Text.contains t.toList tail
  | none => texts.isEmpty

def Cue.fits (cue : Cue) (prompt : String) : Bool :=
  (cue.inPrompt.all fun t => Text.holds prompt t) && (cue.inTail.isEmpty || tailHolds prompt cue.inTail)

/-- The responder that answers by the first fitting cue. -/
def respond (cues : List Cue) (prompt : String) : Option String :=
  (cues.find? (·.fits prompt)).map (·.reply)

end Script
end SnippetAudit
