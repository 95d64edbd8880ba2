import SnippetAudit.Backend.Script
import SnippetAudit.Provider.Client

/-!
# A scripted provider

An endpoint that answers from what it was given in advance. The first rule that fits the prompt answers; else the next
queued answer is played; else the fallback stands; else there are no candidates. The requests that reach it are
recorded, those for another host are refused.
-/

namespace SnippetAudit.Provider

/-- A planned answer. -/
inductive Script.Step where
  | respond (r : Response)
  | fail (fault : Fault)

structure Script.Rule where
  needle : Option String
  inTail : List String
  step : Script.Step

structure Script where
  host : String
  rules : List Script.Rule
  queue : List Script.Step
  fallback : Option Script.Step
  requests : List Request

namespace Script

/-- A response with a text as the only candidate. -/
def candidate (text : String) : Response where
  status := 200
  body := (Json.compact (.obj [("candidates", .arr [.obj [("content", .obj [("parts", .arr
    [.obj [("text", .str text)]])])]])])).toUTF8

/-- A response without a candidate. -/
def nothing : Response := ⟨200, (Json.compact (.obj [("candidates", .arr [])])).toUTF8⟩

/-- A response with the body its status allows. -/
def response (status : Nat) (body : ByteArray) : Response :=
  ⟨status, if status = 204 ∨ status = 304 then .empty else body⟩

def Rule.fits (r : Rule) (prompt : String) : Bool :=
  (match r.needle with
    | some needle => Text.holds prompt needle
    | none => true) &&
  (r.inTail.isEmpty || SnippetAudit.Script.tailHolds prompt r.inTail)

def Step.answer : Step → Except Fault Response
  | .respond r => .ok r
  | .fail fault => .error fault

/-- The step for a prompt, and the script behind it. -/
def next (s : Script) (prompt : String) : Step × Script :=
  match s.rules.find? (·.fits prompt) with
  | some rule => (rule.step, s)
  | none =>
    match s.queue with
    | step :: rest => (step, { s with queue := rest })
    | [] => (s.fallback.getD (.respond nothing), s)

/-- Carries a request to the script. -/
def transport : Transport Script := fun request s =>
  if request.address.host ≠ s.host then (.error .refused, s)
  else
    let (step, s) := s.next request.prompt
    (step.answer, { s with requests := s.requests ++ [request] })

end Script
end SnippetAudit.Provider
