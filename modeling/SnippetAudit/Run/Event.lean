import SnippetAudit.Json.Basic

/-!
# Events

What a run tells about itself while it goes on. Every event has a level and named fields; all but the flush of the
counters carry their name in the field `event`.
-/

namespace SnippetAudit

/-- How many detections were made, how many of them with unreadable details, and how many attempts failed. -/
structure Counters where
  detections : Nat
  degraded : Nat
  failures : Nat
  deriving DecidableEq, Repr

namespace Counters

def zero : Counters := ⟨0, 0, 0⟩

def detected (c : Counters) : Counters := { c with detections := c.detections + 1 }

def sawDegraded (c : Counters) : Counters := { c with degraded := c.degraded + 1 }

def failed (c : Counters) : Counters := { c with failures := c.failures + 1 }

end Counters

/-- How much an event matters. -/
inductive Level where
  | debug
  | info
  | warn
  deriving DecidableEq, Repr

namespace Level

def name : Level → String
  | .debug => "debug"
  | .info => "info"
  | .warn => "warn"

/-- The least level that is shown. -/
def shown (verbose : Bool) : Level := if verbose then .debug else .warn

end Level

inductive Event where
  | detectionStarted (snippetBytes promptBytes : Nat)
  | detectionFinished (hasBug : Bool) (bugs : Nat)
  | replyInconsistent (hasBug : Bool) (bugs : Nat)
  | replyDegraded (rawBytes : Nat)
  | batchItemFailed (item error : String)
  | artifactSaved (path digest : String)
  | artifactLoadFailed (path error : String)
  | demoAccepted (round sample : Nat) (score : Float) (demos : Nat)
  | instructionsProposed (round : Nat) (current candidate : Float) (accepted : Bool)
  | flushed (counters : Counters)

namespace Event

def level : Event → Level
  | .detectionStarted _ _ => .debug
  | .detectionFinished _ _ => .info
  | .replyInconsistent _ _ => .warn
  | .replyDegraded _ => .warn
  | .batchItemFailed _ _ => .warn
  | .artifactSaved _ _ => .info
  | .artifactLoadFailed _ _ => .warn
  | .demoAccepted _ _ _ _ => .debug
  | .instructionsProposed _ _ _ _ => .info
  | .flushed _ => .info

/-- The fields, the name of the event first. -/
def fields : Event → List (String × Json)
  | .detectionStarted snippetBytes promptBytes =>
    [("event", .str "detection.started"), ("snippet_bytes", .nat snippetBytes), ("prompt_bytes", .nat promptBytes)]
  | .detectionFinished hasBug bugs =>
    [("event", .str "detection.finished"), ("has_bug", .bool hasBug), ("bugs", .nat bugs)]
  | .replyInconsistent hasBug bugs =>
    [("event", .str "reply.inconsistent"), ("has_bug", .bool hasBug), ("bugs", .nat bugs)]
  | .replyDegraded rawBytes => [("event", .str "reply.degraded"), ("raw_len", .nat rawBytes)]
  | .batchItemFailed item error =>
    [("event", .str "batch.item_failed"), ("item", .str item), ("error", .str error)]
  | .artifactSaved path digest =>
    [("event", .str "artifact.saved"), ("path", .str path), ("sha256", .str digest)]
  | .artifactLoadFailed path error =>
    [("event", .str "artifact.load_failed"), ("path", .str path), ("error", .str error)]
  | .demoAccepted round sample score demos =>
    [("event", .str "optimizer.demo_accepted"), ("round", .nat round), ("example", .nat sample),
     ("score", .real score), ("demos", .nat demos)]
  | .instructionsProposed round current candidate accepted =>
    [("event", .str "optimizer.instructions_proposed"), ("round", .nat round),
     ("current_score", .real current), ("candidate_score", .real candidate), ("accepted", .bool accepted)]
  | .flushed c =>
    [("metric", .str "flush"), ("detections", .nat c.detections), ("degraded_replies", .nat c.degraded),
     ("failures", .nat c.failures)]

end Event
end SnippetAudit
