import SnippetAudit.Files.Error

/-!
# Failures

Everything that can fail, by cause. A reply that cannot be read is no failure; it makes a degraded verdict. Nothing
is retried here: `isRetryable` is for the caller.
-/

namespace SnippetAudit

inductive Failure where
  | config (reason : String)
  | network (reason : String)
  | auth (reason : String)
  | quotaExceeded (reason : String)
  | api (status : Nat) (reason : String)
  | emptyCompletion
  | dataset (reason : String)
  | unsupportedFormat (path : String)
  | serialization
  | io (error : IoError)
  deriving DecidableEq, Repr

namespace Failure

def message : Failure → String
  | .config reason => "configuration error: " ++ reason
  | .network reason => "network error: " ++ reason
  | .auth reason => "authentication rejected by model provider: " ++ reason
  | .quotaExceeded reason => "quota exceeded: " ++ reason
  | .api status reason => "model API error [" ++ toString status ++ "]: " ++ reason
  | .emptyCompletion => "model returned no completion text"
  | .dataset reason => "dataset error: " ++ reason
  | .unsupportedFormat path => "unsupported artifact format: " ++ path
  | .serialization => "serialization error"
  | .io error => "io error: " ++ error.message

/-- Whether the same request may well succeed later. -/
def isRetryable : Failure → Bool
  | .network _ => true
  | .quotaExceeded _ => true
  | .api status _ => 500 ≤ status
  | _ => false

/-- The failure and what lies under it, outermost first. What a JSON reader has to say lies under `serialization`,
but has no settled wording. -/
def causes (f : Failure) : List (Option String) :=
  match f with
  | .io error => [some f.message, some error.message]
  | .serialization => [some f.message, none]
  | _ => [some f.message]

end Failure
end SnippetAudit
