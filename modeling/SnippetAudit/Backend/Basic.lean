import SnippetAudit.Failure
import SnippetAudit.Run.Basic

/-!
# Backends

A backend answers one prompt at a time and may change with every prompt it gets, failed ones included. It is a step
on its own state `σ`, so one definition of detection serves every backend.
-/

namespace SnippetAudit

structure Completion where
  text : String
  model : String
  deriving DecidableEq, Repr

structure Backend (σ : Type) where
  name : String
  complete : String → σ → Except Failure Completion × σ

namespace Backend

variable {σ : Type}

/-- Sends a prompt as part of a run. -/
def ask (B : Backend σ) (prompt : String) : Audit σ (Except Failure Completion) := fun run =>
  let (answer, state) := B.complete prompt run.backend
  (answer, { run with backend := state })

/-- The backend that also keeps the prompts it gets, oldest first. -/
def recording (B : Backend σ) : Backend (σ × List String) where
  name := B.name
  complete prompt := fun (state, prompts) =>
    let (answer, state) := B.complete prompt state
    (answer, (state, prompts ++ [prompt]))

/-- A backend beside another state. -/
def first {τ : Type} (B : Backend σ) : Backend (σ × τ) where
  name := B.name
  complete prompt := fun (state, other) =>
    let (answer, state) := B.complete prompt state
    (answer, (state, other))

def second {τ : Type} (B : Backend τ) : Backend (σ × τ) where
  name := B.name
  complete prompt := fun (other, state) =>
    let (answer, state) := B.complete prompt state
    (answer, (other, state))

end Backend
end SnippetAudit
