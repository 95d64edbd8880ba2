import SnippetAudit.Run.Basic
import SnippetAudit.Trouble

/-!
# Consoles

A task prints while it goes on, on the two streams of a console, and may give up with a trouble. What was printed
before stays printed.
-/

namespace SnippetAudit.Command

/-- What was printed: results, and remarks. -/
structure Transcript where
  out : String
  err : String
  deriving DecidableEq, Repr

def Transcript.empty : Transcript := ⟨"", ""⟩

def Transcript.print (t : Transcript) (text : String) : Transcript := { t with out := t.out ++ text }

def Transcript.remark (t : Transcript) (line : String) : Transcript := { t with err := t.err ++ line ++ "\n" }

/-- A run with a console. -/
abbrev Console (σ : Type) := StateT Transcript (Audit σ)

/-- A run with a console that may be given up. -/
abbrev Attempt (σ : Type) := ExceptT Trouble (Console σ)

namespace Attempt

variable {σ α : Type}

/-- A step that prints nothing and cannot be given up. -/
def audit (a : Audit σ α) : Attempt σ α := liftM (liftM a : Console σ α)

/-- The files as they are. -/
def files : Attempt σ Files := audit Audit.files

/-- Prints a result as it is. -/
def print (text : String) : Attempt σ Unit := modify (·.print text)

/-- Prints a line of a result. -/
def say (line : String) : Attempt σ Unit := print (line ++ "\n")

/-- Prints a remark. -/
def remark (line : String) : Attempt σ Unit := modify (·.remark line)

/-- The value of what can fail, or a trouble about a subject. -/
def expect (subject : String) (r : Except Failure α) : Attempt σ α :=
  match r with
  | .ok a => pure a
  | .error e => throw (.ofFailure subject e)

/-- `expect` for what the operating system refused. -/
def expectIo (subject : String) (r : Except IoError α) : Attempt σ α :=
  match r with
  | .ok a => pure a
  | .error e => throw (.ofIo subject e)

end Attempt
end SnippetAudit.Command
