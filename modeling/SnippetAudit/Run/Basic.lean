import SnippetAudit.Files.Basic
import SnippetAudit.Run.Event

/-!
# Runs

The state that detections pass on: the backend, the files, the counters and the events so far, oldest first. An
`Audit` is a step from one such state to the next.
-/

namespace SnippetAudit

structure Run (σ : Type) where
  backend : σ
  files : Files
  counters : Counters
  events : List Event

/-- A run at its start. -/
def Run.start {σ : Type} (backend : σ) (files : Files) : Run σ := ⟨backend, files, .zero, []⟩

abbrev Audit (σ : Type) := StateM (Run σ)

namespace Audit

variable {σ : Type}

/-- Records an event. -/
def emit (e : Event) : Audit σ Unit := modify fun run => { run with events := run.events ++ [e] }

/-- Changes the counters. -/
def count (f : Counters → Counters) : Audit σ Unit := modify fun run => { run with counters := f run.counters }

/-- The files as they are. -/
def files : Audit σ Files := do return (← get).files

/-- Replaces the files. -/
def setFiles (fs : Files) : Audit σ Unit := modify fun run => { run with files := fs }

/-- Tells the counters. -/
def flush : Audit σ Unit := do emit (.flushed (← get).counters)

end Audit
end SnippetAudit
