import SnippetAudit.Batch.Basic
import SnippetAudit.Report.Single
import SnippetAudit.Time.Text
import SnippetAudit.Trouble

/-!
# Batch reports

The totals of a batch, and the report with a row for every file.
-/

namespace SnippetAudit.Batch

/-- The totals of a batch. -/
structure Summary where
  total : Nat
  filesWithBugs : Nat
  totalBugs : Nat
  failures : Nat
  deriving DecidableEq, Repr

namespace Summary

def zero : Summary := ⟨0, 0, 0, 0⟩

/-- The totals with one more item. -/
def add (s : Summary) : Outcome → Summary
  | .detected v =>
    { total := s.total + 1
      filesWithBugs := s.filesWithBugs + (if v.hasBug then 1 else 0)
      totalBugs := s.totalBugs + v.bugs.length
      failures := s.failures }
  | .failed _ => { s with total := s.total + 1, failures := s.failures + 1 }

def ofOutcomes (os : List Outcome) : Summary := os.foldl add zero

def json (s : Summary) : Json :=
  .obj
    [("total", .nat s.total), ("files_with_bugs", .nat s.filesWithBugs), ("total_bugs", .nat s.totalBugs),
     ("failures", .nat s.failures)]

/-- The totals as text. -/
def text (s : Summary) : String :=
  Report.rule ++ "\nBatch detection complete\n" ++ Report.rule ++ "\n" ++
    "Total files: " ++ toString s.total ++ "\n" ++
    "Files with bugs: " ++ toString s.filesWithBugs ++ "\n" ++
    "Total bugs: " ++ toString s.totalBugs ++ "\n" ++
    "Failures: " ++ toString s.failures ++ "\n"

end Summary

/-- A row of a report: what was found in a file, or why nothing could be. -/
structure Row where
  file : Path
  hasBug : Option Bool
  bugs : Option (List Finding)
  error : Option String
  deriving DecidableEq, Repr

namespace Row

def ofOutcome (o : FileOutcome) : Row :=
  match o.outcome with
  | .detected v => ⟨o.file, some v.hasBug, some v.bugs, none⟩
  | .failed reason => ⟨o.file, none, none, some reason⟩

/-- A member that is left out where there is nothing to write. -/
def memberOf (name : String) : Option Json → List (String × Json)
  | some v => [(name, v)]
  | none => []

def json (r : Row) : Json :=
  .obj (("file", .str r.file.text) :: (memberOf "has_bug" (r.hasBug.map .bool) ++
    memberOf "bugs" (r.bugs.map fun bugs => .arr (bugs.map Finding.json)) ++
    memberOf "error" (r.error.map .str)))

end Row

structure Report where
  generatedAt : Instant
  directory : Path
  pattern : String
  summary : Summary
  rows : List Row
  deriving DecidableEq, Repr

namespace Report

def ofOutcomes (now : Instant) (directory : Path) (pattern : String) (os : List FileOutcome) : Report where
  generatedAt := now
  directory := directory
  pattern := pattern
  summary := .ofOutcomes (os.map (·.outcome))
  rows := os.map .ofOutcome

def json (r : Report) : Json :=
  .obj
    [("generated_at", .str r.generatedAt.text), ("directory", .str r.directory.text), ("pattern", .str r.pattern),
     ("summary", r.summary.json), ("results", .arr (r.rows.map Row.json))]

/-- Writes a report; a refusal names the path. -/
def write (fs : Files) (path : Path) (r : Report) : Except Trouble Files :=
  match fs.write path r.json.pretty.toUTF8 with
  | .ok fs' => .ok fs'
  | .error e => .error (.ofIo ("write " ++ Text.quoted path.text) e)

end Report
end SnippetAudit.Batch
