import SnippetAudit.Batch.Report
import SnippetAudit.Command.Train
import SnippetAudit.Provider.Client

/-!
# Commands

What every command does, from its options to what it prints. `Command.perform` reads a command line and answers it: the
exit code is 0 when all went well, 1 behind a trouble and 2 where the command line cannot be read.
-/

namespace SnippetAudit.Command

variable {σ : Type}

/-- What a command finds around it. -/
structure Surroundings where
  environment : Environment
  now : Instant
  /-- The standard input. -/
  input : ByteArray

/-- The settings of a choice: its key and its model go before those of the environment. -/
def ModelChoice.settings (env : Environment) (c : ModelChoice) : Provider.Settings :=
  let s := Provider.Settings.ofEnvironment env
  let s := match c.apiKey with
    | some key => { s with apiKey := some key }
    | none => s
  match c.model with
  | some name => s.withModel name
  | none => s

/-- The backend of a choice. -/
def backend (T : Provider.Transport σ) (env : Environment) (c : ModelChoice) : Attempt σ (Backend σ) := do
  let client ← Attempt.expect "cannot configure the model backend (set GOOGLE_API_KEY or pass --api-key)"
    (Provider.Client.ofSettings (c.settings env))
  return client.backend T

/-- The backend of a choice with the detector it runs. -/
def detector (T : Provider.Transport σ) (env : Environment) (taxonomy : Taxonomy) (c : ModelChoice) :
    Attempt σ (Backend σ × Detector) := do
  let B ← backend T env c
  let path := Artifact.resolve (← Attempt.files) ⟨"."⟩ c.artifact
  return (B, ← Attempt.audit (Detector.withArtifact taxonomy path))

/-- Looks at a file. -/
def detect (B : Backend σ) (d : Detector) (file : Path) (style : Style) : Attempt σ Unit := do
  let bytes ← Attempt.expectIo ("failed to read " ++ file.text) ((← Attempt.files).read file)
  Attempt.remark ("Analyzing " ++ file.text ++ " (" ++ d.modelType ++ " model)")
  let v ← Attempt.expect ("detection failed for " ++ file.text) (← d.detect B (Text.decode bytes))
  match style with
  | .json => Attempt.say (Report.fileJson file.text v).pretty
  | .text => Attempt.say (Report.verdictText d.program.taxonomy v)

/-- The snippet to look at: the given one, or the standard input. -/
def snippet (input : ByteArray) : Option String → Attempt σ String
  | some code => return code
  | none =>
    match Text.strict? input with
    | some code => return code
    | none => throw (.ofIo "failed to read code from stdin" .notUtf8)

/-- Looks at a snippet. -/
def quick (B : Backend σ) (d : Detector) (code : String) : Attempt σ Unit := do
  let v ← Attempt.expect "detection failed" (← d.detect B code)
  Attempt.say (Report.verdictText d.program.taxonomy v)

/-- What is printed about a file of a batch. -/
def progress (total index : Nat) (item : FileOutcome) : String :=
  "[" ++ toString (index + 1) ++ "/" ++ toString total ++ "] " ++ item.file.text ++ "\n" ++
    match item.outcome with
    | .detected v =>
      if v.hasBug then "  ✗ " ++ toString v.bugs.length ++ " bug(s) found\n\n" else "  ✓ no bugs found\n\n"
    | .failed reason => "  ✗ detection failed: " ++ reason ++ "\n\n"

/-- Looks at the files of a directory. -/
def batch (B : Backend σ) (d : Detector) (now : Instant) (directory : Path) (pattern : String)
    (output : Option Path) : Attempt σ Batch.Report := do
  let files ← Attempt.expect ("cannot scan " ++ directory.text)
    (Batch.collect (← Attempt.files) directory pattern)
  let outcomes ← if files.isEmpty then do
      Attempt.say ("No files matching " ++ pattern ++ " under " ++ directory.text)
      pure []
    else do
      Attempt.say ("Found " ++ toString files.length ++ " files\n")
      let tell := fun index item t => Transcript.print t (progress files.length index item)
      (liftM (Batch.detectFilesWith B d tell files))
  let report := Batch.Report.ofOutcomes now directory pattern outcomes
  if !files.isEmpty then Attempt.print report.summary.text
  if let some path := output then
    match report.write (← Attempt.files) path with
    | .error t => throw t
    | .ok fs =>
      Attempt.audit (Audit.setFiles fs)
      Attempt.say ("\nReport written to " ++ path.text)
  return report

/-- An identifier with its description. -/
def typeLine (id description : String) : String :=
  id ++ String.ofList (List.replicate (6 - id.length) ' ') ++ " - " ++ description ++ "\n"

/-- The bug types of a taxonomy. -/
def typesText (t : Taxonomy) : String :=
  Report.rule ++ "\nSupported bug types (" ++ t.name ++ ")\n" ++ Report.rule ++ "\n\n" ++
    String.join (t.entries.map fun (id, description) => typeLine id description) ++
    "\nTotal: " ++ toString t.entries.length ++ " bug types\n"

/-- Evaluates a detector on the part of a dataset that is not trained on. -/
def evaluate (B : Backend σ) (d : Detector) (directory : Path) (samples : Nat) (maxSamples : Option Nat)
    (style : Style) : Attempt σ Evaluation := do
  let dataset ← readDataset directory
  let split := dataset.split (← Attempt.files) maxSamples
  let e ← d.evaluate B split.validation (some samples) Grade.standard
  match style with
  | .json => Attempt.say e.json.pretty
  | .text =>
    Attempt.say ("Evaluating " ++ d.modelType ++ " program")
    Attempt.say (evaluationLine e)
  return e

/-- What an invocation does once it has its backend. -/
def task (T : Provider.Transport σ) (around : Surroundings) (i : Invocation) : Attempt σ (Attempt σ Unit) := do
  let env := around.environment
  match i.task with
  | .detect file style choice =>
    let (B, d) ← detector T env i.taxonomy choice
    return detect B d file style
  | .quick code choice =>
    let code ← snippet around.input code
    let (B, d) ← detector T env i.taxonomy choice
    return quick B d code
  | .batch directory pattern output choice =>
    let (B, d) ← detector T env i.taxonomy choice
    return discard (batch B d around.now directory pattern output)
  | .listTypes => return Attempt.print (typesText i.taxonomy)
  | .train directory options output choice =>
    let B ← backend T env choice
    return discard (train B around.now i.taxonomy directory options output)
  | .evaluate directory samples maxSamples style choice =>
    let (B, d) ← detector T env i.taxonomy choice
    return discard (evaluate B d directory samples maxSamples style)

/-- Does what a command line asks for. The counters are told at the end of a task, also of one that was given up. -/
def run (T : Provider.Transport σ) (around : Surroundings) (i : Invocation) : Attempt σ Unit := do
  let todo ← task T around i
  let outcome ← ExceptT.lift todo.run
  Attempt.audit Audit.flush
  match outcome with
  | .ok () => return
  | .error trouble => throw trouble

/-- How a command ended. -/
structure Exit where
  code : UInt8
  out : String
  err : String
  deriving DecidableEq, Repr

def versionText : String := "bugscan 0.3.1\n"

/-- Answers a command line. -/
def perform (T : Provider.Transport σ) (around : Surroundings) (words : List String) : Audit σ Exit := do
  match read? around.environment words with
  | none => return ⟨2, "", "error: the command line cannot be read\n"⟩
  | some .version => return ⟨0, versionText, ""⟩
  | some .help => return ⟨0, "", ""⟩
  | some (.run i) =>
    let (outcome, t) ← StateT.run (ExceptT.run (run T around i)) Transcript.empty
    match outcome with
    | .ok () => return ⟨0, t.out, t.err⟩
    | .error trouble => return ⟨1, t.out, t.err ++ trouble.text⟩

end SnippetAudit.Command
