import SnippetAudit.Command.Basic
import SnippetAudit.Time.Clock

/-!
# The program

The outer layer of the command line: it gathers the environment, the clock, the input and the files that the words
name, performs the command, and writes out what it printed and the files it made. Nothing here decides anything. There
is no way to the network, so every request is refused.
-/

namespace SnippetAudit

/-- The variables that are looked at. -/
def variableNames : List String :=
  Provider.Settings.keyVariables ++
    ["BUGSCAN_LLM_MODEL", "BUGSCAN_LLM_BASE_URL", "BUGSCAN_MAX_TOKENS", "BUGSCAN_TEMPERATURE",
     "BUGSCAN_TIMEOUT_SECS", "BUGSCAN_TAXONOMY", "BUGSCAN_MODEL_PATH"]

/-- The files that a path leads to, at most `depth` directories down. -/
def gather (depth : Nat) (fs : Files) (p : Path) : IO Files := do
  let fs := match p.parent? with
    | some q => (fs.withDirectories q).1
    | none => fs
  match ← (IO.FS.readBinFile p.text).toBaseIO with
  | .ok bytes => return (fs.write p bytes).toOption.getD fs
  | .error _ =>
    match depth with
    | 0 => return fs
    | depth + 1 =>
      match ← (do (← IO.FS.realPath p.text).readDir : IO _).toBaseIO with
      | .error _ => return fs
      | .ok entries =>
        entries.foldlM (fun fs entry => gather depth fs (p.join ⟨entry.fileName⟩)) (fs.withDirectories p).1

/-- Writes the files that are new or changed. -/
def scatter (before after : Files) (paths : List Path) : IO Unit :=
  paths.forM fun p => do
    match after.read p with
    | .error _ => return
    | .ok bytes =>
      if (before.read p).toOption != some bytes then
        if let some q := p.parent? then
          if !q.text.isEmpty then IO.FS.createDirAll q.text
        IO.FS.writeBinFile p.text bytes

/-- The time at which a file is made. -/
def clock : IO Instant := do
  let (_, path) ← IO.FS.createTempFile
  let time := (← path.metadata).modified
  IO.FS.removeFile path
  return .ofSeconds time.sec time.nsec.toNat

/-- The paths whose files a task may look at, and those it may write. -/
def Command.Task.paths : Command.Task → List Path × List Path
  | .detect file _ choice => ([file] ++ choice.artifact.toList, [])
  | .quick _ choice => (choice.artifact.toList, [])
  | .batch directory _ output choice => ([directory] ++ choice.artifact.toList, output.toList)
  | .listTypes => ([], [])
  | .train dataset _ output choice => ([dataset] ++ choice.artifact.toList, [(Artifact.target output).1])
  | .evaluate dataset _ _ _ choice => ([dataset] ++ choice.artifact.toList, [])

def Command.Task.readsInput : Command.Task → Bool
  | .quick none _ => true
  | _ => false

end SnippetAudit

open SnippetAudit in
def main (words : List String) : IO UInt32 := do
  let environment ← variableNames.filterMapM fun name => do
    return (← IO.getEnv name).map fun value => (name, value)
  let task := match Command.read? environment words with
    | some (.run i) => some i.task
    | _ => none
  let (sources, targets) := (task.map Command.Task.paths).getD ([], [])
  let readsInput := (task.map Command.Task.readsInput).getD false
  let before ← (Artifact.defaultPath :: sources ++ targets).foldlM (gather 32) Files.empty
  let input ← if readsInput then (← IO.getStdin).readBinToEnd else pure .empty
  let around : Command.Surroundings := { environment, now := ← clock, input }
  let refusing : Provider.Transport Unit := fun _ state => (.error .refused, state)
  let (exit, run) := (Command.perform refusing around words).run (.start () before)
  scatter before run.files targets
  IO.print exit.out
  IO.eprint exit.err
  return exit.code.toUInt32
