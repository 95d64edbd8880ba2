import SnippetAudit.Detector
import SnippetAudit.Files.Glob
import SnippetAudit.Files.Walk
import SnippetAudit.Text.Quoted
import SnippetAudit.Text.Utf8

/-!
# Batches

Detection over many snippets or files, strictly one after another. An item that fails is recorded and the batch goes
on. The files of a batch are the files below a directory that match a pattern, in the order of their paths.
-/

namespace SnippetAudit

/-- What became of an item. -/
inductive Outcome where
  | detected (v : Verdict)
  | failed (reason : String)
  deriving DecidableEq, Repr

namespace Outcome

def verdict? : Outcome → Option Verdict
  | .detected v => some v
  | .failed _ => none

def reason? : Outcome → Option String
  | .detected _ => none
  | .failed reason => some reason

def isSuccess (o : Outcome) : Bool := o.verdict?.isSome

end Outcome

/-- A file with what became of it. -/
structure FileOutcome where
  file : Path
  outcome : Outcome
  deriving DecidableEq, Repr

namespace Batch

variable {σ : Type}

/-- The pattern of a batch unless another is given. -/
def defaultPattern : String := "*.c"

/-- A pattern that can be matched. -/
def pattern (text : String) : Except Failure Glob :=
  match Glob.ofPattern text with
  | .ok g => .ok g
  | .error e => .error (.config ("invalid pattern " ++ Text.quoted text ++ ": " ++ e.message text))

/-- Whether a walked file belongs to a batch: by its name, or by its path below the directory. -/
def belongs (g : Glob) (w : Files.Walked) : Bool :=
  g.accepts (w.names.getLast?.getD "") || g.accepts ("/".intercalate w.names)

/-- The files of a batch. -/
def collect (fs : Files) (dir : Path) (patternText : String) : Except Failure (List Path) := do
  if !fs.isDirectory dir then throw (.io (.wantsDirectory dir.text))
  let g ← pattern patternText
  pure ((((fs.walk dir).filter (belongs g)).map (·.path)).mergeSort Path.le)

/-- Detection on the content of a file. -/
def detectFile (B : Backend σ) (d : Detector) (file : Path) : Audit σ Outcome := do
  match (← Audit.files).read file with
  | .error e =>
    Audit.count .failed
    let reason := (Failure.io e).message
    Audit.emit (.batchItemFailed file.text reason)
    return .failed reason
  | .ok bytes =>
    match ← d.detect B (Text.decode bytes) with
    | .ok v => return .detected v
    | .error e =>
      Audit.emit (.batchItemFailed file.text e.message)
      return .failed e.message

/-- Detection on files, in their order. `onItem` is told of every item before the next one is begun. -/
def detectFilesWith {τ : Type} (B : Backend σ) (d : Detector) (onItem : Nat → FileOutcome → τ → τ)
    (files : List Path) : StateT τ (Audit σ) (List FileOutcome) :=
  files.zipIdx.mapM fun (file, index) => do
    let item : FileOutcome := ⟨file, ← detectFile B d file⟩
    modify (onItem index item)
    return item

/-- `detectFilesWith`, where nobody is told. -/
def detectFiles (B : Backend σ) (d : Detector) (files : List Path) : Audit σ (List FileOutcome) := do
  let (items, ()) ← (detectFilesWith B d (fun _ _ => id) files).run ()
  return items

/-- Detection on a snippet of a list. -/
def detectItem (B : Backend σ) (d : Detector) (index : Nat) (snippet : String) : Audit σ Outcome := do
  match ← d.detect B snippet with
  | .ok v => return .detected v
  | .error e =>
    Audit.emit (.batchItemFailed ("#" ++ toString index) e.message)
    return .failed e.message

/-- Detection on snippets, in their order. -/
def detectSnippets (B : Backend σ) (d : Detector) (snippets : List String) : Audit σ (List Outcome) :=
  snippets.zipIdx.mapM fun (snippet, index) => detectItem B d index snippet

end Batch
end SnippetAudit
