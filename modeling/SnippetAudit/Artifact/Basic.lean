import SnippetAudit.Archive.Gzip
import SnippetAudit.Failure
import SnippetAudit.Files.Path
import SnippetAudit.Prompt.Program
import SnippetAudit.Text.Utf8
import SnippetAudit.Time.Text

/-!
# Artifacts

An artifact is a prompt program with how it came about. Its file holds indented JSON, plain or compressed as the
extension of the file name says. A score that is no number is written as null.
-/

namespace SnippetAudit

structure Artifact where
  version : UInt32
  createdAt : Instant
  /-- The optimizer that made the program. -/
  optimizer : Option String
  baselineScore : Option Float
  optimizedScore : Option Float
  program : Program

/-- How an artifact is stored. -/
inductive Artifact.Format where
  | json
  | binary
  deriving DecidableEq, Repr

namespace Artifact

/-- The layout that is written. -/
def currentVersion : UInt32 := 1

/-- A program without a history. -/
def ofProgram (createdAt : Instant) (program : Program) : Artifact :=
  ⟨currentVersion, createdAt, none, none, none, program⟩

def withScores (a : Artifact) (baseline optimized : Float) : Artifact :=
  { a with baselineScore := some baseline, optimizedScore := some optimized }

/-- Where a trained program is kept by default. -/
def defaultPath : Path := ⟨"models/optimized_bug_detector.json"⟩

/-- The format of a file name. -/
def Format.ofPath? (p : Path) : Option Format :=
  match p.extension? with
  | some "json" => some .json
  | some "bin" => some .binary
  | _ => none

def scoreJson : Option Float → Json
  | some x => .real x
  | none => .null

def json (a : Artifact) : Json :=
  .obj
    [("format_version", .nat a.version.toNat), ("created_at", .str a.createdAt.text),
     ("optimizer", .strOrNull a.optimizer), ("baseline_score", scoreJson a.baselineScore),
     ("optimized_score", scoreJson a.optimizedScore), ("program", a.program.json)]

def versionDecoder : Json.Decoder UInt32 := fun t =>
  (Json.Decoder.natBelow UInt32.size t).map UInt32.ofNat

def instantDecoder : Json.Decoder Instant := fun t => do
  match Instant.ofText? (← Json.Decoder.string t) with
  | some i => pure i
  | none => throw .mistyped

def decoder : Json.Decoder Artifact := fun t => do
  let slots ← t.slots
    [.required "format_version" versionDecoder, .required "created_at" instantDecoder,
     .omitted "optimizer" (.nullable .string), .omitted "baseline_score" (.nullable .float),
     .omitted "optimized_score" (.nullable .float), .required "program" Program.decoder]
  pure
    { version := ← slots.get "format_version" versionDecoder
      createdAt := ← slots.get "created_at" instantDecoder
      optimizer := ← slots.get? "optimizer" .string
      baselineScore := ← slots.get? "baseline_score" .float
      optimizedScore := ← slots.get? "optimized_score" .float
      program := ← slots.get "program" Program.decoder }

/-- The bytes of an artifact. -/
def encode (a : Artifact) : Format → ByteArray
  | .json => a.json.pretty.toUTF8
  | .binary => Gzip.compress a.json.pretty.toUTF8

/-- The artifact of JSON bytes. -/
def decodeJson (bytes : ByteArray) : Except Failure Artifact :=
  match Json.decode decoder (Text.guarded bytes) with
  | .ok a => .ok a
  | .error _ => .error .serialization

/-- The artifact of the bytes of a file. -/
def decode (bytes : ByteArray) : Format → Except Failure Artifact
  | .json => decodeJson bytes
  | .binary =>
    match Gzip.decompress bytes with
    | .ok content => decodeJson content
    | .error e => .error (.io e)

/-- Whether two scores are equal as numbers; NaN equals nothing. -/
def sameScore : Option Float → Option Float → Bool
  | some x, some y => x == y
  | none, none => true
  | _, _ => false

/-- Whether two artifacts are equal part by part. -/
def same (a b : Artifact) : Bool :=
  a.version == b.version && a.createdAt == b.createdAt && a.optimizer == b.optimizer &&
    sameScore a.baselineScore b.baselineScore && sameScore a.optimizedScore b.optimizedScore &&
    a.program == b.program

end Artifact
end SnippetAudit
