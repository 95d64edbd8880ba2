import SnippetAudit.Artifact.Basic
import SnippetAudit.Detector
import SnippetAudit.Digest.Sha256

/-!
# Stored artifacts

Saving picks the format from the file name and puts `.json` behind a name without one. The file appears in one step:
when saving fails, nothing but missing directories was made. Loading takes only names with a format. A detector that
cannot load its artifact runs the program of its taxonomy before tuning.
-/

namespace SnippetAudit
namespace Artifact

/-- The path and the format under which an artifact is saved. -/
def target (p : Path) : Path × Format :=
  match Format.ofPath? p with
  | some f => (p, f)
  | none => (p.appendText ".json", .json)

/-- The directory of a path. -/
def directoryOf (p : Path) : Path :=
  match p.parent? with
  | some q => if q.text.isEmpty then ⟨"."⟩ else q
  | none => ⟨"."⟩

/-- The files with an artifact in them, and the path it went to. -/
def store (fs : Files) (p : Path) (a : Artifact) : Files × Except Failure Path :=
  let (path, format) := target p
  match fs.withDirectories (directoryOf path) with
  | (fs, .error e) => (fs, .error (.io e))
  | (fs, .ok ()) =>
    match fs.replace path (a.encode format) with
    | .error e => (fs, .error (.io e))
    | .ok fs' => (fs', .ok path)

/-- Saves an artifact; returns the path it went to. -/
def save {σ : Type} (p : Path) (a : Artifact) : Audit σ (Except Failure Path) := do
  let (fs, outcome) := store (← Audit.files) p a
  Audit.setFiles fs
  match outcome with
  | .error e => return .error e
  | .ok path =>
    Audit.emit (.artifactSaved path.text (Sha256.hexDigest (a.encode (target p).2)))
    return .ok path

/-- Reads an artifact. -/
def load (fs : Files) (p : Path) : Except Failure Artifact :=
  match Format.ofPath? p with
  | none => .error (.unsupportedFormat p.text)
  | some format =>
    match fs.read p with
    | .error e => .error (.io e)
    | .ok bytes => decode bytes format

/-- The artifact to load: the given path, or the default one below a directory when there is a file. -/
def resolve (fs : Files) (base : Path) (explicit : Option Path) : Option Path :=
  match explicit with
  | some p => some p
  | none =>
    let p := base.join defaultPath
    if fs.isFile p then some p else none

end Artifact

namespace Program

/-- The program of an artifact file. -/
def load (fs : Files) (p : Path) : Except Failure Program := (Artifact.load fs p).map (·.program)

/-- Puts the program of an artifact file in the place of the one at hand. -/
def reload (fs : Files) (p : Path) : ExceptT Failure (StateM Program) Unit := do
  set (← MonadExcept.ofExcept (load fs p))

theorem reload_of_ok {fs : Files} {p : Path} {program : Program} (h : load fs p = .ok program) (q : Program) :
    (reload fs p).run q = (.ok (), program) := by
  unfold reload
  rw [h]
  rfl

theorem reload_of_error {fs : Files} {p : Path} {e : Failure} (h : load fs p = .error e) (q : Program) :
    (reload fs p).run q = (.error e, q) := by
  unfold reload
  rw [h]
  rfl

/-- Saves a program without a history. -/
def save {σ : Type} (now : Instant) (p : Path) (program : Program) : Audit σ (Except Failure Path) :=
  Artifact.save p (.ofProgram now program)

end Program

namespace Detector

variable {σ : Type}

/-- The detector of an artifact, or of the taxonomy where there is none to load. -/
def withArtifact (taxonomy : Taxonomy) (path : Option Path) : Audit σ Detector := do
  let fs ← Audit.files
  match path with
  | none => return base taxonomy
  | some p =>
    if !fs.pathExists p then return base taxonomy
    match (Program.reload fs p).run (.base taxonomy) with
    | (.ok (), program) => return ⟨program, true⟩
    | (.error e, _) =>
      Audit.emit (.artifactLoadFailed p.text e.message)
      return base taxonomy

end Detector
end SnippetAudit
