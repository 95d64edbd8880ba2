import SnippetAudit.Files.Basic

/-!
# Walking a directory

`Files.walk` lists the regular files below a directory, links followed, each with the names that lead to it. What a
path does not lead to is passed over, and so is a link to a directory that the walk is already inside of. That bounds
the walk: below every followed link the directories it is inside of are more.
-/

namespace SnippetAudit.Files

/-- What a name in a directory stands for once links are followed: a file, or a directory to go into. -/
inductive Found where
  | file
  | directory (place : Place)
  | nothing

/-- The entry of a name in a directory with a place and a path; `inside` are the directories the walk is in. -/
def found (fs : Files) (inside : List Place) (place : Place) (path : Path) (name : String) : Found :=
  match fs.entry? (place ++ [name]) with
  | none => .nothing
  | some (.file _) => .file
  | some e =>
    match fs.resolve (path.join ⟨name⟩) with
    | .error _ => .nothing
    | .ok goal =>
      match e, fs.entry? goal with
      | .link _, some (.file _) => .file
      | .link _, some .directory => if inside.contains goal then .nothing else .directory goal
      | .directory, _ => .directory goal
      | _, _ => .nothing

/-- The files below a directory, as lists of names. `fuel` bounds the levels. -/
def filesBelow (fs : Files) (inside : List Place) (place : Place) (path : Path) : (fuel : Nat) → List (List String)
  | 0 => []
  | fuel + 1 => (fs.children place).flatMap fun name =>
    match fs.found (place :: inside) place path name with
    | .nothing => []
    | .file => [[name]]
    | .directory goal => (filesBelow fs (place :: inside) goal (path.join ⟨name⟩) fuel).map (name :: ·)

/-- A walked file: its path as the walk spells it, and its names below the directory. -/
structure Walked where
  path : Path
  names : List String
  deriving DecidableEq, Repr

/-- The regular files below a directory. -/
def walk (fs : Files) (dir : Path) : List Walked :=
  match fs.resolve dir with
  | .error _ => []
  | .ok place =>
    (fs.filesBelow [] place dir ((fs.entries.length + 2) * (fs.entries.length + 2))).map fun names =>
      ⟨names.foldl (fun p name => p.join ⟨name⟩) dir, names⟩

end SnippetAudit.Files
