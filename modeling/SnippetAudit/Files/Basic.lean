import SnippetAudit.Files.Error
import SnippetAudit.Files.Path

/-!
# File trees

A tree of files, directories and symbolic links, with a working directory. A place is the list of names that leads to
an entry from the root. Every operation resolves its path name by name, following links; what it cannot do it refuses
with the error of the operating system, and a refused operation changes nothing but the directories it made on the
way.
-/

namespace SnippetAudit

/-- The names from the root to an entry. -/
abbrev Place := List String

inductive Entry where
  | file (content : ByteArray)
  | directory
  | link (target : Path)

structure Files where
  entries : List (Place × Entry)
  here : Place

namespace Files

/-- An empty working directory. -/
def empty : Files := ⟨[(["tmp"], .directory), (["tmp", "work"], .directory)], ["tmp", "work"]⟩

/-- The entry at a place; the root is a directory. -/
def entry? (fs : Files) (p : Place) : Option Entry :=
  if p.isEmpty then some .directory else fs.entries.lookup p

def isDirectoryAt (fs : Files) (p : Place) : Bool :=
  match fs.entry? p with
  | some .directory => true
  | _ => false

/-- Sets the entry of a place. -/
def setEntry (p : Place) (e : Entry) : List (Place × Entry) → List (Place × Entry)
  | [] => [(p, e)]
  | (q, d) :: rest => if q = p then (p, e) :: rest else (q, d) :: setEntry p e rest

/-- The tree with another entry at a place. -/
def put (fs : Files) (p : Place) (e : Entry) : Files := { fs with entries := setEntry p e fs.entries }

/-- The tree without a place and all that is below it. -/
def drop (fs : Files) (p : Place) : Files :=
  { fs with entries := fs.entries.filter fun (q, _) => !p.isPrefixOf q }

/-- The names directly below a place. -/
def children (fs : Files) (p : Place) : List String :=
  fs.entries.filterMap fun (q, _) =>
    match q.getLast? with
    | some name => if q.dropLast = p then some name else none
    | none => none

/-! ### Resolving paths -/

/-- The longest name, in bytes. -/
def nameLimit : Nat := 255

/-- The most links that may be followed on the way to one entry. -/
def linkLimit : Nat := 40

/-- Where a text between slashes leads: on to a place, or to a link that goes on from a place. -/
inductive Step where
  | place (p : Place)
  | link (from_ : Place) (segments : List (List Char))

/-- How a text between slashes leads on from a directory. -/
def enter (fs : Files) (at_ : Place) (segment : List Char) : Except IoError Step :=
  if !fs.isDirectoryAt at_ then .error .notDirectory
  else if segment = [] ∨ segment = ['.'] then .ok (.place at_)
  else if segment = ['.', '.'] then .ok (.place at_.dropLast)
  else
    let name := String.ofList segment
    if nameLimit < name.utf8ByteSize then .error .nameTooLong
    else
      match fs.entry? (at_ ++ [name]) with
      | none => .error .notFound
      | some (.link target) => .ok (.link (if target.isAbsolute then [] else at_) target.segments)
      | some _ => .ok (.place (at_ ++ [name]))

/-- The place that segments lead to, with the links that may still be followed. `jump` goes on behind a link. -/
def advance (fs : Files) (jump : Place → List (List Char) → Except IoError (Place × Nat)) (links : Nat)
    (at_ : Place) : List (List Char) → Except IoError (Place × Nat)
  | [] => .ok (at_, links)
  | segment :: rest =>
    match fs.enter at_ segment with
    | .error e => .error e
    | .ok (.place p) => advance fs jump links p rest
    | .ok (.link from_ segments) => jump from_ (segments ++ rest)

/-- The place that segments lead to when at most `links` links are followed, with the number that is left. -/
def follow (fs : Files) : (links : Nat) → Place → List (List Char) → Except IoError (Place × Nat)
  | 0 => fs.advance (fun _ _ => .error .tooManyLinks) 0
  | links + 1 => fs.advance (fs.follow links) (links + 1)

/-- Where resolving a path starts. -/
def start (fs : Files) (p : Path) : Place := if p.isAbsolute then [] else fs.here

/-- Refuses a path that no system call takes. -/
def checked (p : Path) : Except IoError Unit :=
  if p.text.toList.contains '\x00' then .error .nulInPath
  else if p.text.isEmpty then .error .notFound
  else if 4096 ≤ p.text.utf8ByteSize then .error .nameTooLong
  else .ok ()

/-- The place of an existing entry that is no link. -/
def resolve (fs : Files) (p : Path) : Except IoError Place := do
  checked p
  let (place, _) ← fs.follow linkLimit (fs.start p) p.segments
  pure place

/-- The last name of a path. -/
inductive Last where
  | name (s : String)
  | dots

/-- A path cut before its last name: the segments to its directory, the name, and whether a slash follows. -/
structure Cut where
  directory : List (List Char)
  last : Last
  slash : Bool

/-- The last text of a path that is not empty, with what is before it. -/
def cut (segments : List (List Char)) : Cut :=
  match segments.reverse.dropWhile List.isEmpty with
  | [] => ⟨[], .dots, true⟩
  | s :: before =>
    { directory := before.reverse
      last := if s = ['.'] ∨ s = ['.', '.'] then .dots else .name (String.ofList s)
      slash := (segments.getLast?.map List.isEmpty).getD false }

/-- The directory of a cut path, with the links that may still be followed. -/
def directoryOf (fs : Files) (links : Nat) (at_ : Place) (c : Cut) : Except IoError (Place × Nat) := do
  let (place, left) ← fs.follow links at_ c.directory
  if !fs.isDirectoryAt place then throw .notDirectory
  match c.last with
  | .name s => if nameLimit < s.utf8ByteSize then throw .nameTooLong
  | .dots => pure ()
  pure (place, left)

/-- The directory in which a path would be made, with the last name. -/
def parentOf (fs : Files) (p : Path) : Except IoError (Place × Last) := do
  checked p
  let c := cut p.segments
  let (place, _) ← fs.directoryOf linkLimit (fs.start p) c
  pure (place, c.last)

/-! ### Questions -/

/-- The entry a path leads to, links followed. -/
def lookup? (fs : Files) (p : Path) : Option Entry :=
  match fs.resolve p with
  | .ok place => fs.entry? place
  | .error _ => none

def pathExists (fs : Files) (p : Path) : Bool := (fs.lookup? p).isSome

def isFile (fs : Files) (p : Path) : Bool :=
  match fs.lookup? p with
  | some (.file _) => true
  | _ => false

def isDirectory (fs : Files) (p : Path) : Bool :=
  match fs.lookup? p with
  | some .directory => true
  | _ => false

/-- The content of a file. -/
def read (fs : Files) (p : Path) : Except IoError ByteArray := do
  let place ← fs.resolve p
  match fs.entry? place with
  | some (.file content) => pure content
  | some .directory => throw .isDirectory
  | _ => throw .notFound

/-! ### Changes -/

/-- Makes a directory in an existing one. -/
def makeDirectory (fs : Files) (p : Path) : Except IoError Files := do
  match ← fs.parentOf p with
  | (_, .dots) => throw .alreadyExists
  | (place, .name s) =>
    match fs.entry? (place ++ [s]) with
    | some _ => throw .alreadyExists
    | none => pure (fs.put (place ++ [s]) .directory)

/-- `makeDirectory`, where a directory that is there already will do. -/
def ensureDirectory (fs : Files) (p : Path) : Except IoError Files :=
  match fs.makeDirectory p with
  | .ok fs' => .ok fs'
  | .error e => if fs.isDirectory p then .ok fs else .error e

/-- Makes a directory and those above it; the directories made before a refusal stay. `fuel` bounds the levels. -/
def makeDirectories (fs : Files) (p : Path) : (fuel : Nat) → Files × Except IoError Unit
  | 0 => (fs, .error .notFound)
  | fuel + 1 =>
    if p.text.isEmpty then (fs, .ok ())
    else
      match fs.makeDirectory p with
      | .ok fs' => (fs', .ok ())
      | .error .notFound =>
        match p.parent? with
        | none => (fs, .error .notFound)
        | some q =>
          match makeDirectories fs q fuel with
          | (fs', .error e) => (fs', .error e)
          | (fs', .ok ()) =>
            match fs'.ensureDirectory p with
            | .ok fs'' => (fs'', .ok ())
            | .error e => (fs', .error e)
      | .error e => if fs.isDirectory p then (fs, .ok ()) else (fs, .error e)

/-- The directories of a path, made where they are missing. -/
def withDirectories (fs : Files) (p : Path) : Files × Except IoError Unit :=
  fs.makeDirectories p (p.components.length + 1)

/-- Writes a file in place, following at most `links` links: the last one also to a file that is not there yet.
`fuel` bounds the links that are followed behind a last name. -/
def writeAt (fs : Files) (content : ByteArray) :
    (fuel links : Nat) → Place → List (List Char) → Except IoError Files
  | 0, _, _, _ => .error .tooManyLinks
  | fuel + 1, links, at_, segments => do
    let c := cut segments
    let (place, left) ← fs.directoryOf links at_ c
    match c.last with
    | .dots => throw .isDirectory
    | .name s =>
      if c.slash then throw .isDirectory
      match fs.entry? (place ++ [s]), left with
      | some .directory, _ => throw .isDirectory
      | some (.link _), 0 => throw .tooManyLinks
      | some (.link target), left + 1 =>
        fs.writeAt content fuel left (if target.isAbsolute then [] else place) target.segments
      | _, _ => pure (fs.put (place ++ [s]) (.file content))

/-- Writes a file. -/
def write (fs : Files) (p : Path) (content : ByteArray) : Except IoError Files := do
  checked p
  fs.writeAt content (linkLimit + 1) linkLimit (fs.start p) p.segments

/-- Puts a finished file in the place of a path, in one step: what was there is replaced, a link too. -/
def replace (fs : Files) (p : Path) (content : ByteArray) : Except IoError Files := do
  match ← fs.parentOf p with
  | (_, .dots) => throw .busy
  | (place, .name s) =>
    if (cut p.segments).slash then throw .notDirectory
    match fs.entry? (place ++ [s]) with
    | some .directory => throw .isDirectory
    | _ => pure (fs.put (place ++ [s]) (.file content))

/-- Makes a link where nothing is yet. -/
def makeLink (fs : Files) (p target : Path) : Except IoError Files := do
  match ← fs.parentOf p with
  | (_, .dots) => throw .alreadyExists
  | (place, .name s) =>
    match fs.entry? (place ++ [s]) with
    | some _ => throw .alreadyExists
    | none => pure (fs.put (place ++ [s]) (.link target))

/-- Removes a file or a link. -/
def remove (fs : Files) (p : Path) : Except IoError Files := do
  match ← fs.parentOf p with
  | (_, .dots) => throw .isDirectory
  | (place, .name s) =>
    if (cut p.segments).slash then throw .notDirectory
    match fs.entry? (place ++ [s]) with
    | none => throw .notFound
    | some .directory => throw .isDirectory
    | some _ => pure (fs.drop (place ++ [s]))

end Files
end SnippetAudit
