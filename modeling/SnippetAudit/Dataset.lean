import SnippetAudit.Failure
import SnippetAudit.Files.Basic
import SnippetAudit.Sample
import SnippetAudit.Text.Blank
import SnippetAudit.Text.Utf8

/-!
# Datasets

A dataset is a directory with a list of entries. An entry names the type of a bug and two files, one with the bug and
one without; it stands for a buggy sample and, where the other file says anything, a clean one. An entry of another
shape stands for nothing, and so does one whose buggy file says nothing; what an entry stands for depends on no other
entry.
-/

namespace SnippetAudit

structure Dataset where
  directory : Path
  entries : List Json

namespace Dataset

/-- The file with the entries. -/
def listName : String := "metadata.json"

/-- The type of a bug whose entry gives none. -/
def unknownTypeId : String := "D.1"

def unknownType : String := "Unknown"

/-- The share of the samples that is trained on. -/
def trainRatio : Float := 0.8

/-- Reads the list of a directory. -/
def read (fs : Files) (directory : Path) : Except Failure Dataset := do
  let path := directory.join ⟨listName⟩
  let unreadable := fun (e : IoError) => Failure.dataset ("cannot read " ++ path.text ++ ": " ++ e.message)
  match fs.read path with
  | .error e => throw (unreadable e)
  | .ok bytes =>
    match Text.strict? bytes with
    | none => throw (unreadable .notUtf8)
    | some text =>
      match Json.parse? text with
      | some (.arr entries) => pure ⟨directory, entries⟩
      | _ => throw (.dataset (path.text ++ " is not a JSON array of entries"))

/-! ### Entries -/

structure Entry where
  typeId : Option String
  typeName : Option String
  buggyFile : String
  fixedFile : String
  deriving DecidableEq, Repr

namespace Entry

def filesDecoder : Json.Decoder (String × String) := fun t => do
  let slots ← t.slots [.omitted "buggy_function" .string, .omitted "fixed_function" .string]
  pure (← slots.getD "buggy_function" .string "", ← slots.getD "fixed_function" .string "")

def decoder : Json.Decoder Entry := fun t => do
  let slots ← t.slots
    [.optional "bug_type_id" (.nullable .string), .optional "bug_type" (.nullable .string),
     .required "files" filesDecoder]
  let files ← slots.get "files" filesDecoder
  pure
    { typeId := ← slots.get? "bug_type_id" .string
      typeName := ← slots.get? "bug_type" .string
      buggyFile := files.1
      fixedFile := files.2 }

/-- The entry of a value of the right shape. -/
def ofJson? (v : Json) : Option Entry := (decoder v.tree).toOption

end Entry

/-- The code of a file of the dataset; a file that cannot be read says nothing. -/
def code (fs : Files) (directory : Path) (name : String) : String :=
  if name.isEmpty then ""
  else
    match fs.read (directory.join ⟨name⟩) with
    | .ok bytes => Text.decode bytes
    | .error _ => ""

/-- The samples of an entry. -/
def Entry.samples (fs : Files) (directory : Path) (e : Entry) : List Sample :=
  let buggy := code fs directory e.buggyFile
  let fixed := code fs directory e.fixedFile
  if Text.isBlankText buggy then []
  else
    (Sample.buggy buggy (e.typeId.getD unknownTypeId) (e.typeName.getD unknownType)).withSource
        (directory.join ⟨e.buggyFile⟩).text ::
      if Text.isBlankText fixed then []
      else [(Sample.clean fixed).withSource (directory.join ⟨e.fixedFile⟩).text]

/-- The samples of a listed value. -/
def samplesOf (fs : Files) (directory : Path) (v : Json) : List Sample :=
  match Entry.ofJson? v with
  | some e => e.samples fs directory
  | none => []

/-- The samples of the first `limit` entries, or of all. -/
def samples (fs : Files) (d : Dataset) (limit : Option Nat) : List Sample :=
  let entries := match limit with
    | some n => d.entries.take n
    | none => d.entries
  entries.flatMap (samplesOf fs d.directory)

/-! ### Splitting -/

/-- Samples to train on, and samples to judge the outcome by. -/
structure Split where
  train : List Sample
  validation : List Sample
  deriving DecidableEq, Repr

/-- How many of `n` samples a ratio gives to training: their product without its fraction, and `n` at most. -/
def Split.point (n : Nat) (ratio : Float) : Nat := min (Float.ofNat n * ratio).toUInt64.toNat n

/-- Splits samples in their order. -/
def Split.ofSamples (samples : List Sample) (ratio : Float) : Split :=
  let at_ := point samples.length ratio
  ⟨samples.take at_, samples.drop at_⟩

def split (fs : Files) (d : Dataset) (limit : Option Nat) : Split :=
  .ofSamples (d.samples fs limit) trainRatio

/-! ### Counting -/

/-- Counts one more of a name; the names stand in order. -/
def countName (name : String) : List (String × Nat) → List (String × Nat)
  | [] => [(name, 1)]
  | (n, k) :: counts =>
    if name = n then (n, k + 1) :: counts
    else if name < n then (name, 1) :: (n, k) :: counts
    else (n, k) :: countName name counts

/-- The type an entry gives, whatever else it holds. -/
def typeOf (v : Json) : String := ((v.member? "bug_type" >>= Json.asString?)).getD unknownType

/-- How many entries give each type. -/
def typeCounts (d : Dataset) : List (String × Nat) :=
  d.entries.foldl (fun counts v => countName (typeOf v) counts) []

def statistics (d : Dataset) : Json :=
  .obj
    [("total_bugs", .nat d.entries.length),
     ("bug_types", .obj (d.typeCounts.map fun (name, k) => (name, .nat k)))]

end Dataset
end SnippetAudit
