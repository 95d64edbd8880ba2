import SnippetAudit.Text.Blank
import SnippetAudit.Json.Decoder
import SnippetAudit.Json.Printer

/-!
# Findings

What a reply says about the bugs it found: a list of findings, or a text that is not JSON and is kept as it is. There
are two readers of the written form. `Findings.decoder` is strict and takes only what `Findings.json` writes, up to
layout; `Findings.ofText` takes any text, passes over what has the wrong type, and never fails.
-/

namespace SnippetAudit

/-- One reported bug. Every part may be missing, and the type id need not be in any taxonomy. -/
structure Finding where
  line : Option UInt32
  code : Option String
  typeId : Option String
  explanation : Option String
  deriving DecidableEq, Repr, Inhabited

/-- The reported bugs, or the text that could not be read. -/
inductive Findings where
  | listed (bugs : List Finding)
  | unread (raw : String)
  deriving DecidableEq, Repr

namespace Finding

def json (f : Finding) : Json :=
  .obj
    [("line_number", match f.line with
      | some n => .nat n.toNat
      | none => .null),
     ("code_line", .strOrNull f.code),
     ("bug_type_id", .strOrNull f.typeId),
     ("explanation", .strOrNull f.explanation)]

/-- A line number. -/
def lineDecoder : Json.Decoder UInt32 := fun t =>
  (Json.Decoder.natBelow UInt32.size t).map UInt32.ofNat

def decoder : Json.Decoder Finding := fun t => do
  let slots ← t.slots
    [.omitted "line_number" (.nullable lineDecoder), .omitted "code_line" (.nullable .string),
     .omitted "bug_type_id" (.nullable .string), .omitted "explanation" (.nullable .string)]
  pure
    { line := ← slots.get? "line_number" lineDecoder
      code := ← slots.get? "code_line" .string
      typeId := ← slots.get? "bug_type_id" .string
      explanation := ← slots.get? "explanation" .string }

/-- A line number as a number or as the text of one. -/
def line? : Json → Option UInt32
  | .num (.whole n) => if 0 ≤ n ∧ n < UInt32.size then some (UInt32.ofNat n.toNat) else none
  | .str s => (Number.natBelow? UInt32.size (Text.trim s.toList)).map UInt32.ofNat
  | _ => none

/-- The finding of an object; members of another type count as missing. -/
def ofJson? (v : Json) : Option Finding :=
  match v with
  | .obj _ => some
    { line := v.member? "line_number" >>= line?
      code := v.member? "code_line" >>= Json.asString?
      typeId := v.member? "bug_type_id" >>= Json.asString?
      explanation := v.member? "explanation" >>= Json.asString? }
  | _ => none

end Finding

namespace Findings

/-- The reported bugs; none where the text could not be read. -/
def bugs : Findings → List Finding
  | .listed bugs => bugs
  | .unread _ => []

/-- The text that could not be read. -/
def raw? : Findings → Option String
  | .listed _ => none
  | .unread raw => some raw

def isUnread (f : Findings) : Bool := f.raw?.isSome

def json (f : Findings) : Json :=
  .obj (("bugs", .arr (f.bugs.map Finding.json)) ::
    match f.raw? with
    | some raw => [("raw_response", .str raw)]
    | none => [])

def decoder : Json.Decoder Findings := fun t => do
  let slots ← t.slots
    [.omitted "bugs" (.listOf Finding.decoder), .omitted "raw_response" (.nullable .string)]
  let bugs ← slots.getD "bugs" (.listOf Finding.decoder) []
  match ← slots.get? "raw_response" .string with
  | some raw => pure (.unread raw)
  | none => pure (.listed bugs)

/-- The findings of a JSON value: the objects in the array `bugs`, none where there is no such array. -/
def ofJson (v : Json) : Findings :=
  .listed (((v.member? "bugs" >>= Json.asArray?).getD []).filterMap Finding.ofJson?)

/-- The findings of a text. -/
def ofText (s : String) : Findings :=
  match Json.parse? s with
  | some v => ofJson v
  | none => .unread s

end Findings
end SnippetAudit
