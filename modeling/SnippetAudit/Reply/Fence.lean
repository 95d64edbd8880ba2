import SnippetAudit.Text.Blank
import SnippetAudit.Text.Search
import SnippetAudit.Json.Reader

/-!
# Code fences

A text may stand between two rows of three backquotes, with a language tag behind the first. `unfenced` takes one
fence away; `unfencedJson` does so only when JSON is found inside, so that no other text loses its fence.
-/

namespace SnippetAudit.Reply

open Text (trim isBlank stripStart? stripEnd?)

/-- The mark of a fence. -/
def fence : List Char := ['\x60', '\x60', '\x60']

/-- A word that is not the start of a JSON object or array. -/
def isTag (line : List Char) : Bool :=
  match trim line with
  | [] => false
  | c :: cs => !(c :: cs).any isBlank && c ≠ '\x7b' && c ≠ '['

/-- The text between two fences. -/
def fenced? (s : List Char) : Option (List Char) := do
  let inside ← stripStart? fence s
  stripEnd? fence inside

/-- A text between fences without its language tag. -/
def untagged (s : List Char) : List Char :=
  match Text.cutAt ['\n'] s with
  | some (first, rest) => if isTag first then trim rest else trim s
  | none => trim s

/-- The trimmed text, without the fence around it. -/
def unfenced (s : List Char) : List Char :=
  match fenced? (trim s) with
  | some inside => untagged inside
  | none => trim s

/-- The trimmed text, without the fence around it when JSON stands inside. -/
def unfencedJson (s : List Char) : List Char :=
  let inner := unfenced s
  if inner ≠ trim s ∧ (Json.parseChars? inner).isNone then trim s else inner

end SnippetAudit.Reply
