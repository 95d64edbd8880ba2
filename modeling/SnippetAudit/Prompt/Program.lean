import SnippetAudit.Taxonomy
import SnippetAudit.Reply.Basic

/-!
# Prompt programs

A prompt program is what turns a snippet into a prompt: instructions, a taxonomy and solved demos. `render` is a
function of the program and the snippet alone. The prompt ends with the snippet under the last snippet header and the
demanded form of the answer, which depends on the taxonomy only.
-/

namespace SnippetAudit

/-- A solved snippet that is shown to the model. -/
structure Demo where
  snippet : String
  hasBug : Bool
  /-- The findings as JSON text. -/
  details : String
  deriving DecidableEq, Repr

structure Program where
  taxonomy : Taxonomy
  instructions : String
  demos : List Demo
  deriving DecidableEq, Repr

namespace Demo

def json (d : Demo) : Json :=
  .obj [("code_snippet", .str d.snippet), ("has_bug", .bool d.hasBug), ("bug_details", .str d.details)]

def decoder : Json.Decoder Demo := fun t => do
  let slots ← t.slots
    [.required "code_snippet" .string, .required "has_bug" .bool, .required "bug_details" .string]
  pure
    { snippet := ← slots.get "code_snippet" .string
      hasBug := ← slots.get "has_bug" .bool
      details := ← slots.get "bug_details" .string }

/-- The answer of a demo, as the two sections of a reply. -/
def answer (d : Demo) : String :=
  Reply.marker "has_bug" ++ "\n" ++ (if d.hasBug then "True" else "False") ++ "\n" ++
    Reply.marker "bug_details" ++ "\n" ++ d.details ++ "\n"

/-- The header over every snippet of a prompt. -/
def snippetHeader : String := "Code snippet:\n"

/-- A demo as it stands in a prompt. -/
def render (index : Nat) (d : Demo) : String :=
  "\nExample " ++ toString (index + 1) ++ ":\n" ++ snippetHeader ++ d.snippet ++ "\n" ++ d.answer

end Demo

namespace Program

/-- The instructions of a program that was not tuned. -/
def defaultInstructions : String :=
  "Analyze the following C code snippet and decide whether it contains a bug."

/-- The program of a taxonomy before tuning. -/
def base (taxonomy : Taxonomy) : Program := ⟨taxonomy, defaultInstructions, []⟩

instance : Inhabited Program := ⟨base .hierarchical⟩

/-- The list of bug types. -/
def renderTypes (t : Taxonomy) : String :=
  "Available bug type IDs and descriptions:\n" ++
    String.join (t.entries.map fun (id, description) => id ++ ": " ++ description ++ "\n")

def renderDemos (demos : List Demo) : String :=
  if demos.isEmpty then "" else "\nSolved examples:\n" ++ String.join (demos.mapIdx Demo.render)

/-- A section of the demanded answer with what is to stand in it. -/
def renderSlot (name hint : String) : String :=
  Reply.marker name ++ "\n\x7b" ++ hint ++ "\x7d\n\n"

/-- The demanded form of the answer. -/
def renderFormat (t : Taxonomy) : String :=
  "\nAnalyze the code carefully, then:\n" ++
  "1. Decide whether a bug exists (answer True or False).\n" ++
  "2. If bugs exist, report for each one:\n" ++
  "   - the line number (counting from 1)\n" ++
  "   - the code on that line\n" ++
  "   - the best matching bug type ID from the list above\n" ++
  "   - a short explanation\n\n" ++
  "Return bug_details as a JSON object in this format:\n" ++
  "\x7b\"bugs\": [\x7b\"line_number\": 1, \"code_line\": \"code\", \"bug_type_id\": \"" ++
  ((t.entries.head?.map (·.1)).getD "") ++
  "\", \"explanation\": \"why\"\x7d]\x7d\n" ++
  "If there is no bug, bug_details must be \x7b\"bugs\": []\x7d.\n\n" ++
  "Respond with exactly these sections, in order:\n\n" ++
  renderSlot "reasoning" "step-by-step analysis" ++
  renderSlot "has_bug" "True or False" ++
  renderSlot "bug_details" "the JSON object" ++
  Reply.marker Reply.completedName ++ "\n"

/-- The prompt for a snippet. -/
def render (p : Program) (snippet : String) : String :=
  p.instructions ++ "\n\n" ++ renderTypes p.taxonomy ++ renderDemos p.demos ++
    "\n" ++ Demo.snippetHeader ++ snippet ++ "\n" ++ renderFormat p.taxonomy

def json (p : Program) : Json :=
  .obj [("taxonomy", p.taxonomy.json), ("instructions", .str p.instructions),
    ("demos", .arr (p.demos.map Demo.json))]

def decoder : Json.Decoder Program := fun t => do
  let slots ← t.slots
    [.required "taxonomy" Taxonomy.decoder, .required "instructions" .string,
     .omitted "demos" (.listOf Demo.decoder)]
  pure
    { taxonomy := ← slots.get "taxonomy" Taxonomy.decoder
      instructions := ← slots.get "instructions" .string
      demos := ← slots.getD "demos" (.listOf Demo.decoder) [] }

end Program
end SnippetAudit
