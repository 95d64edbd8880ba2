import SnippetAudit.Json.Decoder
import SnippetAudit.Json.Printer
import SnippetAudit.Number.Reader
import SnippetAudit.Text.Blank
import SnippetAudit.Text.Search

/-!
# Settings of the model provider

Which model answers, where it is asked and how. The settings start from the environment; a variable whose text is no
value of its kind counts as not set. The key is never printed.
-/

namespace SnippetAudit

/-- Environment variables by name. -/
abbrev Environment := List (String × String)

/-- The value of a variable that is set. -/
def Environment.value? (env : Environment) (name : String) : Option String := env.lookup name

namespace Provider

structure Settings where
  model : String
  baseUrl : String
  apiKey : Option String
  maxTokens : UInt32
  temperature : Float32
  timeoutSeconds : UInt64

namespace Settings

def defaultModel : String := "gemini-1.5-flash"

def defaultBaseUrl : String := "https://generativelanguage.googleapis.com/v1beta"

def defaultMaxTokens : UInt32 := 4000

def defaultTimeout : UInt64 := 120

/-- The variables with a key, the first choice first. -/
def keyVariables : List String := ["GOOGLE_API_KEY", "GEMINI_API_KEY"]

/-- The first key that is not blank. -/
def key? (env : Environment) : Option String :=
  (keyVariables.filterMap env.value?).find? (!Text.isBlankText ·)

/-- The value of a variable by a reader that is given no blanks at the ends. -/
def setting? {α : Type} (env : Environment) (name : String) (read : List Char → Option α) : Option α :=
  env.value? name >>= fun s => read (Text.trim s.toList)

def tokens? (s : List Char) : Option UInt32 := (Number.natBelow? UInt32.size s).map UInt32.ofNat

def seconds? (s : List Char) : Option UInt64 := (Number.natBelow? UInt64.size s).map UInt64.ofNat

def temperature? (s : List Char) : Option Float32 :=
  (Number.binary? Number.single s).map Number.Binary.toFloat32

/-- The settings of an environment. -/
def ofEnvironment (env : Environment) : Settings where
  model := (env.value? "BUGSCAN_LLM_MODEL").getD defaultModel
  baseUrl := (env.value? "BUGSCAN_LLM_BASE_URL").getD defaultBaseUrl
  apiKey := key? env
  maxTokens := (setting? env "BUGSCAN_MAX_TOKENS" tokens?).getD defaultMaxTokens
  temperature := (setting? env "BUGSCAN_TEMPERATURE" temperature?).getD 0.0
  timeoutSeconds := (setting? env "BUGSCAN_TIMEOUT_SECS" seconds?).getD defaultTimeout

/-- The name of a model without the name of its family in front. -/
def bareModel (name : String) : String :=
  match Text.stripStart? "gemini/".toList name.toList with
  | some bare => String.ofList bare
  | none => name

def withModel (s : Settings) (name : String) : Settings := { s with model := bareModel name }

def json (s : Settings) : Json :=
  .obj
    [("model", .str s.model), ("base_url", .str s.baseUrl), ("max_tokens", .nat s.maxTokens.toNat),
     ("temperature", .num (.real32 s.temperature)), ("timeout_secs", .nat s.timeoutSeconds.toNat)]

/-- A number as a single. -/
def singleDecoder : Json.Decoder Float32
  | .num (some (.whole n)) => .ok (Number.nearest Number.single (n < 0) ⟨n.natAbs, 0⟩).toFloat32
  | .num (some (.real x)) => .ok x.toFloat32
  | t => t.mismatch

def tokensDecoder : Json.Decoder UInt32 := fun t => (Json.Decoder.natBelow UInt32.size t).map UInt32.ofNat

def secondsDecoder : Json.Decoder UInt64 := fun t => (Json.Decoder.natBelow UInt64.size t).map UInt64.ofNat

def decoder : Json.Decoder Settings := fun t => do
  let slots ← t.slots
    [.required "model" .string, .required "base_url" .string, .optional "api_key" (.nullable .string),
     .required "max_tokens" tokensDecoder, .required "temperature" singleDecoder,
     .required "timeout_secs" secondsDecoder]
  pure
    { model := ← slots.get "model" .string
      baseUrl := ← slots.get "base_url" .string
      apiKey := ← slots.get? "api_key" .string
      maxTokens := ← slots.get "max_tokens" tokensDecoder
      temperature := ← slots.get "temperature" singleDecoder
      timeoutSeconds := ← slots.get "timeout_secs" secondsDecoder }

end Settings
end Provider
end SnippetAudit
