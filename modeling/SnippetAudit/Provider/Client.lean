import SnippetAudit.Backend.Basic
import SnippetAudit.Json.Printer
import SnippetAudit.Provider.Address
import SnippetAudit.Provider.Settings
import SnippetAudit.Text.Quoted
import SnippetAudit.Text.Utf8

/-!
# The client of the model provider

A prompt is sent as one request, and the answer is either the text of the first candidate or a failure: of the
connection, of the status, of the body, or because there is no text. The connection is a parameter: a `Transport` takes
a request to a response, or to the fault why there is none. Every fault is a failure of the network, also that of an
address or a key that no request can be built from.
-/

namespace SnippetAudit.Provider

/-- The name under which requests are made. -/
def userAgent : String := "bugscan/0.3.1"

structure Request where
  address : Address
  apiKey : String
  prompt : String
  maxTokens : UInt32
  temperature : Float32

namespace Request

/-- The body of a request. -/
def body (r : Request) : String :=
  Json.compact (.obj
    [("contents", .arr [.obj
      [("role", .str "user"), ("parts", .arr [.obj [("text", .str r.prompt)]])]]),
     ("generationConfig", .obj
      [("maxOutputTokens", .nat r.maxTokens.toNat), ("temperature", .num (.real32 r.temperature))])])

end Request

structure Response where
  status : Nat
  body : ByteArray

/-- Why there is no response. One fault can be both late and unconnected. -/
structure Fault where
  isTimeout : Bool
  isConnect : Bool
  reason : String

namespace Fault

/-- The failure that a fault is passed on as. -/
def failure (f : Fault) : Failure :=
  if f.isTimeout then .network ("request timeout: " ++ f.reason)
  else if f.isConnect then .network ("connection failed: " ++ f.reason)
  else .network f.reason

/-- No request could be built. Which address it was for is not said, though a library for requests may do so where the
scheme is not its own. -/
def unbuilt : Fault := ⟨false, false, "builder error"⟩

/-- Nobody answers there. -/
def refused : Fault := ⟨false, true, "refused"⟩

end Fault

/-- Carries a request: a response, or why there is none. -/
abbrev Transport (σ : Type) := Request → σ → Except Fault Response × σ

/-! ### Reading answers -/

namespace Response

def isSuccess (r : Response) : Bool := 200 ≤ r.status && r.status < 300

def text (r : Response) : String := Text.decode r.body

def partDecoder : Json.Decoder (Option String) := fun t => do
  let slots ← t.slots [.optional "text" (.nullable .string)]
  slots.get? "text" .string

/-- The texts of a content, where a part may have none. -/
def contentDecoder : Json.Decoder (List (Option String)) := fun t => do
  let slots ← t.slots [.omitted "parts" (.listOf partDecoder)]
  slots.getD "parts" (.listOf partDecoder) []

def candidateDecoder : Json.Decoder (Option (List (Option String))) := fun t => do
  let slots ← t.slots [.optional "content" (.nullable contentDecoder)]
  slots.get? "content" contentDecoder

/-- The contents of the candidates. -/
def candidatesDecoder : Json.Decoder (List (Option (List (Option String)))) := fun t => do
  let slots ← t.slots [.omitted "candidates" (.listOf candidateDecoder)]
  slots.getD "candidates" (.listOf candidateDecoder) []

/-- The text of the first candidate. -/
def firstText? (candidates : List (Option (List (Option String)))) : Option String := do
  let content ← candidates.head?
  let parts ← content
  some (String.join (parts.filterMap id))

def messageDecoder : Json.Decoder String := fun t => do
  let slots ← t.slots [.required "message" .string]
  slots.get "message" .string

def errorDecoder : Json.Decoder String := fun t => do
  let slots ← t.slots [.required "error" messageDecoder]
  slots.get "error" messageDecoder

/-- What a body says about an error: the message in it, or all of it. -/
def errorMessage (body : String) : String :=
  (Json.decode? errorDecoder body).getD (Text.trimmed body)

/-- The failure of a status. -/
def statusFailure (status : Nat) (message : String) : Failure :=
  if status = 429 then .quotaExceeded message
  else if status = 401 ∨ status = 403 then .auth message
  else .api status message

/-- The text a response carries. -/
def completion (r : Response) : Except Failure String :=
  if !r.isSuccess then .error (statusFailure r.status (errorMessage r.text))
  else
    match Json.decode? candidatesDecoder r.text with
    | none => .error .serialization
    | some candidates =>
      match firstText? candidates with
      | none => .error .emptyCompletion
      | some text => if Text.isBlankText text then .error .emptyCompletion else .ok text

end Response

/-! ### The client -/

structure Client where
  settings : Settings
  apiKey : String

namespace Client

def name : String := "gemini"

/-- A client needs a key that is not blank. -/
def ofSettings (s : Settings) : Except Failure Client :=
  match s.apiKey.filter (!Text.isBlankText ·) with
  | some key => .ok ⟨s, key⟩
  | none =>
    .error (.config "no API key: set GOOGLE_API_KEY or GEMINI_API_KEY, or pass --api-key")

/-- Where prompts are sent. -/
def endpoint (c : Client) : String :=
  String.ofList ((c.settings.baseUrl.toList.reverse.dropWhile (· == '/')).reverse) ++
    "/models/" ++ c.settings.model ++ ":generateContent"

/-- A header may hold any character but controls; the tab is none here. -/
def isHeaderText (s : String) : Bool := s.toList.all fun c => c == '\t' || (0x20 ≤ c.toNat && c.toNat ≠ 0x7F)

/-- The request for a prompt, if one can be made: an address of a known scheme with a host is needed, and a key that a
header may hold. Whether the address is also one that can be asked for on the wire is left to the transport. -/
def request? (c : Client) (prompt : String) : Option Request :=
  match Address.ofText? c.endpoint with
  | some address =>
    if isHeaderText c.apiKey then
      some ⟨address, c.apiKey, prompt, c.settings.maxTokens, c.settings.temperature⟩
    else none
  | none => none

variable {σ : Type}

/-- Sends a prompt. -/
def complete (T : Transport σ) (c : Client) (prompt : String) (state : σ) : Except Failure Completion × σ :=
  match c.request? prompt with
  | none => (.error Fault.unbuilt.failure, state)
  | some request =>
    match T request state with
    | (.error fault, state) => (.error fault.failure, state)
    | (.ok response, state) => (response.completion.map (⟨·, c.settings.model⟩), state)

/-- The client as a backend. -/
def backend (T : Transport σ) (c : Client) : Backend σ := ⟨name, c.complete T⟩

/-- A client as it shows itself; the key is left out. -/
def describe (c : Client) : String :=
  "GeminiBackend \x7b model: " ++ Text.quoted c.settings.model ++ ", base_url: " ++
    Text.quoted c.settings.baseUrl ++ " \x7d"

end Client
end SnippetAudit.Provider
