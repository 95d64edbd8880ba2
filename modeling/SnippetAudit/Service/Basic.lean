import SnippetAudit.Batch.Basic
import SnippetAudit.Artifact.Store
import SnippetAudit.Provider.Client
import SnippetAudit.Service.Exchange
import SnippetAudit.Service.Settings

/-!
# The service

Detection over HTTP: a banner, the state, the bug types, one snippet, and many. A request for one snippet may name an
artifact below the directory of models, which serves that request only. The service keeps no state of its own, so an
answer depends on the requests before it through the backend, the files and the counters alone.
-/

namespace SnippetAudit

structure Service where
  detector : Detector
  models : Path
  deriving DecidableEq, Repr

namespace Service

variable {σ : Type}

def version : String := "0.3.1"

/-! ### Artifacts of requests -/

/-- The path below the directory of models that a request names: a relative one whose components are all names. -/
def confine (models : Path) (requested : String) : Option Path :=
  let components := Path.components ⟨requested⟩
  let isName := fun (c : Path.Component) => match c with
    | .name _ => true
    | _ => false
  if components.isEmpty || !components.all isName then none else some (models.join ⟨requested⟩)

/-- The detector of a request; nothing when the artifact it names is not among the models. -/
def detectorFor (s : Service) (requested : Option String) : Audit σ (Option Detector) := do
  match requested with
  | none => return some s.detector
  | some name =>
    match confine s.models name with
    | none => return none
    | some path => return some (← Detector.withArtifact s.detector.program.taxonomy (some path))

/-! ### Bodies -/

/-- A snippet to look at. -/
structure Inquiry where
  code : String
  artifact : Option String
  deriving DecidableEq, Repr

def Inquiry.decoder : Json.Decoder Inquiry := fun t => do
  let slots ← t.slots [.required "code" .string, .omitted "model_path" (.nullable .string)]
  pure ⟨← slots.get "code" .string, ← slots.get? "model_path" .string⟩

/-- The longest body, in bytes. -/
def bodyLimit : Nat := 2097152

/-- The value of a body, or the refusal of the request. -/
def readBody {α : Type} (d : Json.Decoder α) (r : Request) : Except Response α :=
  if !r.isJson then .error (.refused 415)
  else if bodyLimit < r.body.utf8ByteSize then .error (.refused 413)
  else
    match Json.decode d r.body.toList with
    | .ok a => .ok a
    | .error .malformed => .error (.refused 400)
    | .error .mistyped => .error (.refused 422)

/-- A finding as it is answered: the type and the explanation are always there. -/
def findingJson (f : Finding) : Json :=
  .obj
    [("line_number", match f.line with
      | some n => .nat n.toNat
      | none => .null),
     ("code_line", .strOrNull f.code), ("bug_type_id", .str (f.typeId.getD "Unknown")),
     ("explanation", .str (f.explanation.getD ""))]

def findingsJson (v : Verdict) : Json := .arr (v.bugs.map findingJson)

/-- An error with its wording. -/
def detail (status : Nat) (text : String) : Response :=
  .ofJson status (Json.compact (.obj [("detail", .str text)]))

/-! ### Endpoints -/

inductive Endpoint where
  | banner
  | health
  | types
  | detect
  | batch
  deriving DecidableEq, Repr

namespace Endpoint

def ofPath? (path : String) : Option Endpoint :=
  [("/", banner), ("/health", health), ("/bug-types", types), ("/detect", detect),
   ("/batch-detect", batch)].lookup path

def isPost : Endpoint → Bool
  | .detect => true
  | .batch => true
  | _ => false

/-- The methods of an endpoint. -/
def allow (e : Endpoint) : String := if e.isPost then "POST" else "GET,HEAD"

def accepts (e : Endpoint) (method : String) : Bool :=
  if e.isPost then method == "POST" else method == "GET" || method == "HEAD"

end Endpoint

def bannerJson : Json := .obj [("message", .str "bugscan API"), ("version", .str version)]

def healthJson (s : Service) : Json :=
  .obj [("status", .str "healthy"), ("version", .str version), ("model_loaded", .bool s.detector.optimized)]

def typesJson (t : Taxonomy) : Json :=
  .arr (t.entries.map fun (id, description) =>
    .obj [("bug_type_id", .str id), ("description", .str description)])

/-- Looks at one snippet. -/
def answerDetect (B : Backend σ) (s : Service) (q : Inquiry) : Audit σ Response := do
  match ← s.detectorFor q.artifact with
  | none =>
    return detail 400
      ("model_path must be a relative path inside the models directory: " ++ q.artifact.getD "")
  | some detector =>
    match ← detector.detect B q.code with
    | .error e => return detail 500 ("detection failed: " ++ e.message)
    | .ok v =>
      return .ofJson 200 (Json.compact (.obj
        [("has_bug", .bool v.hasBug), ("bugs", findingsJson v), ("model_type", .str detector.modelType)]))

/-- An item of an answer about many snippets. -/
def itemJson (index : Nat) : Outcome → Json
  | .detected v =>
    .obj [("index", .nat index), ("has_bug", .bool v.hasBug), ("bugs", findingsJson v), ("success", .bool true)]
  | .failed reason => .obj [("index", .nat index), ("error", .str reason), ("success", .bool false)]

/-- Looks at many snippets, always with the detector of the start. -/
def answerBatch (B : Backend σ) (s : Service) (qs : List Inquiry) : Audit σ Response := do
  let outcomes ← Batch.detectSnippets B s.detector (qs.map (·.code))
  return .ofJson 200 (Json.compact (.obj
    [("total", .nat qs.length), ("results", .arr (outcomes.mapIdx itemJson))]))

def answerEndpoint (B : Backend σ) (s : Service) (r : Request) : Endpoint → Audit σ Response
  | .banner => return .ofJson 200 bannerJson.compact
  | .health => return .ofJson 200 s.healthJson.compact
  | .types => return .ofJson 200 (typesJson s.detector.program.taxonomy).compact
  | .detect =>
    match readBody Inquiry.decoder r with
    | .error refusal => return refusal
    | .ok q => answerDetect B s q
  | .batch =>
    match readBody (.listOf Inquiry.decoder) r with
    | .error refusal => return refusal
    | .ok qs => answerBatch B s qs

/-- Answers a request. `OPTIONS` is answered for every path, and `HEAD` like `GET` without the body. -/
def answer (B : Backend σ) (s : Service) (r : Request) : Audit σ Response := do
  let endpoint := Endpoint.ofPath? r.path
  if r.method == "OPTIONS" then return .empty 200 (endpoint.map Endpoint.allow)
  match endpoint with
  | none => return .empty 404 none
  | some e =>
    if !e.accepts r.method then return .empty 405 (some e.allow)
    let response ← answerEndpoint B s r e
    return if r.method == "HEAD" then { response with body := "" } else response

/-! ### Starting -/

/-- The service of an environment with its backend, up to listening: the settings, then the client, then the detector,
then the address. -/
def prepare (T : Provider.Transport σ) (env : Environment) : Audit σ (Except Trouble (Service × Backend σ)) := do
  match Settings.ofEnvironment (← Audit.files) env with
  | .error t => return .error t
  | .ok settings =>
    match Provider.Client.ofSettings (.ofEnvironment env) with
    | .error e => return .error (.ofFailure "cannot configure the model backend (set GOOGLE_API_KEY)" e)
    | .ok client =>
      let detector ← Detector.withArtifact settings.taxonomy settings.artifact
      match Settings.bindFault? settings.bind with
      | some fault => return .error ⟨"failed to bind " ++ settings.bind, [some fault]⟩
      | none => return .ok (⟨detector, settings.models⟩, client.backend T)

end Service
end SnippetAudit
