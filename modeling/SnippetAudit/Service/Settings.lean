import SnippetAudit.Artifact.Store
import SnippetAudit.Number.Reader
import SnippetAudit.Provider.Settings
import SnippetAudit.Trouble

/-!
# Settings of the service

Where the service listens, what it detects with, and where artifacts may be asked for. The settings come from the
environment; only an unknown taxonomy is refused.
-/

namespace SnippetAudit.Service

structure Settings where
  bind : String
  taxonomy : Taxonomy
  /-- The artifact loaded at the start. -/
  artifact : Option Path
  /-- The directory of the artifacts that requests may name. -/
  models : Path
  jsonLogs : Bool
  deriving DecidableEq, Repr

namespace Settings

def defaultBind : String := "0.0.0.0:8000"

def defaultModels : Path := ⟨"models"⟩

/-- The words that switch something on. -/
def isOn (word : String) : Bool := ["1", "true", "yes"].contains word

def taxonomy? (env : Environment) : Except Trouble Taxonomy :=
  match env.value? "BUGSCAN_TAXONOMY" with
  | none => .ok .hierarchical
  | some name =>
    match Taxonomy.ofName? name with
    | some t => .ok t
    | none => .error ⟨"invalid BUGSCAN_TAXONOMY", [some (Taxonomy.unknownName name)]⟩

/-- The settings of an environment. -/
def ofEnvironment (fs : Files) (env : Environment) : Except Trouble Settings := do
  pure
    { bind := (env.value? "BUGSCAN_BIND").getD defaultBind
      taxonomy := ← taxonomy? env
      artifact := Artifact.resolve fs ⟨"."⟩ ((env.value? "BUGSCAN_MODEL_PATH").map Path.mk)
      models := ((env.value? "BUGSCAN_MODELS_DIR").map Path.mk).getD defaultModels
      jsonLogs := ((env.value? "BUGSCAN_JSON_LOGS").map isOn).getD false }

/-- What is wrong with an address to listen at: it needs a port behind its last colon. -/
def bindFault? (address : String) : Option String :=
  match Text.fromLast [':'] address.toList with
  | none => some "invalid socket address"
  | some tail =>
    match Number.natBelow? 65536 (tail.drop 1) with
    | none => some "invalid port value"
    | some _ => none

end Settings
end SnippetAudit.Service
