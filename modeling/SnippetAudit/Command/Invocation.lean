import SnippetAudit.Batch.Basic
import SnippetAudit.Command.Options
import SnippetAudit.Evaluation
import SnippetAudit.Number.Reader
import SnippetAudit.Provider.Settings
import SnippetAudit.Artifact.Basic

/-!
# Invocations

What a command line asks for. An option that is not given takes its value from the environment where it has a
variable, and else its default. The general options may stand before and behind the name of the command; each of the
two places is read by itself, and the later one counts unless the earlier one has the better source.
-/

namespace SnippetAudit.Command

/-- How a result is printed. -/
inductive Style where
  | text
  | json
  deriving DecidableEq, Repr

/-- How a program is optimized. -/
inductive Strategy where
  | bootstrap
  | reflective
  deriving DecidableEq, Repr

/-- Which model answers, and with which artifact. -/
structure ModelChoice where
  artifact : Option Path
  apiKey : Option String
  model : Option String
  deriving DecidableEq, Repr

structure TrainOptions where
  maxSamples : Nat
  demos : Nat
  rounds : Nat
  strategy : Strategy
  trainLimit : Nat
  evaluated : Nat
  deriving DecidableEq, Repr

inductive Task where
  | detect (file : Path) (style : Style) (choice : ModelChoice)
  | quick (code : Option String) (choice : ModelChoice)
  | batch (directory : Path) (pattern : String) (report : Option Path) (choice : ModelChoice)
  | listTypes
  | train (dataset : Path) (options : TrainOptions) (output : Path) (choice : ModelChoice)
  | evaluate (dataset : Path) (samples : Nat) (maxSamples : Option Nat) (style : Style) (choice : ModelChoice)
  deriving DecidableEq, Repr

structure Invocation where
  verbose : Bool
  jsonLogs : Bool
  taxonomy : Taxonomy
  task : Task
  deriving DecidableEq, Repr

/-- What a command line that can be read asks for. -/
inductive Reading where
  | run (i : Invocation)
  | version
  | help
  deriving DecidableEq, Repr

/-! ### Grammars -/

def generalOptions : List OptionRule :=
  [⟨"verbose", some 'v', .switch⟩, ⟨"json-logs", none, .switch⟩, ⟨"taxonomy", none, .value .taxonomy⟩,
   ⟨"help", some 'h', .inquiry⟩]

def modelOptions : List OptionRule :=
  [⟨"model", some 'm', .value .path⟩, ⟨"api-key", some 'k', .value .text⟩, ⟨"llm", none, .value .text⟩]

/-- The grammar of the words up to the name of the command. -/
def outerGrammar : Grammar := ⟨generalOptions ++ [⟨"version", some 'V', .inquiry⟩], [], true⟩

/-- The grammar of the words behind the name of a command. -/
def innerGrammar (options : List OptionRule) (words : List Shape) : Grammar := ⟨generalOptions ++ options, words, false⟩

def outputOption (shape : Shape) : OptionRule := ⟨"output", some 'o', .value shape⟩

def style : Shape := .oneOf ["text", "json"]

/-- The names of the commands, each with the grammar of what follows. -/
def commands : List (String × Grammar) :=
  [("detect", innerGrammar (outputOption style :: modelOptions) [.path]),
   ("quick", innerGrammar modelOptions [.text]),
   ("batch", innerGrammar (⟨"pattern", some 'p', .value .text⟩ :: outputOption .path :: modelOptions) [.path]),
   ("list-types", innerGrammar [] []),
   ("train", innerGrammar
     ([⟨"max-samples", none, .value .count⟩, ⟨"demos", none, .value .count⟩, ⟨"rounds", none, .value .count⟩,
       ⟨"optimizer", none, .value (.oneOf ["bootstrap", "reflective"])⟩, ⟨"train-limit", none, .value .count⟩,
       ⟨"eval-samples", none, .value .count⟩, outputOption .path] ++ modelOptions) [.path]),
   ("evaluate", innerGrammar
     ([⟨"samples", none, .value .count⟩, ⟨"max-samples", none, .value .count⟩, outputOption style] ++ modelOptions)
     [.path])]

/-- The command that tells of commands. -/
def helpName : String := "help"

/-- Whether the words behind that command name something it can tell of. -/
def isTopic : List String → Bool
  | [] => true
  | [name] => name == helpName || (commands.lookup name).isSome
  | _ => false

/-! ### Values -/

/-- A path may not be empty. -/
def path? (s : String) : Option Path := if s.isEmpty then none else some ⟨s⟩

def style? : String → Option Style
  | "text" => some .text
  | "json" => some .json
  | _ => none

def strategy? : String → Option Strategy
  | "bootstrap" => some .bootstrap
  | "reflective" => some .reflective
  | _ => none

namespace Given

/-- The value of an option, or a default where it is not given. -/
def readD {α : Type} (g : Given) (name : String) (read : String → Option α) (fallback : α) : Option α :=
  match g.value? name with
  | some v => read v
  | none => some fallback

/-- The value of an option that may be missing. -/
def read? {α : Type} (g : Given) (name : String) (read : String → Option α) : Option (Option α) :=
  g.readD name (fun v => (read v).map some) none

/-- The value of an option with a variable. -/
def readFrom? {α : Type} (g : Given) (env : Environment) (name variableName : String) (read : String → Option α) :
    Option (Option α) :=
  match g.value? name with
  | some v => (read v).map some
  | none =>
    match env.value? variableName with
    | some v => (read v).map some
    | none => some none

/-- The only word. -/
def word? (g : Given) : Option String :=
  match g.words with
  | [w] => some w
  | _ => none

end Given

def choice? (env : Environment) (g : Given) : Option ModelChoice := do
  pure
    { artifact := ← g.readFrom? env "model" "BUGSCAN_MODEL_PATH" path?
      apiKey := ← g.readFrom? env "api-key" "GOOGLE_API_KEY" some
      model := ← g.readFrom? env "llm" "BUGSCAN_LLM_MODEL" some }

/-- The task of a command. -/
def task? (env : Environment) (command : String) (g : Given) : Option Task :=
  match command with
  | "detect" => do
    pure (.detect (← g.word? >>= path?) (← g.readD "output" style? .text) (← choice? env g))
  | "quick" => do
    if 1 < g.words.length then none
    pure (.quick g.words.head? (← choice? env g))
  | "batch" => do
    pure (.batch (← g.word? >>= path?) (← g.readD "pattern" some Batch.defaultPattern)
      (← g.read? "output" path?) (← choice? env g))
  | "list-types" => if g.words.isEmpty then some .listTypes else none
  | "train" => do
    let options : TrainOptions :=
      { maxSamples := ← g.readD "max-samples" count? 100
        demos := ← g.readD "demos" count? 6
        rounds := ← g.readD "rounds" count? 3
        strategy := ← g.readD "optimizer" strategy? .bootstrap
        trainLimit := ← g.readD "train-limit" count? 50
        evaluated := ← g.readD "eval-samples" count? Evaluation.defaultLimit }
    pure (.train (← g.word? >>= path?) options (← g.readD "output" path? Artifact.defaultPath) (← choice? env g))
  | "evaluate" => do
    pure (.evaluate (← g.word? >>= path?) (← g.readD "samples" count? Evaluation.defaultLimit)
      (← g.read? "max-samples" count?) (← g.readD "output" style? .text) (← choice? env g))
  | _ => none

/-! ### The taxonomy -/

/-- Where a value comes from, the better source last. -/
inductive Source where
  | fallback
  | variable
  | given
  deriving DecidableEq, Repr

def Source.rank : Source → Nat
  | .fallback => 0
  | .variable => 1
  | .given => 2

/-- The taxonomy at one place of the command line. -/
def taxonomyAt? (env : Environment) (g : Given) : Option (Source × Taxonomy) :=
  match g.value? "taxonomy" with
  | some name => (Taxonomy.ofName? name).map (Source.given, ·)
  | none =>
    match env.value? "BUGSCAN_TAXONOMY" with
    | some name => (Taxonomy.ofName? name).map (Source.variable, ·)
    | none => some (.fallback, .hierarchical)

/-- The one of two taxonomies that counts. -/
def better (outer inner : Source × Taxonomy) : Taxonomy :=
  if inner.1.rank < outer.1.rank then outer.2 else inner.2

/-- What an inquiry by an option is answered with. -/
def answer (name : String) : Reading := if name == "version" then .version else .help

/-! ### Reading -/

/-- What the words behind the name of a command ask for. -/
def readInner? (env : Environment) (outer : Given) (command : String) (words : List String) : Option Reading := do
  let grammar ← commands.lookup command
  let (inner, ending) ← grammar.read (.ready .empty) words
  match ending with
  | .inquiry name => pure (answer name)
  | .command _ _ => none
  | .done =>
    let task ← task? env command inner
    let taxonomy := better (← taxonomyAt? env outer) (← taxonomyAt? env inner)
    pure (.run
      { verbose := outer.has "verbose" || inner.has "verbose"
        jsonLogs := outer.has "json-logs" || inner.has "json-logs"
        taxonomy
        task })

/-- What a command line asks for; nothing where it cannot be read. -/
def read? (env : Environment) (words : List String) : Option Reading := do
  let (outer, ending) ← outerGrammar.read (.ready .empty) words
  match ending with
  | .done => none
  | .inquiry name => pure (answer name)
  | .command name rest =>
    if name == helpName then (if isTopic rest then some .help else none) else readInner? env outer name rest

end SnippetAudit.Command
