import SnippetAudit.Number.Reader
import SnippetAudit.Taxonomy

/-!
# Options

How the words of a command line are told apart. An option is known by a name behind two dashes, and maybe by a letter
behind one. Its value follows an equals sign, or as the next word; behind a letter it may follow at once. Letters
without values may stand together. Two dashes alone end the options. No option may be given twice, no value may have
another shape than its option asks for, and there are not more words than the command takes. What is wrong counts
where it stands: an inquiry is answered only when nothing before it is wrong.
-/

namespace SnippetAudit.Command

/-- What a value may be. -/
inductive Shape where
  | text
  /-- A path is not empty. -/
  | path
  | count
  | oneOf (names : List String)
  | taxonomy
  deriving DecidableEq, Repr

/-- The number of a count. -/
def count? (s : String) : Option Nat := Number.natBelow? UInt64.size s.toList

def Shape.admits : Shape → String → Bool
  | .text, _ => true
  | .path, s => !s.isEmpty
  | .count, s => (count? s).isSome
  | .oneOf names, s => names.contains s
  | .taxonomy, s => (Taxonomy.ofName? s).isSome

inductive OptionKind where
  /-- On or off. -/
  | switch
  | value (shape : Shape)
  /-- Asks for a text of the program itself; nothing behind it is looked at. -/
  | inquiry
  deriving DecidableEq, Repr

structure OptionRule where
  name : String
  letter : Option Char
  kind : OptionKind
  deriving DecidableEq, Repr

/-- The options of a command, the shapes of its other words, and whether the first one names a command instead. -/
structure Grammar where
  options : List OptionRule
  words : List Shape
  hasCommands : Bool
  deriving DecidableEq, Repr

/-- What was given: options with their values, and other words, both in order. -/
structure Given where
  options : List (String × String)
  words : List String
  deriving DecidableEq, Repr

namespace Given

def empty : Given := ⟨[], []⟩

def has (g : Given) (name : String) : Bool := (g.options.lookup name).isSome

def value? (g : Given) (name : String) : Option String := g.options.lookup name

/-- Records an option that was not given before. -/
def add (g : Given) (name value : String) : Option Given :=
  if g.has name then none else some { g with options := g.options ++ [(name, value)] }

/-- Records the value of an option that was not given before. -/
def addValue (g : Given) (name : String) (shape : Shape) (value : String) : Option Given :=
  if shape.admits value then g.add name value else none

/-- Records a word, where the shapes of all words are given. -/
def addWord (g : Given) (shapes : List Shape) (word : String) : Option Given :=
  match shapes[g.words.length]? with
  | some shape => if shape.admits word then some { g with words := g.words ++ [word] } else none
  | none => none

end Given

/-- How reading ends: with the last word, at the name of a command, or at an inquiry. -/
inductive Ending where
  | done
  | command (name : String) (rest : List String)
  | inquiry (name : String)
  deriving DecidableEq, Repr

/-- A word of a command line. -/
inductive Word where
  | escape
  | long (name : String) (value : Option String)
  | letters (cs : List Char)
  | plain (text : String)
  deriving DecidableEq, Repr

/-- What a word is by its dashes. A dash alone is a plain word. -/
def Word.ofText (s : String) : Word :=
  match s.toList with
  | ['-', '-'] => .escape
  | '-' :: '-' :: r =>
    match Text.cutAt ['='] r with
    | some (name, value) => .long (String.ofList name) (some (String.ofList value))
    | none => .long (String.ofList r) none
  | '-' :: c :: r => .letters (c :: r)
  | _ => .plain s

/-- Where reading stands: what was given, and an option that waits for its value, or an inquiry. -/
inductive Position where
  | ready (g : Given)
  | waiting (g : Given) (name : String) (shape : Shape)
  | asked (g : Given) (name : String)
  deriving DecidableEq, Repr

namespace Grammar

def byName? (G : Grammar) (name : String) : Option OptionRule := G.options.find? (·.name == name)

def byLetter? (G : Grammar) (c : Char) : Option OptionRule := G.options.find? (·.letter == some c)

/-- Reads an option by its name. -/
def long (G : Grammar) (g : Given) (name : String) (value : Option String) : Option Position := do
  let rule ← G.byName? name
  match rule.kind, value with
  | .value shape, some v => (g.addValue rule.name shape v).map .ready
  | .value shape, none => some (.waiting g rule.name shape)
  | .switch, none => (g.add rule.name "").map .ready
  | .inquiry, none => some (.asked g rule.name)
  | _, some _ => none

/-- Reads letters. -/
def letters (G : Grammar) (g : Given) : List Char → Option Position
  | [] => some (.ready g)
  | c :: cs =>
    match G.byLetter? c with
    | none => none
    | some rule =>
      match rule.kind with
      | .switch =>
        match g.add rule.name "" with
        | some g => letters G g cs
        | none => none
      | .inquiry => some (.asked g rule.name)
      | .value shape =>
        match cs with
        | [] => some (.waiting g rule.name shape)
        | '=' :: v => (g.addValue rule.name shape (String.ofList v)).map .ready
        | v => (g.addValue rule.name shape (String.ofList v)).map .ready

/-- Reads words from a position on. -/
def read (G : Grammar) : Position → List String → Option (Given × Ending)
  | .asked g name, _ => some (g, .inquiry name)
  | .ready g, [] => some (g, .done)
  | .waiting _ _ _, [] => none
  | .waiting g name shape, s :: rest =>
    match Word.ofText s with
    | .plain v =>
      match g.addValue name shape v with
      | some g => read G (.ready g) rest
      | none => none
    | _ => none
  | .ready g, s :: rest =>
    match Word.ofText s with
    | .escape => (rest.foldlM (Given.addWord · G.words) g).map (·, .done)
    | .long name value =>
      match G.long g name value with
      | some p => read G p rest
      | none => none
    | .letters cs =>
      match G.letters g cs with
      | some p => read G p rest
      | none => none
    | .plain w =>
      if G.hasCommands then some (g, .command w rest)
      else
        match g.addWord G.words w with
        | some g => read G (.ready g) rest
        | none => none

end Grammar
end SnippetAudit.Command
