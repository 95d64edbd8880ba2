import SnippetAudit.Json.Reader

/-!
# Typed decoding

A decoder takes a tree to a value of a type. It walks the tree in the order of the text, so of several faults the
first one counts: `malformed` where the text is not JSON, `mistyped` where it is JSON of another shape.

A record is an object or the array of its fields in their order. In an object unknown names are passed over and a
known name may stand once only. In an array the fields at the end may be missing when they are marked `omissible`.
-/

namespace SnippetAudit.Json

/-- Why a text holds no value of a type. -/
inductive Fault where
  | malformed
  | mistyped
  deriving DecidableEq, Repr

abbrev Decoder (α : Type) := Tree → Except Fault α

/-- The fault of a tree where a scalar of another type is wanted. -/
def Tree.mismatch {α : Type} : Tree → Except Fault α
  | .num none => .error .malformed
  | .str none => .error .malformed
  | .broken => .error .malformed
  | _ => .error .mistyped

mutual

/-- Whether a tree is JSON throughout. -/
def Tree.sound : Tree → Bool
  | .arr ts => Tree.soundItems ts
  | .obj ms => Tree.soundMembers ms
  | .broken => false
  | _ => true

def Tree.soundItems : List Tree → Bool
  | [] => true
  | t :: ts => t.sound && Tree.soundItems ts

def Tree.soundMembers : List (Option String × Tree) → Bool
  | [] => true
  | (_, t) :: ms => t.sound && Tree.soundMembers ms

end

namespace Decoder

/-- Passes over a value. -/
def skip : Decoder Unit := fun t => if t.sound then .ok () else .error .malformed

def string : Decoder String
  | .str (some s) => .ok s
  | t => t.mismatch

def bool : Decoder Bool
  | .bool b => .ok b
  | t => t.mismatch

/-- An integer from 0 up to but not including `bound`. -/
def natBelow (bound : Nat) : Decoder Nat
  | .num (some (.whole n)) => if 0 ≤ n ∧ n < bound then .ok n.toNat else .error .mistyped
  | t => t.mismatch

/-- A number as a double. -/
def float : Decoder Float
  | .num (some (.whole n)) => .ok (Float.ofInt n)
  | .num (some (.real x)) => .ok x
  | t => t.mismatch

/-- Null, or a value. -/
def nullable {α : Type} (d : Decoder α) : Decoder (Option α)
  | .null => .ok none
  | t => (d t).map some

def listOf {α : Type} (d : Decoder α) : Decoder (List α)
  | .arr ts => ts.mapM d
  | t => t.mismatch

/-- One of a list of names: as a string, or as the only member of an object, with the value null. -/
def oneOf {α : Type} (names : List (String × α)) : Decoder α
  | .str (some s) => pick s
  | .obj [(some s, .null)] => pick s
  | t => t.mismatch
where
  pick (s : String) : Except Fault α :=
    match names.lookup s with
    | some a => .ok a
    | none => .error .mistyped

end Decoder

/-- What a record knows of a field before it is looked at: its name, whether a tree can be its value, and whether
an array may end before it. -/
structure Field where
  name : String
  check : Tree → Except Fault Unit
  omissible : Bool

namespace Field

/-- A field that must be there. -/
def required {α : Type} (name : String) (d : Decoder α) : Field :=
  ⟨name, fun t => (d t).map fun _ => (), false⟩

/-- A field that an object may leave out. -/
def optional {α : Type} (name : String) (d : Decoder α) : Field :=
  ⟨name, fun t => (d t).map fun _ => (), false⟩

/-- A field that may be missing everywhere. -/
def omitted {α : Type} (name : String) (d : Decoder α) : Field :=
  ⟨name, fun t => (d t).map fun _ => (), true⟩

end Field

/-- The trees of the fields that are there. -/
abbrev Slots := List (String × Tree)

/-- The fields of an object, member by member. -/
def Slots.ofMembers (fields : List Field) (seen : Slots) : List (Option String × Tree) → Except Fault Slots
  | [] => .ok seen
  | (none, _) :: _ => .error .malformed
  | (some n, t) :: ms =>
    match fields.find? (·.name == n) with
    | none => do
      Decoder.skip t
      Slots.ofMembers fields seen ms
    | some f =>
      if (seen.lookup n).isSome then .error .mistyped
      else do
        f.check t
        Slots.ofMembers fields (seen ++ [(n, t)]) ms

/-- The fields of an array, in their order. -/
def Slots.ofItems : List Field → List Tree → Except Fault Slots
  | [], [] => .ok []
  | [], _ :: _ => .error .malformed
  | f :: fs, [] => if f.omissible then Slots.ofItems fs [] else .error .mistyped
  | f :: fs, t :: ts => do
    f.check t
    let rest ← Slots.ofItems fs ts
    pure ((f.name, t) :: rest)

/-- The fields of a record. -/
def Tree.slots (fields : List Field) : Tree → Except Fault Slots
  | .obj ms => Slots.ofMembers fields [] ms
  | .arr ts => Slots.ofItems fields ts
  | t => t.mismatch

namespace Slots

/-- The value of a field that must be there. -/
def get {α : Type} (slots : Slots) (name : String) (d : Decoder α) : Except Fault α :=
  match slots.lookup name with
  | some t => d t
  | none => .error .mistyped

/-- The value of a field, or another one where it is missing. -/
def getD {α : Type} (slots : Slots) (name : String) (d : Decoder α) (fallback : α) : Except Fault α :=
  match slots.lookup name with
  | some t => d t
  | none => .ok fallback

/-- The value of a field that may be missing or null. -/
def get? {α : Type} (slots : Slots) (name : String) (d : Decoder α) : Except Fault (Option α) :=
  slots.getD name (Decoder.nullable d) none

end Slots

/-- The value of a whole text. -/
def decode {α : Type} (d : Decoder α) (s : List Char) : Except Fault α := do
  let (t, whole) := read s
  let a ← d t
  if whole then pure a else .error .malformed

/-- The value of a text that has one. -/
def decode? {α : Type} (d : Decoder α) (s : String) : Option α := (decode d s.toList).toOption

mutual

/-- A value as a tree. -/
def tree : Json → Tree
  | .null => .null
  | .bool b => .bool b
  | .num n => .num (some n)
  | .str s => .str (some s)
  | .arr vs => .arr (trees vs)
  | .obj ms => .obj (treeMembers ms)

def trees : List Json → List Tree
  | [] => []
  | v :: vs => v.tree :: trees vs

def treeMembers : List (String × Json) → List (Option String × Tree)
  | [] => []
  | (n, v) :: ms => (some n, v.tree) :: treeMembers ms

end

end SnippetAudit.Json
