import SnippetAudit.Number.Shortest

/-!
# JSON values

A value as it is read from a text or built for printing. Members keep the order they are listed in; `Json.ofMembers`
builds the object of a text, where a name given twice means its last value and the names stand in order.
-/

namespace SnippetAudit

/-- A number: an integer, or a binary number of one of the two formats. -/
inductive Json.Num where
  | whole (n : Int)
  | real (x : Float)
  | real32 (x : Float32)

inductive Json where
  | null
  | bool (b : Bool)
  | num (n : Json.Num)
  | str (s : String)
  | arr (items : List Json)
  | obj (members : List (String × Json))

namespace Json

instance : Inhabited Json := ⟨.null⟩

/-- A natural number. -/
def nat (n : Nat) : Json := .num (.whole n)

/-- A double; NaN and the infinities have no text of their own and print as null. -/
def real (x : Float) : Json := .num (.real x)

/-- A string, or null. -/
def strOrNull : Option String → Json
  | none => .null
  | some s => .str s

/-- Sets a member, at its place in the order of the names. -/
def insertMember (name : String) (value : Json) : List (String × Json) → List (String × Json)
  | [] => [(name, value)]
  | (n, v) :: ms =>
    if name = n then (name, value) :: ms
    else if name < n then (name, value) :: (n, v) :: ms
    else (n, v) :: insertMember name value ms

/-- The object with the given members, ordered by name; the last value of a name counts. -/
def ofMembers (ms : List (String × Json)) : Json :=
  .obj (ms.foldl (fun acc m => insertMember m.1 m.2 acc) [])

/-- The value of a member, for an object that has it. -/
def member? (name : String) : Json → Option Json
  | .obj ms => ms.lookup name
  | _ => none

def asString? : Json → Option String
  | .str s => some s
  | _ => none

def asArray? : Json → Option (List Json)
  | .arr items => some items
  | _ => none

end Json
end SnippetAudit
