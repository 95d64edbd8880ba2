import SnippetAudit.Text.Search

/-!
# Paths

A path is its text. Its components are the names between slashes: a repeated slash, a trailing slash and a `.` that is
not in front count for nothing. Paths are compared component by component.
-/

namespace SnippetAudit

structure Path where
  text : String
  deriving DecidableEq, Repr

namespace Path

inductive Component where
  | root
  | here
  | up
  | name (s : String)
  deriving DecidableEq, Repr

/-- The component of the text between two slashes. -/
def Component.ofSegment? (s : List Char) : Option Component :=
  if s = [] ∨ s = ['.'] then none
  else if s = ['.', '.'] then some .up
  else some (.name (String.ofList s))

/-- The texts between the slashes. -/
def segments (p : Path) : List (List Char) := Text.splitAt '/' p.text.toList

def isAbsolute (p : Path) : Bool := p.text.toList.head? == some '/'

def components (p : Path) : List Component :=
  let rest := p.segments.filterMap Component.ofSegment?
  if p.isAbsolute then .root :: rest
  else if p.segments.head? = some ['.'] then .here :: rest
  else rest

/-- The text of a component. -/
def Component.text : Component → String
  | .root => ""
  | .here => "."
  | .up => ".."
  | .name s => s

/-- The path with the given components. -/
def ofComponents (cs : List Component) : Path :=
  if cs = [.root] then ⟨"/"⟩ else ⟨"/".intercalate (cs.map Component.text)⟩

/-- The path without its last component; a root and the empty path have none. -/
def parent? (p : Path) : Option Path :=
  match p.components.getLast? with
  | none => none
  | some .root => none
  | some _ => some (ofComponents p.components.dropLast)

/-- The last component when it is a name. -/
def fileName? (p : Path) : Option String :=
  match p.components.getLast? with
  | some (.name s) => some s
  | _ => none

/-- What stands behind the last point of the file name; nothing where that is the first character. -/
def extension? (p : Path) : Option String := do
  let name ← p.fileName?
  let (after, before) := name.toList.reverse.span (· ≠ '.')
  match before with
  | [] => none
  | ['.'] => none
  | _ => some (String.ofList after.reverse)

/-- `p` followed by a relative path; an absolute one replaces it. -/
def join (p q : Path) : Path :=
  if q.isAbsolute then q
  else if p.text.isEmpty ∨ p.text.toList.getLast? = some '/' then ⟨p.text ++ q.text⟩
  else ⟨p.text ++ "/" ++ q.text⟩

/-- The path with a text put behind it. -/
def appendText (p : Path) (suffix : String) : Path := ⟨p.text ++ suffix⟩

/-- The order of component kinds. -/
def Component.rank : Component → Nat
  | .root => 0
  | .here => 1
  | .up => 2
  | .name _ => 3

/-- Names are ordered by their characters, other components by kind. -/
def Component.before (a b : Component) : Bool :=
  match a, b with
  | .name s, .name t => s < t
  | _, _ => a.rank < b.rank

/-- The component-wise order, a beginning before its continuations. -/
def componentsLe : List Component → List Component → Bool
  | [], _ => true
  | _ :: _, [] => false
  | a :: as, b :: bs => a.before b || (a == b && componentsLe as bs)

def le (p q : Path) : Bool := componentsLe p.components q.components

end Path
end SnippetAudit
