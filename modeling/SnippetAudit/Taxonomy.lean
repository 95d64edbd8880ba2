import SnippetAudit.Text.Search
import SnippetAudit.Json.Decoder

/-!
# Bug taxonomies

A taxonomy is an ordered table of bug type ids with their descriptions. The hierarchical one groups its ids into
families by the text before the first point; the legacy one is flat.
-/

namespace SnippetAudit

inductive Taxonomy where
  | hierarchical
  | legacy
  deriving DecidableEq, Repr, Inhabited

namespace Taxonomy

/-- The ids with their descriptions, in their order. -/
def entries : Taxonomy → List (String × String)
  | .hierarchical =>
    [("A.1", "Signature: Incorrect Function Usage"),
     ("A.2", "Signature: Fault Input Type"),
     ("A.3", "Signature: Incorrect Function Return Value"),
     ("A.4", "Signature: Incorrect Variable Usage"),
     ("B", "Sanitizer: Control Expression Error"),
     ("C.1", "Memory Error: Null Pointer Dereference"),
     ("C.2", "Memory Error: Uncontrolled Resource Consumption"),
     ("C.3", "Memory Error: Memory Overflow"),
     ("D.1", "Logic Organization: Improper Condition Organization"),
     ("D.2", "Logic Organization: Wrong Function Call Sequence")]
  | .legacy =>
    [("BT001", "Memory Leak - dynamically allocated memory is never released"),
     ("BT002", "Buffer Overflow - data is written past the end of a buffer"),
     ("BT003", "Null Pointer Dereference - memory is accessed through a null pointer"),
     ("BT004", "Use of Uninitialized Variable - a variable is read before it is assigned"),
     ("BT005", "Array Index Out of Bounds - an index falls outside the valid range"),
     ("BT006", "Dangling Pointer - a pointer to freed memory is used"),
     ("BT007", "Integer Overflow - an arithmetic result exceeds the type's range"),
     ("BT008", "Format String Vulnerability - a printf-style format string is attacker controlled"),
     ("BT009", "Resource Leak - a file handle, socket or similar resource is never closed"),
     ("BT010", "Race Condition - unsynchronized concurrent access"),
     ("BT011", "Division by Zero - a divisor can be zero at runtime"),
     ("BT012", "Type Casting Error - an unsafe or incorrect conversion"),
     ("BT013", "Logic Error - the program logic does not match its intent"),
     ("BT014", "Off-by-One Error - a loop or index boundary is off by one"),
     ("BT015", "Double Free - the same allocation is freed twice"),
     ("BT016", "Sign Error - signed and unsigned integers are mixed incorrectly"),
     ("BT017", "Stack Overflow - stack usage exceeds its limit"),
     ("BT018", "Deadlock - threads wait on each other forever"),
     ("BT019", "Unchecked Return Value - an error result is silently ignored"),
     ("BT020", "Other - any other kind of bug")]

/-- The description of an id that is in no table. -/
def unknownType : String := "Unknown bug type"

/-- The description of an id. -/
def describe (t : Taxonomy) (id : String) : String := (t.entries.lookup id).getD unknownType

/-- Whether an id is in the table. -/
def contains (t : Taxonomy) (id : String) : Bool := t.entries.any (·.1 == id)

/-- The id under which a bug without a type is shown. -/
def fallbackId : Taxonomy → String
  | .hierarchical => "D.1"
  | .legacy => "BT020"

def name : Taxonomy → String
  | .hierarchical => "hierarchical"
  | .legacy => "legacy"

/-- The name as a heading. -/
def title : Taxonomy → String
  | .hierarchical => "Hierarchical"
  | .legacy => "Legacy"

/-- The taxonomy a user names, in either case. No letter outside ASCII has a lower case made of the letters of these
words, so folding ASCII letters is enough. -/
def ofName? (s : String) : Option Taxonomy :=
  let word := Text.lowered s
  if word = "hierarchical" ∨ word = "abcd" then some .hierarchical
  else if word = "legacy" ∨ word = "bt" then some .legacy
  else none

/-- What is said of a name that is no taxonomy. -/
def unknownName (s : String) : String :=
  "Unknown taxonomy: " ++ s ++ ". Use 'hierarchical' or 'legacy'"

def json (t : Taxonomy) : Json := .str t.name

def decoder : Json.Decoder Taxonomy :=
  Json.Decoder.oneOf [("hierarchical", .hierarchical), ("legacy", .legacy)]

end Taxonomy

/-- The family of a bug type id: what stands before its first point. -/
def family (id : String) : String := String.ofList (id.toList.takeWhile (· ≠ '.'))

end SnippetAudit
