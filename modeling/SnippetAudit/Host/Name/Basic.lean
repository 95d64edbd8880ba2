import SnippetAudit.Host.Name.Label
import SnippetAudit.Host.Name.Table
import SnippetAudit.Host.Punycode

/-!
# Host names

A host name is a list of labels with points between them. Names that mean the same host have one form: letters are
small, variants of characters are replaced by the common ones, and a label with characters beyond ASCII is written in
ASCII letters behind `xn--`. A name with a character that no name holds, or with a label whose characters may not
stand so, has no such form.
-/

namespace SnippetAudit.Host

open Text (runs)

/-! ### Common characters -/

def moved : List ((Nat × Nat) × List Char) := Text.entries movedRuns

def paired : List ((Nat × Nat) × List Char) := Text.entries pairedRuns

def spelled : List ((Nat × Nat) × List Char) := Text.entries spelledOut

def ignored : Text.Runs := runs ignoredRuns

def refused : Text.Runs := runs refusedRuns

/-- The character as far behind the only one of a list. -/
def shifted (distance : Nat) (s : List Char) : List Char := s.map fun t => Char.ofNat (t.toNat + distance)

/-- The common form of a character; nothing where no name holds it. -/
def common? (c : Char) : Option (List Char) :=
  if c.toNat < 0x80 then some [c.toLower]
  else if ignored.holds c then some []
  else if refused.holds c then none
  else
    match Text.target? moved c, Text.target? paired c, Text.target? spelled c with
    | some (n, s), _, _ => some (shifted n s)
    | _, some (n, s), _ => some (if n % 2 = 0 then shifted n s else [c])
    | _, _, some (_, s) => some s
    | none, none, none => some [c]

/-- The common form of a text. -/
def common (s : List Char) : Option (List Char) := (s.mapM common?).map fun parts => Text.Normal.form parts.flatten

/-- ASCII characters that no host name holds. -/
def isForbidden (c : Char) : Bool :=
  c.toNat ≤ 0x20 || c.toNat == 0x7F || "#/:<>?@[\\]^|%".toList.contains c

/-! ### Labels -/

/-- What a label in ASCII letters begins with. -/
def asciiStart : List Char := "xn--".toList

/-- The greatest number of characters of a label with others than ASCII, and of an ASCII form. -/
def labelLimit : Nat := 1000

def formLimit : Nat := 2000

/-- A label, and the same in ASCII letters. -/
structure Label where
  label : List Char
  form : List Char

/-- The label that an ASCII form stands for. -/
def decoded? (s : List Char) : Option (List Char) := do
  let digits ← Text.stripStart? asciiStart s
  let label ← if digits.length ≤ formLimit then Punycode.decode digits else none
  if label.any (0x80 ≤ ·.toNat) && common label == some label && isLabel label &&
      !label.any (fun c => isForbidden c || c == '.') then some label
  else none

/-- The label of a text in common form. -/
def label? (s : List Char) : Option Label :=
  if asciiStart.isPrefixOf s then
    if s.all (·.toNat < 0x80) then (decoded? s).map (⟨·, s⟩) else none
  else if s.any isForbidden then none
  else if s.all (·.toNat < 0x80) then some ⟨s, s⟩
  else if isLabel s && s.length ≤ labelLimit then some ⟨s, asciiStart ++ Punycode.encode s⟩
  else none

/-- The ASCII form of a host name. -/
def name? (s : List Char) : Option (List Char) := do
  let labels ← (Text.splitAt '.' (← common s)).mapM label?
  if labels.any (·.label.any isFromRight) && !labels.all (hasOneDirection ·.label) then none
  else some (List.intercalate ['.'] (labels.map (·.form)))

end SnippetAudit.Host
