import SnippetAudit.Text.Hex
import SnippetAudit.Text.Search

/-!
# Numeric addresses

Hosts that are numbers. An address of four bytes has up to four parts between points, of which the last one fills
what the others leave; a part is decimal, or octal behind a zero, or hexadecimal behind `0x`. An address of sixteen
bytes has eight groups of hexadecimal digits between colons; one run of zero groups may be left out, and the last two
may be four decimal bytes.
-/

namespace SnippetAudit.Host

/-! ### Four bytes -/

/-- The number of digits in a base. -/
def inBase? (base : Nat) (s : List Char) : Option Nat :=
  s.foldlM (fun n c =>
    match Text.hexDigit? c with
    | some d => if d < base then some (base * n + d) else none
    | none => none) 0

/-- The value of a part. -/
def partValue? (s : List Char) : Option Nat :=
  match s with
  | [] => none
  | '0' :: 'x' :: r => inBase? 16 r
  | '0' :: 'X' :: r => inBase? 16 r
  | '0' :: r => inBase? 8 r
  | s => inBase? 10 s

/-- The parts of a host between its points, without an empty last one. -/
def parts (s : List Char) : List (List Char) :=
  let parts := Text.splitAt '.' s
  if 1 < parts.length && parts.getLast? == some [] then parts.dropLast else parts

/-- Whether the last part of a host makes it a numeric one. -/
def isNumeric (s : List Char) : Bool :=
  match (parts s).getLast? with
  | some last => !last.isEmpty && (last.all Char.isDigit || (partValue? last).isSome)
  | none => false

/-- Whether a numeric host is an address of four bytes. -/
def isFourBytes (s : List Char) : Bool :=
  match (parts s).mapM partValue? with
  | some ns =>
    ns.length ≤ 4 && ns.dropLast.all (· < 256) && ns.getLast?.any (· < Nat.pow 256 (5 - ns.length))
  | none => false

/-! ### Sixteen bytes -/

/-- Whether a text is a group. -/
def isGroup (s : List Char) : Bool := !s.isEmpty && s.length ≤ 4 && s.all fun c => (Text.hexDigit? c).isSome

/-- Whether a text is a decimal byte without leading zeros. -/
def isByte (s : List Char) : Bool :=
  s.all Char.isDigit && (s.head? != some '0' || s.length == 1) && (inBase? 10 s).any (· < 256) && !s.isEmpty

/-- Whether a text is four decimal bytes. -/
def isByteTail (s : List Char) : Bool :=
  let bytes := Text.splitAt '.' s
  bytes.length == 4 && bytes.all isByte

/-- The number of groups between the colons of a text; where `ends` holds, the last two may be bytes. -/
def groupCount? (ends : Bool) (s : List Char) : Option Nat :=
  if s.isEmpty then some 0
  else
    let groups := Text.splitAt ':' s
    if groups.all isGroup then some groups.length
    else if ends && groups.dropLast.all isGroup && groups.getLast?.any isByteTail then some (groups.length + 1)
    else none

/-- Whether a text is an address of sixteen bytes. -/
def isSixteenBytes (s : List Char) : Bool :=
  match Text.cutAt [':', ':'] s with
  | none => groupCount? true s == some 8
  | some (before, after) =>
    match groupCount? false before, groupCount? true after with
    | some m, some n => m + n ≤ 7
    | _, _ => false

end SnippetAudit.Host
