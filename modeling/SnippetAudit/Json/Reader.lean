import SnippetAudit.Json.Numeral

/-!
# Reading JSON

Reading never fails: a text is read into a `Tree`, where `broken` stands for the first place that is not JSON and is
the last thing in the tree. A string with a lone surrogate denotes no text and a numeral beyond the doubles no
number; both stand in the tree as `none`, since a value that nobody looks at may hold them. `Tree.json?` takes the
trees that denote a value, and `Json.parse?` is the reader of whole texts.
-/

namespace SnippetAudit

/-- A text as read. -/
inductive Json.Tree where
  | null
  | bool (b : Bool)
  | num (n : Option Json.Num)
  | str (s : Option String)
  | arr (items : List Json.Tree)
  | obj (members : List (Option String × Json.Tree))
  | broken

namespace Json

/-- The blanks between tokens. -/
def isGap (c : Char) : Bool := c == ' ' || c == '\t' || c == '\n' || c == '\r'

def skipGap (s : List Char) : List Char := s.dropWhile isGap

/-- The value of a hexadecimal digit. -/
def hexValue? (c : Char) : Option Nat :=
  if c.isDigit then some (c.toNat - '0'.toNat)
  else if 'a' ≤ c ∧ c ≤ 'f' then some (c.toNat - 'a'.toNat + 10)
  else if 'A' ≤ c ∧ c ≤ 'F' then some (c.toNat - 'A'.toNat + 10)
  else none

/-- The 16-bit unit of four hexadecimal digits. -/
def unit? (a b c d : Char) : Option Nat := do
  let a ← hexValue? a
  let b ← hexValue? b
  let c ← hexValue? c
  let d ← hexValue? d
  pure (((a * 16 + b) * 16 + c) * 16 + d)

/-- The character a short escape stands for. -/
def unescape? (c : Char) : Option Char :=
  if c = '"' then some '"'
  else if c = '\\' then some '\\'
  else if c = '/' then some '/'
  else if c = 'n' then some '\n'
  else if c = 'r' then some '\r'
  else if c = 't' then some '\t'
  else if c = 'b' then some '\x08'
  else if c = 'f' then some '\x0c'
  else none

/-- A piece of a string: a character, or half of one written by an escape. -/
inductive Piece where
  | char (c : Char)
  | half (unit : Nat)
  deriving DecidableEq, Repr

/-- The piece of an escaped unit. -/
def Piece.ofUnit (n : Nat) : Piece := if 0xD800 ≤ n ∧ n < 0xE000 then .half n else .char (Char.ofNat n)

/-- The text of the pieces; a half counts only with its partner behind it. -/
def textOf? : List Piece → Option (List Char)
  | [] => some []
  | .char c :: ps => (textOf? ps).map (c :: ·)
  | .half hi :: .half lo :: ps =>
    if hi < 0xDC00 ∧ 0xDC00 ≤ lo then
      (textOf? ps).map (Char.ofNat (0x10000 + (hi - 0xD800) * 0x400 + (lo - 0xDC00)) :: ·)
    else none
  | .half _ :: _ => none

/-- The pieces of a string up to its closing quote, and what follows. -/
def pieces? : List Char → Option (List Piece × List Char)
  | [] => none
  | '"' :: r => some ([], r)
  | '\\' :: 'u' :: a :: b :: c :: d :: r =>
    match unit? a b c d with
    | none => none
    | some n => (pieces? r).map fun (ps, r) => (Piece.ofUnit n :: ps, r)
  | '\\' :: e :: r =>
    match unescape? e with
    | none => none
    | some c => (pieces? r).map fun (ps, r) => (.char c :: ps, r)
  | c :: r =>
    if c.toNat < 0x20 || c == '\\' then none
    else (pieces? r).map fun (ps, r) => (.char c :: ps, r)

/-- The string behind an opening quote. -/
def string? (s : List Char) : Option (Option String × List Char) :=
  (pieces? s).map fun (ps, r) => ((textOf? ps).map String.ofList, r)

/-- A word of letters at the front of a text. -/
def expect (word : List Char) (tree : Tree) (s : List Char) : Tree × List Char :=
  if word.isPrefixOf s then (tree, s.drop word.length) else (.broken, [])

mutual

/-- The value at the front of a text, and what follows. `fuel` bounds the calls. -/
def value (fuel : Nat) (s : List Char) : Tree × List Char :=
  match fuel with
  | 0 => (.broken, [])
  | fuel + 1 =>
    match skipGap s with
    | [] => (.broken, [])
    | '\x7b' :: r =>
      match skipGap r with
      | '\x7d' :: r => (.obj [], r)
      | r => let (ms, r) := members fuel r; (.obj ms, r)
    | '[' :: r =>
      match skipGap r with
      | ']' :: r => (.arr [], r)
      | r => let (vs, r) := items fuel r; (.arr vs, r)
    | '"' :: r =>
      match string? r with
      | some (s, r) => (.str s, r)
      | none => (.broken, [])
    | 'n' :: r => expect ['n', 'u', 'l', 'l'] .null ('n' :: r)
    | 't' :: r => expect ['t', 'r', 'u', 'e'] (.bool true) ('t' :: r)
    | 'f' :: r => expect ['f', 'a', 'l', 's', 'e'] (.bool false) ('f' :: r)
    | r =>
      match numeral? r with
      | some (n, r) => (.num n.number?, r)
      | none => (.broken, [])

/-- The items of an array up to its closing bracket. -/
def items (fuel : Nat) (s : List Char) : List Tree × List Char :=
  match fuel with
  | 0 => ([.broken], [])
  | fuel + 1 =>
    let (v, r) := value fuel s
    match skipGap r with
    | ',' :: r => let (vs, r) := items fuel r; (v :: vs, r)
    | ']' :: r => ([v], r)
    | _ => ([v, .broken], [])

/-- The members of an object up to its closing bracket. -/
def members (fuel : Nat) (s : List Char) : List (Option String × Tree) × List Char :=
  match fuel with
  | 0 => ([(none, .broken)], [])
  | fuel + 1 =>
    match skipGap s with
    | '"' :: r =>
      match string? r with
      | none => ([(none, .broken)], [])
      | some (n, r) =>
        match skipGap r with
        | ':' :: r =>
          let (v, r) := value fuel r
          match skipGap r with
          | ',' :: r => let (ms, r) := members fuel r; ((n, v) :: ms, r)
          | '\x7d' :: r => ([(n, v)], r)
          | _ => ([(n, v), (none, .broken)], [])
        | _ => ([(n, .broken)], [])
    | _ => ([(none, .broken)], [])

end

/-- The tree of a whole text. Anything but blanks behind the value is told by the flag. -/
def read (s : List Char) : Tree × Bool :=
  let (t, r) := value (2 * s.length + 2) s
  (t, (skipGap r).isEmpty)

/-- The levels of brackets that a value may have. -/
def depthLimit : Nat := 127

mutual

/-- The value a tree denotes: nothing broken, every text and number meant, and at most `depth` levels. -/
def Tree.json? (depth : Nat) : Tree → Option Json
  | .null => some .null
  | .bool b => some (.bool b)
  | .num n => n.map .num
  | .str s => s.map .str
  | .arr ts =>
    match depth with
    | 0 => none
    | depth + 1 => (Tree.jsons? depth ts).map .arr
  | .obj ms =>
    match depth with
    | 0 => none
    | depth + 1 => (Tree.jsonMembers? depth ms).map Json.ofMembers
  | .broken => none

def Tree.jsons? (depth : Nat) : List Tree → Option (List Json)
  | [] => some []
  | t :: ts =>
    match t.json? depth with
    | none => none
    | some v => (Tree.jsons? depth ts).map (v :: ·)

def Tree.jsonMembers? (depth : Nat) : List (Option String × Tree) → Option (List (String × Json))
  | [] => some []
  | (none, _) :: _ => none
  | (some n, t) :: ms =>
    match t.json? depth with
    | none => none
    | some v => (Tree.jsonMembers? depth ms).map ((n, v) :: ·)

end

/-- The value of a text of characters. -/
def parseChars? (s : List Char) : Option Json :=
  let (t, whole) := read s
  if whole then t.json? depthLimit else none

/-- The value of a text. -/
def parse? (s : String) : Option Json := parseChars? s.toList

end Json
end SnippetAudit
