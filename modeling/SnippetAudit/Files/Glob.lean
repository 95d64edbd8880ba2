import SnippetAudit.Text.Search

/-!
# File name patterns

A pattern is parsed into tokens. Matching follows the set of places in a text that the tokens so far can have come to,
from the one in front of the first byte on; the text matches when the last tokens can come to its end. A star and a
question mark stand for a slash too; two stars between slashes stand for directories.
-/

namespace SnippetAudit

/-- A parsed pattern, piece by piece. -/
inductive Glob.Token where
  | literal (c : Char)
  | one
  | run
  /-- Two stars in front, with the slash behind them: directories, or none. -/
  | leadingDirs
  /-- Two stars at the end, with the slash before them: at least one more name. -/
  | trailingNames
  /-- Two stars between slashes: directories, or none. -/
  | innerDirs
  | class (negated : Bool) (ranges : List (Char × Char))
  | group (branches : List (List Glob.Token))

namespace Glob

/-- Why a pattern cannot be parsed. -/
inductive Error where
  | unclosedClass
  | invalidRange (low high : Char)
  | unclosedGroup
  | unopenedGroup
  | danglingEscape
  deriving DecidableEq, Repr

/-- The text of an error. -/
def Error.reason : Error → String
  | .unclosedClass => "unclosed character class; missing ']'"
  | .invalidRange low high =>
    "invalid range; '" ++ low.toString ++ "' > '" ++ high.toString ++ "'"
  | .unclosedGroup =>
    "unclosed alternate group; missing '\x7d' (maybe escape '\x7b' with '[\x7b]'?)"
  | .unopenedGroup =>
    "unopened alternate group; missing '\x7b' (maybe escape '\x7d' with '[\x7d]'?)"
  | .danglingEscape => "dangling '\\'"

/-- What is said of a pattern with an error. -/
def Error.message (pattern : String) (e : Error) : String :=
  "error parsing glob '" ++ pattern ++ "': " ++ e.reason

/-! ### Parsing -/

/-- The ranges of a class, last one first, up to the closing bracket. `first` holds before the first character,
`open_` behind a dash that may join the last character to the next one. -/
def classRanges (first open_ : Bool) (ranges : List (Char × Char)) :
    List Char → Except Error (List (Char × Char) × List Char)
  | [] => .error .unclosedClass
  | c :: r =>
    if c = ']' ∧ !first then
      .ok (if open_ then ('-', '-') :: ranges else ranges, r)
    else if c = '-' ∧ !first ∧ !open_ then classRanges false true ranges r
    else
      match open_, ranges with
      | true, (low, _) :: rest =>
        if c < low then .error (.invalidRange low c) else classRanges false false ((low, c) :: rest) r
      | _, _ => classRanges false false ((c, c) :: ranges) r

/-- The class behind an opening bracket. -/
def class? (s : List Char) : Except Error (Token × List Char) := do
  let (negated, s) := match s with
    | '!' :: r => (true, r)
    | '^' :: r => (true, r)
    | r => (false, r)
  let (ranges, r) ← classRanges true false [] s
  pure (.class negated ranges.reverse, r)

/-- A group that is being parsed: the tokens before it and its finished branches, both last one first. -/
structure Open where
  before : List Token
  branches : List (List Token)

/-- The parser between two characters: the open groups, innermost first, and the tokens of the branch, last one
first. -/
structure State where
  groups : List Open
  tokens : List Token
  previous : Option Char

/-- What is at the front of the text behind two stars. -/
def atEnd (groups : List Open) : List Char → Bool
  | [] => true
  | c :: _ => !groups.isEmpty && (c == ',' || c == '\x7d')

/-- The tokens after two stars, with the text behind them. -/
def stars (st : State) (s : List Char) : List Token × List Char :=
  let plain := (Token.run :: .run :: st.tokens, s)
  if st.tokens.isEmpty then
    match s with
    | [] => ([.leadingDirs], [])
    | '/' :: r => ([.leadingDirs], r)
    | _ => plain
  else if st.previous ≠ some '/' ∧ (st.groups.isEmpty ∨ (st.previous ≠ some ',' ∧ st.previous ≠ some '\x7b')) then
    plain
  else
    let joined (suffix : Bool) : List Token :=
      match st.tokens with
      | .leadingDirs :: ts => .leadingDirs :: ts
      | .trailingNames :: ts => .trailingNames :: ts
      | _ :: ts => (if suffix then .trailingNames else .innerDirs) :: ts
      | [] => []
    if atEnd st.groups s then (joined true, s)
    else
      match s with
      | '/' :: r => (joined false, r)
      | _ => plain

/-- Parses a text. `fuel` bounds the steps. -/
def parseFrom : (fuel : Nat) → State → List Char → Except Error (List Token)
  | 0, _, _ => .error .unclosedGroup
  | fuel + 1, st, s =>
    match s with
    | [] => if st.groups.isEmpty then .ok st.tokens.reverse else .error .unclosedGroup
    | '?' :: r => parseFrom fuel { st with tokens := .one :: st.tokens, previous := some '?' } r
    | '*' :: '*' :: r =>
      let (tokens, r') := stars st r
      parseFrom fuel { st with tokens, previous := if r'.length < r.length then some '/' else some '*' } r'
    | '*' :: r => parseFrom fuel { st with tokens := .run :: st.tokens, previous := some '*' } r
    | '[' :: r =>
      match class? r with
      | .error e => .error e
      | .ok (t, r) => parseFrom fuel { st with tokens := t :: st.tokens, previous := some ']' } r
    | '\x7b' :: r => parseFrom fuel ⟨⟨st.tokens, []⟩ :: st.groups, [], some '\x7b'⟩ r
    | '\x7d' :: r =>
      match st.groups with
      | [] => .error .unopenedGroup
      | g :: gs =>
        let branches := (st.tokens.reverse :: g.branches).reverse
        parseFrom fuel ⟨gs, .group branches :: g.before, some '\x7d'⟩ r
    | ',' :: r =>
      match st.groups with
      | [] => parseFrom fuel { st with tokens := .literal ',' :: st.tokens, previous := some ',' } r
      | g :: gs => parseFrom fuel ⟨{ g with branches := st.tokens.reverse :: g.branches } :: gs, [], some ','⟩ r
    | '\\' :: r =>
      match r with
      | [] => .error .danglingEscape
      | c :: r => parseFrom fuel { st with tokens := .literal c :: st.tokens, previous := some c } r
    | c :: r => parseFrom fuel { st with tokens := .literal c :: st.tokens, previous := some c } r

/-- The tokens of a pattern. -/
def parse (pattern : String) : Except Error (List Token) :=
  parseFrom (pattern.length + 1) ⟨[], [], none⟩ pattern.toList

/-! ### Matching -/

/-- The bytes of a character. -/
def bytesOf (c : Char) : List UInt8 := String.utf8EncodeChar c

/-- The byte ranges of a class. A character outside ASCII counts with each of its bytes, and a range between such
characters runs from the last byte of the one to the first of the other. -/
def byteRanges : List (Char × Char) → List (UInt8 × UInt8)
  | [] => []
  | (low, high) :: rs =>
    let singles (bs : List UInt8) := bs.map fun b => (b, b)
    let here :=
      if low = high then singles (bytesOf low)
      else
        match (bytesOf low).getLast?, (bytesOf high).head? with
        | some l, some h => singles (bytesOf low).dropLast ++ (l, h) :: singles (bytesOf high).tail
        | _, _ => []
    here ++ byteRanges rs

/-- Whether a class stands for a byte. -/
def byteMatches (negated : Bool) (ranges : List (UInt8 × UInt8)) (b : UInt8) : Bool :=
  negated != ranges.any fun (low, high) => low ≤ b && b ≤ high

mutual

/-- Whether a token stands for nothing at all: a group without a branch that does. -/
def Token.isVoid : Token → Bool
  | .group branches => allVoid branches
  | _ => false

def allVoid : List (List Token) → Bool
  | [] => true
  | b :: bs => isVoid b && allVoid bs

def isVoid : List Token → Bool
  | [] => true
  | t :: ts => t.isVoid && isVoid ts

end

/-- A set of places in a text: one flag for the place before each byte, and a last one for the end. -/
abbrev Places := List Bool

namespace Places

/-- The place in front of a text alone. -/
def start (bs : List UInt8) : Places := true :: bs.map fun _ => false

def none (bs : List UInt8) : Places := false :: bs.map fun _ => false

def union (ps qs : Places) : Places := ps.zipWith (· || ·) qs

/-- The places one byte further, where the byte passes a test. -/
def past (test : UInt8 → Bool) (bs : List UInt8) (ps : Places) : Places :=
  false :: bs.zipWith (fun b p => p && test b) ps

/-- The places behind the bytes of a character. -/
def pastChar (c : Char) (bs : List UInt8) (ps : Places) : Places :=
  (bytesOf c).foldl (fun ps b => past (· == b) bs ps) ps

/-- The places that are not before all of the set; with `seen`, all. -/
def onwards (seen : Bool) : Places → Places
  | [] => []
  | p :: ps => (seen || p) :: onwards (seen || p) ps

/-- The places any number of bytes further. -/
def pastRun (ps : Places) : Places := onwards false ps

/-- Whether the end of the text is in the set. -/
def atEnd (ps : Places) : Bool := ps.getLast?.getD false

end Places

mutual

/-- The places that a token comes to from a set of places. A branch of a group that stands for nothing is passed
over, unless all do. -/
def Token.advance (bs : List UInt8) : Token → Places → Places
  | .literal c, ps => ps.pastChar c bs
  | .one, ps => ps.past (fun _ => true) bs
  | .run, ps => ps.pastRun
  | .leadingDirs, ps => ps.union ((ps.pastChar '/' bs).union (ps.pastRun.pastChar '/' bs))
  | .trailingNames, ps => (ps.pastChar '/' bs).pastRun
  | .innerDirs, ps => (ps.pastChar '/' bs).union ((ps.pastChar '/' bs).pastRun.pastChar '/' bs)
  | .class negated ranges, ps => ps.past (byteMatches negated (byteRanges ranges)) bs
  | .group branches, ps => if allVoid branches then ps else advanceAny bs branches ps

def advanceAny (bs : List UInt8) : List (List Token) → Places → Places
  | [], _ => .none bs
  | b :: branches, ps =>
    if isVoid b then advanceAny bs branches ps else (advance bs b ps).union (advanceAny bs branches ps)

/-- The places that tokens come to one after the other. -/
def advance (bs : List UInt8) : List Token → Places → Places
  | [], ps => ps
  | t :: ts, ps => advance bs ts (t.advance bs ps)

end

end Glob

/-- A pattern ready for matching. -/
structure Glob where
  tokens : List Glob.Token

namespace Glob

/-- The pattern of a text. Two stars alone stand for everything. -/
def ofPattern (pattern : String) : Except Error Glob :=
  (parse pattern).map fun
    | [.leadingDirs] => ⟨[.run]⟩
    | ts => ⟨ts⟩

/-- Whether a text matches from end to end. -/
def accepts (g : Glob) (s : String) : Bool :=
  let bs := s.toUTF8.toList
  (advance bs g.tokens (.start bs)).atEnd

end Glob
end SnippetAudit
