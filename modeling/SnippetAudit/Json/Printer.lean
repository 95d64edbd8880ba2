import SnippetAudit.Json.Basic

/-!
# Printing JSON

`compact` writes no blanks. `pretty` puts every item and member on a line of its own, indented by two blanks a
level, and leaves an empty array or object as it is. In a string the quote, the backslash and the characters below
U+0020 are escaped, five of these by a letter and the others by four hexadecimal digits; all else is written as it
is.
-/

namespace SnippetAudit.Json

/-- A hexadecimal digit in lower case. -/
def hexDigit (n : Nat) : Char := Char.ofNat (if n < 10 then '0'.toNat + n else 'a'.toNat + (n - 10))

/-- The letter of a short escape. -/
def shortEscape? (c : Char) : Option Char :=
  if c = '"' then some '"'
  else if c = '\\' then some '\\'
  else if c = '\n' then some 'n'
  else if c = '\r' then some 'r'
  else if c = '\t' then some 't'
  else if c = '\x08' then some 'b'
  else if c = '\x0c' then some 'f'
  else none

def escaped (c : Char) : List Char :=
  match shortEscape? c with
  | some l => ['\\', l]
  | none =>
    if c.toNat < 0x20 then ['\\', 'u', '0', '0', hexDigit (c.toNat / 16), hexDigit (c.toNat % 16)]
    else [c]

/-- A string literal. -/
def quoted (s : String) : List Char := '"' :: (s.toList.flatMap escaped ++ ['"'])

/-- The text of a number, or null for what is no number. -/
def Num.text : Num → List Char
  | .whole n => (if n < 0 then ['-'] else []) ++ Nat.toDigits 10 n.natAbs
  | .real x => (Number.shortestText Number.double (.ofFloat x)).getD ['n', 'u', 'l', 'l']
  | .real32 x => (Number.shortestText Number.single (.ofFloat32 x)).getD ['n', 'u', 'l', 'l']

/-- The texts of null and the truth values. -/
def word : Json → List Char
  | .bool true => ['t', 'r', 'u', 'e']
  | .bool false => ['f', 'a', 'l', 's', 'e']
  | _ => ['n', 'u', 'l', 'l']

mutual

/-- The text without blanks. -/
def compactChars : Json → List Char
  | .null => word .null
  | .bool b => word (.bool b)
  | .num n => n.text
  | .str s => quoted s
  | .arr items => '[' :: (compactItems items ++ [']'])
  | .obj ms => '\x7b' :: (compactMembers ms ++ ['\x7d'])

def compactItems : List Json → List Char
  | [] => []
  | [v] => compactChars v
  | v :: vs => compactChars v ++ ',' :: compactItems vs

def compactMembers : List (String × Json) → List Char
  | [] => []
  | [(n, v)] => quoted n ++ ':' :: compactChars v
  | (n, v) :: ms => quoted n ++ ':' :: (compactChars v ++ ',' :: compactMembers ms)

end

/-- A line break and the indentation of a level. -/
def newline (level : Nat) : List Char := '\n' :: List.replicate (2 * level) ' '

mutual

/-- The text with every item on its own line; `level` is the number of brackets around the value. -/
def prettyChars (level : Nat) : Json → List Char
  | .null => word .null
  | .bool b => word (.bool b)
  | .num n => n.text
  | .str s => quoted s
  | .arr [] => ['[', ']']
  | .arr (v :: vs) => '[' :: (prettyItems (level + 1) (v :: vs) ++ newline level ++ [']'])
  | .obj [] => ['\x7b', '\x7d']
  | .obj (m :: ms) => '\x7b' :: (prettyMembers (level + 1) (m :: ms) ++ newline level ++ ['\x7d'])

def prettyItems (level : Nat) : List Json → List Char
  | [] => []
  | [v] => newline level ++ prettyChars level v
  | v :: vs => newline level ++ prettyChars level v ++ ',' :: prettyItems level vs

def prettyMembers (level : Nat) : List (String × Json) → List Char
  | [] => []
  | [(n, v)] => newline level ++ quoted n ++ ':' :: ' ' :: prettyChars level v
  | (n, v) :: ms => newline level ++ quoted n ++ ':' :: ' ' :: (prettyChars level v ++ ',' :: prettyMembers level ms)

end

def compact (v : Json) : String := String.ofList (compactChars v)

def pretty (v : Json) : String := String.ofList (prettyChars 0 v)

end SnippetAudit.Json
