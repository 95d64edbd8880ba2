import SnippetAudit.Host.Address
import SnippetAudit.Host.Name.Basic
import SnippetAudit.Number.Reader
import SnippetAudit.Text.Utf8

/-!
# Web addresses

An address of the schemes `http` and `https`: host, port and path. Reading one drops blanks and controls at the ends,
takes a backslash for a slash, resolves the path segments `.` and `..`, and writes the characters that may not stand in
a path by the hexadecimal digits of their bytes.
-/

namespace SnippetAudit.Provider

structure Address where
  isSecure : Bool
  host : String
  port : Option Nat
  path : String
  query : Option String
  deriving DecidableEq, Repr

namespace Address

/-- The text without controls and blanks at its ends, and without tabs and line ends inside. -/
def cleaned (s : List Char) : List Char :=
  let drop := fun (s : List Char) => s.dropWhile (·.toNat ≤ 0x20)
  ((drop (drop s).reverse).reverse).filter fun c => c ≠ '\t' ∧ c ≠ '\n' ∧ c ≠ '\r'

/-- The scheme in lower case, and what follows its colon. -/
def scheme? (s : List Char) : Option (List Char × List Char) :=
  match s.head? with
  | some c =>
    if c.isAlpha then
      let scheme := s.takeWhile fun c => c.isAlphanum || c == '+' || c == '-' || c == '.'
      match s.drop scheme.length with
      | ':' :: rest => some (scheme.map Char.toLower, rest)
      | _ => none
    else none
  | none => none

def isSlash (c : Char) : Bool := c == '/' || c == '\\'

/-- Whether the host and what goes with it ends before a character. -/
def endsAuthority (c : Char) : Bool := isSlash c || c == '?' || c == '#'

/-- A byte by its two digits behind a percent sign. -/
def percent (b : UInt8) : List Char :=
  '%' :: ((Text.hex [b]).toList.map Char.toUpper)

/-- A character as it stands in a path or a query, where `reserved` are the ASCII marks that may not. -/
def encoded (reserved : List Char) (c : Char) : List Char :=
  if c.toNat ≤ 0x20 || 0x7F ≤ c.toNat || reserved.contains c then
    (String.singleton c).toUTF8.toList.flatMap percent
  else [c]

def pathReserved : List Char := ['"', '#', '<', '>', '?', '\x60', '\x7b', '\x7d']

def queryReserved : List Char := ['"', '#', '<', '>', '\'']

/-- The bytes of a text, where a percent sign with two digits is the byte they name. -/
def unpercented : List UInt8 → List UInt8
  | p :: a :: b :: r =>
    match p == '%'.toUInt8, Text.unhex? [Char.ofNat a.toNat, Char.ofNat b.toNat] with
    | true, some [n] => n :: unpercented r
    | _, _ => p :: unpercented (a :: b :: r)
  | s => s

/-- The host of a text: an address between brackets, a numeric one or a name. -/
def host? (s : List Char) : Option String :=
  match s with
  | '[' :: r =>
    match r.reverse with
    | ']' :: inner =>
      if Host.isSixteenBytes inner.reverse then some (String.ofList (s.map Char.toLower)) else none
    | _ => none
  | _ =>
    match Host.name? (Text.decodeWith [Text.replacement] (unpercented (String.ofList s).toUTF8.toList)) with
    | some name =>
      if name.isEmpty || (Host.isNumeric name && !Host.isFourBytes name) then none else some (String.ofList name)
    | none => none

/-- A host and the text of a port. -/
def hostAndPort (s : List Char) : List Char × List Char :=
  match s with
  | '[' :: _ =>
    let inner := s.takeWhile (· ≠ ']')
    ((inner ++ (s.drop inner.length).take 1), s.drop (inner.length + 1))
  | _ => s.span (· ≠ ':')

/-- The number of a port; nothing where none is given. -/
def port? : List Char → Option (Option Nat)
  | [] => some none
  | [':'] => some none
  | ':' :: ds =>
    if ds.all Char.isDigit && Number.ofDigits ds < 65536 then some (some (Number.ofDigits ds)) else none
  | _ => none

/-- What stands behind the last at sign. -/
def withoutUser (s : List Char) : List Char := (s.reverse.takeWhile (· ≠ '@')).reverse

/-- A path segment that stays where it is. -/
def isHere (s : List Char) : Bool :=
  let s := s.map Char.toLower
  s == ['.'] || s == ['%', '2', 'e']

/-- A path segment that leads up. -/
def isUp (s : List Char) : Bool :=
  ["..", ".%2e", "%2e.", "%2e%2e"].contains (String.ofList (s.map Char.toLower))

/-- A letter and a colon or a bar: a segment that is never left upwards. -/
def isDrive : List Char → Bool
  | [a, b] => a.isAlpha && (b == ':' || b == '|')
  | _ => false

/-- The segments without the last one, unless that is a drive. -/
def up (done : List (List Char)) : List (List Char) := if done.getLast?.any isDrive then done else done.dropLast

/-- The segments of a path with those that lead nowhere resolved. -/
def settle (done : List (List Char)) : List (List Char) → List (List Char)
  | [] => done
  | [s] => if isUp s then up done ++ [[]] else if isHere s then done ++ [[]] else done ++ [s]
  | s :: rest =>
    if isUp s then settle (up done) rest else if isHere s then settle done rest else settle (done ++ [s]) rest

/-- The path of the text behind the host. -/
def pathText (s : List Char) : String :=
  let s := s.map fun c => if c == '\\' then '/' else c
  let segments := Text.splitAt '/' (if s.head? == some '/' then s.drop 1 else s)
  let segments := settle [] (segments.map fun s => s.flatMap (encoded pathReserved))
  String.ofList (segments.flatMap ('/' :: ·))

/-- The address of a text. -/
def ofText? (s : String) : Option Address := do
  let (scheme, rest) ← scheme? (cleaned s.toList)
  let isSecure ← if scheme = "https".toList then some true else if scheme = "http".toList then some false else none
  let rest := rest.dropWhile isSlash
  let authority := rest.takeWhile (!endsAuthority ·)
  let (hostText, portText) := hostAndPort (withoutUser authority)
  let host ← host? hostText
  let port ← port? portText
  let rest := (rest.drop authority.length).takeWhile (· ≠ '#')
  let path := rest.takeWhile (· ≠ '?')
  let query := match rest.drop path.length with
    | _ :: q => some (String.ofList (q.flatMap (encoded queryReserved)))
    | [] => none
  pure ⟨isSecure, host, port, pathText path, query⟩

end Address
end SnippetAudit.Provider
