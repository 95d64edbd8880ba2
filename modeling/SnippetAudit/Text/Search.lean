/-!
# Searching in texts

`cutAt pat s` splits `s` around the first occurrence of `pat`; an occurrence is an infix in the sense of `<:+:`.
-/

namespace SnippetAudit.Text

/-- What follows `pat` in a text that starts with it. -/
def stripStart? (pat s : List Char) : Option (List Char) :=
  if pat.isPrefixOf s then some (s.drop pat.length) else none

/-- What comes before `pat` in a text that ends with it. -/
def stripEnd? (pat s : List Char) : Option (List Char) :=
  if pat.isSuffixOf s then some (s.take (s.length - pat.length)) else none

/-- The parts before and after the first occurrence of `pat`. -/
def cutAt (pat : List Char) : List Char → Option (List Char × List Char)
  | [] => if pat.isEmpty then some ([], []) else none
  | c :: r =>
    match stripStart? pat (c :: r) with
    | some rest => some ([], rest)
    | none => (cutAt pat r).map fun (before, after) => (c :: before, after)

/-- Whether `pat` occurs in the text. -/
def contains (pat s : List Char) : Bool := (cutAt pat s).isSome

/-- The text from the last occurrence of `pat` on, that occurrence included. -/
def fromLast (pat : List Char) : List Char → Option (List Char)
  | [] => if pat.isEmpty then some [] else none
  | c :: r =>
    match fromLast pat r with
    | some t => some t
    | none => if pat.isPrefixOf (c :: r) then some (c :: r) else none

/-- The parts of a text between the occurrences of a character. -/
def splitAt (sep : Char) : List Char → List (List Char)
  | [] => [[]]
  | c :: r =>
    if c == sep then [] :: splitAt sep r
    else match splitAt sep r with
      | [] => [[c]]
      | p :: ps => (c :: p) :: ps

/-- `contains` on strings. -/
def holds (s pat : String) : Bool := contains pat.toList s.toList

/-- Letters of the ASCII range in lower case, all else unchanged. -/
def lowered (s : String) : String := String.ofList (s.toList.map Char.toLower)

end SnippetAudit.Text
