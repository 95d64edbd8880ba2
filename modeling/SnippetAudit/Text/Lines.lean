/-!
# Lines

A line ends at a line feed, and one carriage return before the line feed belongs to the line end. A text that ends
in a line feed has no further empty line, and a carriage return at the very end of the text stays in its line.
-/

namespace SnippetAudit.Text

/-- Puts a character in front of the first line. -/
def consLine (c : Char) : List (List Char) → List (List Char)
  | [] => [[c]]
  | l :: ls => (c :: l) :: ls

/-- The lines of a text, without their ends. -/
def lines : List Char → List (List Char)
  | [] => []
  | '\n' :: r => [] :: lines r
  | '\r' :: '\n' :: r => [] :: lines r
  | c :: r => consLine c (lines r)

/-- Every line followed by a line feed. -/
def unlines (ls : List (List Char)) : List Char := ls.flatMap (· ++ ['\n'])

end SnippetAudit.Text
