import SnippetAudit.Text.Hex
import SnippetAudit.Text.Hidden

/-!
# Quoted text

A text between double quotes on one line, for messages: a backslash stands before a quote, a backslash and the
letters of NUL, tab, newline and carriage return, and a hidden character is written by its number.
-/

namespace SnippetAudit.Text

/-- A character by its number, in hexadecimal without leading zeros. -/
def numbered (c : Char) : List Char :=
  ['\\', 'u', '\x7b'] ++ Nat.toDigits 16 c.toNat ++ ['\x7d']

/-- A character inside quotes. -/
def quotedChar (c : Char) : List Char :=
  if c = '\x00' then ['\\', '0']
  else if c = '\t' then ['\\', 't']
  else if c = '\r' then ['\\', 'r']
  else if c = '\n' then ['\\', 'n']
  else if c = '"' ∨ c = '\\' then ['\\', c]
  else if isHidden c then numbered c
  else [c]

def quoted (s : String) : String := String.ofList ('"' :: s.toList.flatMap quotedChar ++ ['"'])

end SnippetAudit.Text
