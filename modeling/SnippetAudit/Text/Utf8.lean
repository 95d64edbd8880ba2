/-!
# Bytes as text

`decode` reads bytes as UTF-8 and never fails: every maximal part that is the beginning of no character is replaced by
one U+FFFD. `strict?` refuses such bytes. `Json` texts are read by `guarded`, which marks bytes that are no text so
that they cannot pass for any.
-/

namespace SnippetAudit.Text

/-- What stands for bytes that are no text. -/
def replacement : Char := '\uFFFD'

/-- A byte of a character behind its first one. -/
def isTail (b : UInt8) : Bool := 0x80 ≤ b && b ≤ 0xBF

/-- Whether a byte may follow the first byte of a character of three or four bytes. -/
def isSecond (first second : UInt8) : Bool :=
  let low := if first == 0xE0 then 0xA0 else if first == 0xF0 then 0x90 else 0x80
  let high := if first == 0xED then 0x9F else if first == 0xF4 then 0x8F else 0xBF
  low ≤ second && second ≤ high

/-- The character of a first byte, cut down to its own bits, and tail bytes. -/
def assemble (first : Nat) (tail : List UInt8) : Char :=
  Char.ofNat (tail.foldl (fun n b => n * 64 + (b.toNat - 0x80)) first)

/-- Reads bytes; `bad` is written for what is no text. -/
def decodeWith (bad : List Char) : List UInt8 → List Char
  | [] => []
  | a :: r =>
    if a < 0x80 then Char.ofNat a.toNat :: decodeWith bad r
    else if 0xC2 ≤ a && a ≤ 0xDF then
      match r with
      | [] => bad
      | b :: r' =>
        if isTail b then assemble (a.toNat - 0xC0) [b] :: decodeWith bad r' else bad ++ decodeWith bad (b :: r')
    else if 0xE0 ≤ a && a ≤ 0xEF then
      match r with
      | [] => bad
      | b :: r' =>
        if isSecond a b then
          match r' with
          | [] => bad
          | c :: r'' =>
            if isTail c then assemble (a.toNat - 0xE0) [b, c] :: decodeWith bad r''
            else bad ++ decodeWith bad (c :: r'')
        else bad ++ decodeWith bad (b :: r')
    else if 0xF0 ≤ a && a ≤ 0xF4 then
      match r with
      | [] => bad
      | b :: r' =>
        if isSecond a b then
          match r' with
          | [] => bad
          | c :: r'' =>
            if isTail c then
              match r'' with
              | [] => bad
              | d :: r''' =>
                if isTail d then assemble (a.toNat - 0xF0) [b, c, d] :: decodeWith bad r'''
                else bad ++ decodeWith bad (d :: r''')
            else bad ++ decodeWith bad (c :: r'')
        else bad ++ decodeWith bad (b :: r')
    else bad ++ decodeWith bad r

/-- The text of a file; bytes that are no text are replaced. -/
def decode (bytes : ByteArray) : String :=
  match String.fromUTF8? bytes with
  | some s => s
  | none => String.ofList (decodeWith [replacement] bytes.toList)

/-- The text of bytes that are one. -/
def strict? (bytes : ByteArray) : Option String := String.fromUTF8? bytes

/-- What stands for bytes that are no text before a JSON reader: a letter that no token starts with and no escape
names, and two escaped halves of characters that are no pair. In a string it denotes nothing, and elsewhere, also behind
a backslash, it is no JSON. -/
def mark : List Char := "x\\ud800\\ud800".toList

/-- The characters of bytes as a JSON reader is to see them. -/
def guarded (bytes : ByteArray) : List Char :=
  match String.fromUTF8? bytes with
  | some s => s.toList
  | none => decodeWith mark bytes.toList

end SnippetAudit.Text
