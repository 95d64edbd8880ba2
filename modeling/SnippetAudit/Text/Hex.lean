/-!
# Hexadecimal text

Bytes as pairs of hexadecimal digits, in lower case when written.
-/

namespace SnippetAudit.Text

def hexChar (n : Nat) : Char := Char.ofNat (if n < 10 then '0'.toNat + n else 'a'.toNat + (n - 10))

/-- Two digits for every byte. -/
def hex (bytes : List UInt8) : String :=
  String.ofList (bytes.flatMap fun b => [hexChar (b.toNat / 16), hexChar (b.toNat % 16)])

def hexDigit? (c : Char) : Option Nat :=
  if c.isDigit then some (c.toNat - '0'.toNat)
  else if 'a' ≤ c ∧ c ≤ 'f' then some (c.toNat - 'a'.toNat + 10)
  else if 'A' ≤ c ∧ c ≤ 'F' then some (c.toNat - 'A'.toNat + 10)
  else none

/-- The bytes of pairs of digits. -/
def unhex? : List Char → Option (List UInt8)
  | [] => some []
  | a :: b :: r => do
    let a ← hexDigit? a
    let b ← hexDigit? b
    let rest ← unhex? r
    pure (UInt8.ofNat (a * 16 + b) :: rest)
  | [_] => none

end SnippetAudit.Text
