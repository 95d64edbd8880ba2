import SnippetAudit.Archive.Crc32
import SnippetAudit.Archive.Inflate
import SnippetAudit.Files.Error

/-!
# Gzip

A gzip file is a header, a deflate stream, and the checksum and size of the content. `compress` stores the content in
blocks; `decompress` reads any gzip file and ignores what is behind its first member.
-/

namespace SnippetAudit.Gzip

open Archive

/-- Four bytes of a word, the lowest first. -/
def fourBytes (n : Nat) : List UInt8 := twoBytes (n % 65536) ++ twoBytes (n / 65536 % 65536)

/-- The header of a file without a name or a time. -/
def plainHeader : List UInt8 := [0x1f, 0x8b, 8, 0, 0, 0, 0, 0, 0, 0xff]

def compressBytes (content : List UInt8) : List UInt8 :=
  plainHeader ++ stored (content.length / storedLimit) content ++
    fourBytes (crc32 content).toNat ++ fourBytes content.length

/-- Bytes as a gzip file. -/
def compress (content : ByteArray) : ByteArray := ⟨(compressBytes content.toList).toArray⟩

/-- The most bytes that a text of a header may have. -/
def textLimit : Nat := 65535

/-- Passes over a text that ends in a zero byte and has at most `room` others. -/
def dropText (room : Nat) : List UInt8 → Except IoError (List UInt8)
  | [] => .error .gzipShort
  | b :: r =>
    if b = 0 then .ok r
    else
      match room with
      | 0 => .error .gzipHeaderLong
      | room + 1 => dropText room r

/-- Passes over bytes. -/
def dropBytes (count : Nat) (bytes : List UInt8) : Except IoError (List UInt8) :=
  if bytes.length < count then .error .gzipShort else .ok (bytes.drop count)

/-- Passes over the parts that the flags of a header announce, but for the checksum. -/
def dropExtras (flags : UInt8) (bytes : List UInt8) : Except IoError (List UInt8) := do
  let bytes ←
    if flags &&& 4 ≠ 0 then
      match bytes with
      | low :: high :: r => dropBytes (low.toNat + 256 * high.toNat) r
      | _ => throw .gzipShort
    else pure bytes
  let bytes ← if flags &&& 8 ≠ 0 then dropText textLimit bytes else pure bytes
  if flags &&& 16 ≠ 0 then dropText textLimit bytes else pure bytes

/-- Passes over a header, whose checksum, if it has one, is the lower half of the checksum of all bytes before it. -/
def dropHeader (bytes : List UInt8) : Except IoError (List UInt8) :=
  match bytes with
  | a :: b :: method :: flags :: _ :: _ :: _ :: _ :: _ :: _ :: r => do
    if a ≠ 0x1f ∨ b ≠ 0x8b ∨ method ≠ 8 ∨ 0x20 ≤ flags then throw .gzipHeader
    let rest ← dropExtras flags r
    if flags &&& 2 = 0 then return rest
    let body ← dropBytes 2 rest
    let sum := (crc32 (bytes.take (bytes.length - rest.length))).toNat
    if rest.take 2 = twoBytes (sum % 65536) then pure body else throw .gzipChecksum
  | _ => throw .gzipShort

def decompressBytes (bytes : List UInt8) : Except IoError (List UInt8) := do
  let body ← dropHeader bytes
  match inflate body with
  | .error .short => throw .gzipBodyShort
  | .error .corrupt => throw .gzipBody
  | .ok (content, trailer) =>
    if trailer.length < 8 then throw .gzipShort
    else if trailer.take 8 = fourBytes (crc32 content).toNat ++ fourBytes content.length then pure content
    else throw .gzipChecksum

/-- The content of a gzip file. -/
def decompress (bytes : ByteArray) : Except IoError ByteArray :=
  (decompressBytes bytes.toList).map fun content => ⟨content.toArray⟩

end SnippetAudit.Gzip
