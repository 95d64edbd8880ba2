/-!
# CRC-32

The checksum of gzip, bit by bit, with the reflected polynomial.
-/

namespace SnippetAudit.Archive

/-- Shifts out `count` bits. -/
def crcBits : (count : Nat) → UInt32 → UInt32
  | 0, c => c
  | count + 1, c => crcBits count (if c &&& 1 == 1 then (c >>> 1) ^^^ 0xEDB88320 else c >>> 1)

def crcByte (c : UInt32) (b : UInt8) : UInt32 := crcBits 8 (c ^^^ b.toUInt32)

def crc32 (bytes : List UInt8) : UInt32 := (bytes.foldl crcByte 0xFFFFFFFF) ^^^ 0xFFFFFFFF

end SnippetAudit.Archive
