/-!
# Deflate

The reader of deflate streams over a list of bits, the first bit of a byte its lowest. A stream is a run of blocks:
stored bytes, or symbols of a Huffman code that is fixed or given by its code lengths. `stored` writes any bytes as
stored blocks.
-/

namespace SnippetAudit.Archive

/-- Why a stream cannot be read. -/
inductive InflateFault where
  | short
  | corrupt
  deriving DecidableEq, Repr

/-- The bits of a byte, lowest first. -/
def bitsOfByte (b : UInt8) : List Bool := (List.range 8).map fun i => b.toNat.testBit i

def bitsOf (bytes : List UInt8) : List Bool := bytes.flatMap bitsOfByte

/-- The number of bits, lowest first. -/
def valueOfBits : List Bool → Nat
  | [] => 0
  | b :: bs => (if b then 1 else 0) + 2 * valueOfBits bs

/-- The bytes of whole groups of eight bits. -/
def bytesOfBits : (count : Nat) → List Bool → List UInt8
  | 0, _ => []
  | count + 1, bs => UInt8.ofNat (valueOfBits (bs.take 8)) :: bytesOfBits count (bs.drop 8)

/-- A number of `count` bits. -/
def takeBits (count : Nat) (bs : List Bool) : Except InflateFault (Nat × List Bool) :=
  let front := bs.take count
  if front.length < count then .error .short else .ok (valueOfBits front, bs.drop count)

/-- A code as a tree: a bit leads to the left when it is clear and to the right when it is set. -/
inductive Huffman where
  /-- What no code leads to. -/
  | unused
  | symbol (s : Nat)
  | fork (clear set : Huffman)

namespace Huffman

/-- The longest code. -/
def maxLength : Nat := 15

/-- What is left of the code space after the lengths of a list of counts; nothing when they claim more. -/
def left : List Nat → Nat → Option Nat
  | [], space => some space
  | n :: ns, space => if 2 * space < n then none else left ns (2 * space - n)

/-- What a list of lengths leaves of the code space. -/
def spaceLeft? (lengths : List Nat) : Option Nat :=
  left ((List.range maxLength).map fun l => lengths.count (l + 1)) 1

/-- The forks over neighbours in a list. -/
def pairs : List Huffman → List Huffman
  | [] => []
  | [a] => [.fork a .unused]
  | a :: b :: r => .fork a b :: pairs r

/-- The symbols of one length, in rising order. -/
def leaves (lengths : List Nat) (length : Nat) : List Huffman :=
  (lengths.zipIdx.filter (·.1 == length)).map fun (_, s) => .symbol s

/-- The forks over all codes longer than `maxLength - count` bits. At each length the symbols come before the forks
over the longer codes. -/
def level (lengths : List Nat) : (count : Nat) → List Huffman
  | 0 => []
  | count + 1 => pairs (leaves lengths (maxLength - count) ++ level lengths count)

/-- The canonical code of a list of lengths. -/
def ofLengths (lengths : List Nat) : Huffman :=
  match level lengths maxLength with
  | t :: _ => t
  | [] => .fork .unused .unused

/-- The canonical code of lengths that use up the code space. -/
def complete? (lengths : List Nat) : Option Huffman :=
  if spaceLeft? lengths = some 0 then some (ofLengths lengths) else none

/-- The canonical code of lengths that use up the code space, or are of one symbol at most. -/
def lenient? (lengths : List Nat) : Option Huffman :=
  if lengths.countP (· ≠ 0) ≤ 1 then some (ofLengths lengths) else complete? lengths

/-- The symbol at the front of the bits. -/
def read : Huffman → List Bool → Except InflateFault (Nat × List Bool)
  | .unused, _ => .error .corrupt
  | .symbol s, bs => .ok (s, bs)
  | .fork _ _, [] => .error .short
  | .fork clear set, b :: bs => if b then set.read bs else clear.read bs

end Huffman

/-- The least length, and the extra bits, of the length symbols. -/
def lengthTable : List (Nat × Nat) :=
  [(3, 0), (4, 0), (5, 0), (6, 0), (7, 0), (8, 0), (9, 0), (10, 0), (11, 1), (13, 1), (15, 1), (17, 1),
   (19, 2), (23, 2), (27, 2), (31, 2), (35, 3), (43, 3), (51, 3), (59, 3), (67, 4), (83, 4), (99, 4), (115, 4),
   (131, 5), (163, 5), (195, 5), (227, 5), (258, 0)]

/-- The least distance, and the extra bits, of the distance symbols. -/
def distanceTable : List (Nat × Nat) :=
  [(1, 0), (2, 0), (3, 0), (4, 0), (5, 1), (7, 1), (9, 2), (13, 2), (17, 3), (25, 3), (33, 4), (49, 4),
   (65, 5), (97, 5), (129, 6), (193, 6), (257, 7), (385, 7), (513, 8), (769, 8), (1025, 9), (1537, 9),
   (2049, 10), (3073, 10), (4097, 11), (6145, 11), (8193, 12), (12289, 12), (16385, 13), (24577, 13)]

/-- A table value with its extra bits. -/
def extended (table : List (Nat × Nat)) (i : Nat) (bs : List Bool) : Except InflateFault (Nat × List Bool) :=
  match table[i]? with
  | none => .error .corrupt
  | some (least, extra) => do
    let (n, bs) ← takeBits extra bs
    pure (least + n, bs)

/-- Repeats `count` bytes from `distance` bytes back. Zeros stand before the first byte. -/
def copyBack (distance : Nat) : (count : Nat) → Array UInt8 → Array UInt8
  | 0, out => out
  | count + 1, out =>
    let b := if distance ≤ out.size then out.getD (out.size - distance) 0 else 0
    copyBack distance count (out.push b)

/-- The symbols of a block up to its end. `fuel` bounds their number. -/
def symbols (literals distances : Huffman) : (fuel : Nat) → List Bool → Array UInt8 →
    Except InflateFault (List Bool × Array UInt8)
  | 0, _, _ => .error .short
  | fuel + 1, bs, out => do
    let (s, bs) ← literals.read bs
    if s < 256 then symbols literals distances fuel bs (out.push (UInt8.ofNat s))
    else if s = 256 then pure (bs, out)
    else
      let (count, bs) ← extended lengthTable (s - 257) bs
      let (d, bs) ← distances.read bs
      let (distance, bs) ← extended distanceTable d bs
      symbols literals distances fuel bs (copyBack distance count out)

/-- A stored block: its length twice, once inverted, and its bytes. -/
def storedBlock (bs : List Bool) (out : Array UInt8) : Except InflateFault (List Bool × Array UInt8) := do
  let bs := bs.drop (bs.length % 8)
  let (size, bs) ← takeBits 16 bs
  let (inverse, bs) ← takeBits 16 bs
  if size + inverse ≠ 65535 then throw .corrupt
  let front := bs.take (8 * size)
  if front.length < 8 * size then throw .short
  pure (bs.drop (8 * size), out ++ (bytesOfBits size front).toArray)

/-- The fixed codes. -/
def fixedLiterals : List Nat :=
  List.replicate 144 8 ++ List.replicate 112 9 ++ List.replicate 24 7 ++ List.replicate 8 8

def fixedDistances : List Nat := List.replicate 32 5

/-- The order in which the lengths of the code for code lengths are given. -/
def lengthOrder : List Nat := [16, 17, 18, 0, 8, 7, 9, 6, 10, 5, 11, 4, 12, 3, 13, 2, 14, 1, 15]

/-- `count` numbers of three bits. -/
def takeLengths : (count : Nat) → List Bool → Except InflateFault (List Nat × List Bool)
  | 0, bs => .ok ([], bs)
  | count + 1, bs => do
    let (n, bs) ← takeBits 3 bs
    let (ns, bs) ← takeLengths count bs
    pure (n :: ns, bs)

/-- Code lengths, last one first, until there are `goal`. -/
def codeLengths (h : Huffman) (goal : Nat) : (fuel : Nat) → List Nat → List Bool →
    Except InflateFault (List Nat × List Bool)
  | 0, _, _ => .error .corrupt
  | fuel + 1, done, bs =>
    if goal ≤ done.length then
      if done.length = goal then .ok (done, bs) else .error .corrupt
    else do
      let (s, bs) ← h.read bs
      if s < 16 then codeLengths h goal fuel (s :: done) bs
      else if s = 16 then
        match done with
        | [] => throw .corrupt
        | l :: _ => do
          let (n, bs) ← takeBits 2 bs
          codeLengths h goal fuel (List.replicate (n + 3) l ++ done) bs
      else if s = 17 then
        let (n, bs) ← takeBits 3 bs
        codeLengths h goal fuel (List.replicate (n + 3) 0 ++ done) bs
      else
        let (n, bs) ← takeBits 7 bs
        codeLengths h goal fuel (List.replicate (n + 11) 0 ++ done) bs

/-- The two codes in front of a block that brings its own. -/
def ownCodes (bs : List Bool) : Except InflateFault ((Huffman × Huffman) × List Bool) := do
  let (literals, bs) ← takeBits 5 bs
  let (distances, bs) ← takeBits 5 bs
  let (lengths, bs) ← takeBits 4 bs
  if 286 < literals + 257 ∨ 30 < distances + 1 then throw .corrupt
  let (ns, bs) ← takeLengths (lengths + 4) bs
  let ordered := (List.range 19).map fun s => ((lengthOrder.zip ns).lookup s).getD 0
  match Huffman.complete? ordered with
  | none => throw .corrupt
  | some h =>
    let (all, bs) ← codeLengths h (literals + 257 + distances + 1) 400 [] bs
    let all := all.reverse
    match Huffman.lenient? (all.take (literals + 257)), Huffman.lenient? (all.drop (literals + 257)) with
    | some l, some d => pure ((l, d), bs)
    | _, _ => throw .corrupt

/-- The blocks of a stream up to the last one, and the bits behind it. -/
def inflateBlocks : (fuel : Nat) → List Bool → Array UInt8 → Except InflateFault (List Bool × Array UInt8)
  | 0, _, _ => .error .short
  | fuel + 1, bs, out => do
    let (final, bs) ← takeBits 1 bs
    let (kind, bs) ← takeBits 2 bs
    let (bs, out) ←
      if kind = 0 then storedBlock bs out
      else if kind = 1 then symbols (.ofLengths fixedLiterals) (.ofLengths fixedDistances) (fuel + 1) bs out
      else if kind = 2 then do
        let ((l, d), bs) ← ownCodes bs
        symbols l d (fuel + 1) bs out
      else throw .corrupt
    if final = 1 then pure (bs, out) else inflateBlocks fuel bs out

/-- The bytes of a stream, and the bytes behind it. -/
def inflate (bytes : List UInt8) : Except InflateFault (List UInt8 × List UInt8) := do
  let bits := bitsOf bytes
  let (rest, out) ← inflateBlocks (bits.length + 1) bits #[]
  pure (out.toList, bytes.drop (bytes.length - rest.length / 8))

/-- A natural as two bytes, the lower one first. -/
def twoBytes (n : Nat) : List UInt8 := [UInt8.ofNat (n % 256), UInt8.ofNat (n / 256)]

/-- The most bytes of a stored block. -/
def storedLimit : Nat := 65535

/-- Bytes as stored blocks, at most `fuel + 1` of them. -/
def stored : (fuel : Nat) → List UInt8 → List UInt8
  | 0, bytes => block true (bytes.take storedLimit)
  | fuel + 1, bytes =>
    if bytes.length ≤ storedLimit then block true bytes
    else block false (bytes.take storedLimit) ++ stored fuel (bytes.drop storedLimit)
where
  block (final : Bool) (bytes : List UInt8) : List UInt8 :=
    (if final then 1 else 0) :: (twoBytes bytes.length ++ twoBytes (storedLimit - bytes.length) ++ bytes)

end SnippetAudit.Archive
