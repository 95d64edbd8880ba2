import Mathlib.Algebra.Group.Nat.Defs
import SnippetAudit.Archive.Gzip

/-!
# Gzip is lossless

A stored block is read as its bytes and leaves what follows it (`inflateBlocks_block`), so a run of stored blocks is
inflated to the bytes that went into it (`inflate_stored`), and a gzip file gives back its content
(`decompress_compress`).
-/

namespace SnippetAudit

/-! ## Bytes -/

theorem ByteArray.toList_loop (b : ByteArray) (i : Nat) (r : List UInt8) :
    ByteArray.toList.loop b i r = r.reverse ++ b.data.toList.drop i := by
  fun_induction ByteArray.toList.loop b i r with
  | case1 i r hi ih =>
    have hi' : i < b.data.toList.length := by simpa using hi
    have hget : b.get! i = b.data.toList[i] := by
      rw [ByteArray.get!, getElem!_pos b.data i hi, Array.getElem_toList]
    rw [ih, List.drop_eq_getElem_cons hi', hget]
    simp
  | case2 i r hi =>
    have hle : b.data.toList.length ≤ i := by simpa using hi
    rw [List.drop_eq_nil_of_le hle, List.append_nil]

theorem ByteArray.toList_eq (b : ByteArray) : b.toList = b.data.toList := ByteArray.toList_loop b 0 []

namespace Archive

/-! ## Bits -/

@[simp] theorem length_bitsOfByte (b : UInt8) : (bitsOfByte b).length = 8 := by simp [bitsOfByte]

theorem bitsOf_cons (b : UInt8) (bs : List UInt8) : bitsOf (b :: bs) = bitsOfByte b ++ bitsOf bs := rfl

theorem bitsOf_append (bs bs' : List UInt8) : bitsOf (bs ++ bs') = bitsOf bs ++ bitsOf bs' := List.flatMap_append

@[simp] theorem length_bitsOf (bs : List UInt8) : (bitsOf bs).length = 8 * bs.length := by
  induction bs with
  | nil => rfl
  | cons b bs ih =>
    rw [bitsOf_cons, List.length_append, ih, length_bitsOfByte, List.length_cons]
    omega

theorem valueOfBits_append (a b : List Bool) :
    valueOfBits (a ++ b) = valueOfBits a + 2 ^ a.length * valueOfBits b := by
  induction a with
  | nil => simp [valueOfBits]
  | cons c a ih =>
    rw [List.cons_append, valueOfBits, valueOfBits, ih, List.length_cons, Nat.pow_succ, Nat.mul_add,
      Nat.mul_comm (2 ^ a.length) 2, Nat.mul_assoc, Nat.add_assoc]

theorem valueOfBits_byte (b : UInt8) : valueOfBits (bitsOfByte b) = b.toNat := by
  have hall : ∀ n : Fin 256, valueOfBits ((List.range 8).map fun i => n.val.testBit i) = n.val := by decide +kernel
  exact hall ⟨b.toNat, b.toNat_lt⟩

theorem takeBits_append (front bs : List Bool) :
    takeBits front.length (front ++ bs) = .ok (valueOfBits front, bs) := by
  simp [takeBits]

/-- Two bytes are read as the number they hold. -/
theorem takeBits_twoBytes {n : Nat} (h : n < 65536) (bytes : List UInt8) :
    takeBits 16 (bitsOf (twoBytes n ++ bytes)) = .ok (n, bitsOf bytes) := by
  have hlow : (UInt8.ofNat (n % 256)).toNat = n % 256 := by simp
  have hhigh : (UInt8.ofNat (n / 256)).toNat = n / 256 := by
    rw [UInt8.toNat_ofNat']
    omega
  have hvalue : valueOfBits (bitsOf (twoBytes n)) = n := by
    rw [twoBytes, bitsOf_cons, bitsOf_cons, valueOfBits_append, valueOfBits_append, valueOfBits_byte, valueOfBits_byte,
      length_bitsOfByte, hlow, hhigh]
    simp only [bitsOf, List.flatMap_nil, valueOfBits]
    omega
  have htake := takeBits_append (bitsOf (twoBytes n)) (bitsOf bytes)
  rwa [← bitsOf_append, hvalue] at htake

theorem bytesOfBits_bitsOf : ∀ bs : List UInt8, bytesOfBits bs.length (bitsOf bs) = bs
  | [] => rfl
  | b :: bs => by
    rw [List.length_cons, bytesOfBits, bitsOf_cons, List.take_left' (length_bitsOfByte b),
      List.drop_left' (length_bitsOfByte b), valueOfBits_byte, bytesOfBits_bitsOf bs, UInt8.ofNat_toNat]

/-! ## Stored blocks -/

/-- Behind the bits that fill its first byte, a stored block is its length, the length inverted, and its bytes. -/
theorem storedBlock_bytes {content : List UInt8} (h : content.length ≤ storedLimit) (fill : List Bool)
    (hf : fill.length < 8) (rest : List UInt8) (out : Array UInt8) :
    storedBlock (fill ++ bitsOf (twoBytes content.length ++
      (twoBytes (storedLimit - content.length) ++ (content ++ rest)))) out =
      .ok (bitsOf rest, out ++ content.toArray) := by
  have hlimit : storedLimit = 65535 := rfl
  have hdrop : ∀ bytes : List UInt8,
      (fill ++ bitsOf bytes).drop ((fill ++ bitsOf bytes).length % 8) = bitsOf bytes := by
    intro bytes
    refine List.drop_left' ?_
    rw [List.length_append, length_bitsOf]
    omega
  have hsize : ¬(content.length + (storedLimit - content.length) ≠ 65535) := by omega
  have hbits : (bitsOf content).length = 8 * content.length := length_bitsOf content
  simp only [storedBlock, hdrop, takeBits_twoBytes (show content.length < 65536 by omega),
    takeBits_twoBytes (show storedLimit - content.length < 65536 by omega), bind, Except.bind, if_neg hsize]
  simp only [bitsOf_append, List.take_left' hbits, List.drop_left' hbits, hbits, Nat.lt_irrefl, if_false,
    bytesOfBits_bitsOf]
  rfl

/-- **A stored block is read as its bytes.** -/
theorem inflateBlocks_block {content : List UInt8} (h : content.length ≤ storedLimit) (final : Bool) (fuel : Nat)
    (rest : List UInt8) (out : Array UInt8) :
    inflateBlocks (fuel + 1) (bitsOf (stored.block final content ++ rest)) out =
      if final then .ok (bitsOf rest, out ++ content.toArray)
      else inflateBlocks fuel (bitsOf rest) (out ++ content.toArray) := by
  have hhead : bitsOf (stored.block final content ++ rest) =
      [final] ++ ([false, false] ++ (List.replicate 5 false ++ bitsOf (twoBytes content.length ++
        (twoBytes (storedLimit - content.length) ++ (content ++ rest))))) := by
    cases final <;> simp [stored.block, bitsOf_cons] <;> rfl
  have hfinal : ∀ bs, takeBits 1 ([final] ++ bs) = .ok (valueOfBits [final], bs) := takeBits_append [final]
  have hkind : ∀ bs, takeBits 2 ([false, false] ++ bs) = .ok (0, bs) := takeBits_append [false, false]
  have hbody := storedBlock_bytes h (List.replicate 5 false) (by decide) rest out
  rw [inflateBlocks, hhead, hfinal]
  simp only [bind, Except.bind, hkind, if_true, hbody]
  cases final <;> rfl

theorem length_block (final : Bool) (content : List UInt8) : content.length ≤ (stored.block final content).length := by
  simp [stored.block]
  omega

/-- The bytes behind a full block. -/
theorem length_drop_block {n : Nat} {content : List UInt8} (h : content.length ≤ (n + 1 + 1) * storedLimit) :
    (content.drop storedLimit).length ≤ (n + 1) * storedLimit := by
  rw [Nat.succ_mul] at h
  rw [List.length_drop]
  omega

/-- Bytes are no shorter when they are stored. -/
theorem length_stored : ∀ {n : Nat} {content : List UInt8}, content.length ≤ (n + 1) * storedLimit →
    content.length ≤ (stored n content).length
  | 0, content, h => by
    rw [stored, List.take_of_length_le (by omega)]
    exact length_block true content
  | n + 1, content, h => by
    rw [stored]
    split
    · exact length_block true content
    · have hblock := length_block false (content.take storedLimit)
      have ih := length_stored (length_drop_block h)
      rw [List.length_append]
      rw [List.length_take] at hblock
      rw [List.length_drop] at ih
      omega

/-- **Stored blocks are read as the bytes that went into them.** -/
theorem inflateBlocks_stored : ∀ {n fuel : Nat} {content : List UInt8}, content.length ≤ (n + 1) * storedLimit →
    n < fuel → ∀ (rest : List UInt8) (out : Array UInt8),
    inflateBlocks fuel (bitsOf (stored n content ++ rest)) out = .ok (bitsOf rest, out ++ content.toArray)
  | _, 0, _, _, hf, _, _ => absurd hf (Nat.not_lt_zero _)
  | 0, fuel + 1, content, h, _, rest, out => by
    have hle : content.length ≤ storedLimit := by omega
    rw [stored, List.take_of_length_le hle, inflateBlocks_block hle]
    rfl
  | n + 1, fuel + 1, content, h, hf, rest, out => by
    rw [stored]
    split
    · next hle =>
      rw [inflateBlocks_block hle]
      rfl
    · have htake : (content.take storedLimit).length ≤ storedLimit := List.length_take_le _ _
      have ih := inflateBlocks_stored (length_drop_block h) (Nat.lt_of_succ_lt_succ hf) rest
        (out ++ (content.take storedLimit).toArray)
      have hjoin : (content.take storedLimit).toArray ++ (content.drop storedLimit).toArray = content.toArray := by simp
      rw [List.append_assoc, inflateBlocks_block htake, if_neg (by decide), ih, Array.append_assoc, hjoin]

theorem inflate_stored {n : Nat} {content : List UInt8} (h : content.length ≤ (n + 1) * storedLimit)
    (hn : n ≤ content.length) (rest : List UInt8) : inflate (stored n content ++ rest) = .ok (content, rest) := by
  have hlen := length_stored h
  have hfuel : n < (bitsOf (stored n content ++ rest)).length + 1 := by
    rw [length_bitsOf, List.length_append]
    omega
  have hbehind :
      (stored n content ++ rest).drop ((stored n content ++ rest).length - (bitsOf rest).length / 8) = rest := by
    refine List.drop_left' ?_
    rw [length_bitsOf, List.length_append]
    omega
  simp only [inflate, inflateBlocks_stored h hfuel, bind, Except.bind, hbehind]
  simp [pure, Except.pure]

end Archive

namespace Gzip

open Archive

theorem dropHeader_plain (bytes : List UInt8) : dropHeader (plainHeader ++ bytes) = .ok bytes := rfl

theorem decompressBytes_compressBytes (content : List UInt8) :
    decompressBytes (compressBytes content) = .ok content := by
  have hlimit : storedLimit = 65535 := rfl
  have hlen : content.length ≤ (content.length / storedLimit + 1) * storedLimit := by
    rw [hlimit]
    omega
  have hn : content.length / storedLimit ≤ content.length := Nat.div_le_self _ _
  have htake : ∀ a b : List UInt8, a.length = 4 → b.length = 4 → (a ++ b).take 8 = a ++ b := fun a b ha hb =>
    List.take_of_length_le (Nat.le_of_eq (by rw [List.length_append, ha, hb]))
  rw [decompressBytes, compressBytes, List.append_assoc, List.append_assoc, dropHeader_plain]
  simp only [bind, Except.bind, inflate_stored hlen hn]
  rw [htake _ _ rfl rfl, if_pos rfl]
  rfl

/-- **Gzip gives back what it was given.** -/
theorem decompress_compress (content : ByteArray) : decompress (compress content) = .ok content := by
  rw [decompress, compress, ByteArray.toList_eq, decompressBytes_compressBytes, ByteArray.toList_eq]
  rfl

end Gzip
end SnippetAudit
