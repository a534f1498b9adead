import LedgerProjection.Proofs.LongZeroAddresses

/-!
# Sign-extended words

`Word.ofInt` writes a signed 64-bit integer as a word: 24 fill bytes, `0xff` below zero and
`0x00` from zero on, then the integer's 8 bytes, big-endian two's complement. The fill is the
sign extension of those 8 bytes: the word is the integer's two's complement in all 32 bytes
(`Word.ofInt_eq_bigEndian`), so read back as a signed 256-bit integer it gives the integer
(`Word.ofBigEndianSigned_ofInt`), `-1` and the least 64-bit integer included. Synthetic approval
logs carry their amounts and serial numbers as such words.
Main statement: `Word.ofInt_signExtends`.
-/

namespace LedgerProjection

namespace Word

/-- The value of a concatenation: the first part shifted past the bytes of the second. -/
theorem unsigned_append (xs ys : List UInt8) :
    unsigned (xs ++ ys) = unsigned xs * 2 ^ (8 * ys.length) + unsigned ys := by
  induction ys using List.reverseRecOn with
  | nil => simp
  | append_singleton ys b ih =>
    rw [← List.append_assoc, unsigned_append_singleton, ih, unsigned_append_singleton,
      List.length_append, List.length_singleton, Nat.mul_add, Nat.pow_add]
    ring

/-- The unsigned value of the `width` bytes of `n` is `n`'s residue modulo `2 ^ (8 * width)`. -/
theorem unsigned_bigEndian (width : Nat) (n : Int) :
    (unsigned (bigEndian width n) : Int) = n % (2 ^ (8 * width) : Nat) := by
  have hpos : (0 : Int) < (2 ^ (8 * width) : Nat) := by exact_mod_cast Nat.two_pow_pos _
  have hnn : 0 ≤ n % (2 ^ (8 * width) : Nat) := Int.emod_nonneg _ (by omega)
  rw [bigEndian_eq_digits, unsigned_digits, Nat.mod_eq_of_lt (by omega), Int.toNat_of_nonneg hnn]

/-- The fill of a word holds all 192 high bits below zero and none from zero on. -/
theorem unsigned_fill (v : Int) :
    unsigned (List.replicate 24 (if v < 0 then 0xff else 0)) =
      if v < 0 then 2 ^ 192 - 1 else 0 := by
  split <;> decide

/-- The unsigned value of the word of a 64-bit integer is the integer's residue modulo
`2 ^ 256`. -/
theorem unsigned_ofInt {v : Int} (hv : I64.InRange v) :
    (unsigned (ofInt v) : Int) = v % 2 ^ 256 := by
  rw [ofInt_eq, unsigned_append, Nat.cast_add, Nat.cast_mul, length_bigEndian, unsigned_bigEndian,
    unsigned_fill]
  obtain ⟨hlo, hhi⟩ := hv
  simp only [I64.lo, I64.hi] at hlo hhi
  split
  · -- the fill holds the high bits of `v + 2 ^ 256`, the tail the low ones of `v + 2 ^ 64`
    norm_num
    omega
  · norm_num
    omega

/-- Sign extension: the word of a 64-bit integer is its two's complement in 32 bytes. -/
theorem ofInt_eq_bigEndian {v : Int} (hv : I64.InRange v) : ofInt v = bigEndian 32 v := by
  have hlen : (ofInt v).length = 32 := by simp [ofInt_eq]
  have hvalue := unsigned_ofInt hv
  rw [← digits_unsigned (ofInt v), hlen, bigEndian_eq_digits]
  congr 1
  omega

/-- A 64-bit integer is its own balanced residue modulo `2 ^ 256`. -/
theorem bmod_word_of_inRange {v : Int} (hv : I64.InRange v) : Int.bmod v (2 ^ (8 * 32)) = v := by
  obtain ⟨hlo, hhi⟩ := hv
  exact Int.bmod_eq_of_le (by simp only [I64.lo] at hlo; omega)
    (by simp only [I64.hi] at hhi; omega)

/-- The word of a 64-bit integer, read as a signed 256-bit integer, is the integer. -/
theorem ofBigEndianSigned_ofInt {v : Int} (hv : I64.InRange v) :
    ofBigEndianSigned (ofInt v) = v := by
  rw [ofInt_eq_bigEndian hv, ofBigEndianSigned_bigEndian, bmod_word_of_inRange hv]

end Word

/-- The word of a 64-bit integer is its sign extension: its two's complement in 32 bytes, which
read back as a signed 256-bit integer is the integer; its first 24 bytes are all `0xff` below zero
and all `0x00` from zero on, and its last 8 are the integer's own big-endian bytes, which read
back as the integer. -/
theorem Word.ofInt_signExtends {v : Int} (hv : I64.InRange v) :
    Word.ofInt v = Word.bigEndian 32 v ∧ Word.ofBigEndianSigned (Word.ofInt v) = v ∧
      (Word.ofInt v).take 24 = List.replicate 24 (if v < 0 then 0xff else 0x00) ∧
      (Word.ofInt v).drop 24 = Word.bigEndian 8 v ∧
      Word.ofBigEndianSigned (Word.bigEndian 8 v) = v := by
  have hfill : (List.replicate 24 (if v < 0 then (0xff : UInt8) else 0)).length = 24 :=
    List.length_replicate
  refine ⟨Word.ofInt_eq_bigEndian hv, Word.ofBigEndianSigned_ofInt hv, ?_, ?_, ?_⟩
  · rw [Word.ofInt_eq]
    exact List.take_left' hfill
  · rw [Word.ofInt_eq]
    exact List.drop_left' hfill
  · rw [Word.ofBigEndianSigned_bigEndian, I64.bmod_of_inRange hv]

/-- The least 64-bit integer is written as 24 bytes `0xff` and its own 8 bytes, and reads back. -/
theorem Word.ofInt_signExtends_leastInteger :
    I64.InRange I64.lo ∧
      (Word.ofInt I64.lo = Word.bigEndian 32 I64.lo ∧
        Word.ofBigEndianSigned (Word.ofInt I64.lo) = I64.lo ∧
        (Word.ofInt I64.lo).take 24 = List.replicate 24 (if I64.lo < 0 then 0xff else 0x00) ∧
        (Word.ofInt I64.lo).drop 24 = Word.bigEndian 8 I64.lo ∧
        Word.ofBigEndianSigned (Word.bigEndian 8 I64.lo) = I64.lo) :=
  ⟨by decide, Word.ofInt_signExtends (by decide)⟩

end LedgerProjection
