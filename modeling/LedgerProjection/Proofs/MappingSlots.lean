import LedgerProjection.Proofs.HookStorage

/-!
# Mapping slots follow the Solidity storage layout

A mapping entry of hook storage lives at the Keccak hash of a 64-byte buffer: the entry's key
right-aligned in the first word and the mapping's declared slot right-aligned in the second,
zeros elsewhere (`HookStorage.slotBuffer`, read byte by byte through `HookStorage.alignedByte`).
`HookStorage.mappingSlot_eq` says the slot is exactly that hash when both operands fit in a
word, and that there is none otherwise. Since only the aligned bytes matter, zero bytes put in
front of either operand, within a word, never move the slot (`mappingSlot_zeros_left`,
`mappingSlot_zeros_right`), and the same holds of the slot keys written directly
(`writes_storageSlot_zeros`).

An entry names its key directly or through a preimage, the key taking precedence
(`MappingEntry.key?`, `entrySlot_eq`); it is skipped exactly when it names none, when its key is
longer than a word, or when the declared slot is (`entrySlot_eq_none_iff`).
-/

namespace LedgerProjection

namespace HookStorage

/-! ### Words holding a byte string right-aligned -/

/-- Byte `i` of a word holding `bytes` right-aligned: zeros in front of them. -/
def alignedByte (bytes : List UInt8) (i : Nat) : UInt8 :=
  if Word.size - bytes.length ≤ i then bytes.getD (i - (Word.size - bytes.length)) 0 else 0

/-- The word holding `bytes` right-aligned. -/
def alignedWord (bytes : List UInt8) : List UInt8 :=
  List.ofFn (n := Word.size) fun i => alignedByte bytes i

/-- The buffer a mapping slot hashes: the key right-aligned in bytes `0 .. 32` and the declared
slot right-aligned in bytes `32 .. 64`. -/
def slotBuffer (key declared : List UInt8) : List UInt8 :=
  List.ofFn (n := 2 * Word.size) fun i =>
    if i.val < Word.size then alignedByte key i else alignedByte declared (i - Word.size)

theorem getElem_leftPad {bytes : List UInt8} {i : Nat}
    (hi : i < (List.replicate (Word.size - bytes.length) 0 ++ bytes).length) :
    (List.replicate (Word.size - bytes.length) 0 ++ bytes)[i] = alignedByte bytes i := by
  unfold alignedByte
  by_cases hlt : i < Word.size - bytes.length
  · rw [List.getElem_append_left (by simpa using hlt), List.getElem_replicate,
      if_neg (by omega)]
  · rw [List.getElem_append_right (by simpa using hlt), if_pos (by omega),
      List.getD_eq_getElem _ _ (by simp at hi; omega)]
    simp

/-- A byte string that fits in a word is padded to the word holding it right-aligned. -/
theorem leftPad32_eq {bytes : List UInt8} (h : bytes.length ≤ Word.size) :
    Word.leftPad32 bytes = some (alignedWord bytes) := by
  rw [Word.leftPad32_eq, if_pos h, Option.some.injEq]
  refine List.ext_getElem (by simp [alignedWord]; omega) fun i h₁ _ => ?_
  rw [getElem_leftPad h₁]
  simp [alignedWord]

theorem leftPad32_eq_none {bytes : List UInt8} (h : Word.size < bytes.length) :
    Word.leftPad32 bytes = none := by
  rw [Word.leftPad32_eq, if_neg (by omega)]

/-- The two aligned words, one after the other, are the slot buffer. -/
theorem alignedWord_append (key declared : List UInt8) :
    alignedWord key ++ alignedWord declared = slotBuffer key declared := by
  refine List.ext_getElem (by simp [alignedWord, slotBuffer]; omega) fun i h₁ h₂ => ?_
  simp only [slotBuffer, List.getElem_ofFn, List.getElem_append, alignedWord, List.length_ofFn]
  split <;> rfl

/-- Zeros in front of a byte string that still fits in a word leave its word as it is. -/
theorem leftPad32_zeros (bytes : List UInt8) {n : Nat} (h : n + bytes.length ≤ Word.size) :
    Word.leftPad32 (List.replicate n 0 ++ bytes) = Word.leftPad32 bytes := by
  have hlen : (List.replicate n 0 ++ bytes).length = n + bytes.length := by simp
  rw [Word.leftPad32_eq, Word.leftPad32_eq, if_pos (by omega), if_pos (by omega), hlen,
    ← List.append_assoc, List.replicate_append_replicate]
  congr 3
  omega

/-! ### Slots of mapping entries -/

/-- The slot of a mapping entry is the hash of the slot buffer when both operands fit in a word,
and there is none otherwise. -/
theorem mappingSlot_eq (key declared : List UInt8) :
    mappingSlot key declared =
      if key.length ≤ Word.size ∧ declared.length ≤ Word.size then
        some (Keccak.hash (slotBuffer key declared))
      else none := by
  unfold mappingSlot
  split
  · next h =>
    rw [leftPad32_eq h.1, leftPad32_eq h.2, ← alignedWord_append]
    rfl
  · next h =>
    rcases Nat.lt_or_ge Word.size key.length with hk | hk
    · rw [leftPad32_eq_none hk]
      rfl
    · rw [leftPad32_eq hk, leftPad32_eq_none (by omega)]
      rfl

theorem mappingSlot_zeros_left (key declared : List UInt8) {n : Nat}
    (h : n + key.length ≤ Word.size) :
    mappingSlot (List.replicate n 0 ++ key) declared = mappingSlot key declared := by
  rw [mappingSlot, mappingSlot, leftPad32_zeros key h]

theorem mappingSlot_zeros_right (key declared : List UInt8) {n : Nat}
    (h : n + declared.length ≤ Word.size) :
    mappingSlot key (List.replicate n 0 ++ declared) = mappingSlot key declared := by
  rw [mappingSlot, mappingSlot, leftPad32_zeros declared h]

end HookStorage

/-- The key a mapping entry names: the key given, else the hash of the preimage given. -/
def MappingEntry.key? (e : MappingEntry) : Option (List UInt8) :=
  e.key.or (e.preimage.map Keccak.hash)

namespace HookStorage

theorem entrySlot_eq (e : MappingEntry) (declared : List UInt8) :
    entrySlot e declared = e.key?.bind fun key => mappingSlot key declared := by
  unfold entrySlot MappingEntry.key?
  split <;> simp_all

/-- An entry is skipped exactly when it names no key, its key is longer than a word, or the
declared slot is: a preimage's hash always fits. -/
theorem entrySlot_eq_none_iff (e : MappingEntry) (declared : List UInt8) :
    entrySlot e declared = none ↔
      (e.key = none ∧ e.preimage = none) ∨ (∃ key, e.key = some key ∧ Word.size < key.length) ∨
        Word.size < declared.length := by
  rw [entrySlot_eq, MappingEntry.key?]
  rcases e with ⟨_ | key, _ | preimage, value⟩
  · simp
  · have hlen := Keccak.length_hash preimage
    simp [mappingSlot_eq, hlen]
  · simp [mappingSlot_eq]
    omega
  · simp [mappingSlot_eq]
    omega

/-! ### Slots written directly -/

/-- A slot key written directly is the word holding it right-aligned, when it fits in one. -/
theorem writes_storageSlot (key value : List UInt8) :
    writes (.storageSlot key value) =
      if key.length ≤ Word.size then [(alignedWord key, value)] else [] := by
  by_cases h : key.length ≤ Word.size
  · simp only [writes, leftPad32_eq h, if_pos h]
  · simp only [writes, leftPad32_eq_none (Nat.lt_of_not_le h), if_neg h]

theorem writes_storageSlot_zeros (key value : List UInt8) {n : Nat}
    (h : n + key.length ≤ Word.size) :
    writes (.storageSlot (List.replicate n 0 ++ key) value) = writes (.storageSlot key value) := by
  simp only [writes, leftPad32_zeros key h]

/-- Hook storage slots follow the Solidity layout. A mapping entry's slot is the hash of the
64-byte buffer holding its key and the declared slot right-aligned in one word each, and there
is none when either is longer than a word; zeros in front of either operand, within a word,
leave the slot where it is. An entry's key is the one it gives, else the hash of its preimage,
and the entry is skipped exactly when it gives neither, its key is longer than a word, or the
declared slot is. A slot written directly is its key right-aligned in a word the same way. -/
theorem mappingSlot_solidityLayout :
    (∀ key declared, mappingSlot key declared =
      if key.length ≤ Word.size ∧ declared.length ≤ Word.size then
        some (Keccak.hash (slotBuffer key declared))
      else none) ∧
    (∀ key declared n, n + key.length ≤ Word.size →
      mappingSlot (List.replicate n 0 ++ key) declared = mappingSlot key declared) ∧
    (∀ key declared n, n + declared.length ≤ Word.size →
      mappingSlot key (List.replicate n 0 ++ declared) = mappingSlot key declared) ∧
    (∀ e declared, entrySlot e declared = e.key?.bind fun key => mappingSlot key declared) ∧
    (∀ e declared, entrySlot e declared = none ↔
      (e.key = none ∧ e.preimage = none) ∨ (∃ key, e.key = some key ∧ Word.size < key.length) ∨
        Word.size < declared.length) ∧
    (∀ key value, writes (.storageSlot key value) =
      if key.length ≤ Word.size then [(alignedWord key, value)] else []) ∧
    ∀ key value n, n + key.length ≤ Word.size →
      writes (.storageSlot (List.replicate n 0 ++ key) value) = writes (.storageSlot key value) :=
  ⟨mappingSlot_eq, fun _ _ _ => mappingSlot_zeros_left _ _,
    fun _ _ _ => mappingSlot_zeros_right _ _, entrySlot_eq, entrySlot_eq_none_iff,
    writes_storageSlot, fun _ _ _ => writes_storageSlot_zeros _ _⟩

/-- The key `0x01` of a mapping declared at slot 0, written out to a whole word, has the slot of
the short key. -/
theorem mappingSlot_solidityLayout_wordKey :
    31 + [(1 : UInt8)].length ≤ Word.size ∧
      mappingSlot (List.replicate 31 0 ++ [1]) [] = mappingSlot [1] [] :=
  ⟨by decide, mappingSlot_solidityLayout.2.1 [1] [] 31 (by decide)⟩

end HookStorage

end LedgerProjection
