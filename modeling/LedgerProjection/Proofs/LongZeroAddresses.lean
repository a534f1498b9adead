import Mathlib.Data.List.Induction
import LedgerProjection.Proofs.Resolution

/-!
# Long-zero addresses

The EVM address of an id is its long-zero address (`EntityId.longZeroAddress`): the shard in
four bytes, the realm and the num in eight each, big-endian two's complement. Reading `w` bytes
as a signed integer gives the balanced residue of their unsigned value modulo `2 ^ (8 * w)`
(`Word.ofBigEndianSigned_eq_bmod`). Writing an integer and reading it back therefore gives its
balanced residue, which is the integer itself exactly when it fits the width
(`Word.ofBigEndianSigned_bigEndian`), and reading bytes and writing them back gives the same
bytes (`Word.bigEndian_ofBigEndianSigned`).

So an address decodes to the id it was written from when the shard is a 32-bit integer (a
wider shard comes back truncated), every 20-byte string is the address of what it decodes to,
and the 32-byte EVM word of an id is its address padded on the left. A reference to the address
of an id in the configured shard and realm is resolved locally, whatever the resolver knows.
Main statement: `EntityId.longZero_roundTrips`.
-/

namespace LedgerProjection

namespace I32

/-- A 32-bit integer is its own balanced residue modulo `2 ^ 32`. -/
theorem bmod_of_inRange {n : Int} (h : InRange n) : Int.bmod n (2 ^ (8 * 4)) = n := by
  obtain ⟨hlo, hhi⟩ := h
  exact Int.bmod_eq_of_le (by simp only [lo] at hlo; omega) (by simp only [hi] at hhi; omega)

end I32

/-- A 64-bit integer is its own balanced residue modulo `2 ^ 64`. -/
theorem I64.bmod_of_inRange {n : Int} (h : I64.InRange n) : Int.bmod n (2 ^ (8 * 8)) = n := by
  obtain ⟨hlo, hhi⟩ := h
  exact Int.bmod_eq_of_le (by simp only [I64.lo] at hlo; omega)
    (by simp only [I64.hi] at hhi; omega)

namespace Word

/-! ### Unsigned big-endian values -/

/-- The unsigned value of a byte string, most significant byte first. -/
def unsigned (bytes : List UInt8) : Nat := bytes.foldl (fun acc b => acc * 256 + b.toNat) 0

/-- The `width` low bytes of `m`, most significant first. -/
def digits (width m : Nat) : List UInt8 :=
  (List.range width).reverse.map fun i => (m / Nat.pow 2 (8 * i) % 256).toUInt8

theorem bigEndian_eq_digits (width : Nat) (n : Int) :
    bigEndian width n = digits width (n % (2 ^ (8 * width) : Nat)).toNat := rfl

@[simp] theorem length_digits (width m : Nat) : (digits width m).length = width := by
  simp [digits]

@[simp] theorem length_bigEndian (width : Nat) (n : Int) : (bigEndian width n).length = width := by
  rw [bigEndian_eq_digits, length_digits]

@[simp] theorem unsigned_nil : unsigned [] = 0 := rfl

theorem unsigned_append_singleton (bytes : List UInt8) (b : UInt8) :
    unsigned (bytes ++ [b]) = unsigned bytes * 256 + b.toNat := by
  simp [unsigned, List.foldl_append]

/-- The last byte is the lowest digit; the others are the digits of the rest. -/
theorem digits_succ (width m : Nat) :
    digits (width + 1) m = digits width (m / 256) ++ [(m % 256).toUInt8] := by
  simp only [digits, List.range_succ_eq_map, List.reverse_cons, List.map_append,
    List.map_reverse, List.map_map, List.map_cons, List.map_nil, Nat.pow_eq, Nat.mul_zero,
    Nat.pow_zero, Nat.div_one]
  congr 2
  refine List.map_congr_left fun i _ => ?_
  -- one more byte of the whole is one byte of the quotient by 256
  simp only [Function.comp_apply, Nat.succ_eq_add_one, Nat.div_div_eq_div_mul]
  congr 3
  rw [Nat.mul_add, Nat.pow_add]
  omega

theorem unsigned_digits (width m : Nat) : unsigned (digits width m) = m % 2 ^ (8 * width) := by
  induction width generalizing m with
  | zero => simp [digits, Nat.mod_one]
  | succ width ih =>
    rw [digits_succ, unsigned_append_singleton, ih]
    have hpow : 2 ^ (8 * (width + 1)) = 256 * 2 ^ (8 * width) := by
      rw [Nat.mul_succ, Nat.pow_add]
      omega
    rw [hpow, Nat.mod_mul]
    simp only [Nat.toUInt8_eq, UInt8.toNat_ofNat', Nat.reducePow, Nat.dvd_refl,
      Nat.mod_mod_of_dvd]
    omega

theorem digits_unsigned (bytes : List UInt8) : digits bytes.length (unsigned bytes) = bytes := by
  induction bytes using List.reverseRecOn with
  | nil => rfl
  | append_singleton init b ih =>
    have hb := b.toNat_lt
    rw [List.length_append, List.length_singleton, digits_succ, unsigned_append_singleton]
    have hdiv : (unsigned init * 256 + b.toNat) / 256 = unsigned init := by omega
    have hmod : (unsigned init * 256 + b.toNat) % 256 = b.toNat := by omega
    rw [hdiv, hmod, ih]
    simp

theorem unsigned_lt (bytes : List UInt8) : unsigned bytes < 2 ^ (8 * bytes.length) := by
  calc unsigned bytes = unsigned (digits bytes.length (unsigned bytes)) := by
        rw [digits_unsigned]
    _ = unsigned bytes % 2 ^ (8 * bytes.length) := unsigned_digits _ _
    _ < 2 ^ (8 * bytes.length) := Nat.mod_lt _ (Nat.two_pow_pos _)

/-! ### Two's complement -/

theorem ofBigEndianSigned_eq (bytes : List UInt8) :
    ofBigEndianSigned bytes =
      if 0 < bytes.length ∧ 2 ^ (8 * bytes.length - 1) ≤ unsigned bytes then
        (unsigned bytes : Int) - (2 ^ (8 * bytes.length) : Nat)
      else unsigned bytes := by
  unfold ofBigEndianSigned
  by_cases h : 0 < bytes.length ∧ 2 ^ (8 * bytes.length - 1) ≤ unsigned bytes
  · rw [if_pos h, if_pos (by simpa [unsigned] using h)]
    rfl
  · rw [if_neg h, if_neg (by simpa [unsigned] using h)]
    rfl

/-- Reading bytes as a signed integer gives the balanced residue of their unsigned value. -/
theorem ofBigEndianSigned_eq_bmod (bytes : List UInt8) :
    ofBigEndianSigned bytes = Int.bmod (unsigned bytes) (2 ^ (8 * bytes.length)) := by
  rw [Int.bmod_eq_emod, Int.emod_eq_of_lt (by omega) (by exact_mod_cast unsigned_lt bytes),
    ofBigEndianSigned_eq]
  rcases Nat.eq_zero_or_pos bytes.length with h0 | hpos
  · rw [List.length_eq_zero_iff.1 h0]
    decide
  · -- the sign bit is the top one of the `8 * length` bits: half the modulus
    have hhalf : ((2 ^ (8 * bytes.length) : Nat) + 1 : Int) / 2 =
        (2 ^ (8 * bytes.length - 1) : Nat) := by
      have h8 : 8 * bytes.length = 8 * bytes.length - 1 + 1 := by omega
      rw [h8, Nat.pow_succ, Nat.add_sub_cancel]
      omega
    rw [hhalf]
    by_cases hsign : 2 ^ (8 * bytes.length - 1) ≤ unsigned bytes
    · rw [if_pos ⟨hpos, hsign⟩, if_pos (by exact_mod_cast hsign)]
    · rw [if_neg (fun h => hsign h.2), if_neg (by exact_mod_cast hsign)]
      simp

/-- Writing an integer in `width` bytes and reading it back gives its balanced residue. -/
theorem ofBigEndianSigned_bigEndian (width : Nat) (n : Int) :
    ofBigEndianSigned (bigEndian width n) = Int.bmod n (2 ^ (8 * width)) := by
  have hpos : (0 : Int) < (2 ^ (8 * width) : Nat) := by exact_mod_cast Nat.two_pow_pos _
  have hnn : 0 ≤ n % (2 ^ (8 * width) : Nat) := Int.emod_nonneg _ (by omega)
  rw [ofBigEndianSigned_eq_bmod, length_bigEndian, bigEndian_eq_digits, unsigned_digits,
    Nat.mod_eq_of_lt (by omega), Int.toNat_of_nonneg hnn, Int.emod_bmod]

/-- Reading bytes as a signed integer and writing it back in as many bytes gives them back. -/
theorem bigEndian_ofBigEndianSigned (bytes : List UInt8) :
    bigEndian bytes.length (ofBigEndianSigned bytes) = bytes := by
  rw [bigEndian_eq_digits, ofBigEndianSigned_eq_bmod, Int.bmod_emod,
    Int.emod_eq_of_lt (by omega) (by exact_mod_cast unsigned_lt bytes), Int.toNat_natCast,
    digits_unsigned]

theorem bigEndian_ofBigEndianSigned_of_length {bytes : List UInt8} {width : Nat}
    (h : bytes.length = width) : bigEndian width (ofBigEndianSigned bytes) = bytes := by
  rw [← h, bigEndian_ofBigEndianSigned]

end Word

namespace EntityId

/-! ### Addresses of ids -/

@[simp] theorem length_longZeroAddress (shard realm num : Int) :
    (longZeroAddress shard realm num).length = 20 := by
  simp [longZeroAddress_eq, Word.length_bigEndian]

/-- Decoding an address gives the shard, realm and num it was written from, each reduced to its
width: the shard to 32 bits, the realm and the num to 64. -/
theorem decodeLongZero_longZeroAddress_bmod (shard realm num : Int) :
    decodeLongZero (longZeroAddress shard realm num) =
      some (Int.bmod shard (2 ^ (8 * 4)), Int.bmod realm (2 ^ (8 * 8)),
        Int.bmod num (2 ^ (8 * 8))) := by
  rw [decodeLongZero_eq, if_pos (length_longZeroAddress _ _ _), longZeroAddress_eq,
    List.append_assoc]
  have h₁ := Word.length_bigEndian 4 shard
  have h₂ := Word.length_bigEndian 8 realm
  rw [List.take_left' h₁, List.drop_left' h₁, List.take_left' h₂,
    show 12 = 4 + 8 from rfl, ← List.drop_drop, List.drop_left' h₁, List.drop_left' h₂,
    Word.ofBigEndianSigned_bigEndian, Word.ofBigEndianSigned_bigEndian,
    Word.ofBigEndianSigned_bigEndian]

theorem decodeLongZero_longZeroAddress {shard realm num : Int} (hs : I32.InRange shard)
    (hr : I64.InRange realm) (hn : I64.InRange num) :
    decodeLongZero (longZeroAddress shard realm num) = some (shard, realm, num) := by
  rw [decodeLongZero_longZeroAddress_bmod, I32.bmod_of_inRange hs, I64.bmod_of_inRange hr,
    I64.bmod_of_inRange hn]

/-- Every 20-byte string is the address of what it decodes to. -/
theorem longZeroAddress_decodeLongZero {bytes : List UInt8} (h : bytes.length = 20) :
    (decodeLongZero bytes).map (fun (s, r, n) => longZeroAddress s r n) = some bytes := by
  rw [decodeLongZero_eq, if_pos h, Option.map_some, Option.some.injEq]
  show longZeroAddress (Word.ofBigEndianSigned (bytes.take 4))
    (Word.ofBigEndianSigned ((bytes.drop 4).take 8)) (Word.ofBigEndianSigned (bytes.drop 12)) =
      bytes
  rw [longZeroAddress_eq, Word.bigEndian_ofBigEndianSigned_of_length (by simp [h]),
    Word.bigEndian_ofBigEndianSigned_of_length (by simp [h]),
    Word.bigEndian_ofBigEndianSigned_of_length (by simp [h]), List.append_assoc,
    show 12 = 4 + 8 from rfl, ← List.drop_drop, List.take_append_drop, List.take_append_drop]

theorem decodeLongZero_eq_none_iff (bytes : List UInt8) :
    decodeLongZero bytes = none ↔ bytes.length ≠ 20 := by
  rw [decodeLongZero_eq]
  split <;> simp [*]

/-- The EVM word of an id is its address padded on the left to a word. -/
theorem leftPad32_evmAddress (id : EntityId) : Word.leftPad32 id.evmAddress = some id.evmWord := by
  rw [Word.leftPad32_eq, if_pos (by simp [evmAddress, Word.size])]
  simp [evmAddress, evmWord_eq, Word.size]

end EntityId

/-! ### Local resolution -/

/-- Both references to the address of a non-empty id in the configured shard and realm resolve
to the id, whatever the resolver knows. -/
theorem Ctx.resolve_longZero_self (c : Ctx) {id : EntityId} (hne : id ≠ EntityId.empty)
    (hs : I32.InRange id.shard) (hr : I64.InRange id.realm) (hn : I64.InRange id.num)
    (hshard : id.shard = c.props.shard) (hrealm : id.realm = c.props.realm) :
    c.resolve (.evmAddress id.evmAddress) = some id ∧ c.resolve (.alias id.evmAddress) = some id := by
  obtain ⟨halias, haddress⟩ :=
    c.resolve_local (EntityId.decodeLongZero_longZeroAddress hs hr hn) hshard hrealm
  have hkeep : (some id : Option EntityId).filter (!·.isEmpty) = some id := by
    simp [EntityId.isEmpty, hne]
  exact ⟨haddress.trans hkeep, halias.trans hkeep⟩

/-- Long-zero addresses: decoding inverts encoding for a 32-bit shard and 64-bit realm and num,
encoding inverts decoding on every 20-byte string, decoding fails exactly off that length, the
EVM word is the padded address, and a reference to the address of a non-empty id in the
configured shard and realm resolves to that id in every context, whatever its resolver. -/
theorem EntityId.longZero_roundTrips :
    (∀ shard realm num, I32.InRange shard → I64.InRange realm → I64.InRange num →
      EntityId.decodeLongZero (EntityId.longZeroAddress shard realm num) =
        some (shard, realm, num)) ∧
    (∀ bytes : List UInt8, bytes.length = 20 →
      (EntityId.decodeLongZero bytes).map (fun (s, r, n) => EntityId.longZeroAddress s r n) =
        some bytes) ∧
    (∀ bytes : List UInt8, EntityId.decodeLongZero bytes = none ↔ bytes.length ≠ 20) ∧
    (∀ id : EntityId, Word.leftPad32 id.evmAddress = some id.evmWord) ∧
    ∀ (c : Ctx) (id : EntityId), id ≠ EntityId.empty → I32.InRange id.shard →
      I64.InRange id.realm → I64.InRange id.num → id.shard = c.props.shard →
      id.realm = c.props.realm →
      c.resolve (.evmAddress id.evmAddress) = some id ∧
        c.resolve (.alias id.evmAddress) = some id :=
  ⟨fun _ _ _ => EntityId.decodeLongZero_longZeroAddress,
    fun _ => EntityId.longZeroAddress_decodeLongZero, EntityId.decodeLongZero_eq_none_iff,
    EntityId.leftPad32_evmAddress, fun c _ hne hs hr hn hshard hrealm =>
      c.resolve_longZero_self hne hs hr hn hshard hrealm⟩

/-- Under the default shard and realm, both references to the address of `0.0.1234` resolve to it
locally, even with the resolver that knows nothing. -/
theorem EntityId.longZero_roundTrips_defaultShard :
    (EntityId.ofNum 1234 ≠ EntityId.empty ∧ I32.InRange 0 ∧ I64.InRange 0 ∧ I64.InRange 1234 ∧
      (0 : Int) = ({} : Properties).shard ∧ (0 : Int) = ({} : Properties).realm) ∧
    ({ props := {}, via := .noop, sink := {} } : Ctx).resolve
        (.evmAddress (EntityId.ofNum 1234).evmAddress) = some (EntityId.ofNum 1234) ∧
      ({ props := {}, via := .noop, sink := {} } : Ctx).resolve
        (.alias (EntityId.ofNum 1234).evmAddress) = some (EntityId.ofNum 1234) :=
  ⟨⟨by decide, by decide, by decide, by decide, rfl, rfl⟩,
    EntityId.longZero_roundTrips.2.2.2.2 _ (EntityId.ofNum 1234) (by decide) (by decide)
      (by decide) (by decide) rfl rfl⟩

end LedgerProjection
