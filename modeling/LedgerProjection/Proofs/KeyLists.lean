import Mathlib.Tactic.Ring
import LedgerProjection.Wire.KeyList

/-!
# Key lists in wire form

A key list is written as one frame per key: the tag byte `0x0a` (field 1, length-delimited),
the length of the key as a base-128 varint, then the key's bytes (`KeyList.encode`).

`KeyList.IsVarint bytes n` says what a base-128 varint is, without the writer: seven bits per
byte, low groups first, the high bit set on every byte but the last, and no zero group at the
end. `KeyList.varint` writes the one and only such form of every number
(`KeyList.isVarint_iff`), and `KeyList.Frames bytes keys` says, in the same terms, that `bytes`
frames `keys` one after another; `encode` writes exactly that (`KeyList.frames_iff`).

The reader takes a varint of at most ten bytes within 64 bits, so it reads back the varint of
every number below `2 ^ 64` (`KeyList.readVarint_varint_append`), and the key list of every list
of keys shorter than `2 ^ 64` bytes each (`KeyList.decode_encode`).
Main statement: `KeyList.encode_roundTrips`.
-/

namespace LedgerProjection

namespace KeyList

/-! ### Base-128 varints -/

/-- `bytes` is the base-128 varint of `n`: seven bits per byte, low groups first, the high bit
set on every byte but the last, and no zero group after the first. -/
inductive IsVarint : List UInt8 → Nat → Prop
  /-- One group, and the last. -/
  | last (b : UInt8) (hb : b.toNat < 128) : IsVarint [b] b.toNat
  /-- A low group, then the varint of the rest, which is not zero. -/
  | more (b : UInt8) (rest : List UInt8) (n : Nat) (hb : 128 ≤ b.toNat) (h : IsVarint rest n)
      (hn : n ≠ 0) : IsVarint (b :: rest) (b.toNat - 128 + 128 * n)

/-- A number has one varint at most. -/
theorem IsVarint.unique {bytes bytes' : List UInt8} {n : Nat} (h : IsVarint bytes n)
    (h' : IsVarint bytes' n) : bytes = bytes' := by
  induction h generalizing bytes' with
  | last b hb =>
    generalize hm : b.toNat = m at h'
    cases h' with
    | last b' _ => rw [UInt8.toNat_inj.1 hm]
    | more b' rest' m' hb' _ hm' => omega
  | more b rest n hb h hn ih =>
    generalize hm : b.toNat - 128 + 128 * n = m at h'
    cases h' with
    | last b' hb' => omega
    | more b' rest' m' hb' h'' hm' =>
      -- the low groups agree, and so do the rest
      have hlow : b.toNat = b'.toNat := by have := b.toNat_lt; have := b'.toNat_lt; omega
      have hhigh : n = m' := by omega
      subst hhigh
      rw [UInt8.toNat_inj.1 hlow, ih h'']

theorem isVarint_varintWith (fuel : Nat) :
    ∀ n, n < 128 ^ (fuel + 1) → IsVarint (varintWith (fuel + 1) n) n := by
  induction fuel with
  | zero =>
    intro n hn
    rw [varintWith, if_pos (by simpa using hn)]
    have := IsVarint.last n.toUInt8 (by simp; omega)
    simpa [Nat.mod_eq_of_lt (show n < 256 by omega)] using this
  | succ fuel ih =>
    intro n hn
    rw [varintWith]
    split
    · next hlt =>
      have := IsVarint.last n.toUInt8 (by simp; omega)
      simpa [Nat.mod_eq_of_lt (show n < 256 by omega)] using this
    · next hge =>
      have hq : n / 128 < 128 ^ (fuel + 1) := by
        rw [Nat.div_lt_iff_lt_mul (by decide), ← Nat.pow_succ]
        exact hn
      have := IsVarint.more (n % 128 + 128).toUInt8 _ _ (by simp; omega) (ih (n / 128) hq)
        (by omega)
      have hb : ((n % 128 + 128).toUInt8).toNat = n % 128 + 128 := by simp; omega
      rw [hb] at this
      have hn' : n % 128 + 128 - 128 + 128 * (n / 128) = n := by omega
      rwa [hn'] at this

/-- `varint` writes the base-128 varint of every number. -/
theorem isVarint_varint (n : Nat) : IsVarint (varint n) n :=
  isVarint_varintWith n n
    (Nat.lt_of_lt_of_le (Nat.lt_pow_self (by decide)) (Nat.pow_le_pow_right (by decide) (by omega)))

example : varint 300 = [0xac, 0x02] := by decide

/-- The varint of a number is the one `varint` writes. -/
theorem isVarint_iff (bytes : List UInt8) (n : Nat) : IsVarint bytes n ↔ bytes = varint n :=
  ⟨fun h => h.unique (isVarint_varint n), fun h => h ▸ isVarint_varint n⟩

/-! ### Frames -/

/-- `bytes` frames `keys` one after another: each key after the tag byte `0x0a` and the varint of
its length. -/
inductive Frames : List UInt8 → List (List UInt8) → Prop
  | nil : Frames [] []
  | cons (k v rest : List UInt8) (keys : List (List UInt8)) (hv : IsVarint v k.length)
      (h : Frames rest keys) : Frames (0x0a :: v ++ k ++ rest) (k :: keys)

@[simp] theorem encode_nil : encode [] = [] := rfl

theorem encode_cons (k : List UInt8) (keys : List (List UInt8)) :
    encode (k :: keys) = 0x0a :: varint k.length ++ k ++ encode keys := by
  simp [encode]

/-- `encode` writes exactly the frames of the keys. -/
theorem frames_iff (bytes : List UInt8) (keys : List (List UInt8)) :
    Frames bytes keys ↔ bytes = encode keys := by
  constructor
  · intro h
    induction h with
    | nil => rfl
    | cons k v rest keys hv _ ih => rw [encode_cons, ← ih, ← (isVarint_iff _ _).1 hv]
  · rintro rfl
    induction keys with
    | nil => exact .nil
    | cons k keys ih =>
      rw [encode_cons]
      exact .cons k _ _ keys (isVarint_varint _) ih

/-! ### Reading frames back -/

/-- The varint reader, from group `i` on with `acc` read so far, reads a whole varint whose value
at that position stays below `2 ^ 64`. -/
theorem readVarint_go_of_isVarint {v : List UInt8} {n : Nat} (h : IsVarint v n)
    (rest : List UInt8) :
    ∀ i acc, i ≤ 9 → n * 2 ^ (7 * i) < 2 ^ 64 →
      readVarint.go i acc (v ++ rest) = some (acc + n * 2 ^ (7 * i), rest) := by
  induction h with
  | last b hb =>
    intro i acc hi hbound
    rw [List.singleton_append, readVarint.go]
    -- only a tenth group may carry more than the top bit of 64
    have h9 : ¬(i = 9 ∧ 1 < b.toNat) := by
      rintro ⟨rfl, hb1⟩
      simp only [Nat.reduceMul, Nat.reducePow] at hbound
      omega
    simp [hb, Nat.mod_eq_of_lt hb, Nat.pow_eq, h9]
  | more b rest' m hb h hm ih =>
    intro i acc hi hbound
    rw [List.cons_append, readVarint.go]
    have hlow : b.toNat % 128 = b.toNat - 128 := by have := b.toNat_lt; omega
    have hpow : 2 ^ (7 * (i + 1)) = 2 ^ (7 * i) * 128 := by
      rw [Nat.mul_succ, Nat.pow_add]
    -- a group with more to come is never the tenth
    have hi9 : i ≠ 9 := by
      rintro rfl
      simp only [Nat.reduceMul, Nat.reducePow] at hbound
      omega
    have hnext : m * 2 ^ (7 * (i + 1)) < 2 ^ 64 := by
      rw [hpow]
      calc m * (2 ^ (7 * i) * 128) = (128 * m) * 2 ^ (7 * i) := by ring
        _ ≤ (b.toNat - 128 + 128 * m) * 2 ^ (7 * i) := Nat.mul_le_mul_right _ (by omega)
        _ < 2 ^ 64 := hbound
    simp only [show ¬b.toNat < 128 by omega, if_false, hi9, Nat.pow_eq]
    rw [ih (i + 1) _ (by omega) hnext, hlow, hpow]
    congr 2
    ring

theorem readVarint_varint_append {n : Nat} (h : n < 2 ^ 64) (rest : List UInt8) :
    readVarint (varint n ++ rest) = some (n, rest) := by
  have := readVarint_go_of_isVarint (isVarint_varint n) rest 0 0 (by decide) (by simpa using h)
  show readVarint.go 0 0 _ = _
  simpa using this

/-- The tag byte `0x0a` is the header of field 1, length-delimited. -/
theorem readKey_tag (rest : List UInt8) : readKey (0x0a :: rest) = some ((1, 2), rest) := by
  simp [readKey, readVarint, readVarint.go]

theorem takeExactly_append (k rest : List UInt8) :
    takeExactly k.length (k ++ rest) = some (k, rest) := by
  simp [takeExactly]

theorem readFields_encode (keys : List (List UInt8)) (h : ∀ k ∈ keys, k.length < 2 ^ 64) :
    ∀ fuel acc, keys.length ≤ fuel → readFields fuel (encode keys) acc = some (acc.reverse ++ keys) := by
  induction keys with
  | nil =>
    intro fuel acc _
    cases fuel <;> simp [readFields]
  | cons k keys ih =>
    intro fuel acc hfuel
    obtain ⟨fuel, rfl⟩ : ∃ f, fuel = f + 1 := ⟨fuel - 1, by simp at hfuel; omega⟩
    have hk := h k (by simp)
    rw [encode_cons, readFields]
    · simp only [List.cons_append, List.append_assoc, readKey_tag, Option.bind_eq_bind,
        Option.bind_some, if_true, ne_eq, not_true_eq_false, if_false,
        readVarint_varint_append hk, takeExactly_append]
      rw [ih (fun k hk => h k (by simp [hk])) fuel _ (by simpa using hfuel)]
      simp
    · simp

theorem length_le_length_encode (keys : List (List UInt8)) :
    keys.length ≤ (encode keys).length := by
  induction keys with
  | nil => simp
  | cons k keys ih =>
    rw [encode_cons]
    simp only [List.length_cons, List.cons_append, List.length_append]
    omega

/-- The reader gives back the keys of every key list whose keys are shorter than `2 ^ 64`
bytes. -/
theorem decode_encode (keys : List (List UInt8)) (h : ∀ k ∈ keys, k.length < 2 ^ 64) :
    decode (encode keys) = some keys := by
  have hfuel : keys.length ≤ (encode keys).length + 1 := by
    have := length_le_length_encode keys
    omega
  rw [decode, readFields_encode keys h _ _ hfuel, List.reverse_nil, List.nil_append]

end KeyList

/-- Key lists: `varint` writes the one base-128 varint of each number, `encode` writes exactly
the frames of the keys (so no keys make no bytes), and the reader gives back every list of keys
shorter than `2 ^ 64` bytes each. -/
theorem KeyList.encode_roundTrips :
    (∀ (n : Nat) (bytes : List UInt8), KeyList.IsVarint bytes n ↔ bytes = KeyList.varint n) ∧
    (∀ (keys : List (List UInt8)) (bytes : List UInt8),
      KeyList.Frames bytes keys ↔ bytes = KeyList.encode keys) ∧
    KeyList.encode [] = [] ∧
    ∀ keys : List (List UInt8), (∀ k ∈ keys, k.length < 2 ^ 64) →
      KeyList.decode (KeyList.encode keys) = some keys :=
  ⟨fun n bytes => KeyList.isVarint_iff bytes n, fun keys bytes => KeyList.frames_iff bytes keys,
    KeyList.encode_nil, KeyList.decode_encode⟩

/-- The key list of the keys `0a 01 ff` and `12 00` reads back as them. -/
theorem KeyList.encode_roundTrips_twoKeys :
    (∀ k ∈ [[0x0a, 0x01, 0xff], [0x12, 0x00]], (k : List UInt8).length < 2 ^ 64) ∧
      KeyList.decode (KeyList.encode [[0x0a, 0x01, 0xff], [0x12, 0x00]]) =
        some [[0x0a, 0x01, 0xff], [0x12, 0x00]] :=
  have hlen : ∀ k ∈ [[0x0a, 0x01, 0xff], [0x12, 0x00]], (k : List UInt8).length < 2 ^ 64 := by
    decide
  ⟨hlen, KeyList.encode_roundTrips.2.2.2 _ hlen⟩

end LedgerProjection
