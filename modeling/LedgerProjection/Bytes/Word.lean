import LedgerProjection.Bytes.Slice

/-!
# EVM words

A word is 32 bytes, most significant first. Short byte strings become words by zeros on the
left (`leftPad32`); integers become words in two's complement (`ofInt`); stored values are
kept minimal by dropping leading zero bytes (`trimLeadingZeros`).

Each of them writes into or cuts a slice (`Slice`), and carries the proof that the slice is in
range: a length check guards the padding and the trimming, and the other slices have fixed
bounds inside a word.
-/

namespace LedgerProjection

namespace Word

/-- The length of a word in bytes. -/
def size : Nat := 32

/-- The slices `leftPad32` takes: `bytes` copied into a zero word from `size - bytes.length`
on, `none` where the subtraction or the copy would fail. -/
def padSlices (bytes : List UInt8) : Option (List UInt8) := do
  let start ← Usize.sub? size bytes.length
  Slice.copy? (List.replicate size 0) start size bytes

/-- The length check of `leftPad32` keeps its subtraction and its copy in range: the word is
`bytes` behind zeros. -/
theorem padSlices_eq {bytes : List UInt8} (h : bytes.length ≤ size) :
    padSlices bytes = some (List.replicate (size - bytes.length) 0 ++ bytes) := by
  simp only [padSlices, Usize.sub?, if_pos h, Option.bind_eq_bind, Option.bind_some, Slice.copy?,
    List.length_replicate]
  rw [if_pos ⟨Nat.sub_le _ _, Nat.le_refl _, by omega⟩, List.take_replicate,
    List.drop_replicate, Nat.min_eq_left (Nat.sub_le _ _), Nat.sub_self, List.replicate_zero, List.append_nil]

/-- `bytes` right-aligned in a word, or `none` when it is longer than a word. -/
def leftPad32 (bytes : List UInt8) : Option (List UInt8) :=
  if h : bytes.length ≤ size then
    some ((padSlices bytes).get (by rw [padSlices_eq h]; rfl))
  else none

theorem leftPad32_eq (bytes : List UInt8) :
    leftPad32 bytes =
      if bytes.length ≤ size then some (List.replicate (size - bytes.length) 0 ++ bytes)
      else none := by
  unfold leftPad32
  split
  · next h => rw [Option.get_of_eq_some _ (padSlices_eq h)]
  · rfl

/-- The `width` low bytes of `n` in two's complement, most significant first. -/
def bigEndian (width : Nat) (n : Int) : List UInt8 :=
  let m := (n % (Nat.pow 2 (8 * width) : Int)).toNat
  (List.range width).reverse.map fun i => (m / Nat.pow 2 (8 * i) % 256).toUInt8

/-- The signed integer whose two's complement is `bytes`, most significant first. -/
def ofBigEndianSigned (bytes : List UInt8) : Int :=
  let m : Nat := bytes.foldl (fun acc b => acc * 256 + b.toNat) 0
  if bytes.length > 0 && m ≥ Nat.pow 2 (8 * bytes.length - 1) then
    (m : Int) - (Nat.pow 2 (8 * bytes.length) : Int)
  else m

/-- A signed 64-bit integer as a word: a word filled with the sign, `0xff` below zero, whose last
eight bytes are the integer's own, in two's complement. -/
def ofInt (v : Int) : List UInt8 :=
  (Slice.copy? (List.replicate size (if v < 0 then 0xff else 0)) (size - 8) size
    (bigEndian 8 v)).get (by
      rw [Slice.copy?, if_pos ⟨Nat.sub_le _ _, by simp, by simp [bigEndian, size]⟩]
      rfl)

theorem ofInt_eq (v : Int) :
    ofInt v = List.replicate 24 (if v < 0 then 0xff else 0) ++ bigEndian 8 v := by
  apply Option.get_of_eq_some
  rw [Slice.copy?, if_pos ⟨Nat.sub_le _ _, by simp, by simp [bigEndian, size]⟩]
  simp [size]

/-- A boolean as a word: a zero word whose last byte is one for `true`. -/
def ofBool (b : Bool) : List UInt8 :=
  (Slice.set? (List.replicate size 0) (size - 1) (if b then 1 else 0)).get (by
    rw [Slice.set?, if_pos (by simp [size])]
    rfl)

theorem ofBool_eq (b : Bool) : ofBool b = List.replicate 31 0 ++ [if b then 1 else 0] := by
  apply Option.get_of_eq_some
  rw [Slice.set?, if_pos (by simp [size])]
  cases b <;> rfl

/-- The slice `trimLeadingZeros` takes: from the first non-zero byte on, or for a string of zeros
its last byte, or the empty string itself; `none` where the slice or the subtraction would
fail. -/
def trimSlices (bytes : List UInt8) : Option (List UInt8) :=
  match bytes.findIdx? (· != 0) with
  | some start => Slice.drop? bytes start
  | none => if bytes = [] then some bytes else (Usize.sub? bytes.length 1).bind (Slice.drop? bytes)

/-- Dropping up to the first element that satisfies `p` drops the elements that do not. -/
theorem drop_findIdx_eq_dropWhile {α : Type} (p : α → Bool) (xs : List α) :
    xs.drop (xs.findIdx p) = xs.dropWhile fun x => !p x := by
  induction xs with
  | nil => rfl
  | cons x xs ih =>
    rw [List.findIdx_cons, List.dropWhile_cons]
    cases p x
    · rw [cond_false, List.drop_succ_cons, ih]
      rfl
    · rfl

/-- The first non-zero byte lies inside the string, and a string of zeros that is not empty has
a last byte, so the slice of `trimLeadingZeros` never fails: it drops the leading zeros, or all
but the last byte of a string of zeros. -/
theorem trimSlices_eq (bytes : List UInt8) :
    trimSlices bytes =
      some (if bytes.dropWhile (· = 0) = [] then bytes.drop (bytes.length - 1)
        else bytes.dropWhile (· = 0)) := by
  have hdrop : bytes.drop (bytes.findIdx (· != 0)) = bytes.dropWhile (· = 0) := by
    rw [drop_findIdx_eq_dropWhile]
    congr
    funext b
    by_cases hb : b = 0 <;> simp [hb]
  unfold trimSlices
  split
  · next start h =>
    obtain ⟨hlt, hidx⟩ := List.findIdx?_eq_some_iff_findIdx_eq.1 h
    -- a first non-zero byte is kept, with what follows it
    have hne : bytes.dropWhile (· = 0) ≠ [] := by
      rw [← hdrop, hidx, ne_eq, List.drop_eq_nil_iff]
      omega
    rw [Slice.drop?, if_pos (Nat.le_of_lt hlt), if_neg hne, ← hdrop, hidx]
  · next h =>
    have hnil : bytes.dropWhile (· = 0) = [] := by
      rw [← hdrop, List.findIdx?_eq_none_iff_findIdx_eq.1 h, List.drop_length]
    rw [if_pos hnil]
    split
    · next hb =>
      subst hb
      rfl
    · next hb =>
      rw [Usize.sub?, if_pos (show 1 ≤ bytes.length from List.length_pos_iff.2 hb),
        Option.bind_some, Slice.drop?, if_pos (Nat.sub_le _ _)]

/-- `bytes` without its leading zero bytes; an all-zero non-empty string keeps its last byte. -/
def trimLeadingZeros (bytes : List UInt8) : List UInt8 :=
  (trimSlices bytes).get (by rw [trimSlices_eq]; rfl)

theorem trimLeadingZeros_eq (bytes : List UInt8) :
    trimLeadingZeros bytes =
      if bytes.dropWhile (· = 0) = [] then bytes.drop (bytes.length - 1)
      else bytes.dropWhile (· = 0) :=
  Option.get_of_eq_some _ (trimSlices_eq bytes)

end Word

end LedgerProjection
