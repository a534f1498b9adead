/-!
# Keccak-256

The hash that EVM storage slots, log topics and mapping keys are built from: the Keccak
sponge with a 1600-bit state, a rate of 136 bytes, the original multi-rate padding
(`0x01 … 0x80`, not the SHA-3 domain byte) and a 32-byte output.

The state is 25 lanes of 64 bits; lane `(x, y)` sits at index `x + 5 * y`, and bytes enter
and leave a lane least significant first.
-/

namespace LedgerProjection

namespace Keccak

/-- The state: 25 lanes. -/
abbrev State := Array UInt64

/-- Lane `i` of the state (zero outside it). -/
def lane (a : State) (i : Nat) : UInt64 := a.getD i 0

/-- Rotation of a lane towards its high end. -/
def rotl (x : UInt64) (n : Nat) : UInt64 :=
  if n % 64 = 0 then x else (x <<< n.toUInt64) ||| (x >>> (64 - n % 64).toUInt64)

/-- The ρ rotation of each lane, by index `x + 5 * y`. -/
def offsets : Array Nat :=
  #[0, 1, 62, 28, 27,
    36, 44, 6, 55, 20,
    3, 10, 43, 25, 39,
    41, 45, 15, 21, 8,
    18, 2, 61, 56, 14]

/-- The ι constants of the 24 rounds. -/
def roundConstants : List UInt64 :=
  [0x0000000000000001, 0x0000000000008082, 0x800000000000808A, 0x8000000080008000,
   0x000000000000808B, 0x0000000080000001, 0x8000000080008081, 0x8000000000008009,
   0x000000000000008A, 0x0000000000000088, 0x0000000080008009, 0x000000008000000A,
   0x000000008000808B, 0x800000000000008B, 0x8000000000008089, 0x8000000000008003,
   0x8000000000008002, 0x8000000000000080, 0x000000000000800A, 0x800000008000000A,
   0x8000000080008081, 0x8000000000008080, 0x0000000080000001, 0x8000000080008008]

/-- One round: θ, ρ and π, χ, then ι with constant `rc`. -/
def round (a : State) (rc : UInt64) : State :=
  -- θ: every lane absorbs the parities of the two neighbouring columns
  let c : Array UInt64 := Array.ofFn (n := 5) fun x =>
    lane a x.val ^^^ lane a (x.val + 5) ^^^ lane a (x.val + 10) ^^^ lane a (x.val + 15) ^^^
      lane a (x.val + 20)
  let d : Array UInt64 := Array.ofFn (n := 5) fun x =>
    c.getD ((x.val + 4) % 5) 0 ^^^ rotl (c.getD ((x.val + 1) % 5) 0) 1
  let a1 : State := Array.ofFn (n := 25) fun i => lane a i.val ^^^ d.getD (i.val % 5) 0
  -- ρ and π: lane (x, y) moves to (y, 2x + 3y) after its rotation
  let b : State := Array.ofFn (n := 25) fun i =>
    let bx := i.val % 5
    let by_ := i.val / 5
    let x := (bx + 3 * by_) % 5
    let src := x + 5 * bx
    rotl (lane a1 src) (offsets.getD src 0)
  -- χ: each lane mixes with the next two of its row; ι: the first lane takes the constant
  Array.ofFn (n := 25) fun i =>
    let x := i.val % 5
    let y := i.val / 5
    lane b i.val ^^^ ((~~~ lane b ((x + 1) % 5 + 5 * y)) &&& lane b ((x + 2) % 5 + 5 * y)) ^^^
      (if i.val = 0 then rc else 0)

/-- The permutation Keccak-f[1600]: 24 rounds. -/
def permute (a : State) : State := roundConstants.foldl round a

/-- The sponge's rate in bytes. -/
def rate : Nat := 136

/-- A lane read from eight bytes, least significant first. -/
def laneOfBytes (bytes : List UInt8) : UInt64 :=
  bytes.foldr (fun b acc => (acc <<< 8) ||| b.toUInt64) 0

/-- The eight bytes of a lane, least significant first. -/
def bytesOfLane (x : UInt64) : List UInt8 :=
  (List.range 8).map fun i => (x >>> (8 * i).toUInt64).toUInt8

/-- The message with its padding: a `0x01` byte, zeros, and a final `0x80` bit, up to a
whole number of blocks (the two marks share one byte when only one is left). -/
def pad (msg : List UInt8) : List UInt8 :=
  let q := rate - msg.length % rate
  if q = 1 then msg ++ [0x81] else msg ++ [0x01] ++ List.replicate (q - 2) 0 ++ [0x80]

/-- Absorbs one block of `rate` bytes. -/
def absorb (a : State) (block : List UInt8) : State :=
  let mixed : State := Array.ofFn (n := 25) fun i =>
    if i.val < rate / 8 then lane a i.val ^^^ laneOfBytes ((block.drop (8 * i.val)).take 8)
    else lane a i.val
  permute mixed

/-- Splits a padded message into blocks. -/
def blocks (msg : Array UInt8) : List (List UInt8) :=
  (List.range (msg.size / rate)).map fun k => (msg.extract (k * rate) (k * rate + rate)).toList

/-- The Keccak-256 digest of a byte string. -/
def hash (msg : List UInt8) : List UInt8 :=
  let state := (blocks (pad msg).toArray).foldl absorb (Array.replicate 25 0)
  ((List.range 4).map fun i => bytesOfLane (lane state i)).flatten

/-- The digest of the concatenation of several byte strings. -/
def hashConcat (parts : List (List UInt8)) : List UInt8 := hash parts.flatten

end Keccak

end LedgerProjection
