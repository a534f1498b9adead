import LedgerProjection.Numeric.Decimal
import LedgerProjection.Bytes.Word

/-!
# Entity ids

Every ledger entity is named `shard.realm.num`, three signed 64-bit integers. Ids are ordered
by shard, then realm, then num. `0.0.0` is the empty id: it stands for "unresolved" or "not
given" wherever an id is expected.

The text form is the three numbers joined by dots; a lone number `n` also reads as `0.0.n`.
The EVM form is the *long-zero address*: four bytes of the shard (as a 32-bit integer), eight
of the realm and eight of the num, all big-endian two's complement.
-/

namespace LedgerProjection

/-- A ledger entity id. -/
structure EntityId where
  shard : Int
  realm : Int
  num : Int
deriving DecidableEq, Repr, Inhabited

namespace EntityId

/-- The empty id `0.0.0`. -/
def empty : EntityId := ⟨0, 0, 0⟩

/-- The id `0.0.num`. -/
def ofNum (num : Int) : EntityId := ⟨0, 0, num⟩

/-- Whether this is the empty id. -/
def isEmpty (id : EntityId) : Bool := id == empty

/-- Order by shard, then realm, then num. -/
def compare (a b : EntityId) : Ordering :=
  (Ord.compare a.shard b.shard).then ((Ord.compare a.realm b.realm).then (Ord.compare a.num b.num))

instance : Ord EntityId := ⟨EntityId.compare⟩

/-- Order of (account, token) pairs: by the first id, then the second. -/
def pairCompare (a b : EntityId × EntityId) : Ordering :=
  (EntityId.compare a.1 b.1).then (EntityId.compare a.2 b.2)

instance : LT EntityId := ⟨fun a b => EntityId.compare a b = .lt⟩

instance (a b : EntityId) : Decidable (a < b) :=
  inferInstanceAs (Decidable (EntityId.compare a b = .lt))

/-- `shard.realm.num`. -/
def text (id : EntityId) : String :=
  toString id.shard ++ "." ++ toString id.realm ++ "." ++ toString id.num

/-- The debugging form used in fault reports: `EntityId { shard: 0, realm: 0, num: 5 }`. -/
def debug (id : EntityId) : String :=
  "EntityId \x7b shard: " ++ toString id.shard ++ ", realm: " ++ toString id.realm ++
    ", num: " ++ toString id.num ++ " \x7d"

/-- Reads `shard.realm.num` or a lone `num`, reporting the fault with the text read. -/
def parse (s : String) : Except String EntityId :=
  let part : String → Except String Int := fun p =>
    match IntText.parseI64 p with
    | .ok n => .ok n
    | .error e => .error ("Invalid entity id '" ++ s ++ "': " ++ e.text)
  match s.splitOn "." with
  | [num] => (part num).map ofNum
  | [shard, realm, num] => do
    let shard ← part shard
    let realm ← part realm
    let num ← part num
    pure ⟨shard, realm, num⟩
  | _ => .error ("Invalid entity id '" ++ s ++ "': expected shard.realm.num")

/-- The 20-byte long-zero address of `(shard, realm, num)`; the shard keeps its low 32 bits. The
three parts are copied into a zero address at fixed offsets, each slice exactly as long as the
bytes copied into it. -/
def longZeroAddress (shard realm num : Int) : List UInt8 :=
  (do
    let address ← Slice.copy? (List.replicate 20 0) 0 4 (Word.bigEndian 4 shard)
    let address ← Slice.copy? address 4 12 (Word.bigEndian 8 realm)
    Slice.copy? address 12 20 (Word.bigEndian 8 num)).get rfl

theorem longZeroAddress_eq (shard realm num : Int) :
    longZeroAddress shard realm num =
      Word.bigEndian 4 shard ++ Word.bigEndian 8 realm ++ Word.bigEndian 8 num := by
  apply Option.get_of_eq_some
  have h4 : (Word.bigEndian 4 shard).length = 4 := by simp [Word.bigEndian]
  have hr : (Word.bigEndian 8 realm).length = 8 := by simp [Word.bigEndian]
  have hn : (Word.bigEndian 8 num).length = 8 := by simp [Word.bigEndian]
  -- each part goes into the zeros that follow the parts before it
  have s1 := Slice.copy?_append [] (Word.bigEndian 4 shard) (List.replicate 20 0) (by simp [h4])
  have s2 := Slice.copy?_append (Word.bigEndian 4 shard) (Word.bigEndian 8 realm)
    (List.replicate 16 0) (by simp [hr])
  have s3 := Slice.copy?_append (Word.bigEndian 4 shard ++ Word.bigEndian 8 realm)
    (Word.bigEndian 8 num) (List.replicate 8 0) (by simp [hn])
  simp only [h4, hr, hn, List.length_append, List.length_nil, List.nil_append,
    List.drop_replicate] at s1 s2 s3
  simp only [Option.bind_eq_bind, s1, Option.bind_some, s2]
  simpa using s3

/-- The slices `decodeLongZero` reads from a 20-byte address: the shard's four bytes and the
realm's and the num's eight; `none` where a slice would fail. -/
def longZeroSlices (bytes : List UInt8) : Option (List UInt8 × List UInt8 × List UInt8) := do
  let shard ← Slice.range? bytes 0 4
  let realm ← Slice.range? bytes 4 12
  let num ← Slice.drop? bytes 12
  pure (shard, realm, num)

/-- The length check of `decodeLongZero` keeps its three slices in range. -/
theorem longZeroSlices_eq {bytes : List UInt8} (h : bytes.length = 20) :
    longZeroSlices bytes = some (bytes.take 4, (bytes.drop 4).take 8, bytes.drop 12) := by
  simp only [longZeroSlices, Slice.range?, Slice.drop?, h]
  simp [List.drop_take]

/-- `(shard, realm, num)` of a 20-byte long-zero address; `none` for any other length. The
slices have the lengths of the integers read from them, so each converts. -/
def decodeLongZero (bytes : List UInt8) : Option (Int × Int × Int) :=
  if h : bytes.length = 20 then
    let (shard, realm, num) := (longZeroSlices bytes).get (by rw [longZeroSlices_eq h]; rfl)
    some (Word.ofBigEndianSigned shard, Word.ofBigEndianSigned realm,
      Word.ofBigEndianSigned num)
  else none

theorem decodeLongZero_eq (bytes : List UInt8) :
    decodeLongZero bytes =
      if bytes.length = 20 then
        some (Word.ofBigEndianSigned (bytes.take 4),
          Word.ofBigEndianSigned ((bytes.drop 4).take 8), Word.ofBigEndianSigned (bytes.drop 12))
      else none := by
  unfold decodeLongZero
  split
  · next h => rw [Option.get_of_eq_some _ (longZeroSlices_eq h)]
  · rfl

/-- The long-zero address of an id. -/
def evmAddress (id : EntityId) : List UInt8 := longZeroAddress id.shard id.realm id.num

/-- The long-zero address as a 32-byte word: copied into a zero word from byte 12 on. -/
def evmWord (id : EntityId) : List UInt8 :=
  (Slice.copy? (List.replicate 32 0) 12 32 id.evmAddress).get (by
    rw [Slice.copy?, if_pos ⟨by decide, by simp, by simp [evmAddress, longZeroAddress_eq,
      Word.bigEndian]⟩]
    rfl)

theorem evmWord_eq (id : EntityId) : id.evmWord = List.replicate 12 0 ++ id.evmAddress := by
  apply Option.get_of_eq_some
  rw [Slice.copy?, if_pos ⟨by decide, by simp, by simp [evmAddress, longZeroAddress_eq,
    Word.bigEndian]⟩]
  simp

end EntityId

end LedgerProjection
