import LedgerProjection.Entity.Json
import LedgerProjection.Bytes.Hex

/-!
# References and patches in transaction bodies

A body names an entity by a *reference*: its id, its alias, or its EVM address. Ids are
already canonical; aliases and addresses need resolving. A reference is *unset* when it is
`0.0.0` or an empty byte string.

Update bodies say for each field whether to change it: a `Patch` is `unset` (leave the
field alone) or `set v` (write `v`, even an empty or zero value).
-/

namespace LedgerProjection

/-- A reference to an entity as a body writes it. -/
inductive EntityRef where
  | id (id : EntityId)
  | alias (bytes : List UInt8)
  | evmAddress (bytes : List UInt8)
deriving DecidableEq, Repr, Inhabited

namespace EntityRef

/-- The id, when the reference is one. -/
def asId : EntityRef → Option EntityId
  | .id i => some i
  | _ => none

/-- The reference names nothing: `0.0.0` or empty bytes. -/
def isUnset : EntityRef → Bool
  | .id i => i.isEmpty
  | .alias b => b.isEmpty
  | .evmAddress b => b.isEmpty

/-- `s.r.n`, `alias:0x…` or `evm:0x…`. -/
def text : EntityRef → String
  | .id i => i.text
  | .alias b => "alias:" ++ Hex.prefixed b
  | .evmAddress b => "evm:" ++ Hex.prefixed b

/-- Read as a one-key object: `{"id": …}`, `{"alias": [..]}` or `{"evm_address": [..]}`. -/
def decoder : Decoder EntityRef :=
  Decoder.external ["id", "alias", "evm_address"] fun name =>
    match name with
    | "id" => some (.newtype fun o j => EntityRef.id <$> EntityId.decoder o j)
    | "alias" => some (.newtype fun o j => EntityRef.alias <$> Decoder.bytes o j)
    | "evm_address" => some (.newtype fun o j => EntityRef.evmAddress <$> Decoder.bytes o j)
    | _ => none

end EntityRef

/-- A field of an update: left alone, or set to a value. -/
inductive Patch (α : Type) where
  | unset
  | set (value : α)
deriving DecidableEq, Repr

instance {α : Type} : Inhabited (Patch α) := ⟨.unset⟩

namespace Patch

/-- The value, when set. -/
def toOption {α : Type} : Patch α → Option α
  | .unset => none
  | .set v => some v

/-- The field after the update: the set value, or the field unchanged. -/
def applyTo {α : Type} (p : Patch α) (field : Option α) : Option α :=
  match p with
  | .unset => field
  | .set v => some v

end Patch

namespace Fields

/-- A patch field: absent or `null` leaves the field alone, any value sets it. -/
def patch {α : Type} (name : String) (d : Decoder α) : Fields (Patch α) :=
  withDefault name (fun o j => match j with
    | .null => .ok .unset
    | j => Patch.set <$> d o j) .unset

end Fields

end LedgerProjection
