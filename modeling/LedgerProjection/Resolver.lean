import LedgerProjection.Record.Ref
import LedgerProjection.Store.SortedMap
import LedgerProjection.Store.Key

/-!
# Resolving references

Aliases and EVM addresses become ids through a *resolver*. The in-memory resolver learns them
from the rows the projection emits: an entity row with a non-empty alias or EVM address
registers it, and a token row records whether the token has a freeze key and a KYC key
(a later token row overwrites the keys it mentions). The *noop* resolver knows nothing:
only ids resolve.

An alias is looked up among aliases first and then among EVM addresses.
-/

namespace LedgerProjection

/-- Whether a token has a freeze key and a KYC key. -/
structure TokenKeys where
  freezeKey : Bool := false
  kycKey : Bool := false
deriving DecidableEq, Repr, Inhabited

/-- The in-memory resolver. -/
structure Resolver where
  aliases : SortedMap (List UInt8) EntityId := {}
  evmAddresses : SortedMap (List UInt8) EntityId := {}
  tokenKeys : SortedMap EntityId TokenKeys := {}
deriving Inhabited

/-- Which resolver the projection consults. -/
inductive ResolverKind where
  | memory
  | noop
deriving DecidableEq, Repr, Inhabited

namespace Resolver

/-- Learns an alias. -/
def registerAlias (r : Resolver) (a : List UInt8) (id : EntityId) : Resolver :=
  { r with aliases := r.aliases.insert Bytes.compare a id }

/-- Learns an EVM address. -/
def registerEvmAddress (r : Resolver) (address : List UInt8) (id : EntityId) : Resolver :=
  { r with evmAddresses := r.evmAddresses.insert Bytes.compare address id }

/-- Records the key presence of a token; `none` leaves a key as it was (absent at first). -/
def registerTokenKeys (r : Resolver) (token : EntityId) (freeze kyc : Option Bool) : Resolver :=
  let cur := (r.tokenKeys.get? EntityId.compare token).getD {}
  let next : TokenKeys := { freezeKey := freeze.getD cur.freezeKey, kycKey := kyc.getD cur.kycKey }
  { r with tokenKeys := r.tokenKeys.insert EntityId.compare token next }

/-- The id a reference names, as far as this resolver knows. -/
def lookup (r : Resolver) : EntityRef → Option EntityId
  | .id i => some i
  | .alias a => (r.aliases.get? Bytes.compare a).or (r.evmAddresses.get? Bytes.compare a)
  | .evmAddress a => r.evmAddresses.get? Bytes.compare a

/-- The number of aliases and EVM addresses known. -/
def size (r : Resolver) : Nat := r.aliases.size + r.evmAddresses.size

/-- Lookup through the chosen resolver. -/
def lookupVia (r : Resolver) : ResolverKind → EntityRef → Option EntityId
  | .memory, ref => r.lookup ref
  | .noop, ref => ref.asId

/-- Token key presence through the chosen resolver. -/
def tokenKeysVia (r : Resolver) : ResolverKind → EntityId → Option TokenKeys
  | .memory, t => r.tokenKeys.get? EntityId.compare t
  | .noop, _ => none

end Resolver

end LedgerProjection
