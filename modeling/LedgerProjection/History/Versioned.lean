import LedgerProjection.Mutation
import LedgerProjection.Store.Key
import LedgerProjection.Numeric.Checked

/-!
# Versioned rows

A row type kept as a history says four things (`Versioned`): the key that names a row, the
validity range of a version, how to restamp a version with another range, and how a partial
update merges into the current version.

Two merge rules occur.

* **Field-wise** (entities, topics, nodes, tokens, token accounts, serials, hooks): every
  field the update populates overwrites the current one, the others stay; the key and the
  range are the current version's. A *balance* is a change, not a value: it is added to the
  current balance (absent counts as zero). The addition may leave the 64-bit range; the merge
  then reports an `Overflow` together with the row as merged so far, every other field
  already overwritten.
* **Replace** (airdrops, fee schedules, allowances): the update replaces the whole row but
  the current range stays.
-/

namespace LedgerProjection

/-- The outcome of merging an update into a version. -/
inductive Merged (α : Type) where
  /-- The merged version. -/
  | ok (row : α)
  /-- A balance addition overflowed; `row` carries every other field merged. -/
  | overflow (row : α) (fault : Overflow)

/-- A row type kept as a sequence of versions per key. -/
class Versioned (α : Type) where
  /-- The key that names the row. -/
  key : α → RowKey
  /-- The validity range of a version. -/
  range : α → Option TimestampRange
  /-- The version restamped with another range. -/
  withRange : α → Option TimestampRange → α
  /-- Merges an update into the current version. -/
  merge : α → α → Merged α

namespace Merged

/-- The balance after adding a change, when there is one. -/
def addBalance (current delta : Option Int) : Except Overflow (Option Int) :=
  match delta with
  | none => .ok current
  | some d => (I64.checkedAdd (current.getD 0) d).map some

/-- A row merged field-wise, then its balance updated by `setBalance`. -/
def withBalance {α : Type} (row : α) (current delta : Option Int)
    (setBalance : α → Option Int → α) : Merged α :=
  match addBalance current delta with
  | .ok b => .ok (setBalance row b)
  | .error o => .overflow row o

end Merged

namespace Entity

/-- The populated fields of `u` over `c`, balance apart. -/
def overlay (c u : Entity) : Entity :=
  { c with
    entityType := u.entityType.or c.entityType
    createdTimestamp := u.createdTimestamp.or c.createdTimestamp
    deleted := u.deleted.or c.deleted
    «alias» := u.alias.or c.alias
    autoRenewAccountId := u.autoRenewAccountId.or c.autoRenewAccountId
    autoRenewPeriod := u.autoRenewPeriod.or c.autoRenewPeriod
    balanceTimestamp := u.balanceTimestamp.or c.balanceTimestamp
    declineReward := u.declineReward.or c.declineReward
    ethereumNonce := u.ethereumNonce.or c.ethereumNonce
    evmAddress := u.evmAddress.or c.evmAddress
    expirationTimestamp := u.expirationTimestamp.or c.expirationTimestamp
    key := u.key.or c.key
    maxAutomaticTokenAssociations :=
      u.maxAutomaticTokenAssociations.or c.maxAutomaticTokenAssociations
    memo := u.memo.or c.memo
    obtainerId := u.obtainerId.or c.obtainerId
    permanentRemoval := u.permanentRemoval.or c.permanentRemoval
    proxyAccountId := u.proxyAccountId.or c.proxyAccountId
    receiverSigRequired := u.receiverSigRequired.or c.receiverSigRequired
    stakePeriodStart := u.stakePeriodStart.or c.stakePeriodStart
    stakedAccountId := u.stakedAccountId.or c.stakedAccountId
    stakedNodeId := u.stakedNodeId.or c.stakedNodeId }

instance : Versioned Entity where
  key r := [.id r.id]
  range r := r.timestampRange
  withRange r t := { r with timestampRange := t }
  merge c u :=
    Merged.withBalance (overlay c u) c.balance u.balance fun r b => { r with balance := b }

end Entity

namespace Topic

/-- The populated fields of `u` over `c`. -/
def overlay (c u : Topic) : Topic :=
  { c with
    createdTimestamp := u.createdTimestamp.or c.createdTimestamp
    adminKey := u.adminKey.or c.adminKey
    feeExemptKeyList := u.feeExemptKeyList.or c.feeExemptKeyList
    feeScheduleKey := u.feeScheduleKey.or c.feeScheduleKey
    submitKey := u.submitKey.or c.submitKey }

instance : Versioned Topic where
  key r := [.id r.id]
  range r := r.timestampRange
  withRange r t := { r with timestampRange := t }
  merge c u := .ok (overlay c u)

end Topic

namespace Node

/-- The populated fields of `u` over `c`. -/
def overlay (c u : Node) : Node :=
  { c with
    createdTimestamp := u.createdTimestamp.or c.createdTimestamp
    accountId := u.accountId.or c.accountId
    adminKey := u.adminKey.or c.adminKey
    declineReward := u.declineReward.or c.declineReward
    deleted := u.deleted.or c.deleted
    description := u.description.or c.description }

instance : Versioned Node where
  key r := [.num r.nodeId]
  range r := r.timestampRange
  withRange r t := { r with timestampRange := t }
  merge c u := .ok (overlay c u)

end Node

namespace Token

/-- The populated fields of `u` over `c`. -/
def overlay (c u : Token) : Token :=
  { c with
    createdTimestamp := u.createdTimestamp.or c.createdTimestamp
    decimals := u.decimals.or c.decimals
    feeScheduleKey := u.feeScheduleKey.or c.feeScheduleKey
    freezeDefault := u.freezeDefault.or c.freezeDefault
    freezeKey := u.freezeKey.or c.freezeKey
    initialSupply := u.initialSupply.or c.initialSupply
    kycKey := u.kycKey.or c.kycKey
    maxSupply := u.maxSupply.or c.maxSupply
    metadata := u.metadata.or c.metadata
    metadataKey := u.metadataKey.or c.metadataKey
    name := u.name.or c.name
    pauseKey := u.pauseKey.or c.pauseKey
    pauseStatus := u.pauseStatus.or c.pauseStatus
    supplyKey := u.supplyKey.or c.supplyKey
    supplyType := u.supplyType.or c.supplyType
    symbol := u.symbol.or c.symbol
    tokenType := u.tokenType.or c.tokenType
    totalSupply := u.totalSupply.or c.totalSupply
    treasuryAccountId := u.treasuryAccountId.or c.treasuryAccountId
    wipeKey := u.wipeKey.or c.wipeKey }

instance : Versioned Token where
  key r := [.id r.tokenId]
  range r := r.timestampRange
  withRange r t := { r with timestampRange := t }
  merge c u := .ok (overlay c u)

end Token

namespace TokenAccount

/-- The populated fields of `u` over `c`, balance apart. -/
def overlay (c u : TokenAccount) : TokenAccount :=
  { c with
    associated := u.associated.or c.associated
    automaticAssociation := u.automaticAssociation.or c.automaticAssociation
    balanceTimestamp := u.balanceTimestamp.or c.balanceTimestamp
    createdTimestamp := u.createdTimestamp.or c.createdTimestamp
    freezeStatus := u.freezeStatus.or c.freezeStatus
    kycStatus := u.kycStatus.or c.kycStatus }

instance : Versioned TokenAccount where
  key r := [.id r.accountId, .id r.tokenId]
  range r := r.timestampRange
  withRange r t := { r with timestampRange := t }
  merge c u :=
    Merged.withBalance (overlay c u) c.balance u.balance fun r b => { r with balance := b }

end TokenAccount

namespace Nft

/-- The populated fields of `u` over `c`. -/
def overlay (c u : Nft) : Nft :=
  { c with
    accountId := u.accountId.or c.accountId
    createdTimestamp := u.createdTimestamp.or c.createdTimestamp
    deleted := u.deleted.or c.deleted
    delegatingSpender := u.delegatingSpender.or c.delegatingSpender
    metadata := u.metadata.or c.metadata
    spender := u.spender.or c.spender }

instance : Versioned Nft where
  key r := [.id r.tokenId, .num r.serialNumber]
  range r := r.timestampRange
  withRange r t := { r with timestampRange := t }
  merge c u := .ok (overlay c u)

end Nft

namespace Hook

/-- The populated fields of `u` over `c`. -/
def overlay (c u : Hook) : Hook :=
  { c with
    createdTimestamp := u.createdTimestamp.or c.createdTimestamp
    adminKey := u.adminKey.or c.adminKey
    contractId := u.contractId.or c.contractId
    deleted := u.deleted.or c.deleted
    extensionPoint := u.extensionPoint.or c.extensionPoint
    hookType := u.hookType.or c.hookType }

instance : Versioned Hook where
  key r := [.id r.ownerId, .num r.hookId]
  range r := r.timestampRange
  withRange r t := { r with timestampRange := t }
  merge c u := .ok (overlay c u)

end Hook

instance : Versioned TokenAirdrop where
  key r := [.id r.senderAccountId, .id r.receiverAccountId, .id r.tokenId, .num r.serialNumber]
  range r := r.timestampRange
  withRange r t := { r with timestampRange := t }
  merge c u := .ok { u with timestampRange := c.timestampRange }

instance : Versioned CustomFee where
  key r := [.id r.entityId]
  range r := r.timestampRange
  withRange r t := { r with timestampRange := t }
  merge c u := .ok { u with timestampRange := c.timestampRange }

instance : Versioned CryptoAllowance where
  key r := [.id r.owner, .id r.spender]
  range r := r.timestampRange
  withRange r t := { r with timestampRange := t }
  merge c u := .ok { u with timestampRange := c.timestampRange }

instance : Versioned TokenAllowance where
  key r := [.id r.owner, .id r.spender, .id r.tokenId]
  range r := r.timestampRange
  withRange r t := { r with timestampRange := t }
  merge c u := .ok { u with timestampRange := c.timestampRange }

instance : Versioned NftAllowance where
  key r := [.id r.owner, .id r.spender, .id r.tokenId]
  range r := r.timestampRange
  withRange r t := { r with timestampRange := t }
  merge c u := .ok { u with timestampRange := c.timestampRange }

end LedgerProjection
