import LedgerProjection.Projection.Handler
import LedgerProjection.Wire.KeyList
import LedgerProjection.History.Versioned

/-!
## What an update sets

An update names what it changes field by field: a `Patch` left unset keeps the field, a set one
gives it a value. This module says, for each kind of update, which fields of which rows its
patches reach, and what the ledger's merge then makes of a previous version.

* `EntityPatch`: the entity fields an update may set, references resolved, with the staking
  election. `EntityPatch.apply u t e` is `e` updated at `t`: not deleted, each set field written,
  every other field as in `e`, then the staking election. Each update kind gives its own
  (`CryptoUpdateBody.entityPatch`, ..., `TransactionBody.entityPatch?`).
* `EntityPatch.overlay_apply_stamp`: the row an update writes is its patch applied to the bare
  stamped entity, and merged over any previous version `p` it gives `p` with the patch applied:
  the merge keeps every field the update leaves unset.
* The same for the token row of a token update (`TokenUpdateBody.overlay_tokenRow`), the topic row
  of a topic update (`ConsensusUpdateTopicBody.overlay_topicRow`) and the node row of a node
  update (`NodeUpdateBody.overlay_nodeRow`). A token update writes its token row only when it sets
  a token-level field (`TokenUpdateBody.setsToken`), a topic update its topic row only when it
  sets a key (`ConsensusUpdateTopicBody.setsKeys`).
-/

namespace LedgerProjection

/-! ### Patches -/

namespace Patch

variable {α β : Type}

/-- The patch with its value mapped. -/
def map (f : α → β) : Patch α → Patch β
  | .unset => .unset
  | .set v => .set (f v)

/-- Whether the patch sets its field. -/
def isSet : Patch α → Bool
  | .unset => false
  | .set _ => true

@[simp]
theorem toOption_unset : (Patch.unset : Patch α).toOption = none := rfl

@[simp]
theorem toOption_set (v : α) : (Patch.set v).toOption = some v := rfl

@[simp]
theorem applyTo_none (p : Patch α) : p.applyTo none = p.toOption := by
  cases p <;> rfl

@[simp]
theorem toOption_or (p : Patch α) (v : Option α) : p.toOption.or v = p.applyTo v := by
  cases p <;> rfl

@[simp]
theorem applyTo_or (p : Patch α) (v w : Option α) : (p.applyTo v).or w = p.applyTo (v.or w) := by
  cases p <;> rfl

theorem toOption_map (f : α → β) (p : Patch α) : (p.map f).toOption = p.toOption.map f := by
  cases p <;> rfl

@[simp]
theorem isSome_toOption (p : Patch α) : p.toOption.isSome = p.isSet := by
  cases p <;> rfl

@[simp]
theorem isSet_map (f : α → β) (p : Patch α) : (p.map f).isSet = p.isSet := by
  cases p <;> rfl

end Patch

/-- A reference patch with its reference resolved in `c`, `0.0.0` when it does not resolve. -/
def Ctx.resolvePatch (c : Ctx) (p : Patch EntityRef) : Patch EntityId :=
  p.map fun r => c.resolveOrEmpty (some r)

@[simp]
theorem Ctx.isSet_resolvePatch (c : Ctx) (p : Patch EntityRef) :
    (c.resolvePatch p).isSet = p.isSet :=
  Patch.isSet_map _ p

/-! ### Entities -/

/-- The entity fields an update may set, references resolved, and the staking election. -/
structure EntityPatch where
  autoRenewAccountId : Patch EntityId := .unset
  autoRenewPeriod : Patch Int := .unset
  declineReward : Patch Bool := .unset
  expirationTimestamp : Patch Int := .unset
  key : Patch (List UInt8) := .unset
  maxAutomaticTokenAssociations : Patch Int := .unset
  memo : Patch String := .unset
  proxyAccountId : Patch EntityId := .unset
  receiverSigRequired : Patch Bool := .unset
  stakedAccountId : Patch EntityId := .unset
  stakedNodeId : Patch Int := .unset

namespace EntityPatch

/-- The entity `e` updated at `timestamp`: not deleted, each set field written, every other field
as in `e`, then the staking election. -/
def apply (u : EntityPatch) (timestamp : Int) (e : Entity) : Entity :=
  ({ e with
      deleted := some false
      autoRenewAccountId := u.autoRenewAccountId.applyTo e.autoRenewAccountId
      autoRenewPeriod := u.autoRenewPeriod.applyTo e.autoRenewPeriod
      expirationTimestamp := u.expirationTimestamp.applyTo e.expirationTimestamp
      key := u.key.applyTo e.key
      maxAutomaticTokenAssociations :=
        u.maxAutomaticTokenAssociations.applyTo e.maxAutomaticTokenAssociations
      memo := u.memo.applyTo e.memo
      proxyAccountId := u.proxyAccountId.applyTo e.proxyAccountId
      receiverSigRequired := u.receiverSigRequired.applyTo e.receiverSigRequired }).withStaking
    timestamp u.stakedAccountId.toOption u.stakedNodeId.toOption u.declineReward.toOption

end EntityPatch

/-- The entity fields a crypto update sets. -/
def CryptoUpdateBody.entityPatch (body : CryptoUpdateBody) (c : Ctx) : EntityPatch where
  autoRenewPeriod := body.autoRenewPeriod
  declineReward := body.declineReward
  expirationTimestamp := body.expirationTime
  key := body.key
  maxAutomaticTokenAssociations := body.maxAutomaticTokenAssociations
  memo := body.memo
  proxyAccountId := c.resolvePatch body.proxyAccount
  receiverSigRequired := body.receiverSigRequired
  stakedAccountId := c.resolvePatch body.stakedAccount
  stakedNodeId := body.stakedNodeId

/-- The entity fields a contract update sets; its admin key is the entity's key. -/
def ContractUpdateBody.entityPatch (body : ContractUpdateBody) (c : Ctx) : EntityPatch where
  autoRenewAccountId := c.resolvePatch body.autoRenewAccount
  autoRenewPeriod := body.autoRenewPeriod
  declineReward := body.declineReward
  expirationTimestamp := body.expirationTime
  key := body.adminKey
  maxAutomaticTokenAssociations := body.maxAutomaticTokenAssociations
  memo := body.memo
  stakedAccountId := c.resolvePatch body.stakedAccount
  stakedNodeId := body.stakedNodeId

/-- The entity fields a token update sets. -/
def TokenUpdateBody.entityPatch (body : TokenUpdateBody) (c : Ctx) : EntityPatch where
  autoRenewAccountId := c.resolvePatch body.autoRenewAccount
  autoRenewPeriod := body.autoRenewPeriod
  expirationTimestamp := body.expirationTime
  key := body.adminKey
  memo := body.memo

/-- The entity fields a topic update sets. -/
def ConsensusUpdateTopicBody.entityPatch (body : ConsensusUpdateTopicBody) (c : Ctx) :
    EntityPatch where
  autoRenewAccountId := c.resolvePatch body.autoRenewAccount
  autoRenewPeriod := body.autoRenewPeriod
  expirationTimestamp := body.expirationTime
  key := body.adminKey
  memo := body.memo

/-- The entity fields a file update sets; its keys are stored as one encoded key list. -/
def FileUpdateBody.entityPatch (body : FileUpdateBody) : EntityPatch where
  expirationTimestamp := body.expirationTime
  key := body.keys.map KeyList.encode
  memo := body.memo

/-- The entity patch of an update kind, references resolved in `c`: crypto, contract, token,
topic and file updates, and an undeletion, which sets nothing but the entity's return. -/
def TransactionBody.entityPatch? (c : Ctx) : TransactionBody → Option EntityPatch
  | .cryptoUpdate b => some (b.entityPatch c)
  | .contractUpdate b => some (b.entityPatch c)
  | .tokenUpdate b => some (b.entityPatch c)
  | .consensusUpdateTopic b => some (b.entityPatch c)
  | .fileUpdate b => some b.entityPatch
  | .systemUndelete _ => some {}
  | _ => none

namespace Entity

variable (p e : Entity) (t : Int)

@[simp]
theorem withStaking_none : e.withStaking t none none none = e := rfl

/-- A staking election writes only populated values, so it commutes with the merge. -/
theorem overlay_withStaking (a : Option EntityId) (n : Option Int) (d : Option Bool) :
    overlay p (e.withStaking t a n d) = (overlay p e).withStaking t a n d := by
  cases a <;> cases n <;> cases d <;> rfl

/-- The merge of an updated entity's stamp keeps everything of the previous version but its
deletion. -/
theorem overlay_stamp_update (id : EntityId) :
    overlay p (EntityOperation.update.stamp id t) = { p with deleted := some false } := by
  cases p
  rfl

end Entity

namespace EntityPatch

variable (u : EntityPatch) (t : Int)

theorem overlay_apply (p e : Entity) :
    Entity.overlay p (u.apply t e) = u.apply t (Entity.overlay p e) := by
  rw [apply, apply, Entity.overlay_withStaking]
  congr 1
  simp only [Entity.overlay, Patch.applyTo_or, Option.some_or]

theorem apply_undeleted (p : Entity) : u.apply t { p with deleted := some false } = u.apply t p :=
  rfl

/-- **The frame of an update**: merged over any previous version, the row an update writes, its
patch applied to the bare stamped entity, leaves the previous version with the patch applied. -/
theorem overlay_apply_stamp (p : Entity) (id : EntityId) :
    Entity.overlay p (u.apply t (EntityOperation.update.stamp id t)) = u.apply t p := by
  rw [overlay_apply, Entity.overlay_stamp_update, apply_undeleted]

end EntityPatch

/-! ### Tokens -/

namespace TokenUpdateBody

variable (body : TokenUpdateBody) (c : Ctx)

/-- Whether a token update sets a token-level field: one of its seven keys, the metadata, the
name, the symbol or the treasury. -/
def setsToken : Bool :=
  body.feeScheduleKey.isSet || body.freezeKey.isSet || body.kycKey.isSet ||
    body.metadata.isSet || body.metadataKey.isSet || body.name.isSet ||
    body.pauseKey.isSet || body.supplyKey.isSet || body.symbol.isSet ||
    body.wipeKey.isSet || body.treasury.isSet

/-- The token `t` after a token update: each token-level field it sets written, the treasury
resolved in `c`, every other field as in `t`. -/
def applyToken (t : Token) : Token :=
  { t with
    feeScheduleKey := body.feeScheduleKey.applyTo t.feeScheduleKey
    freezeKey := body.freezeKey.applyTo t.freezeKey
    kycKey := body.kycKey.applyTo t.kycKey
    metadata := body.metadata.applyTo t.metadata
    metadataKey := body.metadataKey.applyTo t.metadataKey
    name := body.name.applyTo t.name
    pauseKey := body.pauseKey.applyTo t.pauseKey
    supplyKey := body.supplyKey.applyTo t.supplyKey
    symbol := body.symbol.applyTo t.symbol
    wipeKey := body.wipeKey.applyTo t.wipeKey
    treasuryAccountId := (c.resolvePatch body.treasury).applyTo t.treasuryAccountId }

/-- The token row of a token update, merged over any previous version, leaves it with the update
applied. -/
theorem overlay_tokenRow (p : Token) (id : EntityId) (r : Option TimestampRange) :
    Token.overlay p (body.applyToken c { tokenId := id, timestampRange := r }) =
      body.applyToken c p := by
  simp [Token.overlay, applyToken]

end TokenUpdateBody

/-! ### Topics -/

namespace ConsensusUpdateTopicBody

variable (body : ConsensusUpdateTopicBody)

/-- Whether a topic update sets one of the topic's four keys. -/
def setsKeys : Bool :=
  body.adminKey.isSet || body.feeExemptKeyList.isSet || body.feeScheduleKey.isSet ||
    body.submitKey.isSet

/-- The topic `t` after a topic update: each key it sets written, the fee exempt keys as one
encoded key list, every other field as in `t`. -/
def applyTopic (t : Topic) : Topic :=
  { t with
    adminKey := body.adminKey.applyTo t.adminKey
    feeExemptKeyList := (body.feeExemptKeyList.map KeyList.encode).applyTo t.feeExemptKeyList
    feeScheduleKey := body.feeScheduleKey.applyTo t.feeScheduleKey
    submitKey := body.submitKey.applyTo t.submitKey }

theorem overlay_topicRow (p : Topic) (id : EntityId) (r : Option TimestampRange) :
    Topic.overlay p (body.applyTopic { id := id, timestampRange := r }) = body.applyTopic p := by
  simp [Topic.overlay, applyTopic]

end ConsensusUpdateTopicBody

/-! ### Nodes -/

namespace NodeUpdateBody

variable (body : NodeUpdateBody) (c : Ctx)

/-- The node `n` after a node update: each field it sets written, the account resolved in `c`,
every other field as in `n`. -/
def applyNode (n : Node) : Node :=
  { n with
    accountId := (c.resolvePatch body.account).applyTo n.accountId
    adminKey := body.adminKey.applyTo n.adminKey
    declineReward := body.declineReward.applyTo n.declineReward
    description := body.description.applyTo n.description }

theorem overlay_nodeRow (p : Node) (r : Option TimestampRange) :
    Node.overlay p (body.applyNode c { nodeId := body.nodeId, timestampRange := r }) =
      body.applyNode c p := by
  simp [Node.overlay, applyNode]

end NodeUpdateBody

end LedgerProjection
