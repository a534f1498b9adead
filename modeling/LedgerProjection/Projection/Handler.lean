import LedgerProjection.Projection.Context
import LedgerProjection.Time.Instant

/-!
# Handlers and the record template

A `Handler` says what one kind of transaction does; its defaults describe a kind with no main
entity and no effects of its own, so each kind gives only what it has. Every record goes
through the same template (`Handler.run`):

1. the main entity, the fee payer and the submitting node are marked as touched;
2. the transaction row is built and the kind's transaction-level effects run;
3. unless the kind has no entity operation, the main entity is unresolved or the receipt
   reports failure, the main entity is stamped (created, updated or deleted, valid from the
   consensus timestamp) and handed to the kind to fill in and emit.
-/

namespace LedgerProjection

/-- What a transaction does to its main entity. -/
inductive EntityOperation where
  | create
  | update
  | delete
  | none
deriving DecidableEq, Repr

/-- The behaviour of one kind of transaction. -/
structure Handler where
  operation : EntityOperation := .none
  /-- The main entity; `0.0.0` when absent or unresolved. -/
  mainEntity : Ctx → RecordItem → EntityId := fun _ _ => EntityId.empty
  /-- Whether the main entity counts as touched. -/
  tracksMainEntity : Bool := true
  /-- Transaction-level effects: related ids and side rows. -/
  onTransaction : RecordItem → Transaction → Projection Unit := fun _ _ => pure ()
  /-- Fills in the stamped main entity and emits it, with the rows that go with it. -/
  onEntity : RecordItem → Entity → Projection Unit := fun _ e => Projection.emit (.entity e)
  /-- Kind-specific fields of the contract result (call parameters, gas limit, amount). -/
  adjustResult : RecordItem → ContractResult → ContractResult := fun _ r => r

/-- The transaction row of a record whose main entity is `entityId`. -/
def RecordItem.transactionRow (item : RecordItem) (entityId : EntityId) : Transaction :=
  { consensusTimestamp := item.consensusTimestamp, transactionType := item.kind,
    payerAccountId := item.payerAccountId, nodeAccountId := item.nodeAccountId,
    entityId := if entityId.isEmpty then none else some entityId,
    result := item.receipt.status.code, validStartNs := item.validStartNs, memo := item.memo,
    chargedTxFee := item.chargedTxFee, maxFee := item.maxFee, nonce := item.nonce,
    parentConsensusTimestamp := item.parent.map (·.consensusTimestamp),
    scheduled := item.scheduled }

/-- The main entity stamped for an operation at `timestamp`. -/
def EntityOperation.stamp (op : EntityOperation) (id : EntityId) (timestamp : Int) : Entity :=
  let e : Entity := { id := id, timestampRange := some (TimestampRange.openFrom timestamp) }
  match op with
  | .create => { e with createdTimestamp := some timestamp, deleted := some false }
  | .update => { e with deleted := some false }
  | .delete => { e with deleted := some true }
  | .none => e

namespace Handler

/-- Runs the template for one record and returns its transaction row. -/
def run (h : Handler) (item : RecordItem) : Projection Transaction := do
  let entityId := h.mainEntity (← Projection.read) item
  if h.tracksMainEntity then Projection.track entityId
  Projection.track item.payerAccountId
  if let some node := item.nodeAccountId then Projection.track node
  let tx := item.transactionRow entityId
  h.onTransaction item tx
  if h.operation = .none || entityId.isEmpty || !item.isSuccessful then return tx
  h.onEntity item (h.operation.stamp entityId item.consensusTimestamp)
  return tx

end Handler

/-- The main entity named by a receipt, or else by a body reference. -/
def Ctx.receiptOrResolve (c : Ctx) (receiptId : Option EntityId) (ref : Option EntityRef) :
    EntityId :=
  match receiptId with
  | some id => if id.isEmpty then c.resolveOrEmpty ref else id
  | none => c.resolveOrEmpty ref

/-- A reference field an update sets, resolved and touched (`0.0.0` when unresolved). -/
def Projection.resolvePatch (p : Patch EntityRef) : Projection (Option EntityId) :=
  match p with
  | .unset => pure none
  | .set ref => some <$> Projection.resolveAndTrack (some ref)

/-- A staking election: staking to an account clears the node and vice versa, and any change
restarts the stake period at the day of the change. -/
def Entity.withStaking (e : Entity) (timestamp : Int) (account : Option EntityId)
    (node : Option Int) (declineReward : Option Bool) : Entity :=
  let e := match account with
    | some a => { e with stakedAccountId := some a, stakedNodeId := some (-1) }
    | none => e
  let e := match node with
    | some n => { e with stakedNodeId := some n, stakedAccountId := some EntityId.empty }
    | none => e
  let e := if declineReward.isSome then { e with declineReward := declineReward } else e
  if account.isSome || node.isSome || declineReward.isSome then
    { e with stakePeriodStart := some (Instant.epochDay timestamp) }
  else e

end LedgerProjection
