import LedgerProjection.Projection.Handler
import LedgerProjection.Projection.Hooks

/-!
# Smart contract service

Contract lifecycle, EVM results and ethereum transactions.

Every record's EVM outcome is recorded, whatever its kind and receipt (`recordContractResult`):
the contract result with its logs, and the storage changes of its sidecars. Calls and creates
that never reached the EVM have no function result but still get a result row from the body.

A created contract's bytecode comes from its own file or initcode, else from what its parent
transaction (a contract create or an ethereum transaction) supplied, else from its bytecode
sidecar; the runtime bytecode comes from the sidecar.
-/

namespace LedgerProjection

namespace Projection

/-- The result row of a call or create that never reached the EVM. -/
def recordBodyOnlyResult (adjust : RecordItem → ContractResult → ContractResult)
    (item : RecordItem) (contractId : EntityId) : Projection Unit := do
  let callOrCreate := item.kind = .contractCall || item.kind = .contractCreate
  if !callOrCreate || !(← persist).contractResults then return
  emit (.contractResult (adjust item
    { consensusTimestamp := item.consensusTimestamp, contractId := contractId,
      payerAccountId := item.payerAccountId, transactionResult := item.receipt.status.code,
      transactionHash := item.record.ethereumHash }))

/-- The logs of a function result, numbered from `index`. -/
def emitLogs (item : RecordItem) (root : EntityId) :
    Nat → List ContractLogInfo → Projection Unit
  | _, [] => pure ()
  | index, log :: rest => do
    track log.contractId
    emit (.contractLog
      { consensusTimestamp := item.consensusTimestamp, index := index, contractId := log.contractId,
        payerAccountId := item.payerAccountId, rootContractId := some root, bloom := log.bloom,
        data := log.data, topic0 := log.topics[0]?, topic1 := log.topics[1]?,
        topic2 := log.topics[2]?, topic3 := log.topics[3]?, synthetic := false })
    emitLogs item root (index + 1) rest

/-- The storage changes of one sidecar. -/
def sidecarChanges (item : RecordItem) : SidecarRecord → List Mutation
  | .stateChanges contractId migration changes =>
    changes.map fun ch => .contractStateChange
      { consensusTimestamp := item.consensusTimestamp, contractId := contractId,
        payerAccountId := item.payerAccountId, slot := ch.slot, valueRead := ch.valueRead,
        valueWritten := ch.valueWritten, migration := migration }
  | .bytecode .. => []

/-- Records the EVM outcome of a record whose main entity is `entityId`. -/
def recordContractResult (adjust : RecordItem → ContractResult → ContractResult)
    (item : RecordItem) (entityId : EntityId) : Projection Unit := do
  let some fr := item.record.contractFunctionResult
    | recordBodyOnlyResult adjust item entityId
  let contractId := match fr.contractId with
    | some id => if id.isEmpty then entityId else id
    | none => entityId
  track contractId
  if let some sender := fr.senderId then track sender
  trackAll fr.createdContractIds
  if (← persist).contractResults then
    emit (.contractResult (adjust item
      { consensusTimestamp := item.consensusTimestamp, contractId := contractId,
        payerAccountId := item.payerAccountId, senderId := fr.senderId, amount := none,
        bloom := fr.bloom, callResult := fr.contractCallResult,
        createdContractIds := fr.createdContractIds, errorMessage := fr.errorMessage,
        functionParameters := fr.functionParameters, gasLimit := fr.gas, gasUsed := fr.gasUsed,
        transactionResult := item.receipt.status.code,
        transactionHash := item.record.ethereumHash }))
    emitLogs item contractId 0 fr.logs
  if (← persist).contracts then
    emitAll (item.sidecars.flatMap (sidecarChanges item))

end Projection

namespace Handler

open Projection

/-- `CONTRACT_CALL`. -/
def contractCall (body : ContractCallBody) : Handler where
  mainEntity c item :=
    c.receiptOrResolve (item.receipt.contractId.or
      (item.record.contractFunctionResult.bind (·.contractId))) body.contract
  adjustResult _ r :=
    { r with amount := some body.amount, functionParameters := body.functionParameters,
             gasLimit := body.gas }

/-- Where a created contract's bytecode comes from: a file or initcode of its own, else what
its parent supplied. -/
def bytecodeSource (item : RecordItem) (body : ContractCreateBody) :
    Option EntityId × Option (List UInt8) :=
  match body.fileId.filter (!·.isEmpty), body.initcode.filter (!·.isEmpty) with
  | some f, _ => (some f, none)
  | none, some code => (none, some code)
  | none, none =>
    match item.parent.map RecordItem.body with
    | some (.contractCreate p) =>
      match p.fileId.filter (!·.isEmpty) with
      | some f => (some f, none)
      | none => (none, p.initcode)
    | some (.ethereumTransaction p) =>
      match p.callDataId.filter (!·.isEmpty) with
      | some f => (some f, none)
      | none => if p.callData.isEmpty then (none, none) else (none, some p.callData)
    | _ => (none, none)

/-- The bytecode row of a created contract. -/
def createdContract (item : RecordItem) (body : ContractCreateBody) (id : EntityId) : Contract :=
  let (fileId, initcode) := bytecodeSource item body
  match item.bytecodeSidecar id with
  | some (sideInit, sideRuntime) =>
    { id := id, fileId := fileId,
      initcode := if fileId.isNone && initcode.isNone && !sideInit.isEmpty then some sideInit
        else initcode,
      runtimeBytecode := if sideRuntime.isEmpty then none else some sideRuntime }
  | none => { id := id, fileId := fileId, initcode := initcode }

/-- `CONTRACT_CREATE`. -/
def contractCreate (body : ContractCreateBody) : Handler where
  operation := .create
  mainEntity _ item :=
    (item.receipt.contractId.or (item.record.contractFunctionResult.bind (·.contractId))).getD
      EntityId.empty
  onTransaction _ _ := do
    let _ ← resolveAndTrack body.autoRenewAccount
    let _ ← resolveAndTrack body.stakedAccount
    if let some f := body.fileId then track f
  onEntity item e := do
    let c ← read
    let ts := item.consensusTimestamp
    let evm := ((item.record.contractFunctionResult.bind (·.evmAddress)).filter (!·.isEmpty)).or
      (if item.record.evmAddress.isEmpty then none else some item.record.evmAddress)
    let e : Entity := { e with
      entityType := some .contract
      autoRenewAccountId := body.autoRenewAccount.map fun r => c.resolveOrEmpty (some r)
      autoRenewPeriod := body.autoRenewPeriod
      key := body.adminKey
      maxAutomaticTokenAssociations := body.maxAutomaticTokenAssociations
      memo := some body.memo
      evmAddress := evm }
    let staked := body.stakedAccount.map fun r => c.resolveOrEmpty (some r)
    emit (.entity (e.withStaking ts staked body.stakedNodeId (some body.declineReward)))
    if (← persist).contracts then
      emit (.contract (createdContract item body e.id))
    createHooks ts e.id body.hookCreationDetails
  adjustResult _ r :=
    { r with amount := some body.initialBalance, functionParameters := body.constructorParameters,
             gasLimit := body.gas }

/-- `CONTRACT_UPDATE`. -/
def contractUpdate (body : ContractUpdateBody) : Handler where
  operation := .update
  mainEntity c item := c.receiptOrResolve item.receipt.contractId body.contract
  onEntity item e := do
    let ts := item.consensusTimestamp
    let autoRenew ← resolvePatch body.autoRenewAccount
    let e : Entity := { e with
      autoRenewAccountId := autoRenew.or e.autoRenewAccountId
      autoRenewPeriod := body.autoRenewPeriod.applyTo e.autoRenewPeriod
      expirationTimestamp := body.expirationTime.applyTo e.expirationTimestamp
      key := body.adminKey.applyTo e.key
      maxAutomaticTokenAssociations :=
        body.maxAutomaticTokenAssociations.applyTo e.maxAutomaticTokenAssociations
      memo := body.memo.applyTo e.memo }
    let staked ← resolvePatch body.stakedAccount
    emit (.entity (e.withStaking ts staked body.stakedNodeId.toOption body.declineReward.toOption))
    createHooks ts e.id body.hookCreationDetails
    deleteHooks ts e.id body.hookIdsToDelete

/-- `CONTRACT_DELETE`. -/
def contractDelete (body : ContractDeleteBody) : Handler where
  operation := .delete
  mainEntity c item := c.receiptOrResolve item.receipt.contractId body.contract
  onTransaction _ _ := do
    let _ ← resolveAndTrack body.transferAccount
    let _ ← resolveAndTrack body.transferContract
  onEntity _ e := do
    let c ← read
    emit (.entity
      { e with
        obtainerId :=
          (body.transferAccount.or body.transferContract).map fun r => c.resolveOrEmpty (some r)
        permanentRemoval := some body.permanentRemoval })

/-- `ETHEREUM_TRANSACTION`. -/
def ethereumTransaction (body : EthereumTransactionBody) : Handler where
  mainEntity _ item :=
    (item.record.contractFunctionResult.bind (·.contractId)).getD EntityId.empty
  onTransaction item _ := do
    let ts := item.consensusTimestamp
    let fr := item.record.contractFunctionResult
    if let some f := body.callDataId then track f
    if (← persist).ethereumTransactions then
      emit (.ethereumTransaction
        { consensusTimestamp := ts, hash := item.record.ethereumHash,
          payerAccountId := item.payerAccountId, callDataId := body.callDataId,
          callData := if body.callData.isEmpty then none else some body.callData,
          chainId := body.chainId, data := body.ethereumData,
          fromAddress := (fr.bind (·.senderId)).map EntityId.evmAddress,
          gasLimit := body.gasLimit, gasPrice := body.gasPrice, maxFeePerGas := body.maxFeePerGas,
          maxPriorityFeePerGas := body.maxPriorityFeePerGas,
          maxGasAllowance := body.maxGasAllowance, nonce := body.nonce,
          signatureR := body.signatureR, signatureS := body.signatureS,
          toAddress := body.toAddress, transactionType := body.transactionType,
          value := body.value })
    -- the signer's nonce advances only when the network accepted the transaction
    if !item.isSuccessful then return
    let some r := fr | return
    match r.senderId, r.signerNonce with
    | some sender, some nonce =>
      if !sender.isEmpty then
        track sender
        emit (.entity
          { id := sender, timestampRange := some (TimestampRange.openFrom ts),
            ethereumNonce := some nonce })
    | _, _ => pure ()
  adjustResult _ r := { r with gasLimit := body.gasLimit }

end Handler

end LedgerProjection
