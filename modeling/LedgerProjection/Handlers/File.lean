import LedgerProjection.Projection.Handler
import LedgerProjection.Wire.KeyList

/-!
# File service, with the privileged system delete and undelete

A file's contents are stored when files are persisted, or when system files are and the file
is one (numbers 1 to 1000 of the configured shard and realm, the network's configuration). A
file's keys are stored as one serialized key list. An append stores its chunk only when the
transaction succeeded; a system delete overwrites the expiration with the body's, even an
absent one.
-/

namespace LedgerProjection

namespace Handler

open Projection

/-- Stores a file's contents when the toggles allow it. -/
def emitFileData (item : RecordItem) (file : EntityId) (contents : List UInt8) :
    Projection Unit := do
  let c ← read
  let p := c.persist
  if !(p.files || (p.systemFiles && c.props.isSystemFile file.shard file.realm file.num)) then
    return
  emit (.fileData
    { consensusTimestamp := item.consensusTimestamp, entityId := file, fileData := contents,
      transactionType := item.kind.code })

/-- `FILE_CREATE`. -/
def fileCreate (body : FileCreateBody) : Handler where
  operation := .create
  mainEntity _ item := item.receipt.fileId.getD EntityId.empty
  onEntity item e := do
    emit (.entity
      { e with
        entityType := some .file
        expirationTimestamp := body.expirationTime
        key := body.keys.map KeyList.encode
        memo := some body.memo })
    emitFileData item e.id body.contents

/-- `FILE_UPDATE`. -/
def fileUpdate (body : FileUpdateBody) : Handler where
  operation := .update
  mainEntity _ _ := body.file.getD EntityId.empty
  onEntity item e := do
    emit (.entity
      { e with
        expirationTimestamp := body.expirationTime.applyTo e.expirationTimestamp
        key := (body.keys.toOption.map KeyList.encode).or e.key
        memo := body.memo.applyTo e.memo })
    if let .set contents := body.contents then emitFileData item e.id contents

/-- `FILE_APPEND`. -/
def fileAppend (body : FileAppendBody) : Handler where
  mainEntity _ _ := body.file.getD EntityId.empty
  onTransaction item tx := do
    match tx.entityId with
    | some file => if item.isSuccessful then emitFileData item file body.contents
    | none => pure ()

/-- `FILE_DELETE`. -/
def fileDelete (body : FileRefBody) : Handler where
  operation := .delete
  mainEntity _ _ := body.file.getD EntityId.empty

/-- `SYSTEM_DELETE`. -/
def systemDelete (body : SystemDeleteBody) : Handler where
  operation := .delete
  mainEntity c _ := c.receiptOrResolve body.file body.contract
  onEntity _ e := emit (.entity { e with expirationTimestamp := body.expirationTime })

/-- `SYSTEM_UNDELETE`. -/
def systemUndelete (body : SystemUndeleteBody) : Handler where
  operation := .update
  mainEntity c _ := c.receiptOrResolve body.file body.contract

end Handler

end LedgerProjection
