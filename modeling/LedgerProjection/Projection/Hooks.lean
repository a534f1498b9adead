import LedgerProjection.Projection.Context
import LedgerProjection.Record.Spec
import LedgerProjection.Bytes.Word
import LedgerProjection.Hash.Keccak

/-!
# Hooks and hook storage

Accounts and contracts may declare hooks. A declared hook gets a row (with its initial storage
when it runs EVM code); a deleted hook gets a tombstone.

Hook storage follows the Solidity layout: slot keys are whole words, and a mapping entry lives
at `keccak256(pad32(key) ‖ pad32(mapping_slot))`, where the key is given directly or as the
preimage of its hash. Values are stored minimal (leading zero bytes dropped); an all-zero value
is stored as the empty value, which clears the slot. An update whose slot cannot be derived (an
operand longer than a word, or an entry with neither key nor preimage) is skipped.
-/

namespace LedgerProjection

namespace HookStorage

/-- The slot of a mapping entry, when both operands fit in a word. -/
def mappingSlot (key slot : List UInt8) : Option (List UInt8) := do
  let k ← Word.leftPad32 key
  let s ← Word.leftPad32 slot
  return Keccak.hashConcat [k, s]

/-- The slot of one entry of the mapping declared at `declared`. -/
def entrySlot (entry : MappingEntry) (declared : List UInt8) : Option (List UInt8) :=
  match entry.key, entry.preimage with
  | some key, _ => mappingSlot key declared
  | none, some preimage => mappingSlot (Keccak.hash preimage) declared
  | none, none => none

/-- The value as stored: minimal, and empty when it is zero. -/
def storedValue (value : List UInt8) : List UInt8 :=
  let trimmed := Word.trimLeadingZeros value
  if trimmed.all (· = 0) then [] else trimmed

/-- The slots and values an update writes, in order, derivable ones only. -/
def writes : HookStorageUpdate → List (List UInt8 × List UInt8)
  | .storageSlot key value =>
    match Word.leftPad32 key with
    | some slot => [(slot, value)]
    | none => []
  | .mappingEntries declared entries =>
    entries.filterMap fun e => (entrySlot e declared).map fun slot => (slot, e.value)

/-- The storage change of one write. -/
def change (timestamp : Int) (owner : EntityId) (hookId : Int) (slot value : List UInt8) :
    HookStorageChange :=
  let v := storedValue value
  { consensusTimestamp := timestamp, hookId := hookId, ownerId := owner, key := slot,
    valueRead := v, valueWritten := v }

end HookStorage

namespace Projection

/-- Records the writes of storage updates to a hook, when hooks are persisted. -/
def applyStorageUpdates (timestamp : Int) (owner : EntityId) (hookId : Int)
    (updates : List HookStorageUpdate) : Projection Unit := do
  if !(← persist).hooks then return
  emitAll ((updates.flatMap HookStorage.writes).map fun w =>
    .hookStorageChange (HookStorage.change timestamp owner hookId w.1 w.2))

/-- Creates one declared hook and writes its initial storage. -/
def createHook (timestamp : Int) (owner : EntityId) (detail : HookCreationDetails) :
    Projection Unit := do
  let contractId := detail.lambdaEvmHook.bind (·.contractId)
  if let some c := contractId then track c
  emit (.hook
    { hookId := detail.hookId, ownerId := owner,
      timestampRange := some (TimestampRange.openFrom timestamp),
      createdTimestamp := some timestamp, adminKey := detail.adminKey, contractId := contractId,
      deleted := some false, extensionPoint := some detail.extensionPoint,
      hookType := some .lambda })
  if let some hook := detail.lambdaEvmHook then
    applyStorageUpdates timestamp owner detail.hookId hook.storageUpdates

/-- Creates the hooks declared on an entity, when hooks are persisted and the owner is known. -/
def createHooks (timestamp : Int) (owner : EntityId) (details : List HookCreationDetails) :
    Projection Unit := do
  if details.isEmpty || !(← persist).hooks || owner.isEmpty then return
  details.forM (createHook timestamp owner)

/-- Marks hooks of an entity as deleted, when hooks are persisted and the owner is known. -/
def deleteHooks (timestamp : Int) (owner : EntityId) (hookIds : List Int) : Projection Unit := do
  if !(← persist).hooks || owner.isEmpty then return
  emitAll (hookIds.map fun hookId =>
    .hook { hookId := hookId, ownerId := owner,
            timestampRange := some (TimestampRange.openFrom timestamp), deleted := some true })

end Projection

end LedgerProjection
