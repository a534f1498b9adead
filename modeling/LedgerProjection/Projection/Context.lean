import LedgerProjection.Sink
import LedgerProjection.Config
import LedgerProjection.Record.Item

/-!
# Projecting one record

A record is projected in the `Projection` monad. Its state (`Ctx`) holds the sink that
mutations are delivered to, the ids the record touched, the index of the next synthetic
contract log, and every mutation emitted so far. A failure stops the projection and keeps the
state as it was at that point: mutations delivered before it stay delivered, and the failing
one is among those emitted.

References in a body are resolved here. An id names itself; an alias or EVM address that is
the long-zero address of an entity in the configured shard and realm decodes locally;
anything else goes to the resolver. `0.0.0` counts as unresolved.
-/

namespace LedgerProjection

/-- Why projecting a record stopped. -/
inductive Failure where
  /-- The sink refused a mutation. -/
  | refused (r : Refusal)
  /-- A sum of transfers left the 64-bit range. -/
  | overflow (o : Overflow)
deriving DecidableEq, Repr

/-- Inserts an id into an ascending list of distinct ids. -/
def EntityId.insertSorted (id : EntityId) : List EntityId → List EntityId
  | [] => [id]
  | x :: rest =>
    match EntityId.compare id x with
    | .lt => id :: x :: rest
    | .eq => x :: rest
    | .gt => x :: EntityId.insertSorted id rest

/-- The state of projecting one record. -/
structure Ctx where
  props : Properties
  /-- The resolver consulted for aliases, addresses and token keys. -/
  via : ResolverKind
  sink : Sink
  /-- The ids the record touched, ascending. -/
  touched : List EntityId := []
  /-- The index of the next synthetic contract log, a signed 32-bit integer. -/
  nextLogIndex : Int := 0
  /-- The mutations emitted, most recent first. -/
  emitted : List Mutation := []

/-- The projection of one record. -/
abbrev Projection := EStateM Failure Ctx

/-- The range a record's versioned rows start with: open from its consensus timestamp. -/
def RecordItem.openRange (item : RecordItem) : Option TimestampRange :=
  some (TimestampRange.openFrom item.consensusTimestamp)

/-- The number of EVM logs of a record's function result; none without one. -/
def RecordItem.evmLogCount (item : RecordItem) : Nat :=
  match item.record.contractFunctionResult with
  | some r => r.logs.length
  | none => 0

namespace Ctx

/-- The context a record starts with: synthetic logs are numbered after the record's own EVM
logs, whose count is taken as a signed 32-bit integer. -/
def start (props : Properties) (via : ResolverKind) (sink : Sink) (item : RecordItem) : Ctx :=
  { props := props, via := via, sink := sink, nextLogIndex := I32.ofCount item.evmLogCount }

/-- The persistence toggles. -/
def persist (c : Ctx) : Persist := c.props.persist

/-- The entity whose long-zero address `bytes` is, when it lies in the configured shard and
realm. -/
def decodeLocal (c : Ctx) (bytes : List UInt8) : Option EntityId :=
  match EntityId.decodeLongZero bytes with
  | some (s, r, n) => if s = c.props.shard ∧ r = c.props.realm then some ⟨s, r, n⟩ else none
  | none => none

/-- The id a reference names; `none` when unresolved or `0.0.0`. -/
def resolve (c : Ctx) (ref : EntityRef) : Option EntityId :=
  let found := match ref with
    | .id i => some i
    | .alias b => (c.decodeLocal b).or (c.sink.resolver.lookupVia c.via ref)
    | .evmAddress b => (c.decodeLocal b).or (c.sink.resolver.lookupVia c.via ref)
  found.filter fun i => !i.isEmpty

/-- The id an optional reference names, `0.0.0` when absent or unresolved. -/
def resolveOrEmpty (c : Ctx) (ref : Option EntityRef) : EntityId :=
  ((ref.bind c.resolve)).getD EntityId.empty

/-- The key presence of a token an earlier record created, when known. -/
def tokenKeys (c : Ctx) (token : EntityId) : Option TokenKeys :=
  c.sink.resolver.tokenKeysVia c.via token

end Ctx

namespace Projection

/-- The state, read. -/
def read : Projection Ctx := get

/-- The persistence toggles. -/
def persist : Projection Persist := do return (← get).persist

/-- Marks an id as touched by the record; `0.0.0` is ignored. -/
def track (id : EntityId) : Projection Unit :=
  if id.isEmpty then pure ()
  else modify fun c => { c with touched := id.insertSorted c.touched }

/-- Marks every id of a list as touched. -/
def trackAll : List EntityId → Projection Unit
  | [] => pure ()
  | id :: rest => do track id; trackAll rest

/-- The id an optional reference names, `0.0.0` when absent or unresolved. -/
def resolveOrEmpty (ref : Option EntityRef) : Projection EntityId := do
  return (← get).resolveOrEmpty ref

/-- Resolves an optional reference and marks the result as touched. -/
def resolveAndTrack (ref : Option EntityRef) : Projection EntityId := do
  let id := (← get).resolveOrEmpty ref
  track id
  return id

/-- The key presence of a token, when known. -/
def tokenKeys (token : EntityId) : Projection (Option TokenKeys) := do
  return (← get).tokenKeys token

/-- Stops with an arithmetic fault. -/
def fail {α : Type} (o : Overflow) : Projection α := throw (.overflow o)

/-- Hands out the index of the next synthetic contract log and steps the counter. The counter is
a signed 32-bit integer: a step past the greatest one is an overflow, which stops the
projection. -/
def nextLogIndex : Projection Int := do
  let c ← get
  if ¬I32.InRange (c.nextLogIndex + 1) then fail .add
  set { c with nextLogIndex := c.nextLogIndex + 1 }
  return c.nextLogIndex

/-- Emits a mutation: it is recorded, then delivered; a refusal stops the projection. -/
def emit (m : Mutation) : Projection Unit := do
  let c ← get
  let (sink, refusal) := c.sink.deliver m
  set { c with sink := sink, emitted := m :: c.emitted }
  match refusal with
  | some r => throw (.refused r)
  | none => pure ()

/-- Emits every mutation of a list in order. -/
def emitAll : List Mutation → Projection Unit
  | [] => pure ()
  | m :: rest => do emit m; emitAll rest

end Projection

end LedgerProjection
