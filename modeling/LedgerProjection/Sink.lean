import LedgerProjection.Ledger.Basic
import LedgerProjection.Resolver

/-!
# Where mutations go

Every mutation the projection emits is delivered, in order, to:

1. the resolver, which learns aliases, EVM addresses and token keys from it;
2. the ledger, which may refuse it;
3. when present, a mutation log, only if the ledger accepted it.

The mutation log numbers the mutations it keeps from 1, optionally only those of one kind,
counts them per kind, and buffers the most recent `maxEntries` of them.
-/

namespace LedgerProjection

/-- One logged mutation. -/
structure LogEntry where
  id : Nat
  kind : String
  record : Json
deriving Inhabited

/-- A bounded log of recent mutations with per-kind totals. -/
structure MutationLog where
  maxEntries : Nat
  kindFilter : Option String := none
  /-- The buffered entries, oldest first. -/
  entries : List LogEntry := []
  counts : SortedMap String Nat := {}
  nextId : Nat := 1
deriving Inhabited

namespace MutationLog

/-- Numbers, counts and buffers a mutation. -/
def add (log : MutationLog) (m : Mutation) : MutationLog :=
  let entry : LogEntry := ⟨log.nextId, m.kind, m.recordJson⟩
  let counts := log.counts.insert Ord.compare m.kind
    ((log.counts.get? Ord.compare m.kind).getD 0 + 1)
  let entries :=
    if log.maxEntries = 0 then log.entries
    else
      let grown := log.entries ++ [entry]
      if grown.length > log.maxEntries then grown.drop 1 else grown
  { log with entries := entries, counts := counts, nextId := log.nextId + 1 }

/-- Keeps a mutation that passes the filter. -/
def record (log : MutationLog) (m : Mutation) : MutationLog :=
  match log.kindFilter with
  | some k => if k ≠ m.kind then log else log.add m
  | none => log.add m

/-- Up to `limit` most recent entries, oldest first. -/
def recent (log : MutationLog) (limit : Nat) : List LogEntry :=
  log.entries.drop (log.entries.length - limit)

end MutationLog

/-- The receivers of mutations. -/
structure Sink where
  ledger : Ledger := {}
  resolver : Resolver := {}
  log : Option MutationLog := none
deriving Inhabited

/-- A mutation the ledger refused: its kind and why. -/
structure Refusal where
  kind : String
  cause : LedgerFault
deriving DecidableEq, Repr

namespace Sink

/-- What the resolver learns from a mutation. -/
def learn (r : Resolver) : Mutation → Resolver
  | .entity e =>
    let r := match e.alias with
      | some a => if a.isEmpty then r else r.registerAlias a e.id
      | none => r
    match e.evmAddress with
    | some a => if a.isEmpty then r else r.registerEvmAddress a e.id
    | none => r
  | .token t =>
    let present : Option (List UInt8) → Option Bool := fun k => k.map fun k => !k.isEmpty
    r.registerTokenKeys t.tokenId (present t.freezeKey) (present t.kycKey)
  | _ => r

/-- Delivers a mutation; the sink is returned as left, with the refusal if any. -/
def deliver (s : Sink) (m : Mutation) : Sink × Option Refusal :=
  let resolver := learn s.resolver m
  match s.ledger.apply m with
  | (ledger, some cause) =>
    ({ s with resolver := resolver, ledger := ledger }, some ⟨m.kind, cause⟩)
  | (ledger, none) =>
    ({ s with resolver := resolver, ledger := ledger, log := s.log.map (·.record m) }, none)

end Sink

end LedgerProjection
