import LedgerProjection.Proofs.Learning
import LedgerProjection.Proofs.ProgramLogic

/-!
## The statuses a fresh association carries

A fresh association (a token account row that marks the account associated) carries a freeze
status and a KYC status set by its token's keys: unfrozen (KYC granted) when the token has a
freeze (KYC) key, not applicable when it has none, and no status at all when its keys are not
known. The keys come from one of two places. A token creation takes them from its own body, a
key being present when the body names one; every other association, made by an associate
transaction or by the network on a transfer, asks the resolver, which knows what the token rows
emitted before taught it.

* `RecordItem.KeyedRow`: the rule every row of a record obeys, given what the resolver knows when
  the row is emitted. Only association rows are constrained.
* `Handler.keyed_grants`: every row a handler writes keeps the rule of its record, so the handler
  walk gives it for the projection of every record (`Projection.process_keyed`).
-/

namespace LedgerProjection

/-! ### The rule -/

namespace RecordItem

/-- A row of `item`, emitted while the resolver consulted through `via` is `r`: if it is an
association, it carries the statuses of the keys the record's body gives a created token, or
else of the keys `r` knows of its token. -/
def KeyedRow (item : RecordItem) (via : ResolverKind) (r : Resolver) (m : Mutation) : Prop :=
  ∀ a, m.association? = some a → a.HasStatusesFor (item.creationKeys.or (r.tokenKeysVia via a.tokenId))

theorem keyedRow_of_association?_eq_none {item : RecordItem} {m : Mutation}
    (h : m.association? = none) (via : ResolverKind) (r : Resolver) : item.KeyedRow via r m := by
  intro a ha
  rw [h] at ha
  cases ha

end RecordItem

namespace Projection

variable {item : RecordItem}

/-- A row that makes no association obeys the rule whatever the resolver knows. -/
theorem Heeds.emit_plain {m : Mutation} (h : m.association? = none) :
    Heeds item.KeyedRow (Projection.emit m) :=
  Heeds.emit (RecordItem.keyedRow_of_association?_eq_none h)

/-- Emitting rows each of which obeys `Q` for what the resolver knows when it is emitted. -/
def Logic.heeds (Q : ResolverKind → Resolver → Mutation → Prop) : Logic where
  Holds := Heeds Q
  pure := Heeds.pure
  bind := Heeds.bind
  get := Heeds.get
  track := Heeds.track

/-- `Heeds.emit_plain` stated through `Holds`, for the generic lemmas of `Logic`. -/
theorem Logic.heeds_emit_plain {m : Mutation} (h : m.association? = none) :
    (Logic.heeds item.KeyedRow).Holds (Projection.emit m) :=
  Heeds.emit_plain h

/-- An association whose keys the resolver gives, in a record that creates no token. -/
theorem Heeds.emit_resolved (hk : item.creationKeys = none) (account token : EntityId) (ts : Int)
    (automatic : Bool) :
    Heeds item.KeyedRow (Projection.tokenKeys token >>= fun keys =>
      Projection.emit (.tokenAccount (TokenAccount.association account token ts keys automatic))) :=
  Heeds.emitKeyed fun via r a ha => by
    cases ha
    rw [hk, Option.none_or]
    exact TokenAccount.association_hasStatusesFor _ _ _ _ _

end Projection

/-! ### Every record -/

/-- A row a handler writes keeps the rule: it makes no association, or it is an association of a
token creation with the keys of the creation's own body. -/
theorem RecordItem.HandlerRow.keyedRow {item : RecordItem} {m : Mutation} (h : item.HandlerRow m)
    (via : ResolverKind) (r : Resolver) : item.KeyedRow via r m := by
  intro a ha
  obtain ⟨k, hk, hs⟩ := h.hasStatusesFor ha
  rw [hk, Option.some_or]
  exact hs

namespace Handler

open Projection

variable (item : RecordItem)

/-- Every handler keeps the rule of its record: its own rows do, and the associations it writes in
a record that creates no token take the keys the resolver gives. -/
theorem keyed_grants :
    Grants (Logic.heeds item.KeyedRow) ((Logic.heeds item.KeyedRow).main fun _ => True) item where
  row _ hm := Heeds.emit hm.keyedRow
  entityRow _ _ hm _ := Heeds.emit hm.keyedRow
  main _ _ _ _ _ := Heeds.emit_plain rfl
  associate _ hk _ _ _ := Heeds.emit_resolved hk _ _ _ _
  syntheticLog _ _ _ := Heeds.bind Heeds.nextLogIndex fun _ => Heeds.emit_plain rfl

end Handler

namespace Projection

variable (item : RecordItem)

/-- The phases after a handler make no association of their own but the automatic ones, which
take the keys the resolver gives. -/
theorem keyed_phaseGrants : PhaseGrants (Logic.heeds item.KeyedRow) item where
  result _ := Logic.heeds_emit_plain rfl
  log _ _ := Logic.heeds_emit_plain rfl
  stateChange _ := Logic.heeds_emit_plain rfl
  nft _ _ _ := Logic.heeds_emit_plain rfl
  hbar _ _ _ _ := Logic.heeds_emit_plain rfl
  tokenBalance _ _ _ _ := Logic.heeds_emit_plain rfl
  transaction _ := Logic.heeds_emit_plain rfl
  sum {α} o _ := Heeds.fail (α := α) o

/-- Every row the projection of a record emits obeys the record's rule for what the resolver
knew when it was emitted. -/
theorem process_keyed : Heeds item.KeyedRow (process item) :=
  process_holds (Handler.keyed_grants item) (fun _ _ => trivial) (keyed_phaseGrants item)

end Projection

end LedgerProjection
