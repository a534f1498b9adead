import LedgerProjection.Proofs.HandlerLogic

/-!
# Rows stamped with their record's time

A record at consensus time `ts` emits versioned rows that start at `ts` and stay open
(`Mutation.Stamped ts`). Apart from the balance changes applied after every handler, no row it
emits moves a balance either: an entity's or a token account's `balance` is absent or zero
(`Mutation.Quiet ts`).

Quiet rows are an instance of the handler walk: every row a handler writes is quiet
(`RecordItem.HandlerRow.quiet`), and so is the main row of an entity the template stamps at the
record's time (`RecordItem.MainRow.quiet`). So the template of every record keeps its rows quiet
(`Handler.run_quiet`), and, its balance changes carrying no range, the projection of every
record keeps them stamped (`Projection.process_stamped`).
-/

namespace LedgerProjection

/-- The entity the template hands a handler at `ts`: it starts at `ts` and moves no balance. -/
def Entity.StampedAt (ts : Int) (e : Entity) : Prop :=
  e.timestampRange = some (.openFrom ts) ∧ e.balance = none

theorem EntityOperation.stamp_stampedAt (op : EntityOperation) (id : EntityId) (ts : Int) :
    (op.stamp id ts).StampedAt ts :=
  ⟨op.stamp_timestampRange id ts, op.stamp_balance id ts⟩

namespace Projection

open Mutation

theorem Keeps.ofExcept {α : Type} {P : Mutation → Prop} (r : Except Overflow α) :
    Keeps P (Projection.ofExcept r) :=
  (Logic.keeps P).ofExcept fun o _ => Keeps.fail (α := α) o

end Projection

namespace Handler

open Projection Mutation

variable {P Q : Mutation → Prop} {E : Entity → Prop} {item : RecordItem}

/-- Grants of writing rows that `P` allows grant writing rows of any weaker predicate. -/
theorem Grants.keeps_mono (hg : Grants (Logic.keeps P) ((Logic.keeps P).main E) item)
    (h : ∀ m, P m → Q m) : Grants (Logic.keeps Q) ((Logic.keeps Q).main E) item where
  row m hm := (hg.row m hm).mono h
  entityRow hs m hm hn := (hg.entityRow hs m hm hn).mono h
  main hs e e' he hE := (hg.main hs e e' he hE).mono h
  associate hs hk account token automatic := (hg.associate hs hk account token automatic).mono h
  syntheticLog hs log hl := (hg.syntheticLog hs log hl).mono h

variable (item)

/-- Every row a handler writes is quiet, and so is the main row of an entity stamped at the
record's time. -/
theorem quiet_grants :
    Grants (Logic.keeps (Quiet item.consensusTimestamp))
      ((Logic.keeps (Quiet item.consensusTimestamp)).main (Entity.StampedAt item.consensusTimestamp))
      item where
  row _ hm := Keeps.emit hm.quiet
  entityRow _ _ hm _ := Keeps.emit hm.quiet
  main _ _ _ he hE := Keeps.emit (he.quiet hE.1 hE.2)
  associate _ _ _ _ _ := Keeps.bind (Keeps.tokenKeys _) fun _ => Keeps.emit (quiet_of_range rfl rfl)
  syntheticLog _ _ _ := Keeps.bind Keeps.nextLogIndex fun _ => Keeps.emit (quiet_of_none rfl rfl)

/-- The template of every record keeps its rows quiet. -/
theorem run_quiet : Keeps (Quiet item.consensusTimestamp) ((ofBody item.body).run item) :=
  (quiet_grants item).satisfies.run fun _ => EntityOperation.stamp_stampedAt _ _ _

end Handler

/-! ### The phases -/

namespace Projection

open Mutation

variable (item : RecordItem)

theorem recordContractResult_quiet {ts : Int} (adjust : RecordItem → ContractResult → ContractResult)
    (entityId : EntityId) : Keeps (Quiet ts) (recordContractResult adjust item entityId) :=
  recordContractResult_holds (Logic.keeps _) item
    (fun _ => Logic.keeps_holds_emit (quiet_of_none rfl rfl))
    (fun _ _ => Logic.keeps_holds_emit (quiet_of_none rfl rfl))
    (fun _ => Logic.keeps_holds_emit (quiet_of_none rfl rfl)) adjust entityId

theorem applyAutomaticAssociations_quiet :
    Keeps (Quiet item.consensusTimestamp) (applyAutomaticAssociations item) :=
  applyAutomaticAssociations_holds (Logic.keeps _) item fun _ _ _ _ =>
    Keeps.bind (Keeps.tokenKeys _) fun _ => Keeps.emit (quiet_of_range rfl rfl)

theorem applyNftTransfers_quiet : Keeps (Quiet item.consensusTimestamp) (applyNftTransfers item) :=
  applyNftTransfers_holds (Logic.keeps _) item fun _ _ hr => Keeps.emit (quiet_of_range hr rfl)

/-- The rows after a record's handler are stamped at its time: the balance changes carry no
range, so they move a balance without starting a version. -/
theorem stamped_phaseGrants : PhaseGrants (Logic.keeps (Stamped item.consensusTimestamp)) item where
  result _ := Logic.keeps_holds_emit (.inl rfl)
  log _ _ := Logic.keeps_holds_emit (.inl rfl)
  stateChange _ := Logic.keeps_holds_emit (.inl rfl)
  nft _ _ hr := Logic.keeps_holds_emit (.inr hr)
  hbar _ _ _ _ := Logic.keeps_holds_emit (.inl rfl)
  tokenBalance _ _ _ _ := Logic.keeps_holds_emit (.inl rfl)
  transaction _ := Logic.keeps_holds_emit (.inl rfl)
  sum {α} o _ := Keeps.fail (α := α) o

/-- Every row a record emits is stamped with its consensus time. -/
theorem process_stamped : Keeps (Stamped item.consensusTimestamp) (process item) :=
  process_holds ((Handler.quiet_grants item).keeps_mono fun _ hm => hm.stamped)
    (fun op id => op.stamp_stampedAt id _) (stamped_phaseGrants item)

end Projection

end LedgerProjection
