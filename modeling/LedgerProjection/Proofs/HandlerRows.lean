import LedgerProjection.Proofs.HandlerLogic
import LedgerProjection.Proofs.Learning

/-!
# Row predicates every handler keeps

A handler writes plain rows of its families (`Mutation.PlainAt`), entity rows, associations and
synthetic logs, and nothing else. A row predicate that allows all of these (`Mutation.Admits`)
is an instance of the handler walk (`Handler.admits_grants`): the template of every record keeps
it (`Handler.run_keeps`) and, given the rows every record shares after its handler (contract
results, state changes and the transaction row), so does the projection of every record
(`Projection.process_keeps`) and every row of a run (`Sink.emittedRows_keeps`).

The predicate can say anything of the rows no handler writes itself: a claim about those rows
needs no walk through the handlers of its own.
-/

namespace LedgerProjection

/-- A row predicate that allows every row a handler can write: its plain rows at any time, and
every entity row, token account row and contract log. -/
structure Mutation.Admits (P : Mutation → Prop) : Prop where
  plain : ∀ ts m, Mutation.PlainAt ts m → P m
  entity : ∀ e, P (.entity e)
  tokenAccount : ∀ a, P (.tokenAccount a)
  contractLog : ∀ l, P (.contractLog l)

/-- Every row a handler writes is allowed. -/
theorem Mutation.Admits.handlerRow {P : Mutation → Prop} (hP : Mutation.Admits P)
    {item : RecordItem} {m : Mutation} (h : item.HandlerRow m) : P m := by
  cases h with
  | plain hm _ => exact hP.plain _ _ hm
  | nonce => exact hP.entity _
  | creationAssociation => exact hP.tokenAccount _

namespace Handler

open Projection

variable {P : Mutation → Prop} (hP : Mutation.Admits P) (item : RecordItem)
include hP

theorem admits_grants : Grants (Logic.keeps P) ((Logic.keeps P).main fun _ => True) item where
  row _ hm := Keeps.emit (hP.handlerRow hm)
  entityRow _ _ hm _ := Keeps.emit (hP.handlerRow hm)
  main _ _ _ _ _ := Keeps.emit (hP.entity _)
  associate _ _ _ _ _ := Keeps.bind (Keeps.tokenKeys _) fun _ => Keeps.emit (hP.tokenAccount _)
  syntheticLog _ _ _ := Keeps.bind Keeps.nextLogIndex fun _ => Keeps.emit (hP.contractLog _)

end Handler

namespace Projection

variable {P : Mutation → Prop} (hP : Mutation.Admits P) (hr : ∀ r, P (.contractResult r))
  (hs : ∀ s, P (.contractStateChange s)) (ht : ∀ t, P (.transaction t)) (item : RecordItem)
include hP hr hs ht

theorem admits_phaseGrants : PhaseGrants (Logic.keeps P) item where
  result _ := Keeps.emit (hr _)
  log _ _ := Keeps.emit (hP.contractLog _)
  stateChange _ := Keeps.emit (hs _)
  nft _ _ hn := Keeps.emit (hP.plain item.consensusTimestamp (.nft _) hn)
  hbar _ _ _ _ := Keeps.emit (hP.entity _)
  tokenBalance _ _ _ _ := Keeps.emit (hP.tokenAccount _)
  transaction _ := Keeps.emit (ht _)
  sum {α} o _ := Keeps.fail (α := α) o

/-- The projection of a record writes only rows a predicate allows when it `Admits` every row a
handler writes and allows the rows every record shares: contract results, contract state
changes and the transaction row. -/
theorem process_keeps : Keeps P (process item) :=
  process_holds (Handler.admits_grants hP item) (fun _ _ => trivial)
    (admits_phaseGrants hP hr hs ht item)

end Projection

/-! ### Runs -/

/-- When the projection of every record keeps `P`, so does every row of a run. -/
theorem Sink.emittedRows_keeps {P : Mutation → Prop}
    (h : ∀ item, Projection.Keeps P (Projection.process item)) (props : Properties)
    (via : ResolverKind) :
    ∀ (s : Sink) (items : List RecordItem), ∀ p ∈ s.emittedRows props via items, P p.2
  | _, [] => by simp
  | s, item :: rest => by
    intro p hp
    rw [Sink.emittedRows_cons, List.mem_append] at hp
    rcases hp with hp | hp
    · obtain ⟨m, hm, rfl⟩ := List.mem_map.1 hp
      exact (projectRecord_delivered (h item) props via s).forall m hm
    · exact Sink.emittedRows_keeps h props via _ rest p hp

end LedgerProjection
