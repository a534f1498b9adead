import LedgerProjection.Proofs.Ordering
import LedgerProjection.Proofs.Refusals

/-!
## What a failed record writes

A record whose receipt reports failure has still been charged its fees and may have run the
EVM, so some rows are written whatever the outcome (`Mutation.Ungated`): the transaction row,
the EVM outcome (the contract result, the logs the EVM emitted, the storage changes of the
sidecars), the ethereum transaction, and the hbar balance changes, each an entity row with no
range and nothing but a balance and its time. Every other row waits for success, though no one
place checks it: the template skips the entity effects of a failed record, and each handler's
transaction-level effects and each shared phase check the receipt themselves.

* `Projection.ungated_grants`: for a failed record, every row a handler may write is ungated or
  waits for success, so the handler walk gives that the whole projection of a failed record
  emits only ungated rows (`Projection.process_ungated`).
* `Ledger.KeepsVersions`: rows without a range open and close no version. Each key keeps the
  ranges of its versions, or, new, gets one version without a range
  (`Ledger.keepsVersions_receive`).
* `projectRecord_failed_ungated`: the main statement.
-/

namespace LedgerProjection

/-! ### Programs that return a known value -/

namespace Projection

/-- `x` gives `v` whenever it returns. -/
def Returns {α : Type} (x : Projection α) (v : α) : Prop :=
  ∀ {c : Ctx} {a : α} {c' : Ctx}, x.run c = .ok a c' → a = v

/-- What follows a program that always gives `v` sees `v`. -/
theorem bind_eq_of_returns {α β : Type} {x : Projection α} {f : α → Projection β} {v : α}
    (hv : Returns x v) : x >>= f = x >>= fun _ => f v := by
  funext c
  show (x >>= f).run c = (x >>= fun _ => f v).run c
  rw [run_bind, run_bind]
  rcases hrun : x.run c with ⟨a, c₁⟩ | ⟨e, c₁⟩
  · rw [hv hrun]
  · rfl

end Projection

namespace Handler

open Projection

variable {item : RecordItem}

theorem emitsTokens_returns (hf : item.isSuccessful = false) : Returns (emitsTokens item) false := by
  intro c a c' h
  have hrun : (emitsTokens item).run c = .ok (item.isSuccessful && c.persist.tokens) c := rfl
  rw [hrun, hf] at h
  cases h
  rfl

theorem emitsNodes_returns (hf : item.isSuccessful = false) : Returns (emitsNodes item) false := by
  intro c a c' h
  have hrun : (emitsNodes item).run c = .ok (item.isSuccessful && c.persist.nodes) c := rfl
  rw [hrun, hf] at h
  cases h
  rfl

end Handler

/-! ### The projection of a failed record -/

namespace Projection

open Mutation

variable {item : RecordItem}

/-- A failed record's handler writes only ungated rows: every row a handler writes whatever the
outcome is ungated, and everything else it writes, its entity rows included, waits for success. -/
theorem ungated_grants (hf : item.isSuccessful = false) :
    Handler.Grants (Logic.keeps Ungated) ((Logic.keeps Ungated).main fun _ => True) item where
  row _ hm := Keeps.emit (hm.ungated_or.resolve_right (by simp [hf]))
  entityRow hs := absurd hs (by simp [hf])
  main hs := absurd hs (by simp [hf])
  associate hs := absurd hs (by simp [hf])
  syntheticLog hs := absurd hs (by simp [hf])

/-- A failed record moves hbar balances, for its fees, and no token balance or NFT. -/
theorem ungated_phaseGrants (hf : item.isSuccessful = false) :
    PhaseGrants (Logic.keeps Ungated) item where
  result _ := Logic.keeps_holds_emit trivial
  log _ hl := Logic.keeps_holds_emit hl
  stateChange _ := Logic.keeps_holds_emit trivial
  nft hs := absurd hs (by simp [hf])
  hbar _ _ _ _ := Logic.keeps_holds_emit rfl
  tokenBalance hs := absurd hs (by simp [hf])
  transaction _ := Logic.keeps_holds_emit trivial
  sum {α} o _ := Keeps.fail (α := α) o

/-- Every row a failed record emits is written whatever the outcome. -/
theorem process_ungated (hf : item.isSuccessful = false) : Keeps Ungated (process item) :=
  process_holds (ungated_grants hf) (fun _ _ => trivial) (ungated_phaseGrants hf)

end Projection

/-! ### Rows without a range open no version -/

namespace HistoryTable

open Versioned

variable {α : Type} [Versioned α] [LawfulVersioned α]

/-- An update without a range merges into the current version or starts its key with itself. -/
theorem revise_of_unranged (k : RowKey) (vs : List α) {u : α} (hu : range u = none) :
    ∃ vs', (revise k vs u).1 = some vs' ∧ (vs'.map range = vs.map range ∨ vs = [] ∧ vs' = [u]) := by
  cases hcur : vs.getLast? with
  | none => exact ⟨[u], by simp [revise, hcur], .inr ⟨List.getLast?_eq_none_iff.1 hcur, rfl⟩⟩
  | some cur =>
    obtain ⟨row, hrow, -, hrange⟩ := mergeLast_eq vs.dropLast cur u none
    have hr : range row = range cur := hrange.resolve_right (by simp)
    refine ⟨vs.dropLast ++ [row], by simp [revise, hcur, hu, hrow], .inl ?_⟩
    conv_rhs => rw [← List.dropLast_append_getLast? cur hcur]
    simp [hr]

/-- An update without a range keeps the ranges of every key's versions, or starts its key with
one version without a range. -/
theorem ranges_apply_of_unranged {t : HistoryTable α} {u : α} (hu : range u = none) (k : RowKey) :
    ((t.apply u).1.history k).map range = (t.history k).map range ∨
      t.history k = [] ∧ ((t.apply u).1.history k).map range = [none] := by
  by_cases hk : k = key u
  · subst hk
    obtain ⟨vs', hrev, hvs'⟩ := revise_of_unranged (key u) (t.history (key u)) hu
    have happ : (t.apply u).1.history (key u) = vs' := by
      rw [apply_eq_revise]
      rcases h : revise (key u) (t.history (key u)) u with ⟨o, f⟩
      rw [h] at hrev
      simp only at hrev
      subst hrev
      rw [history_store, if_pos rfl]
    rw [happ]
    rcases hvs' with h | ⟨hnil, rfl⟩
    · exact .inl h
    · exact .inr ⟨hnil, by simp [hu]⟩
  · exact .inl (by rw [history_apply_of_ne hk])

end HistoryTable

namespace Ledger

open Versioned

/-- `l'` has the versions of `l`: every key of every table keeps the ranges of its versions, or
was absent and has one version without a range. -/
def KeepsVersions (l l' : Ledger) : Prop :=
  ∀ (f : Family) (k : RowKey),
    ((f.table l').history k).map range = ((f.table l).history k).map range ∨
      (f.table l).history k = [] ∧ ((f.table l').history k).map range = [none]

theorem KeepsVersions.refl (l : Ledger) : l.KeepsVersions l := fun _ _ => .inl rfl

theorem KeepsVersions.trans {l l₁ l' : Ledger} (h : l.KeepsVersions l₁) (h' : l₁.KeepsVersions l') :
    l.KeepsVersions l' := by
  intro f k
  rcases h f k with h | ⟨hnil, h⟩ <;> rcases h' f k with h' | ⟨hnil', h'⟩
  · exact .inl (h'.trans h)
  · -- a key absent after the first step was absent before it
    have hnil₀ : (f.table l).history k = [] := by
      simpa [hnil'] using h.symm
    exact .inr ⟨hnil₀, h'⟩
  · exact .inr ⟨hnil, h'.trans h⟩
  · rw [hnil'] at h
    cases h

/-- A mutation without a range opens and closes no version. -/
theorem keepsVersions_apply {l : Ledger} {m : Mutation} (hm : m.range? = none) :
    l.KeepsVersions (l.apply m).1 := by
  intro f k
  rw [Family.table_apply]
  cases hr : f.row? m with
  | none => exact .inl rfl
  | some r => exact HistoryTable.ranges_apply_of_unranged (by rw [Family.range_row hr, hm]) k

theorem keepsVersions_receive {l : Ledger} {ms : List Mutation} (hms : ∀ m ∈ ms, m.range? = none) :
    l.KeepsVersions (l.receive ms) := by
  induction ms generalizing l with
  | nil => exact KeepsVersions.refl l
  | cons m ms ih =>
    exact (keepsVersions_apply (hms m (List.mem_cons_self ..))).trans
      (ih fun m' hm' => hms m' (List.mem_cons_of_mem _ hm'))

end Ledger

/-! ### A failed record -/

/-- A record whose receipt reports failure, whatever the settings, the resolver and the sink it
is projected into, emits only rows written whatever the outcome: its transaction row, its
contract result, the contract logs the EVM emitted, its storage changes, its ethereum
transaction, and hbar balance changes, entity rows with no range and nothing but a balance and
its time. So it opens and closes no version of any history table: every key keeps the ranges of
its versions, or, new, has one version without a range. -/
theorem projectRecord_failed_ungated (props : Properties) (via : ResolverKind) (sink : Sink)
    (item : RecordItem) (hf : item.isSuccessful = false) :
    (∀ m ∈ (projectRecord props via sink item).2.mutations, m.Ungated) ∧
      sink.ledger.KeepsVersions (projectRecord props via sink item).1.ledger := by
  have h := projectRecord_delivered (Projection.process_ungated hf) props via sink
  refine ⟨h.forall, ?_⟩
  rw [h.ledger_eq]
  exact Ledger.keepsVersions_receive fun m hm => (h.forall m hm).range?_eq_none

/-- A token creation that failed, its fees paid by `0.0.2` to node `0.0.3`. -/
def failedTokenCreate : RecordItem :=
  { consensusTimestamp := 10, payerAccountId := ⟨0, 0, 2⟩, body := .tokenCreate {},
    receipt := { status := ⟨7⟩, tokenId := some ⟨0, 0, 1500⟩ },
    record := { transferList := [{ accountId := ⟨0, 0, 2⟩, amount := -5 },
                                 { accountId := ⟨0, 0, 3⟩, amount := 5 }] } }

theorem projectRecord_failed_ungated_failedTokenCreate :
    failedTokenCreate.isSuccessful = false ∧
      (∀ m ∈ (projectRecord {} .memory {} failedTokenCreate).2.mutations, m.Ungated) ∧
      ({} : Sink).ledger.KeepsVersions (projectRecord {} .memory {} failedTokenCreate).1.ledger :=
  ⟨rfl, projectRecord_failed_ungated {} .memory {} failedTokenCreate rfl⟩

end LedgerProjection
