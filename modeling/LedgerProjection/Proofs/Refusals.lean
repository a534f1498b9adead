import LedgerProjection.Sink
import LedgerProjection.Proofs.Snapshots

/-!
## A refused delivery

A mutation reaches the resolver before the ledger (`Sink.deliver`). When the ledger refuses it,
the resolver has learnt what it says all the same, as it would from an accepted one; the
ledger keeps its log and its count, and the mutation log gets nothing.

* `HistoryTable.outOfOrder_iff`: a table refuses an update as out of order exactly when the
  current version of the update's key has a range that starts after the update's, and
  `HistoryTable.apply_of_outOfOrder`: it then writes nothing.
* `HistoryTable.history_apply_of_ne`: an update, accepted or refused, rewrites no key but its
  own.
* `Ledger.apply_of_outOfOrder`: a refusal as out of order leaves the whole ledger as it was;
  `Ledger.apply_of_fault`: any refusal leaves its log, contracts and hook storage.
* `Sink.deliver_refused`: the main statement, for the sink.

A balance that overflows while merging in place leaves the fields merged before it in the
current version (see `Versioned.merge`); the statements here say nothing of that version.
-/

namespace LedgerProjection

open Versioned

namespace HistoryTable

variable {α : Type} [Versioned α]

/-- An update that rewrites the versions faults only by overflowing. -/
theorem revise_fault_of_some {k : RowKey} {vs vs' : List α} {u : α} {e : LedgerFault}
    (h : revise k vs u = (some vs', some e)) : ∃ o, e = .overflow o := by
  rcases revise_eq_some h with ⟨-, -, hf⟩ | ⟨cur, -, ⟨hm, -⟩ | ⟨-, hm⟩⟩ |
    ⟨-, -, -, -, -, -, -, -, -, hf, -⟩
  · cases hf
  · exact mergeLast_fault (by rw [hm])
  · exact mergeLast_fault (by rw [hm])
  · cases hf

/-- An update is refused as out of order exactly when the current version has a range that
starts after the update's. -/
theorem revise_outOfOrder_iff {k : RowKey} {vs : List α} {u : α} :
    (∃ key' ts c, (revise k vs u).2 = some (.outOfOrder key' ts c)) ↔
      ∃ cur cr r, vs.getLast? = some cur ∧ range cur = some cr ∧ range u = some r ∧
        r.lower < cr.lower := by
  constructor
  · rintro ⟨key', ts, c, h⟩
    rcases hrev : revise k vs u with ⟨o, f⟩
    rw [hrev] at h
    cases o with
    | some vs' =>
      simp only at h
      subst h
      obtain ⟨o, ho⟩ := revise_fault_of_some hrev
      cases ho
    | none =>
      rcases revise_eq_none hrev with ⟨cur, cr, r, hcur, hcr, hr, hlt, -⟩ | ⟨o, rfl⟩
      · exact ⟨cur, cr, r, hcur, hcr, hr, hlt⟩
      · cases h
  · rintro ⟨cur, cr, r, hcur, hcr, hr, hlt⟩
    have hne : cr.lower ≠ r.lower := by omega
    exact ⟨RowKey.debug k, r.lower, cr.lower, by simp [revise, hcur, hcr, hr, hne, hlt]⟩

theorem outOfOrder_iff {t : HistoryTable α} {u : α} :
    (∃ key' ts c, (t.apply u).2 = some (.outOfOrder key' ts c)) ↔
      ∃ cur cr r, t.current? (key u) = some cur ∧ range cur = some cr ∧ range u = some r ∧
        r.lower < cr.lower := by
  simp only [apply_fault]
  exact revise_outOfOrder_iff

/-- A refusal as out of order writes nothing. -/
theorem apply_of_outOfOrder {t : HistoryTable α} {u : α} {key' : String} {ts c : Int}
    (h : (t.apply u).2 = some (.outOfOrder key' ts c)) : (t.apply u).1 = t := by
  rw [apply_fault] at h
  rw [apply_eq_revise]
  rcases hrev : revise (key u) (t.history (key u)) u with ⟨_ | vs, f⟩
  · rfl
  · rw [hrev] at h
    simp only at h
    subst h
    obtain ⟨o, ho⟩ := revise_fault_of_some hrev
    cases ho

/-- An update rewrites the versions of its own key only, whether accepted or refused. -/
theorem history_apply_of_ne {t : HistoryTable α} {u : α} {k : RowKey} (hk : k ≠ key u) :
    (t.apply u).1.history k = t.history k := by
  rw [apply_eq_revise]
  rcases revise (key u) (t.history (key u)) u with ⟨_ | vs, f⟩
  · rfl
  · rw [history_store, if_neg hk]

end HistoryTable

namespace Ledger

/-- Two ledgers with the same log, tables, contracts and hook storage are the same ledger. -/
theorem ext_tables {l l' : Ledger} (ha : l.accepted = l'.accepted)
    (ht : ∀ f : Family, f.table l = f.table l') (hc : l.contracts = l'.contracts)
    (hs : l.hookStorage = l'.hookStorage) : l = l' := by
  cases l
  cases l'
  simp only [Ledger.mk.injEq]
  exact ⟨ha, ht .entity, ht .topic, ht .node, ht .token, ht .tokenAccount, ht .nft,
    ht .tokenAirdrop, ht .customFee, ht .cryptoAllowance, ht .tokenAllowance, ht .nftAllowance,
    ht .hook, hc, hs⟩

/-- A refused mutation leaves the ledger as storing it left it: it is not logged. -/
theorem apply_fst_of_fault {l : Ledger} {m : Mutation} (h : (l.apply m).2 ≠ none) :
    (l.apply m).1 = (l.store m).1 := by
  unfold apply at h ⊢
  rcases hs : l.store m with ⟨l', _ | e⟩
  · simp [hs] at h
  · rfl

theorem store_accepted (l : Ledger) (m : Mutation) : (l.store m).1.accepted = l.accepted := by
  cases m
  case hookStorageChange ch =>
    show (l.applyStorage ch).accepted = l.accepted
    unfold applyStorage
    split <;> rfl
  all_goals rfl

/-- Storing a versioned row touches neither the contracts nor the hook storage. -/
theorem store_of_row {l : Ledger} {m : Mutation} {f : Family} {r : f.Row} (h : f.row? m = some r) :
    (l.store m).1.contracts = l.contracts ∧ (l.store m).1.hookStorage = l.hookStorage := by
  cases m <;> cases f <;> cases h <;> exact ⟨rfl, rfl⟩

/-- A refused mutation is not logged and leaves the contracts and the hook storage. -/
theorem apply_of_fault {l : Ledger} {m : Mutation} {e : LedgerFault} (h : (l.apply m).2 = some e) :
    (l.apply m).1.accepted = l.accepted ∧ (l.apply m).1.contracts = l.contracts ∧
      (l.apply m).1.hookStorage = l.hookStorage := by
  have hfst := apply_fst_of_fault (l := l) (m := m) (by rw [h]; simp)
  obtain ⟨f, r, hr, -⟩ := exists_row_of_fault h
  rw [hfst]
  exact ⟨store_accepted l m, store_of_row hr⟩

/-- A mutation refused as out of order leaves the ledger as it was. -/
theorem apply_of_outOfOrder {l : Ledger} {m : Mutation} {key : String} {ts c : Int}
    (h : (l.apply m).2 = some (.outOfOrder key ts c)) : (l.apply m).1 = l := by
  obtain ⟨ha, hc, hs⟩ := apply_of_fault h
  refine ext_tables ha (fun f => ?_) hc hs
  rw [Family.table_apply]
  cases hr : f.row? m with
  | none => rfl
  | some r =>
    -- the row's own table refused it with the same fault, and so wrote nothing
    have hf : ((f.table l).apply r).2 = some (.outOfOrder key ts c) := by
      rw [← Family.fault_of_row hr l, h]
    exact HistoryTable.apply_of_outOfOrder hf

/-- A mutation rewrites, in any table, no key but the key of the row it carries there. -/
theorem history_apply_of_ne {l : Ledger} {m : Mutation} (f : Family) {k : RowKey}
    (hk : ∀ u, f.row? m = some u → key u ≠ k) :
    (f.table (l.apply m).1).history k = (f.table l).history k := by
  rw [Family.table_apply]
  cases hr : f.row? m with
  | none => rfl
  | some u => exact HistoryTable.history_apply_of_ne (hk u hr).symm

/-- A mutation is refused as out of order exactly when it carries a row whose key's current
version has a range starting after the row's. -/
theorem outOfOrder_iff {l : Ledger} {m : Mutation} :
    (∃ key ts c, (l.apply m).2 = some (.outOfOrder key ts c)) ↔
      ∃ (f : Family) (u cur : f.Row) (cr r : TimestampRange), f.row? m = some u ∧
        (f.table l).current? (key u) = some cur ∧ range cur = some cr ∧ range u = some r ∧
        r.lower < cr.lower := by
  constructor
  · rintro ⟨key', ts, c, h⟩
    obtain ⟨f, u, hu, hf⟩ := exists_row_of_fault h
    obtain ⟨cur, cr, r, hcur, hcr, hr, hlt⟩ := HistoryTable.outOfOrder_iff.1 ⟨key', ts, c, hf⟩
    exact ⟨f, u, cur, cr, r, hu, hcur, hcr, hr, hlt⟩
  · rintro ⟨f, u, cur, cr, r, hu, hcur, hcr, hr, hlt⟩
    obtain ⟨key', ts, c, hf⟩ := HistoryTable.outOfOrder_iff.2 ⟨cur, cr, r, hcur, hcr, hr, hlt⟩
    exact ⟨key', ts, c, by rw [Family.fault_of_row hu l, hf]⟩

end Ledger

namespace Sink

@[simp]
theorem deliver_resolver (s : Sink) (m : Mutation) : (s.deliver m).1.resolver = learn s.resolver m := by
  unfold deliver
  split <;> rfl

@[simp]
theorem deliver_ledger (s : Sink) (m : Mutation) : (s.deliver m).1.ledger = (s.ledger.apply m).1 := by
  unfold deliver
  split <;> rename_i h <;> simp [h]

theorem deliver_cause (s : Sink) (m : Mutation) :
    (s.deliver m).2.map Refusal.cause = (s.ledger.apply m).2 := by
  unfold deliver
  split <;> rename_i h <;> simp [h]

/-- A refused mutation does not reach the mutation log. -/
theorem deliver_log_of_refused {s : Sink} {m : Mutation} {r : Refusal}
    (h : (s.deliver m).2 = some r) : (s.deliver m).1.log = s.log := by
  unfold deliver at h ⊢
  split
  · rfl
  · rename_i hl
    rw [hl] at h
    cases h

/-- A delivery the ledger refuses has still taught the resolver what the mutation says (the
alias and EVM address of an entity row, the key presence of a token row), as an accepted one
would; the mutation log, and the ledger's log, contracts and hook storage, are as they were. A
refusal as out of order, which happens exactly when the current version of the mutation's key
has a range starting after the mutation's, leaves the whole ledger as it was; a balance merge
that overflows leaves every other key of every table as it was. -/
theorem deliver_refused (s : Sink) (m : Mutation) {r : Refusal} (h : (s.deliver m).2 = some r) :
    (s.deliver m).1.resolver = learn s.resolver m ∧
      (s.deliver m).1.log = s.log ∧
      (s.deliver m).1.ledger.accepted = s.ledger.accepted ∧
      (s.deliver m).1.ledger.contracts = s.ledger.contracts ∧
      (s.deliver m).1.ledger.hookStorage = s.ledger.hookStorage ∧
      ((∃ key ts c, r.cause = .outOfOrder key ts c) ↔
        ∃ (f : Family) (u cur : f.Row) (cr ur : TimestampRange), f.row? m = some u ∧
          (f.table s.ledger).current? (key u) = some cur ∧ range cur = some cr ∧
          range u = some ur ∧ ur.lower < cr.lower) ∧
      ((∃ key ts c, r.cause = .outOfOrder key ts c) → (s.deliver m).1.ledger = s.ledger) ∧
      ∀ o, r.cause = .overflow o → ∀ (f : Family) (k : RowKey),
        (∀ u, f.row? m = some u → key u ≠ k) →
          (f.table (s.deliver m).1.ledger).history k = (f.table s.ledger).history k := by
  have hcause : (s.ledger.apply m).2 = some r.cause := by
    rw [← deliver_cause, h]
    rfl
  obtain ⟨ha, hc, hs⟩ := Ledger.apply_of_fault hcause
  have hiff : (∃ key ts c, r.cause = .outOfOrder key ts c) ↔
      ∃ key ts c, (s.ledger.apply m).2 = some (.outOfOrder key ts c) := by
    simp only [hcause, Option.some.injEq]
  simp only [deliver_ledger]
  refine ⟨deliver_resolver s m, deliver_log_of_refused h, ha, hc, hs,
    hiff.trans Ledger.outOfOrder_iff, ?_, ?_⟩
  · rintro ⟨key, ts, c, hoo⟩
    exact Ledger.apply_of_outOfOrder (hcause.trans (by rw [hoo]))
  · intro _ _ f k hk
    exact Ledger.history_apply_of_ne f hk

/-- A sink whose ledger holds account `0.0.1001` from 20 on. -/
def accountFromTwenty : Sink :=
  (({} : Sink).deliver (.entity { id := ⟨0, 0, 1001⟩, timestampRange := some (.openFrom 20) })).1

/-- The same account with an alias, from 10 on: earlier than its current version. -/
def aliasedFromTen : Mutation :=
  .entity { id := ⟨0, 0, 1001⟩, timestampRange := some (.openFrom 10), «alias» := some [1, 2, 3] }

theorem deliver_refused_aliasedFromTen :
    (accountFromTwenty.deliver aliasedFromTen).2 =
        some ⟨"entity", .outOfOrder (RowKey.debug [.id ⟨0, 0, 1001⟩]) 10 20⟩ ∧
      ((accountFromTwenty.deliver aliasedFromTen).1.resolver =
          learn accountFromTwenty.resolver aliasedFromTen ∧
        (accountFromTwenty.deliver aliasedFromTen).1.log = accountFromTwenty.log ∧
        (accountFromTwenty.deliver aliasedFromTen).1.ledger.accepted =
          accountFromTwenty.ledger.accepted ∧
        (accountFromTwenty.deliver aliasedFromTen).1.ledger.contracts =
          accountFromTwenty.ledger.contracts ∧
        (accountFromTwenty.deliver aliasedFromTen).1.ledger.hookStorage =
          accountFromTwenty.ledger.hookStorage ∧
        ((∃ key ts c, LedgerFault.outOfOrder (RowKey.debug [.id ⟨0, 0, 1001⟩]) 10 20 =
            .outOfOrder key ts c) ↔
          ∃ (f : Family) (u cur : f.Row) (cr ur : TimestampRange), f.row? aliasedFromTen = some u ∧
            (f.table accountFromTwenty.ledger).current? (key u) = some cur ∧
            range cur = some cr ∧ range u = some ur ∧ ur.lower < cr.lower) ∧
        ((∃ key ts c, LedgerFault.outOfOrder (RowKey.debug [.id ⟨0, 0, 1001⟩]) 10 20 =
            .outOfOrder key ts c) →
          (accountFromTwenty.deliver aliasedFromTen).1.ledger = accountFromTwenty.ledger) ∧
        ∀ o, LedgerFault.outOfOrder (RowKey.debug [.id ⟨0, 0, 1001⟩]) 10 20 = .overflow o →
          ∀ (f : Family) (k : RowKey), (∀ u, f.row? aliasedFromTen = some u → key u ≠ k) →
            (f.table (accountFromTwenty.deliver aliasedFromTen).1.ledger).history k =
              (f.table accountFromTwenty.ledger).history k) :=
  ⟨rfl, deliver_refused accountFromTwenty aliasedFromTen rfl⟩

/-- The delivery above is refused, yet the resolver now knows the alias it did not know. -/
theorem refused_delivery_registers_alias :
    (accountFromTwenty.deliver aliasedFromTen).2.isSome = true ∧
      accountFromTwenty.resolver.lookup (.alias [1, 2, 3]) = none ∧
      (accountFromTwenty.deliver aliasedFromTen).1.resolver.lookup (.alias [1, 2, 3]) =
        some ⟨0, 0, 1001⟩ := by
  decide

end Sink

end LedgerProjection
