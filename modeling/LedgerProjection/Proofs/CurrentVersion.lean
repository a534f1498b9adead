import LedgerProjection.Proofs.Refusals
import LedgerProjection.Proofs.Stamping

/-!
# What an update leaves in the current version

Every update, accepted or refused, goes through `HistoryTable.revise`; this module reads off what
it leaves behind, for any row type, whatever branch it took.

* `HistoryTable.forall_apply`: a property of rows that every update has, and that restamping and
  merging keep, holds of every version of every key.
* `HistoryTable.current_apply_of_accepted`: an accepted update leaves in the current version of
  its key the value it gives a field that merges overwrite, else the value the field had.
  `HistoryTable.current_apply_of_none`: an update that gives the field no value leaves it alone,
  accepted or not.
* `HistoryTable.overflow_of_apply`: an update refused for an overflow met a current version
  into which its merge overflowed. For the ledger (`Ledger.apply_overflow`): the row carries a
  balance change, and adding it to the balance the ledger holds for the row's key leaves the
  64-bit range. Only the two tables with balances, entities and token accounts, can refuse so.
* `Ledger.EveryEntity Q`: every version of every entity satisfies `Q`. A ledger keeps it through
  rows that satisfy `Q` when restamping and merging keep `Q` (`Ledger.EveryEntity.receive`): so
  every entity version holds a 64-bit balance, the additive merge keeping it, as long as the
  rows carry 64-bit balances (`Ledger.EveryEntity.receive_balanceInRange`).
-/

namespace LedgerProjection

open Versioned

namespace HistoryTable

variable {α : Type} [Versioned α] [LawfulVersioned α]

open LawfulVersioned

/-! ### Every version -/

section Every

variable {Q : α → Prop} (hw : ∀ r t, Q r → Q (withRange r t))
  (hm : ∀ c u, Q c → Q u → Q (merge c u).row)
include hw hm

omit [LawfulVersioned α] in
/-- A merge in place leaves rows of the property when it found them so. -/
theorem forall_mergeLast {older : List α} {cur u : α} (restamp : Option TimestampRange)
    (ho : ∀ v ∈ older, Q v) (hc : Q cur) (hu : Q u) :
    ∀ v ∈ (mergeLast older cur u restamp).1, Q v := by
  have hrow : Q (merge cur u).row := hm cur u hc hu
  unfold mergeLast
  split
  · next row hr =>
    rw [hr] at hrow
    intro v hv
    rcases List.mem_append.1 hv with hv | hv
    · exact ho v hv
    · rw [List.mem_singleton.1 hv]
      cases restamp with
      | none => exact hrow
      | some r => exact hw row (some r) hrow
  · next row o hr =>
    rw [hr] at hrow
    intro v hv
    rcases List.mem_append.1 hv with hv | hv
    · exact ho v hv
    · exact List.mem_singleton.1 hv ▸ hrow

omit [LawfulVersioned α] in
/-- What every version of a key and the update satisfy, every version satisfies after it. -/
theorem forall_revise {k : RowKey} {vs vs' : List α} {u : α} {f : Option LedgerFault}
    (h : revise k vs u = (some vs', f)) (hvs : ∀ v ∈ vs, Q v) (hu : Q u) : ∀ v ∈ vs', Q v := by
  have hold : ∀ v ∈ vs.dropLast, Q v := fun v hv => hvs v (List.dropLast_subset vs hv)
  rcases revise_eq_some h with ⟨-, rfl, -⟩ | ⟨cur, hcur, ⟨hml, -⟩ | ⟨-, hml⟩⟩ |
    ⟨cur, next, cr, r, hcur, -, -, -, hnext, -, rfl⟩
  · intro v hv
    exact List.mem_singleton.1 hv ▸ hu
  · rw [show vs' = _ from congrArg Prod.fst hml.symm]
    exact forall_mergeLast hw hm none hold (hvs cur (List.mem_of_getLast? hcur)) hu
  · rw [show vs' = _ from congrArg Prod.fst hml.symm]
    exact forall_mergeLast hw hm (range u) hold (hvs cur (List.mem_of_getLast? hcur)) hu
  · -- the current version is closed and the merged row opened after it
    have hc : Q cur := hvs cur (List.mem_of_getLast? hcur)
    have hn : Q next := by simpa [hnext, Merged.row] using hm cur u hc hu
    intro v hv
    simp only [List.mem_append, List.mem_cons, List.not_mem_nil, or_false] at hv
    rcases hv with hv | rfl | rfl
    · exact hold v hv
    · exact hw cur _ hc
    · exact hw next _ hn

omit [LawfulVersioned α] in
/-- What every version of every key and the update satisfy, every version satisfies after the
update is applied, whether it was accepted or refused. -/
theorem forall_apply {t : HistoryTable α} (ht : ∀ k, ∀ v ∈ t.history k, Q v) {u : α} (hu : Q u) :
    ∀ k, ∀ v ∈ (t.apply u).1.history k, Q v := by
  intro k
  rw [apply_eq_revise]
  rcases hrev : revise (key u) (t.history (key u)) u with ⟨_ | vs', f⟩
  · exact ht k
  · dsimp only
    rw [history_store]
    split
    · exact forall_revise hw hm hrev (ht (key u)) hu
    · exact ht k

end Every

/-! ### A field of the current version -/

section Field

variable {β : Type} {get : α → Option β} (hget : OverwriteField get)
  (hstrip : ∀ r t, get (withRange r t) = get r)
include hget hstrip

omit [LawfulVersioned α] in
/-- A merge in place leaves last a row with the update's value of the field over the current
version's. -/
theorem getLast?_mergeLast (older : List α) (cur u : α) (restamp : Option TimestampRange) :
    ((mergeLast older cur u restamp).1.getLast?).bind get = (get u).or (get cur) := by
  rw [← hget cur u]
  unfold mergeLast
  split
  · next row hr =>
    cases restamp <;> simp [hr, Merged.row, hstrip]
  · next row o hr => simp [hr, Merged.row]

omit [LawfulVersioned α] in
/-- Whatever branch wrote them, the new versions end with the update's value of the field over
the value the current version had. -/
theorem getLast?_revise {k : RowKey} {vs vs' : List α} {u : α} {f : Option LedgerFault}
    (h : revise k vs u = (some vs', f)) :
    (vs'.getLast?).bind get = (get u).or ((vs.getLast?).bind get) := by
  rcases revise_eq_some h with ⟨rfl, rfl, -⟩ | ⟨cur, hcur, ⟨hml, -⟩ | ⟨-, hml⟩⟩ |
    ⟨cur, next, cr, r, hcur, -, -, -, hnext, -, rfl⟩
  · simp
  · rw [show vs' = _ from congrArg Prod.fst hml.symm, getLast?_mergeLast hget hstrip, hcur]
    rfl
  · rw [show vs' = _ from congrArg Prod.fst hml.symm, getLast?_mergeLast hget hstrip, hcur]
    rfl
  · have hn : get next = (get u).or (get cur) := by rw [← hget cur u, hnext]; rfl
    simp [hcur, hstrip, hn]

omit [LawfulVersioned α] in
/-- An accepted update leaves in the current version of its key its value of the field over the
value it found, and every other key's current version as it was. -/
theorem current_apply_of_accepted {t : HistoryTable α} {u : α} (h : (t.apply u).2 = none)
    (k : RowKey) :
    ((t.apply u).1.current? k).bind get =
      if k = key u then (get u).or ((t.current? k).bind get) else (t.current? k).bind get := by
  obtain ⟨vs', hrev, hhist⟩ := history_apply_of_accepted h
  unfold current?
  rw [hhist k]
  split
  · next hk =>
    subst hk
    exact getLast?_revise hget hstrip hrev
  · rfl

omit [LawfulVersioned α] in
/-- An update that gives the field no value leaves it as it was in every current version,
accepted or refused. -/
theorem current_apply_of_none {t : HistoryTable α} {u : α} (hu : get u = none) (k : RowKey) :
    ((t.apply u).1.current? k).bind get = (t.current? k).bind get := by
  unfold current?
  rw [apply_eq_revise]
  rcases hrev : revise (key u) (t.history (key u)) u with ⟨_ | vs', f⟩
  · rfl
  · dsimp only
    rw [history_store]
    split
    · next hk =>
      subst hk
      rw [getLast?_revise hget hstrip hrev, hu, Option.none_or]
    · rfl

end Field

/-! ### Refusals for overflow -/

omit [LawfulVersioned α] in
/-- A key's versions refuse an update for an overflow only where the update's merge into the
current version overflowed. -/
theorem overflow_of_revise {k : RowKey} {vs : List α} {u : α} {w : Option (List α)} {o : Overflow}
    (h : revise k vs u = (w, some (.overflow o))) :
    ∃ cur row, vs.getLast? = some cur ∧ merge cur u = .overflow row o := by
  have hml : ∀ {older : List α} {cur : α} {restamp : Option TimestampRange},
      ((mergeLast older cur u restamp).map some id).2 = some (.overflow o) →
        ∃ row, merge cur u = .overflow row o := by
    intro older cur restamp hf
    unfold mergeLast at hf
    split at hf
    · cases hf
    · next row o' hr =>
      cases hf
      exact ⟨row, hr⟩
  unfold revise at h
  cases hcur : vs.getLast? with
  | none => simp [hcur] at h
  | some cur =>
    simp only [hcur] at h
    cases hu : range u with
    | none =>
      simp only [hu] at h
      obtain ⟨row, hr⟩ := hml (congrArg Prod.snd h)
      exact ⟨cur, row, rfl, hr⟩
    | some r =>
      simp only [hu] at h
      cases hc : range cur with
      | none =>
        simp only [hc] at h
        obtain ⟨row, hr⟩ := hml (congrArg Prod.snd h)
        exact ⟨cur, row, rfl, hr⟩
      | some cr =>
        simp only [hc] at h
        by_cases heq : cr.lower = r.lower
        · simp only [heq, if_true] at h
          obtain ⟨row, hr⟩ := hml (congrArg Prod.snd h)
          exact ⟨cur, row, rfl, hr⟩
        · by_cases hlt : r.lower < cr.lower
          · simp [heq, hlt] at h
          · -- a new version: its merge overflowed, and nothing was written
            simp only [heq, hlt, if_false] at h
            cases hm : merge cur u with
            | ok next => simp [hm] at h
            | overflow row o' =>
              simp only [hm, Prod.mk.injEq, Option.some.injEq, LedgerFault.overflow.injEq] at h
              exact ⟨cur, row, rfl, h.2 ▸ hm⟩

omit [LawfulVersioned α] in
/-- A table refuses an update for an overflow only where the update's merge into the current
version of its key overflowed. -/
theorem overflow_of_apply {t : HistoryTable α} {u : α} {o : Overflow}
    (h : (t.apply u).2 = some (.overflow o)) :
    ∃ cur row, t.current? (key u) = some cur ∧ merge cur u = .overflow row o := by
  rw [apply_fault] at h
  rcases hrev : revise (key u) (t.history (key u)) u with ⟨w, f⟩
  rw [hrev] at h
  subst h
  exact overflow_of_revise hrev

end HistoryTable

/-! ### Balances -/

namespace Merged

/-- A balance merge overflows only where the change, added to the current balance, leaves the
64-bit range. -/
theorem addBalance_of_withBalance {α : Type} {row r : α} {current delta : Option Int}
    {setBalance : α → Option Int → α} {o : Overflow}
    (h : withBalance row current delta setBalance = .overflow r o) :
    ∃ d, delta = some d ∧ I64.checkedAdd (current.getD 0) d = .error o := by
  unfold withBalance at h
  split at h
  · cases h
  · next o' hb =>
    cases h
    cases delta with
    | none => cases hb
    | some d =>
      refine ⟨d, rfl, ?_⟩
      unfold addBalance at hb
      dsimp only at hb
      cases hd : I64.checkedAdd (current.getD 0) d with
      | ok s => rw [hd] at hb; cases hb
      | error o'' => rw [hd] at hb; cases hb; rfl

/-- A balance merge keeps 64-bit balances: it leaves a checked sum, or the current balance when
there is no change or the sum overflows. -/
theorem withBalance_inRange {α : Type} {row : α} {current delta : Option Int}
    {setBalance : α → Option Int → α} (balance : α → Option Int) (hrow : balance row = current)
    (hset : ∀ b, balance (setBalance row b) = b) (hc : ∀ b ∈ current, I64.InRange b) :
    ∀ b ∈ balance (withBalance row current delta setBalance).row, I64.InRange b := by
  unfold withBalance
  split
  · next b hb =>
    rw [Merged.row, hset]
    unfold addBalance at hb
    cases delta with
    | none => cases hb; exact hc
    | some d =>
      dsimp only at hb
      cases hd : I64.checkedAdd (current.getD 0) d with
      | error o => rw [hd] at hb; cases hb
      | ok s =>
        rw [hd] at hb
        cases hb
        intro b hb'
        cases hb'
        obtain ⟨hs, rfl⟩ := (I64.checkedAdd_ok_iff _ _ _).1 hd
        exact hs
  · rw [Merged.row, hrow]
    exact hc

end Merged

namespace Ledger

/-- The balance the ledger holds for the key of the row a mutation carries: the current
version's, for an entity or a token account. -/
def currentBalance? (l : Ledger) : Mutation → Option Int
  | .entity r => (l.entities.current? (key r)).bind (·.balance)
  | .tokenAccount r => (l.tokenAccounts.current? (key r)).bind (·.balance)
  | _ => none

/-- The ledger refuses a mutation for an overflow only when the mutation carries a balance
change and adding it to the balance held for the row's key leaves the 64-bit range. -/
theorem apply_overflow {l : Ledger} {m : Mutation} {o : Overflow}
    (h : (l.apply m).2 = some (.overflow o)) :
    ∃ d, m.balance? = some d ∧ I64.checkedAdd ((l.currentBalance? m).getD 0) d = .error o := by
  obtain ⟨f, r, hr, hf⟩ := exists_row_of_fault h
  obtain ⟨cur, row, hcur, hm⟩ := HistoryTable.overflow_of_apply hf
  -- only the tables that add balances merge with an overflow
  cases f <;> try cases hm
  case entity =>
    cases m <;> cases hr
    have hm' : Merged.withBalance (Entity.overlay cur r) cur.balance r.balance
        (fun r b => { r with balance := b }) = .overflow row o := hm
    obtain ⟨d, hd, hsum⟩ := Merged.addBalance_of_withBalance hm'
    have hc : l.entities.current? (@key Entity _ r) = some cur := hcur
    refine ⟨d, hd, ?_⟩
    show I64.checkedAdd (((l.entities.current? (@key Entity _ r)).bind (·.balance)).getD 0) d = _
    rw [hc]
    exact hsum
  case tokenAccount =>
    cases m <;> cases hr
    have hm' : Merged.withBalance (TokenAccount.overlay cur r) cur.balance r.balance
        (fun r b => { r with balance := b }) = .overflow row o := hm
    obtain ⟨d, hd, hsum⟩ := Merged.addBalance_of_withBalance hm'
    have hc : l.tokenAccounts.current? (@key TokenAccount _ r) = some cur := hcur
    refine ⟨d, hd, ?_⟩
    show I64.checkedAdd
      (((l.tokenAccounts.current? (@key TokenAccount _ r)).bind (·.balance)).getD 0) d = _
    rw [hc]
    exact hsum

/-- An entity row reaches the ledger through its table of entities alone. -/
theorem apply_entity (l : Ledger) (e : Entity) :
    (l.apply (.entity e)).1.entities = (l.entities.apply e).1 ∧
      (l.apply (.entity e)).2 = (l.entities.apply e).2 :=
  ⟨Family.table_apply .entity l (.entity e), Family.fault_of_row (f := .entity) rfl l⟩

/-! ### Every version of every entity -/

/-- Every version of every entity satisfies `Q`. -/
def EveryEntity (Q : Entity → Prop) (l : Ledger) : Prop :=
  ∀ k, ∀ v ∈ l.entities.history k, Q v

theorem everyEntity_empty (Q : Entity → Prop) : EveryEntity Q {} := by
  intro k v hv
  cases (show ({} : Ledger).entities.history k = [] from rfl) ▸ hv

section Every

variable {Q : Entity → Prop} (hw : ∀ r t, Q r → Q (withRange r t))
  (hm : ∀ c u, Q c → Q u → Q (merge c u).row)
include hw hm

/-- A property that restamping and merging keep holds of every version of every entity after a
mutation whose entity row, if any, has it, whether the ledger accepts the mutation or not. -/
theorem EveryEntity.apply {l : Ledger} (h : l.EveryEntity Q) {m : Mutation}
    (hrow : m.OnEntity Q) : (l.apply m).1.EveryEntity Q := by
  intro k
  have ht := Family.table_apply .entity l m
  change (l.apply m).1.entities = _ at ht
  rw [ht]
  cases m
  case entity u => exact HistoryTable.forall_apply hw hm h hrow k
  all_goals exact h k

theorem EveryEntity.receive {l : Ledger} (h : l.EveryEntity Q) :
    ∀ {ms : List Mutation}, (∀ m ∈ ms, m.OnEntity Q) → (l.receive ms).EveryEntity Q
  | [], _ => h
  | m :: ms, hms => by
    rw [receive_cons]
    exact (h.apply hw hm (hms m List.mem_cons_self)).receive fun m' hm' =>
      hms m' (List.mem_cons_of_mem m hm')

end Every

end Ledger

/-- An entity's balance, when it has one, is a 64-bit integer. -/
def Entity.BalanceInRange (e : Entity) : Prop := ∀ b ∈ e.balance, I64.InRange b

/-- The entity merge keeps 64-bit balances: it leaves a checked sum, or the current balance. -/
theorem Entity.balanceInRange_merge (c u : Entity) (hc : c.BalanceInRange) :
    (merge c u).row.BalanceInRange :=
  Merged.withBalance_inRange Entity.balance rfl (fun _ => rfl) hc

namespace Ledger

/-- Over 64-bit entity balances, the balance the ledger holds for an entity row is a 64-bit
integer, absent counting as zero. -/
theorem EveryEntity.currentBalance_inRange {l : Ledger} (hl : l.EveryEntity Entity.BalanceInRange)
    (e : Entity) : I64.InRange ((l.currentBalance? (.entity e)).getD 0) := by
  cases hb : l.currentBalance? (.entity e) with
  | none => decide
  | some b =>
    obtain ⟨cur, hc, hb⟩ := Option.bind_eq_some_iff.1 hb
    exact hl _ cur (List.mem_of_getLast? hc) b hb

/-- A ledger keeps 64-bit balances in every entity version through rows whose balances are. -/
theorem EveryEntity.receive_balanceInRange {l : Ledger} (h : l.EveryEntity Entity.BalanceInRange)
    {ms : List Mutation} (hms : ∀ m ∈ ms, m.OnEntity Entity.BalanceInRange) :
    (l.receive ms).EveryEntity Entity.BalanceInRange :=
  h.receive (fun _ _ hr => hr) (fun c u hc _ => Entity.balanceInRange_merge c u hc) hms

end Ledger

end LedgerProjection
