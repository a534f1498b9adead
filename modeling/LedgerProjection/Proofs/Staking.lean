import LedgerProjection.Proofs.CurrentVersion

/-!
# Staking elections

An account or a contract stakes to another account or to a node, not both: electing one target
resets the other, the node to `-1` and the account to `0.0.0`, and any change of the election,
the choice to decline rewards included, restarts the stake period on the day of the change
(`Entity.withStaking`).

* `Entity.SingleTarget`: both targets are absent, or one is set and the other holds its reset
  value. So an account other than `0.0.0` goes with the node `-1`, and a node other than `-1`
  with the account `0.0.0` (`Entity.SingleTarget.node_of_account`,
  `Entity.SingleTarget.account_of_node`).
* `Entity.ElectedAt ts`: a single target, and a stake period that starts on the day of `ts`
  when the row sets a field of an election and is absent otherwise. The stamp of a record's main
  entity has it, and an election keeps it (`Entity.withStaking_electedAt`).
* The field-wise merge keeps a single target (`Entity.singleTarget_merge`), so every version of
  every entity of a ledger has one when every row it received had one.
* The merge overwrites the stake period with the update's, so the current version of an entity
  holds the period the last accepted row gave it (`Ledger.stakePeriod_receive`). A refused row
  leaves it alone when the refusal is out of order, or when the row starts no period; a row that
  starts a period moves no balance, so over 64-bit balances it is never refused for an overflow
  (`Ledger.stakePeriod_apply_of_refused`).
-/

namespace LedgerProjection

open Versioned

namespace Entity

variable {e c u : Entity}

@[simp]
theorem key_eq (e : Entity) : Versioned.key e = [KeyPart.id e.id] := rfl

theorem SingleTarget.node_of_account (h : e.SingleTarget) {a : EntityId}
    (ha : e.stakedAccountId = some a) (hne : a ≠ EntityId.empty) : e.stakedNodeId = some (-1) := by
  rcases h with ⟨ha', -⟩ | ⟨-, hn⟩ | ⟨-, ha'⟩
  · simp [ha] at ha'
  · exact hn
  · exact absurd (Option.some.inj (ha.symm.trans ha')) hne

theorem SingleTarget.account_of_node (h : e.SingleTarget) {n : Int}
    (hn : e.stakedNodeId = some n) (hne : n ≠ -1) : e.stakedAccountId = some EntityId.empty := by
  rcases h with ⟨-, hn'⟩ | ⟨-, hn'⟩ | ⟨-, ha⟩
  · simp [hn] at hn'
  · exact absurd (Option.some.inj (hn.symm.trans hn')) hne
  · exact ha

/-! ### The merge -/

theorem SingleTarget.overlay (hc : c.SingleTarget) (hu : u.SingleTarget) :
    (overlay c u).SingleTarget := by
  -- the update's targets, when it has any, come as a pair and overwrite both of the current ones
  show (u.stakedAccountId.or c.stakedAccountId = none ∧ u.stakedNodeId.or c.stakedNodeId = none) ∨
    ((u.stakedAccountId.or c.stakedAccountId).isSome ∧ u.stakedNodeId.or c.stakedNodeId = some (-1)) ∨
    ((u.stakedNodeId.or c.stakedNodeId).isSome ∧
      u.stakedAccountId.or c.stakedAccountId = some EntityId.empty)
  rcases hu with ⟨ha, hn⟩ | ⟨ha, hn⟩ | ⟨hn, ha⟩
  · rw [ha, hn, Option.none_or, Option.none_or]
    exact hc
  · obtain ⟨a, ha'⟩ := Option.isSome_iff_exists.1 ha
    rw [ha', hn]
    exact .inr (.inl ⟨rfl, rfl⟩)
  · obtain ⟨n, hn'⟩ := Option.isSome_iff_exists.1 hn
    rw [ha, hn']
    exact .inr (.inr ⟨rfl, rfl⟩)

theorem singleTarget_merge (hc : c.SingleTarget) (hu : u.SingleTarget) :
    (merge c u).row.SingleTarget :=
  Merged.withBalance_row SingleTarget (hc.overlay hu) fun _ => hc.overlay hu

theorem overwriteField_stakePeriodStart : HistoryTable.OverwriteField Entity.stakePeriodStart :=
  fun c u => Merged.withBalance_row
    (fun r : Entity => r.stakePeriodStart = u.stakePeriodStart.or c.stakePeriodStart) rfl
    fun _ => rfl

end Entity

/-! ### The ledger -/

namespace Mutation

/-- The stake period an entity row gives the entity `id`, if it gives one. -/
def stakePeriodOf (id : EntityId) : Mutation → Option Int
  | .entity e => if e.id = id then e.stakePeriodStart else none
  | _ => none

/-- An entity row that starts a stake period moves no balance. -/
def StartsQuietly : Mutation → Prop :=
  OnEntity fun e => e.stakePeriodStart.isSome → e.balance.getD 0 = 0

end Mutation

namespace Ledger

variable {l : Ledger} {m : Mutation}

/-- The stake period of the current version of the entity `id`. -/
def stakePeriod (l : Ledger) (id : EntityId) : Option Int :=
  (l.entities.current? [.id id]).bind (·.stakePeriodStart)

/-- A ledger keeps a single target in every version of every entity through rows that have
one. -/
theorem EveryEntity.receive_singleTarget (h : l.EveryEntity Entity.SingleTarget)
    {ms : List Mutation} (hms : ∀ m ∈ ms, m.OnEntity Entity.SingleTarget) :
    (l.receive ms).EveryEntity Entity.SingleTarget :=
  h.receive (fun _ _ hr => hr) (fun _ _ hc hu => Entity.singleTarget_merge hc hu) hms

/-- An accepted row gives its entity its stake period over the current one. -/
theorem stakePeriod_apply_of_accepted (h : (l.apply m).2 = none) (id : EntityId) :
    (l.apply m).1.stakePeriod id = (m.stakePeriodOf id).or (l.stakePeriod id) := by
  have ht := Family.table_apply .entity l m
  change (l.apply m).1.entities = _ at ht
  unfold stakePeriod
  cases m
  case entity e =>
    obtain ⟨he, hf⟩ := apply_entity l e
    rw [hf] at h
    rw [he, HistoryTable.current_apply_of_accepted Entity.overwriteField_stakePeriodStart
      (fun _ _ => rfl) h, Entity.key_eq]
    by_cases hid : e.id = id
    · subst hid
      simp [Mutation.stakePeriodOf]
    · simp [Mutation.stakePeriodOf, hid, Ne.symm hid]
  all_goals rw [ht]; rfl

/-- A row refused for an overflow met a balance it could not take: over 64-bit balances, a row
that starts a stake period moves no balance and so is never refused so. -/
theorem stakePeriodStart_eq_none_of_overflow (hl : l.EveryEntity Entity.BalanceInRange)
    (hq : m.StartsQuietly) {o : Overflow} (h : (l.apply m).2 = some (.overflow o)) :
    m.OnEntity fun e => e.stakePeriodStart = none := by
  obtain ⟨d, hd, hsum⟩ := Ledger.apply_overflow h
  cases m
  case entity e =>
    show e.stakePeriodStart = none
    by_contra hs
    -- a row that starts a period changes no balance, and the balance held is in range
    have hzero : d = 0 := by
      have hb := hq (Option.ne_none_iff_isSome.1 hs)
      rwa [show e.balance = some d from hd] at hb
    have hheld := hl.currentBalance_inRange e
    rw [hzero, (I64.checkedAdd_ok_iff _ _ _).2 ⟨by rwa [Int.add_zero], rfl⟩] at hsum
    cases hsum
  all_goals trivial

/-- Over 64-bit balances, a refused row that starts a stake period only by moving no balance
leaves every entity's stake period as it was. -/
theorem stakePeriod_apply_of_refused (hl : l.EveryEntity Entity.BalanceInRange)
    (hq : m.StartsQuietly) {f : LedgerFault} (h : (l.apply m).2 = some f) (id : EntityId) :
    (l.apply m).1.stakePeriod id = l.stakePeriod id := by
  cases f with
  | outOfOrder key ts c => rw [apply_of_outOfOrder h]
  | overflow o =>
    have hnone := stakePeriodStart_eq_none_of_overflow hl hq h
    have ht := Family.table_apply .entity l m
    change (l.apply m).1.entities = _ at ht
    unfold stakePeriod
    rw [ht]
    cases m
    case entity e =>
      exact HistoryTable.current_apply_of_none Entity.overwriteField_stakePeriodStart
        (fun _ _ => rfl) hnone _
    all_goals rfl

/-- Through rows it accepts, a ledger's entities hold the stake period the last row gave them,
or the one they had. -/
theorem stakePeriod_receive :
    ∀ {l : Ledger} {ms : List Mutation}, l.Accepts ms → ∀ id : EntityId,
      (l.receive ms).stakePeriod id =
        ((ms.filterMap (Mutation.stakePeriodOf id)).getLast?).or (l.stakePeriod id)
  | l, [], _, id => by simp
  | l, m :: ms, ⟨hm, hacc⟩, id => by
    rw [receive_cons, stakePeriod_receive hacc id, stakePeriod_apply_of_accepted hm id,
      List.filterMap_cons]
    cases m.stakePeriodOf id with
    | none => rfl
    | some p =>
      -- the row's period stands unless a later row gives one
      cases hlast : (ms.filterMap (Mutation.stakePeriodOf id)).getLast? <;>
        simp [List.getLast?_cons, hlast]

end Ledger

end LedgerProjection
