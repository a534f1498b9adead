import LedgerProjection.Proofs.Staking
import LedgerProjection.Proofs.Conservation

/-!
# Staking elections over a run of records

Every run of records from an empty ledger leaves every version of every entity with a single
staking target (`Entity.SingleTarget`: an account other than `0.0.0` comes with the node `-1`, a
node other than `-1` with the account `0.0.0`), and the current version of an entity with the
stake period that starts on the day of the last record whose accepted rows elect a staking for
it, if one did (`projectEach_staking_elections`).

The rows a record emits keep this (`Mutation.WellElected`): their entity rows are elected at the
record's time (`Projection.process_wellElected`, an instance of the handler walk), start a
stake period only without moving a balance (the handlers' rows are quiet, and the balance rows
elect nothing), and hold 64-bit balances (the per-record hbar sums are checked).
Over 64-bit balances the ledger never refuses such a row for an overflow when it starts a period,
so a refused row leaves every stake period as it was.
-/

namespace LedgerProjection

open Mutation

/-! ### Two kept properties at once -/

namespace Ctx

variable {P Q : Mutation → Prop} {c c₁ c₂ c' : Ctx} {ms ms' : List Mutation}

/-- Two deliveries from one state to states that emitted alike delivered the same rows. -/
theorem Delivers.eq_of_emitted (h : c.Delivers ms c₁) (h' : c.Delivers ms' c₂)
    (he : c₁.emitted = c₂.emitted) : ms = ms' := by
  rw [h.emitted, h'.emitted] at he
  exact List.reverse_injective (List.append_cancel_right he)

theorem Grows.and (h : c.Grows P c') (h' : c.Grows Q c') : c.Grows (fun m => P m ∧ Q m) c' := by
  obtain ⟨ms, hms, hd⟩ := h
  obtain ⟨ms', hms', hd'⟩ := h'
  cases hd.eq_of_emitted hd' rfl
  exact ⟨ms, fun m hm => ⟨hms m hm, hms' m hm⟩, hd⟩

theorem Halts.and {f : Failure} (h : c.Halts P f c') (h' : c.Halts Q f c') :
    c.Halts (fun m => P m ∧ Q m) f c' := by
  cases f with
  | overflow o => exact Grows.and h h'
  | refused r =>
    obtain ⟨c₁, m, ⟨ms, hms, hd⟩, hm, he, ha⟩ := h
    obtain ⟨c₂, m', ⟨ms', hms', hd'⟩, hm', he', -⟩ := h'
    -- the refused row heads what was emitted, after the same accepted rows
    obtain ⟨rfl, he₁⟩ := List.cons.inj (he.symm.trans he')
    cases hd.eq_of_emitted hd' he₁
    exact ⟨c₁, m, ⟨ms, fun x hx => ⟨hms x hx, hms' x hx⟩, hd⟩, ⟨hm, hm'⟩, he, ha⟩

end Ctx

namespace Projection

variable {α β : Type} {P Q : Mutation → Prop}

theorem Keeps.and {x : Projection α} (hP : Keeps P x) (hQ : Keeps Q x) :
    Keeps (fun m => P m ∧ Q m) x := by
  intro c
  have hp := hP c
  have hq := hQ c
  rcases hr : x.run c with ⟨a, c'⟩ | ⟨f, c'⟩ <;> rw [hr] at hp hq
  · exact hp.and hq
  · exact hp.and hq

end Projection

/-! ### Rows that keep the elections -/

namespace Mutation

variable {ts : Int} {m : Mutation}

/-- A row that keeps a ledger's elections: its entity row, if any, is elected at `ts`, starts a
stake period only without moving a balance, and holds a 64-bit balance. -/
def WellElected (ts : Int) (m : Mutation) : Prop :=
  m.ElectedAt ts ∧ m.StartsQuietly ∧ m.OnEntity Entity.BalanceInRange

theorem NonEntity.wellElected (h : m.NonEntity) : m.WellElected ts := by
  cases m
  case entity => exact h.elim
  all_goals exact ⟨trivial, trivial, trivial⟩

/-- A quiet row elected at `ts` keeps the elections: it moves no balance at all. -/
theorem Quiet.wellElected (he : m.ElectedAt ts) (hq : m.Quiet ts) : m.WellElected ts := by
  cases m
  case entity e =>
    have hb : e.balance.getD 0 = 0 := hq.2
    refine ⟨he, fun _ => hb, fun b hb' => ?_⟩
    rw [show e.balance = some b from hb'] at hb
    rw [show b = 0 from hb]
    decide
  all_goals exact ⟨trivial, trivial, trivial⟩

end Mutation

namespace Balances

variable {κ : Type} {cmp : κ → κ → Ordering} {m m' : SortedMap κ Int}

/-- Every sum a map holds is a 64-bit integer. -/
def InRange (m : SortedMap κ Int) : Prop := ∀ e ∈ m.entries, I64.InRange e.2

theorem inRange_empty : InRange ({} : SortedMap κ Int) := by
  intro e he
  cases he

theorem InRange.add {k : κ} {d : Int} (hm : InRange m) (h : add cmp m k d = .ok m') :
    InRange m' := by
  obtain ⟨s, hs, h⟩ := Except.bind_eq_ok.1 h
  cases h
  intro e he
  rcases SortedMap.mem_insert he with rfl | he
  · obtain ⟨hr, rfl⟩ := (I64.checkedAdd_ok_iff _ _ _).1 hs
    exact hr
  · exact hm e he

/-- A fold whose every step keeps the sums in range ends with sums in range. -/
theorem InRange.foldlM {γ : Type}
    {step : SortedMap κ Int → γ → Except Overflow (SortedMap κ Int)}
    (hstep : ∀ m m' x, InRange m → step m x = .ok m' → InRange m') :
    ∀ {xs : List γ} {m m' : SortedMap κ Int}, InRange m → xs.foldlM step m = .ok m' → InRange m'
  | [], _, _, hm, h => by
    cases h
    exact hm
  | x :: xs, _, _, hm, h => by
    rw [List.foldlM_cons, Except.bind_eq_ok] at h
    obtain ⟨m₁, h₁, h₂⟩ := h
    exact InRange.foldlM hstep (hstep _ _ x hm h₁) h₂

/-- The hbar changes of a record are 64-bit integers: they are checked sums. -/
theorem hbar_inRange {transfers : List AccountAmount} {H : SortedMap EntityId Int}
    (h : hbar transfers = .ok H) : InRange H := by
  refine InRange.foldlM (fun m m' x hm hx => ?_) inRange_empty h
  split at hx
  · cases hx
    exact hm
  · exact hm.add hx

end Balances

/-! ### The rows of a record -/

namespace Projection

variable (item : RecordItem)

/-- Every row a handler writes keeps the elections: it is quiet and elected at the record's time,
and so is the main row of an entity elected and stamped at that time. -/
theorem wellElected_grants :
    Handler.Grants (Logic.keeps (WellElected item.consensusTimestamp))
      ((Logic.keeps (WellElected item.consensusTimestamp)).main fun e =>
        e.ElectedAt item.consensusTimestamp ∧ e.StampedAt item.consensusTimestamp) item where
  row _ hm := Keeps.emit (hm.quiet.wellElected hm.electedAt)
  entityRow _ _ _ hn := Keeps.emit hn.wellElected
  main _ _ _ he hE := Keeps.emit ((he.quiet hE.2.1 hE.2.2).wellElected (he.electedAt hE.1))
  associate _ _ _ _ _ := Keeps.bind (Keeps.tokenKeys _) fun _ => Keeps.emit ⟨trivial, trivial, trivial⟩
  syntheticLog _ _ _ := Keeps.bind Keeps.nextLogIndex fun _ => Keeps.emit ⟨trivial, trivial, trivial⟩

/-- The rows after a handler elect nothing, and the balance rows carry the record's checked hbar
sums. -/
theorem wellElected_phaseGrants : PhaseGrants (Logic.keeps (WellElected item.consensusTimestamp)) item where
  result _ := Logic.keeps_holds_emit ⟨trivial, trivial, trivial⟩
  log _ _ := Logic.keeps_holds_emit ⟨trivial, trivial, trivial⟩
  stateChange _ := Logic.keeps_holds_emit ⟨trivial, trivial, trivial⟩
  nft _ _ _ := Logic.keeps_holds_emit ⟨trivial, trivial, trivial⟩
  hbar _ hH e he := Logic.keeps_holds_emit ⟨Entity.electedAt_of_none rfl rfl rfl rfl,
    (fun h => nomatch h), fun b hb => by
      cases hb
      exact Balances.hbar_inRange hH e he⟩
  tokenBalance _ _ _ _ := Logic.keeps_holds_emit ⟨trivial, trivial, trivial⟩
  transaction _ := Logic.keeps_holds_emit ⟨trivial, trivial, trivial⟩
  sum {α} o _ := Keeps.fail (α := α) o

/-- Every row a record emits keeps the elections. -/
theorem process_wellElected : Keeps (WellElected item.consensusTimestamp) (process item) :=
  process_holds (wellElected_grants item)
    (fun op id => ⟨op.stamp_electedAt id _ _, op.stamp_stampedAt id _⟩) (wellElected_phaseGrants item)

end Projection

/-! ### The stake periods a record leaves -/

namespace Mutation

variable {ts : Int} {m : Mutation}

/-- The entity an entity row elects a staking for, if it elects one. -/
def electedId? : Mutation → Option EntityId
  | .entity e => if e.elects then some e.id else none
  | _ => none

theorem ElectedAt.singleTarget (h : m.ElectedAt ts) : m.OnEntity Entity.SingleTarget := by
  cases m
  case entity e => exact h.1
  all_goals trivial

/-- A row elected at `ts` gives an entity the period of `ts` exactly when it elects a staking for
it. -/
theorem ElectedAt.stakePeriodOf (h : m.ElectedAt ts) (id : EntityId) :
    m.stakePeriodOf id = if m.electedId? = some id then some (Instant.epochDay ts) else none := by
  cases m
  case entity e =>
    have hs : e.stakePeriodStart = if e.elects then some (Instant.epochDay ts) else none := h.2
    simp only [stakePeriodOf, electedId?, hs]
    by_cases hid : e.id = id <;> by_cases he : e.elects <;> simp [hid, he]
  all_goals simp [stakePeriodOf, electedId?]

/-- Over rows elected at `ts`, the last stake period they give an entity is the period of `ts`,
when one of them elects a staking for it. -/
theorem getLast?_stakePeriodOf (id : EntityId) :
    ∀ {ms : List Mutation}, (∀ m ∈ ms, m.ElectedAt ts) →
      (ms.filterMap (stakePeriodOf id)).getLast? =
        if id ∈ ms.filterMap electedId? then some (Instant.epochDay ts) else none
  | [], _ => by simp
  | m :: ms, h => by
    have ih := getLast?_stakePeriodOf id fun x hx => h x (List.mem_cons_of_mem m hx)
    rw [List.filterMap_cons, List.filterMap_cons, (h m List.mem_cons_self).stakePeriodOf]
    by_cases hm : m.electedId? = some id
    · -- the row elects for `id`, and so the list has a last period, the same as the row's
      rw [if_pos hm, hm, List.getLast?_cons, ih]
      split <;> simp
    · rw [if_neg hm, ih]
      cases hm' : m.electedId? with
      | none => rfl
      | some x =>
        have hx : x ≠ id := fun hx => hm (hx ▸ hm')
        simp [hx.symm]

end Mutation

namespace Ledger

variable {l : Ledger} {ts : Int}

/-- Every version of every entity has a single staking target and a 64-bit balance. -/
structure WellElected (l : Ledger) : Prop where
  singleTarget : l.EveryEntity Entity.SingleTarget
  balanceInRange : l.EveryEntity Entity.BalanceInRange

theorem wellElected_empty : ({} : Ledger).WellElected :=
  ⟨everyEntity_empty _, everyEntity_empty _⟩

/-- Rows that keep the elections keep them in every version, whether the ledger accepts them or
not. -/
theorem WellElected.receive (h : l.WellElected) {ms : List Mutation}
    (hms : ∀ m ∈ ms, m.WellElected ts) : (l.receive ms).WellElected :=
  ⟨h.singleTarget.receive_singleTarget fun m hm => (hms m hm).1.singleTarget,
    h.balanceInRange.receive_balanceInRange fun m hm => (hms m hm).2.2⟩

/-- Through accepted rows elected at `ts`, an entity holds the period of `ts` when one of them
elects a staking for it, and the period it had otherwise. -/
theorem stakePeriod_receive_electedAt {ms : List Mutation} (hacc : l.Accepts ms)
    (hms : ∀ m ∈ ms, m.ElectedAt ts) (id : EntityId) :
    (l.receive ms).stakePeriod id =
      (if id ∈ ms.filterMap electedId? then some (Instant.epochDay ts) else none).or
        (l.stakePeriod id) := by
  rw [stakePeriod_receive hacc, getLast?_stakePeriodOf id hms]

end Ledger

namespace Outcome

variable {o : Outcome} {l l' : Ledger} {ts : Int}

/-- The rows of an outcome that the ledger accepted: all of them, but the last of a refusal. -/
def accepted : Outcome → List Mutation
  | .failed (.refused _) ms => ms.dropLast
  | o => o.mutations

/-- The entities whose staking the accepted rows of an outcome elect. -/
def electedIds (o : Outcome) : List EntityId := o.accepted.filterMap Mutation.electedId?

/-- An outcome of rows that keep the elections gives an entity the period of `ts` when its
accepted rows elect a staking for it, and leaves it the period it had otherwise. -/
theorem Delivered.stakePeriod (hd : o.Delivered (WellElected ts) l l') (hl : l.WellElected)
    (id : EntityId) :
    l'.stakePeriod id =
      (if id ∈ o.electedIds then some (Instant.epochDay ts) else none).or (l.stakePeriod id) := by
  rcases o with ⟨tx, ms, touched⟩ | ⟨r | o, ms⟩
  case failed.refused =>
    obtain ⟨hms, ms₁, m, rfl, hacc, happ⟩ := hd
    have hms₁ : ∀ x ∈ ms₁, x.WellElected ts := fun x hx => hms x (List.mem_append_left _ hx)
    have hm : m.WellElected ts := hms m (List.mem_append_right _ (List.mem_singleton_self m))
    -- the refused row leaves the periods as the accepted rows before it left them
    have hl₁ := hl.receive hms₁
    have hl' : l' = ((l.receive ms₁).apply m).1 := by rw [happ]
    rw [hl', Ledger.stakePeriod_apply_of_refused hl₁.balanceInRange hm.2.1 (by rw [happ]) id,
      Ledger.stakePeriod_receive_electedAt hacc (fun x hx => (hms₁ x hx).1) id]
    simp [electedIds, accepted]
  -- a finished record, and one stopped at an overflow, had every row accepted
  all_goals
    obtain ⟨hms, hacc, rfl⟩ := hd
    exact Ledger.stakePeriod_receive_electedAt hacc (fun m hm => (hms m hm).1) id

theorem Delivered.wellElected (hd : o.Delivered (WellElected ts) l l') (hl : l.WellElected) :
    l'.WellElected := by
  rw [hd.ledger_eq]
  exact hl.receive hd.forall

end Outcome

section Runs

variable (props : Properties) (via : ResolverKind)

/-- A record leaves the elections kept, and gives an entity the period of its time when its
accepted rows elect a staking for it. -/
theorem projectRecord_elections {sink : Sink} (hl : sink.ledger.WellElected) (item : RecordItem) :
    (projectRecord props via sink item).1.ledger.WellElected ∧
      ∀ id, (projectRecord props via sink item).1.ledger.stakePeriod id =
        (if id ∈ (projectRecord props via sink item).2.electedIds then
          some (Instant.epochDay item.consensusTimestamp) else none).or (sink.ledger.stakePeriod id) :=
  have hd := projectRecord_delivered (Projection.process_wellElected item) props via sink
  ⟨hd.wellElected hl, hd.stakePeriod hl⟩

/-- Over a run from a ledger that keeps the elections, an entity holds the period of the last
record whose accepted rows elect a staking for it, and the period it had when none does. -/
theorem projectEach_elections : ∀ (items : List RecordItem) (sink : Sink),
    sink.ledger.WellElected →
      (sink.projectEach props via items).2.ledger.WellElected ∧
        ∀ id, (sink.projectEach props via items).2.ledger.stakePeriod id =
          ((((items.zip (sink.projectEach props via items).1).filter fun r =>
              id ∈ r.2.electedIds).getLast?).map
            fun r => Instant.epochDay r.1.consensusTimestamp).or (sink.ledger.stakePeriod id)
  | [], sink, hl => ⟨hl, fun id => by simp⟩
  | item :: rest, sink, hl => by
    obtain ⟨hl₁, hstep⟩ := projectRecord_elections props via hl item
    obtain ⟨hl₂, hrest⟩ := projectEach_elections rest _ hl₁
    refine ⟨by simpa using hl₂, fun id => ?_⟩
    simp only [Sink.projectEach_cons, List.zip_cons_cons, List.filter_cons]
    rw [hrest, hstep]
    -- the record counts when its rows elect for `id`, unless a later record does too
    by_cases hin : id ∈ (projectRecord props via sink item).2.electedIds
    · simp only [hin, decide_true, if_true, List.getLast?_cons, Option.map_some, Option.some_or,
        Option.or_some]
      exact congrArg some (Option.getD_map (fun r : RecordItem × Outcome =>
        Instant.epochDay r.1.consensusTimestamp) (item, (projectRecord props via sink item).2) _)
    · simp [hin]

/-- Over every run from an empty ledger, staking targets exclude each other in every version of
every entity: an account other than `0.0.0` comes with the node `-1`, and a node other than `-1`
with the account `0.0.0`. The current version of an entity holds the stake period that starts on
the day of the last record whose accepted rows elect a staking for it, and none if no record
does. -/
theorem projectEach_staking_elections (sink : Sink) (hfresh : sink.ledger = {})
    (items : List RecordItem) :
    (∀ k, ∀ v ∈ (sink.projectEach props via items).2.ledger.entities.history k,
        (∀ a, v.stakedAccountId = some a → a ≠ EntityId.empty → v.stakedNodeId = some (-1)) ∧
        ∀ n, v.stakedNodeId = some n → n ≠ -1 → v.stakedAccountId = some EntityId.empty) ∧
      ∀ id, (sink.projectEach props via items).2.ledger.stakePeriod id =
        (((items.zip (sink.projectEach props via items).1).filter fun r =>
            id ∈ r.2.electedIds).getLast?).map fun r => Instant.epochDay r.1.consensusTimestamp := by
  have hl : sink.ledger.WellElected := hfresh ▸ Ledger.wellElected_empty
  obtain ⟨hl', hperiod⟩ := projectEach_elections props via items sink hl
  refine ⟨fun k v hv => ?_, fun id => ?_⟩
  · have hv := hl'.singleTarget k v hv
    exact ⟨fun a ha hne => hv.node_of_account ha hne, fun n hn hne => hv.account_of_node hn hne⟩
  · -- an empty ledger holds no period of its own
    rw [hperiod id, hfresh]
    exact Option.or_none

end Runs

/-- The creation of `0.0.1001` staked to node 3 at day 1, then its restaking to account `0.0.800`
at day 2. -/
def createThenRestake : List RecordItem :=
  [{ consensusTimestamp := 86400000000000, payerAccountId := ⟨0, 0, 2⟩,
     body := .cryptoCreate { stakedNodeId := some 3 },
     receipt := { status := ⟨22⟩, accountId := some ⟨0, 0, 1001⟩ } },
   { consensusTimestamp := 172800000000000, payerAccountId := ⟨0, 0, 2⟩,
     body :=
      .cryptoUpdate { account := some (.id ⟨0, 0, 1001⟩), stakedAccount := .set (.id ⟨0, 0, 800⟩) },
     receipt := { status := ⟨22⟩ } }]

theorem projectEach_staking_elections_createThenRestake :
    ({} : Sink).ledger = {} ∧
      (∀ k, ∀ v ∈ (({} : Sink).projectEach {} .memory createThenRestake).2.ledger.entities.history k,
        (∀ a, v.stakedAccountId = some a → a ≠ EntityId.empty → v.stakedNodeId = some (-1)) ∧
        ∀ n, v.stakedNodeId = some n → n ≠ -1 → v.stakedAccountId = some EntityId.empty) ∧
      ∀ id, (({} : Sink).projectEach {} .memory createThenRestake).2.ledger.stakePeriod id =
        (((createThenRestake.zip (({} : Sink).projectEach {} .memory createThenRestake).1).filter
            fun r => id ∈ r.2.electedIds).getLast?).map
          fun r => Instant.epochDay r.1.consensusTimestamp :=
  ⟨rfl, projectEach_staking_elections {} .memory {} rfl createThenRestake⟩

end LedgerProjection
