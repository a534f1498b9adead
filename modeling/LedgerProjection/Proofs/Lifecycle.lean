import LedgerProjection.Proofs.EntityRows

/-!
## Lifecycle flags follow the last operation

An entity's deletion flag and creation time are set in one place: the template stamps a
record's main entity for its kind's operation (created, updated or deleted, valid from the
record's time) and hands it to the kind's entity effects, which write it once and leave the
stamps alone. A record does so when its kind has an operation, its main entity is known (not
`0.0.0`) and it succeeded: that is its lifecycle event (`RecordItem.lifecycleEvent`).

* `Mutation.lifecycle?`: the stamps a row sets on an entity's lifecycle. Only the template's
  row sets any (`Handler.Satisfies.run_lifecycle`, `Projection.process_lifecycle`): every other row a
  record writes is of another kind, a signer's nonce, or a balance change.
* `Ledger.lifecycle_receive`: in a fresh ledger, a lifecycle field holds, in the current
  version of an entity, the last value the entity's lifecycle rows gave it.
* `projectEach_lifecycle_flags`: over a run of records that all finish, each record writes
  exactly the stamps of its event, and the current version of every entity carries the deletion
  flag of its last event (`none` without one) and the time of its last creation.
-/

namespace LedgerProjection

open Mutation Projection

/-! ### Rows that set a lifecycle field -/

/-- An entity row's stamps, kept when they set its deletion flag or its creation time. -/
def Entity.lifecycle? (s : Entity) : Option Entity :=
  if s.deleted.isSome || s.createdTimestamp.isSome then some s else none

/-- The stamps a row sets on an entity's lifecycle: those of an entity row with a deletion flag
or a creation time. -/
def Mutation.lifecycle? (m : Mutation) : Option Entity := m.stamps?.bind Entity.lifecycle?

theorem Mutation.SideRow.lifecycle?_eq_none {m : Mutation} (h : m.SideRow) :
    m.lifecycle? = none := by
  cases m
  case entity e =>
    simp only [SideRow] at h
    rw [h]
    rfl
  all_goals rfl

/-- A field read through the stamps that only a lifecycle row can set. -/
def Entity.LifecycleField {β : Type} (get : Entity → Option β) : Prop :=
  ∀ e : Entity, (e.stamps.lifecycle?).bind get = get e

theorem Entity.lifecycleField_deleted : Entity.LifecycleField Entity.deleted := by
  intro e
  unfold Entity.lifecycle?
  cases hd : e.deleted <;> cases hc : e.createdTimestamp <;> simp [hd, hc]

theorem Entity.lifecycleField_createdTimestamp : Entity.LifecycleField Entity.createdTimestamp := by
  intro e
  unfold Entity.lifecycle?
  cases hd : e.deleted <;> cases hc : e.createdTimestamp <;> simp [hd, hc]

/-! ### Lifecycle events -/

/-- What a record does to the lifecycle of its main entity. -/
structure LifecycleEvent where
  id : EntityId
  operation : EntityOperation
  timestamp : Int
deriving DecidableEq, Repr

namespace LifecycleEvent

/-- The stamps the template writes for an event. -/
def stamp (ev : LifecycleEvent) : Entity := ev.operation.stamp ev.id ev.timestamp

@[simp] theorem stamp_id (ev : LifecycleEvent) : ev.stamp.id = ev.id := by
  cases ev with
  | mk id op ts => cases op <;> rfl

theorem stamp_deleted {ev : LifecycleEvent} (h : ev.operation ≠ .none) :
    ev.stamp.deleted = some (decide (ev.operation = .delete)) := by
  cases ev with
  | mk id op ts => cases op <;> first | exact absurd rfl h | rfl

theorem stamp_createdTimestamp (ev : LifecycleEvent) :
    ev.stamp.createdTimestamp = if ev.operation = .create then some ev.timestamp else none := by
  cases ev with
  | mk id op ts => cases op <;> rfl

/-- The template's row sets the lifecycle with its own stamps. -/
theorem lifecycle?_stamp (ev : LifecycleEvent) (h : ev.operation ≠ .none) :
    ev.stamp.stamps.lifecycle? = some ev.stamp := by
  cases ev with
  | mk id op ts => cases op <;> first | exact absurd rfl h | rfl

end LifecycleEvent

/-- The lifecycle event of a record under handler `h`, from the context `c` it starts in: its
main entity and the kind's operation, unless the kind has none, the main entity is unresolved
or the record failed. -/
def Handler.lifecycleEvent (h : Handler) (c : Ctx) (item : RecordItem) : Option LifecycleEvent :=
  if h.operation = .none || (h.mainEntity c item).isEmpty || !item.isSuccessful then none
  else some ⟨h.mainEntity c item, h.operation, item.consensusTimestamp⟩

theorem Handler.lifecycleEvent_operation {h : Handler} {c : Ctx} {item : RecordItem}
    {ev : LifecycleEvent} (hev : h.lifecycleEvent c item = some ev) : ev.operation ≠ .none := by
  unfold Handler.lifecycleEvent at hev
  split at hev
  · cases hev
  · next hc =>
    cases hev
    intro hop
    apply hc
    simp only at hop
    simp [hop]

/-- The lifecycle event of a record projected into `sink`. -/
def RecordItem.lifecycleEvent (props : Properties) (via : ResolverKind) (sink : Sink)
    (item : RecordItem) : Option LifecycleEvent :=
  (Handler.ofBody item.body).lifecycleEvent (Ctx.start props via sink item) item

/-! ### A record sets the lifecycle once -/

namespace Handler

variable {h : Handler} {item : RecordItem}

/-- The template writes the stamps of the record's event and no other lifecycle field. -/
theorem Satisfies.run_lifecycle (hr : h.Satisfies (Logic.keeps SideRow) MainLogic.stampsOnce item)
    {c c' : Ctx} {tx : Transaction} (hrun : (h.run item).run c = .ok tx c') :
    ∃ ms, c.Delivers ms c' ∧
      ms.filterMap Mutation.lifecycle? = ((h.lifecycleEvent c item).map LifecycleEvent.stamp).toList := by
  unfold Handler.run at hrun
  obtain ⟨c₀, c₁, h₀, h₁⟩ := run_bind_eq_ok hrun
  -- reading the context leaves it as it is
  cases h₀
  refine (?_ : Traces Mutation.lifecycle? ((h.lifecycleEvent c item).map LifecycleEvent.stamp).toList
    _) h₁
  dsimp only
  have quiet {α : Type} {x : Projection α} (hx : Keeps SideRow x) : Traces Mutation.lifecycle? [] x :=
    Traces.of_keeps (hx.mono fun _ hm => hm.lifecycle?_eq_none)
  -- the main entity, the payer and the node are touched, then the transaction-level effects
  -- run; every branch then goes on alike
  split
  on_goal 1 => refine Traces.nil_bind (quiet (Keeps.track _)) fun _ => ?_
  all_goals
    refine Traces.nil_bind (quiet (Keeps.track _)) fun _ => ?_
    split
    on_goal 1 => refine Traces.nil_bind (quiet (Keeps.track _)) fun _ => ?_
    all_goals
      refine Traces.nil_bind (quiet (hr.onTransaction _)) fun _ => ?_
      split
      · next hc =>
        rw [lifecycleEvent, if_pos hc]
        exact Traces.of_keeps (Keeps.pure _)
      · next hc =>
        rw [lifecycleEvent, if_neg hc]
        -- the entity effects write one row with the stamps, which set the lifecycle
        have hop : h.operation ≠ .none := fun hop => hc (by simp [hop])
        have hs : (h.operation.stamp (h.mainEntity c item) item.consensusTimestamp).stamps.lifecycle? =
            some (h.operation.stamp (h.mainEntity c item) item.consensusTimestamp) :=
          LifecycleEvent.lifecycle?_stamp ⟨_, _, item.consensusTimestamp⟩ hop
        have he := (hr.onEntity (isSuccessful_of_runs hc)
          (h.operation.stamp (h.mainEntity c item) item.consensusTimestamp)).map Entity.lifecycle?
        rw [List.filterMap_cons_some hs, List.filterMap_nil] at he
        exact Traces.bind_nil he fun _ => Traces.of_keeps (Keeps.pure _)

end Handler

namespace Projection

/-- Every row a record writes after its handler leaves the lifecycle alone: the balance changes
carry nothing but a balance and its time, and the rest are rows of other kinds. -/
theorem lifecycle_phaseGrants (item : RecordItem) :
    PhaseGrants (Logic.keeps fun m => m.lifecycle? = none) item where
  result _ := Logic.keeps_holds_emit rfl
  log _ _ := Logic.keeps_holds_emit rfl
  stateChange _ := Logic.keeps_holds_emit rfl
  nft _ _ _ := Logic.keeps_holds_emit rfl
  hbar _ _ _ _ := Logic.keeps_holds_emit rfl
  tokenBalance _ _ _ _ := Logic.keeps_holds_emit rfl
  transaction _ := Logic.keeps_holds_emit rfl
  sum {α} o _ := Keeps.fail (α := α) o

/-- Every row a record writes after its handler leaves the lifecycle alone. -/
theorem tail_lifecycle (item : RecordItem) (tx : Transaction) :
    Traces Mutation.lifecycle? [] (do
      recordContractResult (Handler.ofBody item.body).adjustResult item
        (tx.entityId.getD EntityId.empty)
      applyAutomaticAssociations item
      applyNftTransfers item
      applyBalanceChanges item
      emit (.transaction tx)
      return tx) :=
  Traces.of_keeps (phases_holds (L := Logic.keeps fun m => m.lifecycle? = none)
    (fun _ _ _ _ => Keeps.bind (Keeps.tokenKeys _) fun _ => Keeps.emit rfl)
    (lifecycle_phaseGrants item) _ tx)

/-- A record's projection that returns wrote the stamps of its event and no other lifecycle
field. -/
theorem process_lifecycle {item : RecordItem} {c c' : Ctx} {tx : Transaction}
    (h : (process item).run c = .ok tx c') :
    ∃ ms, c.Delivers ms c' ∧ ms.filterMap Mutation.lifecycle? =
      (((Handler.ofBody item.body).lifecycleEvent c item).map LifecycleEvent.stamp).toList := by
  unfold process at h
  obtain ⟨tx₀, c₁, h₁, h₂⟩ := run_bind_eq_ok h
  obtain ⟨ms, d, hms⟩ := (Handler.satisfies_entityRows item).run_lifecycle h₁
  obtain ⟨ms', d', hms'⟩ := tail_lifecycle item tx₀ h₂
  exact ⟨ms ++ ms', d.trans d', by rw [List.filterMap_append, hms, hms', List.append_nil]⟩

end Projection

/-- A record that the projection finishes delivered rows that the ledger accepted, and among
them the stamps of its lifecycle event are the only lifecycle fields set. -/
theorem projectRecord_lifecycle {props : Properties} {via : ResolverKind} {sink : Sink}
    {item : RecordItem} {tx : Transaction} {ms : List Mutation} {touched : List EntityId}
    (h : (projectRecord props via sink item).2 = .done tx ms touched) :
    sink.ledger.Accepts ms ∧
      (projectRecord props via sink item).1.ledger = sink.ledger.receive ms ∧
      ms.filterMap Mutation.lifecycle? =
        ((item.lifecycleEvent props via sink).map LifecycleEvent.stamp).toList := by
  unfold projectRecord at h ⊢
  rcases hrun : (Projection.process item).run (Ctx.start props via sink item) with
    ⟨tx', c⟩ | ⟨f, c⟩ <;> rw [hrun] at h <;> dsimp only at h ⊢
  · obtain ⟨-, rfl, -⟩ := Outcome.done.inj h
    obtain ⟨ms, d, hms⟩ := Projection.process_lifecycle hrun
    rw [d.emitted_start, List.reverse_reverse]
    exact ⟨d.accepts, d.ledger, hms⟩
  · cases h

/-! ### The current version of an entity -/

theorem Entity.overwriteField_deleted : HistoryTable.OverwriteField Entity.deleted :=
  fun c u => Merged.withBalance_row (fun r : Entity => r.deleted = u.deleted.or c.deleted) rfl
    fun _ => rfl

theorem Entity.overwriteField_createdTimestamp :
    HistoryTable.OverwriteField Entity.createdTimestamp :=
  fun c u => Merged.withBalance_row
    (fun r : Entity => r.createdTimestamp = u.createdTimestamp.or c.createdTimestamp) rfl
    fun _ => rfl

theorem Entity.lifecycle?_eq_some {s s' : Entity} (h : s.lifecycle? = some s') : s' = s := by
  unfold Entity.lifecycle? at h
  split at h
  · exact (Option.some.inj h).symm
  · cases h

namespace Ledger

variable {ms : List Mutation}

/-- In a fresh ledger that accepted `ms`, a field of the current version of a key that merges
overwrite holds the last value the key's rows gave it. -/
theorem overwrite_receive (hacc : ({} : Ledger).Accepts ms) {f : Family} {β : Type}
    {get : f.Row → Option β} (hget : HistoryTable.OverwriteField get)
    (hstrip : ∀ r, get (HistoryTable.strip r) = get r) (k : RowKey) :
    ((f.table (({} : Ledger).receive ms)).current? k).bind get =
      ((HistoryTable.updatesOf k (ms.filterMap f.row?)).filterMap get).getLast? := by
  rcases foldSnapshots_receive hacc f k with ⟨hh, hu⟩ | ⟨⟨cur, F, hcur, hF, hs⟩, -⟩
  · rw [hu, HistoryTable.current?, hh]
    rfl
  · rw [HistoryTable.current?, hcur, Option.bind_some, ← hstrip cur, hs, hstrip,
      hF.overwrite get hget]

/-- Reading a field over the rows of a key among the mutations is reading, over the mutations, a
field `g` that gives each mutation the value of the row it carries for that key. -/
theorem filterMap_updatesOf {f : Family} {k : RowKey} {β : Type} {get : f.Row → Option β}
    {g : Mutation → Option β}
    (hg : ∀ m, ((f.row? m).filter fun u => Versioned.key u = k).bind get = g m) :
    ∀ ms : List Mutation,
      (HistoryTable.updatesOf k (ms.filterMap f.row?)).filterMap get = ms.filterMap g
  | [] => rfl
  | m :: ms => by
    have ih := filterMap_updatesOf hg ms
    rw [List.filterMap_cons, List.filterMap_cons (f := g), ← hg m]
    cases f.row? m with
    | none => exact ih
    | some u =>
      by_cases hk : Versioned.key u = k
      · simp only [HistoryTable.updatesOf, List.filter_cons, hk, decide_true, if_true,
          Option.filter_some, Option.bind_some] at ih ⊢
        rw [List.filterMap_cons, ih]
      · simp only [HistoryTable.updatesOf, List.filter_cons, hk, decide_false,
          Bool.false_eq_true, if_false, Option.filter_some, Option.bind_none] at ih ⊢
        exact ih

/-- In a fresh ledger that accepted `ms`, a lifecycle field of the current version of an entity
holds the last value the lifecycle rows of the entity gave it. -/
theorem lifecycle_receive (hacc : ({} : Ledger).Accepts ms) {β : Type} {get : Entity → Option β}
    (hover : HistoryTable.OverwriteField get) (hstrip : ∀ r, get (HistoryTable.strip r) = get r)
    (hget : Entity.LifecycleField get) (a : EntityId) :
    ((({} : Ledger).receive ms).entities.current? [.id a]).bind get =
      (((ms.filterMap Mutation.lifecycle?).filter (·.id = a)).filterMap get).getLast? := by
  refine (overwrite_receive hacc (f := .entity) hover hstrip [.id a]).trans ?_
  rw [List.filter_filterMap, List.filterMap_filterMap]
  congr 1
  refine @filterMap_updatesOf .entity [.id a] β get _ (fun m => ?_) ms
  cases m
  case entity e =>
    show ((some e).filter fun u => [KeyPart.id u.id] = [.id a]).bind get =
      ((e.stamps.lifecycle?).filter (·.id = a)).bind get
    cases hs : e.stamps.lifecycle? with
    | none =>
      -- a row that sets no lifecycle field gives the field no value
      have hnone : get e = none := by rw [← hget e, hs]; rfl
      by_cases hid : e.id = a <;> simp [hid, hnone]
    | some s =>
      obtain rfl := Entity.lifecycle?_eq_some hs
      have hval : get e.stamps = get e := by rw [← hget e, hs]; rfl
      by_cases hid : e.id = a <;> simp [Option.filter_some, hid, hval]
  all_goals rfl

end Ledger

/-! ### Runs of records -/

namespace LifecycleEvent

variable {evs : List LifecycleEvent}

/-- The stamps of the events of one entity are the stamps of the entity's rows. -/
theorem filter_stamp (e : EntityId) :
    (evs.map stamp).filter (·.id = e) = (evs.filter (·.id = e)).map stamp := by
  rw [List.filter_map]
  congr 1
  exact List.filter_congr fun ev _ => by simp

/-- The deletion flags the stamps of events set, over those of one entity, read last first. -/
theorem deleted_of_stamps (hop : ∀ ev ∈ evs, ev.operation ≠ .none) (e : EntityId) :
    (((evs.map stamp).filter (·.id = e)).filterMap Entity.deleted).getLast? =
      (evs.filter (·.id = e)).getLast?.map fun ev => decide (ev.operation = .delete) := by
  -- every stamp sets the flag, to whether its event deletes
  have hflags : ((evs.filter (·.id = e)).map stamp).filterMap Entity.deleted =
      (evs.filter (·.id = e)).map fun ev => decide (ev.operation = .delete) := by
    rw [List.filterMap_map, ← List.filterMap_eq_map]
    exact List.filterMap_congr fun ev hev => stamp_deleted (hop ev (List.mem_of_mem_filter hev))
  rw [filter_stamp, hflags, List.getLast?_map]

/-- The creation times the stamps of events set, over those of one entity, read last first. -/
theorem createdTimestamp_of_stamps (e : EntityId) :
    (((evs.map stamp).filter (·.id = e)).filterMap Entity.createdTimestamp).getLast? =
      (evs.filter fun ev => ev.id = e ∧ ev.operation = .create).getLast?.map (·.timestamp) := by
  -- only the stamps of creations set a time, their own
  have htimes : ∀ l : List LifecycleEvent, (l.map stamp).filterMap Entity.createdTimestamp =
      (l.filter (·.operation = .create)).map (·.timestamp) := by
    intro l
    induction l with
    | nil => rfl
    | cons ev l ih =>
      rw [List.map_cons, List.filterMap_cons, stamp_createdTimestamp, ih]
      by_cases hc : ev.operation = .create <;> simp [hc]
  rw [filter_stamp, htimes, List.getLast?_map, List.filter_filter]
  congr 2
  exact List.filter_congr fun ev _ => by rw [Bool.and_comm, Bool.decide_and]

end LifecycleEvent

/-- The lifecycle events of a run of records, one for each record, each read in the sink the
records before it left. -/
def Sink.lifecycleEvents (props : Properties) (via : ResolverKind) :
    Sink → List RecordItem → List (Option LifecycleEvent)
  | _, [] => []
  | s, item :: rest =>
    item.lifecycleEvent props via s ::
      (projectRecord props via s item).1.lifecycleEvents props via rest

section Runs

variable (props : Properties) (via : ResolverKind)

/-- Every event of a run has an operation. -/
theorem Sink.lifecycleEvents_operation :
    ∀ (s : Sink) (items : List RecordItem),
      ∀ ev ∈ (s.lifecycleEvents props via items).filterMap id, ev.operation ≠ .none
  | _, [] => by simp [Sink.lifecycleEvents]
  | s, item :: rest => by
    intro ev hev
    rw [Sink.lifecycleEvents, List.filterMap_cons] at hev
    cases hi : item.lifecycleEvent props via s with
    | none =>
      rw [hi] at hev
      exact Sink.lifecycleEvents_operation _ rest ev hev
    | some ev' =>
      rw [hi] at hev
      rcases List.mem_cons.1 hev with rfl | hev
      · exact Handler.lifecycleEvent_operation hi
      · exact Sink.lifecycleEvents_operation _ rest ev hev

/-- A run whose records all finish delivered rows that the ledger accepted, in which each record
set the lifecycle with the stamps of its event only. -/
theorem projectEach_lifecycle :
    ∀ (sink : Sink) (items : List RecordItem),
      (∀ o ∈ (sink.projectEach props via items).1, o.finished = true) →
      ∃ ms, sink.ledger.Accepts ms ∧
        (sink.projectEach props via items).2.ledger = sink.ledger.receive ms ∧
        ms.filterMap Mutation.lifecycle? =
          ((sink.lifecycleEvents props via items).filterMap id).map LifecycleEvent.stamp ∧
        ∀ p ∈ (sink.projectEach props via items).1.zip (sink.lifecycleEvents props via items),
          p.1.mutations.filterMap Mutation.lifecycle? = (p.2.map LifecycleEvent.stamp).toList
  | sink, [], _ => ⟨[], trivial, rfl, rfl, by simp [Sink.lifecycleEvents]⟩
  | sink, item :: rest, hdone => by
    obtain ⟨tx, ms, touched, hd⟩ := Outcome.finished_iff.1 (hdone _ (List.mem_cons_self ..))
    obtain ⟨hacc, hl, hlife⟩ := projectRecord_lifecycle hd
    obtain ⟨ms', hacc', hl', hlife', hrecs⟩ :=
      projectEach_lifecycle (projectRecord props via sink item).1 rest fun o ho =>
        hdone o (List.mem_cons_of_mem _ (by simpa using ho))
    refine ⟨ms ++ ms', Ledger.accepts_append.2 ⟨hacc, hl ▸ hacc'⟩, ?_, ?_, ?_⟩
    · rw [Sink.projectEach_cons, hl', hl, Ledger.receive_append]
    · rw [List.filterMap_append, hlife, hlife', Sink.lifecycleEvents, List.filterMap_cons]
      cases item.lifecycleEvent props via sink <;> rfl
    · intro p hp
      rw [Sink.projectEach_cons, Sink.lifecycleEvents, List.zip_cons_cons, List.mem_cons] at hp
      rcases hp with rfl | hp
      · rw [hd]
        exact hlife
      · exact hrecs p hp

/-- Projecting records into a fresh ledger, each of them finishing, sets the lifecycle of
entities only through the template: each record sets exactly the stamps of its lifecycle event
(its main entity, stamped for its kind's operation and valid from its time), and none when it
has no event. So the current version of every entity carries the deletion flag of the last
event of that entity (`true` for a deletion, `false` for a creation or an update, `none` without
an event), and the time of the last event that created it (`none` without one). -/
theorem projectEach_lifecycle_flags (sink : Sink) (hfresh : sink.ledger = {})
    (items : List RecordItem)
    (hdone : ∀ o ∈ (sink.projectEach props via items).1, o.finished = true) :
    (∀ p ∈ (sink.projectEach props via items).1.zip (sink.lifecycleEvents props via items),
        p.1.mutations.filterMap Mutation.lifecycle? = (p.2.map LifecycleEvent.stamp).toList) ∧
      ∀ e : EntityId,
        ((sink.projectEach props via items).2.ledger.entities.current? [.id e]).bind
            (·.deleted) =
          (((sink.lifecycleEvents props via items).filterMap id).filter (·.id = e)).getLast?.map
            (fun ev => decide (ev.operation = .delete)) ∧
        ((sink.projectEach props via items).2.ledger.entities.current? [.id e]).bind
            (·.createdTimestamp) =
          (((sink.lifecycleEvents props via items).filterMap id).filter
            fun ev => ev.id = e ∧ ev.operation = .create).getLast?.map (·.timestamp) := by
  obtain ⟨ms, hacc, hl, hlife, hrecs⟩ := projectEach_lifecycle props via sink items hdone
  rw [hfresh] at hacc hl
  refine ⟨hrecs, fun e => ⟨?_, ?_⟩⟩
  · rw [hl, Ledger.lifecycle_receive hacc Entity.overwriteField_deleted (fun _ => rfl)
      Entity.lifecycleField_deleted, hlife]
    exact LifecycleEvent.deleted_of_stamps (Sink.lifecycleEvents_operation props via sink items) e
  · rw [hl, Ledger.lifecycle_receive hacc Entity.overwriteField_createdTimestamp (fun _ => rfl)
      Entity.lifecycleField_createdTimestamp, hlife]
    exact LifecycleEvent.createdTimestamp_of_stamps e

/-- An account created at time 10, updated at 20 and deleted at 30. -/
def createUpdateDelete : List RecordItem :=
  [{ consensusTimestamp := 10, payerAccountId := ⟨0, 0, 2⟩, body := .cryptoCreate {},
     receipt := { status := ⟨22⟩, accountId := some ⟨0, 0, 1001⟩ } },
   { consensusTimestamp := 20, payerAccountId := ⟨0, 0, 2⟩,
     body := .cryptoUpdate { account := some (.id ⟨0, 0, 1001⟩) }, receipt := { status := ⟨22⟩ } },
   { consensusTimestamp := 30, payerAccountId := ⟨0, 0, 2⟩,
     body := .cryptoDelete { account := some (.id ⟨0, 0, 1001⟩) }, receipt := { status := ⟨22⟩ } }]

theorem projectEach_lifecycle_flags_createUpdateDelete :
    ({} : Sink).ledger = {} ∧
      (∀ o ∈ (({} : Sink).projectEach {} .memory createUpdateDelete).1, o.finished = true) ∧
      (∀ p ∈ (({} : Sink).projectEach {} .memory createUpdateDelete).1.zip
          (({} : Sink).lifecycleEvents {} .memory createUpdateDelete),
        p.1.mutations.filterMap Mutation.lifecycle? = (p.2.map LifecycleEvent.stamp).toList) ∧
      ∀ e : EntityId,
        ((({} : Sink).projectEach {} .memory createUpdateDelete).2.ledger.entities.current?
            [.id e]).bind (·.deleted) =
          (((({} : Sink).lifecycleEvents {} .memory createUpdateDelete).filterMap id).filter
            (·.id = e)).getLast?.map (fun ev => decide (ev.operation = .delete)) ∧
        ((({} : Sink).projectEach {} .memory createUpdateDelete).2.ledger.entities.current?
            [.id e]).bind (·.createdTimestamp) =
          (((({} : Sink).lifecycleEvents {} .memory createUpdateDelete).filterMap id).filter
            fun ev => ev.id = e ∧ ev.operation = .create).getLast?.map (·.timestamp) :=
  have hdone : ∀ o ∈ (({} : Sink).projectEach {} .memory createUpdateDelete).1,
      o.finished = true :=
    List.all_eq_true.1 (by decide +kernel)
  ⟨rfl, hdone, projectEach_lifecycle_flags {} .memory {} rfl createUpdateDelete hdone⟩

end Runs

end LedgerProjection
