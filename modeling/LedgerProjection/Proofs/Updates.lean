import LedgerProjection.Proofs.CreationAssociations
import LedgerProjection.Proofs.Patches

/-!
## Updates write only what they set

A successful update writes, as its first row, the entity row `u.apply t (stamp id t)` of its
patch `u` (`TransactionBody.entityPatch?`): the bare stamped entity with exactly the set fields
populated, references resolved as the record starts. A token update then writes its token row,
and a topic update its topic row, exactly when it sets a token-level field or a key and the
ledger took the entity row; a node update writes its node row first. Merged over any previous
version, each of these rows leaves the previous version with the patch applied
(`Patches.lean`): nothing the update leaves unset changes.

* `EmitsThen`, continued: rows up to the first refusal, then rows of a property, composed with
  the exact emission of `EmitsFrom` and the quiet steps of `Steps`.
* `Handler.run_emitsThen`: the record template for kinds with an entity operation, and
  `Handler.nodeUpdate_run_emitsThen` for the node update's transaction-level row.
* One lemma per update kind for the rows of its handler; `Handler.entityUpdate_run_emitsThen`
  gathers the six entity kinds through `TransactionBody.entityPatch?_eq_some`.
* `projectRecord_of_emitsThen`: after the handler, no phase of a record writes a token, topic or
  node row, so a record's mutations are the handler's rows as the ledger takes them, then rows
  of none of these families.
* `UpdateRows`, proved of every successful record by `projectRecord_updateRows`.
-/

namespace LedgerProjection

/-- A row of none of the families an update writes beside its entity: no token, topic or node
row. -/
def Mutation.NoTokenTopicNode (m : Mutation) : Prop :=
  Family.token.row? m = none ∧ Family.topic.row? m = none ∧ Family.node.row? m = none

/-! ### Phases -/

namespace Projection

section Phases

variable {P : Mutation → Prop}

theorem emitFileData_keeps (item : RecordItem) (hd : ∀ d, P (.fileData d)) (file : EntityId)
    (contents : List UInt8) : Keeps P (Handler.emitFileData item file contents) :=
  emitFileData_holds (Logic.keeps P) (fun _ => Logic.keeps_holds_emit (hd _)) item file contents

variable (hh : ∀ r, P (.hook r)) (hs : ∀ s, P (.hookStorageChange s))
include hh hs

theorem createHooks_keeps (t : Int) (owner : EntityId) (details : List HookCreationDetails) :
    Keeps P (createHooks t owner details) :=
  createHooks_holds (Logic.keeps P) t (fun _ _ => Logic.keeps_holds_emit (hh _))
    (fun _ _ _ _ _ => Logic.keeps_holds_emit (hs _)) owner details

omit hs in
theorem deleteHooks_keeps (t : Int) (owner : EntityId) (hookIds : List Int) :
    Keeps P (deleteHooks t owner hookIds) :=
  deleteHooks_holds (Logic.keeps P) t (fun _ _ => Logic.keeps_holds_emit (hh _)) owner hookIds

end Phases

/-- The phases after a handler write no token, topic or node row. -/
theorem noTokenTopicNode_phaseGrants (item : RecordItem) :
    PhaseGrants (Logic.keeps Mutation.NoTokenTopicNode) item where
  result _ := Logic.keeps_holds_emit ⟨rfl, rfl, rfl⟩
  log _ _ := Logic.keeps_holds_emit ⟨rfl, rfl, rfl⟩
  stateChange _ := Logic.keeps_holds_emit ⟨rfl, rfl, rfl⟩
  nft _ _ _ := Logic.keeps_holds_emit ⟨rfl, rfl, rfl⟩
  hbar _ _ _ _ := Logic.keeps_holds_emit ⟨rfl, rfl, rfl⟩
  tokenBalance _ _ _ _ := Logic.keeps_holds_emit ⟨rfl, rfl, rfl⟩
  transaction _ := Logic.keeps_holds_emit ⟨rfl, rfl, rfl⟩
  sum {α} o _ := Keeps.fail (α := α) o

/-- After the handler, no phase of a record writes a token, topic or node row. -/
theorem process_rest_keeps (item : RecordItem) (h : Handler) (tx : Transaction) :
    Keeps Mutation.NoTokenTopicNode
      (recordContractResult h.adjustResult item (tx.entityId.getD EntityId.empty) >>= fun _ =>
        applyAutomaticAssociations item >>= fun _ => applyNftTransfers item >>= fun _ =>
        applyBalanceChanges item >>= fun _ => emit (.transaction tx) >>= fun _ => pure tx) :=
  phases_holds (L := Logic.keeps Mutation.NoTokenTopicNode)
    (fun _ _ _ _ => Keeps.bind (Keeps.tokenKeys _) fun _ => Keeps.emit ⟨rfl, rfl, rfl⟩)
    (noTokenTopicNode_phaseGrants item) h.adjustResult tx

/-! ### Resolving a patch -/

theorem run_resolveAndTrack (ref : Option EntityRef) (c : Ctx) :
    (resolveAndTrack ref).run c = .ok (c.resolveOrEmpty ref)
      (if (c.resolveOrEmpty ref).isEmpty then c
        else { c with touched := (c.resolveOrEmpty ref).insertSorted c.touched }) := by
  show (track (c.resolveOrEmpty ref) >>= fun _ => pure (c.resolveOrEmpty ref)).run c = _
  rw [run_bind, run_track]
  rfl

theorem run_resolvePatch (p : Patch EntityRef) (c : Ctx) :
    ∃ c', (resolvePatch p).run c = .ok (c.resolvePatch p).toOption c' := by
  cases p with
  | unset => exact ⟨c, rfl⟩
  | set ref =>
    exact ⟨_, show (resolveAndTrack (some ref) >>= fun id => pure (some id)).run c = _ by
      rw [run_bind, run_resolveAndTrack]; rfl⟩

/-- A resolved patch returns its value resolved in the state it starts from. -/
theorem resolvePatch_value {p : Patch EntityRef} {c c' : Ctx} {a : Option EntityId}
    (h : (resolvePatch p).run c = .ok a c') : a = (c.resolvePatch p).toOption := by
  obtain ⟨c'', h'⟩ := run_resolvePatch p c
  rw [h'] at h
  cases h
  rfl

theorem Steps.resolvePatch {c : Ctx} (p : Patch EntityRef) :
    Steps (Projection.resolvePatch p) c [] 0 := by
  cases p with
  | unset => exact Steps.pure _
  | set ref => exact Steps.nil_bind (Steps.resolveAndTrack _) fun _ c₁ _ => Steps.pure (c := c₁) _

end Projection

theorem Ctx.Alike.resolvePatch {c c' : Ctx} (h : c.Alike c') :
    c'.resolvePatch = c.resolvePatch := by
  funext p
  simp only [Ctx.resolvePatch, h.resolveOrEmpty]

/-! ### Rows, then rows of a property -/

namespace Projection

variable {α β : Type} {x : Projection α} {f : α → Projection β} {c : Ctx}
  {ms ms' : List Mutation} {P : Mutation → Prop}

namespace EmitsThen

theorem of_keeps (h : Keeps P x) : EmitsThen x c [] P where
  emitted := h.after_emitted c
  accepts_of_ok _ _ _ := trivial

theorem pure (a : α) : EmitsThen (Pure.pure a : Projection α) c [] P :=
  of_emitsFrom (EmitsFrom.pure a)

theorem ite {p : Prop} [Decidable p] {x y : Projection α} (hx : p → EmitsThen x c ms P)
    (hy : ¬p → EmitsThen y c ms' P) :
    EmitsThen (if p then x else y) c (if p then ms else ms') P := by
  split
  · exact hx ‹p›
  · exact hy ‹¬p›

/-- A row, which the ledger may refuse. -/
theorem emit_of_eq {m m' : Mutation} (hm : m = m') : EmitsThen (Projection.emit m) c [m'] P :=
  hm ▸ of_emitsFrom (EmitsFrom.emit m)

/-- A step that returns leaving the state as it found it hands over to the rest. -/
theorem bind_of_run {a : α} (h : x.run c = .ok a c) (hf : EmitsThen (f a) c ms P) :
    EmitsThen (x >>= f) c ms P where
  emitted := by
    have hafter : (x >>= f).after c = (f a).after c := after_bind_of_ok h
    rw [hafter]
    exact hf.emitted
  accepts_of_ok b c' hr := by
    rw [run_bind, h] at hr
    exact hf.accepts_of_ok hr

end EmitsThen

/-- Rows emitted exactly, then what follows them, which runs only when the ledger took them all,
from the ledger that received them. -/
theorem EmitsFrom.bind_emitsThen (hx : EmitsFrom x c ms)
    (hf : ∀ a c₁, x.run c = .ok a c₁ → EmitsThen (f a) c₁ ms' P) :
    EmitsThen (x >>= f) c (ms ++ ms') P := by
  rcases hrun : x.run c with ⟨a, c₁⟩ | ⟨e, c₁⟩
  · have hacc := hx.accepts_of_ok hrun
    obtain ⟨hfeeds, hledger⟩ := hx.feeds_of_ok hrun
    have h₁ := hf a c₁ hrun
    obtain ⟨rest, he, hP⟩ := h₁.emitted
    have hafter : (x >>= f).after c = (f a).after c₁ := after_bind_of_ok hrun
    refine ⟨⟨rest, ?_, hP⟩, fun b c' h => ?_⟩
    · rw [hafter, he, hfeeds.emitted, Ledger.attempt_append_of_accepts hacc, ← hledger]
      simp
    · rw [run_bind, hrun] at h
      exact Ledger.accepts_append.2 ⟨hacc, hledger ▸ h₁.accepts_of_ok h⟩
  · -- stopped at a refusal of `ms`: nothing of the rest was attempted
    have hna := (hx.refused_of_error hrun).2
    have hafter : (x >>= f).after c = x.after c :=
      (after_bind_of_error hrun).trans (after_of_error hrun).symm
    refine ⟨⟨[], ?_, by simp⟩, fun b c' h => ?_⟩
    · rw [hafter, List.append_nil, Ledger.attempt_append_of_not_accepts hna]
      exact hx.emitted_eq
    · rw [run_bind, hrun] at h
      cases h

/-- A step that emits nothing and keeps the state alike, then rows from the state it returns
in. -/
theorem Steps.nil_bind_emitsThen (hx : Steps x c [] 0)
    (hf : ∀ a c₁, x.run c = .ok a c₁ → c.Alike c₁ → EmitsThen (f a) c₁ ms P) :
    EmitsThen (x >>= f) c ms P :=
  (hx.emits c.hasRoom_zero).bind_emitsThen fun a c₁ h => hf a c₁ h (hx.alike h).1

/-- A row the resolver learns nothing from, then what follows it in a state alike. -/
theorem EmitsThen.emit_bind {m m' : Mutation} {f : Unit → Projection β} (hm : m = m')
    (hl : ∀ r, Sink.learn r m' = r) (hf : ∀ c₁, c.Alike c₁ → EmitsThen (f ()) c₁ ms P) :
    EmitsThen (Projection.emit m >>= f) c (m' :: ms) P := by
  subst hm
  exact ((Steps.emit hl).emits c.hasRoom_zero).bind_emitsThen fun _ c₁ h => hf c₁ ((Steps.emit hl).alike h).1

end Projection

namespace Entity

variable (e : Entity) (t : Int) (a : Option EntityId) (n : Option Int) (d : Option Bool)

@[simp]
theorem alias_withStaking : (e.withStaking t a n d).alias = e.alias := by
  cases a <;> cases n <;> cases d <;> rfl

@[simp]
theorem evmAddress_withStaking : (e.withStaking t a n d).evmAddress = e.evmAddress := by
  cases a <;> cases n <;> cases d <;> rfl

end Entity

/-- An update's entity row teaches the resolver nothing: it carries no alias and no address. -/
theorem EntityPatch.learn_apply_stamp (u : EntityPatch) (t : Int) (id : EntityId) (r : Resolver) :
    Sink.learn r (.entity (u.apply t (EntityOperation.update.stamp id t))) = r := by
  simp only [Sink.learn, EntityPatch.apply, Entity.alias_withStaking, Entity.evmAddress_withStaking]
  rfl

/-! ### The handlers of updates -/

namespace Handler

open Projection

variable (item : RecordItem) (id : EntityId) {c c₁ : Ctx}

/-- The record template for a successful record of a kind with an entity operation, whose main
entity resolves and whose transaction-level effects are quiet: the handler emits what the kind
emits for its stamped main entity. -/
theorem run_emitsThen {h : Handler} {ms : List Mutation} {P : Mutation → Prop}
    (hop : h.operation ≠ .none) (hs : item.isSuccessful = true)
    (hmain : (h.mainEntity c item).isEmpty = false)
    (htx : ∀ c₁, c.Alike c₁ →
      Steps (h.onTransaction item (item.transactionRow (h.mainEntity c item))) c₁ [] 0)
    (hentity : ∀ c₁, c.Alike c₁ → EmitsThen
      (h.onEntity item (h.operation.stamp (h.mainEntity c item) item.consensusTimestamp)) c₁ ms P) :
    EmitsThen (h.run item) c ms P := by
  refine run_of_rest (R := fun y c₀ => EmitsThen y c₀ ms P)
    (fun hx hf => Steps.nil_bind_emitsThen hx hf) fun c₂ hA => ?_
  refine Steps.nil_bind_emitsThen (htx c₂ hA) fun _ c₃ _ hA₃ => ?_
  rw [if_neg (by simp [hop, hmain, hs])]
  exact (hentity c₃ (hA.trans hA₃)).bind_keeps fun _ => Keeps.pure _

/-- An entity row, then the hooks the update declares and deletes. -/
theorem entityRow_hooks_emitsThen {m m' : Mutation} (hm : m = m') (t : Int) (owner : EntityId)
    (details : List HookCreationDetails) (hookIds : List Int) :
    EmitsThen (Projection.emit m >>= fun _ => createHooks t owner details >>= fun _ =>
      deleteHooks t owner hookIds) c₁ [m'] Mutation.NoTokenTopicNode :=
  (EmitsThen.emit_of_eq hm).bind_keeps fun _ =>
    Keeps.bind (createHooks_keeps (fun _ => ⟨rfl, rfl, rfl⟩) (fun _ => ⟨rfl, rfl, rfl⟩) _ _ _)
      fun _ => deleteHooks_keeps (fun _ => ⟨rfl, rfl, rfl⟩) _ _ _

theorem cryptoUpdate_onEntity_emitsThen (body : CryptoUpdateBody) (hA : c.Alike c₁) :
    EmitsThen ((cryptoUpdate body).onEntity item
        (EntityOperation.update.stamp id item.consensusTimestamp)) c₁
      [.entity ((body.entityPatch c).apply item.consensusTimestamp
        (EntityOperation.update.stamp id item.consensusTimestamp))] Mutation.NoTokenTopicNode := by
  simp only [cryptoUpdate]
  refine Steps.nil_bind_emitsThen (Steps.resolvePatch _) fun proxy c₂ h₂ hA₂ => ?_
  refine Steps.nil_bind_emitsThen (Steps.resolvePatch _) fun staked c₃ h₃ _ => ?_
  rw [resolvePatch_value h₂, resolvePatch_value h₃, hA₂.resolvePatch, hA.resolvePatch]
  exact entityRow_hooks_emitsThen
    (by simp [EntityPatch.apply, CryptoUpdateBody.entityPatch, EntityOperation.stamp]) _ _ _ _

theorem contractUpdate_onEntity_emitsThen (body : ContractUpdateBody) (hA : c.Alike c₁) :
    EmitsThen ((contractUpdate body).onEntity item
        (EntityOperation.update.stamp id item.consensusTimestamp)) c₁
      [.entity ((body.entityPatch c).apply item.consensusTimestamp
        (EntityOperation.update.stamp id item.consensusTimestamp))] Mutation.NoTokenTopicNode := by
  simp only [contractUpdate]
  refine Steps.nil_bind_emitsThen (Steps.resolvePatch _) fun autoRenew c₂ h₂ hA₂ => ?_
  refine Steps.nil_bind_emitsThen (Steps.resolvePatch _) fun staked c₃ h₃ _ => ?_
  rw [resolvePatch_value h₂, resolvePatch_value h₃, hA₂.resolvePatch, hA.resolvePatch]
  exact entityRow_hooks_emitsThen
    (by simp [EntityPatch.apply, ContractUpdateBody.entityPatch, EntityOperation.stamp]) _ _ _ _

/-- A token update writes its entity row and, while tokens are kept, its token row when it sets a
token-level field, the treasury resolved in the state alike to the record's start. -/
theorem tokenUpdate_onEntity_emitsThen (body : TokenUpdateBody) (hA : c.Alike c₁) :
    EmitsThen ((tokenUpdate body).onEntity item
        (EntityOperation.update.stamp id item.consensusTimestamp)) c₁
      (.entity ((body.entityPatch c).apply item.consensusTimestamp
          (EntityOperation.update.stamp id item.consensusTimestamp)) ::
        if (c.persist.tokens && body.setsToken) = true then
          [.token (body.applyToken c
            { tokenId := id, timestampRange := some (.openFrom item.consensusTimestamp) })]
        else []) Mutation.NoTokenTopicNode := by
  simp only [tokenUpdate]
  refine Steps.nil_bind_emitsThen (Steps.resolvePatch _) fun autoRenew c₂ h₂ hA₂ => ?_
  rw [resolvePatch_value h₂, hA.resolvePatch]
  -- the entity row teaches the resolver nothing, so the treasury resolves as at the start
  refine EmitsThen.emit_bind ?_ (EntityPatch.learn_apply_stamp _ _ _) fun c₃ hA₃ => ?_
  · simp [EntityPatch.apply, TokenUpdateBody.entityPatch, EntityOperation.stamp]
  have hA' := hA.trans (hA₂.trans hA₃)
  refine EmitsThen.bind_of_run (run_persist c₃) ?_
  rw [hA'.persist]
  -- while tokens are not kept, the handler ends with the entity row
  cases c.persist.tokens
  · simp only [Bool.not_false, Bool.false_and, Bool.false_eq_true, ↓reduceIte]
    exact EmitsThen.pure _
  · simp only [Bool.not_true, Bool.true_and, Bool.false_eq_true, ↓reduceIte]
    refine Steps.nil_bind_emitsThen (Steps.resolvePatch _) fun treasury c₄ h₄ _ => ?_
    rw [resolvePatch_value h₄, hA'.resolvePatch]
    simp only [Patch.isSome_toOption, Ctx.isSet_resolvePatch]
    exact EmitsThen.ite (fun _ => EmitsThen.emit_of_eq
      (by simp [TokenUpdateBody.applyToken, EntityOperation.stamp])) fun _ => EmitsThen.pure _

/-- A topic update writes its entity row and, while topics are kept, its topic row when it sets
a key; its fee row, if any, follows. -/
theorem updateTopic_onEntity_emitsThen (body : ConsensusUpdateTopicBody) (hA : c.Alike c₁) :
    EmitsThen ((updateTopic body).onEntity item
        (EntityOperation.update.stamp id item.consensusTimestamp)) c₁
      (.entity ((body.entityPatch c).apply item.consensusTimestamp
          (EntityOperation.update.stamp id item.consensusTimestamp)) ::
        if (c.persist.topics && body.setsKeys) = true then
          [.topic (body.applyTopic
            { id := id, timestampRange := some (.openFrom item.consensusTimestamp) })]
        else []) Mutation.NoTokenTopicNode := by
  simp only [updateTopic]
  refine Steps.nil_bind_emitsThen (Steps.resolvePatch _) fun autoRenew c₂ h₂ hA₂ => ?_
  rw [resolvePatch_value h₂, hA.resolvePatch]
  refine EmitsThen.emit_bind ?_ (EntityPatch.learn_apply_stamp _ _ _) fun c₃ hA₃ => ?_
  · simp [EntityPatch.apply, ConsensusUpdateTopicBody.entityPatch, EntityOperation.stamp]
  refine EmitsThen.bind_of_run (run_persist c₃) ?_
  rw [(hA.trans (hA₂.trans hA₃)).persist]
  cases c.persist.topics
  · simp only [Bool.not_false, Bool.false_and, Bool.false_eq_true, ↓reduceIte]
    exact EmitsThen.pure _
  · simp only [Bool.not_true, Bool.true_and, Bool.false_eq_true, ↓reduceIte,
      Patch.isSome_toOption]
    -- the topic row when a key is set, then in both cases the fee row when the fees are set
    refine EmitsThen.ite (fun _ => (EmitsThen.emit_of_eq ?_).bind_keeps fun _ => ?_)
      fun _ => EmitsThen.of_keeps ?_
    · simp [ConsensusUpdateTopicBody.applyTopic, Patch.toOption_map, EntityOperation.stamp]
    all_goals
      split
      · exact Keeps.emit ⟨rfl, rfl, rfl⟩
      · exact Keeps.pure _

theorem fileUpdate_onEntity_emitsThen (body : FileUpdateBody) (c₁ : Ctx) :
    EmitsThen ((fileUpdate body).onEntity item
        (EntityOperation.update.stamp id item.consensusTimestamp)) c₁
      [.entity (body.entityPatch.apply item.consensusTimestamp
        (EntityOperation.update.stamp id item.consensusTimestamp))] Mutation.NoTokenTopicNode := by
  simp only [fileUpdate]
  refine (EmitsThen.emit_of_eq ?_).bind_keeps fun _ => ?_
  · simp [EntityPatch.apply, FileUpdateBody.entityPatch, EntityOperation.stamp, Patch.toOption_map]
  · split
    · exact Projection.emitFileData_keeps item (fun _ => ⟨rfl, rfl, rfl⟩) _ _
    · exact Keeps.pure _

theorem systemUndelete_onEntity_emitsThen (body : SystemUndeleteBody) (c₁ : Ctx) :
    EmitsThen ((systemUndelete body).onEntity item
        (EntityOperation.update.stamp id item.consensusTimestamp)) c₁
      [.entity (({} : EntityPatch).apply item.consensusTimestamp
        (EntityOperation.update.stamp id item.consensusTimestamp))] Mutation.NoTokenTopicNode :=
  EmitsThen.emit_of_eq rfl

/-- A node update of a successful record writes, while nodes are kept, its node row, the account
resolved in the state alike to the record's start. -/
theorem nodeUpdate_onTransaction_emitsThen (body : NodeUpdateBody) (tx : Transaction)
    (hs : item.isSuccessful = true) (hn : c.persist.nodes = true) (hA : c.Alike c₁) :
    EmitsThen ((nodeUpdate body).onTransaction item tx) c₁
      [.node (body.applyNode c
        { nodeId := body.nodeId, timestampRange := some (.openFrom item.consensusTimestamp) })]
      Mutation.NoTokenTopicNode := by
  simp only [nodeUpdate]
  refine Steps.nil_bind_emitsThen (Steps.resolvePatch _) fun account c₂ h₂ hA₂ => ?_
  rw [resolvePatch_value h₂, hA.resolvePatch]
  refine EmitsThen.bind_of_run (a := item.isSuccessful && c₂.persist.nodes) rfl ?_
  rw [hs, (hA.trans hA₂).persist, hn]
  simp only [Bool.and_self, Bool.not_true, Bool.false_eq_true, ↓reduceIte]
  exact EmitsThen.emit_of_eq (by simp [NodeUpdateBody.applyNode, RecordItem.openRange])

theorem nodeUpdate_run_emitsThen (body : NodeUpdateBody) (hs : item.isSuccessful = true)
    (hn : c.persist.nodes = true) :
    EmitsThen ((nodeUpdate body).run item) c
      [.node (body.applyNode c
        { nodeId := body.nodeId, timestampRange := some (.openFrom item.consensusTimestamp) })]
      Mutation.NoTokenTopicNode := by
  refine run_of_rest (R := fun y c₀ => EmitsThen y c₀ _ _)
    (fun hx hf => Steps.nil_bind_emitsThen hx hf) fun c₂ hA => ?_
  rw [if_pos (by simp [nodeUpdate])]
  exact (nodeUpdate_onTransaction_emitsThen item body _ hs hn hA).bind_keeps fun _ => Keeps.pure _

end Handler

/-! ### The records of updates -/

/-- The kinds with an entity patch: crypto, contract, token, topic and file updates, and
undeletions. -/
theorem TransactionBody.entityPatch?_eq_some {c : Ctx} {body : TransactionBody} {U : EntityPatch}
    (h : body.entityPatch? c = some U) :
    (∃ b, body = .cryptoUpdate b ∧ U = b.entityPatch c) ∨
      (∃ b, body = .contractUpdate b ∧ U = b.entityPatch c) ∨
      (∃ b, body = .tokenUpdate b ∧ U = b.entityPatch c) ∨
      (∃ b, body = .consensusUpdateTopic b ∧ U = b.entityPatch c) ∨
      (∃ b, body = .fileUpdate b ∧ U = b.entityPatch) ∨
      (∃ b, body = .systemUndelete b ∧ U = {}) := by
  cases body <;> simp only [TransactionBody.entityPatch?, reduceCtorEq, Option.some.injEq] at h <;>
    simp [h]

namespace Handler

open Projection

variable (item : RecordItem) (c : Ctx)

theorem tokenUpdate_run_emitsThen (body : TokenUpdateBody) (hs : item.isSuccessful = true)
    (hmain : (body.token.getD EntityId.empty).isEmpty = false) :
    EmitsThen ((tokenUpdate body).run item) c
      (.entity ((body.entityPatch c).apply item.consensusTimestamp
          (EntityOperation.update.stamp (body.token.getD EntityId.empty)
            item.consensusTimestamp)) ::
        if (c.persist.tokens && body.setsToken) = true then
          [.token (body.applyToken c
            { tokenId := body.token.getD EntityId.empty,
              timestampRange := some (.openFrom item.consensusTimestamp) })]
        else []) Mutation.NoTokenTopicNode :=
  run_emitsThen item (by simp [tokenUpdate]) hs hmain (fun _ _ => Steps.pure _) fun _ hA =>
    tokenUpdate_onEntity_emitsThen item _ body hA

theorem updateTopic_run_emitsThen (body : ConsensusUpdateTopicBody)
    (hs : item.isSuccessful = true)
    (hmain : (c.receiptOrResolve item.receipt.topicId body.topic).isEmpty = false) :
    EmitsThen ((updateTopic body).run item) c
      (.entity ((body.entityPatch c).apply item.consensusTimestamp (EntityOperation.update.stamp
          (c.receiptOrResolve item.receipt.topicId body.topic) item.consensusTimestamp)) ::
        if (c.persist.topics && body.setsKeys) = true then
          [.topic (body.applyTopic
            { id := c.receiptOrResolve item.receipt.topicId body.topic,
              timestampRange := some (.openFrom item.consensusTimestamp) })]
        else []) Mutation.NoTokenTopicNode :=
  run_emitsThen item (by simp [updateTopic]) hs hmain (fun _ _ => Steps.pure _) fun _ hA =>
    updateTopic_onEntity_emitsThen item _ body hA

/-- A successful record of a kind with an entity patch whose main entity resolves first writes
its entity row: its patch applied to the bare stamped entity. -/
theorem entityUpdate_run_emitsThen (hs : item.isSuccessful = true) {U : EntityPatch}
    (hU : item.body.entityPatch? c = some U)
    (hmain : ((ofBody item.body).mainEntity c item).isEmpty = false) :
    ∃ more, EmitsThen ((ofBody item.body).run item) c
      (.entity (U.apply item.consensusTimestamp (EntityOperation.update.stamp
        ((ofBody item.body).mainEntity c item) item.consensusTimestamp)) :: more)
      Mutation.NoTokenTopicNode := by
  rcases TransactionBody.entityPatch?_eq_some hU with
    ⟨b, hb, rfl⟩ | ⟨b, hb, rfl⟩ | ⟨b, hb, rfl⟩ | ⟨b, hb, rfl⟩ | ⟨b, hb, rfl⟩ | ⟨b, hb, rfl⟩ <;>
    rw [hb] at hmain ⊢
  case inl =>
    exact ⟨[], run_emitsThen item (by simp [ofBody, cryptoUpdate]) hs hmain
      (fun _ _ => Steps.pure _) fun _ hA => cryptoUpdate_onEntity_emitsThen item _ b hA⟩
  case inr.inl =>
    exact ⟨[], run_emitsThen item (by simp [ofBody, contractUpdate]) hs hmain
      (fun _ _ => Steps.pure _) fun _ hA => contractUpdate_onEntity_emitsThen item _ b hA⟩
  case inr.inr.inl => exact ⟨_, tokenUpdate_run_emitsThen item c b hs hmain⟩
  case inr.inr.inr.inl => exact ⟨_, updateTopic_run_emitsThen item c b hs hmain⟩
  case inr.inr.inr.inr.inl =>
    exact ⟨[], run_emitsThen item (by simp [ofBody, fileUpdate]) hs hmain
      (fun _ _ => Steps.pure _) fun c₁ _ => fileUpdate_onEntity_emitsThen item _ b c₁⟩
  case inr.inr.inr.inr.inr =>
    exact ⟨[], run_emitsThen item (by simp [ofBody, systemUndelete]) hs hmain
      (fun _ _ => Steps.pure _) fun c₁ _ => systemUndelete_onEntity_emitsThen item _ b c₁⟩

end Handler

namespace Ledger

variable (l : Ledger) {m m' : Mutation}

theorem attempt_singleton : l.attempt [m] = [m] := by
  simp [attempt]

theorem head?_attempt_append (ms rest : List Mutation) :
    (l.attempt (m :: ms) ++ rest).head? = some m := rfl

/-- Of a row that may be followed by a second, a ledger takes the second only after taking the
first. -/
theorem filterMap_attempt_cons_ite {γ : Type} (g : Mutation → Option γ) {t : γ}
    (hm : g m = none) (hm' : g m' = some t) (b : Bool) :
    (l.attempt (m :: if b = true then [m'] else [])).filterMap g =
      if b = true ∧ l.Accepts [m] then [t] else [] := by
  by_cases ha : (l.apply m).2 = none
  · rw [attempt_cons_of_accepted ha]
    cases b <;> simp [attempt, hm, hm', Accepts, ha]
  · rw [attempt_cons_of_refused ha]
    simp [hm, Accepts, ha]

end Ledger

section Records

variable (props : Properties) (via : ResolverKind) (sink : Sink) (item : RecordItem)

/-- A record whose handler emits `ms` as far as the ledger takes them, then rows of no token,
topic or node, has for mutations the rows of `ms` the ledger takes, then rows of none of these
families. -/
theorem projectRecord_of_emitsThen {ms : List Mutation}
    (h : Projection.EmitsThen ((Handler.ofBody item.body).run item) (Ctx.start props via sink item)
      ms Mutation.NoTokenTopicNode) :
    ∃ rest, (projectRecord props via sink item).2.mutations = sink.ledger.attempt ms ++ rest ∧
      ∀ m ∈ rest, m.NoTokenTopicNode := by
  have hprocess : Projection.process item = ((Handler.ofBody item.body).run item >>= fun tx =>
      Projection.recordContractResult (Handler.ofBody item.body).adjustResult item
          (tx.entityId.getD EntityId.empty) >>= fun _ =>
        Projection.applyAutomaticAssociations item >>= fun _ =>
        Projection.applyNftTransfers item >>= fun _ =>
        Projection.applyBalanceChanges item >>= fun _ =>
        Projection.emit (.transaction tx) >>= fun _ => pure tx) := rfl
  obtain ⟨⟨rest, he, hrest⟩, -⟩ := h.bind_keeps (Projection.process_rest_keeps item _)
  refine ⟨rest, ?_, hrest⟩
  rw [(projectRecord_after props via sink item).2, hprocess, he]
  simp [Ctx.start]

variable {props via sink item}

/-- A successful record of a kind with an entity patch whose main entity resolves writes first
its entity row, its patch applied to the bare stamped entity. -/
theorem projectRecord_entityUpdate_head (hs : item.isSuccessful = true) {U : EntityPatch}
    (hU : item.body.entityPatch? (Ctx.start props via sink item) = some U)
    (hmain : ((Handler.ofBody item.body).mainEntity (Ctx.start props via sink item) item).isEmpty =
      false) :
    (projectRecord props via sink item).2.mutations.head? =
      some (.entity (U.apply item.consensusTimestamp (EntityOperation.update.stamp
        ((Handler.ofBody item.body).mainEntity (Ctx.start props via sink item) item)
        item.consensusTimestamp))) := by
  obtain ⟨more, hE⟩ := Handler.entityUpdate_run_emitsThen item _ hs hU hmain
  obtain ⟨rest, hmut, -⟩ := projectRecord_of_emitsThen props via sink item hE
  rw [hmut, Ledger.head?_attempt_append]

/-- While tokens are kept, a successful token update writes its entity row, then its token row
exactly when it sets a token-level field and the ledger took the entity row. -/
theorem projectRecord_tokenUpdate_rows (hs : item.isSuccessful = true) {body : TokenUpdateBody}
    (hb : item.body = .tokenUpdate body) (ht : props.persist.tokens = true)
    (hmain : (body.token.getD EntityId.empty).isEmpty = false) :
    (projectRecord props via sink item).2.mutations.head? =
        some (.entity ((body.entityPatch (Ctx.start props via sink item)).apply
          item.consensusTimestamp (EntityOperation.update.stamp (body.token.getD EntityId.empty)
            item.consensusTimestamp))) ∧
      (projectRecord props via sink item).2.mutations.filterMap (Family.row? .token) =
        if body.setsToken = true ∧ sink.ledger.Accepts [.entity ((body.entityPatch
            (Ctx.start props via sink item)).apply item.consensusTimestamp
            (EntityOperation.update.stamp (body.token.getD EntityId.empty)
              item.consensusTimestamp))] then
          [body.applyToken (Ctx.start props via sink item)
            { tokenId := body.token.getD EntityId.empty,
              timestampRange := some (.openFrom item.consensusTimestamp) }]
        else [] := by
  have hE := Handler.tokenUpdate_run_emitsThen item (Ctx.start props via sink item) body hs hmain
  rw [show (Ctx.start props via sink item).persist.tokens = true from ht, Bool.true_and] at hE
  obtain ⟨rest, hmut, hrest⟩ := projectRecord_of_emitsThen props via sink item (by
    rw [hb]
    exact hE)
  refine ⟨by rw [hmut, Ledger.head?_attempt_append], ?_⟩
  rw [hmut, List.filterMap_append, List.filterMap_eq_nil_iff.2 fun m hm => (hrest m hm).1,
    List.append_nil]
  exact Ledger.filterMap_attempt_cons_ite _ (Family.row? .token) rfl rfl _

/-- While topics are kept, a successful topic update writes its entity row, then its topic row
exactly when it sets a key and the ledger took the entity row. -/
theorem projectRecord_updateTopic_rows (hs : item.isSuccessful = true)
    {body : ConsensusUpdateTopicBody} (hb : item.body = .consensusUpdateTopic body)
    (ht : props.persist.topics = true)
    (hmain : ((Ctx.start props via sink item).receiptOrResolve item.receipt.topicId
      body.topic).isEmpty = false) :
    (projectRecord props via sink item).2.mutations.head? =
        some (.entity ((body.entityPatch (Ctx.start props via sink item)).apply
          item.consensusTimestamp (EntityOperation.update.stamp
            ((Ctx.start props via sink item).receiptOrResolve item.receipt.topicId body.topic)
            item.consensusTimestamp))) ∧
      (projectRecord props via sink item).2.mutations.filterMap (Family.row? .topic) =
        if body.setsKeys = true ∧ sink.ledger.Accepts [.entity ((body.entityPatch
            (Ctx.start props via sink item)).apply item.consensusTimestamp
            (EntityOperation.update.stamp
              ((Ctx.start props via sink item).receiptOrResolve item.receipt.topicId body.topic)
              item.consensusTimestamp))] then
          [body.applyTopic
            { id :=
                (Ctx.start props via sink item).receiptOrResolve item.receipt.topicId body.topic,
              timestampRange := some (.openFrom item.consensusTimestamp) }]
        else [] := by
  have hE := Handler.updateTopic_run_emitsThen item (Ctx.start props via sink item) body hs hmain
  rw [show (Ctx.start props via sink item).persist.topics = true from ht, Bool.true_and] at hE
  obtain ⟨rest, hmut, hrest⟩ := projectRecord_of_emitsThen props via sink item (by
    rw [hb]
    exact hE)
  refine ⟨by rw [hmut, Ledger.head?_attempt_append], ?_⟩
  rw [hmut, List.filterMap_append, List.filterMap_eq_nil_iff.2 fun m hm => (hrest m hm).2.1,
    List.append_nil]
  exact Ledger.filterMap_attempt_cons_ite _ (Family.row? .topic) rfl rfl _

/-- While nodes are kept, a successful node update writes first its node row, the one node row
of the record. -/
theorem projectRecord_nodeUpdate_rows (hs : item.isSuccessful = true) {body : NodeUpdateBody}
    (hb : item.body = .nodeUpdate body) (hn : props.persist.nodes = true) :
    (projectRecord props via sink item).2.mutations.head? =
        some (.node (body.applyNode (Ctx.start props via sink item)
          { nodeId := body.nodeId, timestampRange := some (.openFrom item.consensusTimestamp) })) ∧
      (projectRecord props via sink item).2.mutations.filterMap (Family.row? .node) =
        [body.applyNode (Ctx.start props via sink item)
          { nodeId := body.nodeId,
            timestampRange := some (.openFrom item.consensusTimestamp) }] := by
  have hE := Handler.nodeUpdate_run_emitsThen item body hs (c := Ctx.start props via sink item) hn
  obtain ⟨rest, hmut, hrest⟩ := projectRecord_of_emitsThen props via sink item (by
    rw [hb]
    exact hE)
  rw [hmut, Ledger.attempt_singleton]
  refine ⟨rfl, ?_⟩
  rw [List.filterMap_append, List.filterMap_eq_nil_iff.2 fun m hm => (hrest m hm).2.2,
    List.append_nil]
  rfl

end Records

/-! ### What an update writes -/

/-- What a successful record writes, whatever the ledger held before it, references resolved as
the record starts:
* a record of a kind with an entity patch whose main entity resolves first writes its entity row,
  the patch applied to the bare stamped entity, which merged over any previous version `p`
  leaves `p` with the patch applied;
* while tokens are kept, a token update writes one token row, the token-level patches applied to
  the bare token, when it sets a token-level field and the ledger took its entity row, and none
  otherwise; merged over any previous version it leaves that version with the patches applied;
* while topics are kept, a topic update does the same with its topic row and its four keys;
* while nodes are kept, a node update of any node first writes its one node row, the node
  patches applied to the bare node, with the same merge. -/
structure UpdateRows (props : Properties) (via : ResolverKind) (sink : Sink) (item : RecordItem) :
    Prop where
  entity : ∀ U, item.body.entityPatch? (Ctx.start props via sink item) = some U →
    ((Handler.ofBody item.body).mainEntity (Ctx.start props via sink item) item).isEmpty = false →
    ∃ u, (projectRecord props via sink item).2.mutations.head? = some (.entity u) ∧
      u = U.apply item.consensusTimestamp (EntityOperation.update.stamp
        ((Handler.ofBody item.body).mainEntity (Ctx.start props via sink item) item)
        item.consensusTimestamp) ∧
      ∀ p, Entity.overlay p u = U.apply item.consensusTimestamp p
  token : ∀ body, item.body = .tokenUpdate body → props.persist.tokens = true →
    (body.token.getD EntityId.empty).isEmpty = false →
    ∃ (u : Entity) (t : Token), (projectRecord props via sink item).2.mutations.head? =
        some (.entity u) ∧
      (projectRecord props via sink item).2.mutations.filterMap (Family.row? .token) =
        (if body.setsToken = true ∧ sink.ledger.Accepts [.entity u] then [t] else []) ∧
      t = body.applyToken (Ctx.start props via sink item)
        { tokenId := body.token.getD EntityId.empty,
          timestampRange := some (.openFrom item.consensusTimestamp) } ∧
      ∀ p, Token.overlay p t = body.applyToken (Ctx.start props via sink item) p
  topic : ∀ body, item.body = .consensusUpdateTopic body → props.persist.topics = true →
    ((Ctx.start props via sink item).receiptOrResolve item.receipt.topicId body.topic).isEmpty =
      false →
    ∃ (u : Entity) (t : Topic), (projectRecord props via sink item).2.mutations.head? =
        some (.entity u) ∧
      (projectRecord props via sink item).2.mutations.filterMap (Family.row? .topic) =
        (if body.setsKeys = true ∧ sink.ledger.Accepts [.entity u] then [t] else []) ∧
      t = body.applyTopic
        { id := (Ctx.start props via sink item).receiptOrResolve item.receipt.topicId body.topic,
          timestampRange := some (.openFrom item.consensusTimestamp) } ∧
      ∀ p, Topic.overlay p t = body.applyTopic p
  node : ∀ body, item.body = .nodeUpdate body → props.persist.nodes = true →
    ∃ n : Node, (projectRecord props via sink item).2.mutations.head? = some (.node n) ∧
      (projectRecord props via sink item).2.mutations.filterMap (Family.row? .node) = [n] ∧
      n = body.applyNode (Ctx.start props via sink item)
        { nodeId := body.nodeId, timestampRange := some (.openFrom item.consensusTimestamp) } ∧
      ∀ p, Node.overlay p n = body.applyNode (Ctx.start props via sink item) p

/-- **Updates write only what they set**, for every successful record and every ledger. -/
theorem projectRecord_updateRows (props : Properties) (via : ResolverKind) (sink : Sink)
    (item : RecordItem) (hs : item.isSuccessful = true) : UpdateRows props via sink item where
  entity U hU hmain := ⟨_, projectRecord_entityUpdate_head hs hU hmain, rfl, fun p =>
    U.overlay_apply_stamp _ p _⟩
  token body hb ht hmain :=
    have h := projectRecord_tokenUpdate_rows hs hb ht hmain
    ⟨_, _, h.1, h.2, rfl, fun p => body.overlay_tokenRow _ p _ _⟩
  topic body hb ht hmain :=
    have h := projectRecord_updateTopic_rows hs hb ht hmain
    ⟨_, _, h.1, h.2, rfl, fun p => body.overlay_topicRow p _ _⟩
  node body hb hn :=
    have h := projectRecord_nodeUpdate_rows hs hb hn
    ⟨_, h.1, h.2, rfl, fun p => body.overlay_nodeRow _ p _⟩

/-- Token `0.0.1500` created at 20, with treasury `0.0.1001`. -/
def tokenCreatedAtTwenty : RecordItem :=
  { consensusTimestamp := 20, payerAccountId := ⟨0, 0, 2⟩,
    body := .tokenCreate { treasury := some (.id ⟨0, 0, 1001⟩) },
    receipt := { status := ⟨22⟩, tokenId := some ⟨0, 0, 1500⟩ } }

/-- A successful update at 10 naming token `0.0.1500` `B`. -/
def tokenRenamedAtTen : RecordItem :=
  { consensusTimestamp := 10, payerAccountId := ⟨0, 0, 2⟩,
    body := .tokenUpdate { token := some ⟨0, 0, 1500⟩, name := .set "B" },
    receipt := { status := ⟨22⟩ } }

theorem projectRecord_updateRows_tokenRenamedAtTen :
    tokenRenamedAtTen.isSuccessful = true ∧
      UpdateRows {} .memory (projectRecord {} .memory {} tokenCreatedAtTwenty).1
        tokenRenamedAtTen :=
  ⟨by decide, projectRecord_updateRows {} .memory _ tokenRenamedAtTen (by decide)⟩

/-- After the token's creation at 20, its renaming at 10 sets a token-level field, yet writes no
token row: the ledger refuses its entity row, which starts before the token's current version,
and the record stops there. -/
theorem projectRecord_refused_update_writes_no_token_row :
    (∃ body, tokenRenamedAtTen.body = .tokenUpdate body ∧ body.setsToken = true) ∧
      ((projectRecord {} .memory (projectRecord {} .memory {} tokenCreatedAtTwenty).1
        tokenRenamedAtTen).2.mutations.filterMap (Family.row? .token)).isEmpty = true :=
  ⟨⟨_, rfl, rfl⟩, by decide +kernel⟩

end LedgerProjection
