import LedgerProjection.Proofs.Delivery
import LedgerProjection.Proofs.Rows

/-!
# Properties of programs built from the projection's steps

Every program of the projection is written with a handful of its operations (reading the
state, touching an id, emitting a row, taking a log index, stopping with a fault) sequenced by
`bind`. A `Projection.Logic` is a property of programs that holds of `pure`, of reading the state
and of touching an id, and that `bind` keeps. What it says of the other three is left to each
use: a lemma here asks the logic to hold of emitting just the rows its program writes, and of
stopping with just the faults its program can raise, so that a logic in which only some faults
may occur, or which counts the synthetic logs, is a logic too.

The lemmas walk the building blocks that write hooks, their storage and file data, and the
phases every record goes through after its handler: the EVM outcome, automatic associations,
NFT moves and balance changes. Each asks only for the rows its program writes, with what the
program knows of them where it writes them: a log the EVM emitted is not synthetic, an NFT move
and a token balance change are written for a record that succeeded, an automatic association
for one that is no token creation.

`Logic.keeps P`, writing only rows `P` allows, is the first instance.
-/

namespace LedgerProjection

namespace Projection

/-- A property of programs that holds of `pure`, of reading the state and of touching an id, and
that `bind` keeps. -/
structure Logic where
  Holds : {α : Type} → Projection α → Prop
  pure : ∀ {α : Type} (a : α), Holds (Pure.pure a : Projection α)
  bind : ∀ {α β : Type} {x : Projection α} {f : α → Projection β},
    Holds x → (∀ a, Holds (f a)) → Holds (x >>= f)
  get : Holds (MonadState.get : Projection Ctx)
  track : ∀ id, Holds (Projection.track id)

namespace Logic

variable (L : Logic) {α β γ : Type}

theorem ite {c : Prop} [Decidable c] {x y : Projection α} (hx : c → L.Holds x)
    (hy : ¬c → L.Holds y) : L.Holds (if c then x else y) := by
  split
  · exact hx ‹c›
  · exact hy ‹¬c›

/-- A step that returns at once when its condition holds. -/
theorem gate {c : Prop} [Decidable c] {a : α} {y : Projection α} (hy : ¬c → L.Holds y) :
    L.Holds (if c then Pure.pure a else y) :=
  L.ite (fun _ => L.pure a) hy

theorem forM {xs : List γ} {f : γ → Projection PUnit} (h : ∀ x ∈ xs, L.Holds (f x)) :
    L.Holds (xs.forM f) := by
  induction xs with
  | nil => exact L.pure _
  | cons x xs ih =>
    show L.Holds (f x >>= fun _ => xs.forM f)
    exact L.bind (h x (List.mem_cons_self ..)) fun _ =>
      ih fun y hy => h y (List.mem_cons_of_mem _ hy)

theorem emitAll {ms : List Mutation} (h : ∀ m ∈ ms, L.Holds (Projection.emit m)) :
    L.Holds (Projection.emitAll ms) := by
  induction ms with
  | nil => exact L.pure _
  | cons m ms ih =>
    exact L.bind (h m (List.mem_cons_self ..)) fun _ =>
      ih fun x hx => h x (List.mem_cons_of_mem _ hx)

theorem emitAll_map {f : γ → Mutation} {xs : List γ} (hf : ∀ x, L.Holds (Projection.emit (f x))) :
    L.Holds (Projection.emitAll (xs.map f)) :=
  L.emitAll fun _ hm => by
    obtain ⟨x, -, rfl⟩ := List.mem_map.1 hm
    exact hf x

theorem read : L.Holds Projection.read := L.get

theorem persist : L.Holds Projection.persist := L.bind L.get fun _ => L.pure _

theorem tokenKeys (token : EntityId) : L.Holds (Projection.tokenKeys token) :=
  L.bind L.get fun _ => L.pure _

theorem trackAll (ids : List EntityId) : L.Holds (Projection.trackAll ids) := by
  induction ids with
  | nil => exact L.pure _
  | cons id ids ih => exact L.bind (L.track id) fun _ => ih

theorem resolveAndTrack (ref : Option EntityRef) : L.Holds (Projection.resolveAndTrack ref) :=
  L.bind L.get fun _ => L.bind (L.track _) fun _ => L.pure _

theorem resolvePatch (p : Patch EntityRef) : L.Holds (Projection.resolvePatch p) := by
  cases p with
  | unset => exact L.pure _
  | set ref => exact L.bind (L.resolveAndTrack _) fun _ => L.pure _

/-- An arithmetic result, when the logic holds of stopping with the fault it may give. -/
theorem ofExcept {r : Except Overflow α}
    (hf : ∀ o, r = .error o → L.Holds (Projection.fail o : Projection α)) :
    L.Holds (Projection.ofExcept r) := by
  cases r with
  | ok a => exact L.pure a
  | error o => exact hf o rfl

/-- An arithmetic result followed by what is made of its value, which may take that the result is
that value. -/
theorem ofExcept_bind {r : Except Overflow α} {f : α → Projection β}
    (hf : ∀ o, r = .error o → L.Holds (Projection.fail o : Projection β))
    (ha : ∀ a, r = .ok a → L.Holds (f a)) : L.Holds (Projection.ofExcept r >>= f) := by
  cases r with
  | ok a => exact ha a rfl
  -- stopping, the program never reaches `f`
  | error o => exact hf o rfl

/-- What follows the check that token rows are written may take that, when they are, the record
succeeded. -/
theorem emitsTokens_bind (item : RecordItem) {f : Bool → Projection β}
    (hf : ∀ b, (b = true → item.isSuccessful = true) → L.Holds (f b)) :
    L.Holds (Handler.emitsTokens item >>= f) := by
  rw [Handler.emitsTokens, bind_assoc]
  refine L.bind L.persist fun p => ?_
  rw [pure_bind]
  exact hf _ fun h => by
    rw [Bool.and_eq_true] at h
    exact h.1

/-- What follows the check that node rows are written may take that, when they are, the record
succeeded. -/
theorem emitsNodes_bind (item : RecordItem) {f : Bool → Projection β}
    (hf : ∀ b, (b = true → item.isSuccessful = true) → L.Holds (f b)) :
    L.Holds (Handler.emitsNodes item >>= f) := by
  rw [Handler.emitsNodes, bind_assoc]
  refine L.bind L.persist fun p => ?_
  rw [pure_bind]
  exact hf _ fun h => by
    rw [Bool.and_eq_true] at h
    exact h.1

theorem trackTokenTransfers (t : TokenTransferRefs) : L.Holds (Handler.trackTokenTransfers t) :=
  L.bind (L.track _) fun _ =>
    L.bind (L.forM fun _ _ => L.bind (L.resolveAndTrack _) fun _ => L.pure _) fun _ =>
      L.forM fun _ _ => L.bind (L.resolveAndTrack _) fun _ =>
        L.bind (L.resolveAndTrack _) fun _ => L.pure _

theorem trackCollectors (fees : List CustomFeeSpec) :
    L.Holds (fees.forM fun f =>
      if let some c := f.collector then Projection.track c else Pure.pure ()) :=
  L.forM fun f _ => by
    split
    · exact L.track _
    · exact L.pure _

end Logic

/-- Writing only rows that `P` allows. -/
def Logic.keeps (P : Mutation → Prop) : Logic where
  Holds := Keeps P
  pure := Keeps.pure
  bind := Keeps.bind
  get := Keeps.get
  track := Keeps.track

/-- `Keeps.emit` stated through `Holds`, so that an argument of a generic lemma can leave the row
and the predicate to its expected type. -/
theorem Logic.keeps_holds_emit {P : Mutation → Prop} {m : Mutation} (hm : P m) :
    (Logic.keeps P).Holds (emit m) :=
  Keeps.emit hm

/-! ### Hooks and file data -/

section Hooks

variable (L : Logic) (t : Int)
  (hh : ∀ r : Hook, r.timestampRange = some (.openFrom t) → L.Holds (emit (.hook r)))
  (hs : ∀ owner hookId w u, w ∈ HookStorage.writes u →
    L.Holds (emit (.hookStorageChange (HookStorage.change t owner hookId w.1 w.2))))

include hs in
/-- The storage an update writes: one change for each write it derives. -/
theorem applyStorageUpdates_holds (owner : EntityId) (hookId : Int)
    (updates : List HookStorageUpdate) : L.Holds (applyStorageUpdates t owner hookId updates) := by
  refine L.bind L.persist fun _ => L.gate fun _ => ?_
  refine L.emitAll fun m hm => ?_
  obtain ⟨w, hw, rfl⟩ := List.mem_map.1 hm
  obtain ⟨u, -, hwu⟩ := List.mem_flatMap.1 hw
  exact hs _ _ _ _ hwu

include hh hs in
theorem createHooks_holds (owner : EntityId) (details : List HookCreationDetails) :
    L.Holds (createHooks t owner details) := by
  refine L.bind L.persist fun _ => ?_
  refine L.gate fun _ => L.forM fun d _ => ?_
  dsimp only [createHook]
  -- the hook's contract, when it has one, is touched before the shared rest
  split
  on_goal 1 => refine L.bind (L.track _) fun _ => ?_
  all_goals
    refine L.bind (hh _ rfl) fun _ => ?_
    split
    · exact applyStorageUpdates_holds L t hs _ _ _
    · exact L.pure _

include hh in
theorem deleteHooks_holds (owner : EntityId) (hookIds : List Int) :
    L.Holds (deleteHooks t owner hookIds) :=
  L.bind L.persist fun _ => L.gate fun _ => L.emitAll_map fun _ => hh _ rfl

end Hooks

theorem emitFileData_holds (L : Logic) (hd : ∀ d, L.Holds (emit (.fileData d)))
    (item : RecordItem) (file : EntityId) (contents : List UInt8) :
    L.Holds (Handler.emitFileData item file contents) :=
  L.bind L.read fun _ => L.gate fun _ => hd _

/-! ### The phases every record shares -/

section Phases

variable (L : Logic) (item : RecordItem)

theorem mem_sidecarChanges {m : Mutation}
    (hm : m ∈ item.sidecars.flatMap (sidecarChanges item)) : ∃ s, m = .contractStateChange s := by
  obtain ⟨sc, -, hm⟩ := List.mem_flatMap.1 hm
  unfold sidecarChanges at hm
  split at hm
  · obtain ⟨ch, -, rfl⟩ := List.mem_map.1 hm
    exact ⟨_, rfl⟩
  · cases hm

theorem recordBodyOnlyResult_holds (hr : ∀ r, L.Holds (emit (.contractResult r)))
    (adjust : RecordItem → ContractResult → ContractResult) (contractId : EntityId) :
    L.Holds (recordBodyOnlyResult adjust item contractId) :=
  L.bind L.persist fun _ => L.gate fun _ => hr _

/-- The storage changes of a record's sidecars, while contracts are kept. -/
theorem sidecarChanges_holds (hs : ∀ s, L.Holds (emit (.contractStateChange s))) :
    L.Holds (Projection.persist >>= fun p =>
      if p.contracts then emitAll (item.sidecars.flatMap (sidecarChanges item)) else pure ()) := by
  refine L.bind L.persist fun _ => L.ite (fun _ => ?_) fun _ => L.pure _
  refine L.emitAll fun m hm => ?_
  obtain ⟨s, rfl⟩ := mem_sidecarChanges item hm
  exact hs s

/-- The logs the EVM emitted, none of them synthetic. -/
theorem emitLogs_holds (hl : ∀ l : ContractLog, l.synthetic = false → L.Holds (emit (.contractLog l)))
    (root : EntityId) : ∀ i logs, L.Holds (emitLogs item root i logs)
  | _, [] => L.pure _
  | i, _ :: rest =>
    L.bind (L.track _) fun _ => L.bind (hl _ rfl) fun _ => emitLogs_holds hl root (i + 1) rest

/-- The EVM outcome of a record emits its result, the logs the EVM emitted and the storage
changes of its sidecars, nothing else. -/
theorem recordContractResult_holds (hr : ∀ r, L.Holds (emit (.contractResult r)))
    (hl : ∀ l : ContractLog, l.synthetic = false → L.Holds (emit (.contractLog l)))
    (hs : ∀ s, L.Holds (emit (.contractStateChange s)))
    (adjust : RecordItem → ContractResult → ContractResult) (entityId : EntityId) :
    L.Holds (recordContractResult adjust item entityId) := by
  have hsidecars := sidecarChanges_holds L item hs
  unfold recordContractResult
  split
  · dsimp only
    refine L.bind (L.track _) fun _ => ?_
    -- the sender, when there is one, is touched before the shared rest
    split
    on_goal 1 => refine L.bind (L.track _) fun _ => ?_
    all_goals
      refine L.bind (L.trackAll _) fun _ => L.bind L.persist fun _ => ?_
      refine L.ite (fun _ => ?_) fun _ => hsidecars
      exact L.bind (hr _) fun _ => L.bind (emitLogs_holds L item hl _ _ _) fun _ => hsidecars
  · exact recordBodyOnlyResult_holds L item hr adjust entityId

/-- The associations the network made, written for a record that succeeded and is no token
creation, each with the keys the resolver knows of its token. -/
theorem applyAutomaticAssociations_holds
    (ha : item.isSuccessful = true → item.creationKeys = none → ∀ account token,
      L.Holds (Projection.tokenKeys token >>= fun keys => emit (.tokenAccount
        (.association account token item.consensusTimestamp keys true)))) :
    L.Holds (applyAutomaticAssociations item) := by
  refine L.bind (L.forM fun _ _ => L.bind (L.track _) fun _ => L.track _)
    fun _ => L.bind L.persist fun _ => ?_
  refine L.gate fun h => L.forM fun _ _ => L.gate fun _ => ?_
  simp only [Bool.or_eq_true, decide_eq_true_eq, Bool.not_eq_true', not_or] at h
  exact ha (by simpa using h.1.2) (RecordItem.creationKeys_of_kind h.1.1) _ _

/-- The NFT moves of a record that succeeded, each stamped at the record's time. -/
theorem applyNftTransfers_holds
    (hn : item.isSuccessful = true → ∀ n : Nft, n.timestampRange = item.openRange →
      L.Holds (emit (.nft n))) :
    L.Holds (applyNftTransfers item) := by
  refine L.bind (L.forM fun l _ => ?_) fun _ => L.bind L.persist fun _ => ?_
  · exact L.bind (L.track _) fun _ => L.bind (L.trackAll _) fun _ =>
      L.forM fun _ _ => L.bind (L.track _) fun _ => L.track _
  refine L.gate fun h => L.forM fun _ _ => L.forM fun _ _ => L.gate fun _ => hn ?_ _ rfl
  simp only [Bool.or_eq_true, Bool.not_eq_true', not_or] at h
  simpa using h.1

/-- The balance changes of a record: stopping where a sum leaves the 64-bit range, an hbar change
for every account, the record's checked sum for it, and token changes for a record that
succeeded. -/
theorem applyBalanceChanges_holds
    (hf : ∀ {α : Type} o, item.SumOverflow o → L.Holds (Projection.fail o : Projection α))
    (he : ∀ H, Balances.hbar item.record.transferList = .ok H → ∀ e ∈ H.entries,
      L.Holds (emit (.entity
        { id := e.1, balance := some e.2, balanceTimestamp := some item.consensusTimestamp })))
    (ht : item.isSuccessful = true → ∀ account token b, L.Holds (emit (.tokenAccount
      { accountId := account, tokenId := token, balance := some b,
        balanceTimestamp := some item.consensusTimestamp }))) :
    L.Holds (applyBalanceChanges item) := by
  refine L.ofExcept_bind (fun o h => hf o (.inl h)) fun H hH =>
    L.bind (L.forM fun e he' => L.bind (L.track _) fun _ => he H hH e he') fun _ =>
      L.bind L.persist fun _ => L.gate fun h => ?_
  simp only [Bool.or_eq_true, Bool.not_eq_true', not_or] at h
  refine L.bind (L.ofExcept fun o h => hf o (.inr h)) fun _ => L.forM fun _ _ => ?_
  split
  exact L.gate fun _ => ht (by simpa using h.1) _ _ _

end Phases

end Projection

end LedgerProjection
