import LedgerProjection.Proofs.ProgramLogic

/-!
# One walk through the handlers

A handler writes rows of three shapes only (`RecordItem.HandlerRow`), the main row of the entity
the template hands it (`RecordItem.MainRow`), associations whose keys it asks the resolver for,
and synthetic logs with the index it takes for each. `Handler.Grants L M item` asks a logic `L`
for the transaction-level effects, and a companion `M` for the entity effects, to hold of
emitting just those, each where the handler writes it. The walk through the handlers is then
written once:

* `Handler.satisfies_ofBody`: the handler of every body has `L` at the transaction level and
  `M` on the entity it is handed;
* `Handler.Satisfies.run`: so has the template that runs them, for a companion that is `L`
  itself on the entities the template stamps;
* `Projection.process_holds`: with the rows the phases after the handler write
  (`Projection.PhaseGrants`), so has the projection of a record.

Each property of a record's rows is an instance: a logic, a proof of its grants, and the walk.
-/

namespace LedgerProjection

namespace Projection

/-- A companion of a logic for the entity effects of a handler: `Main e x` says what `x`, which
writes the main row of the entity `e` the template hands over, has, and `Plain` is the logic of
the steps around that row. -/
structure MainLogic where
  Plain : Logic
  Main : {α : Type} → Entity → Projection α → Prop
  bind_main : ∀ {α β : Type} {e : Entity} {x : Projection α} {f : α → Projection β},
    Plain.Holds x → (∀ a, Main e (f a)) → Main e (x >>= f)
  main_bind : ∀ {α β : Type} {e : Entity} {x : Projection α} {f : α → Projection β},
    Main e x → (∀ a, Plain.Holds (f a)) → Main e (x >>= f)

/-- A logic as its own companion: the program that writes the main row of `e` has the logic when
`e` has the property `E`, which the template's stamp gives it. -/
def Logic.main (L : Logic) (E : Entity → Prop) : MainLogic where
  Plain := L
  Main e x := E e → L.Holds x
  bind_main hx hf he := L.bind hx fun a => hf a he
  main_bind hx hf he := L.bind (hx he) hf

end Projection

namespace Handler

open Projection

/-- What a logic `L` for the transaction-level effects of the handler of `item`, and a companion
`M` for its entity effects, must hold of: emitting each row the handler writes, in the phase it
writes it; the main row of the entity handed over; an association, in a record that creates no
token, with the keys the resolver gives; and a synthetic log, with the index it takes. The last
four are written only for a record that succeeded. -/
structure Grants (L : Logic) (M : MainLogic) (item : RecordItem) : Prop where
  row : ∀ m, item.HandlerRow m → L.Holds (emit m)
  entityRow : item.isSuccessful = true → ∀ m, item.HandlerRow m → m.NonEntity →
    M.Plain.Holds (emit m)
  main : item.isSuccessful = true → ∀ e e', item.MainRow e e' → M.Main e (emit (.entity e'))
  associate : item.isSuccessful = true → item.creationKeys = none → ∀ account token automatic,
    L.Holds (Projection.tokenKeys token >>= fun keys => emit (.tokenAccount
      (.association account token item.consensusTimestamp keys automatic)))
  syntheticLog : item.isSuccessful = true → ∀ log : Int → ContractLog,
    (∀ i, (log i).synthetic = true) →
    L.Holds (Projection.nextLogIndex >>= fun i => emit (.contractLog (log i)))

/-- The effects of handler `h` for `item`: `L` at the transaction level, and, for a record that
succeeded, `M` on every entity it is handed. -/
structure Satisfies (L : Logic) (M : MainLogic) (h : Handler) (item : RecordItem) : Prop where
  onTransaction : ∀ tx, L.Holds (h.onTransaction item tx)
  onEntity : item.isSuccessful = true → ∀ e, M.Main e (h.onEntity item e)

/-- A check that returns at once for a failed record, or when `b` holds, is passed only by a
record that succeeded. -/
theorem isSuccessful_of_gate {item : RecordItem} {b : Bool}
    (h : ¬(!item.isSuccessful || b) = true) : item.isSuccessful = true := by
  simp only [Bool.or_eq_true, Bool.not_eq_true', not_or] at h
  simpa using h.1

/-- The template runs a handler's entity effects only for a record that succeeded. -/
theorem isSuccessful_of_runs {item : RecordItem} {op : EntityOperation} {id : EntityId}
    (hc : ¬(op = .none || id.isEmpty || !item.isSuccessful) = true) : item.isSuccessful = true := by
  simp only [Bool.or_eq_true, Bool.not_eq_true', not_or] at hc
  simpa using hc.2

/-- The template has every property its handler's effects have, when the companion is the logic
itself on the main entity the template stamps, read from any state. -/
theorem Satisfies.run {L : Logic} {E : Entity → Prop} {h : Handler} {item : RecordItem}
    (hs : h.Satisfies L (L.main E) item)
    (hE : ∀ c, E (h.operation.stamp (h.mainEntity c item) item.consensusTimestamp)) :
    L.Holds (h.run item) := by
  unfold Handler.run
  refine L.bind L.read fun c => ?_
  dsimp only
  split
  on_goal 1 => refine L.bind (L.track _) fun _ => ?_
  all_goals
    refine L.bind (L.track _) fun _ => ?_
    split
    on_goal 1 => refine L.bind (L.track _) fun _ => ?_
    all_goals
      refine L.bind (hs.onTransaction _) fun _ => L.gate fun hc => ?_
      exact L.bind (hs.onEntity (isSuccessful_of_runs hc) _ (hE c)) fun _ => L.pure _

/-- A logic that holds of emitting every row and of taking a log index grants a handler all it
writes, with itself as the companion on every entity. -/
theorem Grants.of_emit {L : Logic} (he : ∀ m, L.Holds (emit m))
    (hn : L.Holds Projection.nextLogIndex) (item : RecordItem) :
    Grants L (L.main fun _ => True) item where
  row m _ := he m
  entityRow _ m _ _ := he m
  main _ _ _ _ _ := he _
  associate _ _ _ _ _ := L.bind (L.tokenKeys _) fun _ => he _
  syntheticLog _ _ _ := L.bind hn fun _ => he _

theorem plainAt_of_mem_mintedSerials {token : EntityId} {t : Int} {serials : List Int}
    {metadata : List (List UInt8)} {m : Mutation} (hm : m ∈ mintedSerials token t serials metadata) :
    m.PlainAt t := by
  obtain ⟨_, -, rfl⟩ := List.mem_map.1 hm
  rfl

theorem plainAt_of_mem_burnedSerials {token : EntityId} {t : Int} {serials : List Int}
    {m : Mutation} (hm : m ∈ burnedSerials token t serials) : m.PlainAt t := by
  obtain ⟨_, -, rfl⟩ := List.mem_map.1 hm
  rfl

theorem plainAt_of_mem_signatureRows {item : RecordItem} {schedule : EntityId} :
    ∀ {seen : List (List UInt8)} {pairs : List SignaturePair} {m : Mutation},
      m ∈ signatureRows item schedule seen pairs → m.PlainAt item.consensusTimestamp
  | _, [], _, hm => by simp [signatureRows] at hm
  | seen, p :: rest, m, hm => by
    rw [signatureRows] at hm
    split at hm
    · exact plainAt_of_mem_signatureRows hm
    · rcases List.mem_cons.1 hm with rfl | hm
      · trivial
      · exact plainAt_of_mem_signatureRows hm

section Grants

variable {L : Logic} {M : MainLogic} {item : RecordItem} (hg : Grants L M item)
include hg

/-- A plain row written at the transaction level of a record that succeeded. -/
theorem Grants.plain (hs : item.isSuccessful = true) {m : Mutation}
    (hm : m.PlainAt item.consensusTimestamp) : L.Holds (emit m) :=
  hg.row m (.of_plainAt hm hs)

/-- A plain row written among the entity effects. -/
theorem Grants.entityPlain (hs : item.isSuccessful = true) {m : Mutation}
    (hm : m.PlainAt item.consensusTimestamp) : M.Plain.Holds (emit m) :=
  hg.entityRow hs m (.of_plainAt hm hs) hm.nonEntity

/-- The hooks an entity effect creates. -/
theorem Grants.createHooks (hs : item.isSuccessful = true) (owner : EntityId)
    (details : List HookCreationDetails) :
    M.Plain.Holds (Projection.createHooks item.consensusTimestamp owner details) :=
  createHooks_holds M.Plain _ (fun _ hr => hg.entityPlain hs hr)
    (fun o k w _ hw => hg.entityPlain hs (Mutation.plainAt_storageChange o k w hw)) owner details

/-- The hooks an entity effect deletes. -/
theorem Grants.deleteHooks (hs : item.isSuccessful = true) (owner : EntityId)
    (hookIds : List Int) :
    M.Plain.Holds (Projection.deleteHooks item.consensusTimestamp owner hookIds) :=
  deleteHooks_holds M.Plain _ (fun _ hr => hg.entityPlain hs hr) owner hookIds

/-- A synthetic log, while synthetic logs are kept. -/
theorem Grants.emitSyntheticLog (hs : item.isSuccessful = true) (token : EntityId)
    (topic0 : List UInt8) (owner spender : EntityId) (topic3 : Option (List UInt8))
    (data : List UInt8) :
    L.Holds (Projection.emitSyntheticLog item token topic0 owner spender topic3 data) :=
  L.bind L.persist fun _ => L.gate fun _ => hg.syntheticLog hs _ fun _ => rfl

/-! ### Allowances -/

section Allowances

variable (hs : item.isSuccessful = true)
include hs

theorem Grants.approveCrypto :
    ∀ (seen : List (EntityId × EntityId)) (grants : List CryptoAllowanceGrant),
      L.Holds (Projection.approveCrypto item seen grants)
  | _, [] => L.pure _
  | seen, g :: rest => by
    rw [Projection.approveCrypto]
    refine L.bind L.read fun c => ?_
    split
    · split
      · exact Grants.approveCrypto seen rest
      · exact L.bind (L.track _) fun _ => L.bind (L.track _) fun _ =>
          L.bind (hg.plain hs rfl) fun _ => Grants.approveCrypto _ rest
    · exact Grants.approveCrypto seen rest

theorem Grants.approveTokens :
    ∀ (seen : List (EntityId × EntityId × EntityId)) (grants : List TokenAllowanceGrant),
      L.Holds (Projection.approveTokens item seen grants)
  | _, [] => L.pure _
  | seen, g :: rest => by
    rw [Projection.approveTokens]
    refine L.bind L.read fun c => ?_
    split
    · split
      · exact Grants.approveTokens seen rest
      · exact L.bind (L.track _) fun _ => L.bind (L.track _) fun _ =>
          L.bind (L.track _) fun _ => L.bind (hg.plain hs rfl) fun _ =>
          L.bind (hg.emitSyntheticLog hs _ _ _ _ _ _) fun _ => Grants.approveTokens _ rest
    · exact Grants.approveTokens seen rest

theorem Grants.approveSerials (token owner spender delegating : EntityId) :
    ∀ (seen : List (EntityId × Int)) (serials : List Int),
      L.Holds (Projection.approveSerials item token owner spender delegating seen serials)
  | _, [] => L.pure _
  | seen, n :: rest => by
    rw [Projection.approveSerials]
    split
    · exact Grants.approveSerials token owner spender delegating seen rest
    · exact L.bind (hg.plain hs rfl) fun _ =>
        L.bind (hg.emitSyntheticLog hs _ _ _ _ _ _) fun _ =>
          Grants.approveSerials token owner spender delegating _ rest

theorem Grants.approveNfts :
    ∀ (seenAll : List (EntityId × EntityId × EntityId)) (seenSerials : List (EntityId × Int))
      (grants : List NftAllowanceGrant),
      L.Holds (Projection.approveNfts item seenAll seenSerials grants)
  | _, _, [] => L.pure _
  | seenAll, seenSerials, g :: rest => by
    rw [Projection.approveNfts]
    refine L.bind L.read fun c => ?_
    split
    · refine L.bind (L.track _) fun _ => L.bind (L.track _) fun _ =>
        L.bind (L.track _) fun _ => ?_
      dsimp only
      -- an approval of all serials is written once per key; every branch then goes on alike
      split
      on_goal 1 =>
        split
        on_goal 2 =>
          refine L.bind (hg.plain hs rfl) fun _ =>
            L.bind (hg.emitSyntheticLog hs _ _ _ _ _ _) fun _ => ?_
      all_goals
        exact L.bind (L.pure _) fun seenAll' => L.bind (L.track _) fun _ =>
          L.bind (hg.approveSerials hs _ _ _ _ _ _) fun seenSerials' =>
            Grants.approveNfts seenAll' seenSerials' rest
    · exact Grants.approveNfts seenAll seenSerials rest

theorem Grants.clearSerials (token : EntityId) :
    ∀ (seen : List (EntityId × Int)) (serials : List Int),
      L.Holds (Projection.clearSerials item token seen serials)
  | _, [] => L.pure _
  | seen, n :: rest => by
    rw [Projection.clearSerials]
    split
    · exact Grants.clearSerials token seen rest
    · exact L.bind (hg.plain hs rfl) fun _ => Grants.clearSerials token _ rest

theorem Grants.removeNftAllowances :
    ∀ (seen : List (EntityId × Int)) (removals : List NftRemoveAllowance),
      L.Holds (Projection.removeNftAllowances item seen removals)
  | _, [] => L.pure _
  | seen, r :: rest => by
    rw [Projection.removeNftAllowances]
    refine L.bind L.read fun c => ?_
    split
    · exact L.bind (L.track _) fun _ => L.bind (L.track _) fun _ =>
        L.bind (hg.clearSerials hs _ _ _) fun seen' => Grants.removeNftAllowances seen' rest
    · exact Grants.removeNftAllowances seen rest

end Allowances

/-! ### Supply and signatures -/

/-- A supply change of a record that succeeded: the token's supply row, then its serial rows. -/
theorem Grants.emitSupply (hs : item.isSuccessful = true) (token : EntityId)
    {serials : List Mutation} (hr : ∀ m ∈ serials, m.PlainAt item.consensusTimestamp) :
    L.Holds (Handler.emitSupply item token serials) :=
  L.bind (hg.plain hs rfl) fun _ => L.emitAll fun m hm => hg.plain hs (hr m hm)

/-- The signatures toward a schedule, which are written only for a record that succeeded. -/
theorem Grants.emitSignatures (schedule : EntityId) :
    L.Holds (Handler.emitSignatures item schedule) := by
  refine L.bind L.persist fun _ => L.gate fun h => ?_
  have hs : item.isSuccessful = true := by
    simp only [Bool.or_eq_true, Bool.not_eq_true', not_or] at h
    simpa using h.1.2
  exact L.emitAll fun m hm => hg.plain hs (plainAt_of_mem_signatureRows hm)

omit hg in
/-- The rows a token kind writes for its token, when tokens are written. -/
theorem tokenRows (tx : Transaction) {x : EntityId → Projection Unit}
    (hx : item.isSuccessful = true → ∀ token, L.Holds (x token)) :
    L.Holds (do
      let some token := tx.entityId | return
      if !(← emitsTokens item) then return
      x token) := by
  split
  · exact L.emitsTokens_bind item fun _ hb => L.gate fun h => hx (hb (by simpa using h)) _
  · exact L.pure _

/-! ### The handler of every kind -/

/-- A kind whose entity effects write the entity as it is handed over. -/
theorem satisfies_entityOnly {h : Handler} (ht : ∀ tx, L.Holds (h.onTransaction item tx))
    (he : ∀ e, h.onEntity item e = emit (.entity e)) : h.Satisfies L M item where
  onTransaction := ht
  onEntity hs e := by
    rw [he]
    exact hg.main hs _ _ (.refl item e)

theorem satisfies_rowOnly : rowOnly.Satisfies L M item :=
  satisfies_entityOnly hg (fun _ => L.pure _) fun _ => rfl

/-! #### Crypto service -/

theorem satisfies_cryptoCreate (body : CryptoCreateBody) :
    (cryptoCreate body).Satisfies L M item where
  onTransaction _ := L.bind (L.resolveAndTrack _) fun _ =>
    L.bind (L.resolveAndTrack _) fun _ => L.pure _
  onEntity hs e := by
    -- a created account starts with a zero balance, then makes its election
    refine M.bind_main M.Plain.read fun _ =>
      M.main_bind (hg.main hs _ _ (.withStaking ?_ _ _ _)) fun _ => hg.createHooks hs _ _
    exact ⟨rfl, .inr rfl, id⟩

theorem satisfies_cryptoUpdate (body : CryptoUpdateBody) :
    (cryptoUpdate body).Satisfies L M item where
  onTransaction _ := L.pure _
  onEntity hs e := by
    refine M.bind_main (M.Plain.resolvePatch _) fun _ => M.bind_main (M.Plain.resolvePatch _)
      fun _ => M.main_bind (hg.main hs _ _ (.withStaking ?_ _ _ _)) fun _ =>
        M.Plain.bind (hg.createHooks hs _ _) fun _ => hg.deleteHooks hs _ _
    exact ⟨rfl, .inl rfl, id⟩

theorem satisfies_cryptoDelete (body : CryptoDeleteBody) :
    (cryptoDelete body).Satisfies L M item where
  onTransaction _ := L.bind (L.resolveAndTrack _) fun _ => L.pure _
  onEntity hs _ := M.bind_main M.Plain.read fun _ => hg.main hs _ _ ⟨rfl, .inl rfl, id⟩

theorem satisfies_cryptoTransfer (body : CryptoTransferBody) :
    (cryptoTransfer body).Satisfies L M item :=
  satisfies_entityOnly hg (fun _ =>
    L.bind (L.forM fun _ _ => L.bind (L.resolveAndTrack _) fun _ => L.pure _)
      fun _ => L.bind (L.forM fun _ _ => L.trackTokenTransfers _) fun _ =>
        L.trackAll _) fun _ => rfl

theorem satisfies_approveAllowance (body : CryptoApproveAllowanceBody) :
    (approveAllowance body).Satisfies L M item :=
  satisfies_entityOnly hg (fun _ => L.ite (fun hs =>
    L.bind (hg.approveCrypto hs _ _) fun _ => L.bind (hg.approveTokens hs _ _) fun _ =>
      hg.approveNfts hs _ _ _) fun _ => L.pure _) fun _ => rfl

theorem satisfies_deleteAllowance (body : CryptoDeleteAllowanceBody) :
    (deleteAllowance body).Satisfies L M item :=
  satisfies_entityOnly hg (fun _ =>
    L.ite (fun hs => hg.removeNftAllowances hs _ _) fun _ => L.pure _) fun _ => rfl

theorem satisfies_liveHash (adds : Bool) (body : LiveHashBody) :
    (liveHash adds body).Satisfies L M item := by
  refine satisfies_entityOnly hg (fun tx => ?_) fun _ => rfl
  dsimp only [liveHash]
  split
  · exact L.pure _
  · split
    · exact L.bind L.persist fun _ => L.gate fun h => hg.plain (isSuccessful_of_gate h) trivial
    · exact L.pure _

/-! #### Token service -/

theorem satisfies_tokenCreate {body : TokenCreateBody} (hb : item.body = .tokenCreate body) :
    (tokenCreate body).Satisfies L M item where
  onTransaction _ := L.bind (L.resolveAndTrack _) fun _ =>
    L.bind (L.resolveAndTrack _) fun _ => L.trackCollectors _
  onEntity hs e := by
    refine M.bind_main M.Plain.read fun c => M.main_bind (hg.main hs _ _ ⟨rfl, .inl rfl, id⟩)
      fun _ => M.Plain.bind M.Plain.persist fun _ => M.Plain.gate fun _ => ?_
    refine M.Plain.bind (hg.entityPlain hs rfl) fun _ =>
      M.Plain.bind (hg.entityPlain hs rfl) fun _ => M.Plain.forM fun entry _ => ?_
    split
    -- the treasury, the in-token collectors and the record's own: each with the body's keys
    exact M.Plain.gate fun _ => M.Plain.bind (M.Plain.track _) fun _ =>
      hg.entityRow hs _ (.creationAssociation _ _ _ hb hs) trivial

theorem satisfies_tokenUpdate (body : TokenUpdateBody) :
    (tokenUpdate body).Satisfies L M item where
  onTransaction _ := L.pure _
  onEntity hs e := by
    refine M.bind_main (M.Plain.resolvePatch _) fun _ =>
      M.main_bind (hg.main hs _ _ ⟨rfl, .inl rfl, id⟩) fun _ => ?_
    refine M.Plain.bind M.Plain.persist fun _ => M.Plain.gate fun _ => ?_
    refine M.Plain.bind (M.Plain.resolvePatch _) fun _ => ?_
    exact M.Plain.ite (fun _ => hg.entityPlain hs rfl) fun _ => M.Plain.pure _

theorem satisfies_tokenFeeScheduleUpdate (body : TokenFeeScheduleUpdateBody) :
    (tokenFeeScheduleUpdate body).Satisfies L M item :=
  satisfies_entityOnly hg (fun tx => L.bind (L.trackCollectors _) fun _ =>
    tokenRows tx fun hs _ => hg.plain hs rfl) fun _ => rfl

theorem satisfies_tokenAccountStatus (freeze : Option TokenFreezeStatus)
    (kyc : Option TokenKycStatus) (body : TokenAccountBody) :
    (tokenAccountStatus freeze kyc body).Satisfies L M item := by
  refine satisfies_entityOnly hg (fun tx => ?_) fun _ => rfl
  refine L.bind (L.resolveAndTrack _) fun _ => ?_
  split
  · refine L.emitsTokens_bind item fun _ hb => L.gate fun h => ?_
    simp only [Bool.or_eq_true, Bool.not_eq_true', not_or] at h
    -- a status row: stamped at the record's time, with no balance and no association
    exact hg.plain (hb (by simpa using h.2)) ⟨rfl, rfl, nofun⟩
  · exact L.pure _

theorem satisfies_tokenPause (status : TokenPauseStatus) (body : TokenRefBody) :
    (tokenPause status body).Satisfies L M item :=
  satisfies_entityOnly hg (fun tx => tokenRows tx fun hs _ => hg.plain hs rfl) fun _ => rfl

theorem satisfies_tokenAssociation (hk : item.creationKeys = none) (associates : Bool)
    (body : TokenAssociationBody) : (tokenAssociation associates body).Satisfies L M item := by
  refine satisfies_entityOnly hg (fun tx => ?_) fun _ => rfl
  refine L.bind (L.trackAll _) fun _ => ?_
  split
  · refine L.emitsTokens_bind item fun _ hb => L.gate fun h => L.forM fun token _ => ?_
    have hs := hb (by simpa using h)
    -- an association asks the resolver for the token's keys; a dissociation is a plain row
    exact L.ite (fun _ => hg.associate hs hk _ _ _) fun _ => hg.plain hs ⟨rfl, rfl, nofun⟩
  · exact L.pure _

theorem satisfies_tokenMint (body : TokenMintBody) : (tokenMint body).Satisfies L M item :=
  satisfies_entityOnly hg (fun tx => tokenRows tx fun hs _ =>
    hg.emitSupply hs _ fun _ => plainAt_of_mem_mintedSerials) fun _ => rfl

theorem satisfies_tokenBurn (body : TokenBurnBody) : (tokenBurn body).Satisfies L M item :=
  satisfies_entityOnly hg (fun tx => tokenRows tx fun hs _ =>
    hg.emitSupply hs _ fun _ => plainAt_of_mem_burnedSerials) fun _ => rfl

theorem satisfies_tokenWipe (body : TokenWipeBody) : (tokenWipe body).Satisfies L M item :=
  satisfies_entityOnly hg (fun tx => L.bind (L.resolveAndTrack _) fun _ =>
    tokenRows tx fun hs _ =>
      hg.emitSupply hs _ fun _ => plainAt_of_mem_burnedSerials) fun _ => rfl

theorem satisfies_tokenReject (body : TokenRejectBody) : (tokenReject body).Satisfies L M item := by
  refine satisfies_entityOnly hg (fun _ => ?_) fun _ => rfl
  dsimp only [tokenReject]
  -- the owner, or the payer when none is named, is touched before the rejected tokens
  split
  · split
    · exact L.bind (L.track _) fun _ => L.trackAll _
    · exact L.bind (L.resolveAndTrack _) fun _ => L.bind (L.pure _) fun _ => L.trackAll _
  · exact L.bind (L.track _) fun _ => L.trackAll _

theorem satisfies_tokenUpdateNfts (body : TokenUpdateNftsBody) :
    (tokenUpdateNfts body).Satisfies L M item := by
  refine satisfies_entityOnly hg (fun _ => ?_) fun _ => rfl
  dsimp only [tokenUpdateNfts]
  split
  · split
    · refine L.emitsTokens_bind item fun _ hb => L.gate fun h => ?_
      exact L.emitAll_map fun _ => hg.plain (hb (by simpa using h)) rfl
    · exact L.pure _
  · exact L.pure _

theorem satisfies_tokenAirdrop (body : TokenAirdropBody) :
    (tokenAirdrop body).Satisfies L M item := by
  refine satisfies_entityOnly hg (fun _ => ?_) fun _ => rfl
  refine L.bind (L.forM fun _ _ => L.trackTokenTransfers _) fun _ =>
    L.bind L.persist fun _ => L.gate fun h => L.forM fun _ _ => ?_
  exact L.bind (L.track _) fun _ => L.bind (L.track _) fun _ =>
    hg.plain (isSuccessful_of_gate h) rfl

theorem satisfies_pendingAirdrops (state : TokenAirdropState) (body : PendingAirdropsBody) :
    (pendingAirdrops state body).Satisfies L M item := by
  refine satisfies_entityOnly hg (fun _ => ?_) fun _ => rfl
  refine L.bind L.persist fun _ => L.forM fun _ _ => ?_
  refine L.bind (L.resolveAndTrack _) fun _ =>
    L.bind (L.resolveAndTrack _) fun _ => L.bind (L.track _) fun _ => L.gate fun h => ?_
  -- the outcome was read once, before the loop
  have hs : item.isSuccessful = true := by
    revert h
    cases item.isSuccessful <;> simp
  exact hg.plain hs rfl

/-! #### Smart contract service -/

theorem satisfies_contractCall (body : ContractCallBody) : (contractCall body).Satisfies L M item :=
  satisfies_entityOnly hg (fun _ => L.pure _) fun _ => rfl

theorem satisfies_contractCreate (body : ContractCreateBody) :
    (contractCreate body).Satisfies L M item where
  onTransaction _ := by
    refine L.bind (L.resolveAndTrack _) fun _ => L.bind (L.resolveAndTrack _) fun _ => ?_
    split
    · exact L.track _
    · exact L.pure _
  onEntity hs e := by
    refine M.bind_main M.Plain.read fun c =>
      M.main_bind (hg.main hs _ _ (.withStaking ?_ _ _ _)) fun _ =>
        M.Plain.bind M.Plain.persist fun _ => ?_
    · exact ⟨rfl, .inl rfl, id⟩
    dsimp only
    refine M.Plain.ite (fun _ => M.Plain.bind (hg.entityPlain hs trivial) fun _ => ?_) fun _ => ?_
    all_goals exact hg.createHooks hs _ _

theorem satisfies_contractUpdate (body : ContractUpdateBody) :
    (contractUpdate body).Satisfies L M item where
  onTransaction _ := L.pure _
  onEntity hs e := by
    refine M.bind_main (M.Plain.resolvePatch _) fun _ => M.bind_main (M.Plain.resolvePatch _)
      fun _ => M.main_bind (hg.main hs _ _ (.withStaking ?_ _ _ _)) fun _ =>
        M.Plain.bind (hg.createHooks hs _ _) fun _ => hg.deleteHooks hs _ _
    exact ⟨rfl, .inl rfl, id⟩

theorem satisfies_contractDelete (body : ContractDeleteBody) :
    (contractDelete body).Satisfies L M item where
  onTransaction _ := L.bind (L.resolveAndTrack _) fun _ =>
    L.bind (L.resolveAndTrack _) fun _ => L.pure _
  onEntity hs _ := M.bind_main M.Plain.read fun _ => hg.main hs _ _ ⟨rfl, .inl rfl, id⟩

theorem satisfies_ethereumTransaction (body : EthereumTransactionBody) :
    (ethereumTransaction body).Satisfies L M item := by
  refine satisfies_entityOnly hg (fun _ => ?_) fun _ => rfl
  dsimp only [ethereumTransaction]
  -- the call data file, when named, is touched before the shared rest
  split
  on_goal 1 => refine L.bind (L.track _) fun _ => ?_
  all_goals
    refine L.bind L.persist fun _ => ?_
    split
    -- the ethereum row is written whatever the outcome
    on_goal 1 => refine L.bind (hg.row _ (.plain trivial (.inl trivial))) fun _ => ?_
    all_goals
      refine L.gate fun h => ?_
      have hs : item.isSuccessful = true := by simpa using h
      split
      · split
        · -- the signer's nonce advances once the transaction succeeded
          exact L.ite (fun _ => L.bind (L.track _) fun _ => hg.row _ (.nonce _ _ hs))
            fun _ => L.pure _
        · exact L.pure _
      · exact L.pure _

/-! #### Consensus service -/

theorem satisfies_createTopic (body : ConsensusCreateTopicBody) :
    (createTopic body).Satisfies L M item where
  onTransaction _ := L.bind (L.resolveAndTrack _) fun _ => L.pure _
  onEntity hs e := by
    refine M.bind_main M.Plain.read fun c => M.main_bind (hg.main hs _ _ ⟨rfl, .inl rfl, id⟩)
      fun _ => M.Plain.bind M.Plain.persist fun _ => ?_
    exact M.Plain.gate fun _ =>
      M.Plain.bind (hg.entityPlain hs rfl) fun _ => hg.entityPlain hs rfl

theorem satisfies_updateTopic (body : ConsensusUpdateTopicBody) :
    (updateTopic body).Satisfies L M item where
  onTransaction _ := L.pure _
  onEntity hs e := by
    refine M.bind_main (M.Plain.resolvePatch _) fun _ =>
      M.main_bind (hg.main hs _ _ ⟨rfl, .inl rfl, id⟩) fun _ => ?_
    refine M.Plain.bind M.Plain.persist fun _ => M.Plain.gate fun _ => ?_
    dsimp only
    -- a key change writes a topic row before the shared rest
    split
    on_goal 1 => refine M.Plain.bind (hg.entityPlain hs rfl) fun _ => ?_
    all_goals
      split
      · exact hg.entityPlain hs rfl
      · exact M.Plain.pure _

theorem satisfies_submitMessage (body : ConsensusSubmitMessageBody) :
    (submitMessage body).Satisfies L M item := by
  refine satisfies_entityOnly hg (fun _ => ?_) fun _ => rfl
  dsimp only [submitMessage]
  split
  · exact L.bind L.persist fun _ => L.gate fun h => hg.plain (isSuccessful_of_gate h) trivial
  · exact L.pure _

/-! #### File service -/

theorem satisfies_fileCreate (body : FileCreateBody) : (fileCreate body).Satisfies L M item where
  onTransaction _ := L.pure _
  onEntity hs _ := M.main_bind (hg.main hs _ _ ⟨rfl, .inl rfl, id⟩) fun _ =>
    emitFileData_holds M.Plain (fun _ => hg.entityPlain hs trivial) item _ _

theorem satisfies_fileUpdate (body : FileUpdateBody) : (fileUpdate body).Satisfies L M item where
  onTransaction _ := L.pure _
  onEntity hs e := by
    refine M.main_bind (hg.main hs _ _ ⟨rfl, .inl rfl, id⟩) fun _ => ?_
    split
    · exact emitFileData_holds M.Plain (fun _ => hg.entityPlain hs trivial) item _ _
    · exact M.Plain.pure _

theorem satisfies_fileAppend (body : FileAppendBody) : (fileAppend body).Satisfies L M item := by
  refine satisfies_entityOnly hg (fun _ => ?_) fun _ => rfl
  dsimp only [fileAppend]
  split
  · exact L.ite (fun hs => emitFileData_holds L (fun _ => hg.plain hs trivial) item _ _)
      fun _ => L.pure _
  · exact L.pure _

theorem satisfies_systemDelete (body : SystemDeleteBody) :
    (systemDelete body).Satisfies L M item where
  onTransaction _ := L.pure _
  onEntity hs _ := hg.main hs _ _ ⟨rfl, .inl rfl, id⟩

/-! #### Nodes -/

theorem satisfies_nodeCreate (body : NodeCreateBody) : (nodeCreate body).Satisfies L M item := by
  refine satisfies_entityOnly hg (fun _ => ?_) fun _ => rfl
  refine L.bind (L.resolveAndTrack _) fun _ =>
    L.emitsNodes_bind item fun _ hb => L.gate fun h => ?_
  split
  · exact hg.plain (hb (by simpa using h)) rfl
  · exact L.pure _

theorem satisfies_nodeUpdate (body : NodeUpdateBody) : (nodeUpdate body).Satisfies L M item :=
  satisfies_entityOnly hg (fun _ => L.bind (L.resolvePatch _) fun _ =>
    L.emitsNodes_bind item fun _ hb => L.gate fun h =>
      hg.plain (hb (by simpa using h)) rfl) fun _ => rfl

theorem satisfies_nodeDelete (body : NodeDeleteBody) : (nodeDelete body).Satisfies L M item :=
  satisfies_entityOnly hg (fun _ => L.emitsNodes_bind item fun _ hb => L.gate fun h =>
    hg.plain (hb (by simpa using h)) rfl) fun _ => rfl

theorem satisfies_nodeStakeUpdate (body : NodeStakeUpdateBody) :
    (nodeStakeUpdate body).Satisfies L M item :=
  satisfies_entityOnly hg (fun _ => L.emitsNodes_bind item fun _ hb => L.gate fun h =>
    L.emitAll_map fun _ => hg.plain (hb (by simpa using h)) trivial) fun _ => rfl

/-! #### Schedules -/

theorem satisfies_scheduleCreate (body : ScheduleCreateBody) :
    (scheduleCreate body).Satisfies L M item where
  onTransaction _ := L.bind (L.resolveAndTrack _) fun _ => hg.emitSignatures _
  onEntity hs e := by
    refine M.main_bind (hg.main hs _ _ ⟨rfl, .inl rfl, id⟩) fun _ =>
      M.Plain.bind M.Plain.persist fun _ => ?_
    exact M.Plain.gate fun _ => M.Plain.bind M.Plain.read fun _ => hg.entityPlain hs trivial

theorem satisfies_scheduleSign (body : ScheduleRefBody) : (scheduleSign body).Satisfies L M item :=
  satisfies_entityOnly hg (fun _ => hg.emitSignatures _) fun _ => rfl

/-! #### Utilities -/

theorem satisfies_utilPrng (body : UtilPrngBody) : (utilPrng body).Satisfies L M item := by
  refine satisfies_entityOnly hg (fun _ => ?_) fun _ => rfl
  refine L.bind L.persist fun _ => L.gate fun h => ?_
  dsimp only
  exact L.gate fun _ => hg.plain (isSuccessful_of_gate h) trivial

theorem satisfies_hookStore (body : HookStoreBody) : (hookStore body).Satisfies L M item := by
  refine satisfies_entityOnly hg (fun _ => ?_) fun _ => rfl
  dsimp only [hookStore]
  -- the owner is the payer unless another one is named; every branch then goes on alike
  split
  on_goal 1 =>
    split
    on_goal 1 => refine L.bind (L.pure _) fun _ => ?_
    on_goal 2 => refine L.bind (L.resolveAndTrack _) fun _ => ?_
  on_goal 3 => refine L.bind (L.pure _) fun _ => ?_
  all_goals
    refine L.gate fun h => ?_
    have hs := isSuccessful_of_gate h
    exact applyStorageUpdates_holds L _
      (fun o k w _ hw => hg.plain hs (Mutation.plainAt_storageChange o k w hw)) _ _ _

/-! #### Every kind -/

/-- The effects of the handler of every body of `item` have the properties `L` and `M` grant. -/
theorem satisfies_ofBody : ∀ body, item.body = body → (ofBody body).Satisfies L M item
  | .consensusCreateTopic b, _ => satisfies_createTopic hg b
  | .consensusUpdateTopic b, _ => satisfies_updateTopic hg b
  | .consensusDeleteTopic _, _ => satisfies_entityOnly hg (fun _ => L.pure _) fun _ => rfl
  | .consensusSubmitMessage b, _ => satisfies_submitMessage hg b
  | .contractCall b, _ => satisfies_contractCall hg b
  | .contractCreate b, _ => satisfies_contractCreate hg b
  | .contractUpdate b, _ => satisfies_contractUpdate hg b
  | .contractDelete b, _ => satisfies_contractDelete hg b
  | .cryptoAddLiveHash b, _ => satisfies_liveHash hg true b
  | .cryptoDeleteLiveHash b, _ => satisfies_liveHash hg false b
  | .cryptoApproveAllowance b, _ => satisfies_approveAllowance hg b
  | .cryptoDeleteAllowance b, _ => satisfies_deleteAllowance hg b
  | .cryptoCreate b, _ => satisfies_cryptoCreate hg b
  | .cryptoUpdate b, _ => satisfies_cryptoUpdate hg b
  | .cryptoDelete b, _ => satisfies_cryptoDelete hg b
  | .cryptoTransfer b, _ => satisfies_cryptoTransfer hg b
  | .ethereumTransaction b, _ => satisfies_ethereumTransaction hg b
  | .fileCreate b, _ => satisfies_fileCreate hg b
  | .fileUpdate b, _ => satisfies_fileUpdate hg b
  | .fileAppend b, _ => satisfies_fileAppend hg b
  | .fileDelete _, _ => satisfies_entityOnly hg (fun _ => L.pure _) fun _ => rfl
  | .freeze _, _ => satisfies_rowOnly hg
  | .nodeCreate b, _ => satisfies_nodeCreate hg b
  | .nodeUpdate b, _ => satisfies_nodeUpdate hg b
  | .nodeDelete b, _ => satisfies_nodeDelete hg b
  | .nodeStakeUpdate b, _ => satisfies_nodeStakeUpdate hg b
  | .scheduleCreate b, _ => satisfies_scheduleCreate hg b
  | .scheduleSign b, _ => satisfies_scheduleSign hg b
  | .scheduleDelete _, _ => satisfies_entityOnly hg (fun _ => L.pure _) fun _ => rfl
  | .systemDelete b, _ => satisfies_systemDelete hg b
  | .systemUndelete _, _ => satisfies_entityOnly hg (fun _ => L.pure _) fun _ => rfl
  | .tokenAirdrop b, _ => satisfies_tokenAirdrop hg b
  | .tokenCancelAirdrop b, _ => satisfies_pendingAirdrops hg .cancelled b
  | .tokenClaimAirdrop b, _ => satisfies_pendingAirdrops hg .claimed b
  | .tokenAssociate b, hb =>
    satisfies_tokenAssociation hg (by rw [RecordItem.creationKeys, hb]) true b
  | .tokenDissociate b, hb =>
    satisfies_tokenAssociation hg (by rw [RecordItem.creationKeys, hb]) false b
  | .tokenCreate _, hb => satisfies_tokenCreate hg hb
  | .tokenUpdate b, _ => satisfies_tokenUpdate hg b
  | .tokenDelete _, _ => satisfies_entityOnly hg (fun _ => L.pure _) fun _ => rfl
  | .tokenFeeScheduleUpdate b, _ => satisfies_tokenFeeScheduleUpdate hg b
  | .tokenFreeze b, _ => satisfies_tokenAccountStatus hg (some .frozen) none b
  | .tokenUnfreeze b, _ => satisfies_tokenAccountStatus hg (some .unfrozen) none b
  | .tokenGrantKyc b, _ => satisfies_tokenAccountStatus hg none (some .granted) b
  | .tokenRevokeKyc b, _ => satisfies_tokenAccountStatus hg none (some .revoked) b
  | .tokenPause b, _ => satisfies_tokenPause hg .paused b
  | .tokenUnpause b, _ => satisfies_tokenPause hg .unpaused b
  | .tokenMint b, _ => satisfies_tokenMint hg b
  | .tokenBurn b, _ => satisfies_tokenBurn hg b
  | .tokenWipe b, _ => satisfies_tokenWipe hg b
  | .tokenReject b, _ => satisfies_tokenReject hg b
  | .tokenUpdateNfts b, _ => satisfies_tokenUpdateNfts hg b
  | .hookStore b, _ => satisfies_hookStore hg b
  | .utilPrng b, _ => satisfies_utilPrng hg b
  | .uncheckedSubmit _, _ => satisfies_rowOnly hg
  | .atomicBatch _, _ => satisfies_rowOnly hg
  | .unknown, _ => satisfies_rowOnly hg

/-- The handler of a record has the properties its grants give. -/
theorem Grants.satisfies : (ofBody item.body).Satisfies L M item :=
  satisfies_ofBody hg item.body rfl

end Grants

end Handler

/-! ### The projection of a record -/

namespace Projection

/-- What a logic must hold of the rows the phases after a record's handler write: its contract
result, the logs the EVM emitted, its storage changes, the NFT moves and token balance changes of
a record that succeeded, the hbar balance changes, each the record's checked sum for its account,
the transaction row, and stopping where a sum of its transfers leaves the 64-bit range. -/
structure PhaseGrants (L : Logic) (item : RecordItem) : Prop where
  result : ∀ r, L.Holds (emit (.contractResult r))
  log : ∀ l : ContractLog, l.synthetic = false → L.Holds (emit (.contractLog l))
  stateChange : ∀ s, L.Holds (emit (.contractStateChange s))
  nft : item.isSuccessful = true → ∀ n : Nft, n.timestampRange = item.openRange →
    L.Holds (emit (.nft n))
  hbar : ∀ H, Balances.hbar item.record.transferList = .ok H → ∀ e ∈ H.entries,
    L.Holds (emit (.entity
      { id := e.1, balance := some e.2, balanceTimestamp := some item.consensusTimestamp }))
  tokenBalance : item.isSuccessful = true → ∀ account token b, L.Holds (emit (.tokenAccount
    { accountId := account, tokenId := token, balance := some b,
      balanceTimestamp := some item.consensusTimestamp }))
  transaction : ∀ tx, L.Holds (emit (.transaction tx))
  sum : ∀ {α : Type} o, item.SumOverflow o → L.Holds (Projection.fail o : Projection α)

variable {L : Logic} {item : RecordItem}

/-- A logic that holds of emitting every row and of stopping with every fault grants the phases
all they write. -/
theorem PhaseGrants.of_emit (he : ∀ m, L.Holds (emit m))
    (hf : ∀ {α : Type} o, L.Holds (Projection.fail o : Projection α)) : PhaseGrants L item where
  result _ := he _
  log _ _ := he _
  stateChange _ := he _
  nft _ _ _ := he _
  hbar _ _ _ _ := he _
  tokenBalance _ _ _ _ := he _
  transaction _ := he _
  sum o _ := hf o

/-- What follows a record's handler, for the transaction row `tx` it gave and the adjustment
`adjust` of its contract result, when `L` holds of the automatic associations a record that
succeeded writes. -/
theorem phases_holds (ha : item.isSuccessful = true → item.creationKeys = none →
      ∀ account token, L.Holds (tokenKeys token >>= fun keys => emit (.tokenAccount
        (.association account token item.consensusTimestamp keys true))))
    (hp : PhaseGrants L item) (adjust : RecordItem → ContractResult → ContractResult)
    (tx : Transaction) :
    L.Holds (do
      recordContractResult adjust item (tx.entityId.getD EntityId.empty)
      applyAutomaticAssociations item
      applyNftTransfers item
      applyBalanceChanges item
      emit (.transaction tx)
      return tx) :=
  L.bind (recordContractResult_holds L item hp.result hp.log hp.stateChange _ _) fun _ =>
    L.bind (applyAutomaticAssociations_holds L item ha)
      fun _ => L.bind (applyNftTransfers_holds L item hp.nft) fun _ =>
    L.bind (applyBalanceChanges_holds L item hp.sum hp.hbar hp.tokenBalance) fun _ =>
    L.bind (hp.transaction _) fun _ => L.pure tx

/-- The projection of a record has a logic that holds of every row its handler and its phases
write, when the logic is its own companion on the entities the template stamps. -/
theorem process_holds {E : Entity → Prop} (hg : Handler.Grants L (L.main E) item)
    (hE : ∀ (op : EntityOperation) id, E (op.stamp id item.consensusTimestamp))
    (hp : PhaseGrants L item) :
    L.Holds (process item) := by
  unfold process
  exact L.bind (hg.satisfies.run fun _ => hE _ _)
    (phases_holds (fun hs hk _ _ => hg.associate hs hk _ _ _) hp _)

/-- The projection of a record has every logic that holds of its steps: emitting a row, taking a
log index and stopping with a fault. -/
theorem process_holds_of_emit (he : ∀ m, L.Holds (emit m)) (hn : L.Holds Projection.nextLogIndex)
    (hf : ∀ {α : Type} o, L.Holds (Projection.fail o : Projection α)) : L.Holds (process item) :=
  process_holds (Handler.Grants.of_emit he hn item) (fun _ _ => trivial) (PhaseGrants.of_emit he hf)

end Projection

end LedgerProjection
