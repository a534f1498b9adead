import LedgerProjection.Projection.Process

/-!
# What the rows of a record carry

The properties later modules prove of a record's rows speak of a few things each row carries:

* its validity range and its balance change (`Mutation.range?`, `Mutation.balance?`): a row
  stamped at the record's time `ts` starts at `ts` and stays open (`Mutation.Stamped`), and a
  quiet one moves no balance either (`Mutation.Quiet`);
* whether the record writes it whatever its outcome (`Mutation.Ungated`);
* the entity it writes, if any, and that entity's stamps and staking election
  (`Mutation.stamps?`, `Mutation.ElectedAt`);
* the association it makes, if any, and the statuses it gives it (`Mutation.association?`,
  `TokenAccount.HasStatusesFor`).

The rows a handler writes itself are of three shapes only (`RecordItem.HandlerRow`): a row of
the families handlers write, stamped at the record's time and moving no balance
(`Mutation.PlainAt`); the advance of an ethereum signer's nonce; and an association a token
creation makes with the keys of its own body. The entity row a kind writes for its main entity
keeps the stamps, the balance and the election of the entity the template hands it
(`RecordItem.MainRow`). Each fact above is a lemma about these shapes, so a property of rows
needs one lemma here, not a walk through the handlers.
-/

namespace LedgerProjection

/-! ### Ranges and balances -/

namespace Mutation

/-- The validity range of the row a mutation carries, for the kinds kept with history. -/
@[simp]
def range? : Mutation → Option TimestampRange
  | .entity r => r.timestampRange
  | .topic r => r.timestampRange
  | .node r => r.timestampRange
  | .token r => r.timestampRange
  | .tokenAccount r => r.timestampRange
  | .nft r => r.timestampRange
  | .tokenAirdrop r => r.timestampRange
  | .customFee r => r.timestampRange
  | .cryptoAllowance r => r.timestampRange
  | .tokenAllowance r => r.timestampRange
  | .nftAllowance r => r.timestampRange
  | .hook r => r.timestampRange
  | _ => none

/-- The balance change a mutation carries: an entity's hbar or a token account's balance. -/
@[simp]
def balance? : Mutation → Option Int
  | .entity r => r.balance
  | .tokenAccount r => r.balance
  | _ => none

/-- A row emitted for a record at `ts` carries no range, or the range open from `ts`. -/
def Stamped (ts : Int) (m : Mutation) : Prop :=
  m.range? = none ∨ m.range? = some (.openFrom ts)

/-- Stamped at `ts`, and moving no balance. -/
def Quiet (ts : Int) (m : Mutation) : Prop :=
  m.Stamped ts ∧ m.balance?.getD 0 = 0

theorem Quiet.stamped {ts : Int} {m : Mutation} (h : m.Quiet ts) : m.Stamped ts := h.1

/-- A row that carries the range open from `ts` and no balance change is quiet. -/
theorem quiet_of_range {ts : Int} {m : Mutation} (hr : m.range? = some (.openFrom ts))
    (hb : m.balance?.getD 0 = 0) : m.Quiet ts :=
  ⟨.inr hr, hb⟩

/-- A row of a kind without history or balance is quiet. -/
theorem quiet_of_none {ts : Int} {m : Mutation} (hr : m.range? = none)
    (hb : m.balance? = none) : m.Quiet ts :=
  ⟨.inl hr, by rw [hb]; rfl⟩

/-- An entity row stamped at `ts` whose balance change, if any, is zero is quiet. -/
theorem quiet_entity {ts : Int} {e : Entity} (he : e.timestampRange = some (.openFrom ts))
    (hb : e.balance.getD 0 = 0) : (Mutation.entity e).Quiet ts :=
  quiet_of_range he hb

/-! ### Rows written whatever the outcome -/

/-- A row that a record writes whatever its outcome: the transaction row, a contract result, a
log the EVM emitted (not a synthetic one), a storage change, an ethereum transaction, or an hbar
balance change: an entity row with nothing but its id, a balance and the balance's time. -/
def Ungated : Mutation → Prop
  | .transaction _ => True
  | .contractResult _ => True
  | .contractLog l => l.synthetic = false
  | .contractStateChange _ => True
  | .ethereumTransaction _ => True
  | .entity e => e = { id := e.id, balance := e.balance, balanceTimestamp := e.balanceTimestamp }
  | _ => False

/-- An ungated row carries no range. -/
theorem Ungated.range?_eq_none {m : Mutation} (h : m.Ungated) : m.range? = none := by
  cases m <;> simp only [Ungated] at h
  case entity e =>
    rw [range?, h]
  all_goals rfl

end Mutation

/-! ### Entity rows -/

/-- The lifecycle stamps of an entity row: its id, range, creation time and deletion flag. -/
def Entity.stamps (e : Entity) : Entity :=
  { id := e.id, timestampRange := e.timestampRange, createdTimestamp := e.createdTimestamp,
    deleted := e.deleted }

@[simp] theorem Entity.stamps_id (e : Entity) : e.stamps.id = e.id := rfl
@[simp] theorem Entity.stamps_deleted (e : Entity) : e.stamps.deleted = e.deleted := rfl
@[simp] theorem Entity.stamps_createdTimestamp (e : Entity) :
    e.stamps.createdTimestamp = e.createdTimestamp := rfl
@[simp] theorem Entity.stamps_timestampRange (e : Entity) :
    e.stamps.timestampRange = e.timestampRange := rfl

namespace Mutation

/-- The entity a row writes, for an entity row. -/
@[simp]
def entity? : Mutation → Option Entity
  | .entity e => some e
  | _ => none

/-- The stamps of the entity a row writes. -/
def stamps? (m : Mutation) : Option Entity := m.entity?.map Entity.stamps

/-- A row of another kind than an entity. -/
def NonEntity : Mutation → Prop
  | .entity _ => False
  | _ => True

/-- A row that writes no entity but, maybe, the advance of a signer's nonce: an entity row with
its id, a range and the nonce only. -/
def SideRow : Mutation → Prop
  | .entity e =>
    e = { id := e.id, timestampRange := e.timestampRange, ethereumNonce := e.ethereumNonce }
  | _ => True

theorem NonEntity.sideRow {m : Mutation} (h : m.NonEntity) : m.SideRow := by
  cases m <;> first | exact h.elim | trivial

theorem NonEntity.stamps?_eq_none {m : Mutation} (h : m.NonEntity) : m.stamps? = none := by
  cases m <;> first | exact h.elim | rfl

/-- What a mutation says of the entity row it carries: `Q` of the row; nothing of other rows. -/
def OnEntity (Q : Entity → Prop) : Mutation → Prop
  | .entity e => Q e
  | _ => True

theorem NonEntity.onEntity {m : Mutation} (h : m.NonEntity) (Q : Entity → Prop) : m.OnEntity Q := by
  cases m <;> first | exact h.elim | trivial

end Mutation

/-! ### Staking elections -/

namespace Entity

/-- Whether a row sets a field of a staking election: the staked account, the staked node, or
the choice to decline rewards. -/
def elects (e : Entity) : Bool :=
  e.stakedAccountId.isSome || e.stakedNodeId.isSome || e.declineReward.isSome

/-- At most one staking target: both absent, or an account with the node reset to `-1`, or a
node with the account reset to `0.0.0`. -/
def SingleTarget (e : Entity) : Prop :=
  (e.stakedAccountId = none ∧ e.stakedNodeId = none) ∨
    (e.stakedAccountId.isSome ∧ e.stakedNodeId = some (-1)) ∨
    (e.stakedNodeId.isSome ∧ e.stakedAccountId = some EntityId.empty)

/-- A row written at `ts`: a single target, and a stake period starting on the day of `ts` when
the row sets a field of an election, absent otherwise. -/
def ElectedAt (ts : Int) (e : Entity) : Prop :=
  e.SingleTarget ∧ e.stakePeriodStart = if e.elects then some (Instant.epochDay ts) else none

variable {e : Entity}

/-- A row that sets no field of an election and starts no period. -/
theorem electedAt_of_none {ts : Int} (ha : e.stakedAccountId = none) (hn : e.stakedNodeId = none)
    (hd : e.declineReward = none) (hs : e.stakePeriodStart = none) : e.ElectedAt ts :=
  ⟨.inl ⟨ha, hn⟩, by simp [elects, ha, hn, hd, hs]⟩

section Election

variable (ts : Int) (account : Option EntityId) (node : Option Int) (decline : Option Bool)

theorem withStaking_singleTarget (h : e.SingleTarget) :
    (e.withStaking ts account node decline).SingleTarget := by
  -- the node, given last, wins over the account; the reward choice touches neither
  rcases node with _ | n
  · rcases account with _ | a <;> rcases decline with _ | d
    · exact h
    · exact h
    · exact .inr (.inl ⟨rfl, rfl⟩)
    · exact .inr (.inl ⟨rfl, rfl⟩)
  · rcases account with _ | a <;> rcases decline with _ | d <;> exact .inr (.inr ⟨rfl, rfl⟩)

/-- What an election leaves of the period: the day of the change if anything was given, the
entity's period otherwise. -/
theorem withStaking_stakePeriodStart :
    (e.withStaking ts account node decline).stakePeriodStart =
      if account.isSome || node.isSome || decline.isSome then some (Instant.epochDay ts)
      else e.stakePeriodStart := by
  unfold withStaking
  split <;> split <;> split <;> split <;> rfl

/-- An election sets a field exactly when something was given or the entity had one set. -/
theorem withStaking_elects :
    (e.withStaking ts account node decline).elects =
      (account.isSome || node.isSome || decline.isSome || e.elects) := by
  unfold withStaking elects
  rcases account with _ | a <;> rcases node with _ | n <;> rcases decline with _ | d <;>
    simp

theorem withStaking_electedAt (h : e.ElectedAt ts) :
    (e.withStaking ts account node decline).ElectedAt ts := by
  refine ⟨withStaking_singleTarget ts account node decline h.1, ?_⟩
  rw [withStaking_stakePeriodStart, withStaking_elects, h.2]
  cases account.isSome || node.isSome || decline.isSome <;> rfl

/-- A staking election leaves the stamps alone. -/
@[simp]
theorem withStaking_stamps : (e.withStaking ts account node decline).stamps = e.stamps := by
  unfold Entity.withStaking
  split <;> split <;> split <;> split <;> rfl

@[simp]
theorem withStaking_timestampRange :
    (e.withStaking ts account node decline).timestampRange = e.timestampRange := by
  unfold Entity.withStaking
  split <;> split <;> split <;> split <;> rfl

@[simp]
theorem withStaking_balance : (e.withStaking ts account node decline).balance = e.balance := by
  unfold Entity.withStaking
  split <;> split <;> split <;> split <;> rfl

end Election

end Entity

theorem EntityOperation.stamp_timestampRange (op : EntityOperation) (id : EntityId) (ts : Int) :
    (op.stamp id ts).timestampRange = some (.openFrom ts) := by
  cases op <;> rfl

theorem EntityOperation.stamp_balance (op : EntityOperation) (id : EntityId) (ts : Int) :
    (op.stamp id ts).balance = Option.none := by
  cases op <;> rfl

/-- The stamp of a record's main entity sets no field of an election. -/
theorem EntityOperation.stamp_electedAt (op : EntityOperation) (id : EntityId) (t ts : Int) :
    (op.stamp id t).ElectedAt ts := by
  cases op <;> exact Entity.electedAt_of_none rfl rfl rfl rfl

/-- A row written at `ts` whose entity row, if any, is `Entity.ElectedAt ts`. -/
def Mutation.ElectedAt (ts : Int) : Mutation → Prop := Mutation.OnEntity (Entity.ElectedAt ts)

/-! ### Associations -/

/-- The association a row makes: a token account row that marks the account associated. -/
def Mutation.association? : Mutation → Option TokenAccount
  | .tokenAccount a =>
    match a.associated with
    | some true => some a
    | _ => none
  | _ => none

/-- The statuses of an association with a token whose keys are `keys`: unfrozen with a freeze key
and not applicable without, KYC granted with a KYC key and not applicable without, none when the
keys are unknown. -/
def TokenAccount.HasStatusesFor (a : TokenAccount) (keys : Option TokenKeys) : Prop :=
  a.freezeStatus = keys.map (fun k => if k.freezeKey then .unfrozen else .notApplicable) ∧
    a.kycStatus = keys.map (fun k => if k.kycKey then .granted else .notApplicable)

theorem TokenAccount.association_hasStatusesFor (account token : EntityId) (ts : Int)
    (keys : Option TokenKeys) (automatic : Bool) :
    (TokenAccount.association account token ts keys automatic).HasStatusesFor keys :=
  ⟨rfl, rfl⟩

@[simp]
theorem TokenAccount.association_timestampRange (account token : EntityId) (ts : Int)
    (keys : Option TokenKeys) (automatic : Bool) :
    (TokenAccount.association account token ts keys automatic).timestampRange =
      some (.openFrom ts) := rfl

@[simp]
theorem TokenAccount.association_balance (account token : EntityId) (ts : Int)
    (keys : Option TokenKeys) (automatic : Bool) :
    (TokenAccount.association account token ts keys automatic).balance = none := rfl

@[simp]
theorem Mutation.association?_association (account token : EntityId) (ts : Int)
    (keys : Option TokenKeys) (automatic : Bool) :
    (Mutation.tokenAccount (TokenAccount.association account token ts keys automatic)).association? =
      some (TokenAccount.association account token ts keys automatic) :=
  rfl

namespace RecordItem

/-- The keys a token creation gives the token it creates: a key is present when the body names
one. Other records give none. -/
def creationKeys (item : RecordItem) : Option TokenKeys :=
  match item.body with
  | .tokenCreate body => some { freezeKey := body.freezeKey.isSome, kycKey := body.kycKey.isSome }
  | _ => none

theorem creationKeys_of_body {item : RecordItem} {body : TokenCreateBody}
    (hb : item.body = .tokenCreate body) :
    item.creationKeys = some { freezeKey := body.freezeKey.isSome, kycKey := body.kycKey.isSome } := by
  rw [creationKeys, hb]

theorem creationKeys_of_kind {item : RecordItem} (hk : item.kind ≠ .tokenCreate) :
    item.creationKeys = none := by
  unfold creationKeys
  split
  · next body hb => exact absurd (by rw [kind, hb]; rfl) hk
  · rfl

end RecordItem

/-! ### Slots of hook storage writes -/

theorem Keccak.length_bytesOfLane (x : UInt64) : (Keccak.bytesOfLane x).length = 8 := by
  simp [Keccak.bytesOfLane]

theorem Keccak.length_hash (msg : List UInt8) : (Keccak.hash msg).length = Word.size := by
  simp only [Keccak.hash, List.length_flatten, List.map_map, Function.comp_def,
    Keccak.length_bytesOfLane]
  rfl

namespace HookStorage

theorem length_of_leftPad32 {bytes word : List UInt8} (h : Word.leftPad32 bytes = some word) :
    word.length = Word.size := by
  rw [Word.leftPad32_eq] at h
  split at h
  · next hle =>
    cases h
    simp only [List.length_append, List.length_replicate]
    omega
  · cases h

theorem length_of_mappingSlot {key declared slot : List UInt8}
    (h : mappingSlot key declared = some slot) : slot.length = Word.size := by
  simp only [mappingSlot, Option.bind_eq_bind, Option.bind_eq_some_iff, Option.pure_def,
    Option.some.injEq] at h
  obtain ⟨k, -, s, -, rfl⟩ := h
  exact Keccak.length_hash _

/-- Every slot an update writes is a whole word. -/
theorem length_of_mem_writes {u : HookStorageUpdate} {w : List UInt8 × List UInt8}
    (hw : w ∈ writes u) : w.1.length = Word.size := by
  cases u with
  | storageSlot key value =>
    cases hslot : Word.leftPad32 key with
    | none => simp [writes, hslot] at hw
    | some slot =>
      simp only [writes, hslot, List.mem_singleton] at hw
      rw [hw]
      exact length_of_leftPad32 hslot
  | mappingEntries declared entries =>
    obtain ⟨e, -, he⟩ := List.mem_filterMap.1 hw
    obtain ⟨slot, hslot, rfl⟩ := Option.map_eq_some_iff.1 he
    unfold entrySlot at hslot
    split at hslot
    · exact length_of_mappingSlot hslot
    · exact length_of_mappingSlot hslot
    · cases hslot

end HookStorage

/-! ### The rows a handler writes -/

/-- A row a handler writes beside entity rows, for a record at `ts`: a row of a family handlers
write, carrying the range open from `ts` when its family keeps history, moving no balance and
making no association; a hook storage change is the change of a write, at `ts`, to a word slot.
Contract results, logs, storage changes and transaction rows, which every record writes after
its handler, are not among them. -/
def Mutation.PlainAt (ts : Int) : Mutation → Prop
  | .contract _ => True
  | .cryptoAllowance r => r.timestampRange = some (.openFrom ts)
  | .customFee r => r.timestampRange = some (.openFrom ts)
  | .ethereumTransaction _ => True
  | .fileData _ => True
  | .hook r => r.timestampRange = some (.openFrom ts)
  | .hookStorageChange r => ∃ owner hookId slot value, slot.length = Word.size ∧
      r = HookStorage.change ts owner hookId slot value
  | .liveHash _ => True
  | .nft r => r.timestampRange = some (.openFrom ts)
  | .nftAllowance r => r.timestampRange = some (.openFrom ts)
  | .node r => r.timestampRange = some (.openFrom ts)
  | .nodeStake _ => True
  | .prng _ => True
  | .schedule _ => True
  | .token r => r.timestampRange = some (.openFrom ts)
  | .tokenAccount r =>
    r.timestampRange = some (.openFrom ts) ∧ r.balance = none ∧ r.associated ≠ some true
  | .tokenAirdrop r => r.timestampRange = some (.openFrom ts)
  | .tokenAllowance r => r.timestampRange = some (.openFrom ts)
  | .topic r => r.timestampRange = some (.openFrom ts)
  | .topicMessage _ => True
  | .transactionSignature _ => True
  | .entity _ | .contractLog _ | .contractResult _ | .contractStateChange _ | .transaction _ => False

namespace Mutation.PlainAt

variable {ts : Int} {m : Mutation}

theorem nonEntity (h : m.PlainAt ts) : m.NonEntity := by
  cases m <;> first | exact h.elim | trivial

theorem quiet (h : m.PlainAt ts) : m.Quiet ts := by
  cases m <;> simp only [PlainAt] at h
  case tokenAccount r => exact quiet_of_range h.1 (by simp [h.2.1])
  case hookStorageChange => exact quiet_of_none rfl rfl
  all_goals first | exact quiet_of_range h rfl | exact quiet_of_none rfl rfl

theorem association?_eq_none (h : m.PlainAt ts) : m.association? = none := by
  cases m <;> try rfl
  case tokenAccount r =>
    obtain ⟨-, -, ha⟩ := h
    -- the row does not mark the account associated, so it falls to the last case
    simp only [association?]

end Mutation.PlainAt

/-- A change of one write to a word slot, made at `ts`, is a plain row at `ts`. -/
theorem Mutation.plainAt_storageChange {ts : Int} (owner : EntityId) (hookId : Int)
    (w : List UInt8 × List UInt8) {u : HookStorageUpdate} (hw : w ∈ HookStorage.writes u) :
    (Mutation.hookStorageChange (HookStorage.change ts owner hookId w.1 w.2)).PlainAt ts :=
  ⟨owner, hookId, w.1, w.2, HookStorage.length_of_mem_writes hw, rfl⟩

namespace RecordItem

/-- The rows the handler of `item` writes itself. A plain row of the handler families, stamped at
the record's time, written before any check of the outcome only when it is written whatever the
outcome; the advance of an ethereum transaction's signer's nonce, once the transaction
succeeded; an association of a token creation that succeeded, with the keys of its own body. -/
inductive HandlerRow (item : RecordItem) : Mutation → Prop
  | plain {m : Mutation} : m.PlainAt item.consensusTimestamp →
      m.Ungated ∨ item.isSuccessful = true → HandlerRow item m
  | nonce (sender : EntityId) (nonce : Int) : item.isSuccessful = true →
      HandlerRow item (.entity
        { id := sender, timestampRange := some (.openFrom item.consensusTimestamp),
          ethereumNonce := some nonce })
  | creationAssociation {body : TokenCreateBody} (account token : EntityId) (automatic : Bool) :
      item.body = .tokenCreate body → item.isSuccessful = true →
      HandlerRow item (.tokenAccount (.association account token item.consensusTimestamp
        (some { freezeKey := body.freezeKey.isSome, kycKey := body.kycKey.isSome }) automatic))

namespace HandlerRow

variable {item : RecordItem} {m : Mutation}

/-- A plain row written once the outcome is known to be a success. -/
theorem of_plainAt (hm : m.PlainAt item.consensusTimestamp) (hs : item.isSuccessful = true) :
    item.HandlerRow m :=
  plain hm (.inr hs)

theorem quiet (h : item.HandlerRow m) : m.Quiet item.consensusTimestamp := by
  cases h with
  | plain hm _ => exact hm.quiet
  | nonce => exact Mutation.quiet_entity rfl rfl
  | creationAssociation => exact Mutation.quiet_of_range rfl rfl

theorem sideRow (h : item.HandlerRow m) : m.SideRow := by
  cases h with
  | plain hm _ => exact hm.nonEntity.sideRow
  | nonce => rfl
  | creationAssociation => trivial

theorem electedAt (h : item.HandlerRow m) : m.ElectedAt item.consensusTimestamp := by
  cases h with
  | plain hm _ => exact hm.nonEntity.onEntity _
  | nonce => exact Entity.electedAt_of_none rfl rfl rfl rfl
  | creationAssociation => trivial

/-- A handler writes a row that depends on the outcome only once the outcome is a success. -/
theorem ungated_or (h : item.HandlerRow m) : m.Ungated ∨ item.isSuccessful = true := by
  cases h with
  | plain _ hg => exact hg
  | nonce _ _ hs => exact .inr hs
  | creationAssociation _ _ _ _ hs => exact .inr hs

/-- An association a handler writes carries the statuses of the keys its record's body gives
the token it creates. -/
theorem hasStatusesFor (h : item.HandlerRow m) {a : TokenAccount} (ha : m.association? = some a) :
    ∃ k, item.creationKeys = some k ∧ a.HasStatusesFor (some k) := by
  cases h with
  | plain hm _ =>
    rw [hm.association?_eq_none] at ha
    cases ha
  | nonce => cases ha
  | creationAssociation _ _ _ hb =>
    cases ha
    exact ⟨_, creationKeys_of_body hb, TokenAccount.association_hasStatusesFor _ _ _ _ _⟩

end HandlerRow

/-- The entity row a kind writes for the entity `e` the template hands it: the stamps of `e`, its
balance or the zero a created account starts with, and a staking election at the record's time
when `e` has one. -/
structure MainRow (item : RecordItem) (e e' : Entity) : Prop where
  stamps : e'.stamps = e.stamps
  balance : e'.balance = e.balance ∨ e'.balance = some 0
  electedAt : e.ElectedAt item.consensusTimestamp → e'.ElectedAt item.consensusTimestamp

namespace MainRow

variable {item : RecordItem} {e e' : Entity}

/-- The entity as it was handed over. -/
theorem refl (item : RecordItem) (e : Entity) : item.MainRow e e :=
  ⟨rfl, .inl rfl, id⟩

/-- A staking election at the record's time. -/
theorem withStaking (h : item.MainRow e e') (account : Option EntityId) (node : Option Int)
    (decline : Option Bool) :
    item.MainRow e (e'.withStaking item.consensusTimestamp account node decline) :=
  ⟨by rw [Entity.withStaking_stamps, h.stamps], by rw [Entity.withStaking_balance]; exact h.balance,
    fun he => Entity.withStaking_electedAt _ _ _ _ (h.electedAt he)⟩

/-- The main row is quiet when the entity handed over starts at the record's time and moves no
balance. -/
theorem quiet (h : item.MainRow e e')
    (hr : e.timestampRange = some (.openFrom item.consensusTimestamp)) (hb : e.balance = none) :
    (Mutation.entity e').Quiet item.consensusTimestamp := by
  refine Mutation.quiet_entity (by rw [← Entity.stamps_timestampRange, h.stamps]; exact hr) ?_
  rcases h.balance with h' | h' <;> rw [h'] <;> simp [hb]

end MainRow

end RecordItem

/-! ### The rows every record shares -/

/-- A per-record sum of the record's hbar transfers, or of its token transfers, leaves the 64-bit
range with `o`. -/
def RecordItem.SumOverflow (item : RecordItem) (o : Overflow) : Prop :=
  Balances.hbar item.record.transferList = .error o ∨
    Balances.tokens item.record.tokenTransferLists = .error o

end LedgerProjection
