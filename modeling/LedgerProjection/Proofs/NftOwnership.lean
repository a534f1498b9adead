import LedgerProjection.Proofs.Updates
import LedgerProjection.Proofs.CurrentVersion
import LedgerProjection.Proofs.FeeSchedules

/-!
# NFT transfers move ownership

After its handler, every record runs the NFT pass: it marks the ids of the record's transfer
lists as touched (`Projection.TouchesOnly`), then, when the record succeeded and tokens are
kept, writes one row per NFT transfer to an account other than `0.0.0`, giving the NFT to the
receiver with no spender (`RecordItem.ownershipRows`, `Projection.applyNftTransfers_spec`).
Nothing after the pass writes an NFT row (`Projection.process_ok_nftPass`), and a field that
merges overwrite keeps, after accepted updates, the last value the key's updates gave it
(`HistoryTable.current_receive_of_accepts`). So the current version of an NFT a finished record
moved belongs to its last receiver, with both spenders cleared, whatever the record's handler
wrote for it before (`projectRecord_nftOwnership`).
-/

namespace LedgerProjection

/-! ### The NFT transfers of a record -/

namespace RecordItem

/-- The NFT transfers of a record, each with its token, in the order of its transfer lists. -/
def nftMoves (item : RecordItem) : List (EntityId × NftTransfer) :=
  item.record.tokenTransferLists.flatMap fun l => l.nftTransfers.map (l.tokenId, ·)

/-- The row giving the NFT of a transfer to its receiver, with no spender, from the record's
time on. -/
def ownershipRow (item : RecordItem) (move : EntityId × NftTransfer) : Nft :=
  { tokenId := move.1, serialNumber := move.2.serialNumber, timestampRange := item.openRange,
    accountId := some move.2.receiverAccountId, delegatingSpender := some EntityId.empty,
    spender := some EntityId.empty }

/-- The ownership rows of a record: one per NFT transfer to an account other than `0.0.0`, in
order. -/
def ownershipRows (item : RecordItem) : List Nft :=
  (item.nftMoves.filter fun p => !p.2.receiverAccountId.isEmpty).map item.ownershipRow

/-- The receiver of the last transfer of serial `s` of token `t` to an account other than
`0.0.0`, in the order of the record's transfer lists. -/
def lastReceiver (item : RecordItem) (t : EntityId) (s : Int) : Option EntityId :=
  ((item.nftMoves.filter fun p =>
    p.1 = t && p.2.serialNumber = s && !p.2.receiverAccountId.isEmpty).map
      (·.2.receiverAccountId)).getLast?

/-- The ids the NFT pass marks as touched: each transfer list's token, the accounts of its
transfers, and the senders and receivers of its NFT transfers. -/
def nftPassIds (item : RecordItem) : List EntityId :=
  item.record.tokenTransferLists.flatMap fun l =>
    l.tokenId :: (l.transfers.map (·.accountId) ++
      l.nftTransfers.flatMap fun t => [t.senderAccountId, t.receiverAccountId])

end RecordItem

/-! ### Marking ids as touched -/

namespace Projection

/-- From every state `x` returns having changed only the touched ids, adding those of `ids`
other than `0.0.0`. -/
def TouchesOnly (ids : List EntityId) (x : Projection PUnit) : Prop :=
  ∀ c, ∃ touched, x.run c = .ok () { c with touched := touched } ∧
    ∀ a, a ∈ touched ↔ a ∈ c.touched ∨ (a ∈ ids ∧ a.isEmpty = false)

namespace TouchesOnly

variable {ids ids' : List EntityId}

theorem pure : TouchesOnly [] (Pure.pure () : Projection PUnit) :=
  fun c => ⟨c.touched, rfl, fun a => by simp⟩

theorem track (id : EntityId) : TouchesOnly [id] (Projection.track id) := by
  intro c
  rw [run_track]
  by_cases h : id.isEmpty
  · refine ⟨c.touched, by rw [if_pos h], fun a => ?_⟩
    -- `0.0.0` is not added
    simp only [List.mem_singleton]
    constructor
    · exact .inl
    · rintro (ha | ⟨rfl, ha⟩)
      · exact ha
      · rw [h] at ha
        cases ha
  · refine ⟨id.insertSorted c.touched, by rw [if_neg h], fun a => ?_⟩
    rw [EntityId.mem_insertSorted, List.mem_singleton]
    constructor
    · rintro (rfl | ha)
      · exact .inr ⟨rfl, by simpa using h⟩
      · exact .inl ha
    · rintro (ha | ⟨rfl, -⟩)
      · exact .inr ha
      · exact .inl rfl

theorem bind {x y : Projection PUnit} (hx : TouchesOnly ids x) (hy : TouchesOnly ids' y) :
    TouchesOnly (ids ++ ids') (x >>= fun _ => y) := by
  intro c
  obtain ⟨t₁, h₁, hm₁⟩ := hx c
  obtain ⟨t₂, h₂, hm₂⟩ := hy { c with touched := t₁ }
  refine ⟨t₂, by rw [run_bind, h₁]; exact h₂, fun a => ?_⟩
  rw [hm₂, hm₁, List.mem_append]
  constructor
  · rintro ((ha | ⟨ha, he⟩) | ⟨ha, he⟩)
    · exact .inl ha
    · exact .inr ⟨.inl ha, he⟩
    · exact .inr ⟨.inr ha, he⟩
  · rintro (ha | ⟨ha | ha, he⟩)
    · exact .inl (.inl ha)
    · exact .inl (.inr ⟨ha, he⟩)
    · exact .inr ⟨ha, he⟩

theorem forM {γ : Type} {f : γ → Projection PUnit} {g : γ → List EntityId} :
    ∀ {xs : List γ}, (∀ x ∈ xs, TouchesOnly (g x) (f x)) →
      TouchesOnly (xs.flatMap g) (xs.forM f)
  | [], _ => by simpa using pure
  | x :: xs, h => by
    rw [List.flatMap_cons]
    exact bind (h x List.mem_cons_self) (forM fun y hy => h y (List.mem_cons_of_mem _ hy))

theorem trackAll : ∀ ids : List EntityId, TouchesOnly ids (Projection.trackAll ids)
  | [] => pure
  | id :: ids => bind (track id) (trackAll ids)

end TouchesOnly

theorem Preserves.emit_touched {T : List EntityId} (m : Mutation) :
    Preserves (fun c => c.touched = T) (Projection.emit m) := by
  intro c u c' hc h
  obtain ⟨-, rfl⟩ := run_emit_eq_ok h
  exact hc

end Projection

/-! ### The NFT pass -/

/-- The ownership rows, transfer list by transfer list, as the pass writes them. -/
theorem RecordItem.ownershipRows_eq (item : RecordItem) :
    item.ownershipRows.map Mutation.nft =
      item.record.tokenTransferLists.flatMap fun l => l.nftTransfers.flatMap fun t =>
        if t.receiverAccountId.isEmpty then [] else [.nft (item.ownershipRow (l.tokenId, t))] := by
  unfold RecordItem.ownershipRows RecordItem.nftMoves
  rw [List.filter_flatMap, List.map_flatMap, List.map_flatMap]
  congr 1
  funext l
  induction l.nftTransfers with
  | nil => rfl
  | cons t ts ih =>
    by_cases h : t.receiverAccountId.isEmpty <;> simp [h, ih]

namespace Projection

variable (item : RecordItem)

/-- A program that returns delivered every row it emits. -/
theorem EmitsFrom.delivers {α : Type} {x : Projection α} {c c' : Ctx} {ms : List Mutation}
    {a : α} (h : EmitsFrom x c ms) (hrun : x.run c = .ok a c') : c.Delivers ms c' where
  emitted := (h.feeds_of_ok hrun).1.emitted
  ledger := (h.feeds_of_ok hrun).2
  accepts := h.accepts_of_ok hrun
  props := by rw [← after_of_ok hrun]; exact h.props

/-- The NFT pass marks the ids of every transfer list as touched; then, when the record
succeeded and tokens are kept, it emits the ownership rows, and otherwise nothing. -/
theorem applyNftTransfers_spec (c : Ctx) :
    ∃ touched, (∀ a, a ∈ touched ↔ a ∈ c.touched ∨ (a ∈ item.nftPassIds ∧ a.isEmpty = false)) ∧
      EmitsFrom (applyNftTransfers item) c
        (if item.isSuccessful && c.persist.tokens then item.ownershipRows.map .nft else []) ∧
      ∀ c', (applyNftTransfers item).run c = .ok () c' → c'.touched = touched := by
  -- the first loop only marks ids
  obtain ⟨touched, hrun, hmem⟩ := (show TouchesOnly item.nftPassIds _ from
    TouchesOnly.forM fun l _ => TouchesOnly.bind (TouchesOnly.track l.tokenId)
      (TouchesOnly.bind (TouchesOnly.trackAll _) (TouchesOnly.forM fun t _ =>
        TouchesOnly.bind (TouchesOnly.track t.senderAccountId)
          (TouchesOnly.track t.receiverAccountId)))) c
  -- the second part runs when the record succeeded and tokens are kept
  have hoff :
      (!item.isSuccessful || !c.persist.tokens) = !(item.isSuccessful && c.persist.tokens) :=
    (Bool.not_and _ _).symm
  refine ⟨touched, hmem, ?_, fun c' h => ?_⟩
  · unfold applyNftTransfers
    refine (EmitsFrom.of_run hrun rfl rfl rfl rfl).nil_bind fun _ c₁ h₁ => ?_
    rw [hrun] at h₁
    cases h₁
    refine EmitsFrom.nil_bind EmitsFrom.persist fun p c₂ h₂ => ?_
    rw [run_persist] at h₂
    cases h₂
    change EmitsFrom (if (!item.isSuccessful || !c.persist.tokens) = true then _ else _) _ _
    rw [hoff]
    by_cases hon : (item.isSuccessful && c.persist.tokens) = true
    · rw [if_neg (by simp [hon]), if_pos hon, RecordItem.ownershipRows_eq]
      exact EmitsFrom.forM fun l _ _ => EmitsFrom.forM fun t _ _ =>
        EmitsFrom.ite (fun _ => EmitsFrom.pure _) fun _ => EmitsFrom.emit _
    · rw [if_pos (by rw [Bool.eq_false_iff.2 hon]; rfl), if_neg hon]
      exact EmitsFrom.pure _
  · unfold applyNftTransfers at h
    obtain ⟨⟨⟩, c₁, h₁, h⟩ := run_bind_eq_ok h
    rw [hrun] at h₁
    cases h₁
    obtain ⟨p, c₂, h₂, h⟩ := run_bind_eq_ok h
    rw [run_persist] at h₂
    cases h₂
    -- the rest only emits
    exact (Preserves.gate fun _ => Preserves.forM fun l _ =>
      Preserves.forM fun t _ => Preserves.gate fun _ =>
        Preserves.emit_touched _ : Preserves (fun c => c.touched = touched) _) rfl h

/-- The NFT pass that returns marked the ids of every transfer list as touched, and delivered
the ownership rows when the record succeeded and tokens are kept, and otherwise nothing. -/
theorem applyNftTransfers_ok {c c' : Ctx} (h : (applyNftTransfers item).run c = .ok () c') :
    c.Delivers (if item.isSuccessful && c.persist.tokens then item.ownershipRows.map .nft else [])
        c' ∧
      ∀ a, a ∈ c'.touched ↔ a ∈ c.touched ∨ (a ∈ item.nftPassIds ∧ a.isEmpty = false) := by
  obtain ⟨touched, hmem, hemits, htouched⟩ := applyNftTransfers_spec item c
  rw [htouched c' h]
  exact ⟨hemits.delivers h, hmem⟩

/-- Of a failed record, or while tokens are not kept, the NFT pass returns. -/
theorem applyNftTransfers_returns {c : Ctx}
    (hoff : (item.isSuccessful && c.persist.tokens) = false) :
    ∃ c', (applyNftTransfers item).run c = .ok () c' := by
  obtain ⟨touched, -, hemits, -⟩ := applyNftTransfers_spec item c
  rw [hoff, if_neg Bool.false_ne_true] at hemits
  obtain ⟨⟨⟩, c', h⟩ := hemits.run_ok_of_nil
  exact ⟨c', h⟩

/-- A record's projection that returns ran its NFT pass after delivering rows of any kind, and
delivered no NFT row after it. -/
theorem process_ok_nftPass {c c' : Ctx} {tx : Transaction} (h : (process item).run c = .ok tx c') :
    ∃ c₁ c₂ ms₁ ms₂, c.Delivers ms₁ c₁ ∧ (applyNftTransfers item).run c₁ = .ok () c₂ ∧
      c₂.Delivers ms₂ c' ∧ ∀ m ∈ ms₂, Family.nft.row? m = none := by
  obtain ⟨c₁, c₂, c₃, c₄, c₅, h₁, h₂, h₃, h₄, h₅, h₆⟩ := process_ok_phases h
  -- before the pass: the handler, the contract result and the automatic associations
  have g₁ := (Handler.run_quiet item).grows_of_ok h₁
  have g₂ : c₁.Grows (Mutation.Quiet item.consensusTimestamp) c₂ :=
    (recordContractResult_quiet _ _ _).grows_of_ok h₂
  have g₃ := (applyAutomaticAssociations_quiet item).grows_of_ok h₃
  obtain ⟨ms₁, -, d₁⟩ := g₁.trans (g₂.trans g₃)
  -- after it: balance rows and the transaction row
  obtain ⟨ms₂, hms₂, d₂⟩ := (applyBalanceChanges_holds
    (Logic.keeps fun m => Family.nft.row? m = none) item (fun {α} o _ => Keeps.fail (α := α) o)
    (fun _ _ _ _ => Keeps.emit rfl) fun _ _ _ _ => Keeps.emit rfl).grows_of_ok h₅
  refine ⟨c₃, c₄, ms₁, ms₂ ++ [.transaction tx], d₁, h₄, d₂.trans (Emits.emit _ h₆), ?_⟩
  intro m hm
  rcases List.mem_append.1 hm with hm | hm
  · exact hms₂ m hm
  · rw [List.mem_singleton.1 hm]
    rfl

end Projection

/-! ### The current version after accepted updates -/

namespace HistoryTable

variable {α : Type} [Versioned α] {β : Type} {get : α → Option β}

/-- After accepted updates, a field that merges overwrite holds in the current version of a key
the last value the key's updates gave it, or else the value it had. -/
theorem current_receive_of_accepts (hget : OverwriteField get)
    (hstrip : ∀ r t, get (Versioned.withRange r t) = get r) (k : RowKey) :
    ∀ {t : HistoryTable α} {us : List α}, t.Accepts us →
      ((t.receive us).current? k).bind get =
        ((updatesOf k us).filterMap get).getLast?.or ((t.current? k).bind get)
  | t, [], _ => rfl
  | t, u :: us, ⟨hu, hus⟩ => by
    change (((t.apply u).1.receive us).current? k).bind get = _
    rw [current_receive_of_accepts hget hstrip k hus, current_apply_of_accepted hget hstrip hu k]
    unfold updatesOf
    rw [List.filter_cons]
    by_cases hk : k = Versioned.key u
    · -- the update is one of the key's: its value sits before the later ones
      rw [if_pos hk, if_pos (by simp [hk]), List.filterMap_cons]
      cases get u with
      | none => rfl
      | some v =>
        rw [List.getLast?_cons]
        cases ((us.filter fun u => Versioned.key u = k).filterMap get).getLast? <;> rfl
    · rw [if_neg hk, if_neg (by simpa [eq_comm] using hk)]

end HistoryTable

namespace RecordItem

variable (item : RecordItem)

/-- Reading a field that every ownership row sets, over the rows of one NFT, is reading it off
the transfers of that NFT to accounts other than `0.0.0`. -/
theorem filterMap_updatesOf_ownershipRows {β : Type} {get : Nft → Option β}
    {g : EntityId × NftTransfer → β} (hg : ∀ p, get (item.ownershipRow p) = some (g p))
    (t : EntityId) (s : Int) :
    (HistoryTable.updatesOf [.id t, .num s] item.ownershipRows).filterMap get =
      (item.nftMoves.filter fun p =>
        p.1 = t && p.2.serialNumber = s && !p.2.receiverAccountId.isEmpty).map g := by
  unfold HistoryTable.updatesOf ownershipRows
  have hget : get ∘ item.ownershipRow = some ∘ g := funext hg
  rw [List.filter_map, List.filterMap_map, List.filter_filter, hget, List.filterMap_eq_map]
  congr 1
  apply List.filter_congr
  intro p _
  -- the row's key names the transfer's token and serial
  show (decide ([KeyPart.id p.1, .num p.2.serialNumber] = [.id t, .num s]) &&
    !p.2.receiverAccountId.isEmpty) = _
  by_cases h1 : p.1 = t <;> by_cases h2 : p.2.serialNumber = s <;> simp [h1, h2, Bool.and_comm]

end RecordItem

/-! ### Ownership after a record -/

section Ownership

variable {props : Properties} {via : ResolverKind} {sink : Sink} {item : RecordItem}
  {tx : Transaction} {ms : List Mutation} {touched : List EntityId}

/-- After a finished successful record while tokens are kept, a field that every ownership row
sets and merges overwrite holds, in the current version of an NFT the record moved, its value
in the row of the last transfer of that NFT. -/
theorem projectRecord_current_nft (hs : item.isSuccessful = true)
    (ht : props.persist.tokens = true)
    (hdone : (projectRecord props via sink item).2 = .done tx ms touched) {β : Type}
    {get : Nft → Option β} (hget : HistoryTable.OverwriteField get)
    (hstrip : ∀ r t, get (Versioned.withRange r t) = get r) {g : EntityId × NftTransfer → β}
    (hg : ∀ p, get (item.ownershipRow p) = some (g p)) (t : EntityId) (s : Int) {v : β}
    (hv : ((item.nftMoves.filter fun p =>
      p.1 = t && p.2.serialNumber = s && !p.2.receiverAccountId.isEmpty).map g).getLast? =
        some v) :
    ((projectRecord props via sink item).1.ledger.nfts.current? [.id t, .num s]).bind get =
      some v := by
  obtain ⟨c', hrun, -, -⟩ := projectRecord_eq_done hdone
  have hsink : (projectRecord props via sink item).1 = c'.sink := by
    rw [(projectRecord_after props via sink item).1, Projection.after_of_ok hrun]
  obtain ⟨c₁, c₂, ms₁, ms₂, d₁, hpass, d₂, hno⟩ := Projection.process_ok_nftPass item hrun
  -- the pass ran with the record's settings, so it delivered the ownership rows
  have hon : (item.isSuccessful && c₁.persist.tokens) = true := by
    rw [hs, Ctx.persist, d₁.props]
    exact ht
  have dpass := (Projection.applyNftTransfers_ok item hpass).1
  rw [hon, if_pos rfl] at dpass
  have hrows : (item.ownershipRows.map Mutation.nft).filterMap Family.nft.row? =
      item.ownershipRows := by
    rw [List.filterMap_map]
    exact List.filterMap_some
  -- the rows after the pass leave the NFTs alone
  have hafter : c'.sink.ledger.nfts = c₂.sink.ledger.nfts := by
    have h := Family.table_receive .nft c₂.sink.ledger ms₂
    rw [← d₂.ledger, List.filterMap_eq_nil_iff.2 hno] at h
    exact h
  have hpassed : c₂.sink.ledger.nfts = c₁.sink.ledger.nfts.receive item.ownershipRows := by
    have h := Family.table_receive .nft c₁.sink.ledger (item.ownershipRows.map .nft)
    rw [← dpass.ledger, hrows] at h
    exact h
  have hacc : c₁.sink.ledger.nfts.Accepts item.ownershipRows := by
    have h := dpass.accepts.table .nft
    rw [hrows] at h
    exact h
  rw [hsink, hafter, hpassed, HistoryTable.current_receive_of_accepts hget hstrip _ hacc,
    item.filterMap_updatesOf_ownershipRows hg, hv]
  rfl

/-- NFT transfers move ownership. In a successful record that finished while tokens are kept,
the current version of every NFT the record moves to an account other than `0.0.0` belongs to
the receiver of its last such transfer and has no spender and no delegating spender, whatever
the record's handler wrote for it before. The NFT pass delivers one row per transfer to an
account other than `0.0.0` when the record succeeded and tokens are kept, and nothing
otherwise, in which case it always returns; either way it marks the tokens, the accounts and
the senders and receivers of the record's transfer lists as touched. -/
theorem projectRecord_nftOwnership (props : Properties) (via : ResolverKind) (sink : Sink)
    (item : RecordItem) :
    (item.isSuccessful = true → props.persist.tokens = true →
      ∀ tx ms touched, (projectRecord props via sink item).2 = .done tx ms touched →
      ∀ t s r, item.lastReceiver t s = some r →
        ∃ n, (projectRecord props via sink item).1.ledger.nfts.current? [.id t, .num s] =
            some n ∧
          n.accountId = some r ∧ n.spender = some EntityId.empty ∧
          n.delegatingSpender = some EntityId.empty) ∧
    (∀ c c', (Projection.applyNftTransfers item).run c = .ok () c' →
      c.Delivers
          (if item.isSuccessful && c.persist.tokens then item.ownershipRows.map .nft else []) c' ∧
        ∀ a, a ∈ c'.touched ↔ a ∈ c.touched ∨ (a ∈ item.nftPassIds ∧ a.isEmpty = false)) ∧
    (∀ c, (item.isSuccessful && c.persist.tokens) = false →
      ∃ c', (Projection.applyNftTransfers item).run c = .ok () c') := by
  refine ⟨fun hs ht tx ms touched hdone t s r hr => ?_,
    fun c c' h => Projection.applyNftTransfers_ok item h,
    fun c hoff => Projection.applyNftTransfers_returns item hoff⟩
  -- the last transfer of the NFT names its owner
  have hown := projectRecord_current_nft hs ht hdone
    (fun _ _ => rfl : HistoryTable.OverwriteField Nft.accountId) (fun _ _ => rfl)
    (g := fun p => p.2.receiverAccountId) (fun _ => rfl) t s hr
  have hlast : ((item.nftMoves.filter fun p =>
      p.1 = t && p.2.serialNumber = s && !p.2.receiverAccountId.isEmpty).getLast?).map
        (·.2.receiverAccountId) = some r := by
    rw [← List.getLast?_map]
    exact hr
  obtain ⟨p, hp, -⟩ := Option.map_eq_some_iff.1 hlast
  -- and every ownership row clears both spenders
  have hcleared : ((item.nftMoves.filter fun p =>
      p.1 = t && p.2.serialNumber = s && !p.2.receiverAccountId.isEmpty).map
        fun _ => EntityId.empty).getLast? = some EntityId.empty := by
    rw [List.getLast?_map, hp]
    rfl
  have hspender := projectRecord_current_nft hs ht hdone
    (fun _ _ => rfl : HistoryTable.OverwriteField Nft.spender) (fun _ _ => rfl)
    (g := fun _ => EntityId.empty) (fun _ => rfl) t s hcleared
  have hdelegating := projectRecord_current_nft hs ht hdone
    (fun _ _ => rfl : HistoryTable.OverwriteField Nft.delegatingSpender) (fun _ _ => rfl)
    (g := fun _ => EntityId.empty) (fun _ => rfl) t s hcleared
  obtain ⟨n, hn, hacc⟩ := Option.bind_eq_some_iff.1 hown
  rw [hn] at hspender hdelegating
  exact ⟨n, hn, hacc, hspender, hdelegating⟩

end Ownership

/-- A mint of serial 1 of token 0.0.1500 at time 10, its first owner 0.0.1002 passing it on to
0.0.1003 in the same record. -/
def mintThenPass : RecordItem :=
  { consensusTimestamp := 10, payerAccountId := ⟨0, 0, 2⟩,
    body := .tokenMint { token := some ⟨0, 0, 1500⟩ },
    receipt := { status := ⟨22⟩, serialNumbers := [1] },
    record := { tokenTransferLists := [{ tokenId := ⟨0, 0, 1500⟩, nftTransfers :=
      [{ receiverAccountId := ⟨0, 0, 1002⟩, serialNumber := 1 },
       { senderAccountId := ⟨0, 0, 1002⟩, receiverAccountId := ⟨0, 0, 1003⟩,
         serialNumber := 1 }] }] } }

/-- The mint writes the serial; the two transfers move it on, the last one naming its owner. -/
example : (projectRecord {} .memory {} mintThenPass).1.ledger.nfts.current?
    [.id ⟨0, 0, 1500⟩, .num 1] =
      some
        { tokenId := ⟨0, 0, 1500⟩, serialNumber := 1,
          timestampRange := some (TimestampRange.openFrom 10), accountId := some ⟨0, 0, 1003⟩,
          createdTimestamp := some 10, deleted := some false,
          delegatingSpender := some EntityId.empty, metadata := some [],
          spender := some EntityId.empty } := by
  decide +kernel

end LedgerProjection
