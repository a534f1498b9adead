import LedgerProjection.Proofs.Records

/-!
# Conservation of balances

A record moves hbar by the amounts of its transfer list, and tokens by the amounts of its token
transfer lists, an NFT counting one unit leaving its sender and one reaching its receiver. A
projection that never stops leaves every account `a` but `0.0.0` with an hbar balance that is
the sum of what the records moved to `a`, whatever their outcome, and a token balance that is
the sum of what the successful records moved to `a` while tokens are kept
(`projectEach_balances_sum_transfers`).

The argument has three parts.

* The ledger: a balance is an additive field, so in a fresh ledger that accepted `ms` the
  current version of a key holds the sum of the balance changes its mutations carried, however
  versions were opened and closed on the way (`Ledger.entityBalance_receive`,
  `Ledger.tokenBalance_receive`).
* The sums: the balance changes of a record are sums kept in sorted maps, one entry per account
  (`Balances.hbar_tally`, `Balances.tokens_tally`).
* The record: its rows are quiet but for those balance changes
  (`Projection.process_ok`, `Projection.applyBalanceChanges_ok`), so the changes it delivers
  for `a` add up to what it moved to `a` (`projectRecord_balances`).
-/

namespace LedgerProjection

open Mutation

/-! ### What a record moves -/

/-- The hbar a record's transfer list moves to `a`. -/
def RecordItem.hbarTo (item : RecordItem) (a : EntityId) : Int :=
  ((item.record.transferList.filter (·.accountId = a)).map AccountAmount.amount).sum

/-- The units of token `t` a transfer list moves to `a`: its fungible amounts for `a`, and one
unit per NFT that `a` receives less one per NFT that it sends; nothing for another token. -/
def TokenTransferList.unitsTo (l : TokenTransferList) (a t : EntityId) : Int :=
  if l.tokenId = t then
    ((l.transfers.filter (·.accountId = a)).map AccountAmount.amount).sum +
      (l.nftTransfers.filter (·.receiverAccountId = a)).length -
      (l.nftTransfers.filter (·.senderAccountId = a)).length
  else 0

/-- The units of token `t` a record's token transfer lists move to `a`. -/
def RecordItem.tokenUnitsTo (item : RecordItem) (a t : EntityId) : Int :=
  (item.record.tokenTransferLists.map (·.unitsTo a t)).sum

/-! ### The balance change a mutation carries -/

namespace Mutation

/-- The change to the hbar balance of `a` that a mutation carries. -/
def hbarChange (a : EntityId) : Mutation → Int
  | .entity e => if e.id = a then e.balance.getD 0 else 0
  | _ => 0

/-- The change to the balance of `a` in token `t` that a mutation carries. -/
def tokenChange (a t : EntityId) : Mutation → Int
  | .tokenAccount r => if r.accountId = a ∧ r.tokenId = t then r.balance.getD 0 else 0
  | _ => 0

variable {ts : Int} {m : Mutation}

theorem Quiet.hbarChange_eq_zero (h : m.Quiet ts) (a : EntityId) : m.hbarChange a = 0 := by
  have hb := h.2
  cases m <;> simp_all [hbarChange]

theorem Quiet.tokenChange_eq_zero (h : m.Quiet ts) (a t : EntityId) : m.tokenChange a t = 0 := by
  have hb := h.2
  cases m <;> simp_all [tokenChange]

theorem sum_hbarChange_quiet {ms : List Mutation} (h : ∀ m ∈ ms, m.Quiet ts) (a : EntityId) :
    (ms.map (·.hbarChange a)).sum = 0 :=
  List.sum_eq_zero fun x hx => by
    obtain ⟨m, hm, rfl⟩ := List.mem_map.1 hx
    exact (h m hm).hbarChange_eq_zero a

theorem sum_tokenChange_quiet {ms : List Mutation} (h : ∀ m ∈ ms, m.Quiet ts) (a t : EntityId) :
    (ms.map (·.tokenChange a t)).sum = 0 :=
  List.sum_eq_zero fun x hx => by
    obtain ⟨m, hm, rfl⟩ := List.mem_map.1 hx
    exact (h m hm).tokenChange_eq_zero a t

end Mutation

/-! ### Balances in the ledger -/

/-- The changes present, absent ones counting as zero, sum to the sum of all. -/
theorem HistoryTable.deltaSum_getD (ds : List (Option Int)) :
    (deltaSum ds).getD 0 = (ds.map (·.getD 0)).sum := by
  have hsum : (ds.filterMap id).sum = (ds.map (·.getD 0)).sum := by
    induction ds with
    | nil => rfl
    | cons d ds ih => cases d <;> simp_all
  unfold deltaSum
  split
  · next h => rw [Option.getD_none, ← hsum, h, List.sum_nil]
  · rw [Option.getD_some, hsum]

namespace Ledger

variable {ms : List Mutation}

/-- In a fresh ledger that accepted `ms`, an additive field of the current version of a key is
the sum of the changes its mutations carried, absent counting as zero. -/
theorem additive_receive (hacc : ({} : Ledger).Accepts ms) {f : Family}
    {get : f.Row → Option Int} (hadd : HistoryTable.AdditiveField get)
    (hstrip : ∀ r, get (HistoryTable.strip r) = get r) (k : RowKey) :
    (((f.table (({} : Ledger).receive ms)).current? k).bind get).getD 0 =
      ((HistoryTable.updatesOf k (ms.filterMap f.row?)).map fun u => (get u).getD 0).sum := by
  rcases foldSnapshots_receive hacc f k with ⟨hh, hu⟩ | ⟨⟨cur, F, hcur, hF, hs⟩, -⟩
  · rw [hu, HistoryTable.current?, hh]
    rfl
  · rw [HistoryTable.current?, hcur, Option.bind_some, ← hstrip cur, hs, hstrip,
      hF.additive get hadd, HistoryTable.deltaSum_getD, List.map_map]
    rfl

/-- Summing a weight over the rows of a key among the mutations is summing, over the mutations,
a weight `g` that gives each mutation the weight of the row it carries for that key. -/
theorem sum_updatesOf {f : Family} {k : RowKey} {w : f.Row → Int} {g : Mutation → Int}
    (hg : ∀ m, ((f.row? m).map fun u => if Versioned.key u = k then w u else 0).getD 0 = g m) :
    ∀ ms : List Mutation,
      ((HistoryTable.updatesOf k (ms.filterMap f.row?)).map w).sum = (ms.map g).sum
  | [] => rfl
  | m :: ms => by
    rw [List.filterMap_cons, List.map_cons, List.sum_cons, ← hg m, ← sum_updatesOf hg ms]
    cases f.row? m with
    | none => simp
    | some u => by_cases hk : Versioned.key u = k <;> simp [HistoryTable.updatesOf, hk]

theorem sum_updatesOf_entity (a : EntityId) (ms : List Mutation) :
    ((HistoryTable.updatesOf [.id a] (ms.filterMap Family.entity.row?)).map
        fun (u : Entity) => u.balance.getD 0).sum = (ms.map (·.hbarChange a)).sum := by
  refine sum_updatesOf (f := .entity) (fun m => ?_) ms
  cases m with
  | entity e =>
    show (if [KeyPart.id e.id] = [.id a] then e.balance.getD 0 else 0) = _
    simp [hbarChange]
  | _ => rfl

/-- A fresh ledger that accepted `ms` holds for `a` the sum of the hbar changes of `ms`. -/
theorem entityBalance_receive (hacc : ({} : Ledger).Accepts ms) (a : EntityId) :
    (((({} : Ledger).receive ms).entities.current? [.id a]).bind (·.balance)).getD 0 =
      (ms.map (·.hbarChange a)).sum :=
  (additive_receive hacc (f := .entity) Entity.additiveField_balance (fun _ => rfl) [.id a]).trans
    (sum_updatesOf_entity a ms)

theorem sum_updatesOf_tokenAccount (a t : EntityId) (ms : List Mutation) :
    ((HistoryTable.updatesOf [.id a, .id t] (ms.filterMap Family.tokenAccount.row?)).map
        fun (u : TokenAccount) => u.balance.getD 0).sum = (ms.map (·.tokenChange a t)).sum := by
  refine sum_updatesOf (f := .tokenAccount) (fun m => ?_) ms
  cases m with
  | tokenAccount r =>
    show (if [KeyPart.id r.accountId, .id r.tokenId] = [.id a, .id t] then r.balance.getD 0
      else 0) = _
    simp [tokenChange]
  | _ => rfl

/-- A fresh ledger that accepted `ms` holds for `a` in token `t` the sum of the token changes
of `ms`. -/
theorem tokenBalance_receive (hacc : ({} : Ledger).Accepts ms) (a t : EntityId) :
    (((({} : Ledger).receive ms).tokenAccounts.current? [.id a, .id t]).bind (·.balance)).getD 0 =
      (ms.map (·.tokenChange a t)).sum :=
  (additive_receive hacc (f := .tokenAccount) TokenAccount.additiveField_balance (fun _ => rfl)
    [.id a, .id t]).trans (sum_updatesOf_tokenAccount a t ms)

end Ledger

/-! ### Sums kept in sorted maps -/

/-- A sequence of checked steps succeeds when its first step does and the rest does from its
result. -/
theorem Except.bind_eq_ok {ε α β : Type} {x : Except ε α} {f : α → Except ε β} {b : β} :
    x >>= f = .ok b ↔ ∃ a, x = .ok a ∧ f a = .ok b := by
  cases x <;> simp [bind, Except.bind]

namespace SortedMap

variable {κ : Type} {cmp : κ → κ → Ordering} [Std.LawfulEqCmp cmp] [DecidableEq κ]

/-- Over entries with distinct keys, the values under `k` sum to the value found for `k`. -/
theorem sum_entries_eq_find? {k : κ} : ∀ {l : List (κ × Int)}, (l.map Prod.fst).Nodup →
    (l.map fun e => if e.1 = k then e.2 else 0).sum =
      ((l.find? fun e => cmp e.1 k == .eq).map Prod.snd).getD 0
  | [], _ => rfl
  | e :: l, hnd => by
    obtain ⟨he, hnd⟩ := List.nodup_cons.1 hnd
    by_cases hk : e.1 = k
    · -- `e` is the entry of `k`, and no other is
      have hrest : (l.map fun e => if e.1 = k then e.2 else 0).sum = 0 :=
        List.sum_eq_zero fun x hx => by
          obtain ⟨d, hd, rfl⟩ := List.mem_map.1 hx
          have hdk : d.1 ≠ k := fun h => he (hk ▸ h ▸ List.mem_map_of_mem hd)
          exact if_neg hdk
      simp [hk, hrest, Std.LawfulEqCmp.compare_eq_iff_eq]
    · simp [hk, Std.LawfulEqCmp.compare_eq_iff_eq, sum_entries_eq_find? hnd]

/-- In a sorted map, a weight that counts the value of the entry of `k` alone sums to the value
under `k`. -/
theorem Sorted.sum_entries {m : SortedMap κ Int} (hs : m.Sorted cmp) (k : κ)
    {w : κ × Int → Int} (hw : ∀ e, w e = if e.1 = k then e.2 else 0) :
    (m.entries.map w).sum = (m.get? cmp k).getD 0 := by
  rw [List.map_congr_left fun e _ => hw e]
  exact sum_entries_eq_find? hs.nodup_keys

theorem getD_get?_insert (m : SortedMap κ Int) (k k' : κ) (v : Int) :
    ((m.insert cmp k v).get? cmp k').getD 0 = if k' = k then v else (m.get? cmp k').getD 0 := by
  rw [get?_insert]
  split <;> rfl

end SortedMap

namespace Balances

variable {κ : Type} {cmp : κ → κ → Ordering} {m m' : SortedMap κ Int} {k : κ} {d : Int}

theorem add_eq_ok (h : add cmp m k d = .ok m') :
    m' = m.insert cmp k ((m.get? cmp k).getD 0 + d) := by
  obtain ⟨s, hs, h⟩ := Except.bind_eq_ok.1 h
  cases h
  rw [((I64.checkedAdd_ok_iff _ _ _).1 hs).2]

theorem sub_eq_ok (h : sub cmp m k d = .ok m') :
    m' = m.insert cmp k ((m.get? cmp k).getD 0 - d) := by
  obtain ⟨s, hs, h⟩ := Except.bind_eq_ok.1 h
  cases h
  rw [((I64.checkedSub_ok_iff _ _ _).1 hs).2]

/-- A fold whose every step keeps the map sorted and adds `δ x` to the sum under `k` ends with
that sum grown by the sum of the `δ`. -/
theorem foldlM_tally {γ : Type}
    {step : SortedMap κ Int → γ → Except Overflow (SortedMap κ Int)} {δ : γ → Int} :
    ∀ {xs : List γ} {m m' : SortedMap κ Int}, xs.foldlM step m = .ok m' → m.Sorted cmp →
      (∀ (m m' : SortedMap κ Int) (x : γ), m.Sorted cmp → step m x = .ok m' →
        m'.Sorted cmp ∧ (m'.get? cmp k).getD 0 = (m.get? cmp k).getD 0 + δ x) →
      m'.Sorted cmp ∧ (m'.get? cmp k).getD 0 = (m.get? cmp k).getD 0 + (xs.map δ).sum
  | [], _, _, h, hs, _ => by
    cases h
    exact ⟨hs, by simp⟩
  | x :: xs, _, _, h, hs, hstep => by
    rw [List.foldlM_cons, Except.bind_eq_ok] at h
    obtain ⟨m₁, h₁, h₂⟩ := h
    obtain ⟨hs₁, ht₁⟩ := hstep _ _ x hs h₁
    obtain ⟨hs', ht'⟩ := foldlM_tally h₂ hs₁ hstep
    refine ⟨hs', ?_⟩
    rw [ht', ht₁, List.map_cons, List.sum_cons]
    omega

variable [Std.LawfulEqCmp cmp] [Std.TransCmp cmp] [DecidableEq κ]

theorem add_tally (hs : m.Sorted cmp) (h : add cmp m k d = .ok m') (k' : κ) :
    m'.Sorted cmp ∧
      (m'.get? cmp k').getD 0 = (m.get? cmp k').getD 0 + if k = k' then d else 0 := by
  rw [add_eq_ok h]
  refine ⟨hs.insert k _, ?_⟩
  rw [SortedMap.getD_get?_insert]
  by_cases hk : k = k'
  · subst k'
    simp
  · simp [hk, Ne.symm hk]

theorem sub_tally (hs : m.Sorted cmp) (h : sub cmp m k d = .ok m') (k' : κ) :
    m'.Sorted cmp ∧
      (m'.get? cmp k').getD 0 = (m.get? cmp k').getD 0 - if k = k' then d else 0 := by
  rw [sub_eq_ok h]
  refine ⟨hs.insert k _, ?_⟩
  rw [SortedMap.getD_get?_insert]
  by_cases hk : k = k'
  · subst k'
    simp
  · simp [hk, Ne.symm hk]

/-- The hbar changes of a transfer list are a sorted map holding, for every account but
`0.0.0`, the sum of its amounts. -/
theorem hbar_tally {transfers : List AccountAmount} {H : SortedMap EntityId Int}
    (h : hbar transfers = .ok H) {a : EntityId} (ha : a ≠ EntityId.empty) :
    H.Sorted EntityId.compare ∧
      (H.get? EntityId.compare a).getD 0 =
        ((transfers.filter (·.accountId = a)).map AccountAmount.amount).sum := by
  have hstep : ∀ (m m' : SortedMap EntityId Int) (x : AccountAmount),
      m.Sorted EntityId.compare →
      (if x.accountId.isEmpty then pure m else add EntityId.compare m x.accountId x.amount) =
        .ok m' →
      m'.Sorted EntityId.compare ∧ (m'.get? EntityId.compare a).getD 0 =
        (m.get? EntityId.compare a).getD 0 + if x.accountId = a then x.amount else 0 := by
    intro m m' x hs h
    split at h
    · -- a transfer of `0.0.0` is left out, and `a` is not `0.0.0`
      next he =>
      cases h
      have hx : x.accountId ≠ a := by
        rintro rfl
        exact ha (by simpa [EntityId.isEmpty] using he)
      simp [hs, hx]
    · exact add_tally hs h a
  obtain ⟨hs, ht⟩ := foldlM_tally h SortedMap.sorted_empty hstep
  refine ⟨hs, ?_⟩
  rw [ht, List.sum_map_ite]
  simp [SortedMap.get?]

/-- A token transfer list adds to the sum of every (account, token) pair what it moves to the
account in the token. -/
theorem tokenList_tally {m m' : SortedMap (EntityId × EntityId) Int} {l : TokenTransferList}
    (hs : m.Sorted EntityId.pairCompare) (h : tokenList m l = .ok m') (a t : EntityId) :
    m'.Sorted EntityId.pairCompare ∧
      (m'.get? EntityId.pairCompare (a, t)).getD 0 =
        (m.get? EntityId.pairCompare (a, t)).getD 0 + l.unitsTo a t := by
  obtain ⟨m₁, h₁, h₂⟩ := Except.bind_eq_ok.1 h
  -- the fungible amounts, then the NFTs, each leaving its sender and reaching its receiver
  obtain ⟨hs₁, ht₁⟩ := foldlM_tally (k := (a, t)) h₁ hs
    fun _ _ _ hs h => add_tally hs h (a, t)
  have hnft : ∀ (m m' : SortedMap (EntityId × EntityId) Int) (x : NftTransfer),
      m.Sorted EntityId.pairCompare →
      (do
          let m ← sub EntityId.pairCompare m (x.senderAccountId, l.tokenId) 1
          add EntityId.pairCompare m (x.receiverAccountId, l.tokenId) 1) = .ok m' →
      m'.Sorted EntityId.pairCompare ∧ (m'.get? EntityId.pairCompare (a, t)).getD 0 =
        (m.get? EntityId.pairCompare (a, t)).getD 0 +
          ((if (x.receiverAccountId, l.tokenId) = (a, t) then 1 else 0) +
            if (x.senderAccountId, l.tokenId) = (a, t) then -1 else 0) := by
    intro m m' x hs h
    obtain ⟨m₁, h₁, h₂⟩ := Except.bind_eq_ok.1 h
    obtain ⟨hs₁, ht₁⟩ := sub_tally hs h₁ (a, t)
    obtain ⟨hs₂, ht₂⟩ := add_tally hs₁ h₂ (a, t)
    refine ⟨hs₂, ?_⟩
    rw [ht₂, ht₁]
    split <;> split <;> omega
  obtain ⟨hs₂, ht₂⟩ := foldlM_tally h₂ hs₁ hnft
  refine ⟨hs₂, ?_⟩
  rw [ht₂, ht₁, Int.add_assoc]
  congr 1
  unfold TokenTransferList.unitsTo
  split
  · next hl =>
    simp [hl, List.sum_map_add, List.sum_map_ite]
    omega
  · next hl =>
    simp [hl]

/-- The token changes of a record's token transfer lists are a sorted map holding, for every
(account, token) pair, what the lists move to the account in the token. -/
theorem tokens_tally {lists : List TokenTransferList} {T : SortedMap (EntityId × EntityId) Int}
    (h : tokens lists = .ok T) (a t : EntityId) :
    T.Sorted EntityId.pairCompare ∧
      (T.get? EntityId.pairCompare (a, t)).getD 0 = (lists.map (·.unitsTo a t)).sum := by
  obtain ⟨hs, ht⟩ := foldlM_tally (k := (a, t)) h SortedMap.sorted_empty
    fun _ _ l hs h => tokenList_tally hs h a t
  refine ⟨hs, ?_⟩
  rw [ht]
  exact Int.zero_add _

end Balances

/-! ### The balance rows of a record -/

namespace Projection

/-- The hbar balance row of an account's change, stamped at `ts`. -/
def hbarRow (ts : Int) (e : EntityId × Int) : Mutation :=
  .entity { id := e.1, balance := some e.2, balanceTimestamp := some ts }

/-- The token balance rows of a map of (account, token) changes, stamped at `ts`: `0.0.0`, where
mints come from and burns go, has none. -/
def tokenRows (ts : Int) (T : SortedMap (EntityId × EntityId) Int) : List Mutation :=
  T.entries.flatMap fun e => if e.1.1.isEmpty then [] else
    [.tokenAccount
      { accountId := e.1.1, tokenId := e.1.2, balance := some e.2, balanceTimestamp := some ts }]

variable {ts : Int} {a t : EntityId}

theorem sum_hbarChange_hbarRows {H : SortedMap EntityId Int} (hs : H.Sorted EntityId.compare) :
    ((H.entries.map (hbarRow ts)).map (·.hbarChange a)).sum =
      (H.get? EntityId.compare a).getD 0 := by
  rw [List.map_map]
  exact hs.sum_entries a fun e => by simp [hbarRow, hbarChange]

theorem sum_tokenChange_hbarRows (H : SortedMap EntityId Int) :
    ((H.entries.map (hbarRow ts)).map (·.tokenChange a t)).sum = 0 := by
  refine List.sum_eq_zero fun x hx => ?_
  obtain ⟨m, hm, rfl⟩ := List.mem_map.1 hx
  obtain ⟨e, -, rfl⟩ := List.mem_map.1 hm
  rfl

theorem sum_hbarChange_tokenRows (T : SortedMap (EntityId × EntityId) Int) :
    ((tokenRows ts T).map (·.hbarChange a)).sum = 0 := by
  refine List.sum_eq_zero fun x hx => ?_
  obtain ⟨m, hm, rfl⟩ := List.mem_map.1 hx
  obtain ⟨e, -, he⟩ := List.mem_flatMap.1 hm
  split at he
  · cases he
  · rw [List.mem_singleton.1 he]
    rfl

theorem sum_tokenChange_tokenRows {T : SortedMap (EntityId × EntityId) Int}
    (hs : T.Sorted EntityId.pairCompare) (ha : a ≠ EntityId.empty) :
    ((tokenRows ts T).map (·.tokenChange a t)).sum =
      (T.get? EntityId.pairCompare (a, t)).getD 0 := by
  rw [tokenRows, List.map_flatMap, List.flatMap_def, List.sum_flatten, List.map_map]
  refine hs.sum_entries (a, t) fun e => ?_
  simp only [Function.comp_apply]
  split
  · -- the row of `0.0.0` is left out, and `a` is not `0.0.0`
    next he =>
    have hne : e.1 ≠ (a, t) := by
      rintro hea
      exact ha (by simpa [EntityId.isEmpty, hea] using he)
    simp [hne]
  · simp [tokenChange, Prod.ext_iff]

theorem run_ofExcept_ok {α : Type} {r : Except Overflow α} {c c' : Ctx} {x : α}
    (h : (ofExcept r).run c = .ok x c') : r = .ok x ∧ c' = c := by
  cases r with
  | ok b =>
    cases h
    exact ⟨rfl, rfl⟩
  | error o => cases h

theorem run_persist (c : Ctx) : persist.run c = .ok c.persist c := rfl

/-- A balance phase that returns delivered the hbar rows of the record's hbar changes, then, for
a successful record while tokens are kept, the token rows of its token changes. -/
theorem applyBalanceChanges_ok {item : RecordItem} {c c' : Ctx} {u : PUnit}
    (h : (applyBalanceChanges item).run c = .ok u c') :
    ∃ H, Balances.hbar item.record.transferList = .ok H ∧
      ((item.isSuccessful && c.props.persist.tokens) = false ∧
          c.Delivers (H.entries.map (hbarRow item.consensusTimestamp)) c' ∨
        (item.isSuccessful && c.props.persist.tokens) = true ∧
          ∃ T, Balances.tokens item.record.tokenTransferLists = .ok T ∧
            c.Delivers (H.entries.map (hbarRow item.consensusTimestamp) ++
              tokenRows item.consensusTimestamp T) c') := by
  unfold applyBalanceChanges at h
  obtain ⟨H, c₁, h₁, h⟩ := run_bind_eq_ok h
  obtain ⟨hH, hc₁⟩ := run_ofExcept_ok h₁
  subst c₁
  obtain ⟨_, c₂, h₂, h⟩ := run_bind_eq_ok h
  have d₁ : c.Delivers (H.entries.map (hbarRow item.consensusTimestamp)) c₂ := by
    rw [List.map_eq_flatMap]
    refine Emits.forM (fun e _ => ?_) h₂
    exact Emits.bind (Emits.of_keeps (Keeps.track _)) fun _ => Emits.emit _
  obtain ⟨p, c₃, h₃, h⟩ := run_bind_eq_ok h
  rw [run_persist] at h₃
  cases h₃
  have hp : c₂.persist = c.props.persist := congrArg Properties.persist d₁.props
  refine ⟨H, hH, ?_⟩
  split at h
  · next hc =>
    cases h
    exact .inl ⟨Bool.and_eq_false_iff.2 (by simpa [hp] using hc), d₁⟩
  · next hc =>
    obtain ⟨T, c₄, h₄, h⟩ := run_bind_eq_ok h
    obtain ⟨hT, hc₄⟩ := run_ofExcept_ok h₄
    subst c₄
    refine .inr ⟨by simpa [hp] using hc, T, hT, d₁.trans ?_⟩
    refine Emits.forM (fun e _ => ?_) h
    rcases e with ⟨⟨account, token⟩, amount⟩
    exact Emits.ite (fun _ => Emits.pure _) fun _ => Emits.emit _

/-- A record's projection that returns ran each of its phases to a result, in order. -/
theorem process_ok_phases {item : RecordItem} {c c' : Ctx} {tx : Transaction}
    (h : (process item).run c = .ok tx c') :
    ∃ c₁ c₂ c₃ c₄ c₅, ((Handler.ofBody item.body).run item).run c = .ok tx c₁ ∧
      (recordContractResult (Handler.ofBody item.body).adjustResult item
        (tx.entityId.getD EntityId.empty)).run c₁ = .ok () c₂ ∧
      (applyAutomaticAssociations item).run c₂ = .ok () c₃ ∧
      (applyNftTransfers item).run c₃ = .ok () c₄ ∧
      (applyBalanceChanges item).run c₄ = .ok () c₅ ∧
      (emit (.transaction tx)).run c₅ = .ok () c' := by
  unfold process at h
  obtain ⟨tx₀, c₁, h₁, h⟩ := run_bind_eq_ok h
  obtain ⟨⟨⟩, c₂, h₂, h⟩ := run_bind_eq_ok h
  obtain ⟨⟨⟩, c₃, h₃, h⟩ := run_bind_eq_ok h
  obtain ⟨⟨⟩, c₄, h₄, h⟩ := run_bind_eq_ok h
  obtain ⟨⟨⟩, c₅, h₅, h⟩ := run_bind_eq_ok h
  obtain ⟨⟨⟩, c₆, h₆, h⟩ := run_bind_eq_ok h
  cases h
  exact ⟨c₁, c₂, c₃, c₄, c₅, h₁, h₂, h₃, h₄, h₅, h₆⟩

/-- A record's projection that returns delivered quiet rows, then its balance rows, then its
transaction row. -/
theorem process_ok {item : RecordItem} {c c' : Ctx} {tx : Transaction}
    (h : (process item).run c = .ok tx c') :
    ∃ c₁ c₂, c.Grows (Quiet item.consensusTimestamp) c₁ ∧
      (applyBalanceChanges item).run c₁ = .ok () c₂ ∧ c₂.Delivers [.transaction tx] c' := by
  obtain ⟨c₁, c₂, c₃, c₄, c₅, h₁, h₂, h₃, h₄, h₅, h₆⟩ := process_ok_phases h
  have g₁ := (Handler.run_quiet item).grows_of_ok h₁
  have g₂ : c₁.Grows (Quiet item.consensusTimestamp) c₂ :=
    (recordContractResult_quiet _ _ _).grows_of_ok h₂
  have g₃ := (applyAutomaticAssociations_quiet item).grows_of_ok h₃
  have g₄ := (applyNftTransfers_quiet item).grows_of_ok h₄
  exact ⟨c₄, c₅, g₁.trans (g₂.trans (g₃.trans g₄)), h₅, Emits.emit _ h₆⟩

/-- The rows of a balance phase that returns add up, for every account but `0.0.0`, to the hbar
the record moved to it, and to the units of a token it moved to it when it succeeded while
tokens are kept. -/
theorem applyBalanceChanges_moves {item : RecordItem} {c c' : Ctx} {u : PUnit}
    (h : (applyBalanceChanges item).run c = .ok u c') :
    ∃ rows, c.Delivers rows c' ∧
      (∀ a, a ≠ EntityId.empty → (rows.map (·.hbarChange a)).sum = item.hbarTo a) ∧
      ∀ a t, a ≠ EntityId.empty → (rows.map (·.tokenChange a t)).sum =
        if item.isSuccessful && c.props.persist.tokens then item.tokenUnitsTo a t else 0 := by
  obtain ⟨H, hH, ⟨hc, d⟩ | ⟨hc, T, hT, d⟩⟩ := applyBalanceChanges_ok h
  · refine ⟨_, d, fun a ha => ?_, fun a t _ => ?_⟩
    · obtain ⟨hs, hsum⟩ := Balances.hbar_tally hH ha
      rw [sum_hbarChange_hbarRows hs, hsum]
      rfl
    · rw [hc, sum_tokenChange_hbarRows]
      rfl
  · refine ⟨_, d, fun a ha => ?_, fun a t ha => ?_⟩
    · obtain ⟨hs, hsum⟩ := Balances.hbar_tally hH ha
      rw [List.map_append, List.sum_append, sum_hbarChange_hbarRows hs, hsum,
        sum_hbarChange_tokenRows, Int.add_zero]
      rfl
    · obtain ⟨hs, hsum⟩ := Balances.tokens_tally hT a t
      rw [List.map_append, List.sum_append, sum_tokenChange_hbarRows,
        sum_tokenChange_tokenRows hs ha, hsum, hc, Int.zero_add]
      rfl

end Projection

/-! ### Records and runs -/

/-- A record that the projection finishes delivered rows that the ledger accepted, and they
change the hbar balance of every account but `0.0.0` by what the record moved to it, and its
token balances by what the record moved to it when it succeeded while tokens are kept. -/
theorem projectRecord_balances {props : Properties} {via : ResolverKind} {sink : Sink}
    {item : RecordItem} {tx : Transaction} {ms : List Mutation} {touched : List EntityId}
    (h : (projectRecord props via sink item).2 = .done tx ms touched) :
    sink.ledger.Accepts ms ∧
      (projectRecord props via sink item).1.ledger = sink.ledger.receive ms ∧
      (∀ a, a ≠ EntityId.empty → (ms.map (·.hbarChange a)).sum = item.hbarTo a) ∧
      ∀ a t, a ≠ EntityId.empty → (ms.map (·.tokenChange a t)).sum =
        if item.isSuccessful && props.persist.tokens then item.tokenUnitsTo a t else 0 := by
  unfold projectRecord at h ⊢
  rcases hrun : (Projection.process item).run (Ctx.start props via sink item) with
    ⟨tx', c⟩ | ⟨f, c⟩ <;> rw [hrun] at h <;> dsimp only at h ⊢
  · obtain ⟨-, rfl, -⟩ := Outcome.done.inj h
    -- quiet rows, then the balance rows, then the transaction row
    obtain ⟨c₁, c₂, ⟨qs, hq, d₁⟩, hb, d₃⟩ := Projection.process_ok hrun
    obtain ⟨rows, d₂, hH, hT⟩ := Projection.applyBalanceChanges_moves hb
    have d := d₁.trans (d₂.trans d₃)
    have he : c.emitted.reverse = qs ++ (rows ++ [.transaction tx']) := by
      rw [d.emitted_start, List.reverse_reverse]
    have hp : c₁.props = props := d₁.props
    rw [he]
    refine ⟨d.accepts, d.ledger, fun a ha => ?_, fun a t ha => ?_⟩
    · rw [List.map_append, List.sum_append, sum_hbarChange_quiet hq, List.map_append,
        List.sum_append, hH a ha]
      simp [hbarChange]
    · rw [List.map_append, List.sum_append, sum_tokenChange_quiet hq, List.map_append,
        List.sum_append, hT a t ha, hp]
      simp [tokenChange]
  · cases h

variable (props : Properties) (via : ResolverKind)

/-- A run of records that all finish delivered rows that the ledger accepted, and they change the
balances by what the records moved. -/
theorem projectEach_moves : ∀ (sink : Sink) (items : List RecordItem),
    (∀ o ∈ (sink.projectEach props via items).1, ∃ tx ms touched, o = .done tx ms touched) →
    ∃ ms, sink.ledger.Accepts ms ∧
      (sink.projectEach props via items).2.ledger = sink.ledger.receive ms ∧
      (∀ a, a ≠ EntityId.empty →
        (ms.map (·.hbarChange a)).sum = (items.map (·.hbarTo a)).sum) ∧
      ∀ a t, a ≠ EntityId.empty → (ms.map (·.tokenChange a t)).sum =
        ((items.filter fun i => i.isSuccessful && props.persist.tokens).map
          (·.tokenUnitsTo a t)).sum
  | sink, [], _ => ⟨[], trivial, rfl, fun _ _ => rfl, fun _ _ _ => rfl⟩
  | sink, item :: rest, hdone => by
    obtain ⟨tx, ms, touched, hd⟩ := hdone _ (List.mem_cons_self ..)
    obtain ⟨hacc, hl, hH, hT⟩ := projectRecord_balances hd
    obtain ⟨ms', hacc', hl', hH', hT'⟩ :=
      projectEach_moves (projectRecord props via sink item).1 rest fun o ho =>
        hdone o (List.mem_cons_of_mem _ ho)
    refine ⟨ms ++ ms', Ledger.accepts_append.2 ⟨hacc, hl ▸ hacc'⟩, ?_, fun a ha => ?_,
      fun a t ha => ?_⟩
    · rw [Sink.projectEach_cons, hl', hl, Ledger.receive_append]
    · rw [List.map_append, List.sum_append, hH a ha, hH' a ha, List.map_cons, List.sum_cons]
    · rw [List.map_append, List.sum_append, hT a t ha, hT' a t ha, List.filter_cons]
      split <;> simp [*]

/-- Projecting records into a fresh ledger, each of them finishing, leaves every account but
`0.0.0` with the hbar its records moved to it, failed records included, and with the units of
each token that its successful records moved to it while tokens are kept: fungible amounts, and
one unit per NFT received less one per NFT sent. -/
theorem projectEach_balances_sum_transfers (sink : Sink) (hfresh : sink.ledger = {})
    (items : List RecordItem)
    (hdone : ∀ o ∈ (sink.projectEach props via items).1, ∃ tx ms touched,
      o = .done tx ms touched) :
    (∀ a : EntityId, a ≠ EntityId.empty →
      (((sink.projectEach props via items).2.ledger.entities.current? [.id a]).bind
          (·.balance)).getD 0 = (items.map (·.hbarTo a)).sum) ∧
    ∀ a t : EntityId, a ≠ EntityId.empty →
      (((sink.projectEach props via items).2.ledger.tokenAccounts.current? [.id a, .id t]).bind
          (·.balance)).getD 0 =
        ((items.filter fun i => i.isSuccessful && props.persist.tokens).map
          (·.tokenUnitsTo a t)).sum := by
  obtain ⟨ms, hacc, hl, hH, hT⟩ := projectEach_moves props via sink items hdone
  rw [hfresh] at hacc hl
  refine ⟨fun a ha => ?_, fun a t ha => ?_⟩
  · rw [hl, Ledger.entityBalance_receive hacc, hH a ha]
  · rw [hl, Ledger.tokenBalance_receive hacc, hT a t ha]

/-- A record moving 5 hbar, 3 units of token `0.0.9` and one of its NFTs from `0.0.2` to
`0.0.7`. -/
def transferWithTokens : List RecordItem :=
  [{ consensusTimestamp := 10, payerAccountId := ⟨0, 0, 2⟩, body := .cryptoTransfer {},
     receipt := { status := ⟨22⟩ },
     record :=
      { transferList := [{ accountId := ⟨0, 0, 2⟩, amount := -5 },
          { accountId := ⟨0, 0, 7⟩, amount := 5 }],
        tokenTransferLists :=
          [{ tokenId := ⟨0, 0, 9⟩,
             transfers := [{ accountId := ⟨0, 0, 2⟩, amount := -3 },
               { accountId := ⟨0, 0, 7⟩, amount := 3 }],
             nftTransfers :=
               [{ senderAccountId := ⟨0, 0, 2⟩, receiverAccountId := ⟨0, 0, 7⟩,
                  serialNumber := 1 }] }] } }]

theorem projectEach_balances_sum_transfers_transferWithTokens :
    ({} : Sink).ledger = {} ∧
      (∀ o ∈ (({} : Sink).projectEach {} .memory transferWithTokens).1, ∃ tx ms touched,
        o = .done tx ms touched) ∧
      (∀ a : EntityId, a ≠ EntityId.empty →
        (((({} : Sink).projectEach {} .memory transferWithTokens).2.ledger.entities.current?
            [.id a]).bind (·.balance)).getD 0 = (transferWithTokens.map (·.hbarTo a)).sum) ∧
      ∀ a t : EntityId, a ≠ EntityId.empty →
        (((({} : Sink).projectEach {} .memory transferWithTokens).2.ledger.tokenAccounts.current?
            [.id a, .id t]).bind (·.balance)).getD 0 =
          ((transferWithTokens.filter fun i =>
              i.isSuccessful && ({} : Properties).persist.tokens).map (·.tokenUnitsTo a t)).sum :=
  have hdone : ∀ o ∈ (({} : Sink).projectEach {} .memory transferWithTokens).1,
      ∃ tx ms touched, o = .done tx ms touched := by
    have hall : (({} : Sink).projectEach {} .memory transferWithTokens).1.all Outcome.finished := by
      decide +kernel
    exact fun o ho => Outcome.finished_iff.1 (List.all_eq_true.1 hall o ho)
  ⟨rfl, hdone, projectEach_balances_sum_transfers {} .memory {} rfl transferWithTokens hdone⟩

end LedgerProjection
