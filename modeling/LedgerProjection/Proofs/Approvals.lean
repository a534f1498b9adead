import LedgerProjection.Proofs.Emission

/-!
## Allowance reconciliation keeps the last grant of each key

An approve transaction may grant the same allowance several times; the last grant in
submission order counts. The step walks the grants from the last one back and writes a grant
only when no later grant had its key. Read as lists:

* `firstsBy key seen as`: the items of `as` whose key neither `seen` nor an earlier item has.
  Of each key it keeps the first item (`filter_firstsBy`).
* `Approval`: one approval the step writes (an hbar allowance, a token allowance, the approval
  of every serial of a token, the spender of one serial) and its `Approval.Key`.
  `Allowance.requests` lists the approvals the grants ask for in submission order, skipping
  grants whose owner or spender does not resolve; `Allowance.approvals` keeps, of each key, the
  last request (`Allowance.filter_approvals`).
* `Approval.rows`: the rows of approvals in order, each but an hbar allowance followed by its
  synthetic event log when those are kept, the logs numbered on from an index.
* `Projection.approveAllowances_steps`: the step emits exactly the rows of
  `Allowance.approvals`, as far as the ledger takes them, its logs numbered from the next log
  index of the state it starts in while the 32-bit counter has room for them (`Ctx.HasRoom`).
-/

namespace LedgerProjection

/-! ### First occurrences -/

section Firsts

variable {α κ : Type} [DecidableEq κ] (key : α → κ)

/-- The items whose key neither `seen` nor an earlier item has, in order. -/
def firstsBy : List κ → List α → List α
  | _, [] => []
  | seen, a :: as => if key a ∈ seen then firstsBy seen as else a :: firstsBy (key a :: seen) as

variable {key}

/-- Of each key not seen, the first item is kept, and no other. -/
theorem filter_firstsBy (k : κ) :
    ∀ (seen : List κ) (as : List α), (firstsBy key seen as).filter (key · = k) =
      if k ∈ seen then [] else (as.find? (key · = k)).toList
  | seen, [] => by simp [firstsBy]
  | seen, a :: as => by
    by_cases ha : key a ∈ seen
    · -- an item whose key was seen is dropped; it is not the first of a key not seen
      have hk : k ∈ seen ∨ key a ≠ k := by
        by_cases h : key a = k
        · exact .inl (h ▸ ha)
        · exact .inr h
      rw [firstsBy, if_pos ha, filter_firstsBy k seen as]
      rcases hk with hk | hk <;> simp [hk]
    · rw [firstsBy, if_neg ha, List.filter_cons, filter_firstsBy k (key a :: seen) as]
      by_cases h : key a = k
      · subst h
        simp [ha]
      · simp [h, Ne.symm h]

theorem firstsBy_singleton (seen : List κ) (a : α) :
    firstsBy key seen [a] = if key a ∈ seen then [] else [a] := by
  rw [firstsBy]
  split <;> rfl

/-- Only what `seen` says of the items' own keys matters. -/
theorem firstsBy_congr :
    ∀ {seen seen' : List κ} {as : List α}, (∀ a ∈ as, key a ∈ seen ↔ key a ∈ seen') →
      firstsBy key seen as = firstsBy key seen' as
  | _, _, [], _ => rfl
  | seen, seen', a :: as, h => by
    have hrest : ∀ b ∈ as, key b ∈ seen ↔ key b ∈ seen' := fun b hb => h b (.tail _ hb)
    by_cases ha : key a ∈ seen
    · rw [firstsBy, firstsBy, if_pos ha, if_pos ((h a (.head _)).1 ha), firstsBy_congr hrest]
    · rw [firstsBy, firstsBy, if_neg ha, if_neg (mt (h a (.head _)).2 ha)]
      congr 1
      exact firstsBy_congr fun b hb => by simp [hrest b hb]

/-- The items of a second list are checked against the keys of the first as well. -/
theorem firstsBy_append :
    ∀ (seen : List κ) (as bs : List α),
      firstsBy key seen (as ++ bs) = firstsBy key seen as ++ firstsBy key (as.map key ++ seen) bs
  | seen, [], bs => rfl
  | seen, a :: as, bs => by
    by_cases ha : key a ∈ seen
    · rw [List.cons_append, firstsBy, firstsBy, if_pos ha, if_pos ha, firstsBy_append seen as bs]
      congr 1
      exact firstsBy_congr fun b _ => by
        rw [List.map_cons, List.cons_append, List.mem_cons]
        exact ⟨.inr, fun h => h.elim (fun h => List.mem_append_right _ (h ▸ ha)) id⟩
    · rw [List.cons_append, firstsBy, firstsBy, if_neg ha, if_neg ha,
        firstsBy_append (key a :: seen) as bs, List.cons_append]
      congr 2
      exact firstsBy_congr fun b _ => by simp [or_left_comm]

end Firsts

/-! ### Approvals and their rows -/

/-- One approval an allowance step writes. -/
inductive Approval where
  /-- `owner` lets `spender` spend `amount` hbar. -/
  | hbar (owner spender : EntityId) (amount : Int)
  /-- `owner` lets `spender` spend `amount` of the fungible `token`. -/
  | token (owner spender token : EntityId) (amount : Int)
  /-- `owner` lets `spender` move every serial of `token`, or withdraws that. -/
  | all (owner spender token : EntityId) (approved : Bool)
  /-- `spender`, delegated by `delegating`, may move serial `serial` of `token`. -/
  | serial (owner spender token delegating : EntityId) (serial : Int)
deriving DecidableEq, Repr

namespace Approval

/-- What an approval is about: the row it writes replaces an earlier one of the same key. -/
inductive Key where
  | hbar (owner spender : EntityId)
  | token (owner spender token : EntityId)
  | all (owner spender token : EntityId)
  | serial (token : EntityId) (serial : Int)
deriving DecidableEq, Repr

/-- The key of an approval. -/
def key : Approval → Key
  | hbar o s _ => .hbar o s
  | token o s t _ => .token o s t
  | all o s t _ => .all o s t
  | serial _ _ t _ n => .serial t n

/-- The row an approval of the record `item` writes. -/
def row (item : RecordItem) : Approval → Mutation
  | hbar o s amount => .cryptoAllowance
    { owner := o, spender := s, timestampRange := item.openRange, amount := amount,
      amountGranted := amount, payerAccountId := item.payerAccountId }
  | token o s t amount => .tokenAllowance
    { owner := o, spender := s, tokenId := t, timestampRange := item.openRange, amount := amount,
      amountGranted := amount, payerAccountId := item.payerAccountId }
  | all o s t approved => .nftAllowance
    { owner := o, spender := s, tokenId := t, timestampRange := item.openRange,
      approvedForAll := approved, payerAccountId := item.payerAccountId }
  | serial _ s t d n => .nft
    { tokenId := t, serialNumber := n, timestampRange := item.openRange,
      delegatingSpender := some d, spender := some s }

/-- The ERC event log of `token` announcing an approval by `owner` to `spender`, numbered
`index`. -/
def syntheticLog (item : RecordItem) (index : Int) (token : EntityId) (topic0 : List UInt8)
    (owner spender : EntityId) (topic3 : Option (List UInt8)) (data : List UInt8) : ContractLog :=
  { consensusTimestamp := item.consensusTimestamp, index := index, contractId := token,
    payerAccountId := item.payerAccountId, rootContractId := some token, bloom := [],
    data := data, topic0 := some topic0, topic1 := some owner.evmWord,
    topic2 := some spender.evmWord, topic3 := topic3, synthetic := true }

/-- The synthetic event of an approval, numbered `index`; an hbar allowance has none. -/
def event? (item : RecordItem) (index : Int) : Approval → Option ContractLog
  | hbar .. => none
  | token o s t amount =>
    some (syntheticLog item index t Allowance.approvalTopic o s none (Word.ofInt amount))
  | all o s t approved =>
    some (syntheticLog item index t Allowance.approvalForAllTopic o s none (Word.ofBool approved))
  | serial o s t _ n =>
    some (syntheticLog item index t Allowance.approvalTopic o s (some (Word.ofInt n)) [])

/-- Whether an approval is announced by a synthetic event. -/
def announced : Approval → Bool
  | hbar .. => false
  | _ => true

theorem event?_isSome (item : RecordItem) (index : Int) (a : Approval) :
    (a.event? item index).isSome = a.announced := by
  cases a <;> rfl

/-- The rows of approvals in order, each followed by its synthetic event when events are kept
(`logs`), the events numbered on from `index`. -/
def rows (item : RecordItem) (logs : Bool) : Int → List Approval → List Mutation
  | _, [] => []
  | index, a :: as =>
    if logs && a.announced then
      a.row item :: (a.event? item index).toList.map .contractLog ++ rows item logs (index + 1) as
    else a.row item :: rows item logs index as

/-- The number of events the rows of `as` carry. -/
def eventCount (logs : Bool) (as : List Approval) : Nat :=
  if logs then as.countP announced else 0

@[simp]
theorem eventCount_nil (logs : Bool) : eventCount logs [] = 0 := by
  simp [eventCount]

theorem eventCount_cons (logs : Bool) (a : Approval) (as : List Approval) :
    eventCount logs (a :: as) = (if logs && a.announced then 1 else 0) + eventCount logs as := by
  cases logs <;> cases h : a.announced <;> simp [eventCount, h, Nat.add_comm]

theorem eventCount_append (logs : Bool) (as bs : List Approval) :
    eventCount logs (as ++ bs) = eventCount logs as + eventCount logs bs := by
  cases logs <;> simp [eventCount, List.countP_append]

theorem rows_append (item : RecordItem) (logs : Bool) :
    ∀ (index : Int) (as bs : List Approval),
      rows item logs index (as ++ bs) =
        rows item logs index as ++ rows item logs (index + eventCount logs as) bs
  | index, [], bs => by simp [rows]
  | index, a :: as, bs => by
    by_cases h : logs && a.announced
    · rw [List.cons_append, rows, rows, if_pos h, if_pos h, rows_append item logs _ as bs,
        eventCount_cons, if_pos h]
      simp [add_assoc]
    · rw [List.cons_append, rows, rows, if_neg h, if_neg h, rows_append item logs _ as bs,
        eventCount_cons, if_neg h]
      simp

/-- What the resolver learns from an approval's row: nothing. -/
theorem learn_row (item : RecordItem) (r : Resolver) (a : Approval) :
    Sink.learn r (a.row item) = r := by
  cases a <;> rfl

/-- What the resolver learns from an approval's rows: nothing. -/
theorem learn_rows (item : RecordItem) (logs : Bool) (r : Resolver) :
    ∀ (index : Int) (as : List Approval), ∀ m ∈ rows item logs index as, Sink.learn r m = r
  | _, [] => by simp [rows]
  | index, a :: as => by
    intro m hm
    have hrow := learn_row item r a
    unfold rows at hm
    split at hm
    · rcases List.mem_cons.1 hm with rfl | hm
      · exact hrow
      rcases List.mem_append.1 hm with hm | hm
      · obtain ⟨e, -, rfl⟩ := List.mem_map.1 hm
        rfl
      · exact learn_rows item logs r _ as m hm
    · rcases List.mem_cons.1 hm with rfl | hm
      · exact hrow
      · exact learn_rows item logs r _ as m hm

end Approval

/-! ### What the grants ask for -/

namespace Allowance

variable (c : Ctx) (payer : EntityId)

/-- The hbar approval a grant asks for, when its owner and spender resolve. -/
def hbarRequest (g : CryptoAllowanceGrant) : Option Approval :=
  match owner c g.owner payer, spender c g.spender with
  | some o, some s => some (.hbar o s g.amount)
  | _, _ => none

/-- The token approval a grant asks for, when its owner and spender resolve. -/
def tokenRequest (g : TokenAllowanceGrant) : Option Approval :=
  match owner c g.owner payer, spender c g.spender with
  | some o, some s => some (.token o s g.tokenId g.amount)
  | _, _ => none

/-- The approval of every serial a grant asks for, when its owner and spender resolve and it
says whether to approve. -/
def allRequest (g : NftAllowanceGrant) : Option Approval :=
  match owner c g.owner payer, spender c g.spender, g.approvedForAll with
  | some o, some s, .set approved => some (.all o s g.tokenId approved)
  | _, _, _ => none

/-- The approvals of single serials a grant asks for, in its order, when its owner and spender
resolve; an absent or unresolved delegating spender is `0.0.0`. -/
def serialRequests (g : NftAllowanceGrant) : List Approval :=
  match owner c g.owner payer, spender c g.spender with
  | some o, some s =>
    g.serialNumbers.map (.serial o s g.tokenId (c.resolveOrEmpty g.delegatingSpender))
  | _, _ => []

/-- What an NFT grant asks for, in the order the step meets it: the approval of every serial,
then the single serials from the last back. -/
def nftCandidates (g : NftAllowanceGrant) : List Approval :=
  (allRequest c payer g).toList ++ (serialRequests c payer g).reverse

/-- The approvals the grants of an approve transaction ask for, in submission order: the hbar
allowances, the token allowances, then the NFT allowances, each grant's approval of every
serial before its single serials. -/
def requests (item : RecordItem) (body : CryptoApproveAllowanceBody) : List Approval :=
  body.cryptoAllowances.filterMap (hbarRequest c item.payerAccountId) ++
    body.tokenAllowances.filterMap (tokenRequest c item.payerAccountId) ++
    body.nftAllowances.flatMap fun g =>
      (allRequest c item.payerAccountId g).toList ++ serialRequests c item.payerAccountId g

/-- The requests in the order the step meets them: each kind's grants from the last back. -/
def candidates (item : RecordItem) (body : CryptoApproveAllowanceBody) : List Approval :=
  body.cryptoAllowances.reverse.filterMap (hbarRequest c item.payerAccountId) ++
    body.tokenAllowances.reverse.filterMap (tokenRequest c item.payerAccountId) ++
    body.nftAllowances.reverse.flatMap (nftCandidates c item.payerAccountId)

/-- The approvals an approve transaction writes: of each key, the first request the step
meets. -/
def approvals (item : RecordItem) (body : CryptoApproveAllowanceBody) : List Approval :=
  firstsBy Approval.key [] (candidates c item body)

variable {c payer}

theorem key_of_allRequest {g : NftAllowanceGrant} {a : Approval}
    (h : allRequest c payer g = some a) : ∃ o s t, a.key = .all o s t := by
  unfold allRequest at h
  split at h
  · cases h
    exact ⟨_, _, _, rfl⟩
  · cases h

theorem key_of_mem_serialRequests {g : NftAllowanceGrant} {a : Approval}
    (h : a ∈ serialRequests c payer g) : ∃ t n, a.key = .serial t n := by
  unfold serialRequests at h
  split at h
  · obtain ⟨n, -, rfl⟩ := List.mem_map.1 h
    exact ⟨_, _, rfl⟩
  · cases h

/-- Met from the last back, an NFT grant's requests of one key come in reverse: a grant asks
for one approval of all serials at most, and its serials have keys of another kind. -/
theorem filter_nftCandidates (k : Approval.Key) (g : NftAllowanceGrant) :
    (nftCandidates c payer g).filter (·.key = k) =
      (((allRequest c payer g).toList ++ serialRequests c payer g).filter (·.key = k)).reverse := by
  unfold nftCandidates
  cases hall : allRequest c payer g with
  | none => simp [List.filter_reverse]
  | some a =>
    by_cases hk : a.key = k
    · -- the key is that of an approval of all serials: no single serial has it
      have hser : (serialRequests c payer g).filter (·.key = k) = [] := by
        refine List.filter_eq_nil_iff.2 fun b hb => ?_
        obtain ⟨o, s, t, hat⟩ := key_of_allRequest hall
        obtain ⟨t', n, hbt⟩ := key_of_mem_serialRequests hb
        rw [← hk, hat, hbt]
        simp
      simp [List.filter_reverse, hser, hk]
    · simp [List.filter_reverse, hk]

theorem key_of_mem_hbarRequests {gs : List CryptoAllowanceGrant} {a : Approval}
    (h : a ∈ gs.filterMap (hbarRequest c payer)) : ∃ o s, a.key = .hbar o s := by
  obtain ⟨g, -, hg⟩ := List.mem_filterMap.1 h
  unfold hbarRequest at hg
  split at hg
  · cases hg
    exact ⟨_, _, rfl⟩
  · cases hg

theorem key_of_mem_tokenRequests {gs : List TokenAllowanceGrant} {a : Approval}
    (h : a ∈ gs.filterMap (tokenRequest c payer)) : ∃ o s t, a.key = .token o s t := by
  obtain ⟨g, -, hg⟩ := List.mem_filterMap.1 h
  unfold tokenRequest at hg
  split at hg
  · cases hg
    exact ⟨_, _, _, rfl⟩
  · cases hg

/-- A grant whose owner or spender does not resolve asks for nothing. -/
theorem hbarRequest_eq_none {g : CryptoAllowanceGrant}
    (hno : ∀ o s, owner c g.owner payer = some o → spender c g.spender = some s → False) :
    hbarRequest c payer g = none := by
  unfold hbarRequest
  split
  · rename_i o s ho hs
    exact (hno o s ho hs).elim
  · rfl

theorem tokenRequest_eq_none {g : TokenAllowanceGrant}
    (hno : ∀ o s, owner c g.owner payer = some o → spender c g.spender = some s → False) :
    tokenRequest c payer g = none := by
  unfold tokenRequest
  split
  · rename_i o s ho hs
    exact (hno o s ho hs).elim
  · rfl

theorem nftCandidates_eq_nil {g : NftAllowanceGrant}
    (hno : ∀ o s, owner c g.owner payer = some o → spender c g.spender = some s → False) :
    nftCandidates c payer g = [] := by
  have hall : allRequest c payer g = none := by
    unfold allRequest
    split
    · rename_i o s _ ho hs _
      exact (hno o s ho hs).elim
    · rfl
  have hser : serialRequests c payer g = [] := by
    unfold serialRequests
    split
    · rename_i o s ho hs
      exact (hno o s ho hs).elim
    · rfl
  simp [nftCandidates, hall, hser]

/-- What an NFT grant asks for approves all serials or one serial. -/
theorem key_of_nftRequest {g : NftAllowanceGrant} {a : Approval}
    (h : a ∈ (allRequest c payer g).toList ∨ a ∈ serialRequests c payer g) :
    (∃ o s t, a.key = .all o s t) ∨ ∃ t n, a.key = .serial t n :=
  h.imp (fun h => key_of_allRequest (Option.mem_toList.1 h)) key_of_mem_serialRequests

theorem key_of_mem_nftRequests {gs : List NftAllowanceGrant} {a : Approval}
    (h : a ∈ gs.flatMap fun g => (allRequest c payer g).toList ++ serialRequests c payer g) :
    (∃ o s t, a.key = .all o s t) ∨ ∃ t n, a.key = .serial t n := by
  obtain ⟨g, -, hg⟩ := List.mem_flatMap.1 h
  exact key_of_nftRequest (List.mem_append.1 hg)

theorem key_of_mem_nftCandidates {gs : List NftAllowanceGrant} {a : Approval}
    (h : a ∈ gs.flatMap (nftCandidates c payer)) :
    (∃ o s t, a.key = .all o s t) ∨ ∃ t n, a.key = .serial t n := by
  obtain ⟨g, -, hg⟩ := List.mem_flatMap.1 h
  exact key_of_nftRequest ((List.mem_append.1 hg).imp_right List.mem_reverse.1)

/-- Of two lists with no key in common, one has no item of a given key. -/
theorem reverse_filter_append {l₁ l₂ : List Approval} (k : Approval.Key)
    (h : ∀ a ∈ l₁, ∀ b ∈ l₂, a.key ≠ b.key) :
    ((l₁ ++ l₂).filter (·.key = k)).reverse =
      (l₁.filter (·.key = k)).reverse ++ (l₂.filter (·.key = k)).reverse := by
  by_cases h₁ : l₁.filter (·.key = k) = []
  · simp [h₁]
  · have h₂ : l₂.filter (·.key = k) = [] := by
      obtain ⟨a, ha⟩ := List.exists_mem_of_ne_nil _ h₁
      rw [List.mem_filter, decide_eq_true_iff] at ha
      refine List.filter_eq_nil_iff.2 fun b hb hbk => h a ha.1 b hb ?_
      rw [ha.2, of_decide_eq_true hbk]
    simp [h₂]

/-- The candidates of one key are its requests, from the last back. -/
theorem filter_candidates (item : RecordItem) (body : CryptoApproveAllowanceBody)
    (k : Approval.Key) :
    (candidates c item body).filter (·.key = k) =
      ((requests c item body).filter (·.key = k)).reverse := by
  -- requests of different kinds have keys of different kinds
  have hht : ∀ a ∈ body.cryptoAllowances.filterMap (hbarRequest c item.payerAccountId),
      ∀ b ∈ body.tokenAllowances.filterMap (tokenRequest c item.payerAccountId), a.key ≠ b.key := by
    intro a ha b hb
    obtain ⟨o, s, hka⟩ := key_of_mem_hbarRequests ha
    obtain ⟨o', s', t', hkb⟩ := key_of_mem_tokenRequests hb
    simp [hka, hkb]
  have hn : ∀ a ∈ body.cryptoAllowances.filterMap (hbarRequest c item.payerAccountId) ++
      body.tokenAllowances.filterMap (tokenRequest c item.payerAccountId),
      ∀ b ∈ body.nftAllowances.flatMap (fun g =>
        (allRequest c item.payerAccountId g).toList ++ serialRequests c item.payerAccountId g),
      a.key ≠ b.key := by
    intro a ha b hb
    have hkb := key_of_mem_nftRequests hb
    rcases List.mem_append.1 ha with ha | ha
    · obtain ⟨o, s, hka⟩ := key_of_mem_hbarRequests ha
      rcases hkb with ⟨_, _, _, hkb⟩ | ⟨_, _, hkb⟩ <;> simp [hka, hkb]
    · obtain ⟨o, s, t, hka⟩ := key_of_mem_tokenRequests ha
      rcases hkb with ⟨_, _, _, hkb⟩ | ⟨_, _, hkb⟩ <;> simp [hka, hkb]
  rw [requests, reverse_filter_append k hn, reverse_filter_append k hht, candidates]
  simp only [List.filter_append, List.filterMap_reverse, List.filter_reverse, List.filter_flatMap,
    filter_nftCandidates, List.reverse_flatMap, Function.comp_def]

/-- Of each key, the step writes the last request, and nothing when no grant asks for it. -/
theorem filter_approvals (item : RecordItem) (body : CryptoApproveAllowanceBody)
    (k : Approval.Key) :
    (approvals c item body).filter (·.key = k) =
      ((requests c item body).filter (·.key = k)).getLast?.toList := by
  rw [approvals, filter_firstsBy, if_neg (List.not_mem_nil), ← List.head?_filter,
    filter_candidates, List.head?_reverse]

end Allowance

/-! ### States alike for an allowance step -/

namespace Ctx

/-- Two states alike in what an allowance step reads of them: the settings, the resolver
consulted and what it knows. -/
structure Alike (c c' : Ctx) : Prop where
  props : c'.props = c.props
  via : c'.via = c.via
  resolver : c'.sink.resolver = c.sink.resolver

variable {c c₁ c' : Ctx}

theorem Alike.refl (c : Ctx) : c.Alike c := ⟨rfl, rfl, rfl⟩

theorem Alike.trans (h : c.Alike c₁) (h' : c₁.Alike c') : c.Alike c' :=
  ⟨h'.props.trans h.props, h'.via.trans h.via, h'.resolver.trans h.resolver⟩

theorem Alike.persist (h : c.Alike c') : c'.persist = c.persist := by
  rw [Ctx.persist, h.props]
  rfl

theorem Alike.resolve (h : c.Alike c') : c'.resolve = c.resolve := by
  funext ref
  simp only [Ctx.resolve, Ctx.decodeLocal, h.props, h.via, h.resolver]

theorem Alike.resolveOrEmpty (h : c.Alike c') : c'.resolveOrEmpty = c.resolveOrEmpty := by
  funext ref
  rw [Ctx.resolveOrEmpty, Ctx.resolveOrEmpty, h.resolve]

end Ctx

namespace Allowance

variable {c c' : Ctx} (h : c.Alike c') (payer : EntityId)
include h

theorem owner_alike : owner c' = owner c := by
  funext ref payer
  simp only [owner, h.resolve]

theorem spender_alike : spender c' = spender c := by
  funext ref
  simp only [spender, h.resolve]

theorem hbarRequest_alike : hbarRequest c' payer = hbarRequest c payer := by
  funext g
  simp only [hbarRequest, owner_alike h, spender_alike h]

theorem tokenRequest_alike : tokenRequest c' payer = tokenRequest c payer := by
  funext g
  simp only [tokenRequest, owner_alike h, spender_alike h]

theorem nftCandidates_alike : nftCandidates c' payer = nftCandidates c payer := by
  funext g
  simp only [nftCandidates, allRequest, serialRequests, owner_alike h, spender_alike h,
    h.resolveOrEmpty]

end Allowance

namespace Projection

variable {α β : Type}

/-- From `c`, `x` takes `n` log indexes: when the counter has room for them, it emits `ms` as far
as the ledger takes them; and when it returns, it leaves a state alike to `c` whose next log
index is `n` further on. -/
structure Steps (x : Projection α) (c : Ctx) (ms : List Mutation) (n : Nat) : Prop where
  emits : c.HasRoom n → EmitsFrom x c ms
  alike : ∀ {a c'}, x.run c = .ok a c' → c.Alike c' ∧ c'.nextLogIndex = c.nextLogIndex + n

namespace Steps

variable {x : Projection α} {c : Ctx} {ms ms' : List Mutation} {n n' : Nat}

theorem bind {f : α → Projection β} (hx : Steps x c ms n)
    (hf : ∀ a c₁, x.run c = .ok a c₁ → Steps (f a) c₁ ms' n') :
    Steps (x >>= f) c (ms ++ ms') (n + n') where
  emits hr := (hx.emits hr.left).bind fun a c₁ h => (hf a c₁ h).emits (hr.right (hx.alike h).2)
  alike h := by
    obtain ⟨a, c₁, h₁, h₂⟩ := run_bind_eq_ok h
    obtain ⟨hA₁, hi₁⟩ := hx.alike h₁
    obtain ⟨hA₂, hi₂⟩ := (hf a c₁ h₁).alike h₂
    exact ⟨hA₁.trans hA₂, by rw [hi₂, hi₁]; push_cast; ring⟩

theorem nil_bind {f : α → Projection β} (hx : Steps x c [] 0)
    (hf : ∀ a c₁, x.run c = .ok a c₁ → Steps (f a) c₁ ms' n') : Steps (x >>= f) c ms' n' := by
  simpa using hx.bind hf

theorem of_run {a : α} {c' : Ctx} (h : x.run c = .ok a c') (he : c'.emitted = c.emitted)
    (hs : c'.sink = c.sink) (hA : c.Alike c') (hi : c'.nextLogIndex = c.nextLogIndex) :
    Steps x c [] 0 where
  emits _ := EmitsFrom.of_run h he hs hA.via hA.props
  alike h' := by
    rw [h] at h'
    cases h'
    exact ⟨hA, by simpa using hi⟩

theorem pure (a : α) : Steps (Pure.pure a : Projection α) c [] 0 :=
  of_run rfl rfl rfl (Ctx.Alike.refl c) rfl

theorem read : Steps Projection.read c [] 0 :=
  of_run (run_read c) rfl rfl (Ctx.Alike.refl c) rfl

theorem persist : Steps Projection.persist c [] 0 :=
  of_run (run_persist c) rfl rfl (Ctx.Alike.refl c) rfl

theorem track (id : EntityId) : Steps (Projection.track id) c [] 0 := by
  refine of_run (run_track id c) ?_ ?_ ?_ ?_ <;> split
  all_goals first | rfl | exact Ctx.Alike.refl c | exact ⟨rfl, rfl, rfl⟩

/-- Emitting a row that teaches the resolver nothing. -/
theorem emit {m : Mutation} (hm : ∀ r, Sink.learn r m = r) : Steps (Projection.emit m) c [m] 0 where
  emits _ := EmitsFrom.emit m
  alike h := by
    obtain ⟨-, rfl⟩ := run_emit_eq_ok h
    exact ⟨⟨rfl, rfl, by simp [hm]⟩, by simp⟩

theorem nextLogIndex : Steps Projection.nextLogIndex c [] 1 where
  emits := EmitsFrom.nextLogIndex
  alike h := by
    obtain ⟨rfl, rfl⟩ := run_nextLogIndex_eq_ok h
    exact ⟨⟨rfl, rfl, rfl⟩, by push_cast; rfl⟩

/-- What follows reading the state. -/
theorem read_bind {f : Ctx → Projection β} (hf : Steps (f c) c ms n) :
    Steps (Projection.read >>= f) c ms n :=
  nil_bind read fun _ c₁ h => by
    rw [run_read] at h
    cases h
    exact hf

/-- What follows a step that only marks an id touched, from every state alike. -/
theorem track_bind {f : Unit → Projection β} (id : EntityId)
    (hf : ∀ c₁, c.Alike c₁ → c₁.nextLogIndex = c.nextLogIndex → Steps (f ()) c₁ ms n) :
    Steps (Projection.track id >>= f) c ms n :=
  nil_bind (track id) fun _ c₁ h => by
    obtain ⟨hA, hi⟩ := (track id).alike h
    exact hf c₁ hA (by simpa using hi)

/-- What follows a single row. -/
theorem cons_bind {f : α → Projection β} {m : Mutation} (hx : Steps x c [m] 0)
    (hf : ∀ a c₁, x.run c = .ok a c₁ → Steps (f a) c₁ ms' n') :
    Steps (x >>= f) c (m :: ms') n' := by
  simpa using hx.bind hf

end Steps

/-! ### The allowance loops -/

section Loops

variable (item : RecordItem)

/-- A synthetic event, when events are kept, takes the next log index. -/
theorem emitSyntheticLog_steps (token : EntityId) (topic0 : List UInt8) (o s : EntityId)
    (topic3 : Option (List UInt8)) (data : List UInt8) (c : Ctx) :
    Steps (emitSyntheticLog item token topic0 o s topic3 data) c
      (if c.persist.syntheticContractLogs then
        [.contractLog (Approval.syntheticLog item c.nextLogIndex token topic0 o s topic3 data)]
      else [])
      (if c.persist.syntheticContractLogs then 1 else 0) := by
  unfold emitSyntheticLog
  refine Steps.nil_bind Steps.persist fun p c₁ h₁ => ?_
  rw [run_persist] at h₁
  cases h₁
  cases hon : c.persist.syntheticContractLogs
  · simpa [hon] using Steps.pure (c := c) ()
  · simp only [Bool.not_true, Bool.false_eq_true, if_false, if_true]
    refine (Steps.nextLogIndex.bind fun i c₂ h₂ => ?_ : Steps _ c ([] ++ _) (1 + 0))
    obtain ⟨rfl, rfl⟩ := run_nextLogIndex_eq_ok h₂
    exact Steps.emit fun _ => rfl

/-- An approval no event announces: its row, then what follows. -/
theorem row_bind (a : Approval) (ha : a.announced = false) {f : Unit → Projection β}
    {R : List Approval} {c : Ctx}
    (hf : ∀ c₁, c.Alike c₁ → c₁.nextLogIndex = c.nextLogIndex →
      Steps (f ()) c₁ (Approval.rows item c.persist.syntheticContractLogs c.nextLogIndex R)
        (Approval.eventCount c.persist.syntheticContractLogs R)) :
    Steps (emit (a.row item) >>= f) c
      (Approval.rows item c.persist.syntheticContractLogs c.nextLogIndex (a :: R))
      (Approval.eventCount c.persist.syntheticContractLogs (a :: R)) := by
  have hemit := Steps.emit (c := c) (Approval.learn_row item · a)
  simp only [Approval.rows, Approval.eventCount_cons, ha, Bool.and_false, Bool.false_eq_true,
    if_false, zero_add]
  refine Steps.cons_bind hemit fun _ c₁ h₁ => ?_
  obtain ⟨hA, hi⟩ := hemit.alike h₁
  exact hf c₁ hA (by simpa using hi)

/-- An approval an event announces: its row, then its event when events are kept, then what
follows, numbered on. -/
theorem announce_bind (a : Approval) {t o s : EntityId} {topic0 : List UInt8}
    {topic3 : Option (List UInt8)} {data : List UInt8}
    (he : ∀ i, a.event? item i = some (Approval.syntheticLog item i t topic0 o s topic3 data))
    {f : Unit → Projection β} {R : List Approval} {c : Ctx}
    (hf : ∀ c₁, c.Alike c₁ →
      c₁.nextLogIndex = c.nextLogIndex + Approval.eventCount c.persist.syntheticContractLogs [a] →
      Steps (f ()) c₁
        (Approval.rows item c.persist.syntheticContractLogs
          (c.nextLogIndex + Approval.eventCount c.persist.syntheticContractLogs [a]) R)
        (Approval.eventCount c.persist.syntheticContractLogs R)) :
    Steps (emit (a.row item) >>= fun _ => emitSyntheticLog item t topic0 o s topic3 data >>= f) c
      (Approval.rows item c.persist.syntheticContractLogs c.nextLogIndex (a :: R))
      (Approval.eventCount c.persist.syntheticContractLogs (a :: R)) := by
  have ha : a.announced = true := by
    rw [← Approval.event?_isSome item 0, he]
    rfl
  have hcount : ∀ logs, Approval.eventCount logs [a] = if logs then 1 else 0 := by
    intro logs
    simp [Approval.eventCount_cons, ha]
  have hsplit : a :: R = [a] ++ R := rfl
  rw [hcount] at hf
  rw [hsplit, Approval.rows_append, Approval.eventCount_append, hcount]
  simp only [Approval.rows, ha, Bool.and_true, he, Option.toList_some, List.map_cons,
    List.map_nil, List.append_nil]
  -- the row, then the event the next index names
  have hemit := Steps.emit (c := c) (Approval.learn_row item · a)
  have hrow : Steps (emit (a.row item) >>= fun _ =>
      emitSyntheticLog item t topic0 o s topic3 data >>= f) c
      (a.row item :: ((if c.persist.syntheticContractLogs then
        [.contractLog (Approval.syntheticLog item c.nextLogIndex t topic0 o s topic3 data)]
        else []) ++
        Approval.rows item c.persist.syntheticContractLogs
          (c.nextLogIndex + ((if c.persist.syntheticContractLogs then 1 else 0 : Nat) : Int)) R))
      ((if c.persist.syntheticContractLogs then 1 else 0) +
        Approval.eventCount c.persist.syntheticContractLogs R) := by
    refine Steps.cons_bind hemit fun _ c₁ h₁ => ?_
    obtain ⟨hA₁, hi₁⟩ := hemit.alike h₁
    have hlog := emitSyntheticLog_steps item t topic0 o s topic3 data c₁
    rw [hA₁.persist, hi₁, Nat.cast_zero, add_zero] at hlog
    refine hlog.bind fun _ c₂ h₂ => ?_
    obtain ⟨hA₂, hi₂⟩ := hlog.alike h₂
    exact hf c₂ (hA₁.trans hA₂) (by rw [hi₂, hi₁, Nat.cast_zero, add_zero])
  cases hon : c.persist.syntheticContractLogs <;> simpa [hon] using hrow

/-- The hbar allowances, from the last grant back, write the first approval of each key not yet
seen. -/
theorem approveCrypto_steps :
    ∀ (seen : List (EntityId × EntityId)) (gs : List CryptoAllowanceGrant) (c : Ctx),
      Steps (approveCrypto item seen gs) c
        (Approval.rows item c.persist.syntheticContractLogs c.nextLogIndex
          (firstsBy Approval.key (seen.map fun p => .hbar p.1 p.2)
            (gs.filterMap (Allowance.hbarRequest c item.payerAccountId))))
        (Approval.eventCount c.persist.syntheticContractLogs
          (firstsBy Approval.key (seen.map fun p => .hbar p.1 p.2)
            (gs.filterMap (Allowance.hbarRequest c item.payerAccountId))))
  | seen, [], c => by
    rw [approveCrypto]
    simpa [firstsBy, Approval.rows] using Steps.pure (c := c) ()
  | seen, g :: rest, c => by
    rw [approveCrypto]
    refine Steps.read_bind ?_
    split
    · rename_i o s ho hs
      have hreq : Allowance.hbarRequest c item.payerAccountId g = some (.hbar o s g.amount) := by
        simp [Allowance.hbarRequest, ho, hs]
      rw [List.filterMap_cons_some hreq]
      by_cases hseen : (o, s) ∈ seen
      · -- a later grant already wrote this key
        have hkey : Approval.Key.hbar o s ∈ seen.map fun p => .hbar p.1 p.2 :=
          List.mem_map.2 ⟨_, hseen, rfl⟩
        rw [if_pos hseen]
        simpa [firstsBy, Approval.key, hkey] using approveCrypto_steps seen rest c
      · have hkey : Approval.Key.hbar o s ∉ seen.map fun p => .hbar p.1 p.2 := by
          simpa using hseen
        rw [if_neg hseen, firstsBy, Approval.key, if_neg hkey]
        refine Steps.track_bind o fun c₂ hA₂ hi₂ => Steps.track_bind s fun c₃ hA₃ hi₃ => ?_
        have hA : c.Alike c₃ := hA₂.trans hA₃
        rw [← hA.persist, ← hi₂, ← hi₃]
        refine row_bind item (.hbar o s g.amount) rfl fun c₄ hA₄ hi₄ => ?_
        have hrest := approveCrypto_steps ((o, s) :: seen) rest c₄
        rw [Allowance.hbarRequest_alike (hA.trans hA₄), hA₄.persist, hi₄] at hrest
        simpa [Approval.key] using hrest
    · rename_i hno
      rw [List.filterMap_cons_none (Allowance.hbarRequest_eq_none hno)]
      exact approveCrypto_steps seen rest c

/-- The token allowances, from the last grant back, write the first approval of each key not
yet seen, each followed by its event. -/
theorem approveTokens_steps :
    ∀ (seen : List (EntityId × EntityId × EntityId)) (gs : List TokenAllowanceGrant) (c : Ctx),
      Steps (approveTokens item seen gs) c
        (Approval.rows item c.persist.syntheticContractLogs c.nextLogIndex
          (firstsBy Approval.key (seen.map fun p => .token p.1 p.2.1 p.2.2)
            (gs.filterMap (Allowance.tokenRequest c item.payerAccountId))))
        (Approval.eventCount c.persist.syntheticContractLogs
          (firstsBy Approval.key (seen.map fun p => .token p.1 p.2.1 p.2.2)
            (gs.filterMap (Allowance.tokenRequest c item.payerAccountId))))
  | seen, [], c => by
    rw [approveTokens]
    simpa [firstsBy, Approval.rows] using Steps.pure (c := c) ()
  | seen, g :: rest, c => by
    rw [approveTokens]
    refine Steps.read_bind ?_
    split
    · rename_i o s ho hs
      have hreq : Allowance.tokenRequest c item.payerAccountId g =
          some (.token o s g.tokenId g.amount) := by
        simp [Allowance.tokenRequest, ho, hs]
      rw [List.filterMap_cons_some hreq]
      by_cases hseen : (o, s, g.tokenId) ∈ seen
      · -- a later grant already wrote this key
        have hkey : Approval.Key.token o s g.tokenId ∈ seen.map fun p => .token p.1 p.2.1 p.2.2 :=
          List.mem_map.2 ⟨_, hseen, rfl⟩
        rw [if_pos hseen]
        simpa [firstsBy, Approval.key, hkey] using approveTokens_steps seen rest c
      · have hkey : Approval.Key.token o s g.tokenId ∉ seen.map fun p => .token p.1 p.2.1 p.2.2 := by
          simpa using hseen
        rw [if_neg hseen, firstsBy, Approval.key, if_neg hkey]
        refine Steps.track_bind o fun c₂ hA₂ hi₂ => Steps.track_bind s fun c₃ hA₃ hi₃ =>
          Steps.track_bind g.tokenId fun c₄ hA₄ hi₄ => ?_
        have hA : c.Alike c₄ := hA₂.trans (hA₃.trans hA₄)
        rw [← hA.persist, ← hi₂, ← hi₃, ← hi₄]
        refine announce_bind item (.token o s g.tokenId g.amount) (fun _ => rfl) fun c₅ hA₅ hi₅ => ?_
        have hrest := approveTokens_steps ((o, s, g.tokenId) :: seen) rest c₅
        rw [Allowance.tokenRequest_alike (hA.trans hA₅), hA₅.persist, hi₅] at hrest
        simpa [Approval.key] using hrest
    · rename_i hno
      rw [List.filterMap_cons_none (Allowance.tokenRequest_eq_none hno)]
      exact approveTokens_steps seen rest c

/-- The serials seen once single serials are approved: those seen before and the new ones. -/
theorem approveSerials_seen (t o s d : EntityId) :
    ∀ (seen : List (EntityId × Int)) (ns : List Int) (c : Ctx) {seen' : List (EntityId × Int)}
      {c' : Ctx}, (approveSerials item t o s d seen ns).run c = .ok seen' c' →
        ∀ p, p ∈ seen' ↔ p ∈ ns.map (t, ·) ++ seen
  | seen, [], c, seen', c', h => by
    rw [approveSerials] at h
    cases h
    simp
  | seen, n :: ns, c, seen', c', h => by
    rw [approveSerials] at h
    intro p
    by_cases hseen : (t, n) ∈ seen
    · rw [if_pos hseen] at h
      rw [approveSerials_seen t o s d seen ns c h p, List.map_cons, List.cons_append, List.mem_cons]
      constructor
      · exact .inr
      · rintro (rfl | hp)
        · exact List.mem_append_right _ hseen
        · exact hp
    · rw [if_neg hseen] at h
      obtain ⟨_, c₁, -, h₁⟩ := run_bind_eq_ok h
      obtain ⟨_, c₂, -, h₂⟩ := run_bind_eq_ok h₁
      rw [approveSerials_seen t o s d _ ns c₂ h₂ p]
      simp [or_left_comm]

/-- Single serials, from the last back, write the first approval of each serial not yet seen,
each followed by its event. -/
theorem approveSerials_steps (t o s d : EntityId) :
    ∀ (seen : List (EntityId × Int)) (ns : List Int) (c : Ctx),
      Steps (approveSerials item t o s d seen ns) c
        (Approval.rows item c.persist.syntheticContractLogs c.nextLogIndex
          (firstsBy Approval.key (seen.map fun p => .serial p.1 p.2) (ns.map (.serial o s t d))))
        (Approval.eventCount c.persist.syntheticContractLogs
          (firstsBy Approval.key (seen.map fun p => .serial p.1 p.2) (ns.map (.serial o s t d))))
  | seen, [], c => by
    rw [approveSerials]
    simpa [firstsBy, Approval.rows] using Steps.pure (c := c) seen
  | seen, n :: rest, c => by
    rw [approveSerials, List.map_cons]
    by_cases hseen : (t, n) ∈ seen
    · -- a later grant already wrote this serial
      have hkey : Approval.Key.serial t n ∈ seen.map fun p => .serial p.1 p.2 :=
        List.mem_map.2 ⟨_, hseen, rfl⟩
      rw [if_pos hseen]
      simpa [firstsBy, Approval.key, hkey] using approveSerials_steps t o s d seen rest c
    · have hkey : Approval.Key.serial t n ∉ seen.map fun p => .serial p.1 p.2 := by
        simpa using hseen
      rw [if_neg hseen, firstsBy, Approval.key, if_neg hkey]
      refine announce_bind item (.serial o s t d n) (fun _ => rfl) fun c₁ hA₁ hi₁ => ?_
      have hrest := approveSerials_steps t o s d ((t, n) :: seen) rest c₁
      rw [hA₁.persist, hi₁] at hrest
      simpa [Approval.key] using hrest

/-- The NFT allowances, from the last grant back, write the first approval of each key not yet
seen, each followed by its event: a grant's approval of all serials, then its single serials
from the last back. -/
theorem approveNfts_steps :
    ∀ (seenAll : List (EntityId × EntityId × EntityId)) (seenSerials : List (EntityId × Int))
      (gs : List NftAllowanceGrant) (c : Ctx),
      Steps (approveNfts item seenAll seenSerials gs) c
        (Approval.rows item c.persist.syntheticContractLogs c.nextLogIndex
          (firstsBy Approval.key ((seenAll.map fun p => .all p.1 p.2.1 p.2.2) ++
              seenSerials.map fun p => .serial p.1 p.2)
            (gs.flatMap (Allowance.nftCandidates c item.payerAccountId))))
        (Approval.eventCount c.persist.syntheticContractLogs
          (firstsBy Approval.key ((seenAll.map fun p => .all p.1 p.2.1 p.2.2) ++
              seenSerials.map fun p => .serial p.1 p.2)
            (gs.flatMap (Allowance.nftCandidates c item.payerAccountId))))
  | seenAll, seenSerials, [], c => by
    rw [approveNfts]
    simpa [firstsBy, Approval.rows] using Steps.pure (c := c) ()
  | seenAll, seenSerials, g :: rest, c => by
    rw [approveNfts]
    refine Steps.read_bind ?_
    split
    · rename_i o s ho hs
      have hser : Allowance.serialRequests c item.payerAccountId g =
          g.serialNumbers.map (.serial o s g.tokenId (c.resolveOrEmpty g.delegatingSpender)) := by
        simp [Allowance.serialRequests, ho, hs]
      rw [List.flatMap_cons, Allowance.nftCandidates, hser, ← List.map_reverse, firstsBy_append,
        firstsBy_append]
      refine Steps.track_bind o fun c₂ hA₂ hi₂ => Steps.track_bind s fun c₃ hA₃ hi₃ =>
          Steps.track_bind g.tokenId fun c₄ hA₄ hi₄ => ?_
      have hA : c.Alike c₄ := hA₂.trans (hA₃.trans hA₄)
      rw [← hA.persist, ← hi₂, ← hi₃, ← hi₄]
      set d := c.resolveOrEmpty g.delegatingSpender with hd
      set serRev := g.serialNumbers.reverse.map (Approval.serial o s g.tokenId d) with hserRev
      set S : List Approval.Key := (seenAll.map fun p => .all p.1 p.2.1 p.2.2) ++
        seenSerials.map fun p => .serial p.1 p.2 with hS
      set restC := rest.flatMap (Allowance.nftCandidates c item.payerAccountId) with hrestC
      -- what follows the approval of all serials, for whichever keys of that kind it leaves seen
      have htail : ∀ (allL : List Approval) (seenAll' : List (EntityId × EntityId × EntityId))
          (c₅ : Ctx), (∀ a ∈ allL, ∃ o s t, a.key = .all o s t) → c₄.Alike c₅ →
          (∀ k, k ∈ seenAll'.map (fun p => Approval.Key.all p.1 p.2.1 p.2.2) ↔
            k ∈ allL.map Approval.key ++ seenAll.map fun p => .all p.1 p.2.1 p.2.2) →
          Steps (track d >>= fun _ =>
              approveSerials item g.tokenId o s d seenSerials g.serialNumbers.reverse >>= fun seen' =>
              approveNfts item seenAll' seen' rest) c₅
            (Approval.rows item c₄.persist.syntheticContractLogs c₅.nextLogIndex
              (firstsBy Approval.key (allL.map Approval.key ++ S) serRev ++
                firstsBy Approval.key ((allL ++ serRev).map Approval.key ++ S) restC))
            (Approval.eventCount c₄.persist.syntheticContractLogs
              (firstsBy Approval.key (allL.map Approval.key ++ S) serRev ++
                firstsBy Approval.key ((allL ++ serRev).map Approval.key ++ S) restC)) := by
        intro allL seenAll' c₅ hallL hA₅ hseenAll
        refine Steps.track_bind d fun c₆ hA₆ hi₆ => ?_
        rw [Approval.rows_append, Approval.eventCount_append, ← hi₆]
        -- single serials are checked against the serials seen only
        have hserKeys : ∀ a ∈ serRev, a.key ∈ seenSerials.map (fun p => Approval.Key.serial p.1 p.2) ↔
            a.key ∈ allL.map Approval.key ++ S := by
          intro a ha
          obtain ⟨n, -, rfl⟩ := List.mem_map.1 ha
          have hnot : Approval.Key.serial g.tokenId n ∉ allL.map Approval.key := by
            intro h
            obtain ⟨b, hb, hbk⟩ := List.mem_map.1 h
            obtain ⟨_, _, _, hb'⟩ := hallL b hb
            rw [hb'] at hbk
            cases hbk
          simp [Approval.key, hS, hnot]
        have hsteps := approveSerials_steps item g.tokenId o s d seenSerials
          g.serialNumbers.reverse c₆
        rw [(hA₅.trans hA₆).persist, firstsBy_congr hserKeys] at hsteps
        refine hsteps.bind fun seen' c₇ h₇ => ?_
        obtain ⟨hA₇, hi₇⟩ := hsteps.alike h₇
        have hseen' := approveSerials_seen item g.tokenId o s d seenSerials _ c₆ h₇
        have hrestKeys : ∀ k, k ∈ (seenAll'.map fun p => Approval.Key.all p.1 p.2.1 p.2.2) ++
            seen'.map (fun p => Approval.Key.serial p.1 p.2) ↔
            k ∈ (allL ++ serRev).map Approval.key ++ S := by
          intro k
          have hser' : k ∈ seen'.map (fun p => Approval.Key.serial p.1 p.2) ↔
              k ∈ serRev.map Approval.key ∨ k ∈ seenSerials.map (fun p => .serial p.1 p.2) := by
            simp [List.mem_map, hseen', hserRev, Approval.key, or_and_right, exists_or]
          rw [List.mem_append, hseenAll k, hser', hS]
          simp only [List.mem_append, List.map_append]
          tauto
        have hcongr : firstsBy Approval.key ((seenAll'.map fun p => Approval.Key.all p.1 p.2.1 p.2.2) ++
            seen'.map (fun p => Approval.Key.serial p.1 p.2)) restC =
            firstsBy Approval.key ((allL ++ serRev).map Approval.key ++ S) restC :=
          firstsBy_congr fun a _ => hrestKeys a.key
        have hrest := approveNfts_steps seenAll' seen' rest c₇
        rw [Allowance.nftCandidates_alike (hA.trans (hA₅.trans (hA₆.trans hA₇))),
          (hA₅.trans (hA₆.trans hA₇)).persist, hi₇, hcongr] at hrest
        exact hrest
      cases hall : g.approvedForAll with
      | unset =>
        have hreq : Allowance.allRequest c item.payerAccountId g = none := by
          simp [Allowance.allRequest, ho, hs, hall]
        rw [hreq]
        simp only [Option.toList_none, List.map_nil, List.nil_append, firstsBy, pure_bind]
        exact htail [] seenAll c₄ (by simp) (.refl _) (by simp)
      | set approved =>
        have hreq : Allowance.allRequest c item.payerAccountId g =
            some (.all o s g.tokenId approved) := by
          simp [Allowance.allRequest, ho, hs, hall]
        have hallL : ∀ a ∈ [Approval.all o s g.tokenId approved], ∃ o s t, a.key = .all o s t := by
          simp [Approval.key]
        rw [hreq, Option.toList_some, firstsBy_singleton]
        simp only [Approval.key]
        by_cases hseen : (o, s, g.tokenId) ∈ seenAll
        · -- a later grant already approved all serials for this key
          have hkey : Approval.Key.all o s g.tokenId ∈ seenAll.map fun p => .all p.1 p.2.1 p.2.2 :=
            List.mem_map.2 ⟨_, hseen, rfl⟩
          have hkeyS : Approval.Key.all o s g.tokenId ∈ S := List.mem_append_left _ hkey
          simp only [hkeyS, hseen, ↓reduceIte, List.nil_append, pure_bind]
          refine htail _ seenAll c₄ hallL (.refl _) fun k => ?_
          simp only [List.map_cons, List.map_nil, Approval.key, List.cons_append, List.nil_append,
            List.mem_cons]
          exact ⟨.inr, fun h => h.elim (fun h => h ▸ hkey) id⟩
        · have hkey : Approval.Key.all o s g.tokenId ∉ S := by
            simpa [hS] using hseen
          simp only [hkey, hseen, ↓reduceIte, List.singleton_append, pure_bind]
          refine announce_bind item (.all o s g.tokenId approved) (fun _ => rfl) fun c₅ hA₅ hi₅ => ?_
          have h := htail _ ((o, s, g.tokenId) :: seenAll) c₅ hallL hA₅ fun k => by simp [Approval.key]
          rw [hi₅] at h
          exact h
    · rename_i hno
      rw [List.flatMap_cons, Allowance.nftCandidates_eq_nil hno, List.nil_append]
      exact approveNfts_steps seenAll seenSerials rest c

/-- An approve transaction writes the approvals of `Allowance.approvals` in order, each but an
hbar allowance followed by its event when events are kept. -/
theorem approveAllowances_steps (body : CryptoApproveAllowanceBody) (c : Ctx) :
    Steps (approveAllowances item body) c
      (Approval.rows item c.persist.syntheticContractLogs c.nextLogIndex
        (Allowance.approvals c item body))
      (Approval.eventCount c.persist.syntheticContractLogs (Allowance.approvals c item body)) := by
  set C₁ := body.cryptoAllowances.reverse.filterMap (Allowance.hbarRequest c item.payerAccountId)
  set C₂ := body.tokenAllowances.reverse.filterMap (Allowance.tokenRequest c item.payerAccountId)
  set C₃ := body.nftAllowances.reverse.flatMap (Allowance.nftCandidates c item.payerAccountId)
  -- no kind of allowance sees the keys of another
  have h₂ : firstsBy Approval.key (C₁.map Approval.key ++ []) C₂ = firstsBy Approval.key [] C₂ := by
    refine firstsBy_congr fun a ha => ?_
    obtain ⟨o, s, t, hka⟩ := Allowance.key_of_mem_tokenRequests ha
    simp only [List.append_nil, List.not_mem_nil, iff_false, hka, List.mem_map, not_exists,
      not_and]
    intro b hb hbk
    obtain ⟨_, _, hkb⟩ := Allowance.key_of_mem_hbarRequests hb
    rw [hkb] at hbk
    cases hbk
  have h₃ : firstsBy Approval.key ((C₁ ++ C₂).map Approval.key ++ []) C₃ =
      firstsBy Approval.key [] C₃ := by
    refine firstsBy_congr fun a ha => ?_
    simp only [List.append_nil, List.not_mem_nil, iff_false, List.mem_map, not_exists, not_and]
    intro b hb hbk
    have hka := Allowance.key_of_mem_nftCandidates ha
    rcases List.mem_append.1 hb with hb | hb
    · obtain ⟨_, _, hkb⟩ := Allowance.key_of_mem_hbarRequests hb
      rcases hka with ⟨_, _, _, hka⟩ | ⟨_, _, hka⟩ <;> rw [hka, hkb] at hbk <;> cases hbk
    · obtain ⟨_, _, _, hkb⟩ := Allowance.key_of_mem_tokenRequests hb
      rcases hka with ⟨_, _, _, hka⟩ | ⟨_, _, hka⟩ <;> rw [hka, hkb] at hbk <;> cases hbk
  rw [Allowance.approvals, Allowance.candidates, firstsBy_append, firstsBy_append, h₂, h₃,
    Approval.rows_append, Approval.rows_append]
  simp only [Approval.eventCount_append, Nat.cast_add, List.append_assoc]
  -- the three loops, one after the other, each numbering on from where the one before stopped
  unfold approveAllowances
  have hc := approveCrypto_steps item [] body.cryptoAllowances.reverse c
  refine hc.bind fun _ c₁ h₁ => ?_
  obtain ⟨hA₁, hi₁⟩ := hc.alike h₁
  have ht := approveTokens_steps item [] body.tokenAllowances.reverse c₁
  rw [Allowance.tokenRequest_alike hA₁, hA₁.persist, hi₁] at ht
  refine ht.bind fun _ c₂ h₂ => ?_
  obtain ⟨hA₂, hi₂⟩ := ht.alike h₂
  have hn := approveNfts_steps item [] [] body.nftAllowances.reverse c₂
  rw [Allowance.nftCandidates_alike (hA₁.trans hA₂), (hA₁.trans hA₂).persist, hi₂, hi₁,
    add_assoc] at hn
  exact hn

end Loops

end Projection

/-! ### The allowances an approve transaction writes -/

namespace Handler

/-- A successful approve transaction emits, from any state whose counter of log indexes has room
for its events, the rows of the approvals that keep of each key the last grant asking for it, as
far as the ledger takes them. Each row but an hbar allowance is followed by its event when events
are kept, the events numbered on from the next log index of the state. -/
theorem approveAllowance_writes_last_grants (body : CryptoApproveAllowanceBody)
    (item : RecordItem) (tx : Transaction) (c : Ctx) (h : item.isSuccessful = true)
    (hroom : c.HasRoom (Approval.eventCount c.persist.syntheticContractLogs
      (Allowance.approvals c item body))) :
    Projection.EmitsFrom ((approveAllowance body).onTransaction item tx) c
        (Approval.rows item c.persist.syntheticContractLogs c.nextLogIndex
          (Allowance.approvals c item body)) ∧
      ∀ k, (Allowance.approvals c item body).filter (·.key = k) =
        ((Allowance.requests c item body).filter (·.key = k)).getLast?.toList := by
  refine ⟨?_, Allowance.filter_approvals item body⟩
  show Projection.EmitsFrom (if item.isSuccessful then Projection.approveAllowances item body
    else pure ()) c _
  rw [if_pos h]
  exact (Projection.approveAllowances_steps item body c).emits hroom

/-- Approvals by `0.0.2`: 3 hbar to `0.0.6`, then 2 hbar to `0.0.5`. -/
def hbarApprovals : CryptoApproveAllowanceBody :=
  { cryptoAllowances := [{ spender := some (.id ⟨0, 0, 6⟩), amount := 3 },
      { spender := some (.id ⟨0, 0, 5⟩), amount := 2 }] }

/-- The successful record of those approvals, at 10. -/
def hbarApprovalsAtTen : RecordItem :=
  { consensusTimestamp := 10, payerAccountId := ⟨0, 0, 2⟩,
    body := .cryptoApproveAllowance hbarApprovals, receipt := { status := ⟨22⟩ } }

/-- A sink whose ledger holds the allowance of `0.0.2` to `0.0.5` from 20 on. -/
def allowanceFromTwenty : Sink :=
  (({} : Sink).deliver (.cryptoAllowance
    { owner := ⟨0, 0, 2⟩, spender := ⟨0, 0, 5⟩, timestampRange := some (.openFrom 20),
      amount := 1, amountGranted := 1, payerAccountId := ⟨0, 0, 2⟩ })).1

theorem approveAllowance_writes_last_grants_hbarApprovals :
    hbarApprovalsAtTen.isSuccessful = true ∧
      (Ctx.start {} .memory allowanceFromTwenty hbarApprovalsAtTen).HasRoom
        (Approval.eventCount
          (Ctx.start {} .memory allowanceFromTwenty hbarApprovalsAtTen).persist.syntheticContractLogs
          (Allowance.approvals (Ctx.start {} .memory allowanceFromTwenty hbarApprovalsAtTen)
            hbarApprovalsAtTen hbarApprovals)) ∧
      (Projection.EmitsFrom ((approveAllowance hbarApprovals).onTransaction hbarApprovalsAtTen
          (hbarApprovalsAtTen.transactionRow EntityId.empty))
          (Ctx.start {} .memory allowanceFromTwenty hbarApprovalsAtTen)
          (Approval.rows hbarApprovalsAtTen
            (Ctx.start {} .memory allowanceFromTwenty hbarApprovalsAtTen).persist.syntheticContractLogs
            (Ctx.start {} .memory allowanceFromTwenty hbarApprovalsAtTen).nextLogIndex
            (Allowance.approvals (Ctx.start {} .memory allowanceFromTwenty hbarApprovalsAtTen)
              hbarApprovalsAtTen hbarApprovals)) ∧
        ∀ k, (Allowance.approvals (Ctx.start {} .memory allowanceFromTwenty hbarApprovalsAtTen)
            hbarApprovalsAtTen hbarApprovals).filter (·.key = k) =
          ((Allowance.requests (Ctx.start {} .memory allowanceFromTwenty hbarApprovalsAtTen)
            hbarApprovalsAtTen hbarApprovals).filter (·.key = k)).getLast?.toList) :=
  ⟨by decide, by decide,
    approveAllowance_writes_last_grants hbarApprovals hbarApprovalsAtTen _ _ (by decide) (by decide)⟩

/-- Once the ledger holds the allowance to `0.0.5` from 20 on, the approvals at 10 stop at its
refused row: the approval to `0.0.6`, which no other grant overrides, is never emitted. -/
theorem approveAllowance_stops_at_refused_row :
    Allowance.approvals (Ctx.start {} .memory allowanceFromTwenty hbarApprovalsAtTen)
        hbarApprovalsAtTen hbarApprovals = [.hbar ⟨0, 0, 2⟩ ⟨0, 0, 5⟩ 2, .hbar ⟨0, 0, 2⟩ ⟨0, 0, 6⟩ 3] ∧
      (((approveAllowance hbarApprovals).onTransaction hbarApprovalsAtTen
          (hbarApprovalsAtTen.transactionRow EntityId.empty)).after
          (Ctx.start {} .memory allowanceFromTwenty hbarApprovalsAtTen)).emitted =
        [Approval.row hbarApprovalsAtTen (.hbar ⟨0, 0, 2⟩ ⟨0, 0, 5⟩ 2)] := by
  decide

end Handler

end LedgerProjection
