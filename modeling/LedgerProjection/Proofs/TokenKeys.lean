import LedgerProjection.Proofs.Associations

/-!
## What a run tells associations about a token's keys

The resolver learns a token's keys from the token rows a run emits: the first row of a token,
whatever it writes (a creation, an update, a pause, a supply change), makes its keys known, both
absent; after that each row that carries a key says whether the token has it, an empty key
counting as none. `tokenKeysOf t ms` says this of the rows `ms` without the resolver, and
`Resolver.foldl_learn_tokenKeys` shows a resolver that knew nothing of `t` ends up knowing exactly
that.

* `emittedRows_association_statuses`: projecting records with the in-memory resolver from a sink
  that knows no token keys, every association the run emits carries the statuses of its token's
  keys, a key being present when it is given and non-empty: the keys its record's body gives, for
  a token creation, and otherwise those the token rows emitted before it in the run say, in the
  sense of `tokenKeysOf`. Rows the ledger refused count too, since the resolver learns a row before
  the ledger sees it. A token creation whose body gives a key as an empty byte string is left out
  for that key: its own associations count such a key as present.
* `association_statuses_after_pause`: a pause alone makes a token's keys known, both absent, so
  an association is not applicable where no creation and no key was ever seen.
-/

namespace LedgerProjection

/-! ### Keys as the token rows say them -/

/-- The token row a mutation writes for token `t`. -/
def Mutation.tokenRowOf (t : EntityId) : Mutation → Option Token
  | .token row => if row.tokenId = t then some row else none
  | _ => none

/-- Whether the last of `keys` that is given is non-empty; `false` when none is given. -/
def lastKeyPresent (keys : List (Option (List UInt8))) : Bool :=
  ((keys.filterMap id).getLast?.map fun k => !k.isEmpty).getD false

/-- What the token rows of `t` among `ms` say of its keys: nothing when there is no such row;
otherwise a key is present when the last of these rows that carries the key carries a non-empty
one, and absent when none of them carries it. -/
def tokenKeysOf (t : EntityId) (ms : List Mutation) : Option TokenKeys :=
  let rows := ms.filterMap (Mutation.tokenRowOf t)
  if rows = [] then none
  else some { freezeKey := lastKeyPresent (rows.map (·.freezeKey)),
              kycKey := lastKeyPresent (rows.map (·.kycKey)) }

/-- One more key: the new one when given, else the last given before. -/
theorem lastKeyPresent_append (keys : List (Option (List UInt8))) (k : Option (List UInt8)) :
    lastKeyPresent (keys ++ [k]) = (k.map fun k => !k.isEmpty).getD (lastKeyPresent keys) := by
  cases k <;> simp [lastKeyPresent]

@[simp]
theorem tokenKeysOf_nil (t : EntityId) : tokenKeysOf t [] = none := rfl

/-- Read as absent when unknown, a key is the last one the token rows carry. -/
theorem tokenKeysOf_getD (t : EntityId) (ms : List Mutation) :
    (tokenKeysOf t ms).getD {} =
      { freezeKey := lastKeyPresent ((ms.filterMap (Mutation.tokenRowOf t)).map (·.freezeKey)),
        kycKey := lastKeyPresent ((ms.filterMap (Mutation.tokenRowOf t)).map (·.kycKey)) } := by
  dsimp only [tokenKeysOf]
  split
  · next h => simp [h, lastKeyPresent]
  · rfl

/-- A row that writes no token row of `t` tells nothing about its keys. -/
theorem tokenKeysOf_append_of_tokenRowOf_eq_none {t : EntityId} {m : Mutation}
    (h : m.tokenRowOf t = none) (ms : List Mutation) :
    tokenKeysOf t (ms ++ [m]) = tokenKeysOf t ms := by
  simp [tokenKeysOf, List.filterMap_append, h]

/-- A token row of `t` makes its keys known, each as the row gives it, or as known before. -/
theorem tokenKeysOf_append_token {t : EntityId} {row : Token} (h : row.tokenId = t)
    (ms : List Mutation) :
    tokenKeysOf t (ms ++ [.token row]) =
      some { freezeKey := (row.freezeKey.map fun k => !k.isEmpty).getD
                ((tokenKeysOf t ms).getD {}).freezeKey,
             kycKey := (row.kycKey.map fun k => !k.isEmpty).getD
                ((tokenKeysOf t ms).getD {}).kycKey } := by
  have hrows : (ms ++ [Mutation.token row]).filterMap (Mutation.tokenRowOf t) =
      ms.filterMap (Mutation.tokenRowOf t) ++ [row] := by
    simp [List.filterMap_append, Mutation.tokenRowOf, h]
  rw [tokenKeysOf_getD]
  simp only [tokenKeysOf, hrows, List.append_eq_nil_iff, List.cons_ne_nil, and_false,
    if_false, List.map_append, List.map_cons, List.map_nil, lastKeyPresent_append]

/-! ### Keys a token creation gives -/

namespace RecordItem

/-- The token creation of `item` gives the key `key` as an empty byte string. -/
def CreatesEmptyKey (item : RecordItem) (key : TokenCreateBody → Option (List UInt8)) : Prop :=
  ∃ body, item.body = .tokenCreate body ∧ key body = some []

/-- The keys a token creation gives the token it creates, read as the resolver reads the keys of a
token row: a key is present when the body gives it non-empty. Other records give none. -/
def createdKeys (item : RecordItem) : Option TokenKeys :=
  match item.body with
  | .tokenCreate body =>
    some { freezeKey := lastKeyPresent [body.freezeKey], kycKey := lastKeyPresent [body.kycKey] }
  | _ => none

/-- Whether a key is given and whether it is given non-empty agree but for an empty key, so a
record that gives no key `key` as empty reads the status of that key alike from
`creationKeys` and from `createdKeys`, whatever the keys it falls back on. -/
theorem map_creationKeys_or {item : RecordItem} (key : TokenCreateBody → Option (List UInt8))
    (get : TokenKeys → Bool)
    (hget : ∀ body : TokenCreateBody,
      get { freezeKey := body.freezeKey.isSome, kycKey := body.kycKey.isSome } =
          (key body).isSome ∧
        get { freezeKey := lastKeyPresent [body.freezeKey],
              kycKey := lastKeyPresent [body.kycKey] } = lastKeyPresent [key body])
    (h : ¬item.CreatesEmptyKey key) {σ : Type} (status : Bool → σ) (keys : Option TokenKeys) :
    (item.creationKeys.or keys).map (fun k => status (get k)) =
      (item.createdKeys.or keys).map (fun k => status (get k)) := by
  unfold creationKeys createdKeys
  cases hb : item.body
  case tokenCreate body =>
    dsimp only
    rw [Option.some_or, Option.some_or, Option.map_some, Option.map_some, (hget body).1,
      (hget body).2]
    -- the key's two readings differ only on an empty key, which the record does not give
    rcases hk : key body with _ | ⟨_ | ⟨b, bs⟩⟩
    · rfl
    · exact absurd ⟨body, hb, hk⟩ h
    · rfl
  -- a record of another kind gives no keys either way
  all_goals rfl

end RecordItem

/-! ### What the resolver learns of a token -/

namespace Resolver

variable {t : EntityId}

/-- A row that writes no token row of `t` teaches nothing about its keys. -/
theorem learn_tokenKeys_of_tokenRowOf_eq_none {m : Mutation} (h : m.tokenRowOf t = none)
    (r : Resolver) :
    (Sink.learn r m).tokenKeys.get? EntityId.compare t = r.tokenKeys.get? EntityId.compare t := by
  cases m with
  | token row =>
    have hne : t ≠ row.tokenId := by
      intro heq
      simp [Mutation.tokenRowOf, heq] at h
    exact SortedMap.get?_insert_of_ne _ _ hne
  | entity e =>
    -- an entity row registers aliases and EVM addresses only
    simp only [Sink.learn]
    split <;> split <;> (try split) <;> (try split) <;> rfl
  | _ => rfl

/-- A token row of `t` makes its keys known, each as the row gives it, or as known before. -/
theorem learn_token_tokenKeys {row : Token} (h : row.tokenId = t) (r : Resolver) :
    (Sink.learn r (.token row)).tokenKeys.get? EntityId.compare t =
      some { freezeKey := (row.freezeKey.map fun k => !k.isEmpty).getD
                ((r.tokenKeys.get? EntityId.compare t).getD {}).freezeKey,
             kycKey := (row.kycKey.map fun k => !k.isEmpty).getD
                ((r.tokenKeys.get? EntityId.compare t).getD {}).kycKey } := by
  subst h
  exact SortedMap.get?_insert_self _ _ _

/-- A resolver that knew nothing of `t` knows, after learning the rows `ms`, what the token rows
of `t` among them say of its keys. -/
theorem foldl_learn_tokenKeys {r : Resolver} (hr : r.tokenKeys.get? EntityId.compare t = none)
    (ms : List Mutation) :
    (ms.foldl Sink.learn r).tokenKeys.get? EntityId.compare t = tokenKeysOf t ms := by
  induction ms using List.reverseRecOn with
  | nil => exact hr
  | append_singleton ms m ih =>
    rw [List.foldl_append, List.foldl_cons, List.foldl_nil]
    cases hm : m.tokenRowOf t with
    | none =>
      rw [learn_tokenKeys_of_tokenRowOf_eq_none hm, ih,
        tokenKeysOf_append_of_tokenRowOf_eq_none hm]
    | some row =>
      -- only a token row of `t` has a row of `t`
      obtain ⟨rfl, h⟩ : m = .token row ∧ row.tokenId = t := by
        cases m <;> simp [Mutation.tokenRowOf] at hm
        next row' => exact ⟨by rw [hm.2], hm.2 ▸ hm.1⟩
      rw [learn_token_tokenKeys h, ih, tokenKeysOf_append_token h]

end Resolver

/-! ### Runs -/

section Runs

variable (props : Properties)

/-- Projecting records with the in-memory resolver from a sink whose resolver knows no token
keys: when the `i`-th row of the run is an association, it carries the statuses of its token's
keys as its record's body gives them (`RecordItem.creationKeys`), for a token creation, and
otherwise as the token rows emitted before it in the run say. -/
theorem emittedRows_association_statuses_of_creationKeys (sink : Sink)
    (hfresh : sink.resolver.tokenKeys = {}) (items : List RecordItem) (i : Nat) (item : RecordItem)
    (a : TokenAccount)
    (hrow : (sink.emittedRows props .memory items)[i]? = some (item, .tokenAccount a))
    (ha : a.associated = some true) :
    a.freezeStatus =
        (item.creationKeys.or (tokenKeysOf a.tokenId
          (((sink.emittedRows props .memory items).take i).map Prod.snd))).map
          (fun k => if k.freezeKey then .unfrozen else .notApplicable) ∧
      a.kycStatus =
        (item.creationKeys.or (tokenKeysOf a.tokenId
          (((sink.emittedRows props .memory items).take i).map Prod.snd))).map
          (fun k => if k.kycKey then .granted else .notApplicable) := by
  have hrows := Sink.emittedRows_heeded (fun item => Projection.process_keyed item) props .memory
    sink items
  -- the run splits at its `i`-th row, and the rows before it are what the resolver learnt
  have hsplit : sink.emittedRows props .memory items =
      (sink.emittedRows props .memory items).take i ++ (item, .tokenAccount a) ::
        (sink.emittedRows props .memory items).drop (i + 1) := by
    obtain ⟨hi, hget⟩ := List.getElem?_eq_some_iff.1 hrow
    have h := List.take_append_drop i (sink.emittedRows props .memory items)
    rw [List.drop_eq_getElem_cons hi, hget] at h
    exact h.symm
  have hkeyed := Resolver.heeded_iff.1 hrows _ _ _ hsplit a (by simp [Mutation.association?, ha])
  have hknown : sink.resolver.tokenKeys.get? EntityId.compare a.tokenId = none := by
    rw [hfresh]
    rfl
  rwa [Resolver.tokenKeysVia, Resolver.foldl_learn_tokenKeys hknown] at hkeyed

/-- Projecting records with the in-memory resolver from a sink whose resolver knows no token
keys: when the `i`-th row of the run is an association, it carries the status of each key of its
token, a key being present when it is given and non-empty: as its record's body gives the key, for
a token creation, and otherwise as the token rows emitted before it in the run say. A token
creation whose body gives the key as an empty byte string is left out. -/
theorem emittedRows_association_statuses (sink : Sink) (hfresh : sink.resolver.tokenKeys = {})
    (items : List RecordItem) (i : Nat) (item : RecordItem) (a : TokenAccount)
    (hrow : (sink.emittedRows props .memory items)[i]? = some (item, .tokenAccount a))
    (ha : a.associated = some true) :
    (¬item.CreatesEmptyKey (·.freezeKey) →
      a.freezeStatus =
        (item.createdKeys.or (tokenKeysOf a.tokenId
          (((sink.emittedRows props .memory items).take i).map Prod.snd))).map
          (fun k => if k.freezeKey then .unfrozen else .notApplicable)) ∧
    (¬item.CreatesEmptyKey (·.kycKey) →
      a.kycStatus =
        (item.createdKeys.or (tokenKeysOf a.tokenId
          (((sink.emittedRows props .memory items).take i).map Prod.snd))).map
          (fun k => if k.kycKey then .granted else .notApplicable)) := by
  obtain ⟨hfreeze, hkyc⟩ :=
    emittedRows_association_statuses_of_creationKeys props sink hfresh items i item a hrow ha
  refine ⟨fun h => ?_, fun h => ?_⟩
  · rw [hfreeze]
    exact RecordItem.map_creationKeys_or _ TokenKeys.freezeKey (fun _ => ⟨rfl, rfl⟩) h
      (fun b => if b then TokenFreezeStatus.unfrozen else .notApplicable) _
  · rw [hkyc]
    exact RecordItem.map_creationKeys_or _ TokenKeys.kycKey (fun _ => ⟨rfl, rfl⟩) h
      (fun b => if b then TokenKycStatus.granted else .notApplicable) _

end Runs

/-- Token `0.0.1500`, which no record created, paused at 10. -/
def pauseToken : RecordItem :=
  { consensusTimestamp := 10, payerAccountId := ⟨0, 0, 2⟩,
    body := .tokenPause { token := some ⟨0, 0, 1500⟩ }, receipt := { status := ⟨22⟩ } }

/-- Token `0.0.1500` created at 10 with a one-byte freeze key, its treasury `0.0.1001`. -/
def createWithFreezeKey : RecordItem :=
  { consensusTimestamp := 10, payerAccountId := ⟨0, 0, 2⟩,
    body := .tokenCreate { treasury := some (.id ⟨0, 0, 1001⟩), freezeKey := some [1] },
    receipt := { status := ⟨22⟩, tokenId := some ⟨0, 0, 1500⟩ } }

/-- An account associating with token `0.0.1500` at 20. -/
def associateAt20 (account : EntityId) : RecordItem :=
  { consensusTimestamp := 20, payerAccountId := ⟨0, 0, 2⟩,
    body := .tokenAssociate { account := some (.id account), tokens := [⟨0, 0, 1500⟩] },
    receipt := { status := ⟨22⟩ } }

/-- The association of `0.0.1002` with token `0.0.1500` at 20, with a freeze key and no KYC key. -/
def associationWithFreezeKey : TokenAccount :=
  TokenAccount.association ⟨0, 0, 1002⟩ ⟨0, 0, 1500⟩ 20 (some { freezeKey := true }) false

/-- After a creation with a freeze key, the sixth row of the run associates `0.0.1002` unfrozen,
as the creation's token row taught the resolver, with no KYC status to grant. -/
theorem emittedRows_association_statuses_freezeKeyGiven :
    ({} : Sink).resolver.tokenKeys = {} ∧
      (({} : Sink).emittedRows {} .memory
        [createWithFreezeKey, associateAt20 ⟨0, 0, 1002⟩])[5]? =
          some (associateAt20 ⟨0, 0, 1002⟩, .tokenAccount associationWithFreezeKey) ∧
      associationWithFreezeKey.associated = some true ∧
      ¬(associateAt20 ⟨0, 0, 1002⟩).CreatesEmptyKey (·.freezeKey) ∧
      associationWithFreezeKey.freezeStatus =
        ((associateAt20 ⟨0, 0, 1002⟩).createdKeys.or (tokenKeysOf ⟨0, 0, 1500⟩
          (((({} : Sink).emittedRows {} .memory
            [createWithFreezeKey, associateAt20 ⟨0, 0, 1002⟩]).take 5).map Prod.snd))).map
          (fun k => if k.freezeKey then .unfrozen else .notApplicable) :=
  have hrow : (({} : Sink).emittedRows {} .memory
      [createWithFreezeKey, associateAt20 ⟨0, 0, 1002⟩])[5]? =
        some (associateAt20 ⟨0, 0, 1002⟩, .tokenAccount associationWithFreezeKey) := by
    -- the creation emits five rows; the association opens the rows of the second record
    have hfirst : (projectRecord {} .memory {} createWithFreezeKey).2.mutations.length = 5 := by
      decide +kernel
    have hsecond : (projectRecord {} .memory (projectRecord {} .memory {} createWithFreezeKey).1
        (associateAt20 ⟨0, 0, 1002⟩)).2.mutations[0]? =
          some (.tokenAccount associationWithFreezeKey) := by
      decide +kernel
    rw [Sink.emittedRows_cons, Sink.emittedRows_cons, Sink.emittedRows_nil, List.append_nil,
      List.getElem?_append_right (by rw [List.length_map, hfirst]), List.length_map, hfirst,
      Nat.sub_self, List.getElem?_map, hsecond]
    rfl
  have hne : ¬(associateAt20 ⟨0, 0, 1002⟩).CreatesEmptyKey (·.freezeKey) := by
    rintro ⟨_, hb, -⟩
    cases hb
  ⟨rfl, hrow, rfl, hne, (emittedRows_association_statuses {} {} rfl _ 5 _ _ hrow rfl).1 hne⟩

/-- After a pause alone, the token's keys count as known and absent, so an association is not
applicable where no creation and no key was ever seen. -/
theorem association_statuses_after_pause :
    ((({} : Sink).emittedRows {} .memory [pauseToken, associateAt20 ⟨0, 0, 1001⟩]).filterMap
        fun p => p.2.association?).map (fun a => (a.freezeStatus, a.kycStatus)) =
      [(some .notApplicable, some .notApplicable)] := by
  decide +kernel

end LedgerProjection
