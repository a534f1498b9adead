import LedgerProjection.Proofs.LogIndexes
import LedgerProjection.Proofs.Associations
import LedgerProjection.Proofs.SortedMap

/-!
## The associations a token creation makes

A successful token creation associates its token with the treasury and with the collectors of
its fees paid in the token itself, and records the associations the network made for it. The
handler gathers them in a map keyed by (account, token), so that a pair listed twice is
associated once, the treasury and collector pairs not automatically and every other listed pair
automatically (`Handler.get?_creationAssociations`); it then writes an association for each
entry whose account is not `0.0.0`, in ascending pair order (`Handler.creationRows`,
`Handler.mem_creationRows`, `Handler.creationRows_sorted`).

A record emits those rows as far as the ledger takes them, and no other token account row with
a range: the automatic associations of the shared phases are skipped for a creation, and balance
changes carry no range. Once the record finished, it wrote every one of them and touched each
of their accounts (`projectRecord_creation_associations`).
-/

namespace LedgerProjection

/-! ### Lookups in a map built by inserts -/

namespace SortedMap

variable {κ β γ : Type} {cmp : κ → κ → Ordering}

/-- In a sorted map, a lookup finds exactly the entries. -/
theorem Sorted.get?_eq_some_iff [Std.LawfulEqCmp cmp] {m : SortedMap κ β} (h : Sorted cmp m)
    {k : κ} {v : β} : m.get? cmp k = some v ↔ (k, v) ∈ m.entries := by
  refine ⟨get?_eq_some, fun hkv => ?_⟩
  -- the first entry under `k` is the only one, `(k, v)`
  have hsome : (m.entries.find? fun e => cmp e.1 k == .eq).isSome :=
    List.find?_isSome.2 ⟨(k, v), hkv, by simp [Std.ReflCmp.compare_self]⟩
  obtain ⟨e, he⟩ := Option.isSome_iff_exists.1 hsome
  have hek : e.1 = k := by simpa using List.find?_some he
  have hev : e = (k, v) :=
    List.inj_on_of_nodup_map h.nodup_keys (List.mem_of_find?_eq_some he) hkv hek
  simp [get?, he, hev]

theorem sorted_foldl {f : SortedMap κ β → γ → SortedMap κ β}
    (hf : ∀ m x, Sorted cmp m → Sorted cmp (f m x)) :
    ∀ (xs : List γ) {m : SortedMap κ β}, Sorted cmp m → Sorted cmp (xs.foldl f m)
  | [], _, h => h
  | x :: xs, m, h => sorted_foldl hf xs (hf m x h)

variable [Std.LawfulEqCmp cmp] [DecidableEq κ]

/-- Inserting `b` under the key of each element: the listed keys hold `b`, the others keep their
value. -/
theorem get?_foldl_insert (key : γ → κ) (b : β) (k : κ) :
    ∀ (xs : List γ) (m : SortedMap κ β),
      (xs.foldl (fun m x => m.insert cmp (key x) b) m).get? cmp k =
        if ∃ x ∈ xs, key x = k then some b else m.get? cmp k
  | [], m => by simp
  | x :: xs, m => by
    rw [List.foldl_cons, get?_foldl_insert key b k xs, get?_insert]
    by_cases hx : key x = k
    · simp [hx]
    · simp [hx, Ne.symm hx]

/-- Inserting `b` under the key of each element not bound yet: a bound key keeps its value, a
listed key not bound holds `b`. -/
theorem get?_foldl_insertNew {f : SortedMap κ β → γ → SortedMap κ β} (key : γ → κ) (b : β)
    (hf : ∀ m x, f m x = if (m.get? cmp (key x)).isSome then m else m.insert cmp (key x) b)
    (k : κ) :
    ∀ (xs : List γ) (m : SortedMap κ β),
      (xs.foldl f m).get? cmp k = (m.get? cmp k).or (if ∃ x ∈ xs, key x = k then some b else none)
  | [], m => by simp
  | x :: xs, m => by
    rw [List.foldl_cons, get?_foldl_insertNew key b hf k xs, hf]
    by_cases hx : key x = k
    · subst hx
      cases hm : m.get? cmp (key x) <;> simp [hm, get?_insert_self]
    · split <;> simp [get?_insert_of_ne _ _ (Ne.symm hx), hx]

end SortedMap

/-! ### The associations, pair by pair -/

namespace Handler

/-- Whether a token creation associates the pair `p` and, if so, whether automatically: the
treasury's pair and the pairs of the in-token collectors with the new token are the creation's
own, not automatic; any other pair the record lists is automatic. -/
def creationAssociation? (item : RecordItem) (token treasury : EntityId)
    (collectors : List EntityId) (p : EntityId × EntityId) : Option Bool :=
  if p = (treasury, token) ∨ p.2 = token ∧ p.1 ∈ collectors then some false
  else if ∃ a ∈ item.record.automaticTokenAssociations, (a.accountId, a.tokenId) = p then
    some true
  else none

variable (item : RecordItem) (token treasury : EntityId) (collectors : List EntityId)

theorem get?_creationAssociations (p : EntityId × EntityId) :
    (creationAssociations item token treasury collectors).get? EntityId.pairCompare p =
      creationAssociation? item token treasury collectors p := by
  unfold creationAssociations
  rw [SortedMap.get?_foldl_insertNew (fun a => (a.accountId, a.tokenId)) true ?step,
    SortedMap.get?_foldl_insert (fun c => (c, token)) false, SortedMap.get?_insert]
  case step =>
    intro m a
    split <;> simp_all
  -- a collector's pair is the pair of an account with the new token
  have hcollector : (∃ c ∈ collectors, (c, token) = p) ↔ p.2 = token ∧ p.1 ∈ collectors := by
    constructor
    · rintro ⟨c, hc, rfl⟩
      exact ⟨rfl, hc⟩
    · rintro ⟨h2, h1⟩
      exact ⟨p.1, h1, by rw [← h2]⟩
  have hempty : ({} : SortedMap (EntityId × EntityId) Bool).get? EntityId.pairCompare p = none :=
    rfl
  unfold creationAssociation?
  simp only [hcollector, hempty]
  by_cases hown : p = (treasury, token) ∨ p.2 = token ∧ p.1 ∈ collectors
  · rcases hown with h | h <;> simp [h]
  · simp only [hown, if_false]
    rw [not_or] at hown
    simp [hown.1, hown.2]

theorem sorted_creationAssociations :
    SortedMap.Sorted EntityId.pairCompare
      (creationAssociations item token treasury collectors) := by
  unfold creationAssociations
  refine SortedMap.sorted_foldl (fun m a hm => ?_) _
    (SortedMap.sorted_foldl (fun m c hm => hm.insert _ _) _ (SortedMap.sorted_empty.insert _ _))
  split
  · exact hm
  · exact hm.insert _ _

theorem mem_creationAssociations {p : EntityId × EntityId} {b : Bool} :
    (p, b) ∈ (creationAssociations item token treasury collectors).entries ↔
      creationAssociation? item token treasury collectors p = some b := by
  rw [← (sorted_creationAssociations item token treasury collectors).get?_eq_some_iff,
    get?_creationAssociations]

/-- The association an entry of the map asks for: none for `0.0.0`. -/
def creationRow? (item : RecordItem) (e : (EntityId × EntityId) × Bool) : Option TokenAccount :=
  if e.1.1.isEmpty then none
  else some (TokenAccount.association e.1.1 e.1.2 item.consensusTimestamp item.creationKeys e.2)

/-- The associations a token creation writes, in the order of its map. -/
def creationRows (item : RecordItem) (token treasury : EntityId) (collectors : List EntityId) :
    List TokenAccount :=
  (creationAssociations item token treasury collectors).entries.filterMap (creationRow? item)

/-- One association for each pair the creation associates whose account is not `0.0.0`,
automatic as the pair is. -/
theorem mem_creationRows {a : TokenAccount} :
    a ∈ creationRows item token treasury collectors ↔
      ∃ p b, creationAssociation? item token treasury collectors p = some b ∧
        p.1.isEmpty = false ∧
        a = TokenAccount.association p.1 p.2 item.consensusTimestamp item.creationKeys b := by
  simp only [creationRows, List.mem_filterMap, creationRow?]
  constructor
  · rintro ⟨⟨p, b⟩, he, hrow⟩
    split at hrow
    · cases hrow
    · next hne =>
      cases hrow
      exact ⟨p, b, (mem_creationAssociations item token treasury collectors).1 he,
        by simpa using hne, rfl⟩
  · rintro ⟨p, b, hp, hne, rfl⟩
    exact ⟨(p, b), (mem_creationAssociations item token treasury collectors).2 hp,
      by simp [hne]⟩

/-- The associations are written in strictly ascending (account, token) order. -/
theorem creationRows_sorted :
    (creationRows item token treasury collectors).Pairwise fun a a' =>
      EntityId.pairCompare (a.accountId, a.tokenId) (a'.accountId, a'.tokenId) = .lt := by
  refine List.pairwise_filterMap.2 ((sorted_creationAssociations item token treasury
    collectors).imp fun {e e'} hlt a ha a' ha' => ?_)
  unfold creationRow? at ha ha'
  split at ha <;> split at ha' <;> cases ha <;> cases ha'
  exact hlt

end Handler

/-! ### Rows that start a token account's version -/

/-- The token account a row writes as a new version: a token account row with a range. A
balance change carries none. -/
def Mutation.rangedTokenAccount? : Mutation → Option TokenAccount
  | .tokenAccount a => if a.timestampRange.isSome then some a else none
  | _ => none

@[simp]
theorem Mutation.rangedTokenAccount?_association (account token : EntityId) (ts : Int)
    (keys : Option TokenKeys) (automatic : Bool) :
    (Mutation.tokenAccount
        (TokenAccount.association account token ts keys automatic)).rangedTokenAccount? =
      some (TokenAccount.association account token ts keys automatic) :=
  rfl

/-! ### The phases after the handler -/

namespace Projection

section Phases

variable {P : Mutation → Prop} (item : RecordItem)

/-- The EVM outcome of a record emits its result, its logs and the storage changes of its
sidecars, nothing else. -/
theorem recordContractResult_keeps (hr : ∀ r, P (.contractResult r))
    (hl : ∀ l, P (.contractLog l)) (hs : ∀ s, P (.contractStateChange s))
    (adjust : RecordItem → ContractResult → ContractResult) (entityId : EntityId) :
    Keeps P (recordContractResult adjust item entityId) :=
  recordContractResult_holds (Logic.keeps P) item (fun _ => Logic.keeps_holds_emit (hr _))
    (fun _ _ => Logic.keeps_holds_emit (hl _)) (fun _ => Logic.keeps_holds_emit (hs _)) adjust
    entityId

/-- A token creation records its associations itself: the shared phase emits nothing for it. -/
theorem applyAutomaticAssociations_keeps_of_tokenCreate (hk : item.kind = .tokenCreate) :
    Keeps P (applyAutomaticAssociations item) := by
  refine Keeps.bind (Keeps.forM fun _ _ => Keeps.bind (Keeps.track _) fun _ => Keeps.track _)
    fun _ => Keeps.bind Keeps.persist fun _ => ?_
  rw [if_pos (by simp [hk])]
  exact Keeps.pure _

end Phases

end Projection

/-! ### Accounts touched before their rows -/

theorem EntityId.mem_insertSorted_of_mem {id a : EntityId} :
    ∀ {l : List EntityId}, a ∈ l → a ∈ id.insertSorted l
  | [], h => by cases h
  | x :: rest, h => by
    unfold EntityId.insertSorted
    split
    · exact List.mem_cons_of_mem _ h
    · exact h
    · rcases List.mem_cons.1 h with rfl | h
      · exact List.mem_cons_self ..
      · exact List.mem_cons_of_mem _ (mem_insertSorted_of_mem h)

theorem EntityId.mem_insertSorted_self (id : EntityId) : ∀ l, id ∈ id.insertSorted l
  | [] => List.mem_singleton_self _
  | x :: rest => by
    unfold EntityId.insertSorted
    split
    · exact List.mem_cons_self ..
    · next heq =>
      rw [Std.LawfulEqCmp.eq_of_compare heq]
      exact List.mem_cons_self ..
    · exact List.mem_cons_of_mem _ (mem_insertSorted_self id rest)

/-- Every token account row emitted with a range names an account touched. -/
def Ctx.AccountsTouched (c : Ctx) : Prop :=
  ∀ m ∈ c.emitted, ∀ a, m.rangedTokenAccount? = some a → a.accountId ∈ c.touched

namespace Projection

/-- From every state that satisfies `I`, a run of `x` that returns ends in one that does. -/
def Preserves {α : Type} (I : Ctx → Prop) (x : Projection α) : Prop :=
  ∀ ⦃c : Ctx⦄ ⦃a : α⦄ ⦃c' : Ctx⦄, I c → x.run c = .ok a c' → I c'

namespace Preserves

variable {α β γ : Type} {I : Ctx → Prop}

theorem pure (a : α) : Preserves I (Pure.pure a : Projection α) := by
  intro c b c' hc h
  cases h
  exact hc

theorem bind {x : Projection α} {f : α → Projection β} (hx : Preserves I x)
    (hf : ∀ a, Preserves I (f a)) : Preserves I (x >>= f) := by
  intro c b c' hc h
  obtain ⟨a, c₁, h₁, h₂⟩ := run_bind_eq_ok h
  exact hf a (hx hc h₁) h₂

theorem ite {p : Prop} [Decidable p] {x y : Projection α} (hx : p → Preserves I x)
    (hy : ¬p → Preserves I y) : Preserves I (if p then x else y) := by
  split
  · exact hx ‹p›
  · exact hy ‹¬p›

/-- A step that returns at once when its condition holds. -/
theorem gate {p : Prop} [Decidable p] {a : α} {y : Projection α} (hy : ¬p → Preserves I y) :
    Preserves I (if p then Pure.pure a else y) :=
  ite (fun _ => pure a) hy

theorem forM {xs : List γ} {f : γ → Projection PUnit} (h : ∀ x ∈ xs, Preserves I (f x)) :
    Preserves I (xs.forM f) := by
  induction xs with
  | nil => exact pure _
  | cons x xs ih =>
    exact bind (h x (List.mem_cons_self ..)) fun _ =>
      ih fun y hy => h y (List.mem_cons_of_mem _ hy)

theorem get : Preserves I (MonadState.get : Projection Ctx) := by
  intro c a c' hc h
  cases h
  exact hc

theorem persist : Preserves I Projection.persist := bind get fun _ => pure _

theorem fail (o : Overflow) : Preserves I (Projection.fail o : Projection α) := by
  intro c a c' _ h
  cases h

/-! The invariant that every ranged token account row names a touched account. -/

theorem track (id : EntityId) : Preserves Ctx.AccountsTouched (Projection.track id) := by
  intro c u c' hc h
  rw [run_track] at h
  cases h
  split
  · exact hc
  · exact fun m hm a ha => EntityId.mem_insertSorted_of_mem (hc m hm a ha)

theorem nextLogIndex : Preserves Ctx.AccountsTouched Projection.nextLogIndex := by
  intro c a c' hc h
  obtain ⟨rfl, rfl⟩ := run_nextLogIndex_eq_ok h
  exact hc

theorem resolveAndTrack (ref : Option EntityRef) :
    Preserves Ctx.AccountsTouched (Projection.resolveAndTrack ref) :=
  bind get fun _ => bind (track _) fun _ => pure _

/-- Emitting a row that starts no token account version. -/
theorem emit {m : Mutation} (hm : m.rangedTokenAccount? = none) :
    Preserves Ctx.AccountsTouched (Projection.emit m) := by
  intro c u c' hc h
  obtain ⟨-, rfl⟩ := run_emit_eq_ok h
  intro m' hm' a ha
  rcases List.mem_cons.1 hm' with rfl | hm'
  · rw [hm] at ha
    cases ha
  · exact hc m' hm' a ha

/-- Emitting a row of an account right after touching it. -/
theorem track_emit {id : EntityId} {m : Mutation} (hid : id.isEmpty = false)
    (hm : ∀ a, m.rangedTokenAccount? = some a → a.accountId = id) :
    Preserves Ctx.AccountsTouched (Projection.track id >>= fun _ => Projection.emit m) := by
  intro c u c' hc h
  obtain ⟨_, c₁, h₁, h₂⟩ := run_bind_eq_ok h
  simp only [run_track, hid, Bool.false_eq_true, ↓reduceIte] at h₁
  cases h₁
  obtain ⟨-, rfl⟩ := run_emit_eq_ok h₂
  intro m' hm' a ha
  rcases List.mem_cons.1 hm' with rfl | hm'
  · rw [hm a ha]
    exact EntityId.mem_insertSorted_self _ _
  · exact EntityId.mem_insertSorted_of_mem (hc m' hm' a ha)

end Preserves

/-- Keeping every ranged token account row's account touched: touching ids keeps it, so the shared
phases do when the rows they emit start no token account version. -/
def Logic.accountsTouched : Logic where
  Holds := Preserves Ctx.AccountsTouched
  pure := Preserves.pure
  bind := Preserves.bind
  get := Preserves.get
  track := Preserves.track

/-! The phases after the handler start no token account version of a creation and only add
touched ids. -/

section Phases

variable (item : RecordItem)

theorem recordContractResult_accountsTouched
    (adjust : RecordItem → ContractResult → ContractResult) (entityId : EntityId) :
    Preserves Ctx.AccountsTouched (recordContractResult adjust item entityId) :=
  recordContractResult_holds Logic.accountsTouched item (fun _ => Preserves.emit rfl)
    (fun _ _ => Preserves.emit rfl) (fun _ => Preserves.emit rfl) adjust entityId

theorem applyAutomaticAssociations_accountsTouched_of_tokenCreate
    (hk : item.kind = .tokenCreate) :
    Preserves Ctx.AccountsTouched (applyAutomaticAssociations item) := by
  refine Preserves.bind (Preserves.forM fun _ _ =>
    Preserves.bind (Preserves.track _) fun _ => Preserves.track _) fun _ =>
      Preserves.bind Preserves.persist fun _ => ?_
  rw [if_pos (by simp [hk])]
  exact Preserves.pure _

theorem applyNftTransfers_accountsTouched :
    Preserves Ctx.AccountsTouched (applyNftTransfers item) :=
  applyNftTransfers_holds Logic.accountsTouched item fun _ _ _ => Preserves.emit rfl

theorem applyBalanceChanges_accountsTouched :
    Preserves Ctx.AccountsTouched (applyBalanceChanges item) :=
  applyBalanceChanges_holds Logic.accountsTouched item (fun {α} o _ => Preserves.fail (α := α) o)
    (fun _ _ _ _ => Preserves.emit rfl) fun _ _ _ _ => Preserves.emit rfl

end Phases

end Projection

/-! ### Exact emission through loops and quiet steps -/

namespace Projection

variable {α β γ : Type} {x : Projection α} {c : Ctx} {ms : List Mutation}

/-- A program that emits nothing returns. -/
theorem EmitsFrom.run_ok_of_nil (h : EmitsFrom x c []) : ∃ a c', x.run c = .ok a c' := by
  rcases hrun : x.run c with ⟨a, c'⟩ | ⟨e, c'⟩
  · exact ⟨a, c', rfl⟩
  · exact absurd trivial (h.refused_of_error hrun).2

/-- A row, then what follows it. -/
theorem EmitsFrom.emit_bind {f : Unit → Projection β} (m : Mutation)
    (hf : ∀ c₁, (Projection.emit m).run c = .ok () c₁ → EmitsFrom (f ()) c₁ ms) :
    EmitsFrom (Projection.emit m >>= f) c (m :: ms) := by
  simpa using (EmitsFrom.emit m).bind fun _ c₁ h => hf c₁ h

theorem EmitsFrom.forM {xs : List γ} {f : γ → Projection PUnit} {g : γ → List Mutation}
    (h : ∀ x ∈ xs, ∀ c, EmitsFrom (f x) c (g x)) : EmitsFrom (xs.forM f) c (xs.flatMap g) := by
  induction xs generalizing c with
  | nil => exact EmitsFrom.pure _
  | cons x xs ih =>
    rw [List.flatMap_cons]
    exact (h x (List.mem_cons_self ..) c).bind fun _ c₁ _ =>
      ih (fun y hy => h y (List.mem_cons_of_mem _ hy))

theorem Steps.resolveAndTrack (ref : Option EntityRef) :
    Steps (Projection.resolveAndTrack ref) c [] 0 :=
  Steps.nil_bind Steps.read fun _ _ _ =>
    Steps.nil_bind (Steps.track _) fun _ c₂ _ => Steps.pure (c := c₂) _

theorem Steps.forM_nil {xs : List γ} {f : γ → Projection PUnit}
    (h : ∀ x ∈ xs, ∀ c, Steps (f x) c [] 0) : Steps (xs.forM f) c [] 0 := by
  induction xs generalizing c with
  | nil => exact Steps.pure _
  | cons x xs ih =>
    exact Steps.nil_bind (h x (List.mem_cons_self ..) c) fun _ c₁ _ =>
      ih (fun y hy => h y (List.mem_cons_of_mem _ hy))

/-- A step that emits nothing and keeps the state alike, then rows chosen in the state it
returns in. -/
theorem Steps.bind_exists {f : α → Projection β} {Q : List Mutation → Prop} (hx : Steps x c [] 0)
    (hf : ∀ a c₁, x.run c = .ok a c₁ → c.Alike c₁ →
      ∃ pre, Q pre ∧ EmitsFrom (f a) c₁ (pre ++ ms)) :
    ∃ pre, Q pre ∧ EmitsFrom (x >>= f) c (pre ++ ms) := by
  obtain ⟨a, c₁, h₁⟩ := (hx.emits c.hasRoom_zero).run_ok_of_nil
  obtain ⟨pre, hQ, hE⟩ := hf a c₁ h₁ (hx.alike h₁).1
  refine ⟨pre, hQ, (hx.emits c.hasRoom_zero).nil_bind fun a' c₁' h' => ?_⟩
  rw [h₁] at h'
  cases h'
  exact hE

end Projection

/-! ### The record template -/

namespace Handler

open Projection

/-- The record template, for any property of programs from a state that a step emitting
nothing and keeping the state alike hands back from the states it returns in: it holds of the
handler's run from `c` when it holds, from every state alike to `c`, of what follows the ids the
template touches. -/
theorem run_of_rest {h : Handler} {item : RecordItem} {c : Ctx}
    {R : Projection Transaction → Ctx → Prop}
    (hstep : ∀ {β : Type} {x : Projection β} {f : β → Projection Transaction} {c₀ : Ctx},
      Steps x c₀ [] 0 → (∀ a c₁, x.run c₀ = .ok a c₁ → c₀.Alike c₁ → R (f a) c₁) →
        R (x >>= f) c₀)
    (hrest : ∀ c₁, c.Alike c₁ →
      R (h.onTransaction item (item.transactionRow (h.mainEntity c item)) >>= fun _ =>
        if (decide (h.operation = .none) || (h.mainEntity c item).isEmpty ||
            !item.isSuccessful) = true then
          pure (item.transactionRow (h.mainEntity c item))
        else
          h.onEntity item (h.operation.stamp (h.mainEntity c item) item.consensusTimestamp) >>=
            fun _ => pure (item.transactionRow (h.mainEntity c item))) c₁) :
    R (h.run item) c := by
  unfold Handler.run
  refine hstep Steps.read fun c₀ c₁ h₀ _ => ?_
  rw [run_read] at h₀
  cases h₀
  dsimp only
  -- the main entity when the kind tracks it, the payer, and the node when there is one
  split
  · refine hstep (Steps.track _) fun _ c₂ _ hA₂ => ?_
    refine hstep (Steps.track _) fun _ c₃ _ hA₃ => ?_
    split
    · exact hstep (Steps.track _) fun _ c₄ _ hA₄ => hrest c₄ (hA₂.trans (hA₃.trans hA₄))
    · exact hrest c₃ (hA₂.trans hA₃)
  · refine hstep (Steps.track _) fun _ c₃ _ hA₃ => ?_
    split
    · exact hstep (Steps.track _) fun _ c₄ _ hA₄ => hrest c₄ (hA₃.trans hA₄)
    · exact hrest c₃ hA₃

/-- A successful record of a kind with an entity operation whose main entity resolves: when the
kind's transaction-level effects emit nothing and keep the state alike, the record's handler
emits what the kind emits for its stamped main entity. -/
theorem run_emitsFrom {h : Handler} {item : RecordItem} {c : Ctx} {Q : List Mutation → Prop}
    {ms : List Mutation} (hop : h.operation ≠ .none) (hs : item.isSuccessful = true)
    (hmain : (h.mainEntity c item).isEmpty = false)
    (htx : ∀ c₁, c.Alike c₁ →
      Steps (h.onTransaction item (item.transactionRow (h.mainEntity c item))) c₁ [] 0)
    (hentity : ∀ c₁, c.Alike c₁ → ∃ pre, Q pre ∧
      EmitsFrom (h.onEntity item (h.operation.stamp (h.mainEntity c item) item.consensusTimestamp))
        c₁ (pre ++ ms)) :
    ∃ pre, Q pre ∧ EmitsFrom (h.run item) c (pre ++ ms) := by
  refine run_of_rest (R := fun y c₀ => ∃ pre, Q pre ∧ EmitsFrom y c₀ (pre ++ ms))
    (fun hx hf => Steps.bind_exists hx hf) fun c₂ hA => ?_
  refine Steps.bind_exists (htx c₂ hA) fun _ c₃ _ hA₃ => ?_
  rw [if_neg (by simp [hop, hmain, hs])]
  obtain ⟨pre, hQ, hE⟩ := hentity c₃ (hA.trans hA₃)
  exact ⟨pre, hQ, by simpa using hE.bind fun _ c₄ _ => EmitsFrom.pure (c := c₄) _⟩

/-- An invariant that touching an id keeps, and that the kind's effects keep, holds after the
record's handler. -/
theorem run_preserves {I : Ctx → Prop} {h : Handler} {item : RecordItem}
    (htrack : ∀ id, Preserves I (track id)) (htx : ∀ tx, Preserves I (h.onTransaction item tx))
    (hentity : ∀ e, Preserves I (h.onEntity item e)) : Preserves I (h.run item) := by
  unfold Handler.run
  refine Preserves.bind Preserves.get fun c => ?_
  have hrest : ∀ e : EntityId, Preserves I
      (h.onTransaction item (item.transactionRow e) >>= fun _ =>
        if (decide (h.operation = .none) || e.isEmpty || !item.isSuccessful) = true then
          pure (item.transactionRow e)
        else
          h.onEntity item (h.operation.stamp e item.consensusTimestamp) >>= fun _ =>
            pure (item.transactionRow e)) := fun e =>
    Preserves.bind (htx _) fun _ => Preserves.gate fun _ =>
      Preserves.bind (hentity _) fun _ => Preserves.pure _
  dsimp only
  split
  · refine Preserves.bind (htrack _) fun _ => Preserves.bind (htrack _) fun _ => ?_
    split
    · exact Preserves.bind (htrack _) fun _ => hrest _
    · exact hrest _
  · refine Preserves.bind (htrack _) fun _ => ?_
    split
    · exact Preserves.bind (htrack _) fun _ => hrest _
    · exact hrest _

end Handler

/-! ### The handler of a token creation -/

namespace Handler

open Projection

variable (body : TokenCreateBody) (item : RecordItem)

/-- A creation's transaction-level effects only touch the treasury, the auto-renew account and
the fee collectors. -/
theorem tokenCreate_onTransaction_steps (tx : Transaction) (c : Ctx) :
    Steps ((tokenCreate body).onTransaction item tx) c [] 0 :=
  Steps.nil_bind (Steps.resolveAndTrack _) fun _ _ _ =>
    Steps.nil_bind (Steps.resolveAndTrack _) fun _ _ _ =>
      Steps.forM_nil fun f _ c₃ => by
        split
        · exact Steps.track _
        · exact Steps.pure _

/-- While tokens are kept, a created token's entity, token and fee rows, which start no token
account version, are followed by the associations of its map. -/
theorem tokenCreate_onEntity_emitsFrom (hbody : item.body = .tokenCreate body) (e : Entity)
    (c : Ctx) (ht : c.persist.tokens = true) :
    ∃ pre, (∀ m ∈ pre, m.rangedTokenAccount? = none) ∧
      EmitsFrom ((tokenCreate body).onEntity item e) c
        (pre ++ (creationRows item e.id (c.resolveOrEmpty body.treasury)
          (parseCustomFees body.customFees e.id (some e.id)
            item.consensusTimestamp).inTokenCollectors).map .tokenAccount) := by
  refine ⟨[?_, ?_, ?_], ?rows, ?emits⟩
  case emits =>
    simp only [tokenCreate]
    refine EmitsFrom.nil_bind EmitsFrom.read fun c₀ c₁ h₀ => ?_
    rw [run_read] at h₀
    cases h₀
    refine EmitsFrom.emit_bind _ fun c₂ h₂ => ?_
    refine EmitsFrom.nil_bind EmitsFrom.persist fun p c₃ h₃ => ?_
    rw [run_persist] at h₃
    cases h₃
    have htokens : c₂.persist.tokens = true := by
      rw [(run_emit_eq_ok h₂).2]
      exact ht
    simp only [htokens, Bool.not_true, Bool.false_eq_true, ↓reduceIte]
    refine EmitsFrom.emit_bind _ fun c₄ _ => ?_
    refine EmitsFrom.emit_bind _ fun c₅ _ => ?_
    rw [creationRows, List.map_filterMap, List.filterMap_eq_flatMap_toList]
    -- each entry: nothing for `0.0.0`, else its account touched and its association written
    refine EmitsFrom.forM fun entry _ c₆ => ?_
    unfold creationRow?
    split
    · simpa using EmitsFrom.pure (c := c₆) ()
    · simpa [RecordItem.creationKeys_of_body hbody] using
        (EmitsFrom.track (c := c₆) _).nil_bind fun _ c₇ _ => EmitsFrom.emit (c := c₇) _
  case rows =>
    simp [Mutation.rangedTokenAccount?]

/-- A successful creation of token `T` while tokens are kept: after rows that start no token
account version, its handler writes the associations of its map, the treasury resolved in the
state it starts from. -/
theorem tokenCreate_run_emitsFrom (hbody : item.body = .tokenCreate body)
    (hs : item.isSuccessful = true) {T : EntityId} (hT : item.receipt.tokenId = some T)
    (hT' : T.isEmpty = false) (c : Ctx) (ht : c.persist.tokens = true) :
    ∃ pre, (∀ m ∈ pre, m.rangedTokenAccount? = none) ∧
      EmitsFrom ((tokenCreate body).run item) c
        (pre ++ (creationRows item T (c.resolveOrEmpty body.treasury)
          (parseCustomFees body.customFees T (some T)
            item.consensusTimestamp).inTokenCollectors).map .tokenAccount) := by
  have hmain : (tokenCreate body).mainEntity c item = T := by simp [tokenCreate, hT]
  refine run_emitsFrom (by simp [tokenCreate]) hs (by rw [hmain]; exact hT')
    (fun c₁ _ => tokenCreate_onTransaction_steps body item _ c₁) fun c₁ hA => ?_
  rw [hmain]
  have h := tokenCreate_onEntity_emitsFrom body item hbody
    (EntityOperation.create.stamp T item.consensusTimestamp) c₁ (by rw [hA.persist]; exact ht)
  rw [hA.resolveOrEmpty] at h
  exact h

/-- Every ranged token account row of a creation's handler names an account it touched first. -/
theorem tokenCreate_run_accountsTouched :
    Preserves Ctx.AccountsTouched ((tokenCreate body).run item) := by
  refine run_preserves Preserves.track (fun _ => ?_) fun _ => ?_
  · refine Preserves.bind (Preserves.resolveAndTrack _) fun _ =>
      Preserves.bind (Preserves.resolveAndTrack _) fun _ => Preserves.forM fun f _ => ?_
    split
    · exact Preserves.track _
    · exact Preserves.pure _
  · simp only [tokenCreate]
    refine Preserves.bind Preserves.get fun _ => Preserves.bind (Preserves.emit rfl) fun _ =>
      Preserves.bind Preserves.persist fun _ => Preserves.gate fun _ => ?_
    refine Preserves.bind (Preserves.emit rfl) fun _ => Preserves.bind (Preserves.emit rfl) fun _ =>
      Preserves.forM fun entry _ => Preserves.gate fun hne => ?_
    refine Preserves.track_emit (by simpa using hne) fun a ha => ?_
    simp only [Mutation.rangedTokenAccount?_association, Option.some.injEq] at ha
    rw [← ha]
    rfl

end Handler

/-! ### A token creation record -/

namespace Projection

variable {α β : Type}

/-- From `c`, `x` emits the rows of `ms` as far as the ledger takes them, then rows of `P`; it
returns only when the ledger took every row of `ms`. -/
structure EmitsThen (x : Projection α) (c : Ctx) (ms : List Mutation) (P : Mutation → Prop) :
    Prop where
  emitted : ∃ rest : List Mutation,
    (x.after c).emitted = (c.sink.ledger.attempt ms ++ rest).reverse ++ c.emitted ∧
      ∀ m ∈ rest, P m
  accepts_of_ok : ∀ ⦃a c'⦄, x.run c = .ok a c' → c.sink.ledger.Accepts ms

namespace EmitsThen

variable {x : Projection α} {f : α → Projection β} {c : Ctx} {ms : List Mutation}
  {P : Mutation → Prop}

theorem of_emitsFrom (h : EmitsFrom x c ms) : EmitsThen x c ms P where
  emitted := ⟨[], by rw [List.append_nil]; exact h.emitted_eq, by simp⟩
  accepts_of_ok _ _ hrun := h.accepts_of_ok hrun

/-- Then a part that keeps `P`, which runs only when the ledger took every row. -/
theorem bind_keeps (hx : EmitsThen x c ms P) (hf : ∀ a, Keeps P (f a)) :
    EmitsThen (x >>= f) c ms P := by
  obtain ⟨rest, he, hP⟩ := hx.emitted
  rcases hrun : x.run c with ⟨a, c₁⟩ | ⟨e, c₁⟩
  · -- the second part ran from where the first returned
    obtain ⟨new, he', hP'⟩ := (hf a).after_emitted c₁
    have hafter : (x >>= f).after c = (f a).after c₁ := by simp only [after, run_bind, hrun]
    refine ⟨⟨rest ++ new, ?_, fun m hm => ?_⟩, fun _ _ _ => hx.accepts_of_ok hrun⟩
    · rw [hafter, he', ← after_of_ok hrun, he]
      simp
    · rcases List.mem_append.1 hm with hm | hm
      exacts [hP m hm, hP' m hm]
  · have hafter : (x >>= f).after c = x.after c := by simp only [after, run_bind, hrun]
    refine ⟨⟨rest, by rw [hafter, he], hP⟩, fun b c' h => ?_⟩
    rw [run_bind, hrun] at h
    cases h

end EmitsThen

end Projection

theorem projectRecord_eq_done {props : Properties} {via : ResolverKind} {sink : Sink}
    {item : RecordItem} {tx : Transaction} {ms : List Mutation} {touched : List EntityId}
    (h : (projectRecord props via sink item).2 = .done tx ms touched) :
    ∃ c', (Projection.process item).run (Ctx.start props via sink item) = .ok tx c' ∧
      ms = c'.emitted.reverse ∧ touched = c'.touched := by
  unfold projectRecord at h
  rcases hrun : (Projection.process item).run (Ctx.start props via sink item) with
    ⟨tx', c'⟩ | ⟨f, c'⟩ <;> rw [hrun] at h <;> dsimp only at h
  · obtain ⟨rfl, rfl, rfl⟩ := Outcome.done.inj h
    exact ⟨c', rfl, rfl, rfl⟩
  · cases h

open Projection in
/-- A successful creation of token `T` while tokens are kept emits, among its ranged token
account rows, a prefix of its associations: all of them, each account touched, once the record
finished. -/
theorem projectRecord_creationRows (props : Properties) (via : ResolverKind) (sink : Sink)
    (item : RecordItem) (body : TokenCreateBody) {T : EntityId}
    (hbody : item.body = .tokenCreate body) (hs : item.isSuccessful = true)
    (hT : item.receipt.tokenId = some T) (hT' : T.isEmpty = false)
    (ht : props.persist.tokens = true) :
    (projectRecord props via sink item).2.mutations.filterMap Mutation.rangedTokenAccount? <+:
        Handler.creationRows item T ((Ctx.start props via sink item).resolveOrEmpty body.treasury)
          (parseCustomFees body.customFees T (some T) item.consensusTimestamp).inTokenCollectors ∧
      ∀ tx ms touched, (projectRecord props via sink item).2 = .done tx ms touched →
        ms.filterMap Mutation.rangedTokenAccount? =
          Handler.creationRows item T ((Ctx.start props via sink item).resolveOrEmpty body.treasury)
            (parseCustomFees body.customFees T (some T) item.consensusTimestamp).inTokenCollectors ∧
        ∀ a ∈ Handler.creationRows item T
            ((Ctx.start props via sink item).resolveOrEmpty body.treasury)
            (parseCustomFees body.customFees T (some T) item.consensusTimestamp).inTokenCollectors,
          a.accountId ∈ touched := by
  set c := Ctx.start props via sink item with hc
  have hk : item.kind = .tokenCreate := by rw [RecordItem.kind, hbody]; rfl
  obtain ⟨pre, hpre, hE⟩ := Handler.tokenCreate_run_emitsFrom body item hbody hs hT hT' c ht
  set rows := Handler.creationRows item T (c.resolveOrEmpty body.treasury)
    (parseCustomFees body.customFees T (some T) item.consensusTimestamp).inTokenCollectors
  have hprocess : process item = ((Handler.tokenCreate body).run item >>= fun tx =>
      recordContractResult (Handler.tokenCreate body).adjustResult item
          (tx.entityId.getD EntityId.empty) >>= fun _ =>
        applyAutomaticAssociations item >>= fun _ => applyNftTransfers item >>= fun _ =>
        applyBalanceChanges item >>= fun _ => emit (.transaction tx) >>= fun _ => pure tx) := by
    rw [process, hbody]
    rfl
  -- after the handler, no phase starts a token account version
  obtain ⟨⟨rest, he, hrest⟩, hacc⟩ := (EmitsThen.of_emitsFrom hE).bind_keeps fun tx =>
    Keeps.bind (recordContractResult_keeps item (fun _ => rfl) (fun _ => rfl) (fun _ => rfl) _ _)
      fun _ => Keeps.bind (applyAutomaticAssociations_keeps_of_tokenCreate item hk)
      fun _ => Keeps.bind (applyNftTransfers_holds (Logic.keeps fun m => m.rangedTokenAccount? = none)
        item fun _ _ _ => Keeps.emit rfl)
      fun _ => Keeps.bind (applyBalanceChanges_holds
        (Logic.keeps fun m => m.rangedTokenAccount? = none) item
        (fun {α} o _ => Keeps.fail (α := α) o) (fun _ _ _ _ => Keeps.emit rfl)
        fun _ _ _ _ => Keeps.emit rfl)
      fun _ => Keeps.bind (Keeps.emit (P := fun m => m.rangedTokenAccount? = none)
        (m := .transaction tx) rfl)
      fun _ => Keeps.pure tx
  have hmut : (projectRecord props via sink item).2.mutations =
      c.sink.ledger.attempt (pre ++ rows.map Mutation.tokenAccount) ++ rest := by
    have hemitted : c.emitted = [] := rfl
    rw [(projectRecord_after props via sink item).2, ← hc, hprocess, he, hemitted,
      List.append_nil, List.reverse_reverse]
  have hpre' : pre.filterMap Mutation.rangedTokenAccount? = [] := List.filterMap_eq_nil_iff.2 hpre
  have hrest' : rest.filterMap Mutation.rangedTokenAccount? = [] :=
    List.filterMap_eq_nil_iff.2 hrest
  -- every association is a ranged token account row
  have hrows' :
      (pre ++ rows.map Mutation.tokenAccount).filterMap Mutation.rangedTokenAccount? = rows := by
    rw [List.filterMap_append, hpre', List.nil_append, List.filterMap_map]
    refine (List.filterMap_congr fun a ha => ?_).trans List.filterMap_some
    obtain ⟨p, b, -, -, rfl⟩ := (Handler.mem_creationRows item T _ _).1 ha
    rfl
  refine ⟨?_, fun tx ms touched hdone => ?_⟩
  · rw [hmut, List.filterMap_append, hrest', List.append_nil]
    calc _ <+: (pre ++ rows.map Mutation.tokenAccount).filterMap Mutation.rangedTokenAccount? :=
          (Ledger.attempt_prefix _ _).filterMap _
      _ = rows := hrows'
  · obtain ⟨c', hrun, hms, rfl⟩ := projectRecord_eq_done hdone
    have hall := Ledger.attempt_of_accepts (hacc (hprocess ▸ hrun))
    have hms' : ms = pre ++ rows.map Mutation.tokenAccount ++ rest := by
      rw [← hall, ← hmut, hdone]
      rfl
    have hfilter : ms.filterMap Mutation.rangedTokenAccount? = rows := by
      rw [hms', List.filterMap_append, hrows', hrest', List.append_nil]
    refine ⟨hfilter, fun a ha => ?_⟩
    -- the account was touched before its row, and touched ids are kept
    have htouched : c'.AccountsTouched := by
      rw [hprocess] at hrun
      refine Preserves.bind (Handler.tokenCreate_run_accountsTouched body item) (fun tx =>
        Preserves.bind (recordContractResult_accountsTouched item _ _) fun _ =>
        Preserves.bind (applyAutomaticAssociations_accountsTouched_of_tokenCreate item hk) fun _ =>
        Preserves.bind (applyNftTransfers_accountsTouched item) fun _ =>
        Preserves.bind (applyBalanceChanges_accountsTouched item) fun _ =>
        Preserves.bind (Preserves.emit rfl) fun _ => Preserves.pure tx) ?_ hrun
      intro m hm
      cases hm
    rw [← hfilter, List.mem_filterMap] at ha
    obtain ⟨m, hm, hma⟩ := ha
    rw [hms] at hm
    exact htouched m (List.mem_reverse.1 hm) a hma

/-- A successful creation of token `T` while tokens are kept associates each pair once. Its
associations are, in strictly ascending (account, token) order, one for each pair whose account
is not `0.0.0` among the treasury's and the in-token collectors' pairs with `T` (not automatic)
and the pairs the record lists (automatic otherwise), each valid from the consensus timestamp
with the statuses of the token's keys. Among its ranged token account rows the record emits a
prefix of them, as far as the ledger takes its rows; once it finished, all of them, each account
touched. -/
theorem projectRecord_creation_associations (props : Properties) (via : ResolverKind)
    (sink : Sink) (item : RecordItem) (body : TokenCreateBody) (T : EntityId)
    (hbody : item.body = .tokenCreate body) (hs : item.isSuccessful = true)
    (hT : item.receipt.tokenId = some T) (hT' : T.isEmpty = false)
    (ht : props.persist.tokens = true) :
    ∃ rows : List TokenAccount,
      (∀ a, a ∈ rows ↔ ∃ p b, Handler.creationAssociation? item T
          ((Ctx.start props via sink item).resolveOrEmpty body.treasury)
          (parseCustomFees body.customFees T (some T) item.consensusTimestamp).inTokenCollectors p =
            some b ∧ p.1.isEmpty = false ∧
          a = TokenAccount.association p.1 p.2 item.consensusTimestamp item.creationKeys b) ∧
      rows.Pairwise (fun a a' =>
        EntityId.pairCompare (a.accountId, a.tokenId) (a'.accountId, a'.tokenId) = .lt) ∧
      (projectRecord props via sink item).2.mutations.filterMap Mutation.rangedTokenAccount? <+:
        rows ∧
      ∀ tx ms touched, (projectRecord props via sink item).2 = .done tx ms touched →
        ms.filterMap Mutation.rangedTokenAccount? = rows ∧ ∀ a ∈ rows, a.accountId ∈ touched :=
  ⟨_, fun _ => Handler.mem_creationRows .., Handler.creationRows_sorted ..,
    projectRecord_creationRows props via sink item body hbody hs hT hT' ht⟩

/-- A token `0.0.1600` with treasury `0.0.1001`. -/
def treasuryCreation : TokenCreateBody := { treasury := some (.id ⟨0, 0, 1001⟩) }

/-- Its successful record at 10, which lists the treasury's association with token `0.0.1500`
as automatic. -/
def treasuryCreationAtTen : RecordItem :=
  { consensusTimestamp := 10, payerAccountId := ⟨0, 0, 2⟩, body := .tokenCreate treasuryCreation,
    receipt := { status := ⟨22⟩, tokenId := some ⟨0, 0, 1600⟩ },
    record :=
      { automaticTokenAssociations := [{ accountId := ⟨0, 0, 1001⟩, tokenId := ⟨0, 0, 1500⟩ }] } }

/-- A sink whose ledger holds the treasury's association with `0.0.1500` from 20 on. -/
def associatedFromTwenty : Sink :=
  (({} : Sink).deliver (.tokenAccount
    (TokenAccount.association ⟨0, 0, 1001⟩ ⟨0, 0, 1500⟩ 20 (some {}) false))).1

theorem projectRecord_creation_associations_treasuryCreation :
    treasuryCreationAtTen.body = .tokenCreate treasuryCreation ∧
      treasuryCreationAtTen.isSuccessful = true ∧
      treasuryCreationAtTen.receipt.tokenId = some ⟨0, 0, 1600⟩ ∧
      (⟨0, 0, 1600⟩ : EntityId).isEmpty = false ∧ ({} : Properties).persist.tokens = true ∧
      ∃ rows : List TokenAccount,
        (∀ a, a ∈ rows ↔ ∃ p b, Handler.creationAssociation? treasuryCreationAtTen ⟨0, 0, 1600⟩
            ((Ctx.start {} .memory {} treasuryCreationAtTen).resolveOrEmpty
              treasuryCreation.treasury)
            (parseCustomFees treasuryCreation.customFees ⟨0, 0, 1600⟩ (some ⟨0, 0, 1600⟩)
              treasuryCreationAtTen.consensusTimestamp).inTokenCollectors p =
              some b ∧ p.1.isEmpty = false ∧
            a = TokenAccount.association p.1 p.2 treasuryCreationAtTen.consensusTimestamp
              treasuryCreationAtTen.creationKeys b) ∧
        rows.Pairwise (fun a a' =>
          EntityId.pairCompare (a.accountId, a.tokenId) (a'.accountId, a'.tokenId) = .lt) ∧
        (projectRecord {} .memory {} treasuryCreationAtTen).2.mutations.filterMap
          Mutation.rangedTokenAccount? <+: rows ∧
        ∀ tx ms touched,
          (projectRecord {} .memory {} treasuryCreationAtTen).2 = .done tx ms touched →
          ms.filterMap Mutation.rangedTokenAccount? = rows ∧ ∀ a ∈ rows, a.accountId ∈ touched :=
  ⟨rfl, by decide, rfl, by decide, rfl, projectRecord_creation_associations {} .memory {}
    treasuryCreationAtTen treasuryCreation ⟨0, 0, 1600⟩ rfl (by decide) rfl (by decide) rfl⟩

/-- After the ledger took the treasury's association with `0.0.1500` from 20 on, the creation at
10 stops at its automatic association with `0.0.1500`: it never associates the treasury with its
own token `0.0.1600`. -/
theorem projectRecord_refused_association_stops_creation :
    Handler.creationRows treasuryCreationAtTen ⟨0, 0, 1600⟩ ⟨0, 0, 1001⟩ [] =
        [TokenAccount.association ⟨0, 0, 1001⟩ ⟨0, 0, 1500⟩ 10 (some {}) true,
          TokenAccount.association ⟨0, 0, 1001⟩ ⟨0, 0, 1600⟩ 10 (some {}) false] ∧
      (projectRecord {} .memory associatedFromTwenty treasuryCreationAtTen).2.mutations.filterMap
          Mutation.rangedTokenAccount? =
        [TokenAccount.association ⟨0, 0, 1001⟩ ⟨0, 0, 1500⟩ 10 (some {}) true] := by
  decide +kernel

end LedgerProjection
