import LedgerProjection.Ledger.Basic
import LedgerProjection.Proofs.History

/-!
# The ledger's history tables

The ledger keeps twelve history tables, one per versioned row type. `Family` names them, so
that a statement about every table is one statement: `Family.table` reads a family's table and
`Family.row?` the row a mutation carries for it.

* Every versioned row type obeys the merge laws (`LawfulVersioned`): field-wise merges and
  balance additions touch neither the key nor the range, replacing merges keep the current
  range.
* A mutation changes at most its own family's table, by that table's `apply`
  (`Family.table_apply`), and a refusal comes from that table (`Ledger.exists_row_of_fault`).
* `Ledger.receive`: the ledger after a sequence of mutations, each accepted or refused. Every
  table of every such ledger satisfies the representation invariant, and the ledger passes its
  own check (`Ledger.receive_tables_valid`).
-/

namespace LedgerProjection

open Versioned

/-! ### The merge laws of each row type -/

namespace Merged

/-- What holds of the merged row, and of that row with any balance, holds after a balance
merge. -/
theorem withBalance_row {α : Type} (P : α → Prop) {row : α} {current delta : Option Int}
    {setBalance : α → Option Int → α} (hrow : P row) (hset : ∀ b, P (setBalance row b)) :
    P (withBalance row current delta setBalance).row := by
  unfold withBalance
  split
  · exact hset _
  · exact hrow

/-- A balance merge commutes with a change of the row that keeps its balance setter. -/
theorem withBalance_map {α : Type} (g : α → α) (row : α) {current delta : Option Int}
    {setBalance : α → Option Int → α} (hg : ∀ b, setBalance (g row) b = g (setBalance row b)) :
    withBalance (g row) current delta setBalance =
      (withBalance row current delta setBalance).map g := by
  unfold withBalance
  cases addBalance current delta with
  | ok b => exact congrArg Merged.ok (hg b)
  | error o => rfl

end Merged

/-- The laws of a row type whose merge overwrites populated fields, balance apart. -/
private theorem lawful_overlay {α : Type} [Versioned α]
    (key_withRange : ∀ (r : α) t, key (withRange r t) = key r)
    (withRange_withRange : ∀ (r : α) t t', withRange (withRange r t) t' = withRange r t')
    (withRange_range : ∀ r : α, withRange r (range r) = r)
    (range_withRange : ∀ (r : α) t, range (withRange r t) = t)
    (key_merge : ∀ c u : α, key (merge c u).row = key c)
    (range_merge : ∀ c u : α, range (merge c u).row = range c)
    (merge_withRange : ∀ (c u : α) t, merge (withRange c t) u = (merge c u).map (withRange · t)) :
    LawfulVersioned α where
  key_withRange := key_withRange
  range_withRange := range_withRange
  withRange_withRange := withRange_withRange
  withRange_range := withRange_range
  key_merge c u _ := key_merge c u
  range_merge := range_merge
  merge_withRange := merge_withRange

instance : LawfulVersioned Entity :=
  lawful_overlay (fun _ _ => rfl) (fun _ _ _ => rfl) (fun _ => rfl) (fun _ _ => rfl)
    (fun _ _ => Merged.withBalance_row (fun r : Entity => key r = _) rfl fun _ => rfl)
    (fun _ _ => Merged.withBalance_row (fun r : Entity => range r = _) rfl fun _ => rfl)
    (fun c u t => Merged.withBalance_map (withRange · t) (Entity.overlay c u) fun _ => rfl)

instance : LawfulVersioned TokenAccount :=
  lawful_overlay (fun _ _ => rfl) (fun _ _ _ => rfl) (fun _ => rfl) (fun _ _ => rfl)
    (fun _ _ => Merged.withBalance_row (fun r : TokenAccount => key r = _) rfl fun _ => rfl)
    (fun _ _ => Merged.withBalance_row (fun r : TokenAccount => range r = _) rfl fun _ => rfl)
    (fun c u t => Merged.withBalance_map (withRange · t) (TokenAccount.overlay c u) fun _ => rfl)

instance : LawfulVersioned Topic :=
  lawful_overlay (fun _ _ => rfl) (fun _ _ _ => rfl) (fun _ => rfl) (fun _ _ => rfl)
    (fun _ _ => rfl) (fun _ _ => rfl) (fun _ _ _ => rfl)

instance : LawfulVersioned Node :=
  lawful_overlay (fun _ _ => rfl) (fun _ _ _ => rfl) (fun _ => rfl) (fun _ _ => rfl)
    (fun _ _ => rfl) (fun _ _ => rfl) (fun _ _ _ => rfl)

instance : LawfulVersioned Token :=
  lawful_overlay (fun _ _ => rfl) (fun _ _ _ => rfl) (fun _ => rfl) (fun _ _ => rfl)
    (fun _ _ => rfl) (fun _ _ => rfl) (fun _ _ _ => rfl)

instance : LawfulVersioned Nft :=
  lawful_overlay (fun _ _ => rfl) (fun _ _ _ => rfl) (fun _ => rfl) (fun _ _ => rfl)
    (fun _ _ => rfl) (fun _ _ => rfl) (fun _ _ _ => rfl)

instance : LawfulVersioned Hook :=
  lawful_overlay (fun _ _ => rfl) (fun _ _ _ => rfl) (fun _ => rfl) (fun _ _ => rfl)
    (fun _ _ => rfl) (fun _ _ => rfl) (fun _ _ _ => rfl)

/-- The laws of a row type whose merge replaces the row and keeps the current range. -/
private theorem lawful_replace {α : Type} [Versioned α]
    (key_withRange : ∀ (r : α) t, key (withRange r t) = key r)
    (withRange_withRange : ∀ (r : α) t t', withRange (withRange r t) t' = withRange r t')
    (withRange_range : ∀ r : α, withRange r (range r) = r)
    (range_withRange : ∀ (r : α) t, range (withRange r t) = t)
    (merge_eq : ∀ c u : α, merge c u = .ok (withRange u (range c))) :
    LawfulVersioned α where
  key_withRange := key_withRange
  range_withRange := range_withRange
  withRange_withRange := withRange_withRange
  withRange_range := withRange_range
  key_merge c u hk := by rw [merge_eq, Merged.row, key_withRange, hk]
  range_merge c u := by rw [merge_eq, Merged.row, range_withRange]
  merge_withRange c u t := by
    rw [merge_eq, merge_eq, range_withRange, Merged.map, withRange_withRange]

instance : LawfulVersioned TokenAirdrop :=
  lawful_replace (fun _ _ => rfl) (fun _ _ _ => rfl) (fun _ => rfl) (fun _ _ => rfl)
    (fun _ _ => rfl)

instance : LawfulVersioned CustomFee :=
  lawful_replace (fun _ _ => rfl) (fun _ _ _ => rfl) (fun _ => rfl) (fun _ _ => rfl)
    (fun _ _ => rfl)

instance : LawfulVersioned CryptoAllowance :=
  lawful_replace (fun _ _ => rfl) (fun _ _ _ => rfl) (fun _ => rfl) (fun _ _ => rfl)
    (fun _ _ => rfl)

instance : LawfulVersioned TokenAllowance :=
  lawful_replace (fun _ _ => rfl) (fun _ _ _ => rfl) (fun _ => rfl) (fun _ _ => rfl)
    (fun _ _ => rfl)

instance : LawfulVersioned NftAllowance :=
  lawful_replace (fun _ _ => rfl) (fun _ _ _ => rfl) (fun _ => rfl) (fun _ _ => rfl)
    (fun _ _ => rfl)

/-! ### The twelve tables -/

/-- The ledger's history tables. -/
inductive Family where
  | entity | topic | node | token | tokenAccount | nft | tokenAirdrop | customFee
  | cryptoAllowance | tokenAllowance | nftAllowance | hook
deriving DecidableEq, Repr

namespace Family

/-- The row type of a table. -/
def Row : Family → Type
  | entity => Entity
  | topic => Topic
  | node => Node
  | token => Token
  | tokenAccount => TokenAccount
  | nft => Nft
  | tokenAirdrop => TokenAirdrop
  | customFee => CustomFee
  | cryptoAllowance => CryptoAllowance
  | tokenAllowance => TokenAllowance
  | nftAllowance => NftAllowance
  | hook => Hook

instance versioned : (f : Family) → Versioned f.Row
  | entity => inferInstanceAs (Versioned Entity)
  | topic => inferInstanceAs (Versioned Topic)
  | node => inferInstanceAs (Versioned Node)
  | token => inferInstanceAs (Versioned Token)
  | tokenAccount => inferInstanceAs (Versioned TokenAccount)
  | nft => inferInstanceAs (Versioned Nft)
  | tokenAirdrop => inferInstanceAs (Versioned TokenAirdrop)
  | customFee => inferInstanceAs (Versioned CustomFee)
  | cryptoAllowance => inferInstanceAs (Versioned CryptoAllowance)
  | tokenAllowance => inferInstanceAs (Versioned TokenAllowance)
  | nftAllowance => inferInstanceAs (Versioned NftAllowance)
  | hook => inferInstanceAs (Versioned Hook)

instance lawful : (f : Family) → LawfulVersioned f.Row
  | entity => inferInstanceAs (LawfulVersioned Entity)
  | topic => inferInstanceAs (LawfulVersioned Topic)
  | node => inferInstanceAs (LawfulVersioned Node)
  | token => inferInstanceAs (LawfulVersioned Token)
  | tokenAccount => inferInstanceAs (LawfulVersioned TokenAccount)
  | nft => inferInstanceAs (LawfulVersioned Nft)
  | tokenAirdrop => inferInstanceAs (LawfulVersioned TokenAirdrop)
  | customFee => inferInstanceAs (LawfulVersioned CustomFee)
  | cryptoAllowance => inferInstanceAs (LawfulVersioned CryptoAllowance)
  | tokenAllowance => inferInstanceAs (LawfulVersioned TokenAllowance)
  | nftAllowance => inferInstanceAs (LawfulVersioned NftAllowance)
  | hook => inferInstanceAs (LawfulVersioned Hook)

/-- The families in the order in which the ledger checks its tables. -/
def all : List Family :=
  [entity, topic, node, token, tokenAccount, nft, tokenAirdrop, customFee, cryptoAllowance,
    tokenAllowance, nftAllowance, hook]

/-- The family's table of a ledger. -/
def table : (f : Family) → Ledger → HistoryTable f.Row
  | entity, l => l.entities
  | topic, l => l.topics
  | node, l => l.nodes
  | token, l => l.tokens
  | tokenAccount, l => l.tokenAccounts
  | nft, l => l.nfts
  | tokenAirdrop, l => l.tokenAirdrops
  | customFee, l => l.customFees
  | cryptoAllowance, l => l.cryptoAllowances
  | tokenAllowance, l => l.tokenAllowances
  | nftAllowance, l => l.nftAllowances
  | hook, l => l.hooks

/-- The row of the family that a mutation carries, if it carries one. -/
def row? : (f : Family) → Mutation → Option f.Row
  | entity, .entity r => some r
  | topic, .topic r => some r
  | node, .node r => some r
  | token, .token r => some r
  | tokenAccount, .tokenAccount r => some r
  | nft, .nft r => some r
  | tokenAirdrop, .tokenAirdrop r => some r
  | customFee, .customFee r => some r
  | cryptoAllowance, .cryptoAllowance r => some r
  | tokenAllowance, .tokenAllowance r => some r
  | nftAllowance, .nftAllowance r => some r
  | hook, .hook r => some r
  | _, _ => none

@[simp]
theorem table_empty (f : Family) : f.table {} = {} := by
  cases f <;> rfl

theorem table_applyStorage (f : Family) (l : Ledger) (ch : HookStorageChange) :
    f.table (l.applyStorage ch) = f.table l := by
  unfold Ledger.applyStorage
  split <;> cases f <;> rfl

/-- Storing a mutation changes a table only by applying the row it carries for that table. -/
theorem table_store (f : Family) (l : Ledger) (m : Mutation) :
    f.table (l.store m).1 = ((f.row? m).elim (f.table l) fun r => ((f.table l).apply r).1) := by
  cases m
  case hookStorageChange ch =>
    show f.table (l.applyStorage ch) = _
    rw [table_applyStorage]
    cases f <;> rfl
  all_goals cases f <;> rfl

theorem table_apply (f : Family) (l : Ledger) (m : Mutation) :
    f.table (l.apply m).1 =
      ((f.row? m).elim (f.table l) fun r => ((f.table l).apply r).1) := by
  rw [← table_store]
  unfold Ledger.apply
  rcases l.store m with ⟨l', _ | _⟩ <;> cases f <;> rfl

end Family

namespace Ledger

theorem validate_eq_foldl (l : Ledger) :
    l.validate = Family.all.foldl (fun found f => found.or (f.table l).validate) none :=
  rfl

theorem apply_fault (l : Ledger) (m : Mutation) : (l.apply m).2 = (l.store m).2 := by
  unfold apply
  rcases l.store m with ⟨l', _ | _⟩ <;> rfl

/-- A refused mutation was refused by the table of the row it carries. -/
theorem exists_row_of_fault {l : Ledger} {m : Mutation} {e : LedgerFault}
    (h : (l.apply m).2 = some e) :
    ∃ (f : Family) (r : f.Row), f.row? m = some r ∧ ((f.table l).apply r).2 = some e := by
  rw [apply_fault] at h
  cases m
  case entity r => exact ⟨.entity, r, rfl, h⟩
  case topic r => exact ⟨.topic, r, rfl, h⟩
  case node r => exact ⟨.node, r, rfl, h⟩
  case token r => exact ⟨.token, r, rfl, h⟩
  case tokenAccount r => exact ⟨.tokenAccount, r, rfl, h⟩
  case nft r => exact ⟨.nft, r, rfl, h⟩
  case tokenAirdrop r => exact ⟨.tokenAirdrop, r, rfl, h⟩
  case customFee r => exact ⟨.customFee, r, rfl, h⟩
  case cryptoAllowance r => exact ⟨.cryptoAllowance, r, rfl, h⟩
  case tokenAllowance r => exact ⟨.tokenAllowance, r, rfl, h⟩
  case nftAllowance r => exact ⟨.nftAllowance, r, rfl, h⟩
  case hook r => exact ⟨.hook, r, rfl, h⟩
  all_goals cases h

/-- The ledger after receiving `ms` in order, each mutation accepted or refused; a refused
mutation leaves the ledger as its attempt left it. -/
def receive (l : Ledger) (ms : List Mutation) : Ledger :=
  ms.foldl (fun l m => (l.apply m).1) l

@[simp]
theorem receive_nil (l : Ledger) : l.receive [] = l := rfl

@[simp]
theorem receive_cons (l : Ledger) (m : Mutation) (ms : List Mutation) :
    l.receive (m :: ms) = (l.apply m).1.receive ms := rfl

theorem receive_append (l : Ledger) (ms ms' : List Mutation) :
    l.receive (ms ++ ms') = (l.receive ms).receive ms' :=
  List.foldl_append

/-! ### The representation invariant of the ledger -/

/-- Every history table is well formed. -/
def WellFormed (l : Ledger) : Prop := ∀ f : Family, (f.table l).WellFormed

theorem wellFormed_empty : WellFormed {} := by
  intro f
  rw [Family.table_empty]
  exact HistoryTable.wellFormed_empty

theorem WellFormed.apply {l : Ledger} (h : l.WellFormed) (m : Mutation) :
    (l.apply m).1.WellFormed := by
  intro f
  rw [Family.table_apply]
  cases f.row? m with
  | none => exact h f
  | some r => exact (h f).apply r

theorem WellFormed.receive {l : Ledger} (h : l.WellFormed) (ms : List Mutation) :
    (l.receive ms).WellFormed := by
  induction ms generalizing l with
  | nil => exact h
  | cons m ms ih => exact ih (h.apply m)

/-- A ledger whose tables are well formed passes its own check. -/
theorem WellFormed.validate {l : Ledger} (h : l.WellFormed) : l.validate = none := by
  rw [validate_eq_foldl]
  exact foldl_or_eq_none (fun f : Family => (f.table l).validate) fun f _ => (h f).validate

/-- Whatever mutations a fresh ledger receives, in any order and each accepted or refused:
every key of every history table has a non-empty version list, all of that key; a version
without a range is the only version; each version but the last is closed where the next one
begins, after it begins; and the ledger passes its own check. -/
theorem receive_tables_valid (ms : List Mutation) :
    (∀ (f : Family) (k : RowKey) (vs : List f.Row),
        (k, vs) ∈ (f.table (({} : Ledger).receive ms)).rows.entries → HistoryTable.Valid k vs) ∧
      (({} : Ledger).receive ms).validate = none :=
  ⟨wellFormed_empty.receive ms, (wellFormed_empty.receive ms).validate⟩

end Ledger

end LedgerProjection
