import Mathlib.Data.List.Chain
import LedgerProjection.History.Table
import LedgerProjection.Proofs.SortedMap

/-!
# The versions of one key

`HistoryTable.apply` reads the versions of the update's key, decides their next state, and
writes it back. The decision alone is `HistoryTable.revise`, a function of the version list and
the update (`HistoryTable.apply_eq_revise`); everything below is about it.

* `HistoryTable.Valid`: the representation invariant of one key's versions: non-empty, all of
  the key, a version without a range only when it is the only one, and each version closed
  where the next begins, after it begins. `HistoryTable.valid_revise`: every update keeps it,
  accepted or refused, overflow included.
* `HistoryTable.lowers`: the lower bounds of the ranged versions. They only ever come from
  updates (`HistoryTable.lowers_revise`), ascend strictly (`HistoryTable.Valid.lowers_pairwise`),
  and an update is refused as out of order only when it starts before one of them
  (`HistoryTable.revise_outOfOrder`).

The merge laws used throughout are collected in `LawfulVersioned`: restamping and merging keep
the key, a merge keeps the current version's range.
-/

namespace LedgerProjection

/-- The row a merge leaves, whether or not a balance overflowed. -/
def Merged.row {α : Type} : Merged α → α
  | .ok r => r
  | .overflow r _ => r

/-- A merge outcome with its row transformed. -/
def Merged.map {α β : Type} (g : α → β) : Merged α → Merged β
  | .ok r => .ok (g r)
  | .overflow r o => .overflow (g r) o

@[simp]
theorem Merged.row_map {α β : Type} (g : α → β) (m : Merged α) : (m.map g).row = g m.row := by
  cases m <;> rfl

/-- A check that reports the first fault of its parts finds none when no part has one. -/
theorem foldl_or_eq_none {β γ : Type} (g : β → Option γ) :
    ∀ {l : List β}, (∀ b ∈ l, g b = none) → l.foldl (fun found b => found.or (g b)) none = none
  | [], _ => rfl
  | b :: l, h => by
    simp only [List.foldl_cons, h b List.mem_cons_self, Option.or_none]
    exact foldl_or_eq_none g fun b' hb' => h b' (List.mem_cons_of_mem b hb')

open Versioned

/-- The laws of a versioned row type: restamping sets the range and nothing else, and a merge
keeps the key and the range of the version merged into and does not look at that range. -/
class LawfulVersioned (α : Type) [Versioned α] : Prop where
  key_withRange (r : α) (t : Option TimestampRange) : key (withRange r t) = key r
  range_withRange (r : α) (t : Option TimestampRange) : range (withRange r t) = t
  withRange_withRange (r : α) (t t' : Option TimestampRange) :
    withRange (withRange r t) t' = withRange r t'
  withRange_range (r : α) : withRange r (range r) = r
  key_merge (c u : α) : key u = key c → key (merge c u).row = key c
  range_merge (c u : α) : range (merge c u).row = range c
  merge_withRange (c u : α) (t : Option TimestampRange) :
    merge (withRange c t) u = (merge c u).map (withRange · t)

namespace HistoryTable

variable {α : Type} [Versioned α]

/-! ### One key's transition -/

/-- `mergeInPlace` on the version list: the current version merged, restamped when it had no
range, the fault if a balance overflowed. -/
def mergeLast (older : List α) (current update : α) (restamp : Option TimestampRange) :
    List α × Option LedgerFault :=
  match merge current update with
  | .ok row =>
    let row := match restamp with
      | some r => withRange row (some r)
      | none => row
    (older ++ [row], none)
  | .overflow row o => (older ++ [row], some (.overflow o))

/-- The versions of key `k` after `update`, when they change, and the fault, if any. -/
def revise (k : RowKey) (versions : List α) (update : α) : Option (List α) × Option LedgerFault :=
  match versions.getLast? with
  | none => (some [update], none)
  | some current =>
    let older := versions.dropLast
    match range update with
    | none => (mergeLast older current update none).map some id
    | some r =>
      match range current with
      | none => (mergeLast older current update (some r)).map some id
      | some cr =>
        if cr.lower = r.lower then (mergeLast older current update none).map some id
        else if r.lower < cr.lower then (none, some (.outOfOrder (RowKey.debug k) r.lower cr.lower))
        else
          match merge current update with
          | .ok next =>
            (some (older ++ [withRange current (some (TimestampRange.closed cr.lower r.lower)),
              withRange next (some r)]), none)
          | .overflow _ o => (none, some (.overflow o))

theorem mergeInPlace_eq (t : HistoryTable α) (k : RowKey) (older : List α) (current update : α)
    (restamp : Option TimestampRange) :
    t.mergeInPlace k older current update restamp =
      (t.store k (mergeLast older current update restamp).1,
        (mergeLast older current update restamp).2) := by
  unfold mergeInPlace mergeLast
  cases merge current update <;> rfl

/-- `apply` writes back what `revise` decides for the update's key. -/
theorem apply_eq_revise (t : HistoryTable α) (update : α) :
    t.apply update =
      match revise (key update) (t.history (key update)) update with
      | (some vs, f) => (t.store (key update) vs, f)
      | (none, f) => (t, f) := by
  unfold apply revise
  simp only [mergeInPlace_eq]
  cases (t.history (key update)).getLast? with
  | none => rfl
  | some current =>
    dsimp only
    cases range update with
    | none => rfl
    | some r =>
      dsimp only
      cases range current with
      | none => rfl
      | some cr =>
        dsimp only
        by_cases heq : cr.lower = r.lower
        · simp only [heq, if_true]
          rfl
        · by_cases hlt : r.lower < cr.lower
          · simp only [heq, hlt, if_true, if_false]
          · simp only [heq, hlt, if_false]
            cases merge current update <;> rfl

/-- What an update that changes the versions did: it started them, merged into the current
version (restamping it only when that had no range), or closed the current version where the
update begins and opened the merged row there. -/
theorem revise_eq_some {k : RowKey} {vs vs' : List α} {u : α} {f : Option LedgerFault}
    (h : revise k vs u = (some vs', f)) :
    (vs = [] ∧ vs' = [u] ∧ f = none) ∨
    (∃ cur, vs.getLast? = some cur ∧
      ((mergeLast vs.dropLast cur u none = (vs', f) ∧
          (range u = none ∨ ∃ cr r, range cur = some cr ∧ range u = some r ∧ cr.lower = r.lower)) ∨
        (range cur = none ∧ mergeLast vs.dropLast cur u (range u) = (vs', f)))) ∨
    (∃ cur next cr r, vs.getLast? = some cur ∧ range cur = some cr ∧ range u = some r ∧
      cr.lower < r.lower ∧ merge cur u = .ok next ∧ f = none ∧
      vs' = vs.dropLast ++ [withRange cur (some (TimestampRange.closed cr.lower r.lower)),
        withRange next (some r)]) := by
  have hmap : ∀ p : List α × Option LedgerFault, p.map some id = (some vs', f) → p = (vs', f) := by
    rintro ⟨a, b⟩ hp
    simpa using hp
  unfold revise at h
  cases hcur : vs.getLast? with
  | none =>
    simp only [hcur, Prod.mk.injEq, Option.some.injEq] at h
    exact .inl ⟨List.getLast?_eq_none_iff.1 hcur, h.1.symm, h.2.symm⟩
  | some cur =>
    simp only [hcur] at h
    refine .inr ?_
    cases hu : range u with
    | none =>
      simp only [hu] at h
      exact .inl ⟨cur, rfl, .inl ⟨hmap _ h, .inl rfl⟩⟩
    | some r =>
      simp only [hu] at h
      cases hc : range cur with
      | none =>
        simp only [hc] at h
        exact .inl ⟨cur, rfl, .inr ⟨hc, hmap _ h⟩⟩
      | some cr =>
        simp only [hc] at h
        by_cases heq : cr.lower = r.lower
        · simp only [heq, if_true] at h
          exact .inl ⟨cur, rfl, .inl ⟨hmap _ h, .inr ⟨cr, r, hc, rfl, heq⟩⟩⟩
        · by_cases hlt : r.lower < cr.lower
          · simp [heq, hlt] at h
          · simp only [heq, hlt, if_false] at h
            cases hm : merge cur u with
            | ok next =>
              simp only [hm, Prod.mk.injEq, Option.some.injEq] at h
              exact .inr ⟨cur, next, cr, r, rfl, hc, rfl, by omega, hm, h.2.symm, h.1.symm⟩
            | overflow row o => simp [hm] at h

/-- An update that leaves the versions alone was refused as out of order, starting before the
current version, or its merge into a new version overflowed. -/
theorem revise_eq_none {k : RowKey} {vs : List α} {u : α} {f : Option LedgerFault}
    (h : revise k vs u = (none, f)) :
    (∃ cur cr r, vs.getLast? = some cur ∧ range cur = some cr ∧ range u = some r ∧
      r.lower < cr.lower ∧ f = some (.outOfOrder (RowKey.debug k) r.lower cr.lower)) ∨
    (∃ o, f = some (.overflow o)) := by
  have hmap : ∀ p : List α × Option LedgerFault, p.map some id ≠ (none, f) := by
    rintro ⟨a, b⟩ hp
    simp at hp
  unfold revise at h
  cases hcur : vs.getLast? with
  | none => simp [hcur] at h
  | some cur =>
    simp only [hcur] at h
    cases hu : range u with
    | none => simp only [hu] at h; exact absurd h (hmap _)
    | some r =>
      simp only [hu] at h
      cases hc : range cur with
      | none => simp only [hc] at h; exact absurd h (hmap _)
      | some cr =>
        simp only [hc] at h
        by_cases heq : cr.lower = r.lower
        · simp only [heq, if_true] at h
          exact absurd h (hmap _)
        · by_cases hlt : r.lower < cr.lower
          · simp only [heq, hlt, if_true, if_false, Prod.mk.injEq] at h
            exact .inl ⟨cur, cr, r, rfl, hc, rfl, hlt, h.2.symm⟩
          · simp only [heq, hlt, if_false] at h
            cases hm : merge cur u with
            | ok next => simp [hm] at h
            | overflow row o =>
              simp only [hm, Prod.mk.injEq] at h
              exact .inr ⟨o, h.2.symm⟩

/-- A merge in place refuses nothing: its only fault is an overflow. -/
theorem mergeLast_fault {older : List α} {cur u : α} {restamp : Option TimestampRange}
    {f : LedgerFault} (h : (mergeLast older cur u restamp).2 = some f) : ∃ o, f = .overflow o := by
  unfold mergeLast at h
  split at h
  · cases h
  · cases h
    exact ⟨_, rfl⟩

/-! ### The representation invariant -/

variable [LawfulVersioned α]

open LawfulVersioned

/-- Version `a` is closed exactly where version `b` begins, after it begins. -/
def Abuts (a b : α) : Prop :=
  ∃ la lb, range a = some (TimestampRange.closed la lb) ∧ la < lb ∧
    (range b).map (·.lower) = some lb

/-- The representation invariant of the versions of key `k`. -/
structure Valid (k : RowKey) (vs : List α) : Prop where
  ne_nil : vs ≠ []
  key_eq : ∀ v ∈ vs, key v = k
  unranged : ∀ v ∈ vs, range v = none → vs = [v]
  abuts : vs.IsChain Abuts

omit [LawfulVersioned α] in
theorem abuts_congr_right {a b b' : α}
    (h : (range b).map (·.lower) = (range b').map (·.lower)) : Abuts a b ↔ Abuts a b' := by
  simp only [Abuts, h]

omit [LawfulVersioned α] in
theorem valid_singleton {k : RowKey} {u : α} (hk : key u = k) : Valid k [u] where
  ne_nil := List.cons_ne_nil u []
  key_eq v hv := by rw [List.mem_singleton.1 hv]; exact hk
  unranged v hv _ := by rw [List.mem_singleton.1 hv]
  abuts := .singleton u

omit [LawfulVersioned α] in
/-- Only the current version may lack a range, and then nothing precedes it. -/
theorem Valid.older_nil {k : RowKey} {older : List α} {cur : α} (h : Valid k (older ++ [cur]))
    (hv : ∃ v ∈ older ++ [cur], range v = none) : older = [] := by
  obtain ⟨v, hv, hnone⟩ := hv
  have hone := h.unranged v hv hnone
  rw [List.append_eq_singleton_iff] at hone
  rcases hone with ⟨hnil, -⟩ | ⟨-, hcons⟩
  · exact hnil
  · cases hcons

omit [LawfulVersioned α] in
/-- The current version replaced by one of the same key and range. -/
theorem Valid.replaceLast {k : RowKey} {older : List α} {cur row : α}
    (h : Valid k (older ++ [cur])) (hk : key row = k) (hr : range row = range cur) :
    Valid k (older ++ [row]) where
  ne_nil := by simp
  key_eq v hv := by
    rcases List.mem_append.1 hv with hv | hv
    · exact h.key_eq v (List.mem_append_left _ hv)
    · rw [List.mem_singleton.1 hv]
      exact hk
  unranged v hv hnone := by
    rcases List.mem_append.1 hv with hv | hv
    · have hnil := h.older_nil ⟨v, List.mem_append_left _ hv, hnone⟩
      simp [hnil] at hv
    · have hnil := h.older_nil ⟨cur, by simp, by rw [← hr, ← List.mem_singleton.1 hv, hnone]⟩
      rw [hnil, List.mem_singleton.1 hv]
      rfl
  abuts := by
    have hc := List.isChain_append.1 h.abuts
    refine List.isChain_append.2 ⟨hc.1, .singleton row, ?_⟩
    intro x hx y hy
    rw [List.head?_cons, Option.mem_some_iff] at hy
    rw [← hy]
    exact (abuts_congr_right (congrArg (Option.map (·.lower)) hr)).2 (hc.2.2 x hx cur rfl)

/-- The current version closed where a later update begins, and the merged row opened there. -/
theorem Valid.push {k : RowKey} {older : List α} {cur next : α} {cr r : TimestampRange}
    (h : Valid k (older ++ [cur])) (hcr : range cur = some cr) (hlt : cr.lower < r.lower)
    (hk : key next = k) :
    Valid k (older ++ [withRange cur (some (TimestampRange.closed cr.lower r.lower)),
      withRange next (some r)]) where
  ne_nil := by simp
  key_eq v hv := by
    simp only [List.mem_append, List.mem_cons, List.not_mem_nil, or_false] at hv
    rcases hv with hv | rfl | rfl
    · exact h.key_eq v (List.mem_append_left _ hv)
    · rw [key_withRange]
      exact h.key_eq cur (by simp)
    · rw [key_withRange]
      exact hk
  unranged v hv hnone := by
    simp only [List.mem_append, List.mem_cons, List.not_mem_nil, or_false] at hv
    rcases hv with hv | rfl | rfl
    · have hnil := h.older_nil ⟨v, List.mem_append_left _ hv, hnone⟩
      simp [hnil] at hv
    · simp [range_withRange] at hnone
    · simp [range_withRange] at hnone
  abuts := by
    have hc := List.isChain_append.1 h.abuts
    refine List.isChain_append.2 ⟨hc.1, ?_, ?_⟩
    · rw [List.isChain_pair]
      exact ⟨cr.lower, r.lower, range_withRange _ _, hlt, by simp [range_withRange]⟩
    · intro x hx y hy
      rw [List.head?_cons, Option.mem_some_iff] at hy
      have hlow : (range (withRange cur (some (TimestampRange.closed cr.lower r.lower)))).map
          (·.lower) = (range cur).map (·.lower) := by
        rw [range_withRange, hcr]
        rfl
      rw [← hy]
      exact (abuts_congr_right hlow).2 (hc.2.2 x hx cur rfl)

theorem key_row_of_merge_eq {c u : α} {m : Merged α} (h : merge c u = m) (hk : key u = key c) :
    key m.row = key c :=
  h ▸ key_merge c u hk

theorem range_row_of_merge_eq {c u : α} {m : Merged α} (h : merge c u = m) :
    range m.row = range c :=
  h ▸ range_merge c u

/-- What a merge in place leaves last: the merged row, restamped when asked and merged. -/
theorem mergeLast_eq (older : List α) (cur u : α) (restamp : Option TimestampRange) :
    ∃ row, (mergeLast older cur u restamp).1 = older ++ [row] ∧ key row = key (merge cur u).row ∧
      (range row = range cur ∨ ∃ r, restamp = some r ∧ range row = some r) := by
  unfold mergeLast
  split
  · next row hrow =>
    cases restamp with
    | none => exact ⟨row, rfl, by rw [hrow]; rfl, .inl (by rw [← range_row_of_merge_eq hrow]; rfl)⟩
    | some r => exact ⟨_, rfl, by rw [key_withRange, hrow]; rfl, .inr ⟨r, rfl, range_withRange _ _⟩⟩
  · next row o hrow =>
    exact ⟨row, rfl, by rw [hrow]; rfl, .inl (by rw [← range_row_of_merge_eq hrow]; rfl)⟩

/-- A merge in place keeps the invariant, restamping only a current version without range. -/
theorem Valid.mergeLast {k : RowKey} {older : List α} {cur u : α}
    {restamp : Option TimestampRange} (h : Valid k (older ++ [cur])) (hk : key u = k)
    (hr : restamp = none ∨ range cur = none) : Valid k (mergeLast older cur u restamp).1 := by
  obtain ⟨row, hrow, hkey, hrange⟩ := mergeLast_eq older cur u restamp
  have hcur : key cur = k := h.key_eq cur (by simp)
  have hkr : key row = k := by rw [hkey, key_merge cur u (by rw [hk, hcur]), hcur]
  rw [hrow]
  rcases hrange with hrange | ⟨r, rfl, -⟩
  · exact h.replaceLast hkr hrange
  · have hnil := h.older_nil ⟨cur, by simp, hr.resolve_left (Option.some_ne_none r)⟩
    subst hnil
    exact valid_singleton hkr

omit [LawfulVersioned α] in
theorem Valid.of_getLast? {k : RowKey} {vs : List α} {cur : α} (hvs : vs = [] ∨ Valid k vs)
    (hcur : vs.getLast? = some cur) : Valid k (vs.dropLast ++ [cur]) := by
  obtain ⟨ys, rfl⟩ := List.getLast?_eq_some_iff.1 hcur
  rcases hvs with hnil | hvs
  · simp at hnil
  · simpa using hvs

/-- Every update keeps the representation invariant of its key, whether it is accepted, refused
as out of order, or stopped by an overflow. -/
theorem valid_revise {k : RowKey} {vs vs' : List α} {u : α} {f : Option LedgerFault}
    (hvs : vs = [] ∨ Valid k vs) (hk : key u = k) (h : revise k vs u = (some vs', f)) :
    Valid k vs' := by
  rcases revise_eq_some h with ⟨-, rfl, -⟩ | ⟨cur, hcur, ⟨hm, -⟩ | ⟨hc, hm⟩⟩ |
    ⟨cur, next, cr, r, hcur, hcr, -, hlt, hnext, -, rfl⟩
  · exact valid_singleton hk
  · rw [show vs' = _ from congrArg Prod.fst hm.symm]
    exact (Valid.of_getLast? hvs hcur).mergeLast hk (.inl rfl)
  · rw [show vs' = _ from congrArg Prod.fst hm.symm]
    exact (Valid.of_getLast? hvs hcur).mergeLast hk (.inr hc)
  · have hv := Valid.of_getLast? hvs hcur
    have hcurk : key cur = k := hv.key_eq cur (by simp)
    have hkn : key next = k := by
      rw [← hcurk]
      exact key_row_of_merge_eq hnext (by rw [hk, hcurk])
    exact hv.push hcr hlt hkn

/-! ### Lower bounds -/

/-- The lower bounds of the ranged versions, oldest first. -/
def lowers (vs : List α) : List Int := vs.filterMap fun v => (range v).map (·.lower)

omit [LawfulVersioned α] in
theorem mem_lowers {vs : List α} {x : Int} :
    x ∈ lowers vs ↔ ∃ v ∈ vs, ∃ r, range v = some r ∧ r.lower = x := by
  simp [lowers]

omit [LawfulVersioned α] in
theorem lowers_dropLast_append {vs : List α} {cur row : α} (hcur : vs.getLast? = some cur)
    (hr : range row = range cur) {x : Int} (hx : x ∈ lowers (vs.dropLast ++ [row])) :
    x ∈ lowers vs := by
  rw [← List.dropLast_append_getLast? cur hcur, lowers, List.filterMap_append]
  rw [lowers, List.filterMap_append] at hx
  simpa [hr] using hx

/-- The lower bounds after an update were there before, or are the update's own. -/
theorem lowers_revise {k : RowKey} {vs vs' : List α} {u : α} {f : Option LedgerFault}
    (h : revise k vs u = (some vs', f)) {x : Int} (hx : x ∈ lowers vs') :
    x ∈ lowers vs ∨ (range u).map (·.lower) = some x := by
  rcases revise_eq_some h with ⟨-, rfl, -⟩ | ⟨cur, hcur, ⟨hm, -⟩ | ⟨-, hm⟩⟩ |
    ⟨cur, next, cr, r, hcur, hcr, hr, -, -, -, rfl⟩
  · right
    simpa [lowers] using hx
  · obtain ⟨row, hrow, -, hrange⟩ := mergeLast_eq vs.dropLast cur u none
    rw [show vs' = _ from congrArg Prod.fst hm.symm, hrow] at hx
    rcases hrange with hrange | ⟨r, hr, -⟩
    · exact .inl (lowers_dropLast_append hcur hrange hx)
    · cases hr
  · obtain ⟨row, hrow, -, hrange⟩ := mergeLast_eq vs.dropLast cur u (range u)
    rw [show vs' = _ from congrArg Prod.fst hm.symm, hrow] at hx
    rcases hrange with hrange | ⟨r, hr, hrow⟩
    · exact .inl (lowers_dropLast_append hcur hrange hx)
    · rw [lowers, List.filterMap_append] at hx
      rcases List.mem_append.1 hx with hx | hx
      · left
        rw [← List.dropLast_append_getLast? cur hcur, lowers, List.filterMap_append]
        exact List.mem_append_left _ hx
      · right
        simp only [List.filterMap_cons, List.filterMap_nil, hrow, Option.map_some,
          List.mem_singleton] at hx
        rw [hr, hx]
        rfl
  · rw [lowers, List.filterMap_append] at hx
    rcases List.mem_append.1 hx with hx | hx
    · left
      rw [← List.dropLast_append_getLast? cur hcur, lowers, List.filterMap_append]
      exact List.mem_append_left _ hx
    · simp only [List.filterMap_cons, List.filterMap_nil, range_withRange, Option.map_some,
        List.mem_cons, List.not_mem_nil, or_false] at hx
      rcases hx with rfl | rfl
      · left
        exact mem_lowers.2 ⟨cur, List.mem_of_getLast? hcur, cr, hcr, rfl⟩
      · right
        rw [hr]
        rfl

omit [LawfulVersioned α] in
/-- An update is refused as out of order only when it starts before some version does. -/
theorem revise_outOfOrder {k : RowKey} {vs : List α} {u : α} {key' : String} {t c : Int}
    (h : (revise k vs u).2 = some (.outOfOrder key' t c)) :
    ∃ r, range u = some r ∧ ∃ x ∈ lowers vs, r.lower < x := by
  rcases hrev : revise k vs u with ⟨o, f⟩
  rw [hrev] at h
  cases o with
  | some vs' =>
    rcases revise_eq_some hrev with ⟨-, -, rfl⟩ | ⟨cur, -, ⟨hm, -⟩ | ⟨-, hm⟩⟩ |
      ⟨-, -, -, -, -, -, -, -, -, rfl, -⟩
    · cases h
    · obtain ⟨o, ho⟩ := mergeLast_fault (by rw [hm]; exact h)
      cases ho
    · obtain ⟨o, ho⟩ := mergeLast_fault (by rw [hm]; exact h)
      cases ho
    · cases h
  | none =>
    rcases revise_eq_none hrev with ⟨cur, cr, r, hcur, hcr, hr, hlt, -⟩ | ⟨o, rfl⟩
    · exact ⟨r, hr, cr.lower, mem_lowers.2 ⟨cur, List.mem_of_getLast? hcur, cr, hcr, rfl⟩, hlt⟩
    · cases h

omit [LawfulVersioned α] in
theorem isChain_lowers {vs : List α} (h : vs.IsChain Abuts) (hr : ∀ v ∈ vs, range v ≠ none) :
    (lowers vs).IsChain (· < ·) := by
  induction h with
  | nil => exact .nil
  | singleton a =>
    cases ha : range a <;> simp [lowers, ha]
  | cons_cons hab hbl ih =>
    rename_i a b l
    obtain ⟨la, lb, ha, hlt, hb⟩ := hab
    obtain ⟨rb, hrb, rfl⟩ := Option.map_eq_some_iff.1 hb
    have ih' := ih fun v hv => hr v (List.mem_cons_of_mem a hv)
    simp only [lowers, List.filterMap_cons, ha, hrb, Option.map_some] at ih' ⊢
    exact List.IsChain.cons_cons hlt ih'

omit [LawfulVersioned α] in
/-- The lower bounds of a key's versions ascend strictly. -/
theorem Valid.lowers_pairwise {k : RowKey} {vs : List α} (h : Valid k vs) :
    (lowers vs).Pairwise (· < ·) := by
  by_cases hranged : ∀ v ∈ vs, range v ≠ none
  · exact List.isChain_iff_pairwise.1 (isChain_lowers h.abuts hranged)
  · obtain ⟨v, hv, hv'⟩ : ∃ v ∈ vs, range v = none := by simpa using hranged
    rw [h.unranged v hv hv']
    simp [lowers, hv']

omit [LawfulVersioned α] in
/-- Abutting versions pass the check of consecutive versions. -/
theorem checkPairs_eq_none (k : RowKey) {vs : List α} (h : vs.IsChain Abuts) :
    checkPairs k vs = none := by
  induction h with
  | nil => rfl
  | singleton a => rfl
  | cons_cons hab hbl ih =>
    rename_i a b l
    obtain ⟨la, lb, ha, hlt, hb⟩ := hab
    obtain ⟨rb, hrb, rfl⟩ := Option.map_eq_some_iff.1 hb
    have hno : ((TimestampRange.closed la rb.lower).overlaps rb ||
        decide (rb.lower < (TimestampRange.closed la rb.lower).lower)) = false := by
      have hnlt : ¬rb.lower < la := by omega
      simp [TimestampRange.overlaps, TimestampRange.closed, hnlt]
    simp only [checkPairs, ha, hrb, hno, Bool.false_eq_true, if_false]
    exact ih

/-! ### Tables -/

/-- Every key's versions satisfy the representation invariant. -/
def WellFormed (t : HistoryTable α) : Prop :=
  ∀ k vs, (k, vs) ∈ t.rows.entries → Valid k vs

omit [LawfulVersioned α] in
theorem wellFormed_empty : WellFormed ({} : HistoryTable α) := by
  intro k vs h
  cases h

omit [Versioned α] [LawfulVersioned α] in
/-- A key's versions are stored under it, or it has none. -/
theorem history_eq_nil_or_mem (t : HistoryTable α) (k : RowKey) :
    t.history k = [] ∨ (k, t.history k) ∈ t.rows.entries := by
  unfold history
  cases h : t.rows.get? RowKey.compare k with
  | none => exact .inl rfl
  | some vs => exact .inr (SortedMap.get?_eq_some h)

omit [LawfulVersioned α] in
theorem WellFormed.history {t : HistoryTable α} (h : WellFormed t) (k : RowKey) :
    t.history k = [] ∨ Valid k (t.history k) :=
  (history_eq_nil_or_mem t k).imp_right (h k _)

omit [LawfulVersioned α] in
/-- After an update, a key's versions are as before, or are what `revise` made of the update's
key. -/
theorem mem_entries_apply {t : HistoryTable α} {u : α} {k : RowKey} {vs : List α}
    (h : (k, vs) ∈ (t.apply u).1.rows.entries) :
    (k, vs) ∈ t.rows.entries ∨
      (k = key u ∧ ∃ f, revise (key u) (t.history (key u)) u = (some vs, f)) := by
  rw [apply_eq_revise] at h
  rcases hrev : revise (key u) (t.history (key u)) u with ⟨o, f⟩
  rw [hrev] at h
  cases o with
  | none => exact .inl h
  | some vs' =>
    rcases SortedMap.mem_insert h with heq | h
    · obtain ⟨rfl, rfl⟩ := Prod.mk.inj heq
      exact .inr ⟨rfl, f, rfl⟩
    · exact .inl h

omit [LawfulVersioned α] in
theorem apply_fault (t : HistoryTable α) (u : α) :
    (t.apply u).2 = (revise (key u) (t.history (key u)) u).2 := by
  rw [apply_eq_revise]
  obtain ⟨o, f⟩ := revise (key u) (t.history (key u)) u
  cases o <;> rfl

/-- Every update keeps every key's representation invariant. -/
theorem WellFormed.apply {t : HistoryTable α} (h : WellFormed t) (u : α) :
    WellFormed (t.apply u).1 := by
  intro k vs hmem
  rcases mem_entries_apply hmem with hmem | ⟨rfl, f, hrev⟩
  · exact h k vs hmem
  · exact valid_revise ((h.history (key u)).imp_right id) rfl hrev

omit [LawfulVersioned α] in
/-- A well-formed table passes its own check. -/
theorem WellFormed.validate {t : HistoryTable α} (h : WellFormed t) : t.validate = none := by
  unfold HistoryTable.validate
  exact foldl_or_eq_none (fun e : RowKey × List α => checkPairs e.1 e.2) fun e he =>
    checkPairs_eq_none e.1 (h e.1 e.2 he).abuts

/-- A lower bound after an update was one before, or is the update's own. -/
theorem lowers_apply {t : HistoryTable α} {u : α} {k : RowKey} {vs : List α}
    (h : (k, vs) ∈ (t.apply u).1.rows.entries) {x : Int} (hx : x ∈ lowers vs) :
    (∃ vs₀, (k, vs₀) ∈ t.rows.entries ∧ x ∈ lowers vs₀) ∨ (range u).map (·.lower) = some x := by
  rcases mem_entries_apply h with hmem | ⟨rfl, f, hrev⟩
  · exact .inl ⟨vs, hmem, hx⟩
  · rcases lowers_revise hrev hx with hx | hx
    · rcases history_eq_nil_or_mem t (key u) with hnil | hmem
      · simp [hnil, lowers] at hx
      · exact .inl ⟨_, hmem, hx⟩
    · exact .inr hx

omit [LawfulVersioned α] in
/-- An update that starts no earlier than every version of the table is not refused as out of
order. -/
theorem apply_ne_outOfOrder {t : HistoryTable α} {u : α}
    (hu : ∀ r, range u = some r → ∀ k vs, (k, vs) ∈ t.rows.entries → ∀ x ∈ lowers vs,
      x ≤ r.lower)
    (key' : String) (ts c : Int) : (t.apply u).2 ≠ some (.outOfOrder key' ts c) := by
  intro h
  rw [apply_fault] at h
  obtain ⟨r, hr, x, hx, hlt⟩ := revise_outOfOrder h
  rcases history_eq_nil_or_mem t (key u) with hnil | hmem
  · simp [hnil, lowers] at hx
  · exact absurd (hu r hr _ _ hmem x hx) (by omega)

end HistoryTable

end LedgerProjection
