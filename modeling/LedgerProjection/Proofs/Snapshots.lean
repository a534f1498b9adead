import Mathlib
import LedgerProjection.Proofs.Tables

/-!
# Versions as snapshots of a fold

Merge the updates a key has received, oldest first, into one row (`HistoryTable.accumulate`).
When every update was accepted, the key's versions are snapshots of that fold
(`HistoryTable.Snapshots`): the current version holds the fold of all the updates, and a
version that was closed holds the fold of the updates before the one that closed it, the
first update starting after it (`HistoryTable.closer`). Ranges apart, nothing else is in a
version: no update is merged into a closed version, none is lost, none is merged twice.
`HistoryTable.snapshots_revise` proves this for one update, whichever branch of `apply` it
takes; `HistoryTable.Tracks.receive` for a whole table.

The fold is field-wise (`HistoryTable.FieldwiseFold`): a field that merges overwrite holds the
last value an update gave it, a balance is the sum of the changes the updates carried (absent
while none carried one), and a row that merges replace is the last update.

`Ledger.receive_history_snapshots` says all of it of the ledger's twelve tables, and of its
contracts, whose sources are merged field by field.
-/

namespace LedgerProjection

open Versioned

/-- The merged row, unless a balance overflowed. -/
def Merged.ok? {α : Type} : Merged α → Option α
  | .ok r => some r
  | .overflow _ _ => none

theorem Merged.ok?_eq_some {α : Type} {m : Merged α} {r : α} :
    m.ok? = some r ↔ m = .ok r := by
  cases m <;> simp [Merged.ok?]

/-- The last value given, after one more update. -/
theorem getLast?_filterMap_append {β γ : Type} (get : β → Option γ) (us : List β) (u : β) :
    ((us ++ [u]).filterMap get).getLast? = (get u).or (us.filterMap get).getLast? := by
  cases h : get u <;> simp [List.filterMap_append, h]

namespace HistoryTable

variable {α : Type} [Versioned α] [LawfulVersioned α]

open LawfulVersioned

/-! ### Rows without their ranges -/

/-- A row with its range removed: what two versions are compared on. -/
def strip (r : α) : α := withRange r none

@[simp]
theorem strip_withRange (r : α) (t : Option TimestampRange) : strip (withRange r t) = strip r := by
  simp only [strip, withRange_withRange]

/-- A row is its stripped row restamped with its range. -/
theorem eq_withRange_of_strip {a b : α} (h : strip a = strip b) : a = withRange b (range a) := by
  calc a = withRange (strip a) (range a) := by rw [strip, withRange_withRange, withRange_range]
    _ = withRange b (range a) := by rw [h, strip, withRange_withRange]

/-! ### The fold of a key's updates -/

/-- The updates merged into one row, oldest first: the first update with each later one merged
into it; `none` if a merge overflows, or if there is no update. -/
def accumulate : List α → Option α
  | [] => none
  | u :: us => us.foldlM (fun c u => (merge c u).ok?) u

omit [LawfulVersioned α] in
@[simp]
theorem accumulate_singleton (u : α) : accumulate [u] = some u := rfl

omit [LawfulVersioned α] in
theorem accumulate_append {us : List α} (h : us ≠ []) (u : α) :
    accumulate (us ++ [u]) = (accumulate us).bind fun c => (merge c u).ok? := by
  obtain ⟨v, vs, rfl⟩ := List.exists_cons_of_ne_nil h
  simp [accumulate, List.foldlM_append]

omit [LawfulVersioned α] in
theorem ne_nil_of_accumulate {us : List α} {F : α} (h : accumulate us = some F) : us ≠ [] := by
  rintro rfl
  cases h

/-- Merging into a version with the fold's fields gives the next fold's fields. -/
theorem accumulate_append_of_merge {us : List α} {F cur row u : α}
    (hF : accumulate us = some F) (hcur : strip cur = strip F) (hrow : merge cur u = .ok row) :
    ∃ F', accumulate (us ++ [u]) = some F' ∧ strip row = strip F' := by
  have hm : merge cur u = (merge F u).map (withRange · (range cur)) := by
    rw [← merge_withRange, ← eq_withRange_of_strip hcur]
  rw [hm] at hrow
  cases hF' : merge F u with
  | overflow _ _ =>
    rw [hF'] at hrow
    cases hrow
  | ok F' =>
    rw [hF'] at hrow
    cases hrow
    refine ⟨F', ?_, strip_withRange F' _⟩
    rw [accumulate_append (ne_nil_of_accumulate hF), hF, Option.bind_some, hF']
    rfl

/-! ### The update that closes a version -/

/-- The update starts after instant `t`. -/
def startsAfter (t : Int) (u : α) : Bool := (range u).any fun r => decide (t < r.lower)

/-- The position of the first update that starts after `t`: the update that closes a version
starting at `t`. -/
def closer (t : Int) (us : List α) : Nat := us.findIdx (startsAfter t)

omit [LawfulVersioned α] in
theorem closer_append {t : Int} {us : List α} (h : closer t us < us.length) (u : α) :
    closer t (us ++ [u]) = closer t us := by
  simp only [closer] at h ⊢
  rw [List.findIdx_append, if_pos h]

omit [LawfulVersioned α] in
/-- An update starting after every earlier one closes the current version. -/
theorem closer_append_eq_length {t : Int} {us : List α} {u : α}
    (hus : ∀ v ∈ us, startsAfter t v = false) (hu : startsAfter t u = true) :
    closer t (us ++ [u]) = us.length := by
  simp only [closer]
  rw [List.findIdx_append, List.findIdx_eq_length.2 hus, if_neg (lt_irrefl _)]
  simp [hu]

/-! ### One key -/

/-- `v` holds the fold of the updates before the one that closed it. -/
def ClosedBy (us : List α) (v : α) : Prop :=
  ∃ r, range v = some r ∧ closer r.lower us < us.length ∧
    ∃ F, accumulate (us.take (closer r.lower us)) = some F ∧ strip v = strip F

omit [LawfulVersioned α] in
/-- A later update does not move the update that closed a version. -/
theorem ClosedBy.append {us : List α} {v : α} (h : ClosedBy us v) (u : α) :
    ClosedBy (us ++ [u]) v := by
  obtain ⟨r, hr, hlt, F, hF, hv⟩ := h
  refine ⟨r, hr, ?_, F, ?_, hv⟩
  · rw [closer_append hlt, List.length_append]
    omega
  · rw [closer_append hlt, List.take_append_of_le_length hlt.le]
    exact hF

/-- The versions `vs` of a key are the snapshots of the fold of its updates `us`. -/
structure Snapshots (vs us : List α) : Prop where
  /-- The current version holds the fold of every update. -/
  current : ∃ cur F, vs.getLast? = some cur ∧ accumulate us = some F ∧ strip cur = strip F
  /-- Every closed version holds the fold of the updates before the one that closed it. -/
  closed : ∀ v ∈ vs.dropLast, ClosedBy us v
  /-- No update starts after the current version. -/
  bounded : ∀ u ∈ us, ∀ r, range u = some r →
    ∃ cur cr, vs.getLast? = some cur ∧ range cur = some cr ∧ r.lower ≤ cr.lower

omit [LawfulVersioned α] in
theorem snapshots_singleton (u : α) : Snapshots [u] [u] where
  current := ⟨u, u, rfl, rfl, rfl⟩
  closed v hv := by simp at hv
  bounded v hv r hr := by
    obtain rfl := List.mem_singleton.1 hv
    exact ⟨v, r, rfl, hr, Int.le_refl _⟩

omit [LawfulVersioned α] in
theorem Snapshots.startsAfter_eq_false {vs us : List α} (hs : Snapshots vs us) {cur : α}
    {cr : TimestampRange} (hcur : vs.getLast? = some cur) (hcr : range cur = some cr) :
    ∀ v ∈ us, startsAfter cr.lower v = false := by
  intro v hv
  cases hr : range v with
  | none => simp [startsAfter, hr]
  | some r =>
    obtain ⟨cur', cr', hcur', hcr', hle⟩ := hs.bounded v hv r hr
    rw [hcur] at hcur'
    cases hcur'
    rw [hcr] at hcr'
    cases hcr'
    simp [startsAfter, hr, hle]

/-- An update merged into the current version, which keeps its range or takes the update's:
the closed versions are untouched and the current one moves on to the next fold. -/
theorem Snapshots.mergeInPlace {vs us : List α} {cur u row last : α} (hs : Snapshots vs us)
    (hcur : vs.getLast? = some cur) (hrow : merge cur u = .ok row)
    (hlast : strip last = strip row) (hkeep : ∀ cr, range cur = some cr → range last = some cr)
    (hu : ∀ r, range u = some r → ∃ cr, range last = some cr ∧ r.lower ≤ cr.lower) :
    Snapshots (vs.dropLast ++ [last]) (us ++ [u]) where
  current := by
    obtain ⟨cur', F, hcur', hF, hstrip⟩ := hs.current
    rw [hcur] at hcur'
    cases hcur'
    obtain ⟨F', hF', hrowF'⟩ := accumulate_append_of_merge hF hstrip hrow
    exact ⟨last, F', by simp, hF', hlast.trans hrowF'⟩
  closed v hv := by
    rw [List.dropLast_concat] at hv
    exact (hs.closed v hv).append u
  bounded v hv r hr := by
    rcases List.mem_append.1 hv with hv | hv
    · obtain ⟨cur', cr, hcur', hcr, hle⟩ := hs.bounded v hv r hr
      rw [hcur] at hcur'
      cases hcur'
      exact ⟨last, cr, by simp, hkeep cr hcr, hle⟩
    · rw [List.mem_singleton.1 hv] at hr
      obtain ⟨cr, hcr, hle⟩ := hu r hr
      exact ⟨last, cr, by simp, hcr, hle⟩

/-- An update starting after the current version closes it where the update starts: the
closed version holds the fold of every earlier update, the new one the fold of all. -/
theorem Snapshots.push {vs us : List α} {cur u next : α} {cr r : TimestampRange}
    (hs : Snapshots vs us) (hcur : vs.getLast? = some cur) (hcr : range cur = some cr)
    (hr : range u = some r) (hlt : cr.lower < r.lower) (hnext : merge cur u = .ok next) :
    Snapshots (vs.dropLast ++ [withRange cur (some (TimestampRange.closed cr.lower r.lower)),
      withRange next (some r)]) (us ++ [u]) where
  current := by
    obtain ⟨cur', F, hcur', hF, hstrip⟩ := hs.current
    rw [hcur] at hcur'
    cases hcur'
    obtain ⟨F', hF', hnextF'⟩ := accumulate_append_of_merge hF hstrip hnext
    exact ⟨withRange next (some r), F', by simp, hF', by rw [strip_withRange, hnextF']⟩
  closed v hv := by
    rw [show vs.dropLast ++ [withRange cur (some (TimestampRange.closed cr.lower r.lower)),
        withRange next (some r)] = (vs.dropLast ++
          [withRange cur (some (TimestampRange.closed cr.lower r.lower))]) ++
          [withRange next (some r)] by simp, List.dropLast_concat] at hv
    rcases List.mem_append.1 hv with hv | hv
    · exact (hs.closed v hv).append u
    · -- the version just closed: `u` is the first update to start after it
      rw [List.mem_singleton.1 hv]
      obtain ⟨cur', F, hcur', hF, hstrip⟩ := hs.current
      rw [hcur] at hcur'
      cases hcur'
      have hu : startsAfter cr.lower u = true := by simp [startsAfter, hr, hlt]
      have hclose := closer_append_eq_length (hs.startsAfter_eq_false hcur hcr) hu
      refine ⟨TimestampRange.closed cr.lower r.lower, range_withRange _ _, ?_, F, ?_, ?_⟩
      · show closer cr.lower (us ++ [u]) < (us ++ [u]).length
        rw [hclose, List.length_append, List.length_singleton]
        omega
      · show accumulate ((us ++ [u]).take (closer cr.lower (us ++ [u]))) = some F
        rw [hclose, List.take_left]
        exact hF
      · rw [strip_withRange, hstrip]
  bounded v hv r' hr' := by
    refine ⟨withRange next (some r), r, by simp, range_withRange _ _, ?_⟩
    rcases List.mem_append.1 hv with hv | hv
    · obtain ⟨cur', cr', hcur', hcr', hle⟩ := hs.bounded v hv r' hr'
      rw [hcur] at hcur'
      cases hcur'
      rw [hcr] at hcr'
      cases hcr'
      omega
    · rw [List.mem_singleton.1 hv, hr] at hr'
      cases hr'
      exact Int.le_refl _

omit [LawfulVersioned α] in
theorem mergeLast_accepted {older vs' : List α} {cur u : α} {restamp : Option TimestampRange}
    (h : mergeLast older cur u restamp = (vs', none)) :
    ∃ row, merge cur u = .ok row ∧
      vs' = older ++ [restamp.elim row fun r => withRange row (some r)] := by
  unfold mergeLast at h
  split at h
  · next row hrow =>
    obtain ⟨rfl, -⟩ := Prod.mk.inj h
    cases restamp <;> exact ⟨row, hrow, rfl⟩
  · cases h

/-- Every accepted update keeps its key's versions the snapshots of the fold of its updates. -/
theorem snapshots_revise {k : RowKey} {vs vs' us : List α} {u : α}
    (hs : vs = [] ∧ us = [] ∨ Snapshots vs us) (h : revise k vs u = (some vs', none)) :
    Snapshots vs' (us ++ [u]) := by
  rcases revise_eq_some h with ⟨rfl, rfl, -⟩ | ⟨cur, hcur, ⟨hm, hcase⟩ | ⟨hc, hm⟩⟩ |
    ⟨cur, next, cr, r, hcur, hcr, hr, hlt, hnext, -, rfl⟩
  · rcases hs with ⟨-, rfl⟩ | hs
    · exact snapshots_singleton u
    · obtain ⟨cur, F, hcur, -⟩ := hs.current
      cases hcur
  all_goals
    have hs : Snapshots vs us := hs.resolve_left fun ⟨hnil, _⟩ => by simp [hnil] at hcur
  · -- merged in place: the update has no range, or starts with the current version
    obtain ⟨row, hrow, rfl⟩ := mergeLast_accepted hm
    have hrange : range row = range cur := range_row_of_merge_eq hrow
    refine hs.mergeInPlace hcur hrow rfl (fun cr hcr => hrange.trans hcr) ?_
    intro r hr
    rcases hcase with hnone | ⟨cr, r', hcr, hr', heq⟩
    · rw [hnone] at hr
      cases hr
    · rw [hr] at hr'
      cases hr'
      exact ⟨cr, hrange.trans hcr, Int.le_of_eq heq.symm⟩
  · -- the current version had no range and takes the update's
    obtain ⟨row, hrow, rfl⟩ := mergeLast_accepted hm
    cases hu : range u with
    | none =>
      exact hs.mergeInPlace hcur hrow rfl (fun cr hcr => by rw [hc] at hcr; cases hcr)
        fun r hr => by rw [hu] at hr; cases hr
    | some r =>
      refine hs.mergeInPlace hcur hrow (strip_withRange row _)
        (fun cr hcr => by rw [hc] at hcr; cases hcr) ?_
      intro r' hr'
      rw [hu] at hr'
      cases hr'
      exact ⟨_, range_withRange _ _, Int.le_refl _⟩
  · exact hs.push hcur hcr hr hlt hnext

/-! ### A table -/

omit [Versioned α] [LawfulVersioned α] in
theorem history_store (t : HistoryTable α) (k k' : RowKey) (vs : List α) :
    (t.store k vs).history k' = if k' = k then vs else t.history k' := by
  unfold history store
  rw [SortedMap.get?_insert]
  split <;> rfl

omit [LawfulVersioned α] in
/-- An accepted update rewrites the versions of its own key only. -/
theorem history_apply_of_accepted {t : HistoryTable α} {u : α} (h : (t.apply u).2 = none) :
    ∃ vs', revise (key u) (t.history (key u)) u = (some vs', none) ∧
      ∀ k, (t.apply u).1.history k = if k = key u then vs' else t.history k := by
  rw [apply_fault] at h
  rcases hrev : revise (key u) (t.history (key u)) u with ⟨o, f⟩
  rw [hrev] at h
  simp only at h
  subst h
  cases o with
  | none =>
    rcases revise_eq_none hrev with ⟨_, _, _, _, _, _, _, hf⟩ | ⟨o, hf⟩ <;> cases hf
  | some vs' =>
    refine ⟨vs', rfl, fun k => ?_⟩
    rw [apply_eq_revise, hrev]
    exact history_store t (key u) k vs'

/-- The updates of key `k`, in order. -/
def updatesOf (k : RowKey) (us : List α) : List α := us.filter fun u => key u = k

omit [LawfulVersioned α] in
theorem updatesOf_append_self (us : List α) (u : α) :
    updatesOf (key u) (us ++ [u]) = updatesOf (key u) us ++ [u] := by
  simp [updatesOf, List.filter_append]

omit [LawfulVersioned α] in
theorem updatesOf_append_of_ne {k : RowKey} (us : List α) {u : α} (hk : k ≠ key u) :
    updatesOf k (us ++ [u]) = updatesOf k us := by
  simp [updatesOf, List.filter_append, Ne.symm hk]

/-- Every key's versions are the snapshots of the fold of its updates among `us`, or the key
has neither versions nor updates. -/
def Tracks (t : HistoryTable α) (us : List α) : Prop :=
  ∀ k, t.history k = [] ∧ updatesOf k us = [] ∨ Snapshots (t.history k) (updatesOf k us)

omit [LawfulVersioned α] in
theorem tracks_empty : Tracks ({} : HistoryTable α) [] :=
  fun _ => .inl ⟨rfl, rfl⟩

theorem Tracks.apply {t : HistoryTable α} {us : List α} (h : Tracks t us) {u : α}
    (hacc : (t.apply u).2 = none) : Tracks (t.apply u).1 (us ++ [u]) := by
  obtain ⟨vs', hrev, hhist⟩ := history_apply_of_accepted hacc
  intro k
  rw [hhist k]
  by_cases hk : k = key u
  · subst hk
    rw [if_pos rfl, updatesOf_append_self]
    exact .inr (snapshots_revise (h (key u)) hrev)
  · rw [if_neg hk, updatesOf_append_of_ne us hk]
    exact h k

/-- The table after the updates `us`, in order. -/
def receive (t : HistoryTable α) (us : List α) : HistoryTable α :=
  us.foldl (fun t u => (t.apply u).1) t

/-- Each update of `us` is accepted in turn. -/
def Accepts : HistoryTable α → List α → Prop
  | _, [] => True
  | t, u :: us => (t.apply u).2 = none ∧ Accepts (t.apply u).1 us

/-- A run of accepted updates keeps every key's versions the snapshots of its updates. -/
theorem Tracks.receive {t : HistoryTable α} {us : List α} (h : Tracks t us) :
    ∀ {us' : List α}, Accepts t us' → Tracks (t.receive us') (us ++ us')
  | [], _ => by simpa [HistoryTable.receive] using h
  | u :: us', ⟨hu, hacc⟩ => by
    have := (h.apply hu).receive hacc
    simpa [HistoryTable.receive] using this

/-! ### The fold, field by field -/

/-- `get` reads a field that a merge overwrites when the update gives it a value. -/
def OverwriteField {β : Type} (get : α → Option β) : Prop :=
  ∀ c u, get (merge c u).row = (get u).or (get c)

/-- `get` reads a balance: a merge that does not overflow adds the update's change to it, an
absent balance counting as zero. -/
def AdditiveField (get : α → Option Int) : Prop :=
  ∀ c u r, merge c u = .ok r → get r = (get u).elim (get c) fun d => some ((get c).getD 0 + d)

/-- A merge replaces the whole row and keeps only the current range. -/
def Replaces (α : Type) [Versioned α] : Prop :=
  ∀ c u : α, merge c u = .ok (withRange u (range c))

/-- The sum of the changes present, or `none` when there is none. -/
def deltaSum (ds : List (Option Int)) : Option Int :=
  if ds.filterMap id = [] then none else some (ds.filterMap id).sum

/-- `F` is the field-wise fold of the updates `us`: it has their key; an overwritten field holds
the last value an update gave it (`none` if none did); a balance is the sum of the changes the
updates carried (`none` while none carried one); a replaced row is the last update. -/
structure FieldwiseFold (us : List α) (F : α) : Prop where
  key_eq : ∀ u ∈ us, key u = key F
  overwrite : ∀ {β : Type} (get : α → Option β), OverwriteField get →
    get F = (us.filterMap get).getLast?
  additive : ∀ get, AdditiveField get → get F = deltaSum (us.map get)
  replace : Replaces α → ∃ u, us.getLast? = some u ∧ strip F = strip u

theorem deltaSum_append (ds : List (Option Int)) (d : Option Int) :
    deltaSum (ds ++ [d]) = d.elim (deltaSum ds) fun d => some ((deltaSum ds).getD 0 + d) := by
  cases d with
  | none =>
    rw [deltaSum, List.filterMap_append, show [none].filterMap (@id (Option Int)) = [] from rfl,
      List.append_nil]
    rfl
  | some x =>
    rw [deltaSum, deltaSum, List.filterMap_append, show [some x].filterMap id = [x] from rfl]
    generalize ds.filterMap id = fs
    rw [if_neg (by simp), List.sum_append, List.sum_singleton]
    by_cases h : fs = []
    · subst h
      rfl
    · rw [if_neg h]
      rfl

omit [LawfulVersioned α] in
theorem fieldwiseFold_singleton (u : α) : FieldwiseFold [u] u where
  key_eq v hv := by rw [List.mem_singleton.1 hv]
  overwrite get _ := by cases h : get u <;> simp [h]
  additive get _ := by cases h : get u <;> simp [deltaSum, h]
  replace _ := ⟨u, rfl, rfl⟩

/-- One more update merged into a fold of updates of one key is the fold of them all. -/
theorem FieldwiseFold.merge {us : List α} {F u F' : α} (h : FieldwiseFold us F)
    (hk : key u = key F) (hm : merge F u = .ok F') : FieldwiseFold (us ++ [u]) F' := by
  have hrow : (Versioned.merge F u).row = F' := by rw [hm]; rfl
  constructor
  · -- the key: a merge keeps the key of the row merged into
    have hF' : key F' = key F := by rw [← hrow]; exact key_merge F u hk
    intro v hv
    rcases List.mem_append.1 hv with hv | hv
    · rw [h.key_eq v hv, hF']
    · rw [List.mem_singleton.1 hv, hk, hF']
  · intro β get hget
    rw [← hrow, hget, h.overwrite get hget, getLast?_filterMap_append]
  · intro get hget
    rw [hget F u F' hm, h.additive get hget, List.map_append, List.map_singleton,
      deltaSum_append]
  · intro hrep
    obtain ⟨-, -, hstrip⟩ := h.replace hrep
    refine ⟨u, by simp, ?_⟩
    rw [hrep F u] at hm
    cases hm
    exact strip_withRange u _

/-- The fold of the updates of one key is their field-wise fold. -/
theorem accumulate_fieldwise {k : RowKey} {us : List α} (hk : ∀ u ∈ us, key u = k) {F : α}
    (h : accumulate us = some F) : FieldwiseFold us F := by
  induction us using List.reverseRecOn generalizing F with
  | nil => cases h
  | append_singleton us u ih =>
    by_cases hnil : us = []
    · subst hnil
      cases h
      exact fieldwiseFold_singleton u
    · rw [accumulate_append hnil] at h
      obtain ⟨F0, hF0, hm⟩ := Option.bind_eq_some_iff.1 h
      have h0 := ih (fun v hv => hk v (List.mem_append_left _ hv)) hF0
      obtain ⟨v, hv⟩ := List.exists_mem_of_ne_nil us hnil
      have hkey : key u = key F0 := by
        rw [hk u (by simp), ← h0.key_eq v hv, hk v (List.mem_append_left _ hv)]
      exact h0.merge hkey (Merged.ok?_eq_some.1 hm)

/-- The versions `vs` hold, ranges apart, field-wise folds of the updates `us`: the current
version the fold of all of them, each closed version the fold of the updates before the one
that closed it, the first to start after it. -/
def FoldSnapshots (vs us : List α) : Prop :=
  (∃ cur F, vs.getLast? = some cur ∧ FieldwiseFold us F ∧ strip cur = strip F) ∧
    ∀ v ∈ vs.dropLast, ∃ r, range v = some r ∧ closer r.lower us < us.length ∧
      ∃ F, FieldwiseFold (us.take (closer r.lower us)) F ∧ strip v = strip F

theorem Snapshots.fold {k : RowKey} {vs us : List α} (hs : Snapshots vs us)
    (hk : ∀ u ∈ us, key u = k) : FoldSnapshots vs us := by
  obtain ⟨cur, F, hcur, hF, hstrip⟩ := hs.current
  refine ⟨⟨cur, F, hcur, accumulate_fieldwise hk hF, hstrip⟩, fun v hv => ?_⟩
  obtain ⟨r, hr, hlt, F', hF', hv'⟩ := hs.closed v hv
  have hk' : ∀ u ∈ us.take (closer r.lower us), key u = k :=
    fun u hu => hk u (List.mem_of_mem_take hu)
  exact ⟨r, hr, hlt, F', accumulate_fieldwise hk' hF', hv'⟩

omit [LawfulVersioned α] in
theorem key_of_mem_updatesOf {k : RowKey} {us : List α} {u : α} (h : u ∈ updatesOf k us) :
    key u = k := by
  simpa [updatesOf] using (List.mem_filter.1 h).2

/-- In a table built by accepted updates, every key's versions are the field-wise snapshots of
its updates. -/
theorem Tracks.foldSnapshots {t : HistoryTable α} {us : List α} (h : Tracks t us) (k : RowKey) :
    t.history k = [] ∧ updatesOf k us = [] ∨ FoldSnapshots (t.history k) (updatesOf k us) :=
  (h k).imp_right fun hs => hs.fold fun _ hu => key_of_mem_updatesOf hu

end HistoryTable

/-! ### Which fields add -/

/-- A balance merge that does not overflow adds the change to the balance, absent counting as
zero. -/
theorem Merged.balance_of_withBalance {α : Type} {row r : α} {current delta : Option Int}
    {setBalance : α → Option Int → α} (h : withBalance row current delta setBalance = .ok r) :
    ∃ b, r = setBalance row b ∧ b = delta.elim current fun d => some (current.getD 0 + d) := by
  unfold withBalance at h
  split at h
  · next b hb =>
    cases h
    refine ⟨b, rfl, ?_⟩
    unfold addBalance at hb
    cases delta with
    | none => cases hb; rfl
    | some d =>
      dsimp only at hb
      cases hc : I64.checkedAdd (current.getD 0) d with
      | error e =>
        rw [hc] at hb
        cases hb
      | ok s =>
        rw [hc] at hb
        cases hb
        rw [← ((I64.checkedAdd_ok_iff _ _ _).1 hc).2]
        rfl
  · cases h

theorem Entity.additiveField_balance : HistoryTable.AdditiveField Entity.balance := by
  intro c u r h
  obtain ⟨b, rfl, hb⟩ := Merged.balance_of_withBalance h
  exact hb

theorem TokenAccount.additiveField_balance : HistoryTable.AdditiveField TokenAccount.balance := by
  intro c u r h
  obtain ⟨b, rfl, hb⟩ := Merged.balance_of_withBalance h
  exact hb

/-! ### The ledger -/

namespace Family

theorem table_receive (f : Family) (l : Ledger) (ms : List Mutation) :
    f.table (l.receive ms) = (f.table l).receive (ms.filterMap f.row?) := by
  induction ms generalizing l with
  | nil => rfl
  | cons m ms ih =>
    rw [Ledger.receive_cons, ih, table_apply, List.filterMap_cons]
    cases f.row? m <;> rfl

/-- A mutation carrying a row of a family is refused exactly when that family's table refuses
the row. -/
theorem fault_of_row {f : Family} {m : Mutation} {r : f.Row} (h : f.row? m = some r)
    (l : Ledger) : (l.apply m).2 = ((f.table l).apply r).2 := by
  rw [Ledger.apply_fault]
  cases m <;> cases f <;> cases h <;> rfl

end Family

namespace Ledger

/-- Each mutation of `ms` is accepted in turn. -/
def Accepts : Ledger → List Mutation → Prop
  | _, [] => True
  | l, m :: ms => (l.apply m).2 = none ∧ Accepts (l.apply m).1 ms

instance decidableAccepts : (l : Ledger) → (ms : List Mutation) → Decidable (l.Accepts ms)
  | _, [] => isTrue trivial
  | l, m :: ms =>
    have := decidableAccepts (l.apply m).1 ms
    inferInstanceAs (Decidable ((l.apply m).2 = none ∧ _))

/-- A ledger that accepts every mutation has each table accept every row. -/
theorem Accepts.table {l : Ledger} {ms : List Mutation} (h : l.Accepts ms) (f : Family) :
    (f.table l).Accepts (ms.filterMap f.row?) := by
  induction ms generalizing l with
  | nil => trivial
  | cons m ms ih =>
    obtain ⟨hm, hms⟩ := h
    have ih' := ih hms
    rw [Family.table_apply] at ih'
    rw [List.filterMap_cons]
    cases hr : f.row? m with
    | none =>
      rw [hr] at ih'
      exact ih'
    | some r =>
      rw [hr] at ih'
      exact ⟨by rw [← Family.fault_of_row hr l]; exact hm, ih'⟩

/-! ### Contracts -/

/-- The contract mutations for `id`, in order. -/
def contractUpdates (id : EntityId) (ms : List Mutation) : List Contract :=
  ms.filterMap fun m => match m with
    | .contract c => if c.id = id then some c else none
    | _ => none

/-- Contract `id` as its mutations `cs` leave it: each source the last one given. -/
def contractOf (id : EntityId) (cs : List Contract) : Option Contract :=
  if cs = [] then none
  else some
    { id := id
      fileId := (cs.filterMap (·.fileId)).getLast?
      initcode := (cs.filterMap (·.initcode)).getLast?
      runtimeBytecode := (cs.filterMap (·.runtimeBytecode)).getLast? }

theorem contractOf_getD (id : EntityId) (cs : List Contract) :
    (contractOf id cs).getD { id := id } =
      { id := id
        fileId := (cs.filterMap (·.fileId)).getLast?
        initcode := (cs.filterMap (·.initcode)).getLast?
        runtimeBytecode := (cs.filterMap (·.runtimeBytecode)).getLast? } := by
  unfold contractOf
  split
  · next h =>
    subst h
    rfl
  · rfl

theorem contracts_apply (l : Ledger) (m : Mutation) :
    (l.apply m).1.contracts = match m with
      | .contract c => (l.applyContract c).contracts
      | _ => l.contracts := by
  have hstore : (l.apply m).1.contracts = (l.store m).1.contracts := by
    unfold apply
    rcases l.store m with ⟨l', _ | _⟩ <;> rfl
  rw [hstore]
  cases m
  case hookStorageChange ch =>
    show (l.applyStorage ch).contracts = l.contracts
    unfold applyStorage
    split <;> rfl
  all_goals rfl

/-- Each mutation of a contract overwrites the sources it gives. -/
theorem contracts_apply_of_contractOf {l : Ledger} {id : EntityId} {cs : List Contract}
    (h : l.contracts.get? EntityId.compare id = contractOf id cs) (m : Mutation) :
    (l.apply m).1.contracts.get? EntityId.compare id =
      contractOf id (cs ++ contractUpdates id [m]) := by
  rw [contracts_apply]
  cases m
  case contract c =>
    unfold applyContract
    rw [SortedMap.get?_insert]
    by_cases hid : c.id = id
    · subst hid
      have hcu : contractUpdates c.id [.contract c] = [c] := by simp [contractUpdates]
      rw [if_pos rfl, h, contractOf_getD, hcu, contractOf, if_neg (by simp),
        getLast?_filterMap_append, getLast?_filterMap_append, getLast?_filterMap_append]
    · rw [if_neg (Ne.symm hid), h]
      simp [contractUpdates, hid]
  all_goals simpa [contractUpdates] using h

theorem contracts_receive {l : Ledger} {id : EntityId} {cs : List Contract}
    (h : l.contracts.get? EntityId.compare id = contractOf id cs) (ms : List Mutation) :
    (l.receive ms).contracts.get? EntityId.compare id = contractOf id (cs ++ contractUpdates id ms) := by
  induction ms generalizing l cs with
  | nil => simpa [contractUpdates] using h
  | cons m ms ih =>
    rw [receive_cons, ih (contracts_apply_of_contractOf h m), List.append_assoc, contractUpdates,
      contractUpdates, contractUpdates, ← List.filterMap_append]
    rfl

/-! ### The history of a ledger -/

/-- In a fresh ledger that accepted `ms`, a key of a table has neither versions nor mutations,
or its versions are the field-wise snapshots of its mutations. -/
theorem foldSnapshots_receive {ms : List Mutation} (hacc : ({} : Ledger).Accepts ms)
    (f : Family) (k : RowKey) :
    (f.table (({} : Ledger).receive ms)).history k = [] ∧
        HistoryTable.updatesOf k (ms.filterMap f.row?) = [] ∨
      HistoryTable.FoldSnapshots ((f.table (({} : Ledger).receive ms)).history k)
        (HistoryTable.updatesOf k (ms.filterMap f.row?)) := by
  have hacc' := hacc.table f
  rw [Family.table_empty] at hacc'
  rw [Family.table_receive, Family.table_empty]
  exact (HistoryTable.tracks_empty.receive hacc').foldSnapshots k

/-- When a fresh ledger accepts each mutation of `ms` in turn, every key of every history table
has, ranges apart, field-wise folds of its mutations as versions: the current version the fold
of all of them, each closed version the fold of those before the mutation that closed it, the
first one to start after it. A key without versions has no mutations. Each contract holds, of
each of its sources, the last one its mutations gave. -/
theorem receive_history_snapshots (ms : List Mutation) (hacc : ({} : Ledger).Accepts ms) :
    (∀ (f : Family) (k : RowKey),
      (f.table (({} : Ledger).receive ms)).history k = [] ∧
          HistoryTable.updatesOf k (ms.filterMap f.row?) = [] ∨
        HistoryTable.FoldSnapshots ((f.table (({} : Ledger).receive ms)).history k)
          (HistoryTable.updatesOf k (ms.filterMap f.row?))) ∧
    ∀ id : EntityId, (({} : Ledger).receive ms).contracts.get? EntityId.compare id =
      contractOf id (contractUpdates id ms) := by
  refine ⟨foldSnapshots_receive hacc, fun id => ?_⟩
  have hnone : ({} : Ledger).contracts.get? EntityId.compare id = contractOf id [] := rfl
  exact contracts_receive hnone ms

/-- An account opened at 10, then given a balance change at 20. -/
def openedThenCredited : List Mutation :=
  [.entity { id := ⟨0, 0, 5⟩, memo := some "a", timestampRange := some (.openFrom 10) },
    .entity { id := ⟨0, 0, 5⟩, balance := some 7, timestampRange := some (.openFrom 20) }]

theorem receive_history_snapshots_openedThenCredited :
    ({} : Ledger).Accepts openedThenCredited ∧
      ((∀ (f : Family) (k : RowKey),
        (f.table (({} : Ledger).receive openedThenCredited)).history k = [] ∧
            HistoryTable.updatesOf k (openedThenCredited.filterMap f.row?) = [] ∨
          HistoryTable.FoldSnapshots ((f.table (({} : Ledger).receive openedThenCredited)).history k)
            (HistoryTable.updatesOf k (openedThenCredited.filterMap f.row?))) ∧
        ∀ id : EntityId, (({} : Ledger).receive openedThenCredited).contracts.get?
          EntityId.compare id = contractOf id (contractUpdates id openedThenCredited)) :=
  ⟨by decide, receive_history_snapshots openedThenCredited (by decide)⟩

/-- A balance that no accepted mutation changes stays absent: it does not become zero. -/
theorem unchanged_balance_stays_absent :
    ((({} : Ledger).receive [.entity { id := ⟨0, 0, 5⟩, memo := some "m" }]).entities.current?
      [.id ⟨0, 0, 5⟩]).map (·.balance) = some none := by
  decide

end Ledger

end LedgerProjection
