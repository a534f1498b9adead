import LedgerProjection.Store.Key
import LedgerProjection.Store.SortedMap

/-!
# Key orders and sorted maps

The orders behind the ledger's maps are lawful: `EntityId.compare`, `EntityId.pairCompare` and
`RowKey.compare` say `.eq` of equal keys only, and the first two are transitive
(`Std.LawfulEqCmp`, `Std.TransCmp`).

On an order that says `.eq` of equal keys only, a lookup after `insert` finds the inserted value
under its own key and the old value under any other (`SortedMap.get?_insert_self`,
`SortedMap.get?_insert_of_ne`), whatever order the entries are in: an insert never places its
entry behind an entry of the same key. After `erase` the key is gone and every other key keeps
its value (`SortedMap.get?_erase_self`, `SortedMap.get?_erase_of_ne`). A transitive order also
keeps the entries strictly ascending (`SortedMap.Sorted.insert`), so a map built by inserts
holds each key once (`SortedMap.Sorted.nodup_keys`).
-/

namespace LedgerProjection

/-! ### Key orders -/

theorem EntityId.compare_eq_compareLex :
    EntityId.compare =
      compareLex (compareOn (·.shard)) (compareLex (compareOn (·.realm)) (compareOn (·.num))) :=
  rfl

instance : Std.TransCmp EntityId.compare := by
  rw [EntityId.compare_eq_compareLex]
  infer_instance

instance : Std.LawfulEqCmp EntityId.compare where
  eq_of_compare {a b} h := by
    simp only [EntityId.compare_eq_compareLex, compareLex_eq_eq, compareOn] at h
    obtain ⟨hs, hr, hn⟩ := h
    rcases a with ⟨s, r, n⟩
    rcases b with ⟨s', r', n'⟩
    obtain rfl : s = s' := Std.LawfulEqOrd.eq_of_compare hs
    obtain rfl : r = r' := Std.LawfulEqOrd.eq_of_compare hr
    obtain rfl : n = n' := Std.LawfulEqOrd.eq_of_compare hn
    rfl

instance : Std.TransOrd EntityId := inferInstanceAs (Std.TransCmp EntityId.compare)

instance : Std.LawfulEqOrd EntityId := inferInstanceAs (Std.LawfulEqCmp EntityId.compare)

theorem EntityId.pairCompare_eq_compareLex :
    EntityId.pairCompare = compareLex (compareOn Prod.fst) (compareOn Prod.snd) :=
  rfl

instance : Std.TransCmp EntityId.pairCompare := by
  rw [EntityId.pairCompare_eq_compareLex]
  infer_instance

instance : Std.LawfulEqCmp EntityId.pairCompare where
  eq_of_compare {a b} h := by
    simp only [EntityId.pairCompare_eq_compareLex, compareLex_eq_eq, compareOn] at h
    exact Prod.ext (Std.LawfulEqOrd.eq_of_compare h.1) (Std.LawfulEqOrd.eq_of_compare h.2)

theorem KeyPart.compare_eq_iff {a b : KeyPart} : KeyPart.compare a b = .eq ↔ a = b := by
  cases a <;> cases b <;> simp [KeyPart.compare, Std.LawfulEqCmp.compare_eq_iff_eq]

theorem RowKey.compare_eq_iff {a b : RowKey} : RowKey.compare a b = .eq ↔ a = b := by
  induction a generalizing b with
  | nil => cases b <;> simp [RowKey.compare]
  | cons p ps ih =>
    cases b with
    | nil => simp [RowKey.compare]
    | cons q qs => simp [RowKey.compare, Ordering.then_eq_eq, KeyPart.compare_eq_iff, ih]

instance : Std.LawfulEqCmp RowKey.compare where
  compare_self := RowKey.compare_eq_iff.2 rfl
  eq_of_compare := RowKey.compare_eq_iff.1

/-! ### Lookups after inserts -/

namespace SortedMap

variable {κ β : Type} {cmp : κ → κ → Ordering}

theorem mem_insertEntry {k : κ} {v : β} {e : κ × β} :
    ∀ {l : List (κ × β)}, e ∈ insertEntry cmp k v l → e = (k, v) ∨ e ∈ l
  | [] => by simp [insertEntry]
  | d :: rest => by
    simp only [insertEntry]
    split
    · intro h
      rcases List.mem_cons.1 h with h | h
      · exact .inl h
      · exact .inr h
    · intro h
      rcases List.mem_cons.1 h with h | h
      · exact .inl h
      · exact .inr (List.mem_cons_of_mem d h)
    · simp only [List.mem_cons]
      rintro (rfl | h)
      · exact .inr (.inl rfl)
      · rcases mem_insertEntry h with h | h
        · exact .inl h
        · exact .inr (.inr h)

theorem mem_insert {m : SortedMap κ β} {k : κ} {v : β} {e : κ × β}
    (h : e ∈ (m.insert cmp k v).entries) : e = (k, v) ∨ e ∈ m.entries :=
  mem_insertEntry h

theorem mem_erase {m : SortedMap κ β} {k : κ} {e : κ × β} (h : e ∈ (m.erase cmp k).entries) :
    e ∈ m.entries :=
  (List.mem_filter.1 h).1

private theorem cmp_self (cmp : κ → κ → Ordering) [Std.ReflCmp cmp] (k : κ) :
    cmp k k = .eq :=
  Std.ReflCmp.compare_self

variable [Std.LawfulEqCmp cmp]

theorem get?_eq_some {m : SortedMap κ β} {k : κ} {v : β} (h : m.get? cmp k = some v) :
    (k, v) ∈ m.entries := by
  obtain ⟨e, he, rfl⟩ := Option.map_eq_some_iff.1 h
  have hk : e.1 = k := by simpa using List.find?_some he
  rw [← hk]
  exact List.mem_of_find?_eq_some he

theorem find?_insertEntry_self (k : κ) (v : β) :
    ∀ l : List (κ × β),
      (insertEntry cmp k v l).find? (fun e => cmp e.1 k == .eq) = some (k, v)
  | [] => by simp [insertEntry, cmp_self]
  | d :: rest => by
    simp only [insertEntry]
    split
    · simp [cmp_self]
    · simp [cmp_self]
    · next hgt =>
      -- the entry passed over is greater than `k`, so it is not `k`'s
      have hd : (cmp d.1 k == .eq) = false := by
        rw [beq_eq_false_iff_ne]
        intro heq
        rw [Std.LawfulEqCmp.eq_of_compare heq, cmp_self cmp] at hgt
        cases hgt
      simp [hd, find?_insertEntry_self k v rest]

theorem get?_insert_self (m : SortedMap κ β) (k : κ) (v : β) :
    (m.insert cmp k v).get? cmp k = some v := by
  simp [get?, insert, find?_insertEntry_self]

theorem find?_insertEntry_of_ne {k k' : κ} (v : β) (hne : k' ≠ k) :
    ∀ l : List (κ × β),
      (insertEntry cmp k v l).find? (fun e => cmp e.1 k' == .eq) =
        l.find? (fun e => cmp e.1 k' == .eq)
  | [] => by
    simp [insertEntry, Std.LawfulEqCmp.compare_eq_iff_eq, hne.symm]
  | d :: rest => by
    have hk : (cmp k k' == .eq) = false := by
      simpa [Std.LawfulEqCmp.compare_eq_iff_eq] using hne.symm
    simp only [insertEntry]
    split
    · simp only [List.find?_cons, hk]
    · next heq =>
      -- the replaced entry has key `k`, which is not `k'`
      have hd : (cmp d.1 k' == .eq) = false := by
        rw [← Std.LawfulEqCmp.eq_of_compare heq]
        exact hk
      simp only [List.find?_cons, hk, hd]
    · simp only [List.find?_cons, find?_insertEntry_of_ne v hne rest]

theorem get?_insert_of_ne (m : SortedMap κ β) {k k' : κ} (v : β) (hne : k' ≠ k) :
    (m.insert cmp k v).get? cmp k' = m.get? cmp k' := by
  simp only [get?, insert, find?_insertEntry_of_ne v hne]

theorem get?_insert (m : SortedMap κ β) (k k' : κ) (v : β) [DecidableEq κ] :
    (m.insert cmp k v).get? cmp k' = if k' = k then some v else m.get? cmp k' := by
  split
  · subst k'
    exact get?_insert_self m k v
  · exact get?_insert_of_ne m v ‹_›

theorem get?_erase_self (m : SortedMap κ β) (k : κ) : (m.erase cmp k).get? cmp k = none := by
  simp [get?, erase, List.find?_filter]

theorem get?_erase_of_ne (m : SortedMap κ β) {k k' : κ} (hne : k' ≠ k) :
    (m.erase cmp k).get? cmp k' = m.get? cmp k' := by
  simp only [get?, erase, List.find?_filter]
  congr 2
  funext e
  -- an entry of `k'` is not one of `k`, so the filter keeps it
  by_cases h : cmp e.1 k' = .eq
  · have hk : cmp e.1 k ≠ .eq := by
      rw [Std.LawfulEqCmp.eq_of_compare h]
      simpa [Std.LawfulEqCmp.compare_eq_iff_eq] using hne
    simp [h, hk]
  · simp [h]

end SortedMap

/-! ### Sorted maps -/

namespace SortedMap

variable {κ β : Type} {cmp : κ → κ → Ordering}

/-- The entries are strictly ascending by key. -/
def Sorted (cmp : κ → κ → Ordering) (m : SortedMap κ β) : Prop :=
  m.entries.Pairwise fun a b => cmp a.1 b.1 = .lt

theorem sorted_empty : Sorted cmp ({} : SortedMap κ β) := List.Pairwise.nil

theorem keys_insertEntry {k : κ} {v : β} {l : List (κ × β)} {e : κ × β}
    (h : e ∈ insertEntry cmp k v l) : e.1 = k ∨ ∃ d ∈ l, d.1 = e.1 := by
  rcases mem_insertEntry h with rfl | h
  · exact .inl rfl
  · exact .inr ⟨e, h, rfl⟩

theorem pairwise_insertEntry [Std.TransCmp cmp] (k : κ) (v : β) :
    ∀ {l : List (κ × β)}, l.Pairwise (fun a b => cmp a.1 b.1 = .lt) →
      (insertEntry cmp k v l).Pairwise fun a b => cmp a.1 b.1 = .lt
  | [], _ => by simp [insertEntry]
  | d :: rest, h => by
    obtain ⟨hd, hrest⟩ := List.pairwise_cons.1 h
    simp only [insertEntry]
    split
    · next hlt =>
      refine List.Pairwise.cons ?_ h
      intro e he
      rcases List.mem_cons.1 he with rfl | he
      · exact hlt
      · exact Std.TransCmp.lt_trans hlt (hd e he)
    · next heq =>
      refine List.Pairwise.cons ?_ hrest
      intro e he
      exact Std.TransCmp.lt_of_eq_of_lt heq (hd e he)
    · next hgt =>
      refine List.Pairwise.cons ?_ (pairwise_insertEntry k v hrest)
      intro e he
      rcases keys_insertEntry he with hk | ⟨d', hd', hk⟩
      · rw [hk]
        exact Std.OrientedCmp.lt_of_gt hgt
      · rw [← hk]
        exact hd d' hd'

theorem Sorted.insert [Std.TransCmp cmp] {m : SortedMap κ β} (h : Sorted cmp m) (k : κ)
    (v : β) : Sorted cmp (m.insert cmp k v) :=
  pairwise_insertEntry k v h

/-- A sorted map holds each key once. -/
theorem Sorted.nodup_keys [Std.ReflCmp cmp] {m : SortedMap κ β} (h : Sorted cmp m) :
    (m.entries.map Prod.fst).Nodup := by
  refine List.Pairwise.map Prod.fst ?_ h
  intro a b hab heq
  rw [heq, cmp_self cmp] at hab
  cases hab

end SortedMap

end LedgerProjection
