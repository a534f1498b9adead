/-!
# Sorted maps

A finite map kept as a list of entries sorted by key, each key once. It is the store behind
every table of the ledger and the resolver: iteration is in key order, which is the order the
ledger reports its rows in.

`cmp` orders the keys; the operations assume it is a total order, and `insert` keeps the
entries sorted and their keys distinct for any `cmp`.
-/

namespace LedgerProjection

/-- A map from keys ordered by `cmp` to values. -/
structure SortedMap (κ β : Type) where
  entries : List (κ × β) := []
deriving Inhabited

namespace SortedMap

variable {κ β : Type} (cmp : κ → κ → Ordering)

/-- The value under `k`. -/
def get? (m : SortedMap κ β) (k : κ) : Option β :=
  (m.entries.find? fun e => cmp e.1 k == .eq).map Prod.snd

/-- Inserts into a sorted entry list, replacing the entry of an equal key. -/
def insertEntry (k : κ) (v : β) : List (κ × β) → List (κ × β)
  | [] => [(k, v)]
  | e :: rest =>
    match cmp k e.1 with
    | .lt => (k, v) :: e :: rest
    | .eq => (k, v) :: rest
    | .gt => e :: insertEntry k v rest

/-- The map with `k` bound to `v`. -/
def insert (m : SortedMap κ β) (k : κ) (v : β) : SortedMap κ β :=
  ⟨insertEntry cmp k v m.entries⟩

/-- The map without `k`. -/
def erase (m : SortedMap κ β) (k : κ) : SortedMap κ β :=
  ⟨m.entries.filter fun e => cmp e.1 k != .eq⟩

/-- The number of keys. -/
def size (m : SortedMap κ β) : Nat := m.entries.length

end SortedMap

end LedgerProjection
