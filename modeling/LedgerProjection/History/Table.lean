import LedgerProjection.History.Versioned
import LedgerProjection.Store.SortedMap

/-!
# History tables

A history table keeps, for every key, the versions of its row, oldest first. Applying a
partial update to a key (`HistoryTable.apply`):

* a new key starts its history with the update as given;
* an update without a range merges into the current (last) version;
* an update whose lower bound equals the current version's merges into it in place;
* a current version without a range takes the update's range after the merge;
* an update whose lower bound is earlier than the current version's is refused as out of
  order, and nothing changes;
* an update whose lower bound is later closes the current version at that bound and opens a
  new version: the current fields merged with the update, from the update's range on.

A balance overflow (see `Versioned.merge`) is a fault too. In the three in-place cases the
version keeps the fields merged before the overflow (and no new range); when a new version
was to be opened, nothing changes. `apply` always returns the table as left, with the fault
if there was one.

`validate` checks that, for every key, consecutive ranged versions neither overlap nor go
back in time.
-/

namespace LedgerProjection

/-- Why the ledger refused a mutation. -/
inductive LedgerFault where
  /-- The update starts before the current version of its key. -/
  | outOfOrder (key : String) (timestamp current : Int)
  /-- A balance left the 64-bit range. -/
  | overflow (fault : Overflow)
deriving DecidableEq, Repr

/-- The text of a refusal (an overflow reports its arithmetic fault). -/
def LedgerFault.message : LedgerFault → String
  | .outOfOrder key t c =>
    "Out of order mutation for " ++ key ++ ": " ++ toString t ++ " precedes current version at " ++
      toString c
  | .overflow o => o.message

/-- The versions of every key of one row type, oldest first. -/
structure HistoryTable (α : Type) where
  rows : SortedMap RowKey (List α) := {}
deriving Inhabited

namespace HistoryTable

variable {α : Type} [Versioned α]

/-- The versions of a key, oldest first. -/
def history (t : HistoryTable α) (k : RowKey) : List α :=
  (t.rows.get? RowKey.compare k).getD []

/-- The current (last) version of a key. -/
def current? (t : HistoryTable α) (k : RowKey) : Option α :=
  (t.history k).getLast?

/-- The table with the versions of `k` replaced. -/
def store (t : HistoryTable α) (k : RowKey) (versions : List α) : HistoryTable α :=
  ⟨t.rows.insert RowKey.compare k versions⟩

/-- Merges `update` into the current version in place, keeping `older` before it; `restamp`
gives the version its new range when it had none. -/
def mergeInPlace (t : HistoryTable α) (k : RowKey) (older : List α) (current update : α)
    (restamp : Option TimestampRange) : HistoryTable α × Option LedgerFault :=
  match Versioned.merge current update with
  | .ok row =>
    let row := match restamp with
      | some r => Versioned.withRange row (some r)
      | none => row
    (t.store k (older ++ [row]), none)
  | .overflow row o => (t.store k (older ++ [row]), some (.overflow o))

/-- Applies a partial update to the history of its key. -/
def apply (t : HistoryTable α) (update : α) : HistoryTable α × Option LedgerFault :=
  let k := Versioned.key update
  let versions := t.history k
  match versions.getLast? with
  | none => (t.store k [update], none)
  | some current =>
    let older := versions.dropLast
    match Versioned.range update with
    | none => mergeInPlace t k older current update none
    | some r =>
      match Versioned.range current with
      | none => mergeInPlace t k older current update (some r)
      | some cr =>
        if cr.lower = r.lower then mergeInPlace t k older current update none
        else if r.lower < cr.lower then (t, some (.outOfOrder (RowKey.debug k) r.lower cr.lower))
        else
          match Versioned.merge current update with
          | .ok next =>
            let closed :=
              Versioned.withRange current (some (TimestampRange.closed cr.lower r.lower))
            (t.store k (older ++ [closed, Versioned.withRange next (some r)]), none)
          | .overflow _ o => (t, some (.overflow o))

/-- The first fault among consecutive versions of one key: an overlap, or a later version
starting before an earlier one. -/
def checkPairs (k : RowKey) : List α → Option LedgerFault
  | a :: b :: rest =>
    match Versioned.range a, Versioned.range b with
    | some ea, some lb =>
      if ea.overlaps lb || decide (lb.lower < ea.lower) then
        some (.outOfOrder (RowKey.debug k) lb.lower ea.lower)
      else checkPairs k (b :: rest)
    | _, _ => checkPairs k (b :: rest)
  | _ => none

/-- The first fault of the table, keys in order. -/
def validate (t : HistoryTable α) : Option LedgerFault :=
  t.rows.entries.foldl (fun found e => found.or (checkPairs e.1 e.2)) none

end HistoryTable

end LedgerProjection
