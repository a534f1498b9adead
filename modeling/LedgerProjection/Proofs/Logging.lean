import LedgerProjection.Proofs.Associations

/-!
## The mutation log agrees with the ledger

A sink hands a mutation to its log only when the ledger accepted it (`Sink.deliver`), so what
the log holds is a function of the ledger's own record of accepted mutations, read through the
log's kind filter (`Ledger.logged`).

* `MutationLog.entriesOf S`: the entries the mutations `S` get when logged one after another,
  numbered from 1.
* `MutationLog.Holds n f S log`: `log`, bounded to `n` entries and filtering by `f`, has logged
  exactly `S`. It buffers the last `n` entries of `entriesOf S`, counts every kind of `S`, and
  will number the next entry `|S| + 1`. Logging one more mutation is its step
  (`MutationLog.Holds.record`).
* `Sink.LogAgrees n f s`: the log of `s` holds what the ledger accepted and the filter lets
  through. Every delivery keeps it (`Sink.LogAgrees.deliver`), refused or not.
* `Sink.projectEach_eq_deliverAll`: a run of records delivers each of its rows to the sink in
  turn, and nothing else reaches the sink.
* `projectEach_log_agrees`: after any run from a fresh ledger and log, the log's per-kind
  counts, its length and its most recent entries are read off the accepted mutations.
-/

namespace LedgerProjection

namespace MutationLog

/-- Whether a log filtering by `f` keeps `m`: every mutation without a filter, else only those of
the filter's kind. -/
def passes (f : Option String) (m : Mutation) : Bool :=
  match f with
  | some k => k == m.kind
  | none => true

/-- The entry of the mutation logged `i`-th, counting from 0: it is numbered `i + 1`. -/
def entryOf (i : Nat) (m : Mutation) : LogEntry := ⟨i + 1, m.kind, m.recordJson⟩

/-- The entries the mutations `S` get when logged one after another. -/
def entriesOf (S : List Mutation) : List LogEntry := S.mapIdx entryOf

/-- The count a log reports for kind `k` after logging `S`: absent when no mutation of `S` is of
that kind. -/
def countOf (S : List Mutation) (k : String) : Option Nat :=
  if S.countP (·.kind == k) = 0 then none else some (S.countP (·.kind == k))

@[simp]
theorem length_entriesOf (S : List Mutation) : (entriesOf S).length = S.length :=
  List.length_mapIdx

theorem entriesOf_append_singleton (S : List Mutation) (m : Mutation) :
    entriesOf (S ++ [m]) = entriesOf S ++ [entryOf S.length m] := by
  simp [entriesOf, List.mapIdx_append]

theorem countOf_append_singleton (S : List Mutation) (m : Mutation) (k : String) :
    countOf (S ++ [m]) k =
      if k = m.kind then some ((countOf S m.kind).getD 0 + 1) else countOf S k := by
  unfold countOf
  rw [List.countP_append]
  by_cases hk : k = m.kind
  · rw [if_pos hk, ← hk]
    have h1 : [m].countP (·.kind == k) = 1 := by simp [hk]
    rw [h1]
    by_cases h0 : S.countP (·.kind == k) = 0
    · rw [if_pos h0, h0]
      rfl
    · rw [if_neg h0, if_neg (by omega)]
      rfl
  · have h0 : [m].countP (·.kind == k) = 0 := by simp [Ne.symm hk]
    rw [if_neg hk, h0, Nat.add_zero]

theorem record_eq (log : MutationLog) (m : Mutation) :
    log.record m = if passes log.kindFilter m then log.add m else log := by
  unfold record passes
  cases log.kindFilter with
  | none => rfl
  | some k => by_cases hk : k = m.kind <;> simp [hk]

/-- `log`, bounded to `n` entries and filtering by `f`, has logged exactly `S`, in order. -/
structure Holds (n : Nat) (f : Option String) (S : List Mutation) (log : MutationLog) : Prop where
  maxEntries : log.maxEntries = n
  kindFilter : log.kindFilter = f
  entries : log.entries = (entriesOf S).drop (S.length - n)
  counts : ∀ k, log.counts.get? Ord.compare k = countOf S k
  nextId : log.nextId = S.length + 1

variable {n : Nat} {f : Option String} {S : List Mutation} {log : MutationLog}

theorem holds_empty (n : Nat) (f : Option String) :
    Holds n f [] { maxEntries := n, kindFilter := f } where
  maxEntries := rfl
  kindFilter := rfl
  entries := by simp [entriesOf]
  counts _ := rfl
  nextId := rfl

/-- The buffer after one more entry: with room it grows, when full it drops its oldest. -/
theorem Holds.entries_add (h : Holds n f S log) (m : Mutation) :
    (log.add m).entries = (entriesOf (S ++ [m])).drop ((S ++ [m]).length - n) := by
  have hL : (entriesOf S).length = S.length := length_entriesOf S
  have he : (⟨log.nextId, m.kind, m.recordJson⟩ : LogEntry) = entryOf S.length m := by
    rw [h.nextId]
    rfl
  simp only [add, h.maxEntries, he, entriesOf_append_singleton, List.length_append,
    List.length_singleton]
  by_cases hn : n = 0
  · -- a log of no entries keeps none
    rw [if_pos hn, h.entries, hn, Nat.sub_zero, Nat.sub_zero, List.drop_eq_nil_of_le (by omega),
      List.drop_eq_nil_of_le (by simp)]
  rw [if_neg hn, h.entries, List.length_drop, hL]
  by_cases hfull : S.length - (S.length - n) + 1 > n
  · -- the buffer was full: the oldest entry goes
    rw [if_pos hfull, List.drop_append_of_le_length (by rw [List.length_drop, hL]; omega),
      List.drop_drop, List.drop_append_of_le_length (by omega)]
    congr 2
    omega
  · rw [if_neg hfull, List.drop_append_of_le_length (by omega)]
    congr 2
    omega

theorem Holds.add (h : Holds n f S log) (m : Mutation) : Holds n f (S ++ [m]) (log.add m) where
  maxEntries := h.maxEntries
  kindFilter := h.kindFilter
  entries := h.entries_add m
  counts k := by
    show (log.counts.insert Ord.compare m.kind
      ((log.counts.get? Ord.compare m.kind).getD 0 + 1)).get? Ord.compare k = _
    rw [SortedMap.get?_insert, countOf_append_singleton, h.counts, h.counts]
  nextId := by
    show log.nextId + 1 = _
    rw [h.nextId, List.length_append, List.length_singleton]

/-- Logging a mutation: kept when it passes the filter, ignored otherwise. -/
theorem Holds.record (h : Holds n f S log) (m : Mutation) :
    Holds n f (S ++ [m].filter (passes f)) (log.record m) := by
  rw [record_eq, h.kindFilter, List.filter_singleton]
  cases passes f m
  · simpa using h
  · exact h.add m

/-- The number of entries buffered: as many as were logged, up to the bound. -/
theorem Holds.length_entries (h : Holds n f S log) : log.entries.length = min n S.length := by
  rw [h.entries, List.length_drop, length_entriesOf]
  omega

/-- The `limit` most recent entries: the last `limit` logged, up to the bound. -/
theorem Holds.recent (h : Holds n f S log) (limit : Nat) :
    log.recent limit = (entriesOf S).drop (S.length - min limit n) := by
  rw [MutationLog.recent, h.length_entries, h.entries, List.drop_drop]
  congr 1
  omega

end MutationLog

/-! ### What the ledger accepted -/

namespace Ledger

/-- The mutations the ledger accepted that a log filtering by `f` keeps, in order. -/
def logged (f : Option String) (l : Ledger) : List Mutation :=
  l.log.filter (MutationLog.passes f)

/-- An accepted mutation is added to the ledger's log. -/
theorem log_apply_of_accepted {l : Ledger} {m : Mutation} (h : (l.apply m).2 = none) :
    (l.apply m).1.log = l.log ++ [m] := by
  unfold apply at h ⊢
  rcases hs : l.store m with ⟨l', _ | e⟩
  · have hacc : l'.accepted = l.accepted := by
      rw [← store_accepted l m, hs]
    simp [log, hacc]
  · simp [hs] at h

/-- A refused mutation is not. -/
theorem log_apply_of_refused {l : Ledger} {m : Mutation} {e : LedgerFault}
    (h : (l.apply m).2 = some e) : (l.apply m).1.log = l.log := by
  rw [log, (apply_of_fault h).1]
  rfl

end Ledger

namespace Sink

/-- An accepted mutation reaches the mutation log. -/
theorem deliver_log_of_accepted {s : Sink} {m : Mutation} (h : (s.ledger.apply m).2 = none) :
    (s.deliver m).1.log = s.log.map (·.record m) := by
  unfold deliver
  split
  · rename_i hl
    rw [hl] at h
    cases h
  · rfl

/-- The log of `s` holds, bounded to `n` entries, the mutations the ledger accepted that its
filter `f` lets through. -/
def LogAgrees (n : Nat) (f : Option String) (s : Sink) : Prop :=
  ∃ log, s.log = some log ∧ log.Holds n f (s.ledger.logged f)

variable {n : Nat} {f : Option String}

/-- Every delivery keeps the log in agreement with the ledger: an accepted mutation reaches both,
a refused one neither. -/
theorem LogAgrees.deliver {s : Sink} (h : s.LogAgrees n f) (m : Mutation) :
    (s.deliver m).1.LogAgrees n f := by
  obtain ⟨log, hs, hl⟩ := h
  rw [LogAgrees, deliver_ledger]
  cases hacc : (s.ledger.apply m).2 with
  | none =>
    refine ⟨log.record m, by rw [deliver_log_of_accepted hacc, hs]; rfl, ?_⟩
    rw [Ledger.logged, Ledger.log_apply_of_accepted hacc, List.filter_append]
    exact hl.record m
  | some e =>
    have hcause : (s.deliver m).2.map Refusal.cause = some e := by
      rw [deliver_cause, hacc]
    obtain ⟨r, hr, -⟩ := Option.map_eq_some_iff.1 hcause
    refine ⟨log, by rw [deliver_log_of_refused hr, hs], ?_⟩
    rwa [Ledger.logged, Ledger.log_apply_of_refused hacc]

theorem LogAgrees.deliverAll {s : Sink} (h : s.LogAgrees n f) (ms : List Mutation) :
    (s.deliverAll ms).LogAgrees n f := by
  induction ms generalizing s with
  | nil => exact h
  | cons m ms ih => exact ih (h.deliver m)

end Sink

/-! ### Runs -/

section Runs

variable (props : Properties) (via : ResolverKind)

/-- A record's projection leaves the sink it started from having received each row of the
outcome in turn. -/
theorem projectRecord_eq_deliverAll (sink : Sink) (item : RecordItem) :
    (projectRecord props via sink item).1 =
      sink.deliverAll (projectRecord props via sink item).2.mutations := by
  obtain ⟨ms, hl, -⟩ := Projection.process_keyed item (Ctx.start props via sink item)
  obtain ⟨hsink, hmuts⟩ := projectRecord_after props via sink item
  -- the record starts with nothing emitted, so its outcome lists exactly the rows fed
  have hms : (projectRecord props via sink item).2.mutations = ms := by
    rw [hmuts, hl.emitted]
    simp [Ctx.start]
  rw [hms, hsink, hl.sink]
  rfl

/-- A run of records delivers each of its rows to the sink in turn, and nothing else. -/
theorem Sink.projectEach_eq_deliverAll :
    ∀ (s : Sink) (items : List RecordItem),
      (s.projectEach props via items).2 =
        s.deliverAll ((s.emittedRows props via items).map Prod.snd)
  | _, [] => rfl
  | s, item :: rest => by
    have hrows : ((projectRecord props via s item).2.mutations.map (item, ·)).map Prod.snd =
        (projectRecord props via s item).2.mutations := by
      simp
    rw [Sink.projectEach_cons, Sink.emittedRows_cons, List.map_append, hrows,
      Sink.deliverAll_append, ← projectRecord_eq_deliverAll,
      Sink.projectEach_eq_deliverAll (projectRecord props via s item).1 rest]

/-- Projecting records with a mutation log, from a ledger that has accepted nothing and a log
that has kept nothing, bounded to `n` entries and filtering by `f`: let `S` be the mutations the
ledger accepted, in order, that the filter lets through. Then the log counts each kind as often
as it occurs in `S` (absent when it does not), its entries are numbered 1, 2, ... in the order
of `S` and it buffers the last `min n |S|` of them, and its `limit` most recent entries are
the last `min limit n` of `S`'s, each with its mutation's kind and record. -/
theorem projectEach_log_agrees (s : Sink) (hfresh : s.ledger.log = []) (n : Nat)
    (f : Option String) (hlog : s.log = some { maxEntries := n, kindFilter := f })
    (items : List RecordItem) :
    ∃ log, (s.projectEach props via items).2.log = some log ∧
      (∀ k, log.counts.get? Ord.compare k =
        MutationLog.countOf ((s.projectEach props via items).2.ledger.logged f) k) ∧
      log.entries =
        (MutationLog.entriesOf ((s.projectEach props via items).2.ledger.logged f)).drop
          (((s.projectEach props via items).2.ledger.logged f).length - n) ∧
      log.entries.length = min n ((s.projectEach props via items).2.ledger.logged f).length ∧
      ∀ limit, log.recent limit =
        (MutationLog.entriesOf ((s.projectEach props via items).2.ledger.logged f)).drop
          (((s.projectEach props via items).2.ledger.logged f).length - min limit n) := by
  have hstart : s.LogAgrees n f := by
    refine ⟨_, hlog, ?_⟩
    rw [Ledger.logged, hfresh]
    exact MutationLog.holds_empty n f
  obtain ⟨log, hs, hl⟩ := Sink.projectEach_eq_deliverAll props via s items ▸ hstart.deliverAll
    ((s.emittedRows props via items).map Prod.snd)
  exact ⟨log, hs, hl.counts, hl.entries, hl.length_entries, hl.recent⟩

/-- A sink with a fresh ledger whose log keeps the most recent entity row. -/
def lastEntityLog : Sink := { log := some { maxEntries := 1, kindFilter := some "entity" } }

/-- An account created at time 10, its fee moving from the payer to a node. -/
def createWithFee : List RecordItem :=
  [{ consensusTimestamp := 10, payerAccountId := ⟨0, 0, 2⟩, body := .cryptoCreate {},
     receipt := { status := ⟨22⟩, accountId := some ⟨0, 0, 1001⟩ },
     record := { transferList := [{ accountId := ⟨0, 0, 2⟩, amount := -5 },
       { accountId := ⟨0, 0, 3⟩, amount := 5 }] } }]

theorem projectEach_log_agrees_lastEntityLog :
    lastEntityLog.ledger.log = [] ∧
      lastEntityLog.log = some { maxEntries := 1, kindFilter := some "entity" } ∧
      ∃ log, (lastEntityLog.projectEach {} .memory createWithFee).2.log = some log ∧
        (∀ k, log.counts.get? Ord.compare k = MutationLog.countOf
          ((lastEntityLog.projectEach {} .memory createWithFee).2.ledger.logged (some "entity"))
          k) ∧
        log.entries = (MutationLog.entriesOf
          ((lastEntityLog.projectEach {} .memory createWithFee).2.ledger.logged
            (some "entity"))).drop
          (((lastEntityLog.projectEach {} .memory createWithFee).2.ledger.logged
            (some "entity")).length - 1) ∧
        log.entries.length = min 1
          ((lastEntityLog.projectEach {} .memory createWithFee).2.ledger.logged
            (some "entity")).length ∧
        ∀ limit, log.recent limit = (MutationLog.entriesOf
          ((lastEntityLog.projectEach {} .memory createWithFee).2.ledger.logged
            (some "entity"))).drop
          (((lastEntityLog.projectEach {} .memory createWithFee).2.ledger.logged
            (some "entity")).length - min limit 1) :=
  ⟨rfl, rfl, projectEach_log_agrees {} .memory lastEntityLog rfl 1 (some "entity") rfl
    createWithFee⟩

end Runs

end LedgerProjection
