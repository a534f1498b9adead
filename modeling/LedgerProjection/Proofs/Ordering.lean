import LedgerProjection.Proofs.Records

/-!
# Time order of a run of records

Records are projected in order of consensus time. Each emits versioned rows that open at its
own time (`projectRecord_stamped`), so the lower bounds of a ledger's versions are the times of
records already projected (`Ledger.LowerBound`), none later than the record at hand. Such a
record is never refused as out of order (`Ledger.apply_ne_outOfOrder`), whatever else happens
to it, and it adds only its own time as a lower bound (`Ledger.LowerBound.of_apply`).

The main statement, `projectEach_time_ordered`, follows a run from a fresh ledger: every row is
stamped with its record's time, no record is refused as out of order, and after every record
the ledger passes its own check and each key's lower bounds strictly increase and are times of
records projected so far.
-/

namespace LedgerProjection

open Mutation

theorem Family.range_row {f : Family} {m : Mutation} {r : f.Row} (h : f.row? m = some r) :
    Versioned.range r = m.range? := by
  cases m <;> cases f <;> cases h <;> rfl

namespace Ledger

/-! ### Lower bounds of a ledger -/

/-- `x` is the lower bound of a version of some key of some history table. -/
def LowerBound (l : Ledger) (x : Int) : Prop :=
  ∃ (f : Family) (k : RowKey) (vs : List f.Row),
    (k, vs) ∈ (f.table l).rows.entries ∧ x ∈ HistoryTable.lowers vs

theorem not_lowerBound_empty (x : Int) : ¬({} : Ledger).LowerBound x := by
  rintro ⟨f, k, vs, h, -⟩
  rw [Family.table_empty] at h
  cases h

variable {ts x : Int} {l : Ledger} {m : Mutation} {ms : List Mutation}

/-- A row stamped at `ts` adds no lower bound but `ts`. -/
theorem LowerBound.of_apply (hm : m.Stamped ts) (h : (l.apply m).1.LowerBound x) :
    l.LowerBound x ∨ x = ts := by
  obtain ⟨f, k, vs, hmem, hx⟩ := h
  rw [Family.table_apply] at hmem
  cases hr : f.row? m with
  | none =>
    rw [hr] at hmem
    exact .inl ⟨f, k, vs, hmem, hx⟩
  | some r =>
    rw [hr] at hmem
    rcases HistoryTable.lowers_apply hmem hx with ⟨vs₀, hmem₀, hx₀⟩ | hlow
    · exact .inl ⟨f, k, vs₀, hmem₀, hx₀⟩
    · rw [Family.range_row hr] at hlow
      rcases hm with hnone | hsome
      · rw [hnone] at hlow
        cases hlow
      · rw [hsome] at hlow
        exact .inr (Option.some.inj hlow).symm

theorem LowerBound.of_receive (hms : ∀ m ∈ ms, m.Stamped ts) (h : (l.receive ms).LowerBound x) :
    l.LowerBound x ∨ x = ts := by
  induction ms generalizing l with
  | nil => exact .inl h
  | cons m ms ih =>
    rcases ih (fun m' hm' => hms m' (List.mem_cons_of_mem _ hm')) h with h | h
    · exact LowerBound.of_apply (hms m (List.mem_cons_self ..)) h
    · exact .inr h

/-- A row stamped at `ts`, delivered to a ledger none of whose lower bounds is later than
`ts`, is not refused as out of order. -/
theorem apply_ne_outOfOrder (hm : m.Stamped ts) (hl : ∀ x, l.LowerBound x → x ≤ ts)
    (key : String) (t c : Int) : (l.apply m).2 ≠ some (.outOfOrder key t c) := by
  intro h
  obtain ⟨f, r, hr, hf⟩ := exists_row_of_fault h
  refine HistoryTable.apply_ne_outOfOrder (fun r' hr' k vs hmem x hx => ?_) key t c hf
  rw [Family.range_row hr] at hr'
  rcases hm with hnone | hsome
  · rw [hnone] at hr'
    cases hr'
  · rw [hsome] at hr'
    cases hr'
    exact hl x ⟨f, k, vs, hmem, hx⟩

end Ledger

/-! ### One record -/

namespace Outcome

variable {ts : Int} {l l' : Ledger} {o : Outcome}

/-- A record at `ts` leaves only the lower bounds it found and `ts`. -/
theorem Delivered.lowerBound (h : o.Delivered (Stamped ts) l l') {x : Int}
    (hx : l'.LowerBound x) : l.LowerBound x ∨ x = ts := by
  rw [h.ledger_eq] at hx
  exact Ledger.LowerBound.of_receive h.forall hx

/-- A record at `ts`, projected onto a ledger with no lower bound later than `ts`, is not
refused as out of order. -/
theorem Delivered.ne_outOfOrder (h : o.Delivered (Stamped ts) l l')
    (hl : ∀ x, l.LowerBound x → x ≤ ts) (kind key : String) (t c : Int) (ms : List Mutation) :
    o ≠ .failed (.refused ⟨kind, .outOfOrder key t c⟩) ms := by
  rintro rfl
  obtain ⟨hall, ms₁, m, rfl, -, happ⟩ := h
  -- the refused row met the ledger as the rows before it left it: still nothing later than `ts`
  have hl₁ : ∀ x, (l.receive ms₁).LowerBound x → x ≤ ts := fun x hx =>
    (Ledger.LowerBound.of_receive (fun m' hm' => hall m' (by simp [hm'])) hx).elim (hl x)
      Int.le_of_eq
  have hne := Ledger.apply_ne_outOfOrder (hall m (by simp)) hl₁ key t c
  rw [happ] at hne
  exact hne rfl

end Outcome

/-! ### Runs -/

section Runs

variable (props : Properties) (via : ResolverKind)

/-- A run of records in time order, from a well-formed ledger whose lower bounds are among the
times `S` of earlier records, none later than the run's own: every row is stamped with its
record's time, no record is refused as out of order, and the ledger left is well formed with
lower bounds among `S` and the run's times. -/
theorem projectEach_ordered_from (items : List RecordItem) :
    ∀ (sink : Sink) (S : List Int), sink.ledger.WellFormed →
      (∀ x, sink.ledger.LowerBound x → x ∈ S) →
      (∀ s ∈ S, ∀ i ∈ items, s ≤ i.consensusTimestamp) →
      (items.map (·.consensusTimestamp)).Pairwise (· ≤ ·) →
      (∀ p ∈ items.zip (sink.projectEach props via items).1,
          ∀ m ∈ p.2.mutations, m.Stamped p.1.consensusTimestamp) ∧
        (∀ o ∈ (sink.projectEach props via items).1, ∀ kind key t c ms,
          o ≠ .failed (.refused ⟨kind, .outOfOrder key t c⟩) ms) ∧
        (sink.projectEach props via items).2.ledger.WellFormed ∧
        ∀ x, (sink.projectEach props via items).2.ledger.LowerBound x →
          x ∈ S ++ items.map (·.consensusTimestamp) := by
  induction items with
  | nil => exact fun sink S hwf hlb _ _ => ⟨by simp, by simp, hwf, by simpa using hlb⟩
  | cons item rest ih =>
    intro sink S hwf hlb hS hsorted
    rw [List.map_cons, List.pairwise_cons] at hsorted
    have h := projectRecord_stamped props via sink item
    -- the record meets no lower bound later than its own time
    have hle : ∀ x, sink.ledger.LowerBound x → x ≤ item.consensusTimestamp :=
      fun x hx => hS x (hlb x hx) item (List.mem_cons_self ..)
    have hwf' : (projectRecord props via sink item).1.ledger.WellFormed :=
      h.ledger_eq ▸ hwf.receive _
    have hlb' : ∀ x, (projectRecord props via sink item).1.ledger.LowerBound x →
        x ∈ S ++ [item.consensusTimestamp] := fun x hx =>
      (h.lowerBound hx).elim (fun hx => by simp [hlb x hx]) (fun hx => by simp [hx])
    have hS' : ∀ s ∈ S ++ [item.consensusTimestamp], ∀ i ∈ rest, s ≤ i.consensusTimestamp := by
      intro s hs i hi
      rcases List.mem_append.1 hs with hs | hs
      · exact hS s hs i (List.mem_cons_of_mem _ hi)
      · rw [List.mem_singleton.1 hs]
        exact hsorted.1 _ (List.mem_map_of_mem hi)
    obtain ⟨hstamp, hnot, hwf'', hlb''⟩ := ih _ _ hwf' hlb' hS' hsorted.2
    refine ⟨?_, ?_, hwf'', fun x hx => by simpa using hlb'' x hx⟩
    · simp only [Sink.projectEach_cons, List.zip_cons_cons, List.mem_cons]
      rintro p (rfl | hp)
      · exact h.forall
      · exact hstamp p hp
    · simp only [Sink.projectEach_cons, List.mem_cons]
      rintro o (rfl | ho)
      · exact h.ne_outOfOrder hle
      · exact hnot o ho

/-- Records whose consensus times never decrease, projected in order onto a fresh ledger,
whatever their bodies, receipts, transfers and sidecars, and whatever each outcome: every row
a record emits either carries no range or the range open from the record's time; no record is
refused as out of order; and after the first `n` records, for every `n`, the ledger passes its
own check and the lower bounds of each key's versions strictly increase, each the time of one
of those records. -/
theorem projectEach_time_ordered (sink : Sink) (hfresh : sink.ledger = {})
    (items : List RecordItem) (hsorted : (items.map (·.consensusTimestamp)).Pairwise (· ≤ ·)) :
    (∀ p ∈ items.zip (sink.projectEach props via items).1,
        ∀ m ∈ p.2.mutations, m.range? = none ∨ m.range? = some (.openFrom p.1.consensusTimestamp)) ∧
      (∀ o ∈ (sink.projectEach props via items).1, ∀ kind key t c ms,
        o ≠ .failed (.refused ⟨kind, .outOfOrder key t c⟩) ms) ∧
      ∀ n, (sink.projectEach props via (items.take n)).2.ledger.validate = none ∧
        ∀ (f : Family) (k : RowKey) (vs : List f.Row),
          (k, vs) ∈ (f.table (sink.projectEach props via (items.take n)).2.ledger).rows.entries →
          (HistoryTable.lowers vs).Pairwise (· < ·) ∧
            ∀ x ∈ HistoryTable.lowers vs, x ∈ (items.take n).map (·.consensusTimestamp) := by
  have hwf : sink.ledger.WellFormed := hfresh ▸ Ledger.wellFormed_empty
  have hlb : ∀ x, sink.ledger.LowerBound x → x ∈ ([] : List Int) :=
    fun x hx => absurd (hfresh ▸ hx) (Ledger.not_lowerBound_empty x)
  obtain ⟨hstamp, hnot, -, -⟩ :=
    projectEach_ordered_from props via items sink [] hwf hlb (by simp) hsorted
  refine ⟨hstamp, hnot, fun n => ?_⟩
  -- a prefix of the run is a run of a prefix, still in time order
  have hsorted' : ((items.take n).map (·.consensusTimestamp)).Pairwise (· ≤ ·) := by
    rw [List.map_take]
    exact hsorted.sublist (List.take_sublist _ _)
  obtain ⟨-, -, hwf', hlb'⟩ :=
    projectEach_ordered_from props via (items.take n) sink [] hwf hlb (by simp) hsorted'
  refine ⟨hwf'.validate, fun f k vs hmem => ⟨(hwf' f k vs hmem).lowers_pairwise, ?_⟩⟩
  intro x hx
  simpa using hlb' x ⟨f, k, vs, hmem, hx⟩

/-- A transfer at 10, then the creation of an account at 20. -/
def transferThenCreate : List RecordItem :=
  [{ consensusTimestamp := 10, payerAccountId := ⟨0, 0, 2⟩, body := .cryptoTransfer {},
     receipt := { status := ⟨22⟩ },
     record := { transferList := [{ accountId := ⟨0, 0, 2⟩, amount := -5 },
                                  { accountId := ⟨0, 0, 7⟩, amount := 5 }] } },
   { consensusTimestamp := 20, payerAccountId := ⟨0, 0, 7⟩, body := .cryptoCreate {},
     receipt := { status := ⟨22⟩, accountId := some ⟨0, 0, 9⟩ } }]

theorem projectEach_time_ordered_transferThenCreate :
    ({} : Sink).ledger = {} ∧
      (transferThenCreate.map (·.consensusTimestamp)).Pairwise (· ≤ ·) ∧
      (∀ p ∈ transferThenCreate.zip (({} : Sink).projectEach {} .memory transferThenCreate).1,
        ∀ m ∈ p.2.mutations,
          m.range? = none ∨ m.range? = some (.openFrom p.1.consensusTimestamp)) ∧
      (∀ o ∈ (({} : Sink).projectEach {} .memory transferThenCreate).1, ∀ kind key t c ms,
        o ≠ .failed (.refused ⟨kind, .outOfOrder key t c⟩) ms) ∧
      ∀ n, (({} : Sink).projectEach {} .memory (transferThenCreate.take n)).2.ledger.validate =
          none ∧
        ∀ (f : Family) (k : RowKey) (vs : List f.Row),
          (k, vs) ∈ (f.table (({} : Sink).projectEach {} .memory
            (transferThenCreate.take n)).2.ledger).rows.entries →
          (HistoryTable.lowers vs).Pairwise (· < ·) ∧
            ∀ x ∈ HistoryTable.lowers vs,
              x ∈ (transferThenCreate.take n).map (·.consensusTimestamp) :=
  ⟨rfl, by decide, projectEach_time_ordered {} .memory {} rfl transferThenCreate (by decide)⟩

end Runs

end LedgerProjection
