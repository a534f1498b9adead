import LedgerProjection.Proofs.CurrentVersion
import LedgerProjection.Proofs.Records

/-!
# Only balance arithmetic aborts a record

A record's projection stops in four ways: a per-record sum of its hbar or token transfers leaves
the 64-bit range (`Projection.fail`); the counter of synthetic log indexes, a signed 32-bit
integer, is stepped past its greatest value (`Projection.nextLogIndex`); the ledger refuses a
row whose balance change it cannot add to the balance it holds (`LedgerFault.overflow`); or the
ledger refuses a row that starts before the current version of its key
(`LedgerFault.outOfOrder`). All but the last are panics (`Failure.panic?`).

* `Ctx.Numbered seed`: the counter stands at `seed` plus the synthetic logs emitted so far, and
  is a 32-bit integer. A record starts so from its EVM log count (`Ctx.numbered_start`).
* `Projection.Numbers O seed`: a program keeps its state numbered, and stops at an overflow of
  its own only where `O` allows it or where the counter is at the greatest 32-bit integer. It is
  a logic (`Projection.Logic.numbers`), granted by every handler (`Handler.numbers_grants`) and
  by every phase with `O` the record's overflowing sums (`Projection.numbers_phaseGrants`), so
  the handler walk gives it for the projection of every record (`Projection.process_numbers`).
* `projectRecord_panics_only_in_balance_arithmetic`: a record panics only at an overflowing sum
  of its transfers, at the merge of its last row's balance change, or when its EVM logs and the
  synthetic logs it asked for reach `2 ^ 31`; and the slices and divisions the model makes are
  all kept in range by their guards.
-/

namespace LedgerProjection

/-- A contract log the projection wrote itself, numbered after the EVM's. -/
def Mutation.isSyntheticLog : Mutation → Bool
  | .contractLog l => l.synthetic
  | _ => false

/-- A handler writes synthetic logs only through the index counter. -/
theorem RecordItem.HandlerRow.isSyntheticLog {item : RecordItem} {m : Mutation}
    (h : item.HandlerRow m) : m.isSyntheticLog = false := by
  cases h with
  | plain hm _ => cases m <;> first | exact hm.elim | rfl
  | nonce => rfl
  | creationAssociation => rfl

/-- A count taken as a signed 32-bit integer is one. -/
theorem I32.inRange_ofCount (n : Nat) : I32.InRange (I32.ofCount n) := by
  have hlo := @Int.le_bmod n (2 ^ 32) (by norm_num)
  have hhi := @Int.bmod_lt n (2 ^ 32) (by norm_num)
  unfold I32.InRange I32.ofCount I32.lo I32.hi
  norm_num at hlo hhi ⊢
  omega

namespace Ctx

variable {seed : Int} {c : Ctx}

/-- The counter of synthetic logs stands at `seed` plus the synthetic logs emitted so far, and is
a signed 32-bit integer. -/
def Numbered (seed : Int) (c : Ctx) : Prop :=
  c.nextLogIndex = seed + c.emitted.countP Mutation.isSyntheticLog ∧ I32.InRange c.nextLogIndex

/-- A record starts numbered from the count of its EVM logs. -/
theorem numbered_start (props : Properties) (via : ResolverKind) (sink : Sink) (item : RecordItem) :
    (Ctx.start props via sink item).Numbered (I32.ofCount item.evmLogCount) :=
  ⟨by simp only [Ctx.start, List.countP_nil, Nat.cast_zero, Int.add_zero], by
    simp only [Ctx.start]
    exact I32.inRange_ofCount _⟩

/-- The counter fails to step only at the greatest 32-bit integer. -/
theorem Numbered.eq_hi (hc : c.Numbered seed) (h : ¬I32.InRange (c.nextLogIndex + 1)) :
    c.nextLogIndex = I32.hi := by
  obtain ⟨-, hlo, hhi⟩ := hc
  simp only [I32.InRange, I32.lo, I32.hi] at h hlo hhi ⊢
  omega

/-- Emitting `m` from a state whose counter has counted it leaves a numbered state. -/
theorem numbered_emit {m : Mutation} (sink : Sink)
    (hn : c.nextLogIndex = seed + (m :: c.emitted).countP Mutation.isSyntheticLog)
    (hr : I32.InRange c.nextLogIndex) :
    ({ c with sink := sink, emitted := m :: c.emitted } : Ctx).Numbered seed :=
  ⟨hn, hr⟩

end Ctx

/-! ### Programs that keep the numbering -/

namespace Projection

/-- The end of a run that keeps the numbering from `seed`: a numbered state, and, where the run
stops at an overflow of its own, one that `O` allows or a counter at the greatest 32-bit
integer. -/
def NumberedEnd {α : Type} (O : Overflow → Prop) (seed : Int) : EStateM.Result Failure Ctx α → Prop
  | .ok _ c' => c'.Numbered seed
  | .error f c' => c'.Numbered seed ∧
      ∀ o, f = .overflow o → O o ∨ (o = .add ∧ c'.nextLogIndex = I32.hi)

/-- From a numbered state, `x` ends as `NumberedEnd O seed` says. -/
def Numbers {α : Type} (O : Overflow → Prop) (seed : Int) (x : Projection α) : Prop :=
  ∀ c, c.Numbered seed → NumberedEnd O seed (x.run c)

namespace Numbers

variable {α β : Type} {O : Overflow → Prop} {seed : Int}

/-- Emitting `m` from a state whose counter has already counted it ends numbered, whether the
ledger takes it or not. -/
theorem emit_of_counted {c : Ctx} {m : Mutation}
    (hn : c.nextLogIndex = seed + (m :: c.emitted).countP Mutation.isSyntheticLog)
    (hr : I32.InRange c.nextLogIndex) : NumberedEnd O seed ((Projection.emit m).run c) := by
  rw [run_emit]
  rcases c.sink.deliver m with ⟨sink, _ | r⟩
  · exact Ctx.numbered_emit sink hn hr
  · exact ⟨Ctx.numbered_emit sink hn hr, fun _ h => nomatch h⟩

theorem pure (a : α) : Numbers O seed (Pure.pure a : Projection α) :=
  fun _ hc => hc

theorem bind {x : Projection α} {f : α → Projection β} (hx : Numbers O seed x)
    (hf : ∀ a, Numbers O seed (f a)) : Numbers O seed (x >>= f) := by
  intro c hc
  have hxc := hx c hc
  rw [run_bind]
  rcases hrun : x.run c with ⟨a, c₁⟩ | ⟨e, c₁⟩ <;> rw [hrun] at hxc
  · exact hf a c₁ hxc
  · exact hxc

theorem get : Numbers O seed (MonadState.get : Projection Ctx) :=
  fun _ hc => hc

/-- Touching an id changes neither the counter nor the emitted rows. -/
theorem track (id : EntityId) : Numbers O seed (Projection.track id) := by
  unfold Projection.track
  split
  · exact pure _
  · exact fun _ hc => hc

theorem fail {o : Overflow} (ho : O o) : Numbers O seed (Projection.fail o : Projection α) :=
  fun _ hc => ⟨hc, fun _ h => .inl (by cases h; exact ho)⟩

/-- A row other than a synthetic log keeps the count, whether the ledger takes it or not. -/
theorem emit {m : Mutation} (hm : m.isSyntheticLog = false) : Numbers O seed (Projection.emit m) := by
  intro c hc
  refine emit_of_counted ?_ hc.2
  rw [List.countP_cons, hm, hc.1]
  rfl

/-- A synthetic log takes the next index: the counter steps with the count, or, at the greatest
32-bit integer, the projection stops before emitting it. -/
theorem syntheticLog {log : Int → ContractLog} (hl : ∀ i, (log i).synthetic = true) :
    Numbers O seed (nextLogIndex >>= fun i => Projection.emit (.contractLog (log i))) := by
  intro c hc
  rw [run_bind]
  by_cases h : I32.InRange (c.nextLogIndex + 1)
  · rw [run_nextLogIndex h]
    -- the index is counted before the log is emitted
    refine emit_of_counted (c := { c with nextLogIndex := c.nextLogIndex + 1 }) ?_ h
    show c.nextLogIndex + 1 = seed + ((Mutation.contractLog (log c.nextLogIndex)) :: c.emitted).countP
      Mutation.isSyntheticLog
    rw [List.countP_cons_of_pos (p := Mutation.isSyntheticLog) (a := .contractLog _)
      (hl c.nextLogIndex), hc.1]
    push_cast
    ring
  · rw [run_nextLogIndex_overflow h]
    exact ⟨hc, fun _ ho => .inr ⟨by cases ho; rfl, hc.eq_hi h⟩⟩

end Numbers

/-- Keeping the numbering from `seed`, and stopping only at the overflows `O` allows or at a full
counter. -/
def Logic.numbers (O : Overflow → Prop) (seed : Int) : Logic where
  Holds := Numbers O seed
  pure := Numbers.pure
  bind := Numbers.bind
  get := Numbers.get
  track := Numbers.track

/-- `Numbers.emit` stated through `Holds`, for arguments whose row is left to their type. -/
theorem Logic.numbers_emit {O : Overflow → Prop} {seed : Int} {m : Mutation}
    (hm : m.isSyntheticLog = false) : (Logic.numbers O seed).Holds (emit m) :=
  Numbers.emit hm

end Projection

/-! ### Every record -/

namespace Handler

open Projection

/-- Every handler keeps the numbering: its rows are no synthetic logs, and each synthetic log
takes its index from the counter. -/
theorem numbers_grants (O : Overflow → Prop) (seed : Int) (item : RecordItem) :
    Grants (Logic.numbers O seed) ((Logic.numbers O seed).main fun _ => True) item where
  row _ hm := Logic.numbers_emit hm.isSyntheticLog
  entityRow _ _ hm _ := Logic.numbers_emit hm.isSyntheticLog
  main _ _ _ _ _ := Logic.numbers_emit rfl
  associate _ _ _ _ _ := (Logic.numbers O seed).bind ((Logic.numbers O seed).tokenKeys _) fun _ =>
    Logic.numbers_emit rfl
  syntheticLog _ _ hl := Numbers.syntheticLog hl

end Handler

namespace Projection

variable (item : RecordItem)

/-- The phases after a handler keep the numbering, and stop at an overflow of their own only
where a sum of the record's transfers leaves the range. -/
theorem numbers_phaseGrants (seed : Int) : PhaseGrants (Logic.numbers item.SumOverflow seed) item where
  result _ := Logic.numbers_emit rfl
  log _ hl := Logic.numbers_emit hl
  stateChange _ := Logic.numbers_emit rfl
  nft _ _ _ := Logic.numbers_emit rfl
  hbar _ _ _ _ := Logic.numbers_emit rfl
  tokenBalance _ _ _ _ := Logic.numbers_emit rfl
  transaction _ := Logic.numbers_emit rfl
  sum {α} _ ho := Numbers.fail (α := α) ho

/-- The projection of every record keeps the numbering, and stops at an overflow of its own only
where a sum of its transfers leaves the range or the counter is full. -/
theorem process_numbers (seed : Int) : Numbers item.SumOverflow seed (process item) :=
  process_holds (Handler.numbers_grants _ seed item) (fun _ _ => trivial)
    (numbers_phaseGrants item seed)

end Projection

/-- A record whose projection stops at an overflow of its own met a sum of its transfers that
leaves the range, or asked for one more synthetic log index when the count of its EVM logs, as a
32-bit integer, and of the synthetic logs it emitted had reached the greatest 32-bit integer. -/
theorem projectRecord_overflow {props : Properties} {via : ResolverKind} {sink : Sink}
    {item : RecordItem} {o : Overflow} {ms : List Mutation}
    (h : (projectRecord props via sink item).2 = .failed (.overflow o) ms) :
    item.SumOverflow o ∨
      (o = .add ∧ I32.ofCount item.evmLogCount + ms.countP Mutation.isSyntheticLog = I32.hi) := by
  unfold projectRecord at h
  split at h
  · cases h
  · next c hrun =>
    cases h
    have hn := Projection.process_numbers item _ _ (Ctx.numbered_start props via sink item)
    rw [hrun] at hn
    obtain ⟨⟨hcount, -⟩, ho⟩ := hn
    rcases ho o rfl with hs | ⟨rfl, hhi⟩
    · exact .inl hs
    · exact .inr ⟨rfl, by rw [List.countP_reverse, ← hcount, hhi]⟩

/-- The overflow a failure panics at: an overflow of the projection's own, or one for which the
ledger refused a row. A row refused as out of order is no panic. -/
def Failure.panic? : Failure → Option Overflow
  | .overflow o => some o
  | .refused ⟨_, .overflow o⟩ => some o
  | .refused ⟨_, .outOfOrder ..⟩ => none

/-- Only balance arithmetic aborts a record. A projection that panics at `o` met a sum of the
record's transfers that leaves the 64-bit range with `o`; or delivered a last row whose balance
change, added to the balance the ledger held for its key after the rows before it, leaves the
range with `o`; or, emitting the synthetic log that would make its EVM logs and synthetic logs
`2 ^ 31`, stepped the 32-bit counter of log indexes past its greatest value. The slices and
divisions of the model stay in range wherever their guards let them run: the padding of a word
for a string that fits, the trimming of leading zeros, the three slices of a 20-byte long-zero
address, and the two divisions of an epoch day. -/
theorem projectRecord_panics_only_in_balance_arithmetic :
    (∀ (props : Properties) (via : ResolverKind) (sink : Sink) (item : RecordItem) (f : Failure)
        (ms : List Mutation) (o : Overflow),
        (projectRecord props via sink item).2 = .failed f ms → f.panic? = some o →
        item.SumOverflow o ∨
          (∃ ms₁ m d, ms = ms₁ ++ [m] ∧ m.balance? = some d ∧
            I64.checkedAdd (((sink.ledger.receive ms₁).currentBalance? m).getD 0) d = .error o) ∨
          (o = .add ∧ I32.ofCount item.evmLogCount + ms.countP Mutation.isSyntheticLog = I32.hi)) ∧
      (∀ bytes : List UInt8, bytes.length ≤ Word.size → (Word.padSlices bytes).isSome) ∧
      (∀ bytes : List UInt8, (Word.trimSlices bytes).isSome) ∧
      (∀ bytes : List UInt8, bytes.length = 20 → (EntityId.longZeroSlices bytes).isSome) ∧
      (∀ nanos : Int, (Instant.epochDayDivisions nanos).isSome) := by
  refine ⟨fun props via sink item f ms o h hp => ?_, fun _ h => by rw [Word.padSlices_eq h]; rfl,
    fun _ => by rw [Word.trimSlices_eq]; rfl,
    fun _ h => by rw [EntityId.longZeroSlices_eq h]; rfl,
    fun _ => by rw [Instant.epochDayDivisions_eq]; rfl⟩
  cases f with
  | overflow o' =>
    cases hp
    rcases projectRecord_overflow h with hs | hc
    · exact .inl hs
    · exact .inr (.inr hc)
  | refused r =>
    obtain ⟨kind, _ | o'⟩ := r
    · cases hp
    · cases hp
      -- the refused row is the last one delivered, after rows the ledger accepted
      have hd := projectRecord_stamped props via sink item
      rw [h] at hd
      obtain ⟨ms₁, m, hms, -, happ⟩ := hd.2
      obtain ⟨d, hd, hsum⟩ := Ledger.apply_overflow (congrArg Prod.snd happ)
      exact .inr (.inl ⟨ms₁, m, d, hms, hd, hsum⟩)

/-- A transfer that credits `0.0.2` with the greatest 64-bit integer, and then with one more. -/
def overflowingTransfer : RecordItem :=
  { consensusTimestamp := 10, payerAccountId := ⟨0, 0, 2⟩, body := .cryptoTransfer {},
    receipt := { status := ⟨22⟩ },
    record := { transferList := [{ accountId := ⟨0, 0, 2⟩, amount := I64.hi },
                                 { accountId := ⟨0, 0, 2⟩, amount := 1 }] } }

theorem projectRecord_panics_only_in_balance_arithmetic_overflowingTransfer :
    (projectRecord {} .memory {} overflowingTransfer).2 = .failed (.overflow .add) [] ∧
      (Failure.overflow .add).panic? = some .add ∧
      (overflowingTransfer.SumOverflow .add ∨
        (∃ ms₁ m d, [] = ms₁ ++ [m] ∧ m.balance? = some d ∧
          I64.checkedAdd (((({} : Sink).ledger.receive ms₁).currentBalance? m).getD 0) d =
            .error .add) ∨
        (Overflow.add = .add ∧ I32.ofCount overflowingTransfer.evmLogCount +
          ([] : List Mutation).countP Mutation.isSyntheticLog = I32.hi)) :=
  have h : (projectRecord {} .memory {} overflowingTransfer).2 = .failed (.overflow .add) [] :=
    rfl
  ⟨h, rfl, projectRecord_panics_only_in_balance_arithmetic.1 {} .memory {} overflowingTransfer _ _ _
    h rfl⟩

end LedgerProjection
