import LedgerProjection.Proofs.Approvals
import LedgerProjection.Proofs.Records
import LedgerProjection.Proofs.ProgramLogic

/-!
## Contract log indexes of an approve record are distinct

A record numbers its contract logs from one counter: the synthetic events of its approvals take
the indexes after its `L` EVM logs (`RecordItem.evmLogCount`), and the EVM logs, emitted after the
approvals by the contract result, take `0` to `L - 1`.

* `Mutation.logIndexes`: the indexes of the contract logs among rows, in order.
  `Approval.logIndexes_rows`: the events of approvals numbered from `i` carry `i, i + 1, ...`.
* `Projection.LogsFrom x c P is`: whatever `x` does from `c`, the logs it emits satisfy `P` and
  their indexes begin `is`, all of `is` when it returns. The phases of a record after its handler
  emit EVM logs numbered from `0` and no other log (`recordContractResult_logsFrom`, and
  `LogsFrom.of_keeps` for the phases that emit no log).
* `Projection.EmitsFrom.bind_logsFrom`: exact rows as far as the ledger takes them, then logs so
  described.
* `projectRecord_approval_rows`: a successful approve record emits the rows of its approvals as
  far as the ledger takes them, then rows whose logs are EVM logs numbered `0, 1, ...`; all the
  contract log indexes of the record are distinct.
-/

namespace LedgerProjection

/-! ### Log indexes -/

namespace Mutation

/-- The contract log a row is, when it is one. -/
def log? : Mutation → Option ContractLog
  | .contractLog l => some l
  | _ => none

/-- The indexes of the contract logs among rows, in order. -/
def logIndexes (ms : List Mutation) : List Int := (ms.filterMap log?).map (·.index)

@[simp]
theorem logIndexes_nil : logIndexes [] = [] := rfl

@[simp]
theorem logIndexes_append (ms ms' : List Mutation) :
    logIndexes (ms ++ ms') = logIndexes ms ++ logIndexes ms' := by
  simp [logIndexes]

theorem logIndexes_cons_of_log?_eq_none {m : Mutation} (h : m.log? = none) (ms : List Mutation) :
    logIndexes (m :: ms) = logIndexes ms := by
  simp [logIndexes, h]

theorem logIndexes_eq_nil {ms : List Mutation} (h : ∀ m ∈ ms, m.log? = none) :
    logIndexes ms = [] := by
  simp only [logIndexes, List.map_eq_nil_iff, List.filterMap_eq_nil_iff]
  exact h

theorem IsPrefix.logIndexes {ms ms' : List Mutation} (h : ms <+: ms') :
    logIndexes ms <+: logIndexes ms' :=
  (h.filterMap log?).map _

end Mutation

namespace Approval

theorem log?_row (item : RecordItem) (a : Approval) : (a.row item).log? = none := by
  cases a <;> rfl

/-- The events of approvals numbered from `i` carry `i, i + 1, ...` in order. -/
theorem logIndexes_rows (item : RecordItem) (logs : Bool) :
    ∀ (i : Int) (as : List Approval),
      Mutation.logIndexes (rows item logs i as) =
        (List.range (eventCount logs as)).map fun k : Nat => i + (k : Int)
  | i, [] => by simp [rows]
  | i, a :: as => by
    by_cases h : logs && a.announced
    · -- the row, then its event numbered `i`, then the rest from `i + 1`
      have hevent : ∀ l ∈ a.event? item i, l.index = i := by
        intro l hl
        cases a <;> simp [event?, syntheticLog] at hl <;> rw [← hl]
      obtain ⟨l, hl⟩ := Option.isSome_iff_exists.1
        ((event?_isSome item i a).trans (Bool.and_eq_true_iff.1 h).2)
      have hlog : Mutation.logIndexes ((a.event? item i).toList.map .contractLog) = [i] := by
        simp [hl, Mutation.logIndexes, Mutation.log?, hevent l hl]
      have hcount : eventCount logs (a :: as) = eventCount logs as + 1 := by
        rw [eventCount_cons, if_pos h, Nat.add_comm]
      rw [rows, if_pos h, Mutation.logIndexes_append,
        Mutation.logIndexes_cons_of_log?_eq_none (log?_row item a), hlog,
        logIndexes_rows item logs (i + 1) as, hcount, List.range_succ_eq_map]
      simp only [List.singleton_append, List.map_cons, List.map_map, Nat.cast_zero, add_zero,
        List.cons.injEq, true_and]
      refine List.map_congr_left fun k _ => ?_
      simp only [Function.comp_apply]
      omega
    · rw [rows, if_neg h, Mutation.logIndexes_cons_of_log?_eq_none (log?_row item a),
        eventCount_cons, if_neg h, zero_add, logIndexes_rows item logs i as]

end Approval


/-- A count below `2 ^ 31` is its own 32-bit integer. -/
theorem I32.ofCount_of_lt {n : Nat} (h : n < 2 ^ 31) : I32.ofCount n = n :=
  Int.bmod_eq_of_le (by omega) (by push_cast; omega)

/-- A record's synthetic logs are numbered after its EVM logs, counted as a 32-bit integer. -/
theorem Ctx.start_nextLogIndex (props : Properties) (via : ResolverKind) (sink : Sink)
    (item : RecordItem) : (Ctx.start props via sink item).nextLogIndex = I32.ofCount item.evmLogCount := by
  simp only [Ctx.start]

/-- A record whose EVM logs and `n` more leave fewer than `2 ^ 31` starts with room for `n` log
indexes after its EVM logs. -/
theorem Ctx.start_hasRoom (props : Properties) (via : ResolverKind) (sink : Sink)
    {item : RecordItem} {n : Nat} (h : item.evmLogCount + n < 2 ^ 31) :
    (Ctx.start props via sink item).nextLogIndex = item.evmLogCount ∧
      (Ctx.start props via sink item).HasRoom n := by
  have hL : (Ctx.start props via sink item).nextLogIndex = item.evmLogCount := by
    rw [Ctx.start_nextLogIndex, I32.ofCount_of_lt (by omega)]
  refine ⟨hL, fun k hk => ?_⟩
  rw [hL]
  simp only [I32.InRange, I32.lo, I32.hi]
  omega

/-! ### What a program emits of contract logs -/

namespace Projection

variable {α β : Type}

/-- From any state, a program that keeps `Q` ends having emitted, on top of what was emitted
before, rows that all satisfy `Q`. -/
theorem Keeps.after_emitted {Q : Mutation → Prop} {x : Projection α} (h : Keeps Q x) (c : Ctx) :
    ∃ new : List Mutation, (x.after c).emitted = new.reverse ++ c.emitted ∧ ∀ m ∈ new, Q m := by
  have hc := h c
  rcases hrun : x.run c with ⟨a, c'⟩ | ⟨f, c'⟩ <;> rw [hrun] at hc
  · obtain ⟨ms, hms, hd⟩ := hc
    exact ⟨ms, by rw [after_of_ok hrun, hd.emitted], hms⟩
  · rw [after_of_error hrun]
    cases f with
    | overflow o =>
      obtain ⟨ms, hms, hd⟩ := hc
      exact ⟨ms, hd.emitted, hms⟩
    | refused r =>
      -- the rows delivered, then the one refused
      obtain ⟨c₁, m, ⟨ms, hms, hd⟩, hm, he, -⟩ := hc
      refine ⟨ms ++ [m], by rw [he, hd.emitted]; simp, fun m' hm' => ?_⟩
      rcases List.mem_append.1 hm' with hm' | hm'
      · exact hms m' hm'
      · rw [List.mem_singleton.1 hm']
        exact hm

theorem Keeps.props_of_ok {Q : Mutation → Prop} {x : Projection α} (h : Keeps Q x) {c c' : Ctx}
    {a : α} (hrun : x.run c = .ok a c') : c'.props = c.props := by
  obtain ⟨ms, -, hd⟩ := h.grows_of_ok hrun
  exact hd.props

/-- Whatever `x` does from `c`, the contract logs it emits satisfy `P` and their indexes, in
order, begin `is`: all of `is` when it returns, having kept the settings. -/
structure LogsFrom (x : Projection α) (c : Ctx) (P : ContractLog → Prop) (is : List Int) :
    Prop where
  emits : ∃ new : List Mutation, (x.after c).emitted = new.reverse ++ c.emitted ∧
    (∀ l ∈ new.filterMap Mutation.log?, P l) ∧ Mutation.logIndexes new <+: is ∧
    ∀ {a c'}, x.run c = .ok a c' → Mutation.logIndexes new = is
  props : ∀ {a c'}, x.run c = .ok a c' → c'.props = c.props

namespace LogsFrom

variable {x y : Projection α} {c : Ctx} {P : ContractLog → Prop} {is is' : List Int}

/-- A program whose rows are no contract logs emits none. -/
theorem of_keeps (h : Keeps (fun m => m.log? = none) x) : LogsFrom x c P [] := by
  obtain ⟨new, he, hnew⟩ := h.after_emitted c
  have hlogs : new.filterMap Mutation.log? = [] := List.filterMap_eq_nil_iff.2 hnew
  refine ⟨⟨new, he, by simp [hlogs], ?_, fun _ => Mutation.logIndexes_eq_nil hnew⟩,
    h.props_of_ok⟩
  rw [Mutation.logIndexes_eq_nil hnew]

/-- Two programs that run alike from `c` emit alike. -/
theorem of_run_eq (h : x.run c = y.run c) (hy : LogsFrom y c P is) : LogsFrom x c P is := by
  have hafter : x.after c = y.after c := by rw [after, after, h]
  obtain ⟨new, he, hP, hpre, hok⟩ := hy.emits
  exact ⟨⟨new, hafter ▸ he, hP, hpre, fun hx => hok (h ▸ hx)⟩, fun hx => hy.props (h ▸ hx)⟩

/-- A row, a contract log satisfying `P` when it is one. -/
theorem emit (m : Mutation) (hm : ∀ l, m.log? = some l → P l) :
    LogsFrom (Projection.emit m) c P (Mutation.logIndexes [m]) := by
  refine ⟨⟨[m], by rw [after_emit]; rfl, fun l hl => ?_, List.prefix_refl _, fun _ => rfl⟩, ?_⟩
  · obtain ⟨m', hm', hl⟩ := List.mem_filterMap.1 hl
    rw [List.mem_singleton.1 hm'] at hl
    exact hm l hl
  · intro a c' h
    obtain ⟨-, rfl⟩ := run_emit_eq_ok h
    rfl

theorem bind {f : α → Projection β} (hx : LogsFrom x c P is)
    (hf : ∀ a c₁, x.run c = .ok a c₁ → LogsFrom (f a) c₁ P is') :
    LogsFrom (x >>= f) c P (is ++ is') := by
  obtain ⟨new, he, hP, hpre, hok⟩ := hx.emits
  rcases hrun : x.run c with ⟨a, c₁⟩ | ⟨e, c₁⟩
  · -- `x` returned having emitted all of `is`; the rest runs from there
    have h₁ := hf a c₁ hrun
    obtain ⟨new', he', hP', hpre', hok'⟩ := h₁.emits
    have hafter : (x >>= f).after c = (f a).after c₁ := after_bind_of_ok hrun
    have hc₁ : c₁.emitted = new.reverse ++ c.emitted := by rw [← after_of_ok hrun, he]
    refine ⟨⟨new ++ new', ?_, fun l hl => ?_, ?_, fun h => ?_⟩, fun h => ?_⟩
    · rw [hafter, he', hc₁, List.reverse_append, List.append_assoc]
    · rw [List.filterMap_append] at hl
      rcases List.mem_append.1 hl with hl | hl
      · exact hP l hl
      · exact hP' l hl
    · rw [Mutation.logIndexes_append, hok hrun]
      exact (List.prefix_append_right_inj is).2 hpre'
    · rw [run_bind, hrun] at h
      rw [Mutation.logIndexes_append, hok hrun, hok' h]
    · rw [run_bind, hrun] at h
      rw [h₁.props h, hx.props hrun]
  · -- `x` stopped, and so did the whole
    have hafter : (x >>= f).after c = x.after c :=
      (after_bind_of_error hrun).trans (after_of_error hrun).symm
    refine ⟨⟨new, by rw [hafter, he], hP, hpre.trans (List.prefix_append _ _), fun h => ?_⟩,
      fun h => ?_⟩ <;> rw [run_bind, hrun] at h <;> cases h

/-- What follows a part that emits no log. -/
theorem nil_bind {f : α → Projection β} (hx : LogsFrom x c P [])
    (hf : ∀ a c₁, x.run c = .ok a c₁ → LogsFrom (f a) c₁ P is') :
    LogsFrom (x >>= f) c P is' := by
  simpa using hx.bind hf

/-- What follows a part that emits no log, from the states it leaves with the settings kept. -/
theorem keeps_bind {f : α → Projection β} (hx : Keeps (fun m => m.log? = none) x)
    (hf : ∀ a c₁, c₁.persist = c.persist → LogsFrom (f a) c₁ P is') :
    LogsFrom (x >>= f) c P is' :=
  nil_bind (of_keeps hx) fun a c₁ h => hf a c₁ (by rw [Ctx.persist, Ctx.persist, hx.props_of_ok h])

/-- A part, then what emits no log. -/
theorem bind_nil {f : α → Projection β} (hx : LogsFrom x c P is)
    (hf : ∀ a c₁, x.run c = .ok a c₁ → LogsFrom (f a) c₁ P []) :
    LogsFrom (x >>= f) c P is := by
  simpa using hx.bind hf

/-- What follows reading the settings. -/
theorem persist_bind {f : Persist → Projection β} (hf : LogsFrom (f c.persist) c P is) :
    LogsFrom (Projection.persist >>= f) c P is :=
  of_run_eq (by rw [run_bind, run_persist]) hf

theorem ite {p : Prop} [Decidable p] (hx : p → LogsFrom x c P is)
    (hy : ¬p → LogsFrom y c P is') :
    LogsFrom (if p then x else y) c P (if p then is else is') := by
  split
  · exact hx ‹p›
  · exact hy ‹¬p›

end LogsFrom

/-! ### The phases after the handler -/

section Phases

variable {P : Mutation → Prop} (item : RecordItem)

/-- The EVM logs of a function result, numbered on from `i`. -/
theorem emitLogs_logsFrom (root : EntityId) :
    ∀ (i : Nat) (logs : List ContractLogInfo) (c : Ctx),
      LogsFrom (emitLogs item root i logs) c (·.synthetic = false)
        ((List.range logs.length).map fun k : Nat => ((i + k : Nat) : Int))
  | i, [], c => by
    rw [emitLogs]
    exact LogsFrom.of_keeps (Keeps.pure ())
  | i, log :: rest, c => by
    have his : (List.range (log :: rest).length).map (fun k : Nat => ((i + k : Nat) : Int)) =
        [(i : Int)] ++ (List.range rest.length).map fun k : Nat => ((i + 1 + k : Nat) : Int) := by
      simp only [List.length_cons, List.range_succ_eq_map, List.map_cons, List.map_map,
        Nat.add_zero, List.singleton_append, List.cons.injEq, true_and]
      refine List.map_congr_left fun k _ => ?_
      simp only [Function.comp_apply, Nat.succ_eq_add_one]
      omega
    rw [emitLogs, his]
    refine LogsFrom.nil_bind (LogsFrom.of_keeps (Keeps.track _)) fun _ c₁ _ => ?_
    exact (LogsFrom.emit _ fun l hl => by cases hl; rfl).bind fun _ c₂ _ =>
      emitLogs_logsFrom root (i + 1) rest c₂

theorem evmLogCount_of_some {fr : ContractFunctionResult}
    (h : item.record.contractFunctionResult = some fr) : item.evmLogCount = fr.logs.length := by
  simp [RecordItem.evmLogCount, h]

theorem evmLogCount_of_none (h : item.record.contractFunctionResult = none) :
    item.evmLogCount = 0 := by
  simp [RecordItem.evmLogCount, h]

theorem recordBodyOnlyResult_keeps (hr : ∀ r, P (.contractResult r))
    (adjust : RecordItem → ContractResult → ContractResult) (contractId : EntityId) :
    Keeps P (recordBodyOnlyResult adjust item contractId) :=
  recordBodyOnlyResult_holds (Logic.keeps P) item (fun _ => Keeps.emit (hr _)) adjust contractId

/-- The storage changes of a record's sidecars, while contracts are kept. -/
theorem sidecarChanges_keeps (hs : ∀ s, P (.contractStateChange s)) :
    Keeps P (Projection.persist >>= fun p =>
      if p.contracts then emitAll (item.sidecars.flatMap (sidecarChanges item)) else pure ()) :=
  sidecarChanges_holds (Logic.keeps P) item fun _ => Keeps.emit (hs _)

/-- The EVM outcome of a record: when results are kept, its logs numbered from `0`. -/
theorem recordContractResult_logsFrom (adjust : RecordItem → ContractResult → ContractResult)
    (entityId : EntityId) (c : Ctx) :
    LogsFrom (recordContractResult adjust item entityId) c (·.synthetic = false)
      (if c.persist.contractResults then
        (List.range item.evmLogCount).map fun k : Nat => (k : Int) else []) := by
  unfold recordContractResult
  split
  · rename_i fr hfr
    dsimp only
    refine LogsFrom.keeps_bind (Keeps.track _) fun _ c₁ hp₁ => ?_
    rw [← hp₁]
    -- the sender, when there is one, is touched before the shared rest
    split
    on_goal 1 =>
      refine LogsFrom.keeps_bind (Keeps.track _) fun _ c₂ hp₂ => ?_
      rw [← hp₂]
    all_goals
      refine LogsFrom.keeps_bind (Keeps.trackAll _) fun _ c₃ hp₃ => ?_
      rw [← hp₃]
      refine LogsFrom.persist_bind (LogsFrom.ite (fun _ => ?_)
        fun _ => LogsFrom.of_keeps (sidecarChanges_keeps item fun _ => rfl))
      rw [evmLogCount_of_some item hfr]
      refine LogsFrom.keeps_bind (Keeps.emit rfl) fun _ c₅ _ => ?_
      simpa using (emitLogs_logsFrom item _ 0 fr.logs c₅).bind_nil fun _ c₆ _ =>
        LogsFrom.of_keeps (sidecarChanges_keeps item fun _ => rfl)
  · rename_i hfr
    rw [evmLogCount_of_none item (Option.eq_none_iff_forall_ne_some.2 hfr)]
    simpa using LogsFrom.of_keeps (recordBodyOnlyResult_keeps item (fun _ => rfl) adjust entityId)

/-- After its EVM outcome a record writes associations, NFT moves, balance changes and its
transaction row only: a row predicate that holds of every token account, NFT, entity and
transaction row is kept. -/
theorem afterResult_keeps (ha : ∀ a, P (.tokenAccount a)) (hn : ∀ n, P (.nft n))
    (he : ∀ e, P (.entity e)) (ht : ∀ t, P (.transaction t)) (tx : Transaction) :
    Keeps P (do
      applyAutomaticAssociations item
      applyNftTransfers item
      applyBalanceChanges item
      emit (.transaction tx)
      return tx) :=
  Keeps.bind (applyAutomaticAssociations_holds (Logic.keeps P) item
      fun _ _ _ _ => Keeps.bind (Keeps.tokenKeys _) fun _ => Keeps.emit (ha _)) fun _ =>
    Keeps.bind (applyNftTransfers_holds (Logic.keeps P) item fun _ _ _ => Keeps.emit (hn _))
      fun _ =>
    Keeps.bind (applyBalanceChanges_holds (Logic.keeps P) item
      (fun {α} o _ => Keeps.fail (α := α) o) (fun _ _ _ _ => Keeps.emit (he _))
      fun _ _ _ _ => Keeps.emit (ha _))
      fun _ => Keeps.bind (Keeps.emit (ht _)) fun _ => Keeps.pure _

end Phases

end Projection

/-! ### The handler of an approve record -/

theorem Allowance.approvals_alike {c c' : Ctx} (h : c.Alike c') (item : RecordItem)
    (body : CryptoApproveAllowanceBody) : approvals c' item body = approvals c item body := by
  simp only [approvals, candidates, hbarRequest_alike h, tokenRequest_alike h,
    nftCandidates_alike h]

open Projection in
/-- A successful approve record's handler writes the rows of its approvals, numbering their events
from the state's next log index. -/
theorem Handler.approveAllowance_run_steps (body : CryptoApproveAllowanceBody)
    (item : RecordItem) (c : Ctx) (hs : item.isSuccessful = true) :
    Steps ((approveAllowance body).run item) c
      (Approval.rows item c.persist.syntheticContractLogs c.nextLogIndex
        (Allowance.approvals c item body))
      (Approval.eventCount c.persist.syntheticContractLogs (Allowance.approvals c item body)) := by
  unfold Handler.run
  refine Steps.read_bind ?_
  simp only [approveAllowance, ↓reduceIte, hs, decide_true, Bool.true_or]
  refine Steps.track_bind _ fun c₂ hA₂ hi₂ => Steps.track_bind _ fun c₃ hA₃ hi₃ => ?_
  -- from any state alike, the allowances, then the transaction row returned
  have hrest : ∀ c₄, c.Alike c₄ → c₄.nextLogIndex = c.nextLogIndex →
      Steps (approveAllowances item body >>= fun _ => pure (item.transactionRow EntityId.empty)) c₄
        (Approval.rows item c.persist.syntheticContractLogs c.nextLogIndex
          (Allowance.approvals c item body))
        (Approval.eventCount c.persist.syntheticContractLogs
          (Allowance.approvals c item body)) := by
    intro c₄ hA hi
    have h := (approveAllowances_steps item body c₄).bind fun _ c₅ _ =>
      Steps.pure (c := c₅) (item.transactionRow EntityId.empty)
    rw [Allowance.approvals_alike hA, hA.persist, hi] at h
    simpa using h
  -- the node, when there is one, is touched first
  split
  · exact Steps.track_bind _ fun c₄ hA₄ hi₄ =>
      hrest c₄ (hA₂.trans (hA₃.trans hA₄)) (by rw [hi₄, hi₃, hi₂])
  · exact hrest c₃ (hA₂.trans hA₃) (by rw [hi₃, hi₂])

/-! ### An approve record -/

open Projection in
/-- Rows emitted exactly as far as the ledger takes them, then a part whose logs `LogsFrom`
describes, which runs only when the ledger took every row. -/
theorem Projection.EmitsFrom.bind_logsFrom {α β : Type} {x : Projection α}
    {f : α → Projection β} {c : Ctx} {ms : List Mutation} {P : ContractLog → Prop}
    {is : List Int} (hx : EmitsFrom x c ms)
    (hf : ∀ a c₁, x.run c = .ok a c₁ → LogsFrom (f a) c₁ P is) :
    ∃ rest : List Mutation,
      ((x >>= f).after c).emitted = (c.sink.ledger.attempt ms ++ rest).reverse ++ c.emitted ∧
      (rest ≠ [] → c.sink.ledger.Accepts ms) ∧ (∀ l ∈ rest.filterMap Mutation.log?, P l) ∧
      Mutation.logIndexes rest <+: is := by
  rcases hrun : x.run c with ⟨a, c₁⟩ | ⟨e, c₁⟩
  · -- every row was taken; the second part ran from there
    obtain ⟨new, he, hP, hpre, -⟩ := (hf a c₁ hrun).emits
    have hafter : (x >>= f).after c = (f a).after c₁ := after_bind_of_ok hrun
    have hc₁ : c₁.emitted = (c.sink.ledger.attempt ms).reverse ++ c.emitted := by
      rw [← after_of_ok hrun]
      exact hx.emitted_eq
    refine ⟨new, ?_, fun _ => hx.accepts_of_ok hrun, hP, hpre⟩
    rw [hafter, he, hc₁, List.reverse_append, List.append_assoc]
  · have hafter : (x >>= f).after c = x.after c :=
      (after_bind_of_error hrun).trans (after_of_error hrun).symm
    refine ⟨[], ?_, fun h => (h rfl).elim, by simp, by simp⟩
    rw [hafter, hx.emitted_eq, List.append_nil]

open Projection in
/-- A successful approve record emits the rows of its approvals as far as the ledger takes them;
once it took them all, the rest of the record emits no synthetic log, and its EVM logs are
numbered `0, 1, ...`. -/
theorem projectRecord_approval_rows (props : Properties) (via : ResolverKind) (sink : Sink)
    (item : RecordItem) (body : CryptoApproveAllowanceBody)
    (hbody : item.body = .cryptoApproveAllowance body) (hs : item.isSuccessful = true)
    (hroom : item.evmLogCount + Approval.eventCount props.persist.syntheticContractLogs
      (Allowance.approvals (Ctx.start props via sink item) item body) < 2 ^ 31) :
    ∃ rest, (projectRecord props via sink item).2.mutations =
        sink.ledger.attempt (Approval.rows item props.persist.syntheticContractLogs
          item.evmLogCount (Allowance.approvals (Ctx.start props via sink item) item body)) ++
          rest ∧
      (rest ≠ [] → sink.ledger.Accepts (Approval.rows item props.persist.syntheticContractLogs
        item.evmLogCount (Allowance.approvals (Ctx.start props via sink item) item body))) ∧
      (∀ l ∈ rest.filterMap Mutation.log?, l.synthetic = false) ∧
      Mutation.logIndexes rest <+: (List.range item.evmLogCount).map fun k : Nat => (k : Int) := by
  set c := Ctx.start props via sink item with hc
  obtain ⟨hL, hroom⟩ := Ctx.start_hasRoom props via sink hroom
  have hsteps := Handler.approveAllowance_run_steps body item c hs
  rw [hc, hL] at hsteps
  -- after the handler: the contract result, then phases that emit no log
  have hrest : ∀ tx c₁, ((Handler.approveAllowance body).run item).run c = .ok tx c₁ →
      LogsFrom (recordContractResult (Handler.approveAllowance body).adjustResult item
          (tx.entityId.getD EntityId.empty) >>= fun _ =>
        applyAutomaticAssociations item >>= fun _ => applyNftTransfers item >>= fun _ =>
        applyBalanceChanges item >>= fun _ => emit (.transaction tx) >>= fun _ => pure tx) c₁
        (·.synthetic = false)
        (if c.persist.contractResults then
          (List.range item.evmLogCount).map fun k : Nat => (k : Int) else []) := by
    intro tx c₁ h₁
    rw [← ((Handler.approveAllowance_run_steps body item c hs).alike h₁).1.persist]
    exact (recordContractResult_logsFrom item _ _ c₁).bind_nil fun _ _ _ =>
      LogsFrom.of_keeps (afterResult_keeps (P := fun m => m.log? = none) item
        (fun _ => rfl) (fun _ => rfl) (fun _ => rfl) (fun _ => rfl) tx)
  have hprocess : process item = ((Handler.approveAllowance body).run item >>= fun tx =>
      recordContractResult (Handler.approveAllowance body).adjustResult item
          (tx.entityId.getD EntityId.empty) >>= fun _ =>
        applyAutomaticAssociations item >>= fun _ => applyNftTransfers item >>= fun _ =>
        applyBalanceChanges item >>= fun _ => emit (.transaction tx) >>= fun _ => pure tx) := by
    rw [process, hbody]
    rfl
  obtain ⟨rest, he, hacc, hsyn, hpre⟩ := (hsteps.emits hroom).bind_logsFrom hrest
  refine ⟨rest, ?_, hacc, hsyn, hpre.trans ?_⟩
  · have hemitted : c.emitted = [] := rfl
    rw [(projectRecord_after props via sink item).2, ← hc, hprocess, he, hemitted,
      List.append_nil, List.reverse_reverse]
    rfl
  · split
    · exact List.prefix_refl _
    · exact List.nil_prefix

/-- Indexes from `L` on and indexes below `L`, each taken in order without repeats, never meet. -/
theorem nodup_of_prefixes {A B : List Int} {L n : Nat}
    (hA : A <+: (List.range n).map fun k : Nat => (L : Int) + k)
    (hB : B <+: (List.range L).map fun k : Nat => (k : Int)) : (A ++ B).Nodup := by
  have hnA : ((List.range n).map fun k : Nat => (L : Int) + k).Nodup :=
    List.nodup_range.map fun a b h => by simpa using h
  have hnB : ((List.range L).map fun k : Nat => (k : Int)).Nodup :=
    List.nodup_range.map fun a b h => by simpa using h
  refine List.nodup_append.2 ⟨hnA.sublist hA.sublist, hnB.sublist hB.sublist, fun a ha b hb => ?_⟩
  obtain ⟨k, -, rfl⟩ := List.mem_map.1 (hA.subset ha)
  obtain ⟨j, hj, rfl⟩ := List.mem_map.1 (hB.subset hb)
  rw [List.mem_range] at hj
  omega

/-- A successful approve record whose `L` EVM logs and synthetic events number fewer than
`2 ^ 31` follows each approval row but an hbar allowance by its synthetic event, when those are
kept, numbering the events on from its EVM logs: `L, L + 1, ...`. It emits these rows as far as
the ledger takes them; once it took them all, the rest of the record emits no synthetic log and
its EVM logs numbered `0, 1, ...`. So no two contract logs of the record share an index. -/
theorem projectRecord_approval_log_indexes (props : Properties) (via : ResolverKind)
    (sink : Sink) (item : RecordItem) (body : CryptoApproveAllowanceBody)
    (hbody : item.body = .cryptoApproveAllowance body) (hs : item.isSuccessful = true)
    (hroom : item.evmLogCount + Approval.eventCount props.persist.syntheticContractLogs
      (Allowance.approvals (Ctx.start props via sink item) item body) < 2 ^ 31) :
    Mutation.logIndexes (Approval.rows item props.persist.syntheticContractLogs item.evmLogCount
        (Allowance.approvals (Ctx.start props via sink item) item body)) =
      (List.range (Approval.eventCount props.persist.syntheticContractLogs
        (Allowance.approvals (Ctx.start props via sink item) item body))).map
          (fun k : Nat => (item.evmLogCount : Int) + k) ∧
    (∃ rest, (projectRecord props via sink item).2.mutations =
        sink.ledger.attempt (Approval.rows item props.persist.syntheticContractLogs
          item.evmLogCount (Allowance.approvals (Ctx.start props via sink item) item body)) ++
          rest ∧
      (rest ≠ [] → sink.ledger.Accepts (Approval.rows item props.persist.syntheticContractLogs
        item.evmLogCount (Allowance.approvals (Ctx.start props via sink item) item body))) ∧
      (∀ l ∈ rest.filterMap Mutation.log?, l.synthetic = false) ∧
      Mutation.logIndexes rest <+: (List.range item.evmLogCount).map fun k : Nat => (k : Int)) ∧
    (Mutation.logIndexes (projectRecord props via sink item).2.mutations).Nodup := by
  have hrows := Approval.logIndexes_rows item props.persist.syntheticContractLogs
    item.evmLogCount (Allowance.approvals (Ctx.start props via sink item) item body)
  obtain ⟨rest, hmut, hacc, hsyn, hpre⟩ :=
    projectRecord_approval_rows props via sink item body hbody hs hroom
  refine ⟨hrows, ⟨rest, hmut, hacc, hsyn, hpre⟩, ?_⟩
  -- the events emitted are a prefix of the events, the EVM logs a prefix of `0, 1, ...`
  have hevents := Mutation.IsPrefix.logIndexes (Ledger.attempt_prefix sink.ledger
    (Approval.rows item props.persist.syntheticContractLogs item.evmLogCount
      (Allowance.approvals (Ctx.start props via sink item) item body)))
  rw [hrows] at hevents
  rw [hmut, Mutation.logIndexes_append]
  exact nodup_of_prefixes hevents hpre

/-- `0.0.2` lets `0.0.5` spend 4 of token `0.0.7`. -/
def tokenApproval : CryptoApproveAllowanceBody :=
  { tokenAllowances := [{ spender := some (.id ⟨0, 0, 5⟩), tokenId := ⟨0, 0, 7⟩, amount := 4 }] }

/-- The successful record of that approval, at 10. -/
def tokenApprovalAtTen : RecordItem :=
  { consensusTimestamp := 10, payerAccountId := ⟨0, 0, 2⟩,
    body := .cryptoApproveAllowance tokenApproval, receipt := { status := ⟨22⟩ } }

/-- A sink whose ledger holds the same token allowance from 20 on. -/
def tokenAllowanceFromTwenty : Sink :=
  (({} : Sink).deliver (.tokenAllowance
    { owner := ⟨0, 0, 2⟩, spender := ⟨0, 0, 5⟩, tokenId := ⟨0, 0, 7⟩,
      timestampRange := some (.openFrom 20), amount := 1, amountGranted := 1,
      payerAccountId := ⟨0, 0, 2⟩ })).1

theorem projectRecord_approval_log_indexes_tokenApproval :
    tokenApprovalAtTen.body = .cryptoApproveAllowance tokenApproval ∧
      tokenApprovalAtTen.isSuccessful = true ∧
      tokenApprovalAtTen.evmLogCount + Approval.eventCount
          ({} : Properties).persist.syntheticContractLogs
          (Allowance.approvals (Ctx.start {} .memory {} tokenApprovalAtTen) tokenApprovalAtTen
            tokenApproval) < 2 ^ 31 ∧
      (Mutation.logIndexes (Approval.rows tokenApprovalAtTen
          ({} : Properties).persist.syntheticContractLogs tokenApprovalAtTen.evmLogCount
          (Allowance.approvals (Ctx.start {} .memory {} tokenApprovalAtTen) tokenApprovalAtTen
            tokenApproval)) =
        (List.range (Approval.eventCount ({} : Properties).persist.syntheticContractLogs
          (Allowance.approvals (Ctx.start {} .memory {} tokenApprovalAtTen) tokenApprovalAtTen
            tokenApproval))).map
          (fun k : Nat => (tokenApprovalAtTen.evmLogCount : Int) + k) ∧
      (∃ rest, (projectRecord {} .memory {} tokenApprovalAtTen).2.mutations =
          ({} : Sink).ledger.attempt (Approval.rows tokenApprovalAtTen
            ({} : Properties).persist.syntheticContractLogs tokenApprovalAtTen.evmLogCount
            (Allowance.approvals (Ctx.start {} .memory {} tokenApprovalAtTen) tokenApprovalAtTen
              tokenApproval)) ++ rest ∧
        (rest ≠ [] → ({} : Sink).ledger.Accepts (Approval.rows tokenApprovalAtTen
          ({} : Properties).persist.syntheticContractLogs tokenApprovalAtTen.evmLogCount
          (Allowance.approvals (Ctx.start {} .memory {} tokenApprovalAtTen) tokenApprovalAtTen
            tokenApproval))) ∧
        (∀ l ∈ rest.filterMap Mutation.log?, l.synthetic = false) ∧
        Mutation.logIndexes rest <+:
          (List.range tokenApprovalAtTen.evmLogCount).map fun k : Nat => (k : Int)) ∧
      (Mutation.logIndexes (projectRecord {} .memory {} tokenApprovalAtTen).2.mutations).Nodup) :=
  ⟨rfl, by decide, by decide, projectRecord_approval_log_indexes {} .memory {} tokenApprovalAtTen
    tokenApproval rfl (by decide) (by decide)⟩

/-- After the ledger took the same token allowance from 20 on, the approval at 10 stops at its
refused row: no event follows the token allowance it emitted. -/
theorem projectRecord_refused_approval_has_no_event :
    (projectRecord {} .memory tokenAllowanceFromTwenty tokenApprovalAtTen).2.mutations =
      [.tokenAllowance
        { owner := ⟨0, 0, 2⟩, spender := ⟨0, 0, 5⟩, tokenId := ⟨0, 0, 7⟩,
          timestampRange := some (.openFrom 10), amount := 4, amountGranted := 4,
          payerAccountId := ⟨0, 0, 2⟩ }] := by
  decide

end LedgerProjection
