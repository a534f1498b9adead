import LedgerProjection.Proofs.ContractResults

/-!
## Schedule signatures: one row per key prefix

Creating or signing a schedule records who signed toward it: one transaction signature row
per distinct public key prefix of the record's signature map, drawn from the first pair with
that prefix, in the order the prefixes first appear. The rows are written only when the
schedule is set, the record succeeded and signatures are kept.

* `map_firstsBy_nil`: the keys `firstsBy` keeps are the keys with duplicates erased, first
  occurrences kept; with `filter_firstsBy` this pins the kept items down.
* `Handler.signatureRows_eq`: the rows of a signature map are the pairs `firstsBy` keeps, each
  as its `SignaturePair.scheduleRow`.
* `Ledger.accepts_of_signatures`: no ledger refuses a signature row, so all of them are written.
* `Handler.signedSchedule_run_emitsThen`: the handler of a schedule creation or signing emits
  its signature rows before any other row, and no other signature row.
* `projectRecord_signatures_eq`: the signature rows of such a record's outcome, whether it
  finished or stopped at a refused row later on; `projectRecord_signatures_firstPerPrefix`
  reads them as one row per prefix.
-/

namespace LedgerProjection

/-- The signature row a mutation carries. -/
def Mutation.signature? : Mutation → Option TransactionSignature
  | .transactionSignature r => some r
  | _ => none

/-- The row recording that a pair signed toward `schedule` in `item`. -/
def SignaturePair.scheduleRow (item : RecordItem) (schedule : EntityId) (p : SignaturePair) :
    TransactionSignature :=
  { consensusTimestamp := item.consensusTimestamp, entityId := schedule,
    publicKeyPrefix := p.pubKeyPrefix, signature := p.signature,
    signatureType := p.signatureType.code }

/-- The schedule a record signs toward: the one the receipt of a creation names, or the one a
signing names in its body (`0.0.0` when absent); none for records of other kinds. -/
def RecordItem.signedSchedule? (item : RecordItem) : Option EntityId :=
  match item.body with
  | .scheduleCreate _ => some (item.receipt.scheduleId.getD EntityId.empty)
  | .scheduleSign b => some (b.schedule.getD EntityId.empty)
  | _ => none

/-! ### First occurrences by key -/

section Firsts

variable {α κ : Type} [DecidableEq κ] [BEq κ] [LawfulBEq κ] {key : α → κ}

/-- The keys of the kept items are the keys not seen, duplicates erased. -/
theorem map_firstsBy :
    ∀ (seen : List κ) (as : List α),
      (firstsBy key seen as).map key = ((as.map key).filter (· ∉ seen)).eraseDups
  | _, [] => rfl
  | seen, a :: as => by
    by_cases ha : key a ∈ seen
    · rw [firstsBy, if_pos ha, map_firstsBy seen as, List.map_cons,
        List.filter_cons_of_neg (by simpa using ha)]
    · rw [firstsBy, if_neg ha, List.map_cons, map_firstsBy (key a :: seen) as, List.map_cons,
        List.filter_cons_of_pos (by simpa using ha), List.eraseDups_cons, List.filter_filter]
      -- a key is left after `key a` exactly when it is neither `key a` nor seen
      congr 3
      funext b
      by_cases hb : b = key a <;> simp [hb]

/-- From nothing seen, the keys kept are the keys in order of first appearance. -/
theorem map_firstsBy_nil (as : List α) :
    (firstsBy key [] as).map key = (as.map key).eraseDups := by
  simp [map_firstsBy]

end Firsts

/-! ### The rows of a signature map -/

namespace Handler

variable (item : RecordItem) (schedule : EntityId)

/-- The signature rows are those of the pairs whose prefix comes first. -/
theorem signatureRows_eq :
    ∀ (seen : List (List UInt8)) (pairs : List SignaturePair),
      signatureRows item schedule seen pairs =
        (firstsBy SignaturePair.pubKeyPrefix seen pairs).map
          fun p => .transactionSignature (p.scheduleRow item schedule)
  | _, [] => rfl
  | seen, p :: rest => by
    by_cases hp : p.pubKeyPrefix ∈ seen
    · rw [signatureRows, firstsBy, if_pos hp, if_pos hp, signatureRows_eq seen rest]
    · rw [signatureRows, firstsBy, if_neg hp, if_neg hp, List.map_cons,
        signatureRows_eq (p.pubKeyPrefix :: seen) rest]
      rfl

theorem filterMap_signatureRows (seen : List (List UInt8)) (pairs : List SignaturePair) :
    (signatureRows item schedule seen pairs).filterMap Mutation.signature? =
      (firstsBy SignaturePair.pubKeyPrefix seen pairs).map (SignaturePair.scheduleRow item schedule) := by
  rw [signatureRows_eq, List.filterMap_map]
  exact congrFun List.filterMap_eq_map _

end Handler

/-- No ledger refuses a signature row: it keeps no table of them. -/
theorem Ledger.accepts_of_signatures :
    ∀ (l : Ledger) (ms : List Mutation), (∀ m ∈ ms, ∃ r, m = .transactionSignature r) →
      l.Accepts ms
  | _, [], _ => trivial
  | l, m :: ms, h => by
    obtain ⟨r, rfl⟩ := h m (List.mem_cons_self ..)
    rw [Ledger.Accepts]
    exact ⟨rfl, accepts_of_signatures _ ms fun m' hm' => h m' (List.mem_cons_of_mem _ hm')⟩

/-! ### The handlers that write them -/

namespace Projection

theorem EmitsFrom.emitAll : ∀ (ms : List Mutation) (c : Ctx), EmitsFrom (emitAll ms) c ms
  | [], _ => EmitsFrom.pure ()
  | m :: ms, _ => (EmitsFrom.emit m).bind fun _ c₁ _ => EmitsFrom.emitAll ms c₁

end Projection

namespace Handler

open Projection

variable (item : RecordItem) (schedule : EntityId)

/-- The signature rows `emitSignatures` writes under the toggles `persist`: none unless the
schedule is set, the record succeeded and signatures are kept. -/
def gatedSignatureRows (persist : Persist) : List Mutation :=
  if schedule.isEmpty = false ∧ item.isSuccessful = true ∧ persist.transactionSignatures = true
  then signatureRows item schedule [] item.signatureMap else []

theorem filterMap_gatedSignatureRows (persist : Persist) :
    (gatedSignatureRows item schedule persist).filterMap Mutation.signature? =
      if schedule.isEmpty = false ∧ item.isSuccessful = true ∧ persist.transactionSignatures = true
      then (firstsBy SignaturePair.pubKeyPrefix [] item.signatureMap).map
        (SignaturePair.scheduleRow item schedule)
      else [] := by
  unfold gatedSignatureRows
  split
  · exact filterMap_signatureRows item schedule [] item.signatureMap
  · rfl

theorem exists_of_mem_gatedSignatureRows {persist : Persist} {m : Mutation}
    (hm : m ∈ gatedSignatureRows item schedule persist) : ∃ r, m = .transactionSignature r := by
  unfold gatedSignatureRows at hm
  split at hm
  · rw [signatureRows_eq] at hm
    obtain ⟨p, -, rfl⟩ := List.mem_map.1 hm
    exact ⟨_, rfl⟩
  · cases hm

theorem emitSignatures_emitsFrom (c : Ctx) :
    EmitsFrom (emitSignatures item schedule) c (gatedSignatureRows item schedule c.persist) := by
  refine EmitsFrom.nil_bind EmitsFrom.persist fun p c₁ h => ?_
  rw [run_persist] at h
  cases h
  have hE := EmitsFrom.ite (c := c)
    (p := (schedule.isEmpty || !item.isSuccessful || !c.persist.transactionSignatures) = true)
    (fun _ => EmitsFrom.pure ()) fun _ =>
      EmitsFrom.emitAll (signatureRows item schedule [] item.signatureMap) c
  convert hE using 1
  unfold gatedSignatureRows
  cases schedule.isEmpty <;> cases item.isSuccessful <;> cases c.persist.transactionSignatures <;>
    simp

variable {item} {c : Ctx} {P : Mutation → Prop}

/-- The record template for a kind whose transaction-level effects emit `ms` exactly from every
state alike to the record's, and whose entity-level effects keep `P`: the handler emits `ms`,
then rows of `P`. -/
theorem run_emitsThen_of_onTransaction {h : Handler} {ms : List Mutation}
    (htx : ∀ c₁, c.Alike c₁ →
      EmitsFrom (h.onTransaction item (item.transactionRow (h.mainEntity c item))) c₁ ms)
    (hentity : ∀ e, Keeps P (h.onEntity item e)) : EmitsThen (h.run item) c ms P :=
  run_of_rest (R := fun y c₀ => EmitsThen y c₀ ms P)
    (fun hx hf => Steps.nil_bind_emitsThen hx hf) fun c₁ hA =>
      (EmitsThen.of_emitsFrom (htx c₁ hA)).bind_keeps fun _ =>
        Keeps.ite (fun _ => Keeps.pure _) fun _ => Keeps.bind (hentity _) fun _ => Keeps.pure _

/-- The signatures written from a state alike to `c` are those written from `c`. -/
theorem emitSignatures_emitsFrom_of_alike {c₁ : Ctx} (hA : c.Alike c₁) (tx : Transaction)
    (htx : tx.entityId.getD EntityId.empty = schedule) :
    EmitsFrom (emitSignatures item (tx.entityId.getD EntityId.empty)) c₁
      (gatedSignatureRows item schedule c.persist) := by
  have hp : c₁.persist = c.persist := by rw [Ctx.persist, Ctx.persist, hA.props]
  rw [htx, ← hp]
  exact emitSignatures_emitsFrom item schedule c₁

/-- A schedule creation emits its signature rows, then its entity and schedule rows. -/
theorem scheduleCreate_run_emitsThen (body : ScheduleCreateBody) :
    EmitsThen ((scheduleCreate body).run item) c
      (gatedSignatureRows item (item.receipt.scheduleId.getD EntityId.empty) c.persist)
      fun m => m.signature? = none := by
  refine run_emitsThen_of_onTransaction (fun c₁ hA => ?_) fun _ => ?_
  · refine ((Steps.resolveAndTrack _).emits (Ctx.hasRoom_zero _)).nil_bind fun _ c₂ hr => ?_
    exact emitSignatures_emitsFrom_of_alike _ (hA.trans ((Steps.resolveAndTrack _).alike hr).1) _
      (RecordItem.transactionRow_entityId_getD item _)
  · exact Keeps.bind (Keeps.emit rfl) fun _ => Keeps.bind Keeps.persist fun _ =>
      Keeps.ite (fun _ => Keeps.pure _) fun _ => Keeps.bind Keeps.read fun _ => Keeps.emit rfl

/-- A schedule signing emits its signature rows, and nothing else of its own. -/
theorem scheduleSign_run_emitsThen (body : ScheduleRefBody) :
    EmitsThen ((scheduleSign body).run item) c
      (gatedSignatureRows item (body.schedule.getD EntityId.empty) c.persist)
      fun m => m.signature? = none :=
  run_emitsThen_of_onTransaction
    (fun _ hA => emitSignatures_emitsFrom_of_alike _ hA _
      (RecordItem.transactionRow_entityId_getD item _))
    fun _ => Keeps.emit rfl

/-- The handler of a record that signs toward a schedule emits the signature rows, then no
other signature row. -/
theorem signedSchedule_run_emitsThen {schedule : EntityId}
    (h : item.signedSchedule? = some schedule) :
    EmitsThen ((ofBody item.body).run item) c (gatedSignatureRows item schedule c.persist)
      fun m => m.signature? = none := by
  unfold RecordItem.signedSchedule? at h
  split at h
  · next body hb =>
    cases h
    rw [hb]
    exact scheduleCreate_run_emitsThen body
  · next body hb =>
    cases h
    rw [hb]
    exact scheduleSign_run_emitsThen body
  · cases h

end Handler

namespace Projection

/-- After the handler, no phase of a record writes a signature row. -/
theorem process_rest_keeps_signatures (item : RecordItem) (h : Handler) (tx : Transaction) :
    Keeps (fun m => m.signature? = none)
      (recordContractResult h.adjustResult item (tx.entityId.getD EntityId.empty) >>= fun _ =>
        applyAutomaticAssociations item >>= fun _ => applyNftTransfers item >>= fun _ =>
        applyBalanceChanges item >>= fun _ => emit (.transaction tx) >>= fun _ => pure tx) :=
  Keeps.bind (recordContractResult_keeps item (fun _ => rfl) (fun _ => rfl) (fun _ => rfl) _ _)
    fun _ => afterResult_keeps item (fun _ => rfl) (fun _ => rfl) (fun _ => rfl) (fun _ => rfl) tx

end Projection

/-! ### The signature rows of a record -/

section Records

variable (props : Properties) (via : ResolverKind) (sink : Sink) (item : RecordItem)

/-- A record whose handler emits `ms` as far as the ledger takes them, then no signature row,
has for signature rows those of `ms` the ledger takes. -/
theorem projectRecord_signatures_of_emitsThen {ms : List Mutation}
    (h : Projection.EmitsThen ((Handler.ofBody item.body).run item) (Ctx.start props via sink item)
      ms fun m => m.signature? = none) :
    (projectRecord props via sink item).2.mutations.filterMap Mutation.signature? =
      (sink.ledger.attempt ms).filterMap Mutation.signature? := by
  have hprocess : Projection.process item = ((Handler.ofBody item.body).run item >>= fun tx =>
      Projection.recordContractResult (Handler.ofBody item.body).adjustResult item
          (tx.entityId.getD EntityId.empty) >>= fun _ =>
        Projection.applyAutomaticAssociations item >>= fun _ =>
        Projection.applyNftTransfers item >>= fun _ =>
        Projection.applyBalanceChanges item >>= fun _ =>
        Projection.emit (.transaction tx) >>= fun _ => pure tx) := rfl
  obtain ⟨⟨rest, he, hrest⟩, -⟩ :=
    h.bind_keeps (Projection.process_rest_keeps_signatures item _)
  have hmut : (projectRecord props via sink item).2.mutations = sink.ledger.attempt ms ++ rest := by
    rw [(projectRecord_after props via sink item).2, hprocess, he]
    simp [Ctx.start]
  rw [hmut, List.filterMap_append, List.filterMap_eq_nil_iff.2 hrest, List.append_nil]

variable {props via sink item}

/-- The signature rows of a record that signs toward a schedule, whether it finished or stopped
at a row refused later on: the rows of the pairs whose prefix comes first, when the schedule is
set, the record succeeded and signatures are kept, and none otherwise. -/
theorem projectRecord_signatures_eq {schedule : EntityId}
    (h : item.signedSchedule? = some schedule) :
    (projectRecord props via sink item).2.mutations.filterMap Mutation.signature? =
      if schedule.isEmpty = false ∧ item.isSuccessful = true ∧
          props.persist.transactionSignatures = true then
        (firstsBy SignaturePair.pubKeyPrefix [] item.signatureMap).map
          (SignaturePair.scheduleRow item schedule)
      else [] := by
  have hE := Handler.signedSchedule_run_emitsThen (c := Ctx.start props via sink item) h
  -- the ledger takes every signature row, so the record writes all of them
  have hacc : sink.ledger.Accepts
      (Handler.gatedSignatureRows item schedule (Ctx.start props via sink item).persist) :=
    Ledger.accepts_of_signatures _ _ fun _ hm =>
      Handler.exists_of_mem_gatedSignatureRows item schedule hm
  rw [projectRecord_signatures_of_emitsThen props via sink item hE,
    Ledger.attempt_of_accepts hacc]
  exact Handler.filterMap_gatedSignatureRows item schedule _

/-- A signature map in which the key with prefix `0x01` signs twice. -/
def repeatedSigner : List SignaturePair :=
  [{ pubKeyPrefix := [0x01], signature := [0xaa], signatureType := .ed25519 },
    { pubKeyPrefix := [0x02], signature := [0xbb], signatureType := .ecdsaSecp256k1 },
    { pubKeyPrefix := [0x01], signature := [0xcc], signatureType := .ed25519 }]

/-- Its successful signing of schedule `0.0.5` at 10. -/
def signingAtTen : RecordItem :=
  { consensusTimestamp := 10, payerAccountId := ⟨0, 0, 2⟩,
    body := .scheduleSign { schedule := some ⟨0, 0, 5⟩ }, receipt := { status := ⟨22⟩ },
    signatureMap := repeatedSigner }

example : (projectRecord {} .memory {} signingAtTen).2.mutations.filterMap Mutation.signature? =
    [{ consensusTimestamp := 10, entityId := ⟨0, 0, 5⟩, publicKeyPrefix := [0x01],
       signature := [0xaa], signatureType := SignatureType.ed25519.code },
     { consensusTimestamp := 10, entityId := ⟨0, 0, 5⟩, publicKeyPrefix := [0x02],
       signature := [0xbb], signatureType := SignatureType.ecdsaSecp256k1.code }] := by
  decide +kernel

variable (props via sink item)

/-- A record that creates or signs a schedule `schedule`, succeeds, and runs while signatures
are kept writes one signature row per distinct key prefix of its signature map, in the order
the prefixes first appear, each that of the first pair with its prefix; in every other case it
writes none. -/
theorem projectRecord_signatures_firstPerPrefix {schedule : EntityId}
    (h : item.signedSchedule? = some schedule) :
    (schedule.isEmpty = false ∧ item.isSuccessful = true ∧
        props.persist.transactionSignatures = true →
      ((projectRecord props via sink item).2.mutations.filterMap Mutation.signature?).map
          (·.publicKeyPrefix) = (item.signatureMap.map (·.pubKeyPrefix)).eraseDups ∧
      ∀ k, ((projectRecord props via sink item).2.mutations.filterMap Mutation.signature?).filter
          (·.publicKeyPrefix = k) =
        ((item.signatureMap.find? (·.pubKeyPrefix = k)).map
          (SignaturePair.scheduleRow item schedule)).toList) ∧
    (¬(schedule.isEmpty = false ∧ item.isSuccessful = true ∧
        props.persist.transactionSignatures = true) →
      (projectRecord props via sink item).2.mutations.filterMap Mutation.signature? = []) := by
  rw [projectRecord_signatures_eq h]
  refine ⟨fun hg => ?_, fun hg => if_neg hg⟩
  rw [if_pos hg]
  refine ⟨?_, fun k => ?_⟩
  · rw [List.map_map]
    exact map_firstsBy_nil item.signatureMap
  · -- of each prefix, `firstsBy` keeps the first pair and no other
    have hk := @filter_firstsBy _ _ _ SignaturePair.pubKeyPrefix k [] item.signatureMap
    rw [if_neg List.not_mem_nil] at hk
    rw [List.filter_map, Option.toList_map]
    exact congrArg (List.map _) hk

theorem projectRecord_signatures_firstPerPrefix_repeatedSigner :
    signingAtTen.signedSchedule? = some ⟨0, 0, 5⟩ ∧
    ((⟨0, 0, 5⟩ : EntityId).isEmpty = false ∧ signingAtTen.isSuccessful = true ∧
        ({} : Properties).persist.transactionSignatures = true →
      ((projectRecord {} .memory {} signingAtTen).2.mutations.filterMap Mutation.signature?).map
          (·.publicKeyPrefix) = (signingAtTen.signatureMap.map (·.pubKeyPrefix)).eraseDups ∧
      ∀ k, ((projectRecord {} .memory {} signingAtTen).2.mutations.filterMap
          Mutation.signature?).filter (·.publicKeyPrefix = k) =
        ((signingAtTen.signatureMap.find? (·.pubKeyPrefix = k)).map
          (SignaturePair.scheduleRow signingAtTen ⟨0, 0, 5⟩)).toList) ∧
    (¬((⟨0, 0, 5⟩ : EntityId).isEmpty = false ∧ signingAtTen.isSuccessful = true ∧
        ({} : Properties).persist.transactionSignatures = true) →
      (projectRecord {} .memory {} signingAtTen).2.mutations.filterMap Mutation.signature? = []) :=
  ⟨rfl, projectRecord_signatures_firstPerPrefix {} .memory {} signingAtTen rfl⟩

end Records

end LedgerProjection
