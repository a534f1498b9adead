import LedgerProjection.Proofs.Updates
import LedgerProjection.Proofs.LogIndexes

/-!
# Where a created contract's bytecode comes from

A contract creation records where its bytecode is found: a file, or the code itself
(`BytecodeOrigin`). The sources are tried in a fixed order and the first that names a file or
gives non-empty code wins (`RecordItem.bytecodeRule`): the body's file, the body's initcode, the
file and then the initcode of a parent creation, the call data file and then the call data of a
parent ethereum transaction, and last the initcode of the contract's first bytecode sidecar. The
runtime bytecode is the first bytecode sidecar's, when not empty.

The contract row follows that order with one exception (`Handler.createdContract_eq`): a parent
creation without a file hands its initcode on as it is, so an empty one is recorded as empty
code and hides the sidecar (`RecordItem.emptyParentInitcode`). Every contract row a creation
emits is that row (`projectRecord_contractBytecode`).
-/

namespace LedgerProjection

/-- Where a created contract's bytecode is found: a file, or the code itself. -/
inductive BytecodeOrigin where
  | file (id : EntityId)
  | code (bytes : List UInt8)
deriving DecidableEq, Repr

namespace BytecodeOrigin

/-- The file named, if any. -/
def fileId? : BytecodeOrigin → Option EntityId
  | .file id => some id
  | .code _ => none

/-- The code given, if any. -/
def code? : BytecodeOrigin → Option (List UInt8)
  | .file _ => none
  | .code bytes => some bytes

/-- A source naming a file: present when the id is not `0.0.0`. -/
def ofFile (id : Option EntityId) : Option BytecodeOrigin := (id.filter (!·.isEmpty)).map .file

/-- A source giving code: present when the code is not empty. -/
def ofCode (bytes : Option (List UInt8)) : Option BytecodeOrigin :=
  (bytes.filter (!·.isEmpty)).map .code

end BytecodeOrigin

namespace RecordItem

/-- The body of the record's parent, when the parent created a contract. -/
def parentCreate? (item : RecordItem) : Option ContractCreateBody :=
  match item.parent.map RecordItem.body with
  | some (.contractCreate p) => some p
  | _ => none

/-- The body of the record's parent, when the parent is an ethereum transaction. -/
def parentEthereum? (item : RecordItem) : Option EthereumTransactionBody :=
  match item.parent.map RecordItem.body with
  | some (.ethereumTransaction p) => some p
  | _ => none

/-- The sources of bytecode a creation and its parent declare, in order: the body's file and
initcode, a parent creation's file and initcode, and a parent ethereum transaction's call data
file and call data. -/
def declaredSources (item : RecordItem) (body : ContractCreateBody) : List (Option BytecodeOrigin) :=
  [BytecodeOrigin.ofFile body.fileId, BytecodeOrigin.ofCode body.initcode,
    item.parentCreate?.bind (BytecodeOrigin.ofFile ·.fileId),
    item.parentCreate?.bind (BytecodeOrigin.ofCode ·.initcode),
    item.parentEthereum?.bind (BytecodeOrigin.ofFile ·.callDataId),
    item.parentEthereum?.bind (BytecodeOrigin.ofCode <| some ·.callData)]

/-- The bytecode of contract `c` created by `body`: from the first declared source that has
one, else the initcode of the first bytecode sidecar of `c`. -/
def bytecodeRule (item : RecordItem) (body : ContractCreateBody) (c : EntityId) :
    Option BytecodeOrigin :=
  (item.declaredSources body ++
    [(item.bytecodeSidecar c).bind (BytecodeOrigin.ofCode <| some ·.1)]).findSome? id

/-- The runtime bytecode of contract `c`: the first bytecode sidecar's, when not empty. -/
def runtimeRule (item : RecordItem) (c : EntityId) : Option (List UInt8) :=
  (item.bytecodeSidecar c).bind fun s => (some s.2).filter (!·.isEmpty)

/-- A creation with no file or code of its own whose parent creation names no file and gives
empty initcode. -/
def emptyParentInitcode (item : RecordItem) (body : ContractCreateBody) : Bool :=
  (BytecodeOrigin.ofFile body.fileId).isNone && (BytecodeOrigin.ofCode body.initcode).isNone &&
    match item.parentCreate? with
    | some p => (BytecodeOrigin.ofFile p.fileId).isNone && p.initcode == some []
    | none => false

end RecordItem

namespace Handler

/-- The sources a creation declares, as the code reads them: the first that names a file or gives
code, except that a parent creation without a file hands on its initcode as it is. -/
theorem bytecodeSource_eq (item : RecordItem) (body : ContractCreateBody) :
    bytecodeSource item body =
      (((item.declaredSources body).findSome? id).bind BytecodeOrigin.fileId?,
        if item.emptyParentInitcode body then some []
        else ((item.declaredSources body).findSome? id).bind BytecodeOrigin.code?) := by
  unfold bytecodeSource RecordItem.emptyParentInitcode RecordItem.declaredSources
    RecordItem.parentCreate? RecordItem.parentEthereum?
  -- the body's own file, then its own initcode, then what the parent supplied
  rcases hf : body.fileId.filter (!·.isEmpty) with _ | f
  · rcases hi : body.initcode.filter (!·.isEmpty) with _ | code
    · rcases hpb : item.parent.map RecordItem.body with _ | pb
      · simp [BytecodeOrigin.ofFile, BytecodeOrigin.ofCode, hf, hi]
      · cases pb
        case contractCreate p =>
          rcases hpf : p.fileId.filter (!·.isEmpty) with _ | pf
          · cases hpi : p.initcode with
            | none => simp [BytecodeOrigin.ofFile, BytecodeOrigin.ofCode, hf, hi, hpf, hpi]
            | some pi =>
              by_cases he : pi = []
              · subst he
                simp [BytecodeOrigin.ofFile, BytecodeOrigin.ofCode, hf, hi, hpf, hpi]
              · have hne : pi.isEmpty = false := by simpa using he
                simp [BytecodeOrigin.ofFile, BytecodeOrigin.ofCode, hf, hi, hpf, hpi, hne,
                  Option.filter_some, BytecodeOrigin.code?, BytecodeOrigin.fileId?]
          · simp [BytecodeOrigin.ofFile, BytecodeOrigin.ofCode, hf, hi, hpf,
              BytecodeOrigin.code?, BytecodeOrigin.fileId?]
        case ethereumTransaction p =>
          rcases hpf : p.callDataId.filter (!·.isEmpty) with _ | pf
          · by_cases he : p.callData = []
            · simp [BytecodeOrigin.ofFile, BytecodeOrigin.ofCode, hf, hi, hpf, he]
            · simp [BytecodeOrigin.ofFile, BytecodeOrigin.ofCode, hf, hi, hpf, he,
                Option.filter_some, BytecodeOrigin.code?, BytecodeOrigin.fileId?]
          · simp [BytecodeOrigin.ofFile, BytecodeOrigin.ofCode, hf, hi, hpf,
              BytecodeOrigin.code?, BytecodeOrigin.fileId?]
        -- a parent of any other kind supplies nothing
        all_goals simp [BytecodeOrigin.ofFile, BytecodeOrigin.ofCode, hf, hi]
    · simp [hf, hi, BytecodeOrigin.ofFile, BytecodeOrigin.ofCode, BytecodeOrigin.code?,
        BytecodeOrigin.fileId?]
  · simp [hf, BytecodeOrigin.ofFile, BytecodeOrigin.code?, BytecodeOrigin.fileId?]

/-- The contract row of a creation follows the order of sources, except that a parent creation's
empty initcode is recorded as it is. -/
theorem createdContract_eq (item : RecordItem) (body : ContractCreateBody) (c : EntityId) :
    createdContract item body c =
      { id := c, fileId := (item.bytecodeRule body c).bind BytecodeOrigin.fileId?,
        initcode := if item.emptyParentInitcode body then some []
          else (item.bytecodeRule body c).bind BytecodeOrigin.code?,
        runtimeBytecode := item.runtimeRule c } := by
  unfold createdContract RecordItem.bytecodeRule RecordItem.runtimeRule
  rw [bytecodeSource_eq, List.findSome?_append, List.findSome?_singleton]
  dsimp only
  generalize (item.declaredSources body).findSome? id = d
  cases hs : item.bytecodeSidecar c with
  | none => cases d <;> simp
  | some s =>
    obtain ⟨init, runtime⟩ := s
    -- the sidecar's initcode counts only when no declared source gave a file or code
    cases d with
    | none =>
      by_cases hslip : item.emptyParentInitcode body <;> by_cases hinit : init = [] <;>
        simp [hslip, hinit, BytecodeOrigin.ofCode, Option.filter_some, BytecodeOrigin.fileId?,
          BytecodeOrigin.code?]
    | some o =>
      cases o <;> by_cases hslip : item.emptyParentInitcode body <;>
        simp [hslip, Option.filter_some, BytecodeOrigin.fileId?, BytecodeOrigin.code?]

/-! ### The contract row a creation writes -/

open Projection

/-- The record template keeps a row predicate when the kind's transaction-level effects keep it
and its entity effects keep it for the main entity as stamped, read from any state. -/
theorem run_keeps_of_main {P : Mutation → Prop} {h : Handler} {item : RecordItem}
    (htx : ∀ tx, Keeps P (h.onTransaction item tx))
    (hentity : ∀ c, Keeps P
      (h.onEntity item (h.operation.stamp (h.mainEntity c item) item.consensusTimestamp))) :
    Keeps P (h.run item) :=
  -- the companion holds of the stamped main entities only
  Satisfies.run (L := Logic.keeps P)
    (E := fun e => ∃ c, e = h.operation.stamp (h.mainEntity c item) item.consensusTimestamp)
    ⟨htx, fun _ _ ⟨c, he⟩ => he ▸ hentity c⟩ fun c => ⟨c, rfl⟩

end Handler

/-- A row that, if it is a contract row, is `row`. -/
def Mutation.OnlyContract (row : Contract) : Mutation → Prop
  | .contract r => r = row
  | _ => True

namespace Handler

open Projection

variable (body : ContractCreateBody) (item : RecordItem)

/-- The main entity of a creation does not depend on the state it is read in. -/
theorem contractCreate_mainEntity (c c' : Ctx) :
    (contractCreate body).mainEntity c item = (contractCreate body).mainEntity c' item := rfl

/-- A creation's handler writes no contract row but the one of its main entity. -/
theorem contractCreate_run_onlyContract (c : Ctx) :
    Keeps (Mutation.OnlyContract (createdContract item body ((contractCreate body).mainEntity c item)))
      ((contractCreate body).run item) := by
  refine run_keeps_of_main (fun _ => ?_) fun c' => ?_
  · refine Keeps.bind (Keeps.resolveAndTrack _) fun _ =>
      Keeps.bind (Keeps.resolveAndTrack _) fun _ => ?_
    split
    · exact Keeps.track _
    · exact Keeps.pure _
  · refine Keeps.bind Keeps.read fun _ => ?_
    refine Keeps.bind (Keeps.emit trivial) fun _ => Keeps.bind Keeps.persist fun _ => ?_
    dsimp only
    refine Keeps.ite (fun _ => Keeps.bind (Keeps.emit ?_) fun _ => ?_) fun _ => ?_
    · -- the stamped entity is the main entity, whatever state it was read in
      show createdContract item body _ = _
      rw [contractCreate_mainEntity body item c' c]
      cases (contractCreate body).operation <;> rfl
    all_goals exact createHooks_keeps (fun _ => trivial) (fun _ => trivial) _ _ _

end Handler

namespace Projection

/-- The phases after a handler write no contract row. -/
theorem onlyContract_phaseGrants (row : Contract) (item : RecordItem) :
    PhaseGrants (Logic.keeps (Mutation.OnlyContract row)) item where
  result _ := Logic.keeps_holds_emit trivial
  log _ _ := Logic.keeps_holds_emit trivial
  stateChange _ := Logic.keeps_holds_emit trivial
  nft _ _ _ := Logic.keeps_holds_emit trivial
  hbar _ _ _ _ := Logic.keeps_holds_emit trivial
  tokenBalance _ _ _ _ := Logic.keeps_holds_emit trivial
  transaction _ := Logic.keeps_holds_emit trivial
  sum {α} o _ := Keeps.fail (α := α) o

/-- Projecting a creation writes no contract row but the one of its main entity. -/
theorem process_onlyContract (body : ContractCreateBody) {item : RecordItem}
    (hbody : item.body = .contractCreate body) (c : Ctx) :
    Keeps (Mutation.OnlyContract
        (Handler.createdContract item body ((Handler.contractCreate body).mainEntity c item)))
      (process item) := by
  unfold process
  rw [hbody]
  exact Keeps.bind (Handler.contractCreate_run_onlyContract body item c) fun tx =>
    phases_holds (L := Logic.keeps _)
      (fun _ _ _ _ => Keeps.bind (Keeps.tokenKeys _) fun _ => Keeps.emit trivial)
      (onlyContract_phaseGrants _ item) _ tx

end Projection

/-- Every contract row the projection of a contract creation emits, finished or not, is the row of
its main entity: the bytecode of the first source that has one and the runtime bytecode of its
first bytecode sidecar, except that empty initcode handed on by a parent creation without a file
is recorded as it is. -/
theorem projectRecord_contractBytecode (props : Properties) (via : ResolverKind) (sink : Sink)
    (item : RecordItem) (body : ContractCreateBody) (hbody : item.body = .contractCreate body) :
    let c := (Handler.ofBody item.body).mainEntity (Ctx.start props via sink item) item
    ∀ r, .contract r ∈ (projectRecord props via sink item).2.mutations →
      r = { id := c, fileId := (item.bytecodeRule body c).bind BytecodeOrigin.fileId?,
            initcode := if item.emptyParentInitcode body then some []
              else (item.bytecodeRule body c).bind BytecodeOrigin.code?,
            runtimeBytecode := item.runtimeRule c } := by
  intro c r hr
  have hkeeps := Projection.process_onlyContract body hbody (Ctx.start props via sink item)
  have hrow := (projectRecord_delivered hkeeps props via sink).forall _ hr
  rw [← Handler.createdContract_eq]
  simp only [c, hbody]
  exact hrow

/-- A creation of contract `0.0.5001` at 20 with no bytecode of its own, whose bytecode sidecar
gives initcode `0x99` and runtime bytecode `0x6001`, triggered by a creation at 19 that gave empty
initcode. -/
def childOfEmptyCreation : RecordItem :=
  { consensusTimestamp := 20, payerAccountId := ⟨0, 0, 2⟩, body := .contractCreate {},
    receipt := { status := ⟨22⟩, contractId := some ⟨0, 0, 5001⟩ },
    sidecars := [.bytecode ⟨0, 0, 5001⟩ [0x99] [0x60, 0x01]],
    parent := some
      { consensusTimestamp := 19, payerAccountId := ⟨0, 0, 2⟩,
        body := .contractCreate { initcode := some [] } } }

theorem projectRecord_contractBytecode_childOfEmptyCreation :
    childOfEmptyCreation.body = .contractCreate {} ∧
      let c := (Handler.ofBody childOfEmptyCreation.body).mainEntity
        (Ctx.start {} .memory {} childOfEmptyCreation) childOfEmptyCreation
      ∀ r, .contract r ∈ (projectRecord {} .memory {} childOfEmptyCreation).2.mutations →
        r = { id := c, fileId := (childOfEmptyCreation.bytecodeRule {} c).bind
                BytecodeOrigin.fileId?,
              initcode := if childOfEmptyCreation.emptyParentInitcode {} then some []
                else (childOfEmptyCreation.bytecodeRule {} c).bind BytecodeOrigin.code?,
              runtimeBytecode := childOfEmptyCreation.runtimeRule c } :=
  ⟨rfl, projectRecord_contractBytecode {} .memory {} childOfEmptyCreation {} rfl⟩

/-- The first source with bytecode for the child creation is its sidecar's initcode, yet the
contract row it writes records the parent's empty initcode. -/
theorem projectRecord_emptyParentInitcode_recorded :
    childOfEmptyCreation.bytecodeRule {} ⟨0, 0, 5001⟩ = some (.code [0x99]) ∧
      Mutation.contract
          { id := ⟨0, 0, 5001⟩, initcode := some [], runtimeBytecode := some [0x60, 0x01] } ∈
        (projectRecord {} .memory {} childOfEmptyCreation).2.mutations := by
  decide +kernel

end LedgerProjection
