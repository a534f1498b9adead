import LedgerProjection.Proofs.HandlerRows
import LedgerProjection.Proofs.Updates
import LedgerProjection.Proofs.Resolution

/-!
# Hook storage holds the minimal encoding of the last write

A write to hook storage is stored minimal: `HookStorage.storedValue` trims the leading zero
bytes and clears an all-zero value, which together drop every leading zero
(`HookStorage.storedValue_eq`). The ledger erases a slot on an empty value and overwrites it
otherwise, so a slot holds what the last change to it left (`Ledger.get?_receive`, by
`Ledger.get?_store` one row at a time), and its entries stay word slots with minimal non-empty
values (`Ledger.MinimalStorage`).

Every hook storage change a record emits is a write to a word slot
(`Projection.process_writesWord`, from the traversal of the handlers in `HandlerRows`), so over
a whole run into empty storage the ledger `StoresLastWrites` of the rows the run emitted
(`projectEach_storesLastWrites`).
-/

namespace LedgerProjection

/-! ### Slots and the changes to them -/

/-- The slot a change writes. -/
def HookStorageChange.slot (ch : HookStorageChange) : SlotKey := ⟨ch.ownerId, ch.hookId, ch.key⟩

/-- What a change leaves in its slot: its value, or nothing when the value is empty. -/
def HookStorageChange.stored (ch : HookStorageChange) : Option (List UInt8) :=
  if ch.valueWritten.isEmpty then none else some ch.valueWritten

/-- The change row `m` makes to slot `k`, if it makes one. -/
def Mutation.changeAt (k : SlotKey) : Mutation → Option HookStorageChange
  | .hookStorageChange ch => if ch.slot = k then some ch else none
  | _ => none

/-- The last change the rows `ms` make to slot `k`. -/
def lastChange (k : SlotKey) (ms : List Mutation) : Option HookStorageChange :=
  (ms.filterMap (Mutation.changeAt k)).getLast?

theorem lastChange_cons (k : SlotKey) (m : Mutation) (ms : List Mutation) :
    lastChange k (m :: ms) = (lastChange k ms).or (m.changeAt k) := by
  unfold lastChange
  rw [List.filterMap_cons]
  cases m.changeAt k with
  | none => exact Option.or_none.symm
  | some ch =>
    rw [List.getLast?_cons]
    cases (ms.filterMap (Mutation.changeAt k)).getLast? <;> rfl

theorem SlotKey.compare_eq_iff {a b : SlotKey} : SlotKey.compare a b = .eq ↔ a = b := by
  rcases a with ⟨o, h, k⟩
  rcases b with ⟨o', h', k'⟩
  simp [SlotKey.compare, Ordering.then_eq_eq, Std.LawfulEqCmp.compare_eq_iff_eq]

instance : Std.LawfulEqCmp SlotKey.compare where
  compare_self := SlotKey.compare_eq_iff.2 rfl
  eq_of_compare := SlotKey.compare_eq_iff.1

/-! ### Stored values -/

namespace HookStorage

/-- The stored value of a write is the written value without its leading zero bytes: the trim
keeps one zero of an all-zero value, which the zero test then clears. -/
theorem storedValue_eq (value : List UInt8) : storedValue value = value.dropWhile (· = 0) := by
  cases h : value.dropWhile (· = 0) with
  | nil =>
    -- every byte is zero, and so is every byte the trim keeps
    have hz : ∀ b ∈ value, b = 0 := by simpa using List.dropWhile_eq_nil_iff.1 h
    have hall : (value.drop (value.length - 1)).all (· = 0) = true := by
      simpa [List.all_eq_true] using fun b hb => hz b (List.mem_of_mem_drop hb)
    simp only [storedValue, Word.trimLeadingZeros_eq, h, hall, if_true]
  | cons b bs =>
    -- the first byte kept is not zero
    have hb : b ≠ 0 := by
      have := List.head_dropWhile_not (fun b : UInt8 => decide (b = 0)) (l := value) (by simp [h])
      simpa [h] using this
    simp [storedValue, Word.trimLeadingZeros_eq, h, hb]

theorem head?_storedValue (value : List UInt8) : (storedValue value).head? ≠ some 0 := by
  rw [storedValue_eq]
  intro h
  have := List.head?_dropWhile_not (fun b : UInt8 => decide (b = 0)) value
  rw [h] at this
  simp at this

theorem storedValue_eq_nil_iff (value : List UInt8) :
    storedValue value = [] ↔ ∀ b ∈ value, b = 0 := by
  simp [storedValue_eq, List.dropWhile_eq_nil_iff]

/-- What a write leaves in its slot: the value without its leading zeros, or nothing when it
has no non-zero byte. -/
theorem stored_change (ts : Int) (owner : EntityId) (hookId : Int) (slot value : List UInt8) :
    (change ts owner hookId slot value).stored =
      if ∃ b ∈ value, b ≠ 0 then some (value.dropWhile (· = 0)) else none := by
  have hempty : (storedValue value).isEmpty = true ↔ ¬∃ b ∈ value, b ≠ 0 := by
    simp [List.isEmpty_iff, storedValue_eq_nil_iff]
  have hw : (change ts owner hookId slot value).valueWritten = storedValue value := rfl
  rw [HookStorageChange.stored, hw]
  by_cases hz : ∃ b ∈ value, b ≠ 0
  · rw [if_neg fun h => hempty.1 h hz, if_pos hz, storedValue_eq]
  · rw [if_pos (hempty.2 hz), if_neg hz]

end HookStorage

/-! ### Rows that write hook storage -/

/-- A row is a hook storage change only as a write of some value to a word slot makes it. -/
def Mutation.WritesWord : Mutation → Prop
  | .hookStorageChange ch => ∃ ts owner hookId slot value, slot.length = Word.size ∧
      ch = HookStorage.change ts owner hookId slot value
  | _ => True

theorem Mutation.admits_writesWord : Mutation.Admits Mutation.WritesWord where
  -- a plain change is the change of a write to a word slot at the record's time
  plain ts m hm := by cases m <;> first | trivial | exact ⟨ts, hm⟩
  entity _ := trivial
  tokenAccount _ := trivial
  contractLog _ := trivial

theorem Projection.process_writesWord (item : RecordItem) :
    Projection.Keeps Mutation.WritesWord (Projection.process item) :=
  Projection.process_keeps Mutation.admits_writesWord (fun _ => trivial) (fun _ => trivial)
    (fun _ => trivial) item

theorem Mutation.changeAt_eq_some {k : SlotKey} {m : Mutation} {ch : HookStorageChange}
    (h : m.changeAt k = some ch) : m = .hookStorageChange ch ∧ ch.slot = k := by
  cases m
  case hookStorageChange ch' =>
    simp only [Mutation.changeAt] at h
    split at h
    · next hk =>
      cases h
      exact ⟨rfl, hk⟩
    · cases h
  all_goals cases h

/-- The last change to a slot is a row that changes it. -/
theorem mem_of_lastChange {k : SlotKey} {ms : List Mutation} {ch : HookStorageChange}
    (h : lastChange k ms = some ch) : .hookStorageChange ch ∈ ms ∧ ch.slot = k := by
  obtain ⟨m, hm, hch⟩ := List.mem_filterMap.1 (List.mem_of_getLast? h)
  obtain ⟨rfl, hk⟩ := Mutation.changeAt_eq_some hch
  exact ⟨hm, hk⟩

/-! ### The ledger's hook storage -/

namespace Ledger

theorem apply_hookStorage (l : Ledger) (m : Mutation) :
    (l.apply m).1.hookStorage = (l.store m).1.hookStorage := by
  unfold apply
  rcases l.store m with ⟨l', _ | f⟩ <;> rfl

/-- A change erases its slot when its value is empty and writes it otherwise; every other slot
keeps its value. -/
theorem get?_applyStorage (l : Ledger) (ch : HookStorageChange) (k : SlotKey) :
    (l.applyStorage ch).hookStorage.get? SlotKey.compare k =
      if ch.slot = k then ch.stored else l.hookStorage.get? SlotKey.compare k := by
  by_cases hk : ch.slot = k
  · subst hk
    rw [if_pos rfl]
    unfold applyStorage HookStorageChange.stored
    split
    · exact SortedMap.get?_erase_self _ _
    · exact SortedMap.get?_insert_self _ _ _
  · rw [if_neg hk]
    unfold applyStorage
    split
    · exact SortedMap.get?_erase_of_ne _ (Ne.symm hk)
    · exact SortedMap.get?_insert_of_ne _ _ (Ne.symm hk)

/-- Storing a row changes slot `k` only when the row is a change to `k`, and then to what that
change leaves. -/
theorem get?_store (l : Ledger) (m : Mutation) (k : SlotKey) :
    (l.store m).1.hookStorage.get? SlotKey.compare k =
      (m.changeAt k).elim (l.hookStorage.get? SlotKey.compare k) HookStorageChange.stored := by
  cases m
  case hookStorageChange ch =>
    show (l.applyStorage ch).hookStorage.get? SlotKey.compare k = _
    rw [get?_applyStorage, Mutation.changeAt]
    split <;> rfl
  all_goals rfl

/-- After receiving rows, slot `k` holds what their last change to `k` left, or what it held
before when none changes it. -/
theorem get?_receive (l : Ledger) (ms : List Mutation) (k : SlotKey) :
    (l.receive ms).hookStorage.get? SlotKey.compare k =
      (lastChange k ms).elim (l.hookStorage.get? SlotKey.compare k) HookStorageChange.stored := by
  induction ms generalizing l with
  | nil => rfl
  | cons m ms ih =>
    rw [receive_cons, ih, apply_hookStorage, get?_store, lastChange_cons]
    cases lastChange k ms <;> rfl

/-- Every slot of the hook storage is a word and holds a non-empty value whose first byte is
not zero. -/
def MinimalStorage (l : Ledger) : Prop :=
  ∀ e ∈ l.hookStorage.entries,
    e.1.key.length = Word.size ∧ e.2 ≠ [] ∧ e.2.head? ≠ some 0

theorem minimalStorage_of_empty {l : Ledger} (h : l.hookStorage = {}) : l.MinimalStorage := by
  intro e he
  rw [h] at he
  cases he

theorem MinimalStorage.apply {l : Ledger} (h : l.MinimalStorage) {m : Mutation}
    (hm : m.WritesWord) : (l.apply m).1.MinimalStorage := by
  intro e he
  rw [apply_hookStorage] at he
  cases m
  case hookStorageChange ch =>
    obtain ⟨ts, owner, hookId, slot, value, hlen, rfl⟩ := hm
    change e ∈ (l.applyStorage _).hookStorage.entries at he
    unfold applyStorage at he
    split at he
    · exact h e (SortedMap.mem_erase he)
    · next hne =>
      -- the inserted entry is the write's own, a word slot with a minimal value
      rcases SortedMap.mem_insert he with rfl | he
      · exact ⟨hlen, fun hnil => hne (List.isEmpty_iff.2 hnil),
          HookStorage.head?_storedValue value⟩
      · exact h e he
  all_goals exact h e he

theorem MinimalStorage.receive {l : Ledger} (h : l.MinimalStorage) {ms : List Mutation}
    (hms : ∀ m ∈ ms, m.WritesWord) : (l.receive ms).MinimalStorage := by
  induction ms generalizing l with
  | nil => exact h
  | cons m ms ih =>
    exact ih (h.apply (hms m List.mem_cons_self)) fun m' hm' => hms m' (List.mem_cons_of_mem _ hm')

/-- The hook storage of `l` holds the minimal encoding of the last write `rows` make to each
slot: what a ledger with empty hook storage holds after receiving `rows`. -/
structure StoresLastWrites (l : Ledger) (rows : List Mutation) : Prop where
  /-- Every change row reads the value it writes. -/
  read_eq_written :
    ∀ ch, Mutation.hookStorageChange ch ∈ rows → ch.valueRead = ch.valueWritten
  /-- Every slot held is a word, with a non-empty value whose first byte is not zero. -/
  minimal : l.MinimalStorage
  /-- A slot no row writes holds nothing. -/
  unwritten : ∀ k, lastChange k rows = none → l.hookStorage.get? SlotKey.compare k = none
  /-- A slot holds what the last write to it leaves: the written value without its leading
  zeros, or nothing when the value has no non-zero byte. -/
  written : ∀ k ch, lastChange k rows = some ch → ∃ ts value,
    ch = HookStorage.change ts k.owner k.hookId k.key value ∧
      l.hookStorage.get? SlotKey.compare k =
        if ∃ b ∈ value, b ≠ 0 then some (value.dropWhile (· = 0)) else none

theorem storesLastWrites_receive {l : Ledger} (hl : l.hookStorage = {}) {rows : List Mutation}
    (hrows : ∀ m ∈ rows, m.WritesWord) : (l.receive rows).StoresLastWrites rows where
  read_eq_written ch hch := by
    obtain ⟨ts, owner, hookId, slot, value, -, rfl⟩ := hrows _ hch
    rfl
  minimal := (minimalStorage_of_empty hl).receive hrows
  unwritten k hk := by
    rw [get?_receive, hk, hl]
    rfl
  written k ch hk := by
    -- the last change to `k` is a row of `rows`, so a write of some value to `k`
    obtain ⟨hmem, hslot⟩ := mem_of_lastChange hk
    obtain ⟨ts, owner, hookId, slot, value, -, rfl⟩ := hrows _ hmem
    subst hslot
    refine ⟨ts, value, rfl, ?_⟩
    rw [get?_receive, hk]
    exact HookStorage.stored_change ts owner hookId slot value

end Ledger

/-! ### Runs -/

/-- Projecting records into a ledger with empty hook storage, in any order and whatever their
outcomes, leaves in each slot the minimal encoding of the last write the run emitted for it,
and every storage change the run emits reads the value it writes. -/
theorem projectEach_storesLastWrites (props : Properties) (via : ResolverKind) (s : Sink)
    (hfresh : s.ledger.hookStorage = {}) (items : List RecordItem) :
    (s.projectEach props via items).2.ledger.StoresLastWrites
      ((s.emittedRows props via items).map Prod.snd) := by
  rw [Sink.projectEach_eq_deliverAll, Sink.deliverAll_ledger]
  refine Ledger.storesLastWrites_receive hfresh fun m hm => ?_
  obtain ⟨p, hp, rfl⟩ := List.mem_map.1 hm
  exact Sink.emittedRows_keeps Projection.process_writesWord props via s items p hp

/-- A hook store writing `0x002a` to slot 1 of hook 1 of account 0.0.2, then one clearing it
with zeros. -/
def storeThenClear : List RecordItem :=
  [{ consensusTimestamp := 10, payerAccountId := ⟨0, 0, 2⟩,
     body := .hookStore { hookId := 1, storageUpdates := [.storageSlot [1] [0, 42]] },
     receipt := { status := ⟨22⟩ } },
   { consensusTimestamp := 20, payerAccountId := ⟨0, 0, 2⟩,
     body := .hookStore { hookId := 1, storageUpdates := [.storageSlot [1] [0, 0]] },
     receipt := { status := ⟨22⟩ } }]

theorem projectEach_storesLastWrites_storeThenClear :
    ({} : Sink).ledger.hookStorage = {} ∧
      (({} : Sink).projectEach {} .memory storeThenClear).2.ledger.StoresLastWrites
        ((({} : Sink).emittedRows {} .memory storeThenClear).map Prod.snd) :=
  ⟨rfl, projectEach_storesLastWrites {} .memory {} rfl storeThenClear⟩

/-- The first record stores the value without its leading zero; the second clears the slot. -/
example :
    (({} : Sink).projectEach {} .memory (storeThenClear.take 1)).2.ledger.hookStorage.entries.map
        Prod.snd = [[42]] ∧
      (({} : Sink).projectEach {} .memory storeThenClear).2.ledger.hookStorage.entries = [] := by
  decide

end LedgerProjection
