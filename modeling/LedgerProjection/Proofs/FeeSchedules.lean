import LedgerProjection.Proofs.SortedMap
import LedgerProjection.Projection.FeeSchedule

/-!
# Custom fee schedules, fee by fee

`parseCustomFees specs e E ts` builds its row in one pass that pushes each fee onto the list of
its kind and collects the collectors paid in the token as it goes. Read fee by fee, the row is
what `ParsedFees.Describes` says (`parseCustomFees_describes`):

* each kind's list holds the specs of that kind in submission order, field by field
  (`FeeSchedule.fixedRow`, `fractionalRow`, `royaltyRow`), and is absent when there are none,
  so the row carries no fee list at all exactly when nothing was submitted;
* a denomination `0.0.0` stands for the enclosing token, and for no token in a topic's schedule
  (`FeeSchedule.resolveDenomination`);
* the collectors paid in the token are exactly the non-empty collectors of the specs charged in
  it (`FeeSchedule.chargedInToken`), strictly ascending.
-/

namespace LedgerProjection

/-! ### Sorted insertion of ids -/

namespace EntityId

theorem mem_insertSorted {id a : EntityId} :
    ∀ {l : List EntityId}, a ∈ id.insertSorted l ↔ a = id ∨ a ∈ l
  | [] => by simp [insertSorted]
  | x :: rest => by
    unfold insertSorted
    split
    · simp
    · next heq =>
      -- an id equal under the order is the same id
      have hx : id = x := Std.LawfulEqCmp.eq_of_compare heq
      subst hx
      simp
    · simp only [List.mem_cons, mem_insertSorted]
      exact or_left_comm

theorem pairwise_insertSorted (id : EntityId) :
    ∀ {l : List EntityId}, l.Pairwise (· < ·) → (id.insertSorted l).Pairwise (· < ·)
  | [] => fun _ => by simp [insertSorted]
  | x :: rest => fun h => by
    have hx : ∀ y ∈ rest, x < y := fun y hy => List.rel_of_pairwise_cons h hy
    have hrest : rest.Pairwise (· < ·) := h.of_cons
    unfold insertSorted
    split
    · next hlt =>
      refine List.Pairwise.cons (fun y hy => ?_) h
      rcases List.mem_cons.1 hy with rfl | hy
      · exact hlt
      · exact Std.TransCmp.lt_trans hlt (hx y hy)
    · exact h
    · next hgt =>
      refine List.Pairwise.cons (fun y hy => ?_) (pairwise_insertSorted id hrest)
      rcases mem_insertSorted.1 hy with rfl | hy
      · exact Std.OrientedCmp.gt_iff_lt.1 hgt
      · exact hx y hy

end EntityId

namespace FeeSchedule

/-! ### The specification, fee by fee -/

/-- A submitted denomination as charged: `0.0.0` stands for the enclosing token, which is no
token in a topic's schedule; any other value is kept. -/
def resolveDenomination (enclosing denominating : Option EntityId) : Option EntityId :=
  if denominating = some EntityId.empty then enclosing else denominating

/-- The fixed fee a spec submits, if it is one. -/
def fixedRow (enclosing : Option EntityId) (s : CustomFeeSpec) : Option FixedFee :=
  match s.fee with
  | .fixed f =>
    some { amount := f.amount, collectorAccountId := s.collector.getD EntityId.empty,
           denominatingTokenId := resolveDenomination enclosing f.denominatingTokenId,
           allCollectorsAreExempt := s.allCollectorsAreExempt }
  | _ => none

/-- The fractional fee a spec submits, if it is one; a maximum of zero or less is no maximum. -/
def fractionalRow (s : CustomFeeSpec) : Option FractionalFee :=
  match s.fee with
  | .fractional f =>
    some { numerator := f.numerator, denominator := f.denominator,
           minimumAmount := f.minimumAmount,
           maximumAmount := if 0 < f.maximumAmount then some f.maximumAmount else none,
           netOfTransfers := f.netOfTransfers, collectorAccountId := s.collector.getD EntityId.empty,
           allCollectorsAreExempt := s.allCollectorsAreExempt }
  | _ => none

/-- The royalty fee a spec submits, if it is one. -/
def royaltyRow (enclosing : Option EntityId) (s : CustomFeeSpec) : Option RoyaltyFee :=
  match s.fee with
  | .royalty r =>
    some { numerator := r.numerator, denominator := r.denominator,
           fallbackFee := r.fallbackFee.map fun fb =>
             { amount := fb.amount,
               denominatingTokenId := resolveDenomination enclosing fb.denominatingTokenId },
           collectorAccountId := s.collector.getD EntityId.empty,
           allCollectorsAreExempt := s.allCollectorsAreExempt }
  | _ => none

/-- Whether a spec is paid in the enclosing token: a fixed fee denominated in it, any fractional
fee, a royalty whose fallback is denominated in it. Nothing is, outside a token's schedule. -/
def chargedInToken (enclosing : Option EntityId) (s : CustomFeeSpec) : Bool :=
  enclosing.isSome &&
    match s.fee with
    | .fixed f => resolveDenomination enclosing f.denominatingTokenId == enclosing
    | .fractional _ => true
    | .royalty r => r.fallbackFee.any fun fb =>
        resolveDenomination enclosing fb.denominatingTokenId == enclosing

@[simp]
theorem nonEmpty_eq_none {α : Type} {xs : List α} : nonEmpty xs = none ↔ xs = [] := by
  cases xs <;> simp [nonEmpty]

theorem denominatingToken_eq (denominating enclosing : Option EntityId) :
    denominatingToken denominating enclosing = resolveDenomination enclosing denominating := by
  rcases denominating with _ | d
  · cases enclosing <;> rfl
  · by_cases h : d = EntityId.empty <;> cases enclosing <;>
      simp [denominatingToken, resolveDenomination, EntityId.isEmpty, h]

/-! ### One spec -/

variable {enclosing : Option EntityId}

theorem Acc.collect_eq (a : Acc) (yes : Bool) (c : EntityId) :
    a.collect yes c =
      { a with collectors := if yes then c.insertSorted a.collectors else a.collectors } := by
  cases yes <;> rfl

/-- One spec pushes its fee onto the list of its kind and, when it is paid in the token, adds its
collector. -/
theorem step_eq (a : Acc) (s : CustomFeeSpec) :
    step enclosing a s =
      { fixed := (fixedRow enclosing s).toList ++ a.fixed,
        fractional := (fractionalRow s).toList ++ a.fractional,
        royalty := (royaltyRow enclosing s).toList ++ a.royalty,
        collectors :=
          if chargedInToken enclosing s then (s.collector.getD EntityId.empty).insertSorted a.collectors
          else a.collectors } := by
  obtain ⟨fee, collector, exempt⟩ := s
  cases fee with
  | fixed f =>
    simp [step, fixedRow, fractionalRow, royaltyRow, chargedInToken, inToken, Acc.collect_eq, denominatingToken_eq]
  | fractional f =>
    simp [step, fixedRow, fractionalRow, royaltyRow, chargedInToken, Acc.collect_eq]
  | royalty r =>
    rcases r with ⟨n, d, _ | fb⟩
    · simp [step, fixedRow, fractionalRow, royaltyRow, chargedInToken]
    · simp [step, fixedRow, fractionalRow, royaltyRow, chargedInToken, inToken, Acc.collect_eq, denominatingToken_eq]

/-! ### The whole list -/

/-- A list of the accumulator that each spec extends by its own row keeps the specs' rows in
order, newest first. -/
theorem foldl_rows {β : Type} (get : Acc → List β) (row : CustomFeeSpec → Option β)
    (hget : ∀ a s, get (step enclosing a s) = (row s).toList ++ get a) :
    ∀ (specs : List CustomFeeSpec) (a : Acc),
      get (specs.foldl (step enclosing) a) = (specs.filterMap row).reverse ++ get a
  | [], _ => rfl
  | s :: rest, a => by
    rw [List.foldl_cons, foldl_rows get row hget rest, hget]
    cases h : row s <;> simp [h]

theorem mem_foldl_collectors {c : EntityId} :
    ∀ (specs : List CustomFeeSpec) (a : Acc),
      c ∈ (specs.foldl (step enclosing) a).collectors ↔
        c ∈ a.collectors ∨
          ∃ s ∈ specs, s.collector.getD EntityId.empty = c ∧ chargedInToken enclosing s
  | [], _ => by simp
  | s :: rest, a => by
    rw [List.foldl_cons, mem_foldl_collectors rest, step_eq]
    by_cases h : chargedInToken enclosing s
    · simp only [h, if_true, EntityId.mem_insertSorted, List.mem_cons, or_and_right, exists_or,
        exists_eq_left, and_true]
      constructor
      · rintro ((rfl | hc) | hr)
        · exact .inr (.inl rfl)
        · exact .inl hc
        · exact .inr (.inr hr)
      · rintro (hc | rfl | hr)
        · exact .inl (.inr hc)
        · exact .inl (.inl rfl)
        · exact .inr hr
    · simp [h]

theorem foldl_collectors_sorted :
    ∀ (specs : List CustomFeeSpec) (a : Acc), a.collectors.Pairwise (· < ·) →
      (specs.foldl (step enclosing) a).collectors.Pairwise (· < ·)
  | [], _, h => h
  | s :: rest, a, h => by
    rw [List.foldl_cons]
    refine foldl_collectors_sorted rest _ ?_
    rw [step_eq]
    split
    · exact EntityId.pairwise_insertSorted _ h
    · exact h

/-- No fee list is left without a fee: each spec is of one of the three kinds. -/
theorem rows_eq_nil_iff {specs : List CustomFeeSpec} :
    (specs.filterMap (fixedRow enclosing) = [] ∧ specs.filterMap fractionalRow = [] ∧
        specs.filterMap (royaltyRow enclosing) = []) ↔ specs = [] := by
  constructor
  · rintro ⟨hf, hq, hr⟩
    rw [List.eq_nil_iff_forall_not_mem]
    rintro ⟨fee, collector, exempt⟩ hs
    cases fee with
    | fixed f => simpa [fixedRow] using List.filterMap_eq_nil_iff.1 hf _ hs
    | fractional f => simpa [fractionalRow] using List.filterMap_eq_nil_iff.1 hq _ hs
    | royalty r => simpa [royaltyRow] using List.filterMap_eq_nil_iff.1 hr _ hs
  · rintro rfl
    simp

end FeeSchedule

open FeeSchedule in
/-- What the fee schedule row of `specs` for entity `id` at `ts` is, fee by fee. -/
structure ParsedFees.Describes (specs : List CustomFeeSpec) (id : EntityId)
    (enclosing : Option EntityId) (ts : Int) (p : ParsedFees) : Prop where
  entityId_eq : p.customFee.entityId = id
  range_eq : p.customFee.timestampRange = some (TimestampRange.openFrom ts)
  fixed_eq : p.customFee.fixedFees = nonEmpty (specs.filterMap (fixedRow enclosing))
  fractional_eq : p.customFee.fractionalFees = nonEmpty (specs.filterMap fractionalRow)
  royalty_eq : p.customFee.royaltyFees = nonEmpty (specs.filterMap (royaltyRow enclosing))
  /-- The row carries no fee list exactly when nothing was submitted. -/
  empty_iff : (p.customFee.fixedFees = none ∧ p.customFee.fractionalFees = none ∧
      p.customFee.royaltyFees = none) ↔ specs = []
  mem_collectors : ∀ c, c ∈ p.inTokenCollectors ↔ c ≠ EntityId.empty ∧
      ∃ s ∈ specs, s.collector.getD EntityId.empty = c ∧ chargedInToken enclosing s
  collectors_sorted : p.inTokenCollectors.Pairwise (· < ·)

open FeeSchedule in
/-- **The fee schedule row, fee by fee.** -/
theorem parseCustomFees_describes (specs : List CustomFeeSpec) (id : EntityId)
    (enclosing : Option EntityId) (ts : Int) :
    (parseCustomFees specs id enclosing ts).Describes specs id enclosing ts := by
  have hfixed := foldl_rows Acc.fixed (fixedRow enclosing)
    (fun a s => by rw [step_eq]) specs {}
  have hfractional := @foldl_rows enclosing _ Acc.fractional fractionalRow
    (fun a s => by rw [step_eq]) specs {}
  have hroyalty := foldl_rows Acc.royalty (royaltyRow enclosing)
    (fun a s => by rw [step_eq]) specs {}
  simp only [List.append_nil] at hfixed hfractional hroyalty
  refine
    { entityId_eq := rfl, range_eq := rfl,
      fixed_eq := by simp [parseCustomFees, hfixed],
      fractional_eq := by simp [parseCustomFees, hfractional],
      royalty_eq := by simp [parseCustomFees, hroyalty],
      empty_iff := ?_, mem_collectors := fun c => ?_, collectors_sorted := ?_ }
  · simp only [parseCustomFees, hfixed, hfractional, hroyalty, nonEmpty_eq_none,
      List.reverse_eq_nil_iff]
    exact rows_eq_nil_iff
  · simp only [parseCustomFees, List.mem_filter, mem_foldl_collectors, Bool.not_eq_true']
    simp [EntityId.isEmpty, and_comm]
  · exact (foldl_collectors_sorted specs {} List.Pairwise.nil).filter _

/-- A token's own fixed fee (denominated `0.0.0`) is paid in the token; fees in another token or in
hbar are not. -/
example :
    (parseCustomFees
      [{ fee := .fixed { amount := 10, denominatingTokenId := some EntityId.empty },
         collector := some (EntityId.ofNum 801) },
       { fee := .fixed { amount := 20, denominatingTokenId := some (EntityId.ofNum 42) },
         collector := some (EntityId.ofNum 802) },
       { fee := .fixed { amount := 30 }, collector := some (EntityId.ofNum 803) }]
      (EntityId.ofNum 500) (some (EntityId.ofNum 500)) 7).inTokenCollectors =
      [EntityId.ofNum 801] := by
  decide


end LedgerProjection
