import LedgerProjection.Record.Spec
import LedgerProjection.Table.Token
import LedgerProjection.Projection.Context

/-!
# Custom fee schedules

A submitted fee list becomes one fee schedule row for the entity it belongs to, valid from the
consensus timestamp on. An empty list still gives a row, with every fee list absent: it says
"no custom fees from here on".

For a token's schedule (`enclosing` set) a denominating token of `0.0.0` stands for the token
itself, and the collectors paid in that token are reported: those of fixed and fallback fees
denominated in it, and those of every fractional fee (which is always charged in the token
being transferred). `0.0.0` is never reported.
-/

namespace LedgerProjection

/-- A fee schedule row and the collectors paid in the enclosing token, ascending. -/
structure ParsedFees where
  customFee : CustomFee
  inTokenCollectors : List EntityId

namespace FeeSchedule

/-- The denominating token of a fixed fee: `0.0.0` means the enclosing token, or no token
outside a token's schedule. -/
def denominatingToken (denominating enclosing : Option EntityId) : Option EntityId :=
  match denominating, enclosing with
  | some id, some t => if id.isEmpty then some t else some id
  | some id, none => if id.isEmpty then none else some id
  | none, _ => none

/-- The fee lists built so far (most recent first) and the collectors in the token. -/
structure Acc where
  fixed : List FixedFee := []
  fractional : List FractionalFee := []
  royalty : List RoyaltyFee := []
  collectors : List EntityId := []

/-- Whether a denominating token is the enclosing token. -/
def inToken (denominating enclosing : Option EntityId) : Bool :=
  enclosing.isSome && denominating == enclosing

/-- The collector added to the in-token set when `yes`. -/
def Acc.collect (a : Acc) (yes : Bool) (collector : EntityId) : Acc :=
  if yes then { a with collectors := collector.insertSorted a.collectors } else a

/-- Adds one spec. -/
def step (enclosing : Option EntityId) (a : Acc) (spec : CustomFeeSpec) : Acc :=
  let collector := spec.collector.getD EntityId.empty
  let exempt := spec.allCollectorsAreExempt
  match spec.fee with
  | .fixed f =>
    let d := denominatingToken f.denominatingTokenId enclosing
    let a := a.collect (inToken d enclosing) collector
    { a with fixed := { amount := f.amount, collectorAccountId := collector,
                        denominatingTokenId := d, allCollectorsAreExempt := exempt } :: a.fixed }
  | .fractional f =>
    let a := a.collect enclosing.isSome collector
    let maximum := if f.maximumAmount > 0 then some f.maximumAmount else none
    { a with fractional := { numerator := f.numerator, denominator := f.denominator,
                             minimumAmount := f.minimumAmount, maximumAmount := maximum,
                             netOfTransfers := f.netOfTransfers, collectorAccountId := collector,
                             allCollectorsAreExempt := exempt } :: a.fractional }
  | .royalty r =>
    let (a, fallback) := match r.fallbackFee with
      | some fb =>
        let d := denominatingToken fb.denominatingTokenId enclosing
        (a.collect (inToken d enclosing) collector,
          some ({ amount := fb.amount, denominatingTokenId := d } : FallbackFee))
      | none => (a, none)
    { a with royalty := { numerator := r.numerator, denominator := r.denominator,
                          fallbackFee := fallback, collectorAccountId := collector,
                          allCollectorsAreExempt := exempt } :: a.royalty }

/-- A list, or `none` when empty. -/
def nonEmpty {α : Type} (xs : List α) : Option (List α) := if xs.isEmpty then none else some xs

end FeeSchedule

/-- The fee schedule row of `entityId` from `specs`, valid from `timestamp` on. -/
def parseCustomFees (specs : List CustomFeeSpec) (entityId : EntityId) (enclosing : Option EntityId)
    (timestamp : Int) : ParsedFees :=
  let a := specs.foldl (FeeSchedule.step enclosing) {}
  { customFee := { entityId := entityId, timestampRange := some (TimestampRange.openFrom timestamp),
                   fixedFees := FeeSchedule.nonEmpty a.fixed.reverse,
                   fractionalFees := FeeSchedule.nonEmpty a.fractional.reverse,
                   royaltyFees := FeeSchedule.nonEmpty a.royalty.reverse }
    inTokenCollectors := a.collectors.filter fun c => !c.isEmpty }

end LedgerProjection
