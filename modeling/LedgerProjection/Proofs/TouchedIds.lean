import LedgerProjection.Proofs.ContractResults
import LedgerProjection.Proofs.FeeSchedules

/-!
## The ids a record touches

Each record reports the ids it touched, ascending. The template touches the main entity (a
topic message leaves it out), the fee payer and the submitting node; then the handler and the
shared phases touch the ids they resolve or name, some before the receipt is checked and some
only after. `0.0.0` is never touched.

* `Projection.Widens`: a program that returns kept the settings and every touched id, and
  touched no `0.0.0`. Every step of the projection widens, so the handler walk gives it of
  every handler (`Handler.widens_grants`) and of the whole projection
  (`Projection.process_widens`); the template touches its own ids before anything else
  (`Handler.run_covers`).
* `Projection.Related`: a relational triple over two programs. From one state, the handler of
  a failed record ends behind the handler of the same record with any other outcome
  (`Handler.failureTrails_ofBody`, `Handler.FailureTrails.run`): what comes before a check of
  the receipt runs alike in both, and what a failed record skips only widens the other run.
  Only the kinds whose transaction-level effects check the receipt need an argument of their
  own, at the check. The shared phases keep the one state behind the other
  (`Projection.process_related`).
* `projectRecord_touched`: the main statement.
-/

namespace LedgerProjection

/-- The record with another outcome: only the status of its receipt changes. -/
def RecordItem.withStatus (item : RecordItem) (status : ResponseCode) : RecordItem :=
  { item with receipt := { item.receipt with status := status } }

namespace RecordItem

variable (item : RecordItem) (s : ResponseCode)

@[simp] theorem withStatus_record : (item.withStatus s).record = item.record := rfl

@[simp] theorem withStatus_nodeAccountId :
    (item.withStatus s).nodeAccountId = item.nodeAccountId := rfl

@[simp] theorem withStatus_isSuccessful :
    (item.withStatus s).isSuccessful = s.isSuccessful := rfl

end RecordItem

/-! ### States one ahead of another -/

namespace Ctx

variable {c d e : Ctx}

/-- `d` has the settings of `c` and every id `c` touched. -/
structure Behind (c d : Ctx) : Prop where
  props : c.props = d.props
  touched : c.touched ⊆ d.touched

theorem Behind.refl (c : Ctx) : c.Behind c := ⟨rfl, List.Subset.refl _⟩

theorem Behind.trans (h : c.Behind d) (h' : d.Behind e) : c.Behind e :=
  ⟨h.props.trans h'.props, List.Subset.trans h.touched h'.touched⟩

theorem Behind.insertSorted (h : c.Behind d) (id : EntityId) :
    Behind { c with touched := id.insertSorted c.touched }
      { d with touched := id.insertSorted d.touched } :=
  ⟨h.props, fun _ ha =>
    EntityId.mem_insertSorted.2 ((EntityId.mem_insertSorted.1 ha).imp_right (h.touched ·))⟩

/-- Going from `c` to `c'` kept the settings and every touched id, and touched no `0.0.0`. -/
structure Widens (c c' : Ctx) : Prop extends Behind c c' where
  fresh : ∀ id ∈ c'.touched, id ∈ c.touched ∨ id.isEmpty = false

theorem Widens.refl (c : Ctx) : c.Widens c := ⟨Behind.refl c, fun _ h => .inl h⟩

theorem Widens.trans (h : c.Widens d) (h' : d.Widens e) : c.Widens e :=
  ⟨h.toBehind.trans h'.toBehind, fun id hid => (h'.fresh id hid).elim (h.fresh id) .inr⟩

/-- A step that keeps the settings and the touched ids. -/
theorem Widens.of_eq {c' : Ctx} (hp : c.props = c'.props) (ht : c.touched = c'.touched) :
    c.Widens c' :=
  ⟨⟨hp, ht ▸ List.Subset.refl _⟩, fun _ h => .inl (ht ▸ h)⟩

theorem widens_insertSorted (c : Ctx) {id : EntityId} (h : id.isEmpty = false) :
    c.Widens { c with touched := id.insertSorted c.touched } where
  props := rfl
  touched _ ha := EntityId.mem_insertSorted.2 (.inr ha)
  fresh _ ha := (EntityId.mem_insertSorted.1 ha).elim (fun he => .inr (he ▸ h)) .inl

/-- Every id of `ids` other than `0.0.0` is touched. -/
def Covers (ids : List EntityId) (c : Ctx) : Prop :=
  ∀ id ∈ ids, id.isEmpty = false → id ∈ c.touched

theorem Covers.mono {ids : List EntityId} (h : c.Covers ids) (hb : c.Behind d) : d.Covers ids :=
  fun id hid he => hb.touched (h id hid he)

/-- `d` is ahead of `c` and resolves every reference as `c` does. -/
structure Mirrors (c d : Ctx) : Prop extends Behind c d where
  via : c.via = d.via
  resolver : c.sink.resolver = d.sink.resolver

theorem Mirrors.of_eq (h : c = d) : c.Mirrors d := h ▸ ⟨Behind.refl c, rfl, rfl⟩

theorem Mirrors.resolveOrEmpty (h : c.Mirrors d) (ref : Option EntityRef) :
    c.resolveOrEmpty ref = d.resolveOrEmpty ref := by
  have hresolve : c.resolve = d.resolve := by
    funext r
    simp only [Ctx.resolve, Ctx.decodeLocal, h.props, h.via, h.resolver]
  simp only [Ctx.resolveOrEmpty, hresolve]

end Ctx

/-! ### Programs that widen the state -/

namespace Projection

variable {α β γ δ : Type}

/-- Whenever `x` returns, it widened the state it started from. -/
def Widens (x : Projection α) : Prop :=
  ∀ ⦃c : Ctx⦄ ⦃a : α⦄ ⦃c' : Ctx⦄, x.run c = .ok a c' → c.Widens c'

namespace Widens

theorem pure (a : α) : Widens (Pure.pure a : Projection α) := by
  intro c b c' h
  cases h
  exact Ctx.Widens.refl c

theorem bind {x : Projection α} {f : α → Projection β} (hx : Widens x)
    (hf : ∀ a, Widens (f a)) : Widens (x >>= f) := by
  intro c b c' h
  obtain ⟨a, c₁, h₁, h₂⟩ := run_bind_eq_ok h
  exact (hx h₁).trans (hf a h₂)

theorem get : Widens (MonadState.get : Projection Ctx) := by
  intro c a c' h
  cases h
  exact Ctx.Widens.refl c

theorem track (id : EntityId) : Widens (Projection.track id) := by
  intro c u c' h
  rw [run_track] at h
  cases h
  split
  · exact Ctx.Widens.refl c
  · exact c.widens_insertSorted (Bool.eq_false_iff.2 ‹_›)

theorem nextLogIndex : Widens Projection.nextLogIndex := by
  intro c a c' h
  obtain ⟨-, rfl⟩ := run_nextLogIndex_eq_ok h
  exact Ctx.Widens.of_eq rfl rfl

theorem fail (o : Overflow) : Widens (Projection.fail o : Projection α) := by
  intro c a c' h
  cases h

theorem emit (m : Mutation) : Widens (Projection.emit m) := by
  intro c u c' h
  obtain ⟨-, rfl⟩ := run_emit_eq_ok h
  exact Ctx.Widens.of_eq rfl rfl

end Widens

/-- Widening the state is a property of programs every handler's effects have. -/
def Logic.widens : Logic where
  Holds := Widens
  pure := Widens.pure
  bind := Widens.bind
  get := Widens.get
  track := Widens.track

/-- The projection of a record widens the state it starts from. -/
theorem process_widens (item : RecordItem) : Widens (process item) :=
  process_holds_of_emit (L := Logic.widens) Widens.emit Widens.nextLogIndex Widens.fail

/-! ### Programs that leave the state alone -/

/-- Whenever `x` returns, it left the state as it found it. -/
def Stays (x : Projection α) : Prop :=
  ∀ ⦃c : Ctx⦄ ⦃a : α⦄ ⦃c' : Ctx⦄, x.run c = .ok a c' → c' = c

namespace Stays

theorem pure (a : α) : Stays (Pure.pure a : Projection α) := by
  intro c b c' h
  cases h
  rfl

theorem bind {x : Projection α} {f : α → Projection β} (hx : Stays x) (hf : ∀ a, Stays (f a)) :
    Stays (x >>= f) := by
  intro c b c' h
  obtain ⟨a, c₁, h₁, h₂⟩ := run_bind_eq_ok h
  rw [hf a h₂, hx h₁]

theorem persist : Stays Projection.persist := by
  intro c a c' h
  rw [run_persist] at h
  cases h
  rfl

/-- A step that returns at once when its condition holds. -/
theorem skip {p : Prop} [Decidable p] {y : Projection PUnit} (h : p) :
    Stays (if p then Pure.pure PUnit.unit else y) := by
  rw [if_pos h]
  exact pure _

/-- What follows a step that always gives `v` stays when it does for `v`. -/
theorem bind_returns {x : Projection α} {f : α → Projection β} {v : α} (hx : Stays x)
    (hv : Returns x v) (hf : Stays (f v)) : Stays (x >>= f) := by
  rw [bind_eq_of_returns hv]
  exact bind hx fun _ => hf

theorem emitsTokens (item : RecordItem) : Stays (Handler.emitsTokens item) :=
  bind persist fun _ => pure _

theorem emitsNodes (item : RecordItem) : Stays (Handler.emitsNodes item) :=
  bind persist fun _ => pure _

end Stays

/-! ### Two programs side by side -/

/-- A relational triple: from states that `P` relates, whenever both `x` and `y` return, `R`
relates their values and `Q` the states they end in. -/
def Related (P : Ctx → Ctx → Prop) (x : Projection α) (y : Projection β) (R : α → β → Prop)
    (Q : Ctx → Ctx → Prop) : Prop :=
  ∀ ⦃c d : Ctx⦄ ⦃a : α⦄ ⦃b : β⦄ ⦃c' d' : Ctx⦄,
    P c d → x.run c = .ok a c' → y.run d = .ok b d' → R a b ∧ Q c' d'

namespace Related

variable {P P' Q Q' T : Ctx → Ctx → Prop} {R R' : α → β → Prop} {S : γ → δ → Prop}
  {x : Projection α} {y : Projection β}

theorem mono (h : Related P x y R Q) (hP : ∀ c d, P' c d → P c d) (hR : ∀ a b, R a b → R' a b)
    (hQ : ∀ c d, Q c d → Q' c d) : Related P' x y R' Q' := by
  intro c d a b c' d' hcd hx hy
  obtain ⟨hab, hq⟩ := h (hP c d hcd) hx hy
  exact ⟨hR a b hab, hQ c' d' hq⟩

theorem bind {f : α → Projection γ} {g : β → Projection δ} (hx : Related P x y R Q)
    (hf : ∀ a b, R a b → Related Q (f a) (g b) S T) : Related P (x >>= f) (y >>= g) S T := by
  intro c d a' b' c' d' hcd hfx hgy
  obtain ⟨a, c₁, hx₁, hf₁⟩ := run_bind_eq_ok hfx
  obtain ⟨b, d₁, hy₁, hg₁⟩ := run_bind_eq_ok hgy
  obtain ⟨hab, hq⟩ := hx hcd hx₁ hy₁
  exact hf a b hab hq hf₁ hg₁

/-- One program from one state gives one value and one state. -/
theorem self (x : Projection α) : Related Eq x x Eq Eq := by
  rintro c _ a b c' d' rfl hx hy
  rw [hx] at hy
  cases hy
  exact ⟨rfl, rfl⟩

/-- Two programs that start alike, from one state. -/
theorem bind_self {p : Projection γ} {f : γ → Projection α} {g : γ → Projection β}
    (h : ∀ a, Related Eq (f a) (g a) R Q) : Related Eq (p >>= f) (p >>= g) R Q :=
  bind (self p) fun a _ hab => hab ▸ h a

theorem pure {a : α} {b : β} (hab : R a b) (hPQ : ∀ c d, P c d → Q c d) :
    Related P (Pure.pure a) (Pure.pure b) R Q := by
  intro c d a' b' c' d' hcd hx hy
  cases hx
  cases hy
  exact ⟨hab, hPQ c d hcd⟩

theorem ite {p : Prop} [Decidable p] {x' : Projection α} {y' : Projection β}
    (hx : p → Related P x y R Q) (hy : ¬p → Related P x' y' R Q) :
    Related P (if p then x else x') (if p then y else y') R Q := by
  split
  · exact hx ‹p›
  · exact hy ‹¬p›

theorem forM {I : Ctx → Ctx → Prop} {xs : List γ} {f g : γ → Projection PUnit}
    (h : ∀ z ∈ xs, Related I (f z) (g z) (fun _ _ => True) I) :
    Related I (xs.forM f) (xs.forM g) (fun _ _ => True) I := by
  induction xs with
  | nil => exact pure trivial fun _ _ hcd => hcd
  | cons z zs ih =>
    exact bind (h z (List.mem_cons_self ..)) fun _ _ _ =>
      ih fun w hw => h w (List.mem_cons_of_mem _ hw)

/-- A program that leaves the state alone ends behind one that widens it. -/
theorem stay (hx : Stays x) (hy : Widens y) (hR : ∀ a b, R a b)
    (hP : ∀ c d, P c d → c.Behind d) : Related P x y R Ctx.Behind := by
  intro c d a b c' d' hcd hx' hy'
  rw [hx hx']
  exact ⟨hR a b, (hP c d hcd).trans (hy hy').toBehind⟩

/-- A program that only returns ends behind one that widens the state before it returns. -/
theorem pure_bind {a : α} {b : β} {y : Projection γ} (hy : Widens y) (hab : R a b)
    (hP : ∀ c d, P c d → c.Behind d) :
    Related P (Pure.pure a) (y >>= fun _ => Pure.pure b) R Ctx.Behind := by
  intro c d a' b' c' d' hcd hx hy'
  cases hx
  obtain ⟨_, d₁, hy₁, hb⟩ := run_bind_eq_ok hy'
  cases hb
  exact ⟨hab, (hP c d hcd).trans (hy hy₁).toBehind⟩

/-! From states one behind the other. -/

theorem track (id : EntityId) :
    Related Ctx.Behind (Projection.track id) (Projection.track id) (fun _ _ => True)
      Ctx.Behind := by
  intro c d _ _ c' d' hcd hx hy
  rw [run_track] at hx hy
  cases hx
  cases hy
  refine ⟨trivial, ?_⟩
  split
  · exact hcd
  · exact hcd.insertSorted id

theorem trackAll (ids : List EntityId) :
    Related Ctx.Behind (Projection.trackAll ids) (Projection.trackAll ids) (fun _ _ => True)
      Ctx.Behind := by
  induction ids with
  | nil => exact pure trivial fun _ _ h => h
  | cons id ids ih => exact bind (track id) fun _ _ _ => ih

theorem persist : Related Ctx.Behind Projection.persist Projection.persist Eq Ctx.Behind := by
  intro c d a b c' d' hcd hx hy
  rw [run_persist] at hx hy
  cases hx
  cases hy
  exact ⟨congrArg Properties.persist hcd.props, hcd⟩

theorem ofExcept (r : Except Overflow α) :
    Related P (Projection.ofExcept r) (Projection.ofExcept r) Eq P := by
  cases r with
  | ok a => exact pure rfl fun _ _ h => h
  | error o =>
    intro c d a b c' d' _ hx
    cases hx

/-- Two rows emitted side by side, whatever they are. -/
theorem emit (m m' : Mutation) :
    Related Ctx.Behind (Projection.emit m) (Projection.emit m') (fun _ _ => True) Ctx.Behind := by
  intro c d u v c' d' hcd hx hy
  obtain ⟨-, rfl⟩ := run_emit_eq_ok hx
  obtain ⟨-, rfl⟩ := run_emit_eq_ok hy
  exact ⟨trivial, hcd.props, hcd.touched⟩

theorem emitAll (ms : List Mutation) :
    Related Ctx.Behind (Projection.emitAll ms) (Projection.emitAll ms) (fun _ _ => True)
      Ctx.Behind := by
  induction ms with
  | nil => exact pure trivial fun _ _ h => h
  | cons m ms ih => exact bind (emit m m) fun _ _ _ => ih

/-! From states that resolve alike. -/

theorem get_mirrors :
    Related Ctx.Mirrors (MonadState.get : Projection Ctx) (MonadState.get : Projection Ctx)
      Ctx.Mirrors Ctx.Mirrors := by
  intro c d a b c' d' hcd hx hy
  cases hx
  cases hy
  exact ⟨hcd, hcd⟩

theorem track_mirrors (id : EntityId) :
    Related Ctx.Mirrors (Projection.track id) (Projection.track id) (fun _ _ => True)
      Ctx.Mirrors := by
  intro c d _ _ c' d' hcd hx hy
  rw [run_track] at hx hy
  cases hx
  cases hy
  refine ⟨trivial, ?_⟩
  split
  · exact hcd
  · exact ⟨hcd.toBehind.insertSorted id, hcd.via, hcd.resolver⟩

theorem resolveAndTrack_mirrors (ref : Option EntityRef) :
    Related Ctx.Mirrors (Projection.resolveAndTrack ref) (Projection.resolveAndTrack ref) Eq
      Ctx.Mirrors :=
  bind get_mirrors fun c d hcd => by
    dsimp only
    rw [hcd.resolveOrEmpty ref]
    exact bind (track_mirrors _) fun _ _ _ => pure rfl fun _ _ h => h

/-- A row the resolver learns nothing from, written by one side only. -/
theorem pure_emit_mirrors {m : Mutation} (hm : ∀ r, Sink.learn r m = r) (u : PUnit) :
    Related Ctx.Mirrors (Pure.pure u) (Projection.emit m) (fun _ _ => True) Ctx.Mirrors := by
  intro c d a b c' d' hcd hx hy
  cases hx
  obtain ⟨-, rfl⟩ := run_emit_eq_ok hy
  refine ⟨trivial, ⟨hcd.props, hcd.touched⟩, hcd.via, ?_⟩
  show c.sink.resolver = (d.sink.deliver m).1.resolver
  rw [Sink.deliver_resolver, hm, hcd.resolver]

end Related

/-- A program that leaves the state alone ends, from one state, behind one that widens it. -/
theorem Related.stays_widens {x : Projection α} {y : Projection β} (hx : Stays x)
    (hy : Widens y) : Related Eq x y (fun _ _ => True) Ctx.Behind :=
  Related.stay hx hy (fun _ _ => trivial) fun _ _ h => h ▸ Ctx.Behind.refl _

/-- Two programs that start with steps giving one value. -/
theorem Related.bind_eq {P Q T : Ctx → Ctx → Prop} {S : γ → δ → Prop} {x x' : Projection α}
    {f : α → Projection γ} {g : α → Projection δ} (hx : Related P x x' Eq Q)
    (hf : ∀ a, Related Q (f a) (g a) S T) : Related P (x >>= f) (x' >>= g) S T :=
  Related.bind hx fun a _ hab => hab ▸ hf a

/-! ### From a precondition to a postcondition -/

/-- From a state `P` holds of, whenever `x` returns, `Q` holds of the state it ends in. -/
def Triple (P : Ctx → Prop) (x : Projection α) (Q : Ctx → Prop) : Prop :=
  ∀ ⦃c : Ctx⦄ ⦃a : α⦄ ⦃c' : Ctx⦄, P c → x.run c = .ok a c' → Q c'

namespace Triple

variable {P Q Q' T : Ctx → Prop} {x : Projection α}

theorem bind {f : α → Projection β} (hx : Triple P x Q) (hf : ∀ a, Triple Q (f a) T) :
    Triple P (x >>= f) T := by
  intro c b c' hc h
  obtain ⟨a, c₁, h₁, h₂⟩ := run_bind_eq_ok h
  exact hf a (hx hc h₁) h₂

theorem weaken (h : Triple P x Q) (hQ : ∀ c, Q c → Q' c) : Triple P x Q' :=
  fun _ _ c' hc hx => hQ c' (h hc hx)

/-- A program that widens the state keeps every id touched. -/
theorem covers_widens {ids : List EntityId} (hx : Widens x) :
    Triple (Ctx.Covers ids) x (Ctx.Covers ids) :=
  fun _ _ _ hc h => hc.mono (hx h).toBehind

theorem track {ids : List EntityId} (id : EntityId) :
    Triple (Ctx.Covers ids) (Projection.track id) (Ctx.Covers (id :: ids)) := by
  intro c u c' hc h
  have hw := Widens.track id h
  rw [run_track] at h
  cases h
  intro a ha hne
  rcases List.mem_cons.1 ha with rfl | ha
  · rw [if_neg (by simp [hne])]
    exact EntityId.mem_insertSorted_self a _
  · exact hw.touched (hc a ha hne)

end Triple

end Projection

/-! ### The template -/

namespace Handler

open Projection

variable {h : Handler} {item : RecordItem}

/-- Every effect of a handler widens the state. -/
theorem widens_grants (item : RecordItem) :
    Grants Logic.widens (Logic.widens.main fun _ => True) item :=
  Grants.of_emit Widens.emit Widens.nextLogIndex item

/-- The ids the template touches first, last one first: the node, the payer, and the main
entity it reads from `c` unless the kind leaves it out. -/
def templateIds (h : Handler) (c : Ctx) (item : RecordItem) : List EntityId :=
  item.nodeAccountId.toList ++
    item.payerAccountId :: if h.tracksMainEntity then [h.mainEntity c item] else []

/-- The template touches its own ids before the kind's effects, which only widen the state. -/
theorem run_covers (hs : h.Satisfies Logic.widens (Logic.widens.main fun _ => True) item)
    {c c' : Ctx} {tx : Transaction}
    (hr : (h.run item).run c = .ok tx c') : c'.Covers (h.templateIds c item) := by
  unfold Handler.run at hr
  rw [run_bind, run_read] at hr
  refine (?_ : Triple (Ctx.Covers []) _ _) (fun _ h => nomatch h) hr
  clear hr
  dsimp only
  split
  on_goal 1 => refine Triple.bind (Triple.track _) fun _ => ?_
  all_goals
    refine Triple.bind (Triple.track _) fun _ => ?_
    split
    on_goal 1 => refine Triple.bind (Triple.track _) fun _ => ?_
    all_goals
      refine (Triple.covers_widens ?_).weaken fun c' hc id hid => hc id ?_
      · exact Logic.widens.bind (hs.onTransaction _) fun _ =>
          Logic.widens.gate fun hc =>
            Logic.widens.bind (hs.onEntity (isSuccessful_of_runs hc) _ trivial) fun _ =>
              Logic.widens.pure _
      · simp_all [templateIds]

/-! ### A failed record touches no more than the same record with another outcome -/

/-- For the failed record `item`, the transaction-level effects of `h` end, from one state,
behind those for the same record with any other outcome. -/
def FailureTrails (h : Handler) (item : RecordItem) : Prop :=
  ∀ s e, Related Eq (h.onTransaction item (item.transactionRow e))
    (h.onTransaction (item.withStatus s) ((item.withStatus s).transactionRow e))
    (fun _ _ => True) Ctx.Behind

/-- The template of a failed record ends behind the template of the same record with another
outcome: the main entity, the payer and the node are touched alike, and the entity effects it
skips only widen the other run. -/
theorem FailureTrails.run (ht : h.FailureTrails item) (hf : item.isSuccessful = false)
    (s : ResponseCode) (hm : ∀ c, h.mainEntity c (item.withStatus s) = h.mainEntity c item)
    (he : (item.withStatus s).isSuccessful = true →
      ∀ e, Widens (h.onEntity (item.withStatus s) e)) :
    Related Eq (h.run item) (h.run (item.withStatus s))
      (fun tx tx' => tx.entityId = tx'.entityId) Ctx.Behind := by
  unfold Handler.run
  refine Related.bind_self fun c => ?_
  dsimp only
  rw [hm c, RecordItem.withStatus_nodeAccountId]
  split
  on_goal 1 => refine Related.bind_self fun _ => ?_
  all_goals
    refine Related.bind_self fun _ => ?_
    cases item.nodeAccountId
    on_goal 2 => refine Related.bind_self fun _ => ?_
    all_goals
      refine Related.bind (ht s _) fun _ _ _ => ?_
      rw [if_pos (by simp [hf])]
      split
      · exact Related.pure rfl fun _ _ h => h
      · exact Related.pure_bind (he (isSuccessful_of_runs ‹_›) _) rfl fun _ _ h => h

/-- Effects that do not look at the outcome run alike for every outcome. -/
theorem failureTrails_of_eq
    (he : ∀ s e, h.onTransaction (item.withStatus s) ((item.withStatus s).transactionRow e) =
      h.onTransaction item (item.transactionRow e)) : h.FailureTrails item := fun s e => by
  rw [he s e]
  exact (Related.self _).mono (fun _ _ h => h) (fun _ _ _ => trivial)
    fun _ _ h => h ▸ Ctx.Behind.refl _

/-- Effects that do nothing for a failed record. -/
theorem failureTrails_of_stays (hs : ∀ e, Stays (h.onTransaction item (item.transactionRow e)))
    (hw : ∀ s, h.Satisfies Logic.widens (Logic.widens.main fun _ => True) (item.withStatus s)) :
    h.FailureTrails item :=
  fun s _ => Related.stays_widens (hs _) ((hw s).onTransaction _)

section Kinds

variable (hf : item.isSuccessful = false)
include hf

/-- What follows asking whether token rows are written runs as it does when they are not. -/
theorem stays_emitsTokens_bind {f : Bool → Projection β} (h : Stays (f false)) :
    Stays (emitsTokens item >>= f) :=
  Stays.bind_returns (Stays.emitsTokens item) (emitsTokens_returns hf) h

/-- What follows asking whether node rows are written runs as it does when they are not. -/
theorem stays_emitsNodes_bind {f : Bool → Projection β} (h : Stays (f false)) :
    Stays (emitsNodes item >>= f) :=
  Stays.bind_returns (Stays.emitsNodes item) (emitsNodes_returns hf) h

/-- The rows a token kind writes for its token wait for success. -/
theorem stays_tokenRows (tx : Transaction) (x : EntityId → Projection Unit) :
    Stays (do
      let some token := tx.entityId | return
      if !(← emitsTokens item) then return
      x token) := by
  split
  · exact stays_emitsTokens_bind hf (Stays.skip rfl)
  · exact Stays.pure _

/-- Signatures toward a schedule wait for success. -/
theorem stays_emitSignatures (schedule : EntityId) : Stays (emitSignatures item schedule) :=
  Stays.bind Stays.persist fun _ => Stays.skip (by simp [hf])

theorem failureTrails_submitMessage (body : ConsensusSubmitMessageBody) :
    (submitMessage body).FailureTrails item := by
  refine failureTrails_of_stays (fun _ => ?_) fun _ =>
    satisfies_submitMessage (widens_grants _) body
  dsimp only [submitMessage]
  split
  · exact Stays.bind Stays.persist fun _ => Stays.skip (by simp [hf])
  · exact Stays.pure _

theorem failureTrails_liveHash (adds : Bool) (body : LiveHashBody) :
    (liveHash adds body).FailureTrails item := by
  refine failureTrails_of_stays (fun _ => ?_) fun _ =>
    satisfies_liveHash (widens_grants _) adds body
  dsimp only [liveHash]
  split
  · exact Stays.pure _
  · split
    · exact Stays.bind Stays.persist fun _ => Stays.skip (by simp [hf])
    · exact Stays.pure _

theorem failureTrails_approveAllowance (body : CryptoApproveAllowanceBody) :
    (approveAllowance body).FailureTrails item := by
  refine failureTrails_of_stays (fun _ => ?_) fun _ =>
    satisfies_approveAllowance (widens_grants _) body
  dsimp only [approveAllowance]
  rw [if_neg (by simp [hf])]
  exact Stays.pure _

theorem failureTrails_deleteAllowance (body : CryptoDeleteAllowanceBody) :
    (deleteAllowance body).FailureTrails item := by
  refine failureTrails_of_stays (fun _ => ?_) fun _ =>
    satisfies_deleteAllowance (widens_grants _) body
  dsimp only [deleteAllowance]
  rw [if_neg (by simp [hf])]
  exact Stays.pure _

theorem failureTrails_fileAppend (body : FileAppendBody) :
    (fileAppend body).FailureTrails item := by
  refine failureTrails_of_stays (fun _ => ?_) fun _ =>
    satisfies_fileAppend (widens_grants _) body
  dsimp only [fileAppend]
  split
  · rw [if_neg (by simp [hf])]
    exact Stays.pure _
  · exact Stays.pure _

theorem failureTrails_tokenPause (status : TokenPauseStatus) (body : TokenRefBody) :
    (tokenPause status body).FailureTrails item :=
  failureTrails_of_stays (fun _ => stays_tokenRows hf _ _) fun _ =>
    satisfies_tokenPause (widens_grants _) status body

theorem failureTrails_tokenMint (body : TokenMintBody) : (tokenMint body).FailureTrails item :=
  failureTrails_of_stays (fun _ => stays_tokenRows hf _ _) fun _ =>
    satisfies_tokenMint (widens_grants _) body

theorem failureTrails_tokenBurn (body : TokenBurnBody) : (tokenBurn body).FailureTrails item :=
  failureTrails_of_stays (fun _ => stays_tokenRows hf _ _) fun _ =>
    satisfies_tokenBurn (widens_grants _) body

theorem failureTrails_tokenUpdateNfts (body : TokenUpdateNftsBody) :
    (tokenUpdateNfts body).FailureTrails item := by
  refine failureTrails_of_stays (fun _ => ?_) fun _ =>
    satisfies_tokenUpdateNfts (widens_grants _) body
  dsimp only [tokenUpdateNfts]
  split
  · split
    · exact stays_emitsTokens_bind hf (Stays.skip rfl)
    · exact Stays.pure _
  · exact Stays.pure _

theorem failureTrails_nodeDelete (body : NodeDeleteBody) : (nodeDelete body).FailureTrails item :=
  failureTrails_of_stays (fun _ => stays_emitsNodes_bind hf (Stays.skip rfl)) fun _ =>
    satisfies_nodeDelete (widens_grants _) body

theorem failureTrails_nodeStakeUpdate (body : NodeStakeUpdateBody) :
    (nodeStakeUpdate body).FailureTrails item :=
  failureTrails_of_stays (fun _ => stays_emitsNodes_bind hf (Stays.skip rfl)) fun _ =>
    satisfies_nodeStakeUpdate (widens_grants _) body

theorem failureTrails_scheduleSign (body : ScheduleRefBody) :
    (scheduleSign body).FailureTrails item :=
  failureTrails_of_stays (fun _ => stays_emitSignatures hf _) fun _ =>
    satisfies_scheduleSign (widens_grants _) body

theorem failureTrails_utilPrng (body : UtilPrngBody) : (utilPrng body).FailureTrails item :=
  failureTrails_of_stays
    (fun _ => Stays.bind Stays.persist fun _ => Stays.skip (by simp [hf])) fun _ =>
    satisfies_utilPrng (widens_grants _) body

/-! Kinds that resolve or touch ids before they check the outcome. -/

theorem failureTrails_tokenWipe (body : TokenWipeBody) : (tokenWipe body).FailureTrails item :=
  fun _ _ => Related.bind_self fun _ => Related.stays_widens (stays_tokenRows hf _ _)
    (tokenRows (L := Logic.widens) _ fun hs _ =>
      (widens_grants _).emitSupply hs _ fun _ => plainAt_of_mem_burnedSerials)

theorem failureTrails_tokenFeeScheduleUpdate (body : TokenFeeScheduleUpdateBody) :
    (tokenFeeScheduleUpdate body).FailureTrails item :=
  fun _ _ => Related.bind_self fun _ => Related.stays_widens (stays_tokenRows hf _ _)
    (tokenRows (L := Logic.widens) _ fun _ _ => Widens.emit _)

theorem failureTrails_tokenAccountStatus (freeze : Option TokenFreezeStatus)
    (kyc : Option TokenKycStatus) (body : TokenAccountBody) :
    (tokenAccountStatus freeze kyc body).FailureTrails item := fun _ _ => by
  refine Related.bind_self fun _ => Related.stays_widens ?_ ?_
  · split
    · exact stays_emitsTokens_bind hf (Stays.skip (by simp))
    · exact Stays.pure _
  · split
    · exact Logic.widens.emitsTokens_bind _ fun _ _ =>
        Logic.widens.gate fun _ => Widens.emit _
    · exact Widens.pure _

theorem failureTrails_tokenAssociation (associates : Bool) (body : TokenAssociationBody) :
    (tokenAssociation associates body).FailureTrails item :=
  fun _ _ => Related.bind_self fun _ => Related.stays_widens (stays_tokenRows hf _ _)
    (tokenRows (L := Logic.widens) _ fun _ _ => Logic.widens.forM fun _ _ =>
      Logic.widens.ite (fun _ => Logic.widens.bind (Logic.widens.tokenKeys _) fun _ =>
        Widens.emit _) fun _ => Widens.emit _)

theorem failureTrails_tokenAirdrop (body : TokenAirdropBody) :
    (tokenAirdrop body).FailureTrails item :=
  fun _ _ => Related.bind_self fun _ => Related.stays_widens
    (Stays.bind Stays.persist fun _ => Stays.skip (by simp [hf]))
    (Logic.widens.bind Logic.widens.persist fun _ =>
      Logic.widens.gate fun _ => Logic.widens.forM fun _ _ =>
        Logic.widens.bind (Widens.track _) fun _ =>
          Logic.widens.bind (Widens.track _) fun _ => Widens.emit _)

/-- The pending airdrops a claim or cancellation settles: the two runs resolve alike all along,
since the rows only the other run writes teach the resolver nothing. -/
theorem failureTrails_pendingAirdrops (state : TokenAirdropState) (body : PendingAirdropsBody) :
    (pendingAirdrops state body).FailureTrails item := fun _ _ => by
  refine Related.bind_self fun _ => ?_
  dsimp only
  refine (Related.forM (I := Ctx.Mirrors) fun _ _ => ?_).mono (fun _ _ h => Ctx.Mirrors.of_eq h)
    (fun _ _ h => h) fun _ _ h => h.toBehind
  refine Related.bind_eq (Related.resolveAndTrack_mirrors _) fun _ => ?_
  refine Related.bind_eq (Related.resolveAndTrack_mirrors _) fun _ => ?_
  refine Related.bind (Related.track_mirrors _) fun _ _ _ => ?_
  rw [if_pos (by simp [hf])]
  split
  · exact Related.pure trivial fun _ _ h => h
  · exact Related.pure_emit_mirrors (fun _ => rfl) _

theorem failureTrails_nodeCreate (body : NodeCreateBody) : (nodeCreate body).FailureTrails item :=
  fun _ _ => Related.bind_self fun _ => Related.stays_widens
    (stays_emitsNodes_bind hf (Stays.skip rfl))
    (Logic.widens.emitsNodes_bind _ fun _ _ =>
      Logic.widens.gate fun _ => by
        split
        · exact Widens.emit _
        · exact Widens.pure _)

theorem failureTrails_nodeUpdate (body : NodeUpdateBody) : (nodeUpdate body).FailureTrails item :=
  fun _ _ => Related.bind_self fun _ => Related.stays_widens
    (stays_emitsNodes_bind hf (Stays.skip rfl))
    (Logic.widens.emitsNodes_bind _ fun _ _ =>
      Logic.widens.gate fun _ => Widens.emit _)

theorem failureTrails_scheduleCreate (body : ScheduleCreateBody) :
    (scheduleCreate body).FailureTrails item :=
  fun _ _ => Related.bind_self fun _ => Related.stays_widens (stays_emitSignatures hf _)
    ((widens_grants _).emitSignatures _)

theorem failureTrails_hookStore (body : HookStoreBody) : (hookStore body).FailureTrails item :=
  fun _ _ => by
    dsimp only [hookStore]
    -- the owner is resolved alike; what it owns is written only on success
    split
    on_goal 1 => refine Related.ite (fun _ => ?_) fun _ => ?_
    all_goals
      refine Related.bind_self fun _ => Related.stays_widens (Stays.skip (by simp [hf])) ?_
      exact Logic.widens.gate fun _ =>
        applyStorageUpdates_holds Logic.widens _ (fun _ _ _ _ _ => Widens.emit _) _ _ _

theorem failureTrails_ethereumTransaction (body : EthereumTransactionBody) :
    (ethereumTransaction body).FailureTrails item := fun _ _ => by
  dsimp only [ethereumTransaction]
  -- the call data file and the ethereum row come alike; the signer's nonce waits for success
  split
  on_goal 1 => refine Related.bind_self fun _ => ?_
  all_goals
    refine Related.bind_self fun _ => ?_
    refine Related.ite (fun _ => Related.bind_self fun _ => ?_) fun _ => ?_
  all_goals
    refine Related.stays_widens (Stays.skip (by simp [hf])) ?_
    refine Logic.widens.gate fun _ => ?_
    split
    · split
      · exact Logic.widens.ite (fun _ => Logic.widens.bind (Widens.track _) fun _ =>
          Widens.emit _) fun _ => Logic.widens.pure _
      · exact Widens.pure _
    · exact Widens.pure _

/-- For a failed record, the transaction-level effects of every kind end behind those for the
same record with any other outcome. -/
theorem failureTrails_ofBody (body : TransactionBody) : (ofBody body).FailureTrails item := by
  cases body
  case consensusSubmitMessage b => exact failureTrails_submitMessage hf b
  case cryptoAddLiveHash b => exact failureTrails_liveHash hf true b
  case cryptoDeleteLiveHash b => exact failureTrails_liveHash hf false b
  case cryptoApproveAllowance b => exact failureTrails_approveAllowance hf b
  case cryptoDeleteAllowance b => exact failureTrails_deleteAllowance hf b
  case ethereumTransaction b => exact failureTrails_ethereumTransaction hf b
  case fileAppend b => exact failureTrails_fileAppend hf b
  case nodeCreate b => exact failureTrails_nodeCreate hf b
  case nodeUpdate b => exact failureTrails_nodeUpdate hf b
  case nodeDelete b => exact failureTrails_nodeDelete hf b
  case nodeStakeUpdate b => exact failureTrails_nodeStakeUpdate hf b
  case scheduleCreate b => exact failureTrails_scheduleCreate hf b
  case scheduleSign b => exact failureTrails_scheduleSign hf b
  case tokenAirdrop b => exact failureTrails_tokenAirdrop hf b
  case tokenCancelAirdrop b => exact failureTrails_pendingAirdrops hf .cancelled b
  case tokenClaimAirdrop b => exact failureTrails_pendingAirdrops hf .claimed b
  case tokenAssociate b => exact failureTrails_tokenAssociation hf true b
  case tokenDissociate b => exact failureTrails_tokenAssociation hf false b
  case tokenFeeScheduleUpdate b => exact failureTrails_tokenFeeScheduleUpdate hf b
  case tokenFreeze b => exact failureTrails_tokenAccountStatus hf (some .frozen) none b
  case tokenUnfreeze b => exact failureTrails_tokenAccountStatus hf (some .unfrozen) none b
  case tokenGrantKyc b => exact failureTrails_tokenAccountStatus hf none (some .granted) b
  case tokenRevokeKyc b => exact failureTrails_tokenAccountStatus hf none (some .revoked) b
  case tokenPause b => exact failureTrails_tokenPause hf .paused b
  case tokenUnpause b => exact failureTrails_tokenPause hf .unpaused b
  case tokenMint b => exact failureTrails_tokenMint hf b
  case tokenBurn b => exact failureTrails_tokenBurn hf b
  case tokenWipe b => exact failureTrails_tokenWipe hf b
  case tokenUpdateNfts b => exact failureTrails_tokenUpdateNfts hf b
  case hookStore b => exact failureTrails_hookStore hf b
  case utilPrng b => exact failureTrails_utilPrng hf b
  -- the other kinds never look at the outcome before the template does
  all_goals exact failureTrails_of_eq fun _ _ => rfl

end Kinds

/-- No kind's main entity depends on the outcome. -/
theorem mainEntity_withStatus (s : ResponseCode) (c : Ctx) (body : TransactionBody) :
    (ofBody body).mainEntity c (item.withStatus s) = (ofBody body).mainEntity c item := by
  cases body <;> rfl

/-- Only a topic message leaves its main entity out of the ids it touches. -/
theorem tracksMainEntity_ofBody (body : TransactionBody) :
    (ofBody body).tracksMainEntity = (body.kind != .consensusSubmitMessage) := by
  cases body <;> rfl

/-- The template of a failed record ends, from one state, behind the template of the same
record with any other outcome, and both give rows of one main entity. -/
theorem run_related (hf : item.isSuccessful = false) (s : ResponseCode) :
    Related Eq ((ofBody item.body).run item) ((ofBody item.body).run (item.withStatus s))
      (fun tx tx' => tx.entityId = tx'.entityId) Ctx.Behind :=
  (failureTrails_ofBody hf item.body).run hf s (fun c => mainEntity_withStatus s c item.body)
    fun hs e => (widens_grants (item.withStatus s)).satisfies.onEntity hs e trivial

end Handler

/-! ### The shared phases -/

namespace Projection

variable {item : RecordItem} (s : ResponseCode)

theorem emitLogs_related (item' : RecordItem) (root : EntityId) :
    ∀ i logs, Related Ctx.Behind (emitLogs item root i logs) (emitLogs item' root i logs)
      (fun _ _ => True) Ctx.Behind
  | _, [] => Related.pure trivial fun _ _ h => h
  | i, _ :: rest => Related.bind (Related.track _) fun _ _ _ =>
      Related.bind (Related.emit _ _) fun _ _ _ => emitLogs_related item' root (i + 1) rest

/-- The EVM outcome touches the same ids whatever the status. -/
theorem recordContractResult_related (adjust adjust' : RecordItem → ContractResult → ContractResult)
    (entityId : EntityId) :
    Related Ctx.Behind (recordContractResult adjust item entityId)
      (recordContractResult adjust' (item.withStatus s) entityId) (fun _ _ => True)
      Ctx.Behind := by
  have hsidecars : Related Ctx.Behind
      (persist >>= fun p =>
        if p.contracts then emitAll (item.sidecars.flatMap (sidecarChanges item)) else pure ())
      (persist >>= fun p =>
        if p.contracts then
          emitAll ((item.withStatus s).sidecars.flatMap (sidecarChanges (item.withStatus s)))
        else pure ())
      (fun _ _ => True) Ctx.Behind :=
    Related.bind_eq Related.persist fun _ =>
      Related.ite (fun _ => Related.emitAll _) fun _ => Related.pure trivial fun _ _ h => h
  unfold recordContractResult
  rw [RecordItem.withStatus_record]
  split
  · dsimp only
    refine Related.bind (Related.track _) fun _ _ _ => ?_
    -- the sender, when there is one, is touched in both runs
    split
    on_goal 1 => refine Related.bind (Related.track _) fun _ _ _ => ?_
    all_goals
      refine Related.bind (Related.trackAll _) fun _ _ _ =>
        Related.bind_eq Related.persist fun _ => Related.ite (fun _ => ?_) fun _ => hsidecars
      exact Related.bind (Related.emit _ _) fun _ _ _ =>
        Related.bind (emitLogs_related _ _ _ _) fun _ _ _ => hsidecars
  · exact Related.bind_eq Related.persist fun _ =>
      Related.ite (fun _ => Related.pure trivial fun _ _ h => h) fun _ => Related.emit _ _

section Failed

variable (hf : item.isSuccessful = false)
include hf

/-- The associations are touched alike; a failed record writes none. -/
theorem applyAutomaticAssociations_related :
    Related Ctx.Behind (applyAutomaticAssociations item)
      (applyAutomaticAssociations (item.withStatus s)) (fun _ _ => True) Ctx.Behind := by
  refine Related.bind (Related.forM fun _ _ =>
    Related.bind (Related.track _) fun _ _ _ => Related.track _) fun _ _ _ => ?_
  refine Related.bind_eq Related.persist fun _ => ?_
  refine Related.stay (Stays.skip (by simp [hf])) ?_ (fun _ _ => trivial) fun _ _ h => h
  exact Logic.widens.gate fun _ => Logic.widens.forM fun _ _ =>
    Logic.widens.gate fun _ =>
      Logic.widens.bind (Logic.widens.tokenKeys _) fun _ => Widens.emit _

/-- The parties of every NFT transfer are touched alike; a failed record moves no NFT. -/
theorem applyNftTransfers_related :
    Related Ctx.Behind (applyNftTransfers item) (applyNftTransfers (item.withStatus s))
      (fun _ _ => True) Ctx.Behind := by
  refine Related.bind (Related.forM fun _ _ => ?_) fun _ _ _ => ?_
  · exact Related.bind (Related.track _) fun _ _ _ => Related.bind (Related.trackAll _)
      fun _ _ _ => Related.forM fun _ _ =>
        Related.bind (Related.track _) fun _ _ _ => Related.track _
  refine Related.bind_eq Related.persist fun _ => ?_
  refine Related.stay (Stays.skip (by simp [hf])) ?_ (fun _ _ => trivial) fun _ _ h => h
  exact Logic.widens.gate fun _ =>
    Logic.widens.forM fun _ _ => Logic.widens.forM fun _ _ =>
      Logic.widens.gate fun _ => Widens.emit _

/-- The hbar changes are applied alike, touching their accounts; a failed record's token
changes are not. -/
theorem applyBalanceChanges_related :
    Related Ctx.Behind (applyBalanceChanges item) (applyBalanceChanges (item.withStatus s))
      (fun _ _ => True) Ctx.Behind := by
  refine Related.bind_eq (Related.ofExcept _) fun _ => ?_
  refine Related.bind (Related.forM fun _ _ => ?_) fun _ _ _ => ?_
  · exact Related.bind (Related.track _) fun _ _ _ => Related.emit _ _
  refine Related.bind_eq Related.persist fun _ => ?_
  refine Related.stay (Stays.skip (by simp [hf])) ?_ (fun _ _ => trivial) fun _ _ h => h
  refine Logic.widens.gate fun _ =>
    Logic.widens.bind (Logic.widens.ofExcept fun o _ => Widens.fail o) fun _ => Logic.widens.forM fun _ _ => ?_
  split
  exact Logic.widens.gate fun _ => Widens.emit _

/-- The projection of a failed record ends, from one state, behind the projection of the same
record with any other outcome. -/
theorem process_related :
    Related Eq (process item) (process (item.withStatus s)) (fun _ _ => True) Ctx.Behind := by
  unfold process
  refine Related.bind (Handler.run_related hf s) fun tx tx' htx => ?_
  rw [htx]
  exact Related.bind (recordContractResult_related s _ _ _) fun _ _ _ =>
    Related.bind (applyAutomaticAssociations_related s hf) fun _ _ _ =>
    Related.bind (applyNftTransfers_related s hf) fun _ _ _ =>
    Related.bind (applyBalanceChanges_related s hf) fun _ _ _ =>
    Related.bind (Related.emit _ _) fun _ _ _ => Related.pure trivial fun _ _ h => h

end Failed

/-- The projection of a record touches the template's ids. -/
theorem process_covers {c c' : Ctx} {tx : Transaction} (hr : (process item).run c = .ok tx c') :
    c'.Covers ((Handler.ofBody item.body).templateIds c item) := by
  unfold process at hr
  obtain ⟨tx₁, c₁, h₁, h₂⟩ := run_bind_eq_ok hr
  -- the shared phases that follow the template only widen the state
  have hw := @phases_holds Logic.widens item
    (fun _ _ _ _ => Logic.widens.bind (Logic.widens.tokenKeys _) fun _ => Widens.emit _)
    (PhaseGrants.of_emit Widens.emit Widens.fail) (Handler.ofBody item.body).adjustResult tx₁
  exact (Handler.run_covers (Handler.widens_grants item).satisfies h₁).mono (hw h₂).toBehind

end Projection

end LedgerProjection

/-! ### The ids a record reports -/

namespace LedgerProjection

open Projection

variable {props : Properties} {via : ResolverKind} {sink : Sink} {item : RecordItem}
  {tx tx' : Transaction} {ms ms' : List Mutation} {touched touched' : List EntityId}

/-- A finished projection touched only ids other than `0.0.0`, and every id of the template's
own that is not `0.0.0`. -/
theorem projectRecord_touched_of_done
    (h : (projectRecord props via sink item).2 = .done tx ms touched) :
    (∀ id ∈ touched, id.isEmpty = false) ∧
      ∀ id ∈ (Handler.ofBody item.body).templateIds (Ctx.start props via sink item) item,
        id.isEmpty = false → id ∈ touched := by
  obtain ⟨c', hrun, -, rfl⟩ := projectRecord_eq_done h
  refine ⟨fun id hid => ?_, process_covers hrun⟩
  -- a record starts with nothing touched
  rcases (process_widens item hrun).fresh id hid with hid | hne
  · exact absurd hid List.not_mem_nil
  · exact hne

/-- A failed record touches no id that the same record with another outcome, projected from the
same state, does not. -/
theorem projectRecord_touched_subset {failed other : ResponseCode}
    (hf : failed.isSuccessful = false)
    (h : (projectRecord props via sink (item.withStatus failed)).2 = .done tx ms touched)
    (h' : (projectRecord props via sink (item.withStatus other)).2 = .done tx' ms' touched') :
    touched ⊆ touched' := by
  obtain ⟨c, hrun, -, rfl⟩ := projectRecord_eq_done h
  obtain ⟨c', hrun', -, rfl⟩ := projectRecord_eq_done h'
  exact ((@process_related (item.withStatus failed) other hf) rfl hrun hrun').2.touched

/-- The ids a record reports touched. When its projection finishes, `0.0.0` is not among them,
and the fee payer, the submitting node and, for every kind but a topic message, the main entity
are, whatever the outcome, each unless it is `0.0.0`. And a failed record touches no id that the
same record with any other outcome, projected from the same state, leaves out. -/
theorem projectRecord_touched (props : Properties) (via : ResolverKind) (sink : Sink)
    (item : RecordItem) :
    (∀ tx ms touched, (projectRecord props via sink item).2 = .done tx ms touched →
      EntityId.empty ∉ touched ∧
      (item.payerAccountId.isEmpty = false → item.payerAccountId ∈ touched) ∧
      (∀ node, item.nodeAccountId = some node → node.isEmpty = false → node ∈ touched) ∧
      (item.kind ≠ .consensusSubmitMessage →
        ((Handler.ofBody item.body).mainEntity (Ctx.start props via sink item) item).isEmpty =
          false →
        (Handler.ofBody item.body).mainEntity (Ctx.start props via sink item) item ∈ touched)) ∧
    ∀ failed other : ResponseCode, failed.isSuccessful = false →
      ∀ tx ms touched tx' ms' touched',
        (projectRecord props via sink (item.withStatus failed)).2 = .done tx ms touched →
        (projectRecord props via sink (item.withStatus other)).2 = .done tx' ms' touched' →
        touched ⊆ touched' := by
  refine ⟨fun tx ms touched h => ?_, fun _ _ hf _ _ _ _ _ _ h h' =>
    projectRecord_touched_subset hf h h'⟩
  obtain ⟨hne, hcov⟩ := projectRecord_touched_of_done h
  refine ⟨fun hmem => absurd (hne _ hmem) (by decide), fun hp => hcov _ ?_ hp,
    fun node hn => hcov _ ?_, fun hk => hcov _ ?_⟩
  · simp [Handler.templateIds]
  · simp [Handler.templateIds, hn]
  · have htr : (Handler.ofBody item.body).tracksMainEntity = true := by
      simpa [Handler.tracksMainEntity_ofBody, RecordItem.kind] using hk
    simp [Handler.templateIds, htr]

/-- A mint of two serials of token `0.0.600`, paid by `0.0.2` through node `0.0.3`. -/
def serialMint : RecordItem :=
  { consensusTimestamp := 100, payerAccountId := ⟨0, 0, 2⟩, nodeAccountId := some ⟨0, 0, 3⟩,
    body := .tokenMint { token := some ⟨0, 0, 600⟩, metadata := [[1], [2]] },
    receipt := { newTotalSupply := 2, serialNumbers := [1, 2] } }

theorem projectRecord_touched_serialMint :
    ∃ tx ms touched tx' ms' touched',
      (projectRecord {} .memory {} (serialMint.withStatus ⟨7⟩)).2 = .done tx ms touched ∧
      (projectRecord {} .memory {} (serialMint.withStatus ⟨22⟩)).2 = .done tx' ms' touched' ∧
      EntityId.empty ∉ touched ∧ ⟨0, 0, 2⟩ ∈ touched ∧ ⟨0, 0, 3⟩ ∈ touched ∧
      ⟨0, 0, 600⟩ ∈ touched ∧ touched ⊆ touched' := by
  obtain ⟨tx, ms, touched, hdone⟩ := Outcome.finished_iff.1
    (by decide +kernel :
      (projectRecord {} .memory {} (serialMint.withStatus ⟨7⟩)).2.finished = true)
  obtain ⟨tx', ms', touched', hdone'⟩ := Outcome.finished_iff.1
    (by decide +kernel :
      (projectRecord {} .memory {} (serialMint.withStatus ⟨22⟩)).2.finished = true)
  have hfailed := (projectRecord_touched {} .memory {} (serialMint.withStatus ⟨7⟩)).1 tx ms
    touched hdone
  refine ⟨tx, ms, touched, tx', ms', touched', hdone, hdone', hfailed.1, hfailed.2.1 rfl,
    hfailed.2.2.1 _ rfl rfl, hfailed.2.2.2 (by decide) rfl,
    (projectRecord_touched {} .memory {} serialMint).2 ⟨7⟩ ⟨22⟩ rfl _ _ _ _ _ _ hdone hdone'⟩

end LedgerProjection

