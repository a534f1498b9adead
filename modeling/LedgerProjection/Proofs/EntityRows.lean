import LedgerProjection.Proofs.Gating

/-!
## The entity rows a record writes

Entity rows reach the ledger from few places: the template's stamped row, which each kind's
entity effects fill in, the signer's nonce that an ethereum transaction advances, and the
balance changes every record ends with. The rest of a handler writes rows of other kinds.

* `Projection.Traces g l x`: whenever `x` returns, the images under `g` of the mutations it
  delivered are exactly `l`, in order. It composes like `Keeps` (`Traces.bind`), the lists
  appended.
* `Projection.MainLogic.stampsOnce`: the entity effects of a handler write exactly one entity
  row, carrying the stamps (id, range, creation time, deletion flag) of the entity they were
  handed, around steps that write no entity row.
* `Handler.satisfies_entityRows`: every kind's transaction-level effects write no entity row but
  a signer's nonce (`Mutation.SideRow`), and its entity effects are counted by `stampsOnce`: an
  instance of the handler walk (`Handler.entityRows_grants`).
-/

namespace LedgerProjection

namespace Projection

open Mutation

/-! ### Exact images of what a program delivers -/

/-- Whenever `x` returns, the images under `g` of the mutations it delivered are exactly `l`. -/
def Traces {α β : Type} (g : Mutation → Option β) (l : List β) (x : Projection α) : Prop :=
  ∀ ⦃c : Ctx⦄ ⦃a : α⦄ ⦃c' : Ctx⦄, x.run c = .ok a c' → ∃ ms, c.Delivers ms c' ∧ ms.filterMap g = l

namespace Traces

variable {α β γ : Type} {g : Mutation → Option β} {l l' : List β}

/-- A program that delivers no row with an image has the empty trace. -/
theorem of_keeps {x : Projection α} (h : Keeps (fun m => g m = none) x) : Traces g [] x := by
  intro c a c' hr
  obtain ⟨ms, hms, hd⟩ := h.grows_of_ok hr
  exact ⟨ms, hd, List.filterMap_eq_nil_iff.2 hms⟩

theorem bind {x : Projection α} {f : α → Projection γ} (hx : Traces g l x)
    (hf : ∀ a, Traces g l' (f a)) : Traces g (l ++ l') (x >>= f) := by
  intro c b c' h
  obtain ⟨a, c₁, h₁, h₂⟩ := run_bind_eq_ok h
  obtain ⟨ms, d, hms⟩ := hx h₁
  obtain ⟨ms', d', hms'⟩ := hf a h₂
  exact ⟨ms ++ ms', d.trans d', by rw [List.filterMap_append, hms, hms']⟩

/-- What follows the traced part delivers no row with an image. -/
theorem bind_nil {x : Projection α} {f : α → Projection γ} (hx : Traces g l x)
    (hf : ∀ a, Traces g [] (f a)) : Traces g l (x >>= f) := by
  simpa using bind hx hf

/-- What precedes the traced part delivers no row with an image. -/
theorem nil_bind {x : Projection α} {f : α → Projection γ} (hx : Traces g [] x)
    (hf : ∀ a, Traces g l (f a)) : Traces g l (x >>= f) := by
  simpa using bind hx hf

theorem emit (m : Mutation) : Traces g (g m).toList (Projection.emit m) := by
  intro c a c' h
  exact ⟨[m], Emits.emit m h, by cases hm : g m <;> simp [hm]⟩

/-- Reading the images through `k` keeps the trace, read through `k`. -/
theorem map {x : Projection α} (h : Traces g l x) (k : β → Option γ) :
    Traces (fun m => (g m).bind k) (l.filterMap k) x := by
  intro c a c' hr
  obtain ⟨ms, d, hms⟩ := h hr
  exact ⟨ms, d, by rw [← hms, List.filterMap_filterMap]⟩

end Traces

/-- A program that writes no entity row delivers no stamps. -/
theorem Keeps.traces_stamps {α : Type} {x : Projection α} (h : Keeps NonEntity x) :
    Traces stamps? [] x :=
  Traces.of_keeps (h.mono fun _ hm => hm.stamps?_eq_none)

/-- An entity row with the stamps of `e`. -/
theorem Traces.emit_entity {e e' : Entity} (h : e'.stamps = e.stamps) :
    Traces stamps? [e.stamps] (Projection.emit (.entity e')) := by
  have he := Traces.emit (g := stamps?) (.entity e')
  rwa [show (Mutation.entity e').stamps? = some e.stamps by rw [← h]; rfl] at he

end Projection

/-! ### The entity rows of every kind -/

namespace Projection

open Mutation

/-- The companion that counts the entity rows a handler's entity effects write: exactly one, with
the stamps of the entity `e` handed over, around steps that write no entity row. -/
def MainLogic.stampsOnce : MainLogic where
  Plain := Logic.keeps NonEntity
  Main e x := Traces stamps? [e.stamps] x
  bind_main hx hf := Traces.nil_bind (Keeps.traces_stamps hx) hf
  main_bind hx hf := Traces.bind_nil hx fun a => Keeps.traces_stamps (hf a)

end Projection

namespace Handler

open Projection Mutation

variable (item : RecordItem)

/-- A handler writes no entity row at the transaction level but a signer's nonce, and one main
row with the stamps of the entity it is handed. -/
theorem entityRows_grants : Grants (Logic.keeps SideRow) MainLogic.stampsOnce item where
  row _ hm := Keeps.emit hm.sideRow
  entityRow _ _ _ hn := Keeps.emit hn
  main _ _ _ he := Traces.emit_entity he.stamps
  associate _ _ _ _ _ := Keeps.bind (Keeps.tokenKeys _) fun _ => Keeps.emit trivial
  syntheticLog _ _ _ := Keeps.bind Keeps.nextLogIndex fun _ => Keeps.emit trivial

/-- Every kind writes entity rows only through the template, but for a signer's nonce. -/
theorem satisfies_entityRows :
    (ofBody item.body).Satisfies (Logic.keeps SideRow) MainLogic.stampsOnce item :=
  (entityRows_grants item).satisfies

end Handler

end LedgerProjection
