import LedgerProjection.Projection.Context
import LedgerProjection.Proofs.Snapshots

/-!
# What a record's projection delivers

A record is projected by a program of the `Projection` monad, which reaches the sink only
through `Projection.emit`. `Ctx.Delivers c ms c'` says that going from `c` to `c'` delivered
exactly `ms` in order: they were emitted, the ledger accepted each of them in turn, and nothing
else of the ledger or of the settings changed. `Ctx.Grows P` says so of mutations that all
satisfy `P`. `Ctx.Halts P` says how a projection may stop: at an overflow after such a
delivery, or at the refusal of one more such mutation, with the fault the ledger gave it.

`Projection.Keeps P x` says that `x`, from any state, either returns having delivered only
mutations satisfying `P` or stops as `Ctx.Halts P` allows. It holds of the monad's own
operations, of `Projection.emit m` when `P m` (`Keeps.emit`), and it is closed under `bind`
(`Keeps.bind`), so a whole program has it when its parts do; loops over a list
(`Keeps.forM`) go by induction on the list.

`Projection.Emits ms x` is the exact form: whenever `x` returns, it delivered `ms` and nothing
else. It composes the same way, the lists appended (`Emits.bind`, `Emits.forM`). Where what a
program delivers depends on a value it computed, `Projection.run_bind_eq_ok` splits a run that
returned into the runs of its two parts.
-/

namespace LedgerProjection

namespace Ledger

theorem accepts_append {l : Ledger} {ms ms' : List Mutation} :
    l.Accepts (ms ++ ms') ↔ l.Accepts ms ∧ (l.receive ms).Accepts ms' := by
  induction ms generalizing l with
  | nil => simp [Accepts]
  | cons m ms ih => simp [Accepts, ih, and_assoc]

end Ledger

namespace Ctx

/-! ### Deliveries -/

/-- Going from `c` to `c'` delivered `ms` in order, each accepted, and changed nothing else of
the ledger or the settings. -/
structure Delivers (c : Ctx) (ms : List Mutation) (c' : Ctx) : Prop where
  emitted : c'.emitted = ms.reverse ++ c.emitted
  ledger : c'.sink.ledger = c.sink.ledger.receive ms
  accepts : c.sink.ledger.Accepts ms
  props : c'.props = c.props

variable {P Q : Mutation → Prop} {c c₁ c' : Ctx} {ms ms' : List Mutation}

/-- A state that differs only in what a projection keeps for itself (touched ids, log
numbering) delivered nothing. -/
theorem delivers_nil (h : c'.sink.ledger = c.sink.ledger) (he : c'.emitted = c.emitted)
    (hp : c'.props = c.props) : c.Delivers [] c' :=
  ⟨by simpa using he, by simpa using h, trivial, hp⟩

theorem Delivers.trans (h : c.Delivers ms c₁) (h' : c₁.Delivers ms' c') :
    c.Delivers (ms ++ ms') c' where
  emitted := by rw [h'.emitted, h.emitted, List.reverse_append, List.append_assoc]
  ledger := by rw [h'.ledger, h.ledger, Ledger.receive_append]
  accepts := Ledger.accepts_append.2 ⟨h.accepts, h.ledger ▸ h'.accepts⟩
  props := h'.props.trans h.props

/-- Going from `c` to `c'` delivered mutations that all satisfy `P`. -/
def Grows (P : Mutation → Prop) (c c' : Ctx) : Prop :=
  ∃ ms, (∀ m ∈ ms, P m) ∧ c.Delivers ms c'

theorem grows_of_delivers_nil (h : c.Delivers [] c') : c.Grows P c' :=
  ⟨[], by simp, h⟩

theorem Grows.refl (c : Ctx) : c.Grows P c :=
  grows_of_delivers_nil (delivers_nil rfl rfl rfl)

theorem Grows.trans (h : c.Grows P c₁) (h' : c₁.Grows P c') : c.Grows P c' := by
  obtain ⟨ms, hms, hd⟩ := h
  obtain ⟨ms', hms', hd'⟩ := h'
  refine ⟨ms ++ ms', ?_, hd.trans hd'⟩
  intro m hm
  rcases List.mem_append.1 hm with hm | hm
  · exact hms m hm
  · exact hms' m hm

theorem Grows.mono (hPQ : ∀ m, P m → Q m) (h : c.Grows P c') : c.Grows Q c' := by
  obtain ⟨ms, hms, hd⟩ := h
  exact ⟨ms, fun m hm => hPQ m (hms m hm), hd⟩

/-- How a projection from `c` may stop at `c'` with a failure: at an overflow, after
delivering mutations satisfying `P`; at a refusal, after delivering such mutations and then
emitting one more, which the ledger refused with the fault the failure reports. -/
def Halts (P : Mutation → Prop) (c : Ctx) : Failure → Ctx → Prop
  | .overflow _, c' => c.Grows P c'
  | .refused r, c' => ∃ c₁ m, c.Grows P c₁ ∧ P m ∧ c'.emitted = m :: c₁.emitted ∧
      c₁.sink.ledger.apply m = (c'.sink.ledger, some r.cause)

theorem Halts.of_grows {f : Failure} (h : c.Grows P c₁) (h' : c₁.Halts P f c') :
    c.Halts P f c' := by
  cases f with
  | overflow o => exact h.trans h'
  | refused r =>
    obtain ⟨c₂, m, hg, hm, he, ha⟩ := h'
    exact ⟨c₂, m, h.trans hg, hm, he, ha⟩

theorem Halts.mono {f : Failure} (hPQ : ∀ m, P m → Q m) (h : c.Halts P f c') :
    c.Halts Q f c' := by
  cases f with
  | overflow o => exact Grows.mono hPQ h
  | refused r =>
    obtain ⟨c₁, m, hg, hm, he, ha⟩ := h
    exact ⟨c₁, m, hg.mono hPQ, hPQ m hm, he, ha⟩

end Ctx

/-! ### Programs that deliver only what a predicate allows -/

namespace Projection

/-- From any state, `x` returns having delivered only mutations satisfying `P`, or stops as
`Ctx.Halts P` allows. -/
def Keeps {α : Type} (P : Mutation → Prop) (x : Projection α) : Prop :=
  ∀ c, match x.run c with
    | .ok _ c' => c.Grows P c'
    | .error f c' => c.Halts P f c'

theorem run_bind {α β : Type} (x : Projection α) (f : α → Projection β) (c : Ctx) :
    (x >>= f).run c = match x.run c with
      | .ok a c₁ => (f a).run c₁
      | .error e c₁ => .error e c₁ := by
  simp only [EStateM.run, bind, EStateM.bind]
  rcases x c <;> rfl

/-- Emitting delivers the mutation and records it, stopping when the ledger refuses it. -/
theorem run_emit (m : Mutation) (c : Ctx) :
    (emit m).run c = match c.sink.deliver m with
      | (sink, some r) => .error (.refused r) { c with sink := sink, emitted := m :: c.emitted }
      | (sink, none) => .ok () { c with sink := sink, emitted := m :: c.emitted } := by
  rcases hd : c.sink.deliver m with ⟨sink, _ | r⟩
  · simp [emit, hd, EStateM.run, bind, EStateM.bind, get, getThe, MonadStateOf.get,
      EStateM.get, set, EStateM.set, pure, EStateM.pure]
  · simp [emit, hd, EStateM.run, bind, EStateM.bind, get, getThe, MonadStateOf.get,
      EStateM.get, set, EStateM.set, throw, throwThe, MonadExceptOf.throw, EStateM.throw]

/-- While the counter has room, taking a log index hands out the next one and counts it. -/
theorem run_nextLogIndex {c : Ctx} (h : I32.InRange (c.nextLogIndex + 1)) :
    nextLogIndex.run c = .ok c.nextLogIndex { c with nextLogIndex := c.nextLogIndex + 1 } := by
  simp [nextLogIndex, h, EStateM.run, bind, EStateM.bind, MonadState.get, getThe,
    MonadStateOf.get, EStateM.get, set, EStateM.set, pure, EStateM.pure]

/-- Stepping the counter past the greatest 32-bit integer is an overflow, which changes nothing. -/
theorem run_nextLogIndex_overflow {c : Ctx} (h : ¬I32.InRange (c.nextLogIndex + 1)) :
    nextLogIndex.run c = .error (.overflow .add) c := by
  simp [nextLogIndex, h, EStateM.run, bind, EStateM.bind, MonadState.get, getThe,
    MonadStateOf.get, EStateM.get, fail, throw, throwThe, MonadExceptOf.throw, EStateM.throw]

/-- Taking a log index that returns handed out the counter and stepped it. -/
theorem run_nextLogIndex_eq_ok {c c' : Ctx} {i : Int} (h : nextLogIndex.run c = .ok i c') :
    i = c.nextLogIndex ∧ c' = { c with nextLogIndex := c.nextLogIndex + 1 } := by
  by_cases hr : I32.InRange (c.nextLogIndex + 1)
  · rw [run_nextLogIndex hr] at h
    cases h
    exact ⟨rfl, rfl⟩
  · rw [run_nextLogIndex_overflow hr] at h
    cases h

/-- A sequence that returns ran its first part to a result, and its rest from there. -/
theorem run_bind_eq_ok {α β : Type} {x : Projection α} {f : α → Projection β} {c c' : Ctx}
    {b : β} (h : (x >>= f).run c = .ok b c') :
    ∃ a c₁, x.run c = .ok a c₁ ∧ (f a).run c₁ = .ok b c' := by
  rw [run_bind] at h
  rcases hx : x.run c with ⟨a, c₁⟩ | ⟨e, c₁⟩ <;> rw [hx] at h
  · exact ⟨a, c₁, rfl, h⟩
  · cases h

namespace Keeps

variable {α β : Type} {P Q : Mutation → Prop}

theorem grows_of_ok {x : Projection α} (h : Keeps P x) {c c' : Ctx} {a : α}
    (hr : x.run c = .ok a c') : c.Grows P c' := by
  have hc := h c
  rw [hr] at hc
  exact hc

theorem mono {x : Projection α} (hPQ : ∀ m, P m → Q m) (h : Keeps P x) : Keeps Q x := by
  intro c
  have hc := h c
  rcases hx : x.run c with ⟨a, c'⟩ | ⟨f, c'⟩ <;> rw [hx] at hc
  · exact hc.mono hPQ
  · exact hc.mono hPQ

theorem pure (a : α) : Keeps P (Pure.pure a : Projection α) :=
  fun c => Ctx.Grows.refl c

theorem bind {x : Projection α} {f : α → Projection β} (hx : Keeps P x)
    (hf : ∀ a, Keeps P (f a)) : Keeps P (x >>= f) := by
  intro c
  have hxc := hx c
  rw [run_bind]
  rcases hrun : x.run c with ⟨a, c₁⟩ | ⟨e, c₁⟩ <;> rw [hrun] at hxc <;> dsimp only
  · have hfc := hf a c₁
    rcases hrun' : (f a).run c₁ with ⟨b, c'⟩ | ⟨e', c'⟩ <;> rw [hrun'] at hfc
    · exact hxc.trans hfc
    · exact Ctx.Halts.of_grows hxc hfc
  · exact hxc

theorem ite {c : Prop} [Decidable c] {x y : Projection α} (hx : c → Keeps P x)
    (hy : ¬c → Keeps P y) : Keeps P (if c then x else y) := by
  split
  · exact hx ‹c›
  · exact hy ‹¬c›

theorem get : Keeps P (MonadState.get : Projection Ctx) :=
  fun c => Ctx.Grows.refl c

/-- A change of state that leaves the sink, the emitted mutations and the settings alone. -/
theorem modify {f : Ctx → Ctx} (hs : ∀ c, (f c).sink = c.sink)
    (he : ∀ c, (f c).emitted = c.emitted) (hp : ∀ c, (f c).props = c.props) :
    Keeps P (modifyGet fun c => (PUnit.unit, f c) : Projection PUnit) :=
  fun c => Ctx.grows_of_delivers_nil (Ctx.delivers_nil (by rw [hs]) (he c) (hp c))

theorem fail (o : Overflow) : Keeps P (Projection.fail o : Projection α) :=
  fun c => Ctx.Grows.refl c

theorem emit {m : Mutation} (hm : P m) : Keeps P (Projection.emit m) := by
  intro c
  have hledger : (c.sink.deliver m).1.ledger = (c.sink.ledger.apply m).1 := by
    unfold Sink.deliver
    split <;> rename_i h <;> simp [h]
  have hfault : (c.sink.deliver m).2.map Refusal.cause = (c.sink.ledger.apply m).2 := by
    unfold Sink.deliver
    split <;> rename_i h <;> simp [h]
  rw [run_emit]
  rcases hd : c.sink.deliver m with ⟨sink, _ | r⟩ <;> rw [hd] at hledger hfault <;>
    simp only at hledger hfault
  · -- accepted: one more mutation delivered
    refine ⟨[m], by simpa using hm, ⟨by simp, by simpa using hledger, ?_, rfl⟩⟩
    exact ⟨by simpa using hfault.symm, trivial⟩
  · -- refused: the failure carries the ledger's fault
    refine ⟨c, m, Ctx.Grows.refl c, hm, rfl, ?_⟩
    exact Prod.ext hledger.symm (by simpa using hfault.symm)

theorem forM {γ : Type} {xs : List γ} {f : γ → Projection PUnit}
    (h : ∀ x ∈ xs, Keeps P (f x)) : Keeps P (xs.forM f) := by
  induction xs with
  | nil => exact pure _
  | cons x xs ih =>
    show Keeps P (f x >>= fun _ => xs.forM f)
    exact bind (h x (List.mem_cons_self ..)) fun _ =>
      ih fun y hy => h y (List.mem_cons_of_mem _ hy)

theorem emitAll {ms : List Mutation} (h : ∀ m ∈ ms, P m) : Keeps P (Projection.emitAll ms) := by
  induction ms with
  | nil => exact pure _
  | cons m ms ih =>
    exact bind (emit (h m (List.mem_cons_self ..))) fun _ =>
      ih fun x hx => h x (List.mem_cons_of_mem _ hx)

/-- The rows a map draws from a list, when every image of the map satisfies `P`. -/
theorem emitAll_map {γ : Type} {f : γ → Mutation} {xs : List γ} (hf : ∀ x, P (f x)) :
    Keeps P (Projection.emitAll (xs.map f)) :=
  emitAll fun _ hm => by
    obtain ⟨x, -, rfl⟩ := List.mem_map.1 hm
    exact hf x

theorem read : Keeps P Projection.read := get

theorem persist : Keeps P Projection.persist := bind get fun _ => pure _

theorem tokenKeys (token : EntityId) : Keeps P (Projection.tokenKeys token) :=
  bind get fun _ => pure _

theorem resolveOrEmpty (ref : Option EntityRef) : Keeps P (Projection.resolveOrEmpty ref) :=
  bind get fun _ => pure _

theorem track (id : EntityId) : Keeps P (Projection.track id) := by
  unfold Projection.track
  split
  · exact pure _
  · exact modify (fun _ => rfl) (fun _ => rfl) (fun _ => rfl)

theorem trackAll (ids : List EntityId) : Keeps P (Projection.trackAll ids) := by
  induction ids with
  | nil => exact pure _
  | cons id ids ih => exact bind (track id) fun _ => ih

theorem resolveAndTrack (ref : Option EntityRef) : Keeps P (Projection.resolveAndTrack ref) :=
  bind get fun _ => bind (track _) fun _ => pure _

theorem nextLogIndex : Keeps P Projection.nextLogIndex := by
  intro c
  by_cases h : I32.InRange (c.nextLogIndex + 1)
  · rw [run_nextLogIndex h]
    exact Ctx.grows_of_delivers_nil (Ctx.delivers_nil rfl rfl rfl)
  · rw [run_nextLogIndex_overflow h]
    exact Ctx.Grows.refl c

end Keeps

/-! ### Programs that deliver a given list -/

/-- Whenever `x` returns, it has delivered exactly `ms`. -/
def Emits {α : Type} (ms : List Mutation) (x : Projection α) : Prop :=
  ∀ {c : Ctx} {a : α} {c' : Ctx}, x.run c = .ok a c' → c.Delivers ms c'

namespace Emits

variable {α β : Type} {ms ms' : List Mutation}

theorem pure (a : α) : Emits [] (Pure.pure a : Projection α) := by
  intro c b c' h
  cases h
  exact Ctx.delivers_nil rfl rfl rfl

theorem bind {x : Projection α} {f : α → Projection β} (hx : Emits ms x)
    (hf : ∀ a, Emits ms' (f a)) : Emits (ms ++ ms') (x >>= f) := by
  intro c b c' h
  obtain ⟨a, c₁, h₁, h₂⟩ := run_bind_eq_ok h
  exact (hx h₁).trans (hf a h₂)

theorem ite {p : Prop} [Decidable p] {x y : Projection α} (hx : p → Emits ms x)
    (hy : ¬p → Emits ms' y) : Emits (if p then ms else ms') (if p then x else y) := by
  split
  · exact hx ‹p›
  · exact hy ‹¬p›

/-- A program that keeps no mutation at all delivers none. -/
theorem of_keeps {x : Projection α} (h : Keeps (fun _ => False) x) : Emits [] x := by
  intro c a c' hr
  obtain ⟨ms, hms, hd⟩ := h.grows_of_ok hr
  cases ms with
  | nil => exact hd
  | cons m _ => exact absurd (hms m (List.mem_cons_self ..)) id

theorem emit (m : Mutation) : Emits [m] (Projection.emit m) := by
  intro c u c' h
  obtain ⟨ms, -, hd⟩ := (Keeps.emit (P := (· = m)) rfl).grows_of_ok h
  -- the run recorded `m` and nothing else, so the delivery was of `m` alone
  have he : c'.emitted = [m] ++ c.emitted := by
    rw [run_emit] at h
    split at h <;> cases h
    rfl
  have hms : ms = [m] := by
    simpa using List.append_cancel_right (hd.emitted.symm.trans he)
  exact hms ▸ hd

theorem forM {γ : Type} {xs : List γ} {f : γ → Projection PUnit} {g : γ → List Mutation}
    (h : ∀ x ∈ xs, Emits (g x) (f x)) : Emits (xs.flatMap g) (xs.forM f) := by
  induction xs with
  | nil => exact pure _
  | cons x xs ih =>
    show Emits (g x ++ xs.flatMap g) (f x >>= fun _ => xs.forM f)
    exact bind (h x (List.mem_cons_self ..)) fun _ =>
      ih fun y hy => h y (List.mem_cons_of_mem _ hy)

end Emits

end Projection

end LedgerProjection
