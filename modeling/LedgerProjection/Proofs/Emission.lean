import LedgerProjection.Proofs.Learning
import LedgerProjection.Proofs.Conservation

/-!
## What a program emits, refusals included

A projection emits rows one at a time and stops at the first the ledger refuses; the refused row
is emitted too, and nothing after it. So a program that means to emit a list of rows emits a
prefix of it, determined by the ledger alone.

* `Ledger.attempt l ms`: the rows of `ms` a ledger `l` takes in turn, up to and including the
  first it refuses; all of `ms` when it accepts each of them (`Ledger.attempt_of_accepts`).
* `Projection.EmitsFrom x c ms`: from `c`, `x` emits the rows of `ms` in order as far as the
  ledger takes them: it feeds the sink `attempt ms`, returns exactly when the ledger accepts
  every row of `ms`, and otherwise stops at the refusal. It holds of `emit m` with `[m]`, of the
  monad's own operations with `[]`, and composes under `bind` with the lists appended
  (`EmitsFrom.bind`), the second list read in the state the first part returns in.
-/

namespace LedgerProjection

namespace Sink

/-- The ledger receives every row delivered, refused or not. -/
theorem deliverAll_ledger (s : Sink) (ms : List Mutation) :
    (s.deliverAll ms).ledger = s.ledger.receive ms := by
  induction ms generalizing s with
  | nil => rfl
  | cons m ms ih => exact (ih (s.deliver m).1).trans (by rw [deliver_ledger]; rfl)

end Sink

namespace Ledger

/-- The rows of `ms` taken in turn, up to and including the first the ledger refuses. -/
def attempt : Ledger → List Mutation → List Mutation
  | _, [] => []
  | l, m :: ms => m :: if (l.apply m).2 = none then attempt (l.apply m).1 ms else []

variable {l : Ledger} {m : Mutation} {ms ms' : List Mutation}

theorem attempt_cons_of_accepted (h : (l.apply m).2 = none) :
    l.attempt (m :: ms) = m :: (l.apply m).1.attempt ms := by
  simp [attempt, h]

theorem attempt_cons_of_refused (h : (l.apply m).2 ≠ none) : l.attempt (m :: ms) = [m] := by
  simp [attempt, h]

/-- A ledger that accepts every row takes them all. -/
theorem attempt_of_accepts (h : l.Accepts ms) : l.attempt ms = ms := by
  induction ms generalizing l with
  | nil => rfl
  | cons m ms ih => rw [attempt_cons_of_accepted h.1, ih h.2]

theorem attempt_append_of_accepts (h : l.Accepts ms) :
    l.attempt (ms ++ ms') = ms ++ (l.receive ms).attempt ms' := by
  induction ms generalizing l with
  | nil => rfl
  | cons m ms ih => rw [List.cons_append, attempt_cons_of_accepted h.1, ih h.2]; rfl

/-- Rows after a refusal are never attempted. -/
theorem attempt_append_of_not_accepts (h : ¬l.Accepts ms) :
    l.attempt (ms ++ ms') = l.attempt ms := by
  induction ms generalizing l with
  | nil => exact absurd trivial h
  | cons m ms ih =>
    by_cases hm : (l.apply m).2 = none
    · have hrest : ¬(l.apply m).1.Accepts ms := fun hr => h ⟨hm, hr⟩
      rw [List.cons_append, attempt_cons_of_accepted hm, attempt_cons_of_accepted hm, ih hrest]
    · rw [List.cons_append, attempt_cons_of_refused hm, attempt_cons_of_refused hm]

theorem attempt_prefix (l : Ledger) (ms : List Mutation) : l.attempt ms <+: ms := by
  induction ms generalizing l with
  | nil => exact List.prefix_refl []
  | cons m ms ih =>
    by_cases hm : (l.apply m).2 = none
    · rw [attempt_cons_of_accepted hm]
      exact List.cons_prefix_cons.2 ⟨rfl, ih _⟩
    · rw [attempt_cons_of_refused hm]
      exact ⟨ms, rfl⟩

end Ledger

/-! ### Room on the counter of log indexes -/

/-- The counter of log indexes can step `n` more times: each of the next `n` values it steps to
is a 32-bit integer. -/
def Ctx.HasRoom (c : Ctx) (n : Nat) : Prop :=
  ∀ k < n, I32.InRange (c.nextLogIndex + k + 1)

instance (c : Ctx) (n : Nat) : Decidable (c.HasRoom n) :=
  inferInstanceAs (Decidable (∀ k, k < n → _))

/-- No step needs no room. -/
theorem Ctx.hasRoom_zero (c : Ctx) : c.HasRoom 0 :=
  fun _ hk => absurd hk (Nat.not_lt_zero _)

namespace Ctx.HasRoom

variable {c c₁ : Ctx} {n n' : Nat}

theorem inRange_succ (h : c.HasRoom 1) : I32.InRange (c.nextLogIndex + 1) := by
  simpa using h 0 Nat.one_pos

/-- Room for two runs of steps is room for the first. -/
theorem left (h : c.HasRoom (n + n')) : c.HasRoom n :=
  fun k hk => h k (by omega)

/-- Room for two runs of steps is, after the first, room for the second. -/
theorem right (h : c.HasRoom (n + n')) (hc : c₁.nextLogIndex = c.nextLogIndex + n) :
    c₁.HasRoom n' := by
  intro k hk
  have hk' := h (n + k) (by omega)
  rw [hc]
  push_cast at hk'
  rwa [add_assoc c.nextLogIndex]

end Ctx.HasRoom

namespace Projection

/-! ### Running the monad's own operations -/

theorem run_read (c : Ctx) : read.run c = .ok c c := rfl

theorem run_track (id : EntityId) (c : Ctx) :
    (track id).run c =
      .ok () (if id.isEmpty then c else { c with touched := id.insertSorted c.touched }) := by
  unfold track
  split <;> rfl

/-- An emission that returns was accepted, and left the sink as delivering the row leaves it. -/
theorem run_emit_eq_ok {m : Mutation} {c c' : Ctx} {u : PUnit} (h : (emit m).run c = .ok u c') :
    (c.sink.ledger.apply m).2 = none ∧
      c' = { c with sink := (c.sink.deliver m).1, emitted := m :: c.emitted } := by
  rw [run_emit] at h
  rcases hd : c.sink.deliver m with ⟨sink, _ | r⟩ <;> rw [hd] at h
  · cases h
    refine ⟨?_, rfl⟩
    rw [← Sink.deliver_cause, hd]
    rfl
  · cases h

/-! ### Exact emission -/

variable {α β : Type}

/-- From `c`, `x` emits the rows of `ms` in order as far as the ledger takes them: it feeds them
to the sink up to and including the first the ledger refuses, returns exactly when the ledger
accepts them all, and otherwise stops at the refusal. -/
structure EmitsFrom (x : Projection α) (c : Ctx) (ms : List Mutation) : Prop where
  feeds : c.Feeds (c.sink.ledger.attempt ms) (x.after c)
  props : (x.after c).props = c.props
  accepts_of_ok : ∀ {a c'}, x.run c = .ok a c' → c.sink.ledger.Accepts ms
  refused_of_error : ∀ {e c'}, x.run c = .error e c' →
    (∃ r, e = .refused r) ∧ ¬c.sink.ledger.Accepts ms

namespace EmitsFrom

variable {x : Projection α} {c c' : Ctx} {ms ms' : List Mutation}

/-- A program that returns having changed nothing the sink or the settings can see emits
nothing. -/
theorem of_run {a : α} (h : x.run c = .ok a c') (he : c'.emitted = c.emitted)
    (hs : c'.sink = c.sink) (hv : c'.via = c.via) (hp : c'.props = c.props) :
    EmitsFrom x c [] where
  feeds := by rw [after_of_ok h]; exact Ctx.feeds_nil he hs hv
  props := by rw [after_of_ok h]; exact hp
  accepts_of_ok _ := trivial
  refused_of_error h' := by rw [h] at h'; cases h'

theorem pure (a : α) : EmitsFrom (Pure.pure a : Projection α) c [] :=
  of_run rfl rfl rfl rfl rfl

theorem read : EmitsFrom Projection.read c [] := of_run (run_read c) rfl rfl rfl rfl

theorem persist : EmitsFrom Projection.persist c [] := of_run (run_persist c) rfl rfl rfl rfl

theorem track (id : EntityId) : EmitsFrom (Projection.track id) c [] := by
  refine of_run (run_track id c) ?_ ?_ ?_ ?_ <;> split <;> rfl

/-- Taking a log index emits nothing while the counter has room. -/
theorem nextLogIndex (h : c.HasRoom 1) : EmitsFrom Projection.nextLogIndex c [] :=
  of_run (run_nextLogIndex h.inRange_succ) rfl rfl rfl rfl

theorem emit (m : Mutation) : EmitsFrom (Projection.emit m) c [m] := by
  have hafter := after_emit m c
  -- whatever the ledger does with `m`, it was fed to the sink
  have hfeeds : c.Feeds [m] ((Projection.emit m).after c) := by
    rw [hafter]
    exact ⟨rfl, rfl, rfl⟩
  refine ⟨?_, by rw [hafter], ?_, ?_⟩
  · by_cases hm : (c.sink.ledger.apply m).2 = none
    · rwa [Ledger.attempt_cons_of_accepted hm]
    · rwa [Ledger.attempt_cons_of_refused hm]
  · intro u c' h
    exact ⟨(run_emit_eq_ok h).1, trivial⟩
  · intro e c' h
    rw [run_emit] at h
    rcases hd : c.sink.deliver m with ⟨sink, _ | r⟩ <;> rw [hd] at h
    · cases h
    · cases h
      have hcause := Sink.deliver_cause c.sink m
      rw [hd] at hcause
      refine ⟨⟨r, rfl⟩, fun hacc => ?_⟩
      have hm := hacc.1
      rw [← hcause] at hm
      cases hm

/-- A program that returns fed the sink every row of `ms`, so the ledger it leaves received
them all. -/
theorem feeds_of_ok {a : α} (h : EmitsFrom x c ms) (hrun : x.run c = .ok a c') :
    c.Feeds ms c' ∧ c'.sink.ledger = c.sink.ledger.receive ms := by
  have hfeeds := h.feeds
  rw [after_of_ok hrun, Ledger.attempt_of_accepts (h.accepts_of_ok hrun)] at hfeeds
  exact ⟨hfeeds, by rw [hfeeds.sink, Sink.deliverAll_ledger]⟩

theorem bind {f : α → Projection β} (hx : EmitsFrom x c ms)
    (hf : ∀ a c₁, x.run c = .ok a c₁ → EmitsFrom (f a) c₁ ms') :
    EmitsFrom (x >>= f) c (ms ++ ms') := by
  rcases hrun : x.run c with ⟨a, c₁⟩ | ⟨e, c₁⟩
  · -- `x` returned: the rest runs on the ledger that received `ms`
    have hacc := hx.accepts_of_ok hrun
    have h₁ := hf a c₁ hrun
    obtain ⟨hfeeds, hledger⟩ := hx.feeds_of_ok hrun
    have hafter : (x >>= f).after c = (f a).after c₁ := after_bind_of_ok hrun
    refine ⟨?_, ?_, ?_, ?_⟩
    · rw [hafter, Ledger.attempt_append_of_accepts hacc, ← hledger]
      exact hfeeds.trans h₁.feeds
    · rw [hafter, h₁.props, ← after_of_ok hrun]
      exact hx.props
    · intro b c' h
      rw [run_bind, hrun] at h
      exact Ledger.accepts_append.2 ⟨hacc, hledger ▸ h₁.accepts_of_ok h⟩
    · intro e c' h
      rw [run_bind, hrun] at h
      obtain ⟨hr, hna⟩ := h₁.refused_of_error h
      exact ⟨hr, fun hall => hna (hledger ▸ (Ledger.accepts_append.1 hall).2)⟩
  · -- `x` stopped at a refusal, and so did the whole
    obtain ⟨hr, hna⟩ := hx.refused_of_error hrun
    have hafter : (x >>= f).after c = x.after c :=
      (after_bind_of_error hrun).trans (after_of_error hrun).symm
    refine ⟨?_, ?_, ?_, ?_⟩
    · rw [hafter, Ledger.attempt_append_of_not_accepts hna]
      exact hx.feeds
    · rw [hafter]
      exact hx.props
    · intro b c' h
      rw [run_bind, hrun] at h
      cases h
    · intro e' c' h
      rw [run_bind, hrun] at h
      cases h
      exact ⟨hr, fun hall => hna (Ledger.accepts_append.1 hall).1⟩

/-- What follows a part that emits nothing. -/
theorem nil_bind {f : α → Projection β} (hx : EmitsFrom x c [])
    (hf : ∀ a c₁, x.run c = .ok a c₁ → EmitsFrom (f a) c₁ ms') :
    EmitsFrom (x >>= f) c ms' := by
  simpa using bind hx hf

theorem ite {p : Prop} [Decidable p] {x y : Projection α} (hx : p → EmitsFrom x c ms)
    (hy : ¬p → EmitsFrom y c ms') :
    EmitsFrom (if p then x else y) c (if p then ms else ms') := by
  split
  · exact hx ‹p›
  · exact hy ‹¬p›

/-- The rows emitted are a prefix of `ms`: all of it when `x` returns. -/
theorem emitted_eq (h : EmitsFrom x c ms) :
    (x.after c).emitted = (c.sink.ledger.attempt ms).reverse ++ c.emitted :=
  h.feeds.emitted

end EmitsFrom

end Projection

end LedgerProjection
