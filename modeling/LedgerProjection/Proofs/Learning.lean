import LedgerProjection.Proofs.Records
import LedgerProjection.Proofs.Refusals

/-!
## What the resolver knows when a row is emitted

Every row a record emits goes to the resolver before the ledger sees it: the resolver learns
the aliases, EVM addresses and token keys the row carries (`Sink.learn`), whether or not the
ledger then accepts it. So what the resolver knows at any point of a run is what the rows
emitted before taught it, in order, and a rule that a row must obey given that knowledge can be
checked row by row.

* `Resolver.Heeded row Q r xs`: each item of `xs` obeys `Q` for what the resolver knew just
  before it, starting from `r` and learning the row of each item in turn. `Resolver.heeded_iff`
  says the same of every split `xs = pre ++ x :: post`.
* `Ctx.Feeds c ms c'`: going from `c` to `c'` emitted `ms` and delivered each row to the sink in
  turn (`Sink.deliverAll`), so the resolver learnt each of them (`Ctx.Feeds.resolver`).
* `Projection.Heeds Q x`: from any state, `x` ends, returned or stopped, having fed the sink
  rows each of which obeys `Q` for what the resolver knew just before it, read through the
  resolver the projection consults. It composes like `Keeps` (`Heeds.bind`, `Heeds.forM`);
  `Heeds.emitKeyed` covers a row built from the token keys the resolver gives.
* `projectRecord_heeded` and `Sink.emittedRows_heeded`: the resolver a record leaves is the one
  it started with having learnt every row of the outcome, and when every record heeds its rule,
  so does the whole stream of rows of a run, each row with the record that emitted it.
-/

namespace LedgerProjection

namespace Resolver

/-- Each item of the list obeys `Q` for what the resolver knew just before it, the resolver
starting as `r` and learning the row of each item in turn. -/
def Heeded {β : Type} (row : β → Mutation) (Q : Resolver → β → Prop) : Resolver → List β → Prop
  | _, [] => True
  | r, x :: xs => Q r x ∧ Heeded row Q (Sink.learn r (row x)) xs

variable {β γ : Type} {row : β → Mutation} {Q : Resolver → β → Prop}

@[simp]
theorem heeded_nil (r : Resolver) : Heeded row Q r [] := trivial

@[simp]
theorem heeded_cons {r : Resolver} {x : β} {xs : List β} :
    Heeded row Q r (x :: xs) ↔ Q r x ∧ Heeded row Q (Sink.learn r (row x)) xs :=
  Iff.rfl

theorem heeded_append {r : Resolver} {xs ys : List β} :
    Heeded row Q r (xs ++ ys) ↔
      Heeded row Q r xs ∧ Heeded row Q ((xs.map row).foldl Sink.learn r) ys := by
  induction xs generalizing r with
  | nil => simp
  | cons x xs ih => simp [ih, and_assoc]

/-- Tagging every item keeps what it must obey. -/
theorem heeded_map {f : γ → β} {r : Resolver} {xs : List γ} :
    Heeded row Q r (xs.map f) ↔ Heeded (row ∘ f) (fun r x => Q r (f x)) r xs := by
  induction xs generalizing r with
  | nil => simp
  | cons x xs ih => simp [ih]

/-- Each item obeys `Q` for what the items before it taught the resolver. -/
theorem heeded_iff {r : Resolver} {xs : List β} :
    Heeded row Q r xs ↔
      ∀ pre x post, xs = pre ++ x :: post → Q ((pre.map row).foldl Sink.learn r) x := by
  induction xs generalizing r with
  | nil => simp
  | cons y ys ih =>
    rw [heeded_cons, ih]
    constructor
    · rintro ⟨hy, hys⟩ pre x post hs
      cases pre with
      | nil =>
        obtain ⟨rfl, rfl⟩ := List.cons.inj hs
        exact hy
      | cons z pre =>
        obtain ⟨rfl, hs'⟩ := List.cons.inj hs
        exact hys pre x post hs'
    · intro h
      exact ⟨h [] y ys rfl, fun pre x post hs => h (y :: pre) x post (by rw [hs]; rfl)⟩

end Resolver

/-! ### States a program ends in -/

namespace Sink

/-- Delivers each row of `ms` in turn, whatever the ledger makes of it. -/
def deliverAll (s : Sink) (ms : List Mutation) : Sink :=
  ms.foldl (fun s m => (s.deliver m).1) s

@[simp]
theorem deliverAll_nil (s : Sink) : s.deliverAll [] = s := rfl

theorem deliverAll_append (s : Sink) (ms ms' : List Mutation) :
    s.deliverAll (ms ++ ms') = (s.deliverAll ms).deliverAll ms' :=
  List.foldl_append

/-- The resolver learns every row delivered, refused or not. -/
theorem deliverAll_resolver (s : Sink) (ms : List Mutation) :
    (s.deliverAll ms).resolver = ms.foldl learn s.resolver := by
  induction ms generalizing s with
  | nil => rfl
  | cons m ms ih => exact (ih (s.deliver m).1).trans (by rw [deliver_resolver]; rfl)

end Sink

namespace Ctx

/-- Going from `c` to `c'` emitted `ms` in order and delivered each of them to the sink in turn,
and kept the resolver consulted. -/
structure Feeds (c : Ctx) (ms : List Mutation) (c' : Ctx) : Prop where
  emitted : c'.emitted = ms.reverse ++ c.emitted
  sink : c'.sink = c.sink.deliverAll ms
  via : c'.via = c.via

variable {c c₁ c' : Ctx} {ms ms' : List Mutation}

/-- A state that differs only in what the sink cannot see emitted nothing. -/
theorem feeds_nil (he : c'.emitted = c.emitted) (hs : c'.sink = c.sink) (hv : c'.via = c.via) :
    c.Feeds [] c' :=
  ⟨by simpa using he, hs, hv⟩

theorem Feeds.trans (h : c.Feeds ms c₁) (h' : c₁.Feeds ms' c') : c.Feeds (ms ++ ms') c' where
  emitted := by rw [h'.emitted, h.emitted, List.reverse_append, List.append_assoc]
  sink := by rw [h'.sink, h.sink, Sink.deliverAll_append]
  via := h'.via.trans h.via

/-- The resolver learnt each row fed to the sink. -/
theorem Feeds.resolver (h : c.Feeds ms c') :
    c'.sink.resolver = ms.foldl Sink.learn c.sink.resolver := by
  rw [h.sink, Sink.deliverAll_resolver]

end Ctx

namespace Projection

/-- The state a run of `x` from `c` ends in, whether it returned or stopped. -/
def after {α : Type} (x : Projection α) (c : Ctx) : Ctx :=
  match x.run c with
  | .ok _ c' => c'
  | .error _ c' => c'

variable {α β : Type} {x : Projection α} {c c' : Ctx}

theorem after_of_ok {a : α} (h : x.run c = .ok a c') : x.after c = c' := by
  rw [after, h]

theorem after_of_error {e : Failure} (h : x.run c = .error e c') : x.after c = c' := by
  rw [after, h]

/-- A sequence whose first part returned ends where its rest, run from there, ends. -/
theorem after_bind_of_ok {f : α → Projection β} {a : α} (h : x.run c = .ok a c') :
    (x >>= f).after c = (f a).after c' := by
  simp only [after, run_bind, h]

/-- A sequence whose first part stopped ends where that part did. -/
theorem after_bind_of_error {f : α → Projection β} {e : Failure} (h : x.run c = .error e c') :
    (x >>= f).after c = c' := by
  simp only [after, run_bind, h]

theorem after_emit (m : Mutation) (c : Ctx) :
    (emit m).after c = { c with sink := (c.sink.deliver m).1, emitted := m :: c.emitted } := by
  rw [after, run_emit]
  rcases c.sink.deliver m with ⟨sink, _ | r⟩ <;> rfl

/-! ### Programs whose rows obey a rule on what the resolver knew -/

/-- From `c`, `x` ends having emitted rows and fed them to the sink in turn, each obeying `Q` for
what the resolver knew just before it. -/
def HeedsFrom (Q : ResolverKind → Resolver → Mutation → Prop) (x : Projection α) (c : Ctx) :
    Prop :=
  ∃ ms, c.Feeds ms (x.after c) ∧ c.sink.resolver.Heeded id (Q c.via) ms

/-- From any state, `x` ends having emitted rows and fed them to the sink in turn, each obeying
`Q` for what the resolver knew just before it, read through the resolver consulted. -/
def Heeds (Q : ResolverKind → Resolver → Mutation → Prop) (x : Projection α) : Prop :=
  ∀ c, HeedsFrom Q x c

/-- Emitting a row that obeys the rule for what the resolver knows at that point. -/
theorem heedsFrom_emit {Q : ResolverKind → Resolver → Mutation → Prop} {m : Mutation}
    (hm : Q c.via c.sink.resolver m) : HeedsFrom Q (emit m) c := by
  refine ⟨[m], ?_, hm, trivial⟩
  rw [after_emit]
  exact ⟨rfl, rfl, rfl⟩

namespace Heeds

variable {Q : ResolverKind → Resolver → Mutation → Prop}

/-- A program that changes nothing the sink can see. -/
theorem of_after {x : Projection α} (h : ∀ c, (x.after c).emitted = c.emitted ∧
    (x.after c).sink = c.sink ∧ (x.after c).via = c.via) : Heeds Q x :=
  fun c => ⟨[], Ctx.feeds_nil (h c).1 (h c).2.1 (h c).2.2, trivial⟩

theorem pure (a : α) : Heeds Q (Pure.pure a : Projection α) :=
  of_after fun _ => ⟨rfl, rfl, rfl⟩

theorem bind {x : Projection α} {f : α → Projection β} (hx : Heeds Q x)
    (hf : ∀ a, Heeds Q (f a)) : Heeds Q (x >>= f) := by
  intro c
  obtain ⟨ms, hl, hq⟩ := hx c
  rcases hrun : x.run c with ⟨a, c₁⟩ | ⟨e, c₁⟩
  · -- the rest runs from where `x` returned
    rw [after_of_ok hrun] at hl
    obtain ⟨ms', hl', hq'⟩ := hf a c₁
    refine ⟨ms ++ ms', after_bind_of_ok hrun ▸ hl.trans hl', ?_⟩
    rw [Resolver.heeded_append, List.map_id, ← hl.resolver]
    exact ⟨hq, hl.via ▸ hq'⟩
  · -- `x` stopped, and so did the whole
    rw [after_of_error hrun] at hl
    exact ⟨ms, after_bind_of_error hrun ▸ hl, hq⟩

theorem ite {p : Prop} [Decidable p] {x y : Projection α} (hx : p → Heeds Q x)
    (hy : ¬p → Heeds Q y) : Heeds Q (if p then x else y) := by
  split
  · exact hx ‹p›
  · exact hy ‹¬p›

theorem get : Heeds Q (MonadState.get : Projection Ctx) :=
  of_after fun _ => ⟨rfl, rfl, rfl⟩

/-- A change of state that leaves the sink, the emitted rows and the resolver consulted alone. -/
theorem modify {f : Ctx → Ctx} (hs : ∀ c, (f c).sink = c.sink)
    (he : ∀ c, (f c).emitted = c.emitted) (hv : ∀ c, (f c).via = c.via) :
    Heeds Q (modifyGet fun c => (PUnit.unit, f c) : Projection PUnit) := by
  have hafter : ∀ c, (modifyGet fun c => (PUnit.unit, f c) : Projection PUnit).after c = f c :=
    fun _ => rfl
  exact of_after fun c => by
    rw [hafter]
    exact ⟨he c, hs c, hv c⟩

theorem fail (o : Overflow) : Heeds Q (Projection.fail o : Projection α) :=
  of_after fun _ => ⟨rfl, rfl, rfl⟩

theorem ofExcept (r : Except Overflow α) : Heeds Q (Projection.ofExcept r) := by
  cases r with
  | ok a => exact pure a
  | error o => exact fail o

theorem emit {m : Mutation} (hm : ∀ via r, Q via r m) : Heeds Q (Projection.emit m) :=
  fun c => heedsFrom_emit (hm c.via c.sink.resolver)

/-- A row built from the keys the resolver gives a token obeys the rule for that resolver. -/
theorem emitKeyed {token : EntityId} {g : Option TokenKeys → Mutation}
    (hg : ∀ via r, Q via r (g (r.tokenKeysVia via token))) :
    Heeds Q (Projection.tokenKeys token >>= fun keys => Projection.emit (g keys)) := by
  intro c
  -- the keys are read from the state the row is emitted in
  have hafter : (Projection.tokenKeys token >>= fun keys => Projection.emit (g keys)).after c =
      (Projection.emit (g (c.sink.resolver.tokenKeysVia c.via token))).after c := rfl
  obtain ⟨ms, hl, hq⟩ := heedsFrom_emit (Q := Q) (c := c) (hg c.via c.sink.resolver)
  exact ⟨ms, hafter ▸ hl, hq⟩

theorem forM {γ : Type} {xs : List γ} {f : γ → Projection PUnit}
    (h : ∀ x ∈ xs, Heeds Q (f x)) : Heeds Q (xs.forM f) := by
  induction xs with
  | nil => exact pure _
  | cons x xs ih =>
    show Heeds Q (f x >>= fun _ => xs.forM f)
    exact bind (h x (List.mem_cons_self ..)) fun _ =>
      ih fun y hy => h y (List.mem_cons_of_mem _ hy)

theorem emitAll {ms : List Mutation} (h : ∀ m ∈ ms, ∀ via r, Q via r m) :
    Heeds Q (Projection.emitAll ms) := by
  induction ms with
  | nil => exact pure _
  | cons m ms ih =>
    exact bind (emit (h m (List.mem_cons_self ..))) fun _ =>
      ih fun x hx => h x (List.mem_cons_of_mem _ hx)

theorem read : Heeds Q Projection.read := get

theorem persist : Heeds Q Projection.persist := bind get fun _ => pure _

theorem resolveOrEmpty (ref : Option EntityRef) : Heeds Q (Projection.resolveOrEmpty ref) :=
  bind get fun _ => pure _

theorem track (id : EntityId) : Heeds Q (Projection.track id) := by
  unfold Projection.track
  split
  · exact pure _
  · exact modify (fun _ => rfl) (fun _ => rfl) (fun _ => rfl)

theorem trackAll (ids : List EntityId) : Heeds Q (Projection.trackAll ids) := by
  induction ids with
  | nil => exact pure _
  | cons id ids ih => exact bind (track id) fun _ => ih

theorem resolveAndTrack (ref : Option EntityRef) : Heeds Q (Projection.resolveAndTrack ref) :=
  bind get fun _ => bind (track _) fun _ => pure _

theorem resolvePatch (p : Patch EntityRef) : Heeds Q (Projection.resolvePatch p) := by
  cases p with
  | unset => exact pure _
  | set ref => exact bind (resolveAndTrack _) fun _ => pure _

/-- Taking a log index, or failing to for a full counter, emits nothing. -/
theorem nextLogIndex : Heeds Q Projection.nextLogIndex := by
  refine of_after fun c => ?_
  by_cases h : I32.InRange (c.nextLogIndex + 1)
  · rw [after_of_ok (Projection.run_nextLogIndex h)]
    exact ⟨rfl, rfl, rfl⟩
  · rw [after_of_error (Projection.run_nextLogIndex_overflow h)]
    exact ⟨rfl, rfl, rfl⟩

end Heeds

end Projection

/-! ### Records and runs -/

section Runs

variable {Q : ResolverKind → Resolver → Mutation → Prop} {item : RecordItem}

/-- A record's projection leaves the sink its run ends in, and lists the rows that run emitted. -/
theorem projectRecord_after (props : Properties) (via : ResolverKind) (sink : Sink)
    (item : RecordItem) :
    (projectRecord props via sink item).1 =
        ((Projection.process item).after (Ctx.start props via sink item)).sink ∧
      (projectRecord props via sink item).2.mutations =
        ((Projection.process item).after (Ctx.start props via sink item)).emitted.reverse := by
  rcases hrun : (Projection.process item).run (Ctx.start props via sink item) with
    ⟨tx, c⟩ | ⟨f, c⟩
  · rw [projectRecord, hrun, Projection.after_of_ok hrun]
    exact ⟨rfl, rfl⟩
  · rw [projectRecord, hrun, Projection.after_of_error hrun]
    exact ⟨rfl, rfl⟩

/-- A record whose projection heeds `Q` leaves the resolver having learnt every row of its
outcome, in order, each of which obeyed `Q` for what the resolver knew. -/
theorem projectRecord_heeded (h : Projection.Heeds Q (Projection.process item))
    (props : Properties) (via : ResolverKind) (sink : Sink) :
    (projectRecord props via sink item).1.resolver =
        (projectRecord props via sink item).2.mutations.foldl Sink.learn sink.resolver ∧
      sink.resolver.Heeded id (Q via) (projectRecord props via sink item).2.mutations := by
  obtain ⟨ms, hl, hq⟩ := h (Ctx.start props via sink item)
  obtain ⟨hsink, hmuts⟩ := projectRecord_after props via sink item
  -- the record starts with nothing emitted, so its outcome lists exactly the rows emitted
  have hms : (projectRecord props via sink item).2.mutations = ms := by
    rw [hmuts, hl.emitted]
    simp [Ctx.start]
  rw [hms, hsink, hl.resolver]
  exact ⟨rfl, hq⟩

/-- The rows a run emits, in order, each with the record that emitted it. -/
def Sink.emittedRows (props : Properties) (via : ResolverKind) (s : Sink)
    (items : List RecordItem) : List (RecordItem × Mutation) :=
  (items.zip (s.projectEach props via items).1).flatMap fun p => p.2.mutations.map (p.1, ·)

@[simp]
theorem Sink.emittedRows_nil (props : Properties) (via : ResolverKind) (s : Sink) :
    s.emittedRows props via [] = [] := rfl

theorem Sink.emittedRows_cons (props : Properties) (via : ResolverKind) (s : Sink)
    (item : RecordItem) (rest : List RecordItem) :
    s.emittedRows props via (item :: rest) =
      (projectRecord props via s item).2.mutations.map (item, ·) ++
        (projectRecord props via s item).1.emittedRows props via rest := by
  simp [Sink.emittedRows]

/-- When the projection of every record heeds its rule, every row of a run obeys its record's
rule for what the resolver knew when it was emitted. -/
theorem Sink.emittedRows_heeded {Q : RecordItem → ResolverKind → Resolver → Mutation → Prop}
    (h : ∀ item, Projection.Heeds (Q item) (Projection.process item)) (props : Properties)
    (via : ResolverKind) :
    ∀ (s : Sink) (items : List RecordItem),
      s.resolver.Heeded Prod.snd (fun r p => Q p.1 via r p.2) (s.emittedRows props via items)
  | _, [] => trivial
  | s, item :: rest => by
    obtain ⟨hres, hq⟩ := projectRecord_heeded (h item) props via s
    have hrows : ((projectRecord props via s item).2.mutations.map (item, ·)).map Prod.snd =
        (projectRecord props via s item).2.mutations := by
      simp
    rw [Sink.emittedRows_cons, Resolver.heeded_append, hrows, ← hres]
    -- the rest of the run starts from the resolver this record left
    exact ⟨Resolver.heeded_map.2 hq,
      Sink.emittedRows_heeded h props via (projectRecord props via s item).1 rest⟩

end Runs

end LedgerProjection
