import LedgerProjection.Proofs.Logging

/-!
## Resolution reads the projection's own writes

References resolve through the in-memory resolver, which learns from every row the projection
emits (`Sink.learn`): an entity row with a non-empty alias or EVM address registers it for the
row's id, a later registration of the same bytes replacing an earlier one. So at any point of a
run, an alias or an EVM address names the entity of the most recent row that registered it, or
failing any, what the resolver knew before the run.

* `Resolver.foldl_learn_aliases`, `Resolver.foldl_learn_evmAddresses`: after learning rows `ms`,
  the resolver maps bytes to the id of the last row of `ms` registering them
  (`lastRegistered`), else to what it mapped them to before.
* `Ctx.Step`: what one step of a record's projection can do to its state: emit a row, which the
  sink receives (`Projection.after_emit`), or change what the projection keeps for itself, the
  ids it touched (`Projection.track`) and the numbering of its synthetic logs
  (`Projection.nextLogIndex`). `Ctx.Reaches` is a run of steps; along one the resolver is the
  one the record started with, having learnt each row emitted since (`Ctx.Reaches.resolver`).
* `Projection.process_reaches`: the projection of a record is such a run, part by part
  (`Projection.Logic.reaches`, an instance of the handler walk), so every state it passes
  through, and resolves a reference in, is reached from the state the record starts in.
* `Ctx.resolve_id`, `Ctx.resolve_local`, `Ctx.resolve_alias`, `Ctx.resolve_evmAddress`: how
  each form of reference resolves in one state.
* `resolve_reads_own_writes`: at every state a record of a run reaches, a reference resolves
  to the id of the most recent row delivered before that point (by an earlier record, or
  earlier by the same one) that registered it, unless it is an id or the long-zero address of
  an entity of the configured shard and realm, which resolve without the resolver.
-/

namespace LedgerProjection

/-! ### Byte strings as keys -/

theorem Bytes.compare_eq_iff {a b : List UInt8} : Bytes.compare a b = .eq ↔ a = b := by
  induction a generalizing b with
  | nil => cases b <;> simp [Bytes.compare]
  | cons x xs ih =>
    cases b with
    | nil => simp [Bytes.compare]
    | cons y ys =>
      simp [Bytes.compare, Ordering.then_eq_eq, ih]

instance : Std.LawfulEqCmp Bytes.compare where
  compare_self := Bytes.compare_eq_iff.2 rfl
  eq_of_compare := Bytes.compare_eq_iff.1

/-! ### What the resolver learns -/

namespace Mutation

/-- The id a row registers for the bytes `b` under `field` (alias or EVM address): an entity row
whose `field` is `b`, when `b` is not empty. -/
def registers (field : Entity → Option (List UInt8)) (b : List UInt8) : Mutation → Option EntityId
  | .entity e => if field e = some b ∧ b ≠ [] then some e.id else none
  | _ => none

end Mutation

/-- The id named by the last row of `ms` that registers `b` under `field`. -/
def lastRegistered (field : Entity → Option (List UInt8)) (b : List UInt8) (ms : List Mutation) :
    Option EntityId :=
  (ms.filterMap (Mutation.registers field b)).getLast?

theorem lastRegistered_append_singleton (field : Entity → Option (List UInt8)) (b : List UInt8)
    (ms : List Mutation) (m : Mutation) :
    lastRegistered field b (ms ++ [m]) = (m.registers field b).or (lastRegistered field b ms) := by
  unfold lastRegistered
  rw [List.filterMap_append, List.getLast?_append]
  cases h : m.registers field b <;> simp [h]

namespace Resolver

/-- Learning an entity row registers its alias, when it has a non-empty one. -/
theorem learn_entity_aliases (r : Resolver) (e : Entity) :
    (Sink.learn r (.entity e)).aliases = match e.alias with
      | some a => if a.isEmpty then r.aliases else r.aliases.insert Bytes.compare a e.id
      | none => r.aliases := by
  simp only [Sink.learn]
  rcases ha : e.alias with _ | a <;> rcases hv : e.evmAddress with _ | v <;>
    simp only [] <;> (repeat' split) <;> rfl

/-- Learning an entity row registers its EVM address, when it has a non-empty one. -/
theorem learn_entity_evmAddresses (r : Resolver) (e : Entity) :
    (Sink.learn r (.entity e)).evmAddresses = match e.evmAddress with
      | some a => if a.isEmpty then r.evmAddresses
        else r.evmAddresses.insert Bytes.compare a e.id
      | none => r.evmAddresses := by
  simp only [Sink.learn]
  rcases ha : e.alias with _ | a <;> rcases hv : e.evmAddress with _ | v <;>
    simp only [] <;> (repeat' split) <;> rfl

/-- A lookup after registering the bytes `f` holds, when they are not empty. -/
theorem get?_register {f : Option (List UInt8)} {id : EntityId}
    {m : SortedMap (List UInt8) EntityId} (b : List UInt8) :
    (match f with
      | some a => if a.isEmpty then m else m.insert Bytes.compare a id
      | none => m).get? Bytes.compare b =
      (if f = some b ∧ b ≠ [] then some id else none).or (m.get? Bytes.compare b) := by
  cases f with
  | none => simp
  | some a =>
    show (if a.isEmpty then m else m.insert Bytes.compare a id).get? Bytes.compare b = _
    by_cases ha : a = []
    · subst ha
      simp
    · rw [if_neg (by simpa using ha), SortedMap.get?_insert]
      by_cases hab : a = b
      · subst hab
        simp [ha]
      · simp [hab, Ne.symm hab]

theorem learn_aliases_get? (r : Resolver) (m : Mutation) (b : List UInt8) :
    (Sink.learn r m).aliases.get? Bytes.compare b =
      (m.registers Entity.alias b).or (r.aliases.get? Bytes.compare b) := by
  cases m
  case entity e =>
    rw [learn_entity_aliases, get?_register]
    rfl
  all_goals rfl

theorem learn_evmAddresses_get? (r : Resolver) (m : Mutation) (b : List UInt8) :
    (Sink.learn r m).evmAddresses.get? Bytes.compare b =
      (m.registers Entity.evmAddress b).or (r.evmAddresses.get? Bytes.compare b) := by
  cases m
  case entity e =>
    rw [learn_entity_evmAddresses, get?_register]
    rfl
  all_goals rfl

/-- After learning `ms`, an alias names the entity of the last row of `ms` registering it, or
else what it named before. -/
theorem foldl_learn_aliases (r : Resolver) (ms : List Mutation) (b : List UInt8) :
    (ms.foldl Sink.learn r).aliases.get? Bytes.compare b =
      (lastRegistered Entity.alias b ms).or (r.aliases.get? Bytes.compare b) := by
  induction ms using List.reverseRecOn with
  | nil => rfl
  | append_singleton ms m ih =>
    rw [List.foldl_append, List.foldl_cons, List.foldl_nil, learn_aliases_get?, ih,
      lastRegistered_append_singleton, Option.or_assoc]

/-- After learning `ms`, an EVM address names the entity of the last row of `ms` registering
it, or else what it named before. -/
theorem foldl_learn_evmAddresses (r : Resolver) (ms : List Mutation) (b : List UInt8) :
    (ms.foldl Sink.learn r).evmAddresses.get? Bytes.compare b =
      (lastRegistered Entity.evmAddress b ms).or (r.evmAddresses.get? Bytes.compare b) := by
  induction ms using List.reverseRecOn with
  | nil => rfl
  | append_singleton ms m ih =>
    rw [List.foldl_append, List.foldl_cons, List.foldl_nil, learn_evmAddresses_get?, ih,
      lastRegistered_append_singleton, Option.or_assoc]

end Resolver

/-! ### Resolving in one state -/

namespace Ctx

variable (c : Ctx)

/-- An id names itself, unless it is `0.0.0`. -/
theorem resolve_id (i : EntityId) : c.resolve (.id i) = if i.isEmpty then none else some i := by
  unfold resolve
  cases h : i.isEmpty <;> simp [Option.filter, h]

/-- The long-zero address of an entity in the configured shard and realm names that entity,
whatever the resolver knows. -/
theorem resolve_local {b : List UInt8} {sh re n : Int}
    (hb : EntityId.decodeLongZero b = some (sh, re, n)) (hs : sh = c.props.shard)
    (hr : re = c.props.realm) :
    c.resolve (.alias b) = (some ⟨sh, re, n⟩ : Option EntityId).filter (!·.isEmpty) ∧
      c.resolve (.evmAddress b) = (some ⟨sh, re, n⟩ : Option EntityId).filter (!·.isEmpty) := by
  have hl : c.decodeLocal b = some ⟨sh, re, n⟩ := by
    simp [decodeLocal, hb, hs, hr]
  simp only [resolve, hl, Option.some_or, and_self]

/-- Bytes that are not the long-zero address of an entity in the configured shard and realm. -/
def Foreign (props : Properties) (b : List UInt8) : Prop :=
  ∀ sh re n, EntityId.decodeLongZero b = some (sh, re, n) → ¬(sh = props.shard ∧ re = props.realm)

theorem decodeLocal_eq_none {b : List UInt8} (hb : Foreign c.props b) : c.decodeLocal b = none := by
  unfold decodeLocal
  cases hd : EntityId.decodeLongZero b with
  | none => rfl
  | some t =>
    obtain ⟨sh, re, n⟩ := t
    exact if_neg (hb sh re n hd)

/-- Other bytes given as an alias go to the in-memory resolver's aliases, then to its EVM
addresses. -/
theorem resolve_alias {b : List UInt8} (hb : Foreign c.props b) (hv : c.via = .memory) :
    c.resolve (.alias b) =
      ((c.sink.resolver.aliases.get? Bytes.compare b).or
        (c.sink.resolver.evmAddresses.get? Bytes.compare b)).filter (!·.isEmpty) := by
  simp only [resolve, decodeLocal_eq_none c hb, Option.none_or, hv, Resolver.lookupVia,
    Resolver.lookup]

/-- Other bytes given as an EVM address go to the in-memory resolver's EVM addresses. -/
theorem resolve_evmAddress {b : List UInt8} (hb : Foreign c.props b) (hv : c.via = .memory) :
    c.resolve (.evmAddress b) =
      (c.sink.resolver.evmAddresses.get? Bytes.compare b).filter (!·.isEmpty) := by
  simp only [resolve, decodeLocal_eq_none c hb, Option.none_or, hv, Resolver.lookupVia,
    Resolver.lookup]

/-! ### Steps of a record's projection -/

/-- What one step of a record's projection can do to its state: emit a row, which is delivered
to the sink, or change what the projection keeps for itself (the ids it touched, the numbering
of synthetic logs), leaving the settings, the resolver consulted, the sink and the rows emitted
as they were. -/
inductive Step : Ctx → Ctx → Prop
  | emit (c : Ctx) (m : Mutation) :
      Step c { c with sink := (c.sink.deliver m).1, emitted := m :: c.emitted }
  | keep (c c' : Ctx) (hp : c'.props = c.props) (hv : c'.via = c.via) (hs : c'.sink = c.sink)
      (he : c'.emitted = c.emitted) : Step c c'

/-- A run of steps of a record's projection. -/
def Reaches (c c' : Ctx) : Prop := Relation.ReflTransGen Step c c'

/-- Along a run of steps, the settings and the resolver consulted stay, and the resolver has
learnt each row emitted since, in order. -/
theorem Reaches.resolver {c c' : Ctx} (h : c.Reaches c') :
    c'.props = c.props ∧ c'.via = c.via ∧ ∃ ms : List Mutation, c'.emitted = ms.reverse ++ c.emitted ∧
      c'.sink.resolver = ms.foldl Sink.learn c.sink.resolver := by
  induction h with
  | refl => exact ⟨rfl, rfl, [], rfl, rfl⟩
  | tail _ step ih =>
    obtain ⟨hp, hv, ms, he, hr⟩ := ih
    cases step with
    | emit m =>
      refine ⟨hp, hv, ms ++ [m], by simp [he], ?_⟩
      rw [Sink.deliver_resolver, hr, List.foldl_append]
      rfl
    | keep c₂ hp' hv' hs' he' =>
      exact ⟨hp'.trans hp, hv'.trans hv, ms, he'.trans he, by rw [hs', hr]⟩

end Ctx

namespace Projection

/-- Emitting a row is a step. -/
theorem step_emit (m : Mutation) (c : Ctx) : c.Step ((emit m).after c) := by
  rw [after_emit]
  exact .emit c m

/-- Touching an id is a step. -/
theorem step_track (id : EntityId) (c : Ctx) : c.Step ((track id).after c) := by
  unfold track
  split
  · exact .keep c c rfl rfl rfl rfl
  · exact .keep c _ rfl rfl rfl rfl

/-- Handing out a log index is a step, and so is stopping at the end of the counter. -/
theorem step_nextLogIndex (c : Ctx) : c.Step (nextLogIndex.after c) := by
  by_cases hr : I32.InRange (c.nextLogIndex + 1)
  · rw [after_of_ok (run_nextLogIndex hr)]
    exact .keep c _ rfl rfl rfl rfl
  · rw [after_of_error (run_nextLogIndex_overflow hr)]
    exact .keep c c rfl rfl rfl rfl

/-- The programs whose every run ends, returned or stopped, in a state reached by steps from the
one it started in. A program's run passes through the states its parts end in, and reads the
state only there, so for a program of this logic built by `bind` each of them is reached too. -/
def Logic.reaches : Logic where
  Holds x := ∀ c : Ctx, c.Reaches (x.after c)
  pure _ _ := .refl
  bind {_ _ x f} hx hf c := by
    rcases hrun : x.run c with ⟨a, c₁⟩ | ⟨e, c₁⟩
    · -- the rest starts where `x` returned
      rw [after_bind_of_ok hrun]
      exact (after_of_ok hrun ▸ hx c).trans (hf a c₁)
    · rw [after_bind_of_error hrun]
      exact after_of_error hrun ▸ hx c
  get _ := .refl
  track id c := .single (step_track id c)

/-- The projection of a record goes from the state it starts in by steps, and so does each part
of it: every state it passes through, and every state it resolves a reference in, is reached
from its start. -/
theorem process_reaches (item : RecordItem) (c : Ctx) : c.Reaches ((process item).after c) :=
  process_holds_of_emit (L := Logic.reaches) (fun m c => .single (step_emit m c))
    (fun c => .single (step_nextLogIndex c)) (fun _ _ => .refl) c

end Projection

/-! ### Runs -/

section Runs

variable (props : Properties)

/-- The rows delivered before a state `c` of a record projected after the records `pre`: those
of the records before, then those the record has emitted itself so far. -/
def Sink.deliveredBefore (s : Sink) (pre : List RecordItem) (c : Ctx) : List Mutation :=
  ((s.emittedRows props .memory pre).map Prod.snd) ++ c.emitted.reverse

/-- At every state a record reaches when projected after the records `pre`, the resolver is the
one the run started with, having learnt each row delivered before that point. -/
theorem Sink.resolver_of_reaches (s : Sink) (pre : List RecordItem) (item : RecordItem)
    {c : Ctx} (hc : (Ctx.start props .memory (s.projectEach props .memory pre).2 item).Reaches c) :
    c.props = props ∧ c.via = .memory ∧
      c.sink.resolver = (s.deliveredBefore props pre c).foldl Sink.learn s.resolver := by
  obtain ⟨hp, hv, ms, he, hr⟩ := hc.resolver
  -- the record starts with nothing emitted, from the sink the records before it left
  have hms : c.emitted.reverse = ms := by
    rw [he]
    simp [Ctx.start]
  refine ⟨hp, hv, ?_⟩
  rw [hr, Sink.deliveredBefore, hms, List.foldl_append]
  show ms.foldl Sink.learn (s.projectEach props .memory pre).2.resolver = _
  rw [Sink.projectEach_eq_deliverAll, Sink.deliverAll_resolver]

/-- Resolution during a run with the in-memory resolver reads the run's own writes. At every
state a record reaches when projected after the records `pre`, with `D` the rows delivered
before that point (by the records before, then by this one) and `s.resolver` what the resolver
knew when the run started: an id names itself unless it is `0.0.0`; the long-zero address of an
entity of the configured shard and realm names that entity, whatever was delivered; any other
EVM address names the entity of the last row of `D` registering it as its EVM address, else
what the resolver knew; any other alias the entity of the last row of `D` registering it as its
alias, else what the resolver knew, falling back to the EVM addresses; and `0.0.0`, or nothing
found, is unresolved. The states the record's own projection passes through, where it resolves
its references, are such states (`Projection.process_reaches`). -/
theorem resolve_reads_own_writes (s : Sink) (pre : List RecordItem) (item : RecordItem) (c : Ctx)
    (hc : (Ctx.start props .memory (s.projectEach props .memory pre).2 item).Reaches c) :
    (∀ i, c.resolve (.id i) = if i.isEmpty then none else some i) ∧
      (∀ b sh re n, EntityId.decodeLongZero b = some (sh, re, n) → sh = props.shard →
        re = props.realm →
          c.resolve (.alias b) = (some ⟨sh, re, n⟩ : Option EntityId).filter (!·.isEmpty) ∧
          c.resolve (.evmAddress b) = (some ⟨sh, re, n⟩ : Option EntityId).filter (!·.isEmpty)) ∧
      ∀ b, Ctx.Foreign props b →
        c.resolve (.evmAddress b) =
          ((lastRegistered Entity.evmAddress b (s.deliveredBefore props pre c)).or
            (s.resolver.evmAddresses.get? Bytes.compare b)).filter (!·.isEmpty) ∧
        c.resolve (.alias b) =
          (((lastRegistered Entity.alias b (s.deliveredBefore props pre c)).or
              (s.resolver.aliases.get? Bytes.compare b)).or
            ((lastRegistered Entity.evmAddress b (s.deliveredBefore props pre c)).or
              (s.resolver.evmAddresses.get? Bytes.compare b))).filter (!·.isEmpty) := by
  obtain ⟨hp, hv, hr⟩ := Sink.resolver_of_reaches props s pre item hc
  refine ⟨c.resolve_id, fun b sh re n hb hs hre => c.resolve_local hb (hp ▸ hs) (hp ▸ hre),
    fun b hb => ?_⟩
  have hf : Ctx.Foreign c.props b := hp ▸ hb
  rw [c.resolve_evmAddress hf hv, c.resolve_alias hf hv, hr, Resolver.foldl_learn_aliases,
    Resolver.foldl_learn_evmAddresses]
  exact ⟨rfl, rfl⟩

/-- An account created at time 10 with the alias `[1, 2, 3]`. -/
def createdWithAlias : RecordItem :=
  { consensusTimestamp := 10, payerAccountId := ⟨0, 0, 2⟩, body := .cryptoCreate { «alias» := [1, 2, 3] },
    receipt := { status := ⟨22⟩, accountId := some ⟨0, 0, 1001⟩ } }

/-- A transfer at time 20 to the alias `[1, 2, 3]`. -/
def transferToAlias : RecordItem :=
  { consensusTimestamp := 20, payerAccountId := ⟨0, 0, 2⟩,
    body := .cryptoTransfer { transfers := [{ account := some (.alias [1, 2, 3]), amount := 5 }] },
    receipt := { status := ⟨22⟩ } }

/-- The state the transfer starts in, after the account's creation. -/
def transferStart : Ctx :=
  Ctx.start {} .memory (({} : Sink).projectEach {} .memory [createdWithAlias]).2 transferToAlias

theorem resolve_reads_own_writes_transferStart :
    (Ctx.start {} .memory (({} : Sink).projectEach {} .memory [createdWithAlias]).2
        transferToAlias).Reaches transferStart ∧
      (∀ i, transferStart.resolve (.id i) = if i.isEmpty then none else some i) ∧
      (∀ b sh re n, EntityId.decodeLongZero b = some (sh, re, n) → sh = ({} : Properties).shard →
        re = ({} : Properties).realm →
          transferStart.resolve (.alias b) =
            (some ⟨sh, re, n⟩ : Option EntityId).filter (!·.isEmpty) ∧
          transferStart.resolve (.evmAddress b) =
            (some ⟨sh, re, n⟩ : Option EntityId).filter (!·.isEmpty)) ∧
      ∀ b, Ctx.Foreign {} b →
        transferStart.resolve (.evmAddress b) =
          ((lastRegistered Entity.evmAddress b
              (({} : Sink).deliveredBefore {} [createdWithAlias] transferStart)).or
            (({} : Sink).resolver.evmAddresses.get? Bytes.compare b)).filter (!·.isEmpty) ∧
        transferStart.resolve (.alias b) =
          (((lastRegistered Entity.alias b
                (({} : Sink).deliveredBefore {} [createdWithAlias] transferStart)).or
              (({} : Sink).resolver.aliases.get? Bytes.compare b)).or
            ((lastRegistered Entity.evmAddress b
                (({} : Sink).deliveredBefore {} [createdWithAlias] transferStart)).or
              (({} : Sink).resolver.evmAddresses.get? Bytes.compare b))).filter (!·.isEmpty) :=
  ⟨.refl, resolve_reads_own_writes {} {} [createdWithAlias] transferToAlias transferStart .refl⟩

-- the alias the first record registered resolves in the second
example : transferStart.resolve (.alias [1, 2, 3]) = some ⟨0, 0, 1001⟩ := by rfl

end Runs

end LedgerProjection
