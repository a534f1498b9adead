import LedgerProjection.Proofs.Stamping

/-!
# What projecting a record delivers

`Outcome.Delivered P l l'` says how an outcome of projecting a record explains the ledger `l'`
it leaves, from the ledger `l` it found: a finished record, and one stopped by an overflow,
delivered its mutations in order and the ledger accepted each of them; one stopped by a refusal
delivered them up to the last, which the ledger refused with the fault the failure reports.
`projectRecord_delivered` says that every outcome is so explained, with rows satisfying `P`,
when the projection keeps `P`.
-/

namespace LedgerProjection

open Mutation

/-! ### Outcomes -/

namespace Outcome

/-- The mutations a record emitted, in order. -/
def mutations : Outcome → List Mutation
  | .done _ ms _ => ms
  | .failed _ ms => ms

/-- Whether the record finished. -/
def finished : Outcome → Bool
  | .done .. => true
  | .failed .. => false

theorem finished_iff {o : Outcome} :
    o.finished = true ↔ ∃ tx ms touched, o = .done tx ms touched := by
  cases o <;> simp [finished]

/-- How an outcome explains the ledger `l'` a record left, from the ledger `l` it found: its
mutations, each satisfying `P`, were delivered in order, and all were accepted but, at a
refusal, the last. -/
def Delivered (P : Mutation → Prop) (l l' : Ledger) : Outcome → Prop
  | .done _ ms _ => (∀ m ∈ ms, P m) ∧ l.Accepts ms ∧ l' = l.receive ms
  | .failed (.overflow _) ms => (∀ m ∈ ms, P m) ∧ l.Accepts ms ∧ l' = l.receive ms
  | .failed (.refused r) ms => (∀ m ∈ ms, P m) ∧
      ∃ ms₁ m, ms = ms₁ ++ [m] ∧ l.Accepts ms₁ ∧ (l.receive ms₁).apply m = (l', some r.cause)

variable {P : Mutation → Prop} {l l' : Ledger} {o : Outcome}

theorem Delivered.forall (h : o.Delivered P l l') : ∀ m ∈ o.mutations, P m := by
  rcases o with ⟨⟩ | ⟨_ | _, _⟩ <;> exact h.1

/-- Refused or not, every mutation of an outcome reached the ledger. -/
theorem Delivered.ledger_eq (h : o.Delivered P l l') : l' = l.receive o.mutations := by
  rcases o with ⟨⟩ | ⟨r | _, ms⟩
  · exact h.2.2
  · obtain ⟨ms₁, m, rfl, -, happ⟩ := h.2
    show l' = l.receive (ms₁ ++ [m])
    rw [Ledger.receive_append, Ledger.receive_cons, happ]
    rfl
  · exact h.2.2

theorem Delivered.mono {Q : Mutation → Prop} (hPQ : ∀ m, P m → Q m)
    (h : o.Delivered P l l') : o.Delivered Q l l' := by
  rcases o with ⟨⟩ | ⟨_ | _, ms⟩ <;> exact ⟨fun m hm => hPQ m (h.1 m hm), h.2⟩

end Outcome

/-! ### Records -/

/-- A run from the start of a record has emitted, most recent first, what it delivered. -/
theorem Ctx.Delivers.emitted_start {props : Properties} {via : ResolverKind} {sink : Sink}
    {item : RecordItem} {ms : List Mutation} {c : Ctx}
    (h : (Ctx.start props via sink item).Delivers ms c) : c.emitted = ms.reverse := by
  rw [h.emitted]
  simp [Ctx.start]

/-- A projection that keeps `P`, run on a record, ends in an outcome that explains the ledger it
leaves by deliveries of rows satisfying `P`. -/
theorem projectRecord_delivered {P : Mutation → Prop} {item : RecordItem}
    (h : Projection.Keeps P (Projection.process item)) (props : Properties) (via : ResolverKind)
    (sink : Sink) :
    (projectRecord props via sink item).2.Delivered P sink.ledger
      (projectRecord props via sink item).1.ledger := by
  have hc := h (Ctx.start props via sink item)
  unfold projectRecord
  rcases hrun : (Projection.process item).run (Ctx.start props via sink item) with
    ⟨tx, c⟩ | ⟨f, c⟩ <;> rw [hrun] at hc <;> dsimp only
  · obtain ⟨ms, hms, hd⟩ := hc
    have he : c.emitted.reverse = ms := by rw [hd.emitted_start, List.reverse_reverse]
    exact ⟨he ▸ hms, he ▸ hd.accepts, he ▸ hd.ledger⟩
  · cases f with
    | overflow o =>
      obtain ⟨ms, hms, hd⟩ := hc
      have he : c.emitted.reverse = ms := by rw [hd.emitted_start, List.reverse_reverse]
      exact ⟨he ▸ hms, he ▸ hd.accepts, he ▸ hd.ledger⟩
    | refused r =>
      obtain ⟨c₁, m, ⟨ms, hms, hd⟩, hm, he, happ⟩ := hc
      have he₁ : c₁.emitted = ms.reverse := hd.emitted_start
      refine ⟨fun x hx => ?_, ms, m, by simp [he, he₁], hd.accepts, ?_⟩
      · simp only [he, he₁, List.reverse_cons, List.reverse_reverse, List.mem_append,
          List.mem_singleton] at hx
        rcases hx with hx | rfl
        · exact hms x hx
        · exact hm
      · have hl : c₁.sink.ledger = sink.ledger.receive ms := hd.ledger
        rw [← hl]
        exact happ

/-- Projecting a record at `ts` emits only rows stamped at `ts`, and its outcome explains the
ledger it leaves. -/
theorem projectRecord_stamped (props : Properties) (via : ResolverKind) (sink : Sink)
    (item : RecordItem) :
    (projectRecord props via sink item).2.Delivered (Stamped item.consensusTimestamp) sink.ledger
      (projectRecord props via sink item).1.ledger :=
  projectRecord_delivered (Projection.process_stamped item) props via sink

/-! ### Runs of records -/

/-- Projects records in order, each into the sink the one before left, whatever its outcome:
the outcomes in order, and the sink left. -/
def Sink.projectEach (props : Properties) (via : ResolverKind) :
    Sink → List RecordItem → List Outcome × Sink
  | s, [] => ([], s)
  | s, item :: rest =>
    let r := projectRecord props via s item
    let run := r.1.projectEach props via rest
    (r.2 :: run.1, run.2)

@[simp]
theorem Sink.projectEach_nil (props : Properties) (via : ResolverKind) (s : Sink) :
    s.projectEach props via [] = ([], s) := rfl

@[simp]
theorem Sink.projectEach_cons (props : Properties) (via : ResolverKind) (s : Sink)
    (item : RecordItem) (rest : List RecordItem) :
    s.projectEach props via (item :: rest) =
      ((projectRecord props via s item).2 ::
          ((projectRecord props via s item).1.projectEach props via rest).1,
        ((projectRecord props via s item).1.projectEach props via rest).2) := rfl

end LedgerProjection
