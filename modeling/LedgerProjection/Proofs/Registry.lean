import LedgerProjection.Handlers.Registry

/-!
# Building the handler registry

`Registry.build kindOf fallback hs` either refuses the list or maps every declared kind to its
handler, and which of the three it does is decided by the list alone (`build_exact`):

* a kind, other than the unknown kind, with two handlers is refused, and the kind reported is
  that of the first handler in list order whose kind some earlier handler has
  (`Registry.FirstRepeat`); this check comes first;
* otherwise the declared kinds left without a handler are reported, in code order, when there
  are any;
* otherwise every declared kind gets its own handler, the kinds are listed in code order, and
  the unknown kind gets the last handler of that kind in the list, or the fallback.

The registration loop is described by one equation for a list that repeats no kind
(`register_eq_ok`) and by the first repeat otherwise (`register_eq_error_iff`); the latter rests
on three facts about how the first repeat moves along the list (`firstRepeat_cons_unknown`,
`firstRepeat_cons_seen`, `firstRepeat_cons_fresh`).
-/

namespace LedgerProjection

namespace Registry

variable {H : Type} (kindOf : H → TransactionType)

/-! ### The specification -/

/-- The kinds of a list of handlers, the unknown kind left out. -/
def knownKinds (hs : List H) : List TransactionType :=
  (hs.map kindOf).filter (· ≠ .unknown)

/-- No kind other than the unknown kind has two handlers in the list. -/
def RepeatFree (hs : List H) : Prop := (knownKinds kindOf hs).Nodup

/-- `t` is the kind of the first handler of `hs` whose kind, other than the unknown kind, is
among the kinds `seen` before the list or those of earlier handlers. -/
def FirstRepeat (seen : List TransactionType) (hs : List H) (t : TransactionType) : Prop :=
  ∃ pre h post, hs = pre ++ h :: post ∧ kindOf h = t ∧ t ≠ .unknown ∧
    t ∈ seen ++ pre.map kindOf ∧ (seen ++ knownKinds kindOf pre).Nodup

/-- The last handler of the unknown kind in the list, or the fallback when there is none. -/
def lastUnknown (fallback : H) (hs : List H) : H :=
  ((hs.filter (kindOf · = .unknown)).getLast?).getD fallback

/-! ### Kinds along the list -/

variable {kindOf}

@[simp]
theorem knownKinds_nil : knownKinds kindOf [] = [] := rfl

theorem knownKinds_cons (h : H) (hs : List H) :
    knownKinds kindOf (h :: hs) =
      if kindOf h = .unknown then knownKinds kindOf hs else kindOf h :: knownKinds kindOf hs := by
  by_cases hk : kindOf h = .unknown <;> simp [knownKinds, hk]

theorem lastUnknown_cons_unknown {fallback h : H} {hs : List H} (hk : kindOf h = .unknown) :
    lastUnknown kindOf fallback (h :: hs) = lastUnknown kindOf h hs := by
  simp only [lastUnknown, List.filter_cons, hk, decide_true, if_true, List.getLast?_cons,
    Option.getD_some]

theorem lastUnknown_cons_known {fallback h : H} {hs : List H} (hk : kindOf h ≠ .unknown) :
    lastUnknown kindOf fallback (h :: hs) = lastUnknown kindOf fallback hs := by
  simp [lastUnknown, hk]

/-! ### How the first repeat moves along the list -/

variable {seen : List TransactionType} {h : H} {rest : List H} {t : TransactionType}

/-- A handler of the unknown kind is never a repeat and never makes one. -/
theorem firstRepeat_cons_unknown (hk : kindOf h = .unknown) :
    FirstRepeat kindOf seen (h :: rest) t ↔ FirstRepeat kindOf seen rest t := by
  constructor
  · rintro ⟨_ | ⟨x, pre⟩, h', post, heq, hkt, ht, hmem, hnd⟩
    · -- the repeat would be `h` itself, of the unknown kind
      obtain ⟨rfl, -⟩ := List.cons.inj heq
      exact absurd (hkt.symm.trans hk) ht
    · obtain ⟨rfl, rfl⟩ := List.cons.inj heq
      refine ⟨pre, h', post, rfl, hkt, ht, ?_, ?_⟩
      · simp only [List.map_cons, List.mem_append, List.mem_cons] at hmem ⊢
        rcases hmem with hmem | rfl | hmem
        · exact .inl hmem
        · exact absurd hk ht
        · exact .inr hmem
      · simpa [knownKinds_cons, hk] using hnd
  · rintro ⟨pre, h', post, rfl, hkt, ht, hmem, hnd⟩
    refine ⟨h :: pre, h', post, rfl, hkt, ht, ?_, ?_⟩
    · simp only [List.map_cons, List.mem_append, List.mem_cons] at hmem ⊢
      rcases hmem with hmem | hmem
      · exact .inl hmem
      · exact .inr (.inr hmem)
    · simpa [knownKinds_cons, hk] using hnd

/-- A handler of a kind seen already is the first repeat. -/
theorem firstRepeat_cons_seen (hk : kindOf h ≠ .unknown) (hseen : kindOf h ∈ seen)
    (hnd : seen.Nodup) : FirstRepeat kindOf seen (h :: rest) t ↔ t = kindOf h := by
  constructor
  · rintro ⟨_ | ⟨x, pre⟩, h', post, heq, hkt, -, -, hnd'⟩
    · obtain ⟨rfl, -⟩ := List.cons.inj heq
      exact hkt.symm
    · -- a later repeat would need the kinds before it, `h`'s among them, to be distinct
      obtain ⟨rfl, -⟩ := List.cons.inj heq
      rw [knownKinds_cons, if_neg hk, List.nodup_append] at hnd'
      exact absurd rfl (hnd'.2.2 _ hseen _ List.mem_cons_self)
  · rintro rfl
    exact ⟨[], h, rest, rfl, rfl, hk, by simpa using hseen, by simpa using hnd⟩

/-- A handler of a kind not seen yet is no repeat, and its kind counts as seen from then on. -/
theorem firstRepeat_cons_fresh (hk : kindOf h ≠ .unknown) (hfresh : kindOf h ∉ seen) :
    FirstRepeat kindOf seen (h :: rest) t ↔ FirstRepeat kindOf (kindOf h :: seen) rest t := by
  constructor
  · rintro ⟨_ | ⟨x, pre⟩, h', post, heq, hkt, ht, hmem, hnd⟩
    · obtain ⟨rfl, -⟩ := List.cons.inj heq
      subst hkt
      exact absurd (by simpa using hmem) hfresh
    · obtain ⟨rfl, rfl⟩ := List.cons.inj heq
      refine ⟨pre, h', post, rfl, hkt, ht, ?_, ?_⟩
      · simpa [or_left_comm] using hmem
      · rw [knownKinds_cons, if_neg hk] at hnd
        exact List.perm_middle.nodup_iff.1 hnd
  · rintro ⟨pre, h', post, rfl, hkt, ht, hmem, hnd⟩
    refine ⟨h :: pre, h', post, rfl, hkt, ht, ?_, ?_⟩
    · simpa [or_left_comm] using hmem
    · rw [knownKinds_cons, if_neg hk]
      exact List.perm_middle.nodup_iff.2 hnd

/-! ### The registration loop -/

variable {acc : List H} {unknown : H}

/-- A list that repeats no kind, after handlers of distinct kinds, is registered whole: its
handlers of declared kinds go on top, and the last handler of the unknown kind is the fallback. -/
theorem register_eq_ok :
    ∀ {hs : List H} {acc : List H} {unknown : H},
      (acc.map kindOf ++ knownKinds kindOf hs).Nodup →
      register kindOf acc unknown hs =
        .ok ((hs.filter (kindOf · ≠ .unknown)).reverse ++ acc, lastUnknown kindOf unknown hs)
  | [], _, _, _ => rfl
  | h :: rest, acc, unknown, hnd => by
    by_cases hk : kindOf h = .unknown
    · rw [knownKinds_cons, if_pos hk] at hnd
      rw [register, if_pos hk, register_eq_ok hnd, lastUnknown_cons_unknown hk]
      simp [hk]
    · rw [knownKinds_cons, if_neg hk] at hnd
      -- `h`'s kind is new: nothing registered has it
      have hnew : acc.any (kindOf · = kindOf h) = false := by
        have := (List.nodup_append.1 hnd).2.2
        simp only [List.mem_map, List.mem_cons] at this
        simpa using fun a ha heq => this _ ⟨a, ha, rfl⟩ _ (.inl rfl) heq
      have hnd' : ((h :: acc).map kindOf ++ knownKinds kindOf rest).Nodup :=
        List.perm_middle.nodup_iff.1 hnd
      rw [register, if_neg hk, hnew, if_neg Bool.false_ne_true, register_eq_ok hnd',
        lastUnknown_cons_known hk]
      simp [hk]

/-- A successful registration repeated no kind. -/
theorem nodup_of_register_eq_ok :
    ∀ {hs : List H} {acc : List H} {unknown : H} {r : List H × H},
      (acc.map kindOf).Nodup → register kindOf acc unknown hs = .ok r →
      (acc.map kindOf ++ knownKinds kindOf hs).Nodup
  | [], _, _, _, hacc, _ => by simpa using hacc
  | h :: rest, acc, unknown, r, hacc, hr => by
    rw [register] at hr
    by_cases hk : kindOf h = .unknown
    · rw [if_pos hk] at hr
      rw [knownKinds_cons, if_pos hk]
      exact nodup_of_register_eq_ok hacc hr
    · rw [if_neg hk] at hr
      rw [knownKinds_cons, if_neg hk]
      split at hr
      · cases hr
      · next hnew =>
        have hfresh : kindOf h ∉ acc.map kindOf := by simpa using hnew
        have hacc' : ((h :: acc).map kindOf).Nodup := List.nodup_cons.2 ⟨hfresh, hacc⟩
        exact List.perm_middle.nodup_iff.2 (nodup_of_register_eq_ok hacc' hr)

/-- Registration fails only on a repeat, and then on the first one. -/
theorem register_eq_error_iff :
    ∀ {hs : List H} {acc : List H} {unknown : H} {e : RegistryError},
      (acc.map kindOf).Nodup →
      (register kindOf acc unknown hs = .error e ↔
        ∃ t, e = .duplicate t ∧ FirstRepeat kindOf (acc.map kindOf) hs t)
  | [], _, _, e, _ => by
    simp only [register, reduceCtorEq, false_iff, not_exists, not_and]
    rintro t - ⟨pre, h', post, heq, -⟩
    simp at heq
  | h :: rest, acc, unknown, e, hacc => by
    rw [register]
    by_cases hk : kindOf h = .unknown
    · rw [if_pos hk, register_eq_error_iff hacc]
      simp only [firstRepeat_cons_unknown hk]
    · rw [if_neg hk]
      split
      · next hseen =>
        have hseen' : kindOf h ∈ acc.map kindOf := by simpa using hseen
        simp only [firstRepeat_cons_seen hk hseen' hacc, Except.error.injEq]
        constructor
        · rintro rfl
          exact ⟨_, rfl, rfl⟩
        · rintro ⟨t, rfl, rfl⟩
          rfl
      · next hnew =>
        have hfresh : kindOf h ∉ acc.map kindOf := by simpa using hnew
        have hacc' : ((h :: acc).map kindOf).Nodup := List.nodup_cons.2 ⟨hfresh, hacc⟩
        rw [register_eq_error_iff hacc']
        simp only [firstRepeat_cons_fresh hk hfresh, List.map_cons]

/-! ### Lookups in the registered handlers -/

/-- The handler registered for a kind, among the handlers of declared kinds of a list that
repeats no kind. -/
def handlerOf (kindOf : H → TransactionType) (hs : List H) (t : TransactionType) : Option H :=
  (hs.filter (kindOf · ≠ .unknown)).reverse.find? (kindOf · = t)

theorem handlerOf_eq_none_iff {hs : List H} (ht : t ≠ .unknown) :
    handlerOf kindOf hs t = none ↔ t ∉ hs.map kindOf := by
  simp only [handlerOf, List.find?_eq_none, List.mem_reverse, List.mem_filter, List.mem_map,
    decide_eq_true_eq, not_exists, not_and]
  constructor
  · intro hno x hx hxt
    exact hno x ⟨hx, hxt ▸ ht⟩ hxt
  · intro hno x hx hxt
    exact hno x hx.1 hxt

theorem handlerOf_eq_some {hs : List H} {x : H} (hx : handlerOf kindOf hs t = some x) :
    x ∈ hs ∧ kindOf x = t := by
  have hmem := List.mem_of_find?_eq_some hx
  simp only [List.mem_reverse, List.mem_filter] at hmem
  exact ⟨hmem.1, by simpa using List.find?_some hx⟩

/-- Looking a kind up among pairs built over a list of kinds finds the value built for it. -/
theorem lookup_filterMap_pair (f : TransactionType → Option H) :
    ∀ (ks : List TransactionType) (t : TransactionType),
      (ks.filterMap fun k => (f k).map (k, ·)).lookup t = if t ∈ ks then f t else none
  | [], _ => rfl
  | k :: ks, t => by
    by_cases htk : t = k
    · subst htk
      cases hf : f t <;> simp [hf, lookup_filterMap_pair f ks t]
    · have hne : (t == k) = false := by simpa using htk
      cases hf : f k <;> simp [List.lookup_cons, hf, htk, hne, lookup_filterMap_pair f ks t]

theorem map_fst_filterMap_pair (f : TransactionType → Option H) (ks : List TransactionType) :
    (ks.filterMap fun k => (f k).map (k, ·)).map Prod.fst = ks.filter fun k => (f k).isSome := by
  induction ks with
  | nil => rfl
  | cons k ks ih => cases hf : f k <;> simp [hf, ih]

/-! ### The registry of a list -/

theorem unknown_not_mem_all : TransactionType.unknown ∉ TransactionType.all := by decide

theorem ne_unknown_of_mem_all (ht : t ∈ TransactionType.all) : t ≠ .unknown :=
  fun h => unknown_not_mem_all (h ▸ ht)

variable (fallback : H) (hs : List H)

theorem nodup_map_nil : (([] : List H).map kindOf).Nodup := List.nodup_nil

theorem build_of_register_error {e : RegistryError}
    (hr : register kindOf [] fallback hs = .error e) : build kindOf fallback hs = .error e := by
  simp [build, hr, bind, Except.bind]

/-- A list that repeats no kind builds a registry of its handlers, or reports the declared kinds
it leaves without one. -/
theorem build_of_repeatFree (hnd : RepeatFree kindOf hs) :
    build kindOf fallback hs =
      if (TransactionType.all.filter (· ∉ hs.map kindOf)).isEmpty then
        .ok { handlers := TransactionType.all.filterMap fun t => (handlerOf kindOf hs t).map (t, ·),
              unknown := lastUnknown kindOf fallback hs }
      else .error (.missing (TransactionType.all.filter (· ∉ hs.map kindOf))) := by
  have hr : register kindOf [] fallback hs =
      .ok ((hs.filter (kindOf · ≠ .unknown)).reverse ++ [], lastUnknown kindOf fallback hs) :=
    register_eq_ok (by simpa [RepeatFree] using hnd)
  -- the kinds reported missing are those no handler of the list has
  have hmissing : (TransactionType.all.filter fun t => (handlerOf kindOf hs t).isNone) =
      TransactionType.all.filter (· ∉ hs.map kindOf) := by
    refine List.filter_congr fun t ht => ?_
    rw [Bool.eq_iff_iff, Option.isNone_iff_eq_none,
      handlerOf_eq_none_iff (ne_unknown_of_mem_all ht), decide_eq_true_iff]
  simp only [build, hr, List.append_nil, bind, Except.bind, pure, Except.pure]
  change (if (TransactionType.all.filter fun t => (handlerOf kindOf hs t).isNone).isEmpty then _
    else throw (RegistryError.missing
      (TransactionType.all.filter fun t => (handlerOf kindOf hs t).isNone))) = _
  rw [hmissing]
  rfl

/-- Building fails on a repeated kind exactly when registering does: the kinds left without a
handler are looked for only once registration succeeded. -/
theorem build_eq_duplicate_iff_register (t : TransactionType) :
    build kindOf fallback hs = .error (.duplicate t) ↔
      register kindOf [] fallback hs = .error (.duplicate t) := by
  cases hr : register kindOf [] fallback hs with
  | error e =>
    rw [build_of_register_error fallback hs hr]
    simp only [Except.error.injEq]
  | ok p =>
    have hnd : RepeatFree kindOf hs := by
      simpa [RepeatFree] using nodup_of_register_eq_ok nodup_map_nil hr
    rw [build_of_repeatFree fallback hs hnd]
    split <;> simp

theorem build_eq_duplicate_iff (t : TransactionType) :
    build kindOf fallback hs = .error (.duplicate t) ↔ FirstRepeat kindOf [] hs t := by
  rw [build_eq_duplicate_iff_register, register_eq_error_iff nodup_map_nil]
  simp

theorem build_eq_missing_iff (ms : List TransactionType) :
    build kindOf fallback hs = .error (.missing ms) ↔
      RepeatFree kindOf hs ∧ ms = TransactionType.all.filter (· ∉ hs.map kindOf) ∧ ms ≠ [] := by
  by_cases hnd : RepeatFree kindOf hs
  · rw [build_of_repeatFree fallback hs hnd]
    split
    · next hempty =>
      -- nothing is missing, so no list of missing kinds is reported
      simp only [List.isEmpty_iff] at hempty
      constructor
      · intro h
        cases h
      · rintro ⟨-, rfl, hne⟩
        exact absurd hempty hne
    · next hempty =>
      simp only [List.isEmpty_iff] at hempty
      simp only [Except.error.injEq, RegistryError.missing.injEq, hnd, true_and]
      constructor
      · rintro rfl
        exact ⟨rfl, hempty⟩
      · rintro ⟨rfl, -⟩
        rfl
  · -- a list that repeats a kind fails registration, on a duplicate
    cases hr : register kindOf [] fallback hs with
    | ok p => exact absurd (by simpa [RepeatFree] using nodup_of_register_eq_ok nodup_map_nil hr) hnd
    | error e =>
      rw [build_of_register_error fallback hs hr]
      obtain ⟨t, rfl, -⟩ := (register_eq_error_iff nodup_map_nil).1 hr
      simp [hnd]

/-- A list that repeats no kind and leaves none without a handler builds a registry of every
declared kind, in code order, each with a handler of its own kind from the list; the unknown
kind gets the last handler of its kind, or the fallback. -/
theorem build_eq_ok (hnd : RepeatFree kindOf hs)
    (hall : ∀ t ∈ TransactionType.all, t ∈ hs.map kindOf) :
    ∃ r, build kindOf fallback hs = .ok r ∧ r.size = TransactionType.all.length ∧
      r.kinds = TransactionType.all ∧
      (∀ t ∈ TransactionType.all, r.get t ∈ hs ∧ kindOf (r.get t) = t) ∧
      r.get .unknown = lastUnknown kindOf fallback hs := by
  have hempty : TransactionType.all.filter (· ∉ hs.map kindOf) = [] :=
    List.filter_eq_nil_iff.2 fun t ht => by simpa using hall t ht
  have hsome : ∀ t ∈ TransactionType.all, (handlerOf kindOf hs t).isSome := fun t ht => by
    rw [Option.isSome_iff_ne_none, ne_eq, handlerOf_eq_none_iff (ne_unknown_of_mem_all ht)]
    exact fun hno => hno (hall t ht)
  have hkinds : (TransactionType.all.filterMap fun t => (handlerOf kindOf hs t).map (t, ·)).map
      Prod.fst = TransactionType.all := by
    rw [map_fst_filterMap_pair, List.filter_eq_self]
    exact hsome
  refine ⟨_, by rw [build_of_repeatFree fallback hs hnd, hempty]; rfl, ?_, ?_, ?_, ?_⟩
  · rw [size, ← List.length_map Prod.fst, hkinds]
  · exact hkinds
  · intro t ht
    obtain ⟨x, hx⟩ := Option.isSome_iff_exists.1 (hsome t ht)
    simp only [get, lookup_filterMap_pair, if_pos ht, hx, Option.getD_some]
    exact handlerOf_eq_some hx
  · simp [get, lookup_filterMap_pair, unknown_not_mem_all]

/-- **Building the registry.** A list of handlers is refused for the first handler whose kind
(other than the unknown kind) an earlier handler has; otherwise for the declared kinds it leaves
without a handler, in code order, when there are any; otherwise it makes a registry of every
declared kind in code order, each with a handler of its own kind, and the unknown kind gets the
last handler of that kind in the list or the fallback. -/
theorem build_exact (kindOf : H → TransactionType) (fallback : H) (hs : List H) :
    (∀ t, build kindOf fallback hs = .error (.duplicate t) ↔ FirstRepeat kindOf [] hs t) ∧
    (∀ ms, build kindOf fallback hs = .error (.missing ms) ↔
      RepeatFree kindOf hs ∧ ms = TransactionType.all.filter (· ∉ hs.map kindOf) ∧ ms ≠ []) ∧
    (RepeatFree kindOf hs → (∀ t ∈ TransactionType.all, t ∈ hs.map kindOf) →
      ∃ r, build kindOf fallback hs = .ok r ∧ r.size = TransactionType.all.length ∧
        r.kinds = TransactionType.all ∧
        (∀ t ∈ TransactionType.all, r.get t ∈ hs ∧ kindOf (r.get t) = t) ∧
        r.get .unknown = lastUnknown kindOf fallback hs) :=
  ⟨build_eq_duplicate_iff fallback hs, build_eq_missing_iff fallback hs,
    build_eq_ok fallback hs⟩

/-- The built-in handlers make a registry of every declared kind. -/
theorem build_exact_defaultKinds :
    RepeatFree id defaultKinds ∧ (∀ t ∈ TransactionType.all, t ∈ defaultKinds.map id) ∧
      ∃ r, build id .unknown defaultKinds = .ok r ∧ r.size = TransactionType.all.length ∧
        r.kinds = TransactionType.all ∧
        (∀ t ∈ TransactionType.all, r.get t ∈ defaultKinds ∧ id (r.get t) = t) ∧
        r.get .unknown = lastUnknown id TransactionType.unknown defaultKinds := by
  have hnd : RepeatFree id defaultKinds := by
    unfold RepeatFree knownKinds
    decide
  have hall : ∀ t ∈ TransactionType.all, t ∈ defaultKinds.map id := by decide
  exact ⟨hnd, hall, (build_exact id .unknown defaultKinds).2.2 hnd hall⟩

end Registry

end LedgerProjection
