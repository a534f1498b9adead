import Mathlib.Data.String.Basic
import LedgerProjection.Entity.Json

/-!
# The text form of ids

An id is written `shard.realm.num` (`EntityId.text`), each part as an integer is printed, and read
by `EntityId.parse`, which splits the text at its dots and reads each part as a signed 64-bit
integer (`IntText.parseI64`).

`IntText.Denotes p n` says what the integer reader accepts, without running it: an optional sign,
then one or more decimal digits, whose value with the sign is a 64-bit integer `n`. The reader
accepts exactly those texts, with their value (`IntText.parseI64_eq_ok_iff`), and the printed form
of every 64-bit integer is one (`IntText.denotes_toString`). Splitting a text at a character is
splitting its characters (`String.splitOn_singleton`), so a text reads as an id exactly when it is
one such part, read as `0.0.num`, or three of them joined by dots (`EntityId.parse_eq_ok_iff`).

Main statement: `EntityId.text_roundTrips`. The text of every id with 64-bit parts reads back as
the id, also from its JSON form; the texts that read are exactly those just described; and the
text of every id read reads back as that id.
-/

/-! ### Splitting at one character -/

namespace String

/-- `splitOnAux` at a one-character separator, from a point `l` where the current part `m`
started: the parts already split off, then the character split of the rest with `m` in front. -/
theorem splitOnAux_singleton (d : Char) (l m r : List Char) (acc : List String) :
    splitOnAux (ofList (l ++ m ++ r)) (String.singleton d) ⟨utf8Len l⟩
        ⟨utf8Len l + utf8Len m⟩ 0 acc =
      acc.reverse ++ (List.splitOnPPrepend (· == d) r m.reverse).map ofList := by
  unfold splitOnAux
  simp only [List.append_assoc, atEnd_iff, rawEndPos_ofList, utf8Len_append, Pos.Raw.mk_le_mk,
    Nat.add_le_add_iff_left, (by omega : utf8Len m + utf8Len r ≤ utf8Len m ↔ utf8Len r = 0),
    utf8Len_eq_zero, List.reverse_cons]
  split
  · subst r
    simpa using extract_of_valid l m []
  · obtain ⟨c, r, rfl⟩ := r.exists_cons_of_ne_nil ‹_›
    have hs : ofList (l ++ (m ++ c :: r)) = ofList (l ++ m ++ c :: r) := by simp
    have hget : Pos.Raw.get (ofList (l ++ m ++ c :: r)) ⟨utf8Len l + utf8Len m⟩ = c := by
      simpa using get_of_valid (l ++ m) (c :: r)
    have hsep : Pos.Raw.get (String.singleton d) 0 = d := by
      simpa using get_of_valid [] [d]
    have hnextsep : Pos.Raw.next (String.singleton d) 0 = ⟨d.utf8Size⟩ := by
      simpa using next_of_valid [] d []
    have hend : (String.singleton d).rawEndPos = ⟨d.utf8Size⟩ := by
      rw [String.singleton_eq_ofList, rawEndPos_ofList, utf8Len_cons, utf8Len_nil, Nat.zero_add]
    have hnext : Pos.Raw.next (ofList (l ++ m ++ c :: r)) ⟨utf8Len l + utf8Len m⟩ =
        ⟨utf8Len l + utf8Len m + c.utf8Size⟩ := by
      simpa using next_of_valid (l ++ m) c r
    have hextract : Pos.Raw.extract (ofList (l ++ m ++ c :: r)) ⟨utf8Len l⟩
        ⟨utf8Len l + utf8Len m⟩ = ofList m :=
      extract_of_valid l m (c :: r)
    rw [hs, hget, hsep, hnextsep, hend, hnext]
    by_cases hc : c = d
    · -- the separator closes the current part; the next one starts right after it
      subst hc
      have hun : (⟨utf8Len l + utf8Len m + c.utf8Size⟩ : Pos.Raw).unoffsetBy ⟨c.utf8Size⟩ =
          ⟨utf8Len l + utf8Len m⟩ := by
        simp [Pos.Raw.unoffsetBy]
      simp only [beq_self_eq_true, ite_true, Pos.Raw.le_iff, Nat.le_refl, hun, hextract]
      have h := splitOnAux_singleton c (l ++ m ++ [c]) [] r (ofList m :: acc)
      simp only [List.append_assoc, List.cons_append, List.nil_append, utf8Len_append,
        utf8Len_cons, utf8Len_nil, Nat.zero_add, Nat.add_zero, List.reverse_nil,
        List.reverse_cons] at h
      rw [List.splitOnPPrepend_cons_pos (by simp), List.reverse_reverse]
      simpa [Nat.add_assoc] using h
    · -- any other character extends the current part
      have hcd : (c == d) = false := by simpa using hc
      simp only [hcd, Bool.false_eq_true, ite_false]
      have h := splitOnAux_singleton d l (m ++ [c]) r acc
      simp only [List.append_assoc, List.cons_append, List.nil_append, utf8Len_append,
        utf8Len_cons, utf8Len_nil, Nat.zero_add, List.reverse_append, List.reverse_cons,
        List.reverse_nil] at h
      have hun : (⟨utf8Len l + utf8Len m⟩ : Pos.Raw).unoffsetBy 0 = ⟨utf8Len l + utf8Len m⟩ := by
        simp [Pos.Raw.unoffsetBy]
      rw [hun, hnext, List.splitOnPPrepend_cons_neg (p := fun x => x == d) hcd, ← hs,
        Nat.add_assoc]
      exact h
termination_by r.length

/-- Splitting a text at a character splits its characters there. -/
theorem splitOn_singleton (s : String) (d : Char) :
    s.splitOn (String.singleton d) = (s.toList.splitOn d).map ofList := by
  have h := splitOnAux_singleton d [] [] s.toList []
  simp only [List.nil_append, ofList_toList, utf8Len_nil, Nat.add_zero, List.reverse_nil,
    List.splitOnPPrepend_nil_right] at h
  rw [splitOn, if_neg (by simp [← String.toList_inj])]
  exact h

end String

namespace LedgerProjection

/-! ### Integer text -/

namespace IntText

/-- `p` is a text of the signed 64-bit integer `n`: an optional sign, then one or more decimal
digits whose value, with the sign, is `n`. -/
def Denotes (p : String) (n : Int) : Prop :=
  I64.InRange n ∧ ∃ ds : List Char, ds ≠ [] ∧ (∀ c ∈ ds, c.isDigit) ∧
    (p.toList = ds ∧ n = Nat.ofDigitChars 10 ds 0 ∨
      p.toList = '+' :: ds ∧ n = Nat.ofDigitChars 10 ds 0 ∨
      p.toList = '-' :: ds ∧ n = -(Nat.ofDigitChars 10 ds 0 : Int))

theorem le_ofDigitChars (acc : Nat) (ds : List Char) : acc ≤ Nat.ofDigitChars 10 ds acc := by
  induction ds generalizing acc with
  | nil => simp
  | cons c rest ih =>
    rw [Nat.ofDigitChars_cons]
    exact Nat.le_trans (by omega) (ih _)

/-- Reading digits succeeds exactly on digits whose value stays within the bound, and gives
their value. -/
theorem digitsUpTo_eq_ok_iff (bound : Nat) (tooBig : IntTextFault) :
    ∀ (acc : Nat) (ds : List Char) (v : Nat),
      digitsUpTo bound tooBig acc ds = .ok v ↔
        (∀ c ∈ ds, c.isDigit) ∧ v = Nat.ofDigitChars 10 ds acc ∧ (ds ≠ [] → v ≤ bound)
  | acc, [], v => by
    rw [digitsUpTo, Except.ok.injEq, Nat.ofDigitChars_nil]
    constructor
    · rintro rfl
      simp
    · rintro ⟨-, rfl, -⟩
      rfl
  | acc, c :: rest, v => by
    rw [digitsUpTo]
    by_cases hc : c.isDigit
    · rw [if_pos hc, Nat.ofDigitChars_cons, Nat.mul_comm 10 acc]
      by_cases hb : acc * 10 + (c.toNat - '0'.toNat) ≤ bound
      · rw [if_pos hb, digitsUpTo_eq_ok_iff bound tooBig _ rest v]
        -- the last value read is the greatest, so it alone has to stay within the bound
        simp only [List.mem_cons, forall_eq_or_imp, hc, true_and, ne_eq, reduceCtorEq,
          not_false_eq_true, forall_const]
        constructor
        · rintro ⟨hd, rfl, hv⟩
          refine ⟨hd, rfl, ?_⟩
          by_cases hr : rest = []
          · subst hr
            simpa using hb
          · exact hv hr
        · rintro ⟨hd, rfl, hv⟩
          exact ⟨hd, rfl, fun _ => hv⟩
      · rw [if_neg hb]
        simp only [reduceCtorEq, false_iff, not_and]
        intro _ hv hle
        exact hb (Nat.le_trans (le_ofDigitChars _ rest) (hv ▸ hle (by simp)))
    · rw [if_neg hc]
      simp [hc]

/-- A text that `Denotes` anything holds no dot. -/
theorem Denotes.dot_not_mem {p : String} {n : Int} (h : Denotes p n) : '.' ∉ p.toList := by
  obtain ⟨-, ds, -, hd, hp⟩ := h
  have hdot : '.' ∉ ds := fun hm => by simpa using hd _ hm
  rcases hp with ⟨hp, -⟩ | ⟨hp, -⟩ | ⟨hp, -⟩ <;> simp [hp, hdot]

theorem Denotes.inRange {p : String} {n : Int} (h : Denotes p n) : I64.InRange n := h.1

/-! The three shapes of an integer text, by its first character. -/

theorem denotes_iff_of_minus {p : String} {n : Int} {ds : List Char}
    (hp : p.toList = '-' :: ds) :
    Denotes p n ↔ I64.InRange n ∧ ds ≠ [] ∧ (∀ c ∈ ds, c.isDigit) ∧
      n = -(Nat.ofDigitChars 10 ds 0 : Int) := by
  constructor
  · rintro ⟨hr, ds', hne, hd, ⟨hp', -⟩ | ⟨hp', -⟩ | ⟨hp', hn⟩⟩
    · -- a minus sign is no digit
      have := hd '-' (by simp [← hp', hp])
      simp at this
    · simp [hp] at hp'
    · obtain rfl : ds' = ds := by simpa [hp] using hp'.symm
      exact ⟨hr, hne, hd, hn⟩
  · rintro ⟨hr, hne, hd, hn⟩
    exact ⟨hr, ds, hne, hd, .inr (.inr ⟨hp, hn⟩)⟩

theorem denotes_iff_of_plus {p : String} {n : Int} {ds : List Char}
    (hp : p.toList = '+' :: ds) :
    Denotes p n ↔ I64.InRange n ∧ ds ≠ [] ∧ (∀ c ∈ ds, c.isDigit) ∧
      n = (Nat.ofDigitChars 10 ds 0 : Int) := by
  constructor
  · rintro ⟨hr, ds', hne, hd, ⟨hp', -⟩ | ⟨hp', hn⟩ | ⟨hp', -⟩⟩
    · have := hd '+' (by simp [← hp', hp])
      simp at this
    · obtain rfl : ds' = ds := by simpa [hp] using hp'.symm
      exact ⟨hr, hne, hd, hn⟩
    · simp [hp] at hp'
  · rintro ⟨hr, hne, hd, hn⟩
    exact ⟨hr, ds, hne, hd, .inr (.inl ⟨hp, hn⟩)⟩

theorem denotes_iff_of_unsigned {p : String} {n : Int}
    (hminus : ∀ ds, p.toList = '-' :: ds → False) (hplus : ∀ ds, p.toList = '+' :: ds → False) :
    Denotes p n ↔ I64.InRange n ∧ p.toList ≠ [] ∧ (∀ c ∈ p.toList, c.isDigit) ∧
      n = (Nat.ofDigitChars 10 p.toList 0 : Int) := by
  constructor
  · rintro ⟨hr, ds, hne, hd, ⟨rfl, hn⟩ | ⟨hp, -⟩ | ⟨hp, -⟩⟩
    · exact ⟨hr, hne, hd, hn⟩
    · exact (hplus _ hp).elim
    · exact (hminus _ hp).elim
  · rintro ⟨hr, hne, hd, hn⟩
    exact ⟨hr, p.toList, hne, hd, .inl ⟨rfl, hn⟩⟩

/-- A magnitude read and then signed. -/
theorem map_read_eq_ok_iff {x : Except IntTextFault Nat} {f : Int → Int} {n : Int} :
    Except.map f (do let a ← x; pure (a : Int)) = .ok n ↔ ∃ v, x = .ok v ∧ f v = n := by
  cases x <;> simp [Except.map, bind, Except.bind, pure, Except.pure]

/-- The reader accepts exactly the texts of 64-bit integers, with their value. -/
theorem parseI64_eq_ok_iff (p : String) (n : Int) : parseI64 p = .ok n ↔ Denotes p n := by
  unfold parseI64
  split
  -- no text, or a sign alone
  next hp =>
    refine iff_of_false (by simp) fun h => ?_
    have := (denotes_iff_of_unsigned (p := p) (n := n) (by simp [hp]) (by simp [hp])).1 h
    exact this.2.1 hp
  next hp => exact iff_of_false (by simp) fun h => ((denotes_iff_of_plus hp).1 h).2.1 rfl
  next hp => exact iff_of_false (by simp) fun h => ((denotes_iff_of_minus hp).1 h).2.1 rfl
  -- a sign, then the digits of a magnitude up to `2 ^ 63` below zero or `2 ^ 63 - 1` above
  next ds hne hp =>
    rw [map_read_eq_ok_iff, denotes_iff_of_minus hp]
    simp only [digitsUpTo_eq_ok_iff, I64.InRange, I64.lo, I64.hi]
    constructor
    · rintro ⟨v, ⟨hd, rfl, hv⟩, rfl⟩
      have := hv hne
      exact ⟨⟨by omega, by omega⟩, hne, hd, rfl⟩
    · rintro ⟨⟨hlo, -⟩, hne, hd, rfl⟩
      exact ⟨_, ⟨hd, rfl, fun _ => by omega⟩, rfl⟩
  next ds hne hp =>
    rw [map_read_eq_ok_iff, denotes_iff_of_plus hp]
    simp only [digitsUpTo_eq_ok_iff, I64.InRange, I64.lo, I64.hi]
    constructor
    · rintro ⟨v, ⟨hd, rfl, hv⟩, rfl⟩
      have := hv hne
      exact ⟨⟨by omega, by omega⟩, hne, hd, rfl⟩
    · rintro ⟨⟨-, hhi⟩, hne, hd, rfl⟩
      exact ⟨_, ⟨hd, rfl, fun _ => by omega⟩, rfl⟩
  -- digits alone
  next hnil _ _ hminus hplus =>
    rw [map_read_eq_ok_iff, denotes_iff_of_unsigned hminus hplus]
    simp only [digitsUpTo_eq_ok_iff, I64.InRange, I64.lo, I64.hi]
    constructor
    · rintro ⟨v, ⟨hd, rfl, hv⟩, rfl⟩
      have := hv hnil
      exact ⟨⟨by omega, by omega⟩, hnil, hd, rfl⟩
    · rintro ⟨⟨-, hhi⟩, hne, hd, rfl⟩
      exact ⟨_, ⟨hd, rfl, fun _ => by omega⟩, rfl⟩

/-- Every 64-bit integer is printed as a text of it. -/
theorem denotes_toString {n : Int} (h : I64.InRange n) : Denotes (toString n) n := by
  refine ⟨h, ?_⟩
  cases n with
  | ofNat m =>
    refine ⟨Nat.toDigits 10 m, Nat.toDigits_ne_nil, fun c hc =>
      Nat.isDigit_of_mem_toDigits (by decide) (by decide) hc, .inl ⟨?_, ?_⟩⟩
    · show (Nat.repr m).toList = _
      simp
    · simp
  | negSucc m =>
    refine ⟨Nat.toDigits 10 (m + 1), Nat.toDigits_ne_nil, fun c hc =>
      Nat.isDigit_of_mem_toDigits (by decide) (by decide) hc, .inr (.inr ⟨?_, ?_⟩)⟩
    · show ("-" ++ Nat.repr (m + 1)).toList = _
      simp
    · simp [Int.negSucc_eq]

end IntText

/-! ### Id text -/

namespace EntityId

theorem splitOn_dot (s : String) : s.splitOn "." = (s.toList.splitOn '.').map String.ofList :=
  String.splitOn_singleton s '.'

theorem parse_of_split_one {s : String} {a : List Char} {id : EntityId}
    (h : s.toList.splitOn '.' = [a]) :
    parse s = .ok id ↔ ∃ n, IntText.parseI64 (String.ofList a) = .ok n ∧ id = ofNum n := by
  unfold parse
  rw [splitOn_dot, h]
  simp only [List.map_cons, List.map_nil]
  cases hp : IntText.parseI64 (String.ofList a) <;> simp [Except.map, eq_comm]

theorem parse_of_split_three {s : String} {a b c : List Char} {id : EntityId}
    (h : s.toList.splitOn '.' = [a, b, c]) :
    parse s = .ok id ↔ IntText.parseI64 (String.ofList a) = .ok id.shard ∧
      IntText.parseI64 (String.ofList b) = .ok id.realm ∧
      IntText.parseI64 (String.ofList c) = .ok id.num := by
  unfold parse
  rw [splitOn_dot, h]
  simp only [List.map_cons, List.map_nil]
  cases ha : IntText.parseI64 (String.ofList a) <;>
    cases hb : IntText.parseI64 (String.ofList b) <;>
    cases hc : IntText.parseI64 (String.ofList c) <;>
    simp [bind, Except.bind, pure, Except.pure]
  -- all three parts read: the id is made of them
  constructor
  · rintro rfl
    exact ⟨rfl, rfl, rfl⟩
  · rintro ⟨rfl, rfl, rfl⟩
    rfl

theorem parse_of_split_other {s : String} {id : EntityId}
    (h1 : (s.toList.splitOn '.').length ≠ 1) (h3 : (s.toList.splitOn '.').length ≠ 3) :
    parse s ≠ .ok id := by
  unfold parse
  rw [splitOn_dot]
  rcases hL : s.toList.splitOn '.' with _ | ⟨a, _ | ⟨b, _ | ⟨c, _ | ⟨d, rest⟩⟩⟩⟩ <;>
    simp_all

/-- The characters of three parts joined by dots. -/
theorem toList_dotted (a b c : String) :
    (a ++ "." ++ b ++ "." ++ c).toList = ['.'].intercalate [a.toList, b.toList, c.toList] := by
  simp [String.toList_append, List.intercalate]

/-- A text reads as an id exactly when it is the text of one 64-bit integer, read as `0.0.num`,
or the texts of three joined by dots. -/
theorem parse_eq_ok_iff (s : String) (id : EntityId) :
    parse s = .ok id ↔
      (∃ n, IntText.Denotes s n ∧ id = ofNum n) ∨
      ∃ a b c : String, s = a ++ "." ++ b ++ "." ++ c ∧ IntText.Denotes a id.shard ∧
        IntText.Denotes b id.realm ∧ IntText.Denotes c id.num := by
  constructor
  · intro h
    -- the text is its parts joined by dots again
    have hjoin := @List.intercalate_splitOn _ s.toList _ _ '.'
    rcases hL : s.toList.splitOn '.' with _ | ⟨a, _ | ⟨b, _ | ⟨c, _ | ⟨d, rest⟩⟩⟩⟩
    · exact absurd h (parse_of_split_other (by simp [hL]) (by simp [hL]))
    · obtain ⟨n, hn, rfl⟩ := (parse_of_split_one hL).1 h
      rw [hL, List.intercalate_singleton] at hjoin
      have hs : s = String.ofList a := by rw [hjoin, String.ofList_toList]
      subst hs
      exact .inl ⟨n, (IntText.parseI64_eq_ok_iff _ _).1 hn, rfl⟩
    · exact absurd h (parse_of_split_other (by simp [hL]) (by simp [hL]))
    · obtain ⟨ha, hb, hc⟩ := (parse_of_split_three hL).1 h
      rw [hL] at hjoin
      refine .inr ⟨String.ofList a, String.ofList b, String.ofList c, ?_,
        (IntText.parseI64_eq_ok_iff _ _).1 ha, (IntText.parseI64_eq_ok_iff _ _).1 hb,
        (IntText.parseI64_eq_ok_iff _ _).1 hc⟩
      rw [← String.toList_inj, toList_dotted, ← hjoin]
      simp
    · exact absurd h (parse_of_split_other (by simp [hL]) (by simp [hL]))
  · rintro (⟨n, hn, rfl⟩ | ⟨a, b, c, rfl, ha, hb, hc⟩)
    · -- an integer text holds no dot, so it is its only part
      have hL : s.toList.splitOn '.' = [s.toList] := by
        simpa using @List.splitOn_intercalate _ [s.toList] _ _ '.'
          (by simpa using hn.dot_not_mem) (by simp)
      refine (parse_of_split_one hL).2 ⟨n, ?_, rfl⟩
      rw [String.ofList_toList, IntText.parseI64_eq_ok_iff]
      exact hn
    · have hL : (a ++ "." ++ b ++ "." ++ c).toList.splitOn '.' = [a.toList, b.toList, c.toList] := by
        rw [toList_dotted]
        refine List.splitOn_intercalate '.' ?_ (by simp)
        simp [ha.dot_not_mem, hb.dot_not_mem, hc.dot_not_mem]
      refine (parse_of_split_three hL).2 ⟨?_, ?_, ?_⟩ <;>
        rw [String.ofList_toList, IntText.parseI64_eq_ok_iff] <;> assumption

/-- The text of an id with 64-bit parts reads back as the id. -/
theorem parse_text {id : EntityId} (hs : I64.InRange id.shard) (hr : I64.InRange id.realm)
    (hn : I64.InRange id.num) : parse id.text = .ok id :=
  (parse_eq_ok_iff _ _).2 (.inr ⟨_, _, _, rfl, IntText.denotes_toString hs,
    IntText.denotes_toString hr, IntText.denotes_toString hn⟩)

/-- The JSON form of an id with 64-bit parts reads back as the id. -/
theorem decoder_toJson {id : EntityId} (hs : I64.InRange id.shard) (hr : I64.InRange id.realm)
    (hn : I64.InRange id.num) (o : Origin) : decoder o id.toJson = .ok id := by
  simp only [decoder, toJson, Decoder.string, bind, Except.bind, parse_text hs hr hn]
  rfl

/-- The parts of an id read are 64-bit integers. -/
theorem inRange_of_parse {s : String} {id : EntityId} (h : parse s = .ok id) :
    I64.InRange id.shard ∧ I64.InRange id.realm ∧ I64.InRange id.num := by
  rcases (parse_eq_ok_iff s id).1 h with ⟨n, hn, rfl⟩ | ⟨a, b, c, -, ha, hb, hc⟩
  · exact ⟨show I64.InRange 0 by decide, show I64.InRange 0 by decide, hn.inRange⟩
  · exact ⟨ha.inRange, hb.inRange, hc.inRange⟩

end EntityId

/-- Ids and their text: the text of every id with 64-bit parts reads back as it, also from its
JSON form; the integer reader accepts exactly the integer texts; a text reads as an id exactly
when it is one integer text (`0.0.num`) or three joined by dots; and the text of every id read
reads back as it. -/
theorem EntityId.text_roundTrips :
    (∀ id : EntityId, I64.InRange id.shard → I64.InRange id.realm → I64.InRange id.num →
      EntityId.parse id.text = .ok id ∧ ∀ o, EntityId.decoder o id.toJson = .ok id) ∧
    (∀ (p : String) (n : Int), IntText.parseI64 p = .ok n ↔ IntText.Denotes p n) ∧
    (∀ (s : String) (id : EntityId), EntityId.parse s = .ok id ↔
      (∃ n, IntText.Denotes s n ∧ id = EntityId.ofNum n) ∨
      ∃ a b c : String, s = a ++ "." ++ b ++ "." ++ c ∧ IntText.Denotes a id.shard ∧
        IntText.Denotes b id.realm ∧ IntText.Denotes c id.num) ∧
    ∀ (s : String) (id : EntityId), EntityId.parse s = .ok id → EntityId.parse id.text = .ok id :=
  ⟨fun _ hs hr hn => ⟨EntityId.parse_text hs hr hn, EntityId.decoder_toJson hs hr hn⟩,
    IntText.parseI64_eq_ok_iff, EntityId.parse_eq_ok_iff, fun _ _ h =>
      have hr := EntityId.inRange_of_parse h
      EntityId.parse_text hr.1 hr.2.1 hr.2.2⟩

/-- The id with the least shard, the greatest realm and num `-1` reads back from its text. -/
theorem EntityId.text_roundTrips_extremes :
    (I64.InRange (-9223372036854775808) ∧ I64.InRange 9223372036854775807 ∧ I64.InRange (-1)) ∧
      EntityId.parse (⟨-9223372036854775808, 9223372036854775807, -1⟩ : EntityId).text =
        .ok ⟨-9223372036854775808, 9223372036854775807, -1⟩ :=
  ⟨⟨by decide, by decide, by decide⟩,
    (EntityId.text_roundTrips.1 ⟨-9223372036854775808, 9223372036854775807, -1⟩ (by decide)
      (by decide) (by decide)).1⟩

end LedgerProjection
