/-!
# Slices that can fail

Taking a slice past the end of a byte string, copying bytes of another length into a slice,
writing past the end, and subtracting below zero on `usize` all stop the program. The operations
here give `none` there, and the value otherwise. The functions of the model that use them carry
the proof that their guards keep every such operation in range (`Option.get`), so they stay total
and each says, by its own proof, why none of its slices can fail.
-/

namespace LedgerProjection

namespace Slice

variable {α : Type}

/-- `xs[start..]`: the elements from `start` on, when `start` is at most the length. -/
def drop? (xs : List α) (start : Nat) : Option (List α) :=
  if start ≤ xs.length then some (xs.drop start) else none

/-- `xs[start..stop]`: the elements from `start` up to `stop`, when
`start ≤ stop ≤ xs.length`. -/
def range? (xs : List α) (start stop : Nat) : Option (List α) :=
  if start ≤ stop ∧ stop ≤ xs.length then some ((xs.take stop).drop start) else none

/-- `xs[start..stop].copy_from_slice(src)`: `xs` with its elements from `start` up to `stop`
replaced by `src`, when the range is in `xs` and `src` has its length. -/
def copy? (xs : List α) (start stop : Nat) (src : List α) : Option (List α) :=
  if start ≤ stop ∧ stop ≤ xs.length ∧ src.length = stop - start then
    some (xs.take start ++ src ++ xs.drop stop)
  else none

/-- Copying into the part of a string that follows a prefix, as many elements as the rest has
room for, keeps the prefix and what follows the copy. -/
theorem copy?_append (pre src rest : List α) (h : src.length ≤ rest.length) :
    copy? (pre ++ rest) pre.length (pre.length + src.length) src =
      some (pre ++ src ++ rest.drop src.length) := by
  rw [copy?, if_pos ⟨by omega, by simp; omega, by omega⟩, List.take_left, List.drop_append]
  simp

/-- `xs[i] = x`: `xs` with its `i`-th element replaced, when `i` is below the length. -/
def set? (xs : List α) (i : Nat) (x : α) : Option (List α) :=
  if i < xs.length then some (xs.set i x) else none

end Slice

/-- `a - b` on `usize`: the difference, when it is not below zero. -/
def Usize.sub? (a b : Nat) : Option Nat :=
  if b ≤ a then some (a - b) else none

end LedgerProjection
