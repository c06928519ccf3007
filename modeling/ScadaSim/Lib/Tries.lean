import Mathlib.Init

/-!
# The first of several tries

`firstOf f n` is the result of the first of the tries `f 0`, …, `f (n - 1)` that
has one. A loop that tries until it succeeds computes it, from the front.
-/

namespace Lib

variable {α : Type}

def firstOf (f : Nat → Option α) (n : Nat) : Option α := (List.range n).findSome? f

theorem firstOf_succ (f : Nat → Option α) (n : Nat) :
    firstOf f (n + 1) = (f 0).or (firstOf (fun j => f (j + 1)) n) := by
  unfold firstOf
  rw [List.range_succ_eq_map, List.findSome?_cons, List.findSome?_map]
  cases f 0 <;> rfl

theorem firstOf_succ_of_none {f : Nat → Option α} (h : f 0 = none) (n : Nat) :
    firstOf f (n + 1) = firstOf (fun j => f (j + 1)) n := by
  rw [firstOf_succ, h, Option.none_or]

theorem firstOf_succ_of_some {f : Nat → Option α} {a : α} (h : f 0 = some a) (n : Nat) :
    firstOf f (n + 1) = some a := by
  rw [firstOf_succ, h, Option.some_or]

theorem exists_of_firstOf {f : Nat → Option α} {n : Nat} {a : α} (h : firstOf f n = some a) :
    ∃ j < n, f j = some a := by
  obtain ⟨j, hj, hf⟩ := List.exists_of_findSome?_eq_some h
  exact ⟨j, List.mem_range.mp hj, hf⟩

end Lib
