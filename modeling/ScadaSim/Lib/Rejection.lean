import Mathlib.Algebra.BigOperators.Fin
import Mathlib.Data.Fintype.Pi
import Mathlib.Tactic.Ring
import ScadaSim.Lib.Tries

/-!
# Draws until one hits

A loop draws from the finite type `ι`, at most `T` times, until a draw hits: `f i` is what
the draw `i` comes to, if it hits. `ways f T o` counts the sequences of draws with the
outcome `o`, where all sequences are equally likely.

Misses do not favour anything: `ways_some` has each result as often as draws that hit it,
times `spread`, which is the same for all; `ways_none` counts the sequences of misses.
-/

namespace Lib.Rejection

open Finset

variable {ι α : Type}

/-- What a sequence of draws comes to. -/
def outcome (f : ι → Option α) : (T : Nat) → (Fin T → ι) → Option α
  | 0, _ => none
  | T + 1, d => (f (d 0)).or (outcome f T (Fin.tail d))

/-- Tries that come to the same as draws, up to a relation of the results. -/
theorem rel_outcome {β : Type} {R : β → α → Prop} {f : ι → Option α} (T : Nat) {d : Fin T → ι}
    {g : Nat → Option β} (h : ∀ j : Fin T, Option.Rel R (g j) (f (d j))) :
    Option.Rel R (firstOf g T) (outcome f T d) := by
  induction T generalizing g with
  | zero => exact .none
  | succ T ih =>
      have hrest : Option.Rel R (firstOf (fun j => g (j + 1)) T) (outcome f T (Fin.tail d)) :=
        ih fun j => h j.succ
      have hfirst : Option.Rel R (g 0) (f (d 0)) := h 0
      rw [firstOf_succ, outcome]
      cases hg : g 0 with
      | none =>
          rw [hg] at hfirst
          cases hf : f (d 0) with
          | none => exact hrest
          | some a =>
              rw [hf] at hfirst
              cases hfirst
      | some b =>
          rw [hg] at hfirst
          cases hf : f (d 0) with
          | none =>
              rw [hf] at hfirst
              cases hfirst
          | some a =>
              rw [hf] at hfirst
              exact hfirst

theorem firstOf_eq_outcome {f : ι → Option α} (T : Nat) {d : Fin T → ι} {g : Nat → Option α}
    (h : ∀ j : Fin T, g j = f (d j)) : firstOf g T = outcome f T d := by
  have hrel : Option.Rel Eq (firstOf g T) (outcome f T d) := rel_outcome T fun j => by
    rw [h j]
    cases f (d j) with
    | none => exact .none
    | some a => exact .some rfl
  generalize firstOf g T = x at hrel ⊢
  generalize outcome f T d = y at hrel ⊢
  cases hrel with
  | none => rfl
  | some heq => rw [heq]

variable [Fintype ι] [DecidableEq α]

/-- The number of sequences of draws with this outcome. -/
def ways (f : ι → Option α) (T : Nat) (o : Option α) : Nat :=
  (univ.filter fun d : Fin T → ι => outcome f T d = o).card

/-- The number of draws that come to this. -/
def draws (f : ι → Option α) (o : Option α) : Nat := (univ.filter fun i : ι => f i = o).card

/-- The first draw, and those after it. -/
theorem ways_succ (f : ι → Option α) (T : Nat) (o : Option α) :
    ways f (T + 1) o = ∑ i : ι, (univ.filter fun d : Fin T → ι =>
      (f i).or (outcome f T d) = o).card := by
  have hsplit : ∀ p : ι × (Fin T → ι),
      outcome f (T + 1) (Fin.consEquiv (fun _ => ι) p) = (f p.1).or (outcome f T p.2) := by
    intro p
    show (f (Fin.cons (α := fun _ => ι) p.1 p.2 0)).or _ = _
    rw [Fin.cons_zero]
    rfl
  unfold ways
  rw [card_filter, ← (Fin.consEquiv fun _ => ι).sum_comp, Fintype.sum_prod_type]
  refine sum_congr rfl fun i _ => ?_
  rw [card_filter]
  exact sum_congr rfl fun d _ => by rw [hsplit]

theorem ways_succ_some (f : ι → Option α) (T : Nat) (a : α) : ways f (T + 1) (some a) =
    draws f (some a) * Fintype.card ι ^ T + draws f none * ways f T (some a) := by
  have hrow : ∀ i : ι, (univ.filter fun d : Fin T → ι =>
      (f i).or (outcome f T d) = some a).card =
      (if f i = some a then Fintype.card ι ^ T else 0) +
        if f i = none then ways f T (some a) else 0 := by
    intro i
    cases hi : f i with
    | none =>
        rw [if_neg nofun, if_pos rfl, Nat.zero_add]
        rfl
    | some b =>
        rw [if_neg (c := some b = none) nofun, Nat.add_zero]
        by_cases hb : b = a
        · have hall : ∀ d ∈ univ, (some b).or (outcome f T d) = some a :=
            fun _ _ => congrArg some hb
          rw [if_pos (congrArg some hb), filter_true_of_mem hall, card_univ, Fintype.card_fun,
            Fintype.card_fin]
        · have hne : some b ≠ some a := fun h => hb (Option.some.inj h)
          have hno : ∀ d ∈ univ, (some b).or (outcome f T d) ≠ some a := fun _ _ => hne
          rw [if_neg hne, filter_false_of_mem hno, card_empty]
  rw [ways_succ, sum_congr rfl fun i _ => hrow i, sum_add_distrib, ← sum_filter, ← sum_filter,
    sum_const, sum_const, smul_eq_mul, smul_eq_mul]
  rfl

theorem ways_none (f : ι → Option α) (T : Nat) : ways f T none = draws f none ^ T := by
  induction T with
  | zero =>
      have hall : ∀ d ∈ univ, outcome f 0 d = none := fun _ _ => rfl
      rw [ways, filter_true_of_mem hall]
      rfl
  | succ T ih =>
      have hrow : ∀ i : ι, (univ.filter fun d : Fin T → ι =>
          (f i).or (outcome f T d) = none).card =
          if f i = none then ways f T none else 0 := by
        intro i
        cases hi : f i with
        | none =>
            rw [if_pos rfl]
            rfl
        | some b =>
            have hno : ∀ d ∈ univ, (some b).or (outcome f T d) ≠ none := fun _ _ => nofun
            rw [if_neg nofun, filter_false_of_mem hno, card_empty]
      rw [ways_succ, sum_congr rfl fun i _ => hrow i, ← sum_filter, sum_const, smul_eq_mul, ih,
        pow_succ, Nat.mul_comm]
      rfl

/-- How often each draw that hits ends the loop, with `n` draws of which `r` miss. -/
def spread (n r : Nat) : Nat → Nat
  | 0 => 0
  | T + 1 => n ^ T + r * spread n r T

/-- Each result is as likely as it is to be hit. -/
theorem ways_some (f : ι → Option α) (T : Nat) (a : α) :
    ways f T (some a) = draws f (some a) * spread (Fintype.card ι) (draws f none) T := by
  induction T with
  | zero =>
      have hno : ∀ d ∈ univ, outcome f 0 d ≠ some a := fun _ _ => nofun
      rw [ways, filter_false_of_mem hno, card_empty, spread, Nat.mul_zero]
  | succ T ih =>
      rw [ways_succ_some, ih, spread]
      ring

omit [Fintype ι] in
/-- Where the draws are the places of a list. -/
theorem draws_getElem (f : ι → Option α) (l : List ι) (o : Option α) :
    draws (fun i : Fin l.length => f l[i]) o = l.countP fun a => f a = o := by
  unfold draws
  rw [card_filter]
  induction l with
  | nil => rfl
  | cons a rest ih =>
      have hrest : ∑ i : Fin rest.length, (if f (a :: rest)[i.succ] = o then 1 else 0) =
          rest.countP fun a => f a = o := ih
      rw [List.countP_cons, ← hrest, Nat.add_comm]
      simp only [decide_eq_true_eq]
      exact Fin.sum_univ_succ _

end Lib.Rejection
