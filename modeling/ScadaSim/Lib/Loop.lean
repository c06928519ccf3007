import Mathlib.Data.List.Basic

/-!
# Loops that may not end

A loop is given by its `turn`: from a state it goes on to the next one or leaves
with a result. `run` gives it a number of turns. Three rules cover what is said
about loops here:

* `run_post` : an invariant, for what a loop that leaves has computed;
* `run_total` : a variant, for a loop that leaves;
* `run_endless` : an invariant under which no turn leaves, for a loop that never does.

The second part is the walk of an iterator along a list, up to the first element
with a property.
-/

namespace Lib.Loop

variable {σ ρ : Type} {turn : σ → σ ⊕ ρ}

/-- The result after at most `n` turns. -/
def run (turn : σ → σ ⊕ ρ) : Nat → σ → Option ρ
  | 0, _ => none
  | n + 1, s =>
      match turn s with
      | .inl t => run turn n t
      | .inr r => some r

theorem run_next {s t : σ} (h : turn s = .inl t) (n : Nat) :
    run turn (n + 1) s = run turn n t := by
  simp only [run, h]

theorem run_done {s : σ} {r : ρ} (h : turn s = .inr r) (n : Nat) :
    run turn (n + 1) s = some r := by
  simp only [run, h]

/-- Partial correctness: an invariant holds up to the turn that leaves. -/
theorem run_post {I : σ → Prop} {Q : ρ → Prop} (hnext : ∀ s t, I s → turn s = .inl t → I t)
    (hdone : ∀ s r, I s → turn s = .inr r → Q r) {n : Nat} {s : σ} {r : ρ} (hs : I s)
    (h : run turn n s = some r) : Q r := by
  induction n generalizing s with
  | zero => cases h
  | succ n ih =>
      cases hturn : turn s with
      | inl t => exact ih (hnext s t hs hturn) ((run_next hturn n).symm.trans h)
      | inr r' =>
          have heq : r' = r := Option.some.inj ((run_done hturn n).symm.trans h)
          exact heq ▸ hdone s r' hs hturn

/-- Termination: every turn that goes on makes the variant smaller. -/
theorem run_total {variant : σ → Nat}
    (hless : ∀ s t, turn s = .inl t → variant t < variant s) (s : σ) :
    ∃ n r, run turn n s = some r := by
  induction hv : variant s using Nat.strongRecOn generalizing s with
  | ind v ih =>
      cases hturn : turn s with
      | inl t =>
          obtain ⟨n, r, hrun⟩ := ih (variant t) (hv ▸ hless s t hturn) t rfl
          exact ⟨n + 1, r, (run_next hturn n).trans hrun⟩
      | inr r => exact ⟨1, r, run_done hturn 0⟩

/-- Divergence: where every state of an invariant goes on within it, no number of
turns is enough. -/
theorem run_endless {I : σ → Prop} (hI : ∀ s, I s → ∃ t, turn s = .inl t ∧ I t) {s : σ}
    (hs : I s) (n : Nat) : run turn n s = none := by
  induction n generalizing s with
  | zero => rfl
  | succ n ih =>
      obtain ⟨t, hturn, ht⟩ := hI s hs
      rw [run_next hturn]
      exact ih ht

/-! ## Walking along a list -/

section Walk

variable {α : Type} (l : List α) (p : α → Bool)

/-- The turn of an iterator that stops at the end or at an element with `p`. -/
def walk (i : Nat) : Nat ⊕ Nat :=
  match l[i]? with
  | none => .inr i
  | some x => if p x then .inr i else .inl (i + 1)

variable {l p}

theorem walk_next {i j : Nat} (h : walk l p i = .inl j) :
    j = i + 1 ∧ ∃ hi : i < l.length, p l[i] = false := by
  unfold walk at h
  cases hx : l[i]? with
  | none => simp [hx] at h
  | some x =>
      obtain ⟨hi, hget⟩ := List.getElem?_eq_some_iff.mp hx
      by_cases hp : p x
      · simp [hx, hp] at h
      · simp only [hx, hp] at h
        refine ⟨(Sum.inl.inj h).symm, hi, ?_⟩
        rw [hget]
        simpa using hp

theorem walk_done {i j : Nat} (h : walk l p i = .inr j) :
    j = i ∧ ∀ hi : i < l.length, p l[i] = true := by
  unfold walk at h
  cases hx : l[i]? with
  | none =>
      simp only [hx] at h
      refine ⟨(Sum.inr.inj h).symm, ?_⟩
      intro hi
      rw [List.getElem?_eq_getElem hi] at hx
      cases hx
  | some x =>
      obtain ⟨hi, hget⟩ := List.getElem?_eq_some_iff.mp hx
      by_cases hp : p x
      · simp only [hx, hp] at h
        refine ⟨(Sum.inr.inj h).symm, ?_⟩
        intro _
        rw [hget]
        exact hp
      · simp [hx, hp] at h

/-- The walk stops at the first element with `p`, or at the end. -/
theorem walk_run {n j : Nat} (h : run (walk l p) n 0 = some j) : j = l.findIdx p := by
  refine run_post (I := fun i => i ≤ l.findIdx p) (Q := fun j => j = l.findIdx p) ?_ ?_
    (Nat.zero_le _) h
  · intro i t hi hturn
    obtain ⟨rfl, hlt, hp⟩ := walk_next hturn
    refine Nat.lt_of_le_of_ne hi ?_
    rintro rfl
    have htrue : p l[l.findIdx p] = true := List.findIdx_getElem
    exact Bool.noConfusion (hp.symm.trans htrue)
  · intro i r hi hturn
    obtain ⟨rfl, hp⟩ := walk_done hturn
    refine Nat.le_antisymm hi ?_
    by_cases hlt : r < l.length
    · by_contra hcon
      have hfalse : p l[r] = false := List.not_of_lt_findIdx (Nat.lt_of_not_le hcon)
      exact Bool.noConfusion (hfalse.symm.trans (hp hlt))
    · exact Nat.le_trans List.findIdx_le_length (Nat.le_of_not_lt hlt)

theorem walk_total : ∃ n, run (walk l p) n 0 = some (l.findIdx p) := by
  have hless : ∀ i j, walk l p i = .inl j → l.length - j < l.length - i := by
    intro i j hturn
    obtain ⟨rfl, hi, -⟩ := walk_next hturn
    omega
  obtain ⟨n, j, hrun⟩ := run_total hless 0
  exact ⟨n, walk_run hrun ▸ hrun⟩

end Walk

end Lib.Loop
