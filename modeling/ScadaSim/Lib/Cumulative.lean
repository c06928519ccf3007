import Mathlib.Algebra.Order.BigOperators.Group.List

/-!
# Scanning cumulated weights

`stop plus p c ws` is the position at which the scan of a list of weights ends: the
first one where the weights, added to `c` one after the other, come to `p`, or the last
one. The sum may round (`stop_eq_iff` is for any `plus`). With exact sums of weights
that are not negative the positions split an interval among them (`stop_eq_iff_share`).
-/

namespace Lib.Cumulative

variable {α : Type}

/-- The weights in front of position `i`, added to `c` from the left. -/
def upTo (plus : α → α → α) (c : α) (ws : List α) (i : Nat) : α := (ws.take i).foldl plus c

section Scan

variable [LinearOrder α] (plus : α → α → α)

def stop (p : α) : α → List α → Nat
  | _, [] => 0
  | _, [_] => 0
  | c, w :: w' :: ws => if p ≤ plus c w then 0 else stop p (plus c w) (w' :: ws) + 1

theorem stop_lt (p c : α) {ws : List α} (hne : ws ≠ []) : stop plus p c ws < ws.length := by
  induction ws generalizing c with
  | nil => exact absurd rfl hne
  | cons w ws ih =>
      cases ws with
      | nil => exact Nat.one_pos
      | cons w' ws =>
          have hrest := ih (plus c w) (List.cons_ne_nil w' ws)
          unfold stop
          split
          · exact Nat.succ_pos _
          · exact Nat.succ_lt_succ hrest

/-- The scan ends at `i` when it passes everything in front of `i`, and `i` itself is
reached or has nothing behind it. -/
theorem stop_eq_iff (p c : α) {ws : List α} {i : Nat} (hi : i < ws.length) :
    stop plus p c ws = i ↔
      (∀ j < i, upTo plus c ws (j + 1) < p) ∧
        (i + 1 < ws.length → p ≤ upTo plus c ws (i + 1)) := by
  induction ws generalizing c i with
  | nil => cases hi
  | cons w ws ih =>
      cases ws with
      | nil =>
          have hi0 : i = 0 := by simpa using hi
          subst hi0
          simp [stop]
      | cons w' ws =>
          have hfirst : upTo plus c (w :: w' :: ws) (0 + 1) = plus c w := rfl
          unfold stop
          by_cases hstop : p ≤ plus c w
          · rw [if_pos hstop]
            cases i with
            | zero => simp [hfirst, hstop]
            | succ i =>
                refine iff_of_false (by omega) fun h => ?_
                have hpassed := h.1 0 (Nat.succ_pos i)
                rw [hfirst] at hpassed
                exact absurd hstop (not_le.mpr hpassed)
          · rw [if_neg hstop]
            cases i with
            | zero =>
                refine iff_of_false (Nat.succ_ne_zero _) fun h => hstop ?_
                rw [← hfirst]
                exact h.2 (by simp)
            | succ i =>
                have hshift (k : Nat) : upTo plus c (w :: w' :: ws) (k + 1) =
                    upTo plus (plus c w) (w' :: ws) k := rfl
                have hi' : i < (w' :: ws).length := Nat.lt_of_succ_lt_succ hi
                rw [Nat.succ_inj, ih (plus c w) hi', Nat.forall_lt_succ_left', hfirst]
                have hlen : i + 1 + 1 < (w :: w' :: ws).length ↔ i + 1 < (w' :: ws).length := by
                  simp
                rw [hlen]
                simp only [hshift, not_le.mp hstop, true_and]

end Scan

/-! ## Exact sums -/

section Exact

variable [AddMonoid α]

/-- The weights in front of position `i`. -/
def below (ws : List α) (i : Nat) : α := (ws.take i).sum

@[simp] theorem below_zero (ws : List α) : below ws 0 = 0 := rfl

theorem below_succ (ws : List α) {i : Nat} (hi : i < ws.length) :
    below ws (i + 1) = below ws i + ws[i] := by
  unfold below
  rw [List.take_succ_eq_append_getElem hi, List.sum_append, List.sum_singleton]

theorem below_length (ws : List α) : below ws ws.length = ws.sum := by
  unfold below
  rw [List.take_length]

theorem upTo_exact (ws : List α) (i : Nat) : upTo (· + ·) 0 ws i = below ws i :=
  (List.sum_eq_foldl ..).symm

variable [LinearOrder α]

/-- Without negative weights the sums grow. -/
theorem below_mono [AddLeftMono α] {ws : List α} (hw : ∀ w ∈ ws, 0 ≤ w) :
    Monotone (below ws) := by
  refine monotone_nat_of_le_succ fun i => ?_
  by_cases hi : i < ws.length
  · rw [below_succ ws hi]
    exact le_add_of_nonneg_right (hw _ (List.getElem_mem hi))
  · unfold below
    rw [List.take_of_length_le (by omega), List.take_of_length_le (by omega)]

/-- Each position has the thresholds between the sum in front of it and its own. -/
theorem stop_eq_iff_share [AddLeftMono α] {ws : List α} (hw : ∀ w ∈ ws, 0 ≤ w) {p : α}
    (hp : 0 < p) (hsum : p ≤ ws.sum) {i : Nat} (hi : i < ws.length) :
    stop (· + ·) p 0 ws = i ↔ below ws i < p ∧ p ≤ below ws (i + 1) := by
  have hmono := below_mono hw
  simp only [stop_eq_iff (· + ·) p 0 hi, upTo_exact]
  constructor
  · rintro ⟨hpass, hown⟩
    constructor
    · cases i with
      | zero => exact hp
      | succ i => exact hpass i (Nat.lt_succ_self i)
    · by_cases hlast : i + 1 < ws.length
      · exact hown hlast
      · rw [show i + 1 = ws.length by omega, below_length]
        exact hsum
  · rintro ⟨hfront, hown⟩
    exact ⟨fun j hj => (hmono (Nat.succ_le_of_lt hj)).trans_lt hfront, fun _ => hown⟩

end Exact

end Lib.Cumulative
