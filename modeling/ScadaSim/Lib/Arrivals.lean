import Mathlib.Data.List.Perm.Basic
import Mathlib.Order.Lattice

/-!
# Messages in the order of their arrival

Messages are scheduled one after the other, message `i` for the time `time i`. They arrive
in the order of these times, and those of one time as they were scheduled: `Before`.
`place` counts the messages that arrive before a given one. A reader who has only counted
arrivals knows the place of the message that is next, and nothing else about it
(`Pending.place_eq`).
-/

namespace Lib

namespace Arrivals

variable {τ : Type} [LinearOrder τ] {time : Nat → τ} {n i j : Nat} {pending : List Nat}

/-- Message `j` arrives before message `i`. -/
def Before (time : Nat → τ) (j i : Nat) : Prop :=
  time j < time i ∨ (time j = time i ∧ j < i)

instance : DecidableRel (Before time) := fun _ _ => inferInstanceAs (Decidable (_ ∨ _))

theorem Before.asymm (h : Before time j i) : ¬ Before time i j := by
  rintro (hlt | ⟨heq, hlt⟩)
  · rcases h with hlt' | ⟨heq', -⟩
    · exact lt_asymm hlt hlt'
    · exact absurd heq'.symm hlt.ne
  · rcases h with hlt' | ⟨-, hlt'⟩
    · exact absurd heq.symm hlt'.ne
    · exact Nat.lt_asymm hlt hlt'

theorem Before.irrefl : ¬ Before time i i := fun h => h.asymm h

/-- The number of messages, of the first `n`, that arrive before message `i`. -/
def place (time : Nat → τ) (n i : Nat) : Nat := (List.range n).countP fun j => Before time j i

/-- These messages, of the first `n`, have not arrived yet. -/
structure Pending (time : Nat → τ) (n : Nat) (pending : List Nat) : Prop where
  nodup : pending.Nodup
  range : ∀ i ∈ pending, i < n
  before : ∀ j < n, j ∉ pending → ∀ i ∈ pending, Before time j i

/-- Message `i` is the next to arrive. -/
def Next (time : Nat → τ) (pending : List Nat) (i : Nat) : Prop :=
  i ∈ pending ∧ ∀ k ∈ pending, k = i ∨ Before time i k

instance : DecidablePred (Next time pending) := fun _ => inferInstanceAs (Decidable (_ ∧ _))

theorem pending_range : Pending time n (List.range n) where
  nodup := List.nodup_range
  range := fun _ hi => List.mem_range.mp hi
  before := fun _ hj hnot => absurd (List.mem_range.mpr hj) hnot

theorem Pending.erase (h : Pending time n pending) (hnext : Next time pending i) :
    Pending time n (pending.erase i) where
  nodup := h.nodup.erase i
  range := fun j hj => h.range j (List.mem_of_mem_erase hj)
  before := by
    intro j hj hnot k hk
    obtain ⟨hki, hmem⟩ := h.nodup.mem_erase_iff.mp hk
    by_cases hji : j = i
    · subst hji
      exact (hnext.2 k hmem).resolve_left hki
    · have hnot' : j ∉ pending := fun hmem => hnot (h.nodup.mem_erase_iff.mpr ⟨hji, hmem⟩)
      exact h.before j hj hnot' k hmem

/-- As many messages have arrived as come before the next one. -/
theorem Pending.place_eq (h : Pending time n pending) (hnext : Next time pending i) :
    place time n i + pending.length = n := by
  have hbefore : ∀ j ∈ List.range n, decide (Before time j i) = !decide (j ∈ pending) := by
    intro j hj
    rw [List.mem_range] at hj
    by_cases hmem : j ∈ pending
    · have hnot : ¬ Before time j i := by
        rcases hnext.2 j hmem with rfl | hlater
        · exact Before.irrefl
        · exact hlater.asymm
      simp [hmem, hnot]
    · simp [hmem, h.before j hj hmem i hnext.1]
  have hcount : place time n i = (List.range n).countP fun j => !decide (j ∈ pending) :=
    List.countP_congr fun j hj => by rw [hbefore j hj]
  have hpending : (List.range n).countP (fun j => decide (j ∈ pending)) = pending.length := by
    rw [List.countP_eq_length_filter]
    refine List.Perm.length_eq ?_
    rw [List.perm_ext_iff_of_nodup (List.nodup_range.filter _) h.nodup]
    intro j
    rw [List.mem_filter, List.mem_range, decide_eq_true_iff]
    exact ⟨And.right, fun hj => ⟨h.range j hj, hj⟩⟩
  have htotal := List.length_eq_countP_add_countP (fun j => decide (j ∈ pending)) (l := List.range n)
  rw [List.length_range, hpending] at htotal
  rw [hcount]
  simp only [Bool.not_eq_true, decide_eq_false_iff_not] at htotal
  have hsame : (List.range n).countP (fun j => !decide (j ∈ pending)) =
      (List.range n).countP fun j => decide (j ∉ pending) :=
    List.countP_congr fun j _ => by simp
  omega

/-- Messages that are scheduled in the order of their times arrive as they were scheduled. -/
theorem place_of_sorted (hsorted : ∀ j k, j ≤ k → k < n → time j ≤ time k) (hi : i < n) :
    place time n i = i := by
  have hbefore : ∀ j ∈ List.range n, decide (Before time j i) = decide (j < i) := by
    intro j hj
    rw [List.mem_range] at hj
    rw [decide_eq_decide]
    constructor
    · rintro (hlt | ⟨-, hlt⟩)
      · by_contra hge
        exact absurd hlt (not_lt.mpr (hsorted i j (Nat.le_of_not_lt hge) hj))
      · exact hlt
    · intro hlt
      rcases lt_or_eq_of_le (hsorted j i (Nat.le_of_lt hlt) hi) with htime | htime
      · exact .inl htime
      · exact .inr ⟨htime, hlt⟩
  have hcount : place time n i = (List.range n).countP fun j => decide (j < i) :=
    List.countP_congr fun j hj => by rw [hbefore j hj]
  rw [hcount, List.countP_eq_length_filter]
  have hperm : ((List.range n).filter fun j => decide (j < i)).Perm (List.range i) := by
    rw [List.perm_ext_iff_of_nodup (List.nodup_range.filter _) List.nodup_range]
    intro j
    rw [List.mem_filter, List.mem_range, List.mem_range, decide_eq_true_iff]
    exact ⟨And.right, fun hj => ⟨Nat.lt_trans hj hi, hj⟩⟩
  rw [hperm.length_eq, List.length_range]

end Arrivals

end Lib
