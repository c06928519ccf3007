import Mathlib.Algebra.BigOperators.Group.Multiset.Basic
import Mathlib.Algebra.Group.Action.Defs
import Mathlib.Algebra.Order.BigOperators.Group.Multiset
import Mathlib.Algebra.Order.Floor.Semiring
import Mathlib.Data.Rat.Floor
import Mathlib.Logic.Relation
import Mathlib.Tactic.Linarith

/-!
# Populations that double

A population in which nobody begets twice within `δ`, and a newborn not before `δ` has
passed, at most doubles in every period: `card_le`. What carries the proof is a potential,
the number of descendants that each member and each offspring under way may still have
until a fixed time: no step increases it.
-/

namespace Lib.Doubling

/-- When each member is due to beget, if at all, and when the offspring that is under way
was begotten. -/
structure Population where
  now : Rat
  due : Multiset (Option Rat)
  young : Multiset Rat

/-- Begetting, giving up, birth, loss and the passing of time. -/
inductive Step (δ : Rat) : Population → Population → Prop
  | beget {now t t' : Rat} {due : Multiset (Option Rat)} {young : Multiset Rat} :
      now ≤ t → t + δ ≤ t' →
      Step δ ⟨now, some t ::ₘ due, young⟩ ⟨t, some t' ::ₘ due, t ::ₘ young⟩
  | giveUp {now t : Rat} {due : Multiset (Option Rat)} {young : Multiset Rat} :
      now ≤ t → Step δ ⟨now, some t ::ₘ due, young⟩ ⟨t, none ::ₘ due, young⟩
  | birth {now b t t' : Rat} {due : Multiset (Option Rat)} {young : Multiset Rat} :
      now ≤ t → b ≤ t → t + δ ≤ t' →
      Step δ ⟨now, due, b ::ₘ young⟩ ⟨t, some t' ::ₘ due, young⟩
  | loss {now b t : Rat} {due : Multiset (Option Rat)} {young : Multiset Rat} :
      now ≤ t → Step δ ⟨now, due, b ::ₘ young⟩ ⟨t, due, young⟩
  | wait {now t : Rat} {due : Multiset (Option Rat)} {young : Multiset Rat} :
      now ≤ t → Step δ ⟨now, due, young⟩ ⟨t, due, young⟩

/-! ## Rounds -/

/-- How often one may beget until `T` that is due at `t`, and every `δ` from then on. -/
def rounds (δ T t : Rat) : Nat := if t ≤ T then ⌊(T - t) / δ⌋₊ + 1 else 0

variable {δ T : Rat}

theorem rounds_of_le {t : Rat} (h : t ≤ T) : rounds δ T t = ⌊(T - t) / δ⌋₊ + 1 := if_pos h

theorem rounds_of_lt {t : Rat} (h : T < t) : rounds δ T t = 0 := if_neg (not_le.mpr h)

theorem rounds_anti (hδ : 0 < δ) {t t' : Rat} (h : t ≤ t') : rounds δ T t' ≤ rounds δ T t := by
  rcases le_or_gt t' T with hle | hlt
  · rw [rounds_of_le hle, rounds_of_le (h.trans hle)]
    have hquot : (T - t') / δ ≤ (T - t) / δ := (div_le_div_iff_of_pos_right hδ).mpr (by linarith)
    exact Nat.succ_le_succ (Nat.floor_mono hquot)
  · rw [rounds_of_lt hlt]
    exact Nat.zero_le _

theorem rounds_mono (hδ : 0 < δ) {T T' t : Rat} (h : T ≤ T') : rounds δ T t ≤ rounds δ T' t := by
  rcases le_or_gt t T with hle | hlt
  · rw [rounds_of_le hle, rounds_of_le (hle.trans h)]
    have hquot : (T - t) / δ ≤ (T' - t) / δ := (div_le_div_iff_of_pos_right hδ).mpr (by linarith)
    exact Nat.succ_le_succ (Nat.floor_mono hquot)
  · rw [rounds_of_lt hlt]
    exact Nat.zero_le _

/-- There was time for `k` rounds more. -/
theorem le_rounds (hδ : 0 < δ) {t : Rat} {k : Nat} (h : t + k * δ ≤ T) :
    k + 1 ≤ rounds δ T t := by
  have hk : (0 : Rat) ≤ k * δ := mul_nonneg (Nat.cast_nonneg k) hδ.le
  rw [rounds_of_le (by linarith)]
  have hquot : (k : Rat) ≤ (T - t) / δ := (le_div_iff₀ hδ).mpr (by linarith)
  exact Nat.succ_le_succ (Nat.le_floor hquot)

/-- One round is over, and the others are to come. -/
theorem rounds_add (hδ : 0 < δ) {t : Rat} (h : t ≤ T) :
    rounds δ T (t + δ) + 1 = rounds δ T t := by
  rw [rounds_of_le h]
  rcases le_or_gt (t + δ) T with hle | hlt
  · have hquot : (T - t) / δ = (T - (t + δ)) / δ + 1 := by
      field_simp
      ring
    have hnonneg : 0 ≤ (T - (t + δ)) / δ := div_nonneg (by linarith) hδ.le
    rw [rounds_of_le hle, hquot, Nat.floor_add_one hnonneg]
  · have hsmall : (T - t) / δ < 1 := (div_lt_one hδ).mpr (by linarith)
    rw [rounds_of_lt hlt, Nat.floor_eq_zero.mpr hsmall]

/-! ## The potential -/

/-- The descendants of a member until `T`, itself included. -/
def weight (δ T : Rat) : Option Rat → Nat
  | none => 1
  | some t => 2 ^ rounds δ T t

/-- Those of offspring begotten at `b`. -/
def youngWeight (δ T b : Rat) : Nat := 2 ^ rounds δ T (b + δ)

theorem one_le_weight (o : Option Rat) : 1 ≤ weight δ T o := by
  cases o with
  | none => exact le_rfl
  | some t => exact Nat.one_le_two_pow

theorem weight_le (hδ : 0 < δ) {t t' : Rat} (h : t ≤ t') :
    weight δ T (some t') ≤ weight δ T (some t) :=
  Nat.pow_le_pow_right (by decide) (rounds_anti hδ h)

/-- To beget takes as much from a member as it gives to the offspring. -/
theorem weight_split (hδ : 0 < δ) {t : Rat} (h : t ≤ T) :
    weight δ T (some (t + δ)) + youngWeight δ T t = weight δ T (some t) := by
  show 2 ^ rounds δ T (t + δ) + 2 ^ rounds δ T (t + δ) = 2 ^ rounds δ T t
  rw [← rounds_add hδ h, pow_succ]
  omega

def potential (δ T : Rat) (p : Population) : Nat :=
  (p.due.map (weight δ T)).sum + (p.young.map (youngWeight δ T)).sum

theorem Step.now_le {p q : Population} (h : Step δ p q) : p.now ≤ q.now := by
  cases h with
  | beget hnow _ => exact hnow
  | giveUp hnow => exact hnow
  | birth hnow _ _ => exact hnow
  | loss hnow => exact hnow
  | wait hnow => exact hnow

theorem Step.potential_le (hδ : 0 < δ) {p q : Population} (h : Step δ p q) (hT : q.now ≤ T) :
    potential δ T q ≤ potential δ T p := by
  unfold potential
  cases h with
  | beget hnow hdue =>
      rename_i t t' due young
      have hsplit := weight_split (T := T) hδ hT
      have hlater := weight_le (T := T) hδ hdue
      simp only [Multiset.map_cons, Multiset.sum_cons]
      dsimp only at hsplit
      omega
  | giveUp hnow =>
      rename_i t due young
      have hone := one_le_weight (δ := δ) (T := T) (some t)
      have hnone : weight δ T none = 1 := rfl
      simp only [Multiset.map_cons, Multiset.sum_cons]
      omega
  | birth hnow hborn hdue =>
      rename_i b t t' due young
      have hnew : weight δ T (some t') ≤ youngWeight δ T b :=
        weight_le (t := b + δ) hδ (by linarith)
      simp only [Multiset.map_cons, Multiset.sum_cons]
      omega
  | loss _ =>
      simp only [Multiset.map_cons, Multiset.sum_cons]
      omega
  | wait _ => exact le_rfl

theorem potential_le (hδ : 0 < δ) {p q : Population} (h : Relation.ReflTransGen (Step δ) p q)
    (hT : q.now ≤ T) : potential δ T q ≤ potential δ T p := by
  induction h with
  | refl => exact le_rfl
  | tail _ hstep ih => exact (hstep.potential_le hδ hT).trans (ih (hstep.now_le.trans hT))

theorem card_le_potential (p : Population) : p.due.card ≤ potential δ T p := by
  have hsum : p.due.card • 1 ≤ (p.due.map (weight δ T)).sum := by
    have hall : ∀ n ∈ p.due.map (weight δ T), 1 ≤ n := by
      intro n hn
      obtain ⟨o, -, rfl⟩ := Multiset.mem_map.mp hn
      exact one_le_weight o
    have h := Multiset.card_nsmul_le_sum hall
    rwa [Multiset.card_map] at h
  unfold potential
  rw [smul_eq_mul, mul_one] at hsum
  omega

/-- The members that are due from `start` on at most double at once, and again in every
period from then on. -/
theorem card_le (hδ : 0 < δ) {p q : Population} {start : Rat}
    (hstart : ∀ o ∈ p.due, ∀ t, o = some t → start ≤ t) (hyoung : p.young = 0)
    (h : Relation.ReflTransGen (Step δ) p q) :
    q.due.card ≤ p.due.card * 2 ^ rounds δ q.now start := by
  have hweight : ∀ n ∈ p.due.map (weight δ q.now), n ≤ 2 ^ rounds δ q.now start := by
    intro n hn
    obtain ⟨o, ho, rfl⟩ := Multiset.mem_map.mp hn
    cases o with
    | none => exact Nat.one_le_two_pow
    | some t => exact weight_le hδ (hstart _ ho t rfl)
  have hsum := Multiset.sum_le_card_nsmul _ _ hweight
  rw [Multiset.card_map, smul_eq_mul] at hsum
  calc q.due.card ≤ potential δ q.now q := card_le_potential q
    _ ≤ potential δ q.now p := potential_le hδ h le_rfl
    _ = (p.due.map (weight δ q.now)).sum := by
        unfold potential
        rw [hyoung, Multiset.map_zero, Multiset.sum_zero, Nat.add_zero]
    _ ≤ p.due.card * 2 ^ rounds δ q.now start := hsum

end Lib.Doubling
