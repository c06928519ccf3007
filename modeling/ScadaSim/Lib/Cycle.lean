import Mathlib.Data.Int.Order.Basic
import Mathlib.Data.List.Perm.Subperm
import Mathlib.Data.List.Chain
import Mathlib.Data.List.Infix
import Mathlib.Data.List.Nodup
import Mathlib.Data.List.Range
import Mathlib.Data.Nat.ModEq

/-!
# Counters that go round

A counter with the values `1 .. m` goes `upward` or `downward` by one, and round at the
last value. `Cyclic` says of a list that it could be what the counter has shown: each
value follows from the one before, and `m` in a row are all the values, each once.
-/

namespace Lib

namespace Cycle

variable {m k : Nat}

/-- The values of the counter. -/
def values (m : Nat) : List Int := (List.range m).map fun (j : Nat) => (j : Int) + 1

def upward (m : Nat) (p : Int) : Int := if p = m then 1 else p + 1

def downward (m : Nat) (p : Int) : Int := if p = 1 then m else p - 1

/-- Successive values. -/
structure Cyclic (m : Nat) (next : Int → Int) (l : List Int) : Prop where
  mem : ∀ p ∈ l, p ∈ values m
  next : l.IsChain fun p q => q = next p
  once : ∀ w, w <:+: l → w.length = m → w.Perm (values m)

/-- The value after `k` steps upward from 1. -/
def up (m k : Nat) : Int := ((k % m : Nat) : Int) + 1

/-- The value after `k` steps downward from `m`. -/
def down (m k : Nat) : Int := m - ((k % m : Nat) : Int)

theorem mem_values {p : Int} : p ∈ values m ↔ 1 ≤ p ∧ p ≤ m := by
  unfold values
  rw [List.mem_map]
  constructor
  · rintro ⟨j, hj, rfl⟩
    have hlt := List.mem_range.mp hj
    omega
  · rintro ⟨hlow, hhigh⟩
    exact ⟨(p - 1).toNat, List.mem_range.mpr (by omega), by omega⟩

theorem succ_mod (hm : 0 < m) (k : Nat) :
    (k + 1) % m = if k % m + 1 = m then 0 else k % m + 1 := by
  have hlt := Nat.mod_lt k hm
  rw [← Nat.mod_add_mod]
  split
  · rename_i heq
    rw [heq, Nat.mod_self]
  · exact Nat.mod_eq_of_lt (by omega)

theorem up_mem (hm : 0 < m) (k : Nat) : up m k ∈ values m := by
  have hlt := Nat.mod_lt k hm
  rw [mem_values]
  unfold up
  omega

theorem down_mem (hm : 0 < m) (k : Nat) : down m k ∈ values m := by
  have hlt := Nat.mod_lt k hm
  rw [mem_values]
  unfold down
  omega

theorem up_succ (hm : 0 < m) (k : Nat) : up m (k + 1) = upward m (up m k) := by
  have hlt := Nat.mod_lt k hm
  unfold up upward
  rw [succ_mod hm]
  split <;> split <;> omega

theorem down_succ (hm : 0 < m) (k : Nat) : down m (k + 1) = downward m (down m k) := by
  have hlt := Nat.mod_lt k hm
  unfold down downward
  rw [succ_mod hm]
  split <;> split <;> omega

/-- Values that come `m` steps or more apart only are different before that. -/
theorem mod_injective {a i j : Nat} (hi : i < m) (hj : j < m) (h : (a + i) % m = (a + j) % m) :
    i = j := by
  have hmod : Nat.ModEq m i j := Nat.ModEq.add_left_cancel' a h
  exact hmod.eq_of_lt_of_lt hi hj

/-- `m` different values are all the values. -/
theorem perm_values {w : List Int} (hnodup : w.Nodup) (hmem : ∀ p ∈ w, p ∈ values m)
    (hlength : w.length = m) : w.Perm (values m) := by
  have hsub : w.Subperm (values m) := hnodup.subperm fun p hp => hmem p hp
  refine hsub.perm_of_length_le ?_
  rw [hlength, values, List.length_map, List.length_range]

/-- A part of a table of values is a table from a later place on. -/
theorem infix_range {α : Type} {f : Nat → α} {n : Nat} {w : List α}
    (h : w <:+: (List.range n).map f) : ∃ a, w = (List.range w.length).map fun j => f (a + j) := by
  obtain ⟨s, t, heq⟩ := h
  refine ⟨s.length, List.ext_getElem (by simp) fun j hj _ => ?_⟩
  have hget : ((List.range n).map f)[s.length + j]? = w[j]? := by
    rw [← heq, List.append_assoc, List.getElem?_append_right (Nat.le_add_right _ _),
      Nat.add_sub_cancel_left, List.getElem?_append_left hj]
  rw [List.getElem?_eq_getElem hj, List.getElem?_eq_some_iff] at hget
  obtain ⟨hlt, hval⟩ := hget
  rw [← hval]
  simp

/-- Successive values of a counter that has different values before it comes round. -/
theorem cyclic_of_step {next : Int → Int} {f : Nat → Int} {n : Nat}
    (hnext : ∀ k, f (k + 1) = next (f k)) (hmem : ∀ k, f k ∈ values m)
    (hinj : ∀ a i j, i < m → j < m → f (a + i) = f (a + j) → i = j) :
    Cyclic m next ((List.range n).map f) where
  mem := by
    intro p hp
    obtain ⟨k, -, rfl⟩ := List.mem_map.mp hp
    exact hmem k
  next := by
    rw [List.isChain_iff_getElem]
    intro i hi
    simp [hnext]
  once := by
    intro w hw hlength
    obtain ⟨a, hwa⟩ := infix_range hw
    rw [hlength] at hwa
    refine perm_values ?_ ?_ hlength
    · rw [hwa, List.nodup_map_iff_inj_on List.nodup_range]
      intro i hi j hj heq
      exact hinj a i j (List.mem_range.mp hi) (List.mem_range.mp hj) heq
    · intro p hp
      rw [hwa] at hp
      obtain ⟨j, -, rfl⟩ := List.mem_map.mp hp
      exact hmem _

theorem cyclic_up (hm : 0 < m) (a n : Nat) :
    Cyclic m (upward m) ((List.range n).map fun k => up m (a + k)) := by
  refine cyclic_of_step (fun k => up_succ hm (a + k)) (fun k => up_mem hm (a + k)) ?_
  intro b i j hi hj heq
  refine mod_injective (a := a + b) hi hj ?_
  unfold up at heq
  rw [← Nat.add_assoc, ← Nat.add_assoc] at heq
  omega

theorem cyclic_down (hm : 0 < m) (a n : Nat) :
    Cyclic m (downward m) ((List.range n).map fun k => down m (a + k)) := by
  refine cyclic_of_step (fun k => down_succ hm (a + k)) (fun k => down_mem hm (a + k)) ?_
  intro b i j hi hj heq
  refine mod_injective (a := a + b) hi hj ?_
  unfold down at heq
  rw [← Nat.add_assoc, ← Nat.add_assoc] at heq
  omega

end Cycle

end Lib
