import Mathlib.Data.Nat.Bitwise

/-!
# Truth values in bytes

`packed f n` is the number with the bits `f 0, ..., f (n - 1)`, the first one lowest, and
`packByte f n j` the byte that holds the values from `8 * j` on, of `n` in all. A byte is
read back bit by bit (`testBit_packByte`).
-/

namespace Lib

def packed (f : Nat → Bool) (n : Nat) : Nat := Nat.ofBits fun t : Fin n => f t

variable {f : Nat → Bool} {n : Nat}

theorem testBit_packed (t : Nat) : (packed f n).testBit t = (decide (t < n) && f t) := by
  by_cases h : t < n
  · rw [packed, Nat.testBit_ofBits_lt _ _ h, decide_eq_true h, Bool.true_and]
  · rw [packed, Nat.testBit_ofBits_ge _ _ (Nat.le_of_not_lt h), decide_eq_false h, Bool.false_and]

theorem packed_lt : packed f n < 2 ^ n := Nat.ofBits_lt_two_pow _

/-- One value more. -/
theorem packed_succ : packed f (n + 1) = packed f n ||| ((f n).toNat <<< n) := by
  apply Nat.eq_of_testBit_eq
  intro t
  rw [Nat.testBit_or, testBit_packed, testBit_packed, Nat.testBit_shiftLeft]
  rcases Nat.lt_trichotomy t n with hlt | rfl | hgt
  · have hnot : ¬ t ≥ n := Nat.not_le.mpr hlt
    have hlt' : t < n + 1 := Nat.lt_succ_of_lt hlt
    simp [hlt, hnot, hlt']
  · cases f t <;> simp
  · have hnot : ¬ t < n + 1 := by omega
    have hnot' : ¬ t < n := by omega
    have hpos : t - n ≠ 0 := by omega
    have hone : Nat.testBit 1 (t - n) = false := by
      rw [Bool.eq_false_iff]
      exact fun hbit => hpos (Nat.testBit_one_eq_true_iff_self_eq_zero.mp hbit)
    cases f n <;> simp [hnot, hnot', hone]

/-- The byte with the values from `8 * j` on. -/
def packByte (f : Nat → Bool) (n j : Nat) : UInt8 :=
  UInt8.ofNat (packed (fun t => f (8 * j + t)) (min 8 (n - 8 * j)))

theorem toNat_packByte (j : Nat) :
    (packByte f n j).toNat = packed (fun t => f (8 * j + t)) (min 8 (n - 8 * j)) := by
  have hlt : packed (fun t => f (8 * j + t)) (min 8 (n - 8 * j)) < 256 :=
    Nat.lt_of_lt_of_le packed_lt (Nat.pow_le_pow_right (by decide) (Nat.min_le_left 8 _))
  rw [packByte, UInt8.toNat_ofNat']
  exact Nat.mod_eq_of_lt hlt

theorem testBit_packByte {j t : Nat} (ht : t < 8) (hn : 8 * j + t < n) :
    (packByte f n j).toNat.testBit t = f (8 * j + t) := by
  have hmin : t < min 8 (n - 8 * j) := by omega
  rw [toNat_packByte, testBit_packed, decide_eq_true hmin, Bool.true_and]

/-- The values in bytes. -/
def packBytes (f : Nat → Bool) (n : Nat) : List UInt8 :=
  (List.range ((n + 7) / 8)).map (packByte f n)

theorem packBytes_congr {g : Nat → Bool} (h : ∀ k, k < n → f k = g k) :
    packBytes f n = packBytes g n := by
  refine List.map_congr_left fun j _ => ?_
  refine congrArg (fun x => UInt8.ofNat (Nat.ofBits x)) (funext fun t => h _ ?_)
  have hlt := t.isLt
  omega

@[simp] theorem length_packBytes : (packBytes f n).length = (n + 7) / 8 := by
  simp [packBytes]

end Lib
