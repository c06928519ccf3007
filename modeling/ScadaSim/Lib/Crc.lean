import Mathlib.Data.List.Basic
import Mathlib.Data.Bool.Basic

/-!
# Cyclic redundancy checks

The register of a CRC that is sent with its lowest bit first: `step` takes one bit in and
shifts the register down, with the polynomial where a one falls out. `run` is linear in the
register and in the bits (`run_xor`), so that two messages have the same check value just
when their difference leaves a register of zeros at zero (`run_eq_iff`). Which differences
do not is said of the difference alone: a short burst (`run_burst`), an odd number of bits
(`run_odd`), two bits (`run_two`).

`run_chunk` is what makes a table possible: the low bits of the register decide what is added
to the rest of it.
-/

namespace Lib.Crc

variable {w : Nat}

/-- One bit goes in. -/
def step (poly r : BitVec w) (b : Bool) : BitVec w :=
  if r.getLsbD 0 ^^ b then (r >>> 1) ^^^ poly else r >>> 1

def run (poly r : BitVec w) (bits : List Bool) : BitVec w := bits.foldl (step poly) r

def zeros (n : Nat) : List Bool := List.replicate n false

/-- The first bits, as the low bits of a register. -/
def ofBits (bits : List Bool) : BitVec w := (BitVec.ofBoolListLE bits).setWidth w

/-- The bits of a register, the lowest first. -/
def toBits (r : BitVec w) : List Bool := (List.range w).map r.getLsbD

section Basic

variable (poly : BitVec w)

@[simp] theorem run_cons (r : BitVec w) (b : Bool) (bits : List Bool) :
    run poly r (b :: bits) = run poly (step poly r b) bits := rfl

theorem run_append (r : BitVec w) (bits bits' : List Bool) :
    run poly r (bits ++ bits') = run poly (run poly r bits) bits' :=
  List.foldl_append

theorem zeros_succ (n : Nat) : zeros (n + 1) = false :: zeros n := rfl

theorem length_toBits (r : BitVec w) : (toBits r).length = w := by
  simp [toBits]

theorem getLsbD_ofBits {bits : List Bool} {i : Nat} (hi : i < w) :
    (ofBits bits : BitVec w).getLsbD i = bits.getD i false := by
  simp [ofBits, hi]

theorem ofBits_toBits (r : BitVec w) : ofBits (toBits r) = r := by
  apply BitVec.eq_of_getLsbD_eq
  intro i hi
  rw [getLsbD_ofBits hi]
  simp [toBits, hi]

theorem toBits_injective {r s : BitVec w} (h : toBits r = toBits s) : r = s := by
  rw [← ofBits_toBits r, h, ofBits_toBits]

/-- The right part of a register comes first. -/
theorem toBits_append {v : Nat} (x : BitVec w) (y : BitVec v) :
    toBits (x ++ y) = toBits y ++ toBits x := by
  have hrange : List.range (w + v) = List.range v ++ (List.range w).map (v + ·) := by
    rw [Nat.add_comm, List.range_add]
  unfold toBits
  rw [hrange, List.map_append, List.map_map]
  congr 1
  · refine List.map_congr_left fun i hi => ?_
    rw [BitVec.getLsbD_append, if_pos (List.mem_range.mp hi)]
  · refine List.map_congr_left fun i _ => ?_
    rw [Function.comp_apply, BitVec.getLsbD_append, if_neg (by omega), Nat.add_sub_cancel_left]

theorem append_injective {v : Nat} {x x' : BitVec w} {y y' : BitVec v} (h : x ++ y = x' ++ y') :
    x = x' ∧ y = y' := by
  have hbits : toBits y ++ toBits x = toBits y' ++ toBits x' := by
    rw [← toBits_append, ← toBits_append, h]
  obtain ⟨hy, hx⟩ := List.append_inj hbits (by rw [length_toBits, length_toBits])
  exact ⟨toBits_injective hx, toBits_injective hy⟩

end Basic

/-! ## Linearity -/

section Linear

variable (poly : BitVec w)

theorem xor_xor_cancel (a b p : BitVec w) : (a ^^^ p) ^^^ (b ^^^ p) = a ^^^ b := by
  apply BitVec.eq_of_getLsbD_eq
  intro i _
  simp only [BitVec.getLsbD_xor]
  cases a.getLsbD i <;> cases b.getLsbD i <;> cases p.getLsbD i <;> rfl

theorem step_xor (r s : BitVec w) (b c : Bool) :
    step poly (r ^^^ s) (b ^^ c) = step poly r b ^^^ step poly s c := by
  have hbit : ((r ^^^ s).getLsbD 0 ^^ (b ^^ c)) =
      ((r.getLsbD 0 ^^ b) ^^ (s.getLsbD 0 ^^ c)) := by
    rw [BitVec.getLsbD_xor]
    cases r.getLsbD 0 <;> cases s.getLsbD 0 <;> cases b <;> cases c <;> rfl
  unfold step
  rw [hbit, BitVec.ushiftRight_xor_distrib]
  cases hr : r.getLsbD 0 ^^ b <;> cases hs : s.getLsbD 0 ^^ c
  · rfl
  · simp [BitVec.xor_assoc]
  · simp only [Bool.true_xor, Bool.not_false, if_true, Bool.false_eq_true, if_false]
    rw [BitVec.xor_assoc, BitVec.xor_assoc, BitVec.xor_comm poly]
  · simp [xor_xor_cancel]

theorem run_xor {bits bits' : List Bool} (hlength : bits.length = bits'.length) (r s : BitVec w) :
    run poly (r ^^^ s) (List.zipWith xor bits bits') = run poly r bits ^^^ run poly s bits' := by
  induction bits generalizing bits' r s with
  | nil =>
      cases bits' with
      | nil => rfl
      | cons c bits' => cases hlength
  | cons b bits ih =>
      cases bits' with
      | nil => cases hlength
      | cons c bits' =>
          rw [List.zipWith_cons_cons, run_cons, run_cons, run_cons, step_xor,
            ih (Nat.succ.inj hlength)]

/-- Two messages of one length have the same check value just when their difference has
check value zero. -/
theorem run_eq_iff {bits bits' : List Bool} (hlength : bits.length = bits'.length)
    (r : BitVec w) :
    run poly r bits = run poly r bits' ↔ run poly 0 (List.zipWith xor bits bits') = 0 := by
  have hlinear := run_xor poly hlength r r
  rw [BitVec.xor_self] at hlinear
  rw [show (0 : BitVec w) = 0#w from rfl, hlinear, BitVec.xor_eq_zero_iff]

/-- Zeros leave a register of zeros alone. -/
theorem run_zero_zeros (n : Nat) : run poly 0 (zeros n) = 0 := by
  induction n with
  | zero => rfl
  | succ n ih =>
      have hstep : step poly 0 false = 0 := by simp [step]
      rw [zeros_succ, run_cons, hstep, ih]

theorem run_zeros_xor (n : Nat) (r s : BitVec w) :
    run poly (r ^^^ s) (zeros n) = run poly r (zeros n) ^^^ run poly s (zeros n) := by
  have hzip : List.zipWith xor (zeros n) (zeros n) = zeros n := by simp [zeros]
  rw [← run_xor poly rfl, hzip]

/-! ## Bits that fit the register -/

/-- A bit that is the lowest one of the register falls out with it. -/
theorem step_ofBits {b : Bool} {bits : List Bool} (hlength : bits.length < w) :
    step poly (ofBits (b :: bits)) b = ofBits bits := by
  have hlow : (ofBits (b :: bits) : BitVec w).getLsbD 0 = b := by
    rw [getLsbD_ofBits (by omega)]
    rfl
  unfold step
  rw [hlow, Bool.xor_self, if_neg Bool.false_ne_true]
  apply BitVec.eq_of_getLsbD_eq
  intro i hi
  rw [BitVec.getLsbD_ushiftRight, getLsbD_ofBits hi]
  rcases Nat.lt_or_ge (1 + i) w with hlt | hge
  · rw [getLsbD_ofBits hlt, Nat.add_comm]
    rfl
  · have hend : bits[i]? = none := List.getElem?_eq_none (by omega)
    rw [BitVec.getLsbD_of_ge _ _ hge, List.getD_eq_getElem?_getD, hend]
    rfl

/-- Bits can be put into the register at once, before it is shifted. -/
theorem run_absorb {bits : List Bool} (hlength : bits.length ≤ w) (r : BitVec w) :
    run poly r bits = run poly (r ^^^ ofBits bits) (zeros bits.length) := by
  induction bits generalizing r with
  | nil =>
      have hnil : (ofBits [] : BitVec w) = 0#w := by
        apply BitVec.eq_of_getLsbD_eq
        intro i hi
        rw [getLsbD_ofBits hi]
        simp
      rw [hnil, BitVec.xor_zero]
      rfl
  | cons b bits ih =>
      rw [List.length_cons] at hlength
      have hstep : step poly (r ^^^ ofBits (b :: bits)) false = step poly r b ^^^ ofBits bits := by
        have htaken : step poly (ofBits (b :: bits)) b = ofBits bits :=
          step_ofBits poly (by omega)
        rw [← htaken, ← step_xor, Bool.xor_self]
      rw [run_cons, ih (by omega), List.length_cons, zeros_succ, run_cons, hstep]

theorem width_pos {poly : BitVec w} (hpoly : poly.getLsbD (w - 1) = true) : 0 < w := by
  by_contra hzero
  rw [BitVec.getLsbD_of_ge _ _ (by omega)] at hpoly
  cases hpoly

/-- When the polynomial has its highest bit, no register but the one of zeros is at zero
after a zero. -/
theorem step_false_eq_zero {poly r : BitVec w} (hpoly : poly.getLsbD (w - 1) = true)
    (h : step poly r false = 0) : r = 0 := by
  have hw := width_pos hpoly
  unfold step at h
  rw [Bool.xor_false] at h
  cases hlow : r.getLsbD 0 with
  | true =>
      rw [hlow, if_pos rfl] at h
      have htop : ((r >>> 1) ^^^ poly).getLsbD (w - 1) = (0 : BitVec w).getLsbD (w - 1) := by rw [h]
      rw [BitVec.getLsbD_xor, hpoly, BitVec.getLsbD_ushiftRight,
        BitVec.getLsbD_of_ge _ _ (by omega)] at htop
      simp at htop
  | false =>
      rw [hlow, if_neg Bool.false_ne_true] at h
      apply BitVec.eq_of_getLsbD_eq
      intro i hi
      cases i with
      | zero => rw [hlow]; simp
      | succ i =>
          have hbit : (r >>> 1).getLsbD i = (0 : BitVec w).getLsbD i := by rw [h]
          rw [BitVec.getLsbD_ushiftRight, Nat.add_comm] at hbit
          simpa using hbit

theorem run_zeros_eq_zero {poly : BitVec w} (hpoly : poly.getLsbD (w - 1) = true) {n : Nat}
    {r : BitVec w} (h : run poly r (zeros n) = 0) : r = 0 := by
  induction n generalizing r with
  | zero => exact h
  | succ n ih =>
      rw [zeros_succ, run_cons] at h
      exact step_false_eq_zero hpoly (ih h)

/-! ## A table for several bits -/

/-- What is above the bits that fall out comes down as it is. -/
theorem run_shiftLeft {k : Nat} {r : BitVec w} (hk : ∀ i, w ≤ i + k → r.getLsbD i = false) :
    run poly (r <<< k) (zeros k) = r := by
  induction k with
  | zero =>
      rw [BitVec.shiftLeft_zero]
      rfl
  | succ k ih =>
      have hlow : (r <<< (k + 1)).getLsbD 0 = false := by simp
      have hdown : (r <<< (k + 1)) >>> 1 = r <<< k := by
        apply BitVec.eq_of_getLsbD_eq
        intro i hi
        rw [BitVec.getLsbD_ushiftRight, BitVec.getLsbD_shiftLeft, BitVec.getLsbD_shiftLeft]
        have hsub : 1 + i - (k + 1) = i - k := by omega
        have hside : decide (1 + i < k + 1) = decide (i < k) := by
          congr 1
          exact propext (by omega)
        rcases Nat.lt_or_ge (1 + i) w with hlt | hge
        · rw [hsub, hside, decide_eq_true hi, decide_eq_true hlt]
        · have hout : r.getLsbD (i - k) = false := hk _ (by omega)
          simp [hsub, hout]
      have hstep : step poly (r <<< (k + 1)) false = r <<< k := by
        unfold step
        rw [hlow, Bool.xor_false, if_neg Bool.false_ne_true, hdown]
      rw [zeros_succ, run_cons, hstep, ih fun i hi => hk i (by omega)]

/-- `k` zeros shift the register down by `k` places, and add what its low bits `low` say. -/
theorem run_chunk {k : Nat} {r : BitVec w} (low : BitVec w)
    (hlow : ∀ i, low.getLsbD i = (decide (i < k) && r.getLsbD i)) :
    run poly r (zeros k) = (r >>> k) ^^^ run poly low (zeros k) := by
  have hsplit : r = ((r >>> k) <<< k) ^^^ low := by
    apply BitVec.eq_of_getLsbD_eq
    intro i hi
    rw [BitVec.getLsbD_xor, hlow, BitVec.getLsbD_shiftLeft, BitVec.getLsbD_ushiftRight]
    rcases Nat.lt_or_ge i k with hlt | hge
    · simp [hlt, hi]
    · have hnot : ¬ i < k := Nat.not_lt.mpr hge
      have hback : k + (i - k) = i := by omega
      simp [hnot, hi, hback]
  have hhigh : ∀ i, w ≤ i + k → (r >>> k).getLsbD i = false := by
    intro i hi
    rw [BitVec.getLsbD_ushiftRight]
    exact BitVec.getLsbD_of_ge _ _ (by omega)
  conv => lhs; rw [hsplit]
  rw [run_zeros_xor, run_shiftLeft poly hhigh]

end Linear

/-! ## What is detected -/

/-- All the differences are within `n` bits in a row. -/
def Burst (n : Nat) (error : List Bool) : Prop :=
  ∃ a burst c, error = zeros a ++ burst ++ zeros c ∧ burst.length ≤ n ∧ true ∈ burst

/-- The number of differences is odd. -/
def odd (error : List Bool) : Bool := error.foldr xor false

/-- There are two differences. -/
def Two (error : List Bool) : Prop :=
  ∃ a k c, error = zeros a ++ true :: zeros k ++ true :: zeros c

section Detection

variable {poly : BitVec w} {error : List Bool}

/-- What comes before the first difference and after the last does not matter. -/
theorem run_between (hpoly : poly.getLsbD (w - 1) = true) {a c : Nat} {bits : List Bool}
    (h : run poly 0 (zeros a ++ bits ++ zeros c) = 0) : run poly 0 bits = 0 := by
  rw [run_append, run_append, run_zero_zeros] at h
  exact run_zeros_eq_zero hpoly h

theorem run_burst (hpoly : poly.getLsbD (w - 1) = true) (h : Burst w error) :
    run poly 0 error ≠ 0 := by
  obtain ⟨a, burst, c, rfl, hlength, hmem⟩ := h
  intro hzero
  have hburst := run_between hpoly hzero
  have hload : (0 : BitVec w) ^^^ ofBits burst = ofBits burst := BitVec.zero_xor
  rw [run_absorb poly hlength, hload] at hburst
  have hbits : (ofBits burst : BitVec w) = 0 := run_zeros_eq_zero hpoly hburst
  obtain ⟨i, hi, hbit⟩ := List.mem_iff_getElem.mp hmem
  have hset : (ofBits burst : BitVec w).getLsbD i = true := by
    rw [getLsbD_ofBits (by omega), List.getD_eq_getElem?_getD, List.getElem?_eq_getElem hi, hbit]
    rfl
  rw [hbits] at hset
  simp at hset

/-- The parity of a register. -/
def parity (r : BitVec w) : Bool := odd (toBits r)

theorem odd_map_xor (f g : Nat → Bool) (l : List Nat) :
    odd (l.map fun i => f i ^^ g i) = (odd (l.map f) ^^ odd (l.map g)) := by
  induction l with
  | nil => rfl
  | cons i l ih =>
      show ((f i ^^ g i) ^^ odd (l.map fun i => f i ^^ g i)) =
        ((f i ^^ odd (l.map f)) ^^ (g i ^^ odd (l.map g)))
      rw [ih]
      cases f i <;> cases g i <;> cases odd (l.map f) <;> cases odd (l.map g) <;> rfl

theorem parity_xor (r s : BitVec w) : parity (r ^^^ s) = (parity r ^^ parity s) := by
  unfold parity toBits
  rw [← odd_map_xor]
  congr 1
  exact List.map_congr_left fun i _ => BitVec.getLsbD_xor

theorem odd_append (bits bits' : List Bool) : odd (bits ++ bits') = (odd bits ^^ odd bits') := by
  induction bits with
  | nil =>
      rw [List.nil_append]
      exact (Bool.false_xor _).symm
  | cons b bits ih =>
      show (b ^^ odd (bits ++ bits')) = ((b ^^ odd bits) ^^ odd bits')
      rw [ih, Bool.xor_assoc]

/-- The bit that falls out is what the parity changes by. -/
theorem parity_shift (r : BitVec w) : parity (r >>> 1) = (r.getLsbD 0 ^^ parity r) := by
  have hlist : r.getLsbD 0 :: toBits (r >>> 1) = toBits r ++ [false] := by
    have hlast : r.getLsbD w = false := BitVec.getLsbD_of_ge _ _ (Nat.le_refl w)
    have hrange : (List.range (w + 1)).map r.getLsbD = toBits r ++ [false] := by
      rw [List.range_succ, List.map_append, List.map_singleton, hlast]
      rfl
    rw [← hrange, List.range_succ_eq_map, List.map_cons, List.map_map]
    congr 1
    exact List.map_congr_left fun i _ => by
      rw [BitVec.getLsbD_ushiftRight, Nat.add_comm]
      rfl
  have hparity := congrArg odd hlist
  rw [odd_append] at hparity
  have hcons : odd (r.getLsbD 0 :: toBits (r >>> 1)) = (r.getLsbD 0 ^^ parity (r >>> 1)) := rfl
  have hfalse : odd [false] = false := rfl
  rw [hcons, hfalse, Bool.xor_false] at hparity
  have hself : parity r = odd (toBits r) := rfl
  rw [hself, ← hparity, ← Bool.xor_assoc, Bool.xor_self, Bool.false_xor]

theorem parity_step (hpoly : parity poly = true) (r : BitVec w) (b : Bool) :
    parity (step poly r b) = (parity r ^^ b) := by
  unfold step
  split
  · next h =>
      rw [parity_xor, parity_shift, hpoly]
      revert h
      cases r.getLsbD 0 <;> cases b <;> cases parity r <;> decide
  · next h =>
      rw [parity_shift]
      revert h
      cases r.getLsbD 0 <;> cases b <;> cases parity r <;> decide

theorem parity_run (hpoly : parity poly = true) (r : BitVec w) (bits : List Bool) :
    parity (run poly r bits) = (parity r ^^ odd bits) := by
  induction bits generalizing r with
  | nil => exact (Bool.xor_false _).symm
  | cons b bits ih =>
      rw [run_cons, ih, parity_step hpoly, Bool.xor_assoc]
      rfl

theorem odd_zeros (n : Nat) : odd (zeros n) = false := by
  induction n with
  | zero => rfl
  | succ n ih =>
      show (false ^^ odd (zeros n)) = false
      rw [ih, Bool.xor_self]

theorem parity_zero : parity (0 : BitVec w) = false := by
  have hbits : toBits (0 : BitVec w) = zeros w := by
    refine List.ext_getElem (by simp [toBits, zeros]) fun i _ _ => ?_
    simp [toBits, zeros]
  unfold parity
  rw [hbits, odd_zeros]

theorem run_odd (hpoly : parity poly = true) (h : odd error = true) : run poly 0 error ≠ 0 := by
  intro hzero
  have hparity := parity_run hpoly (0 : BitVec w) error
  rw [hzero, parity_zero, h] at hparity
  cases hparity

/-- The register does not come by the value one within `n` zeros. -/
def avoidsOne (poly : BitVec w) : Nat → BitVec w → Bool
  | 0, _ => true
  | n + 1, r => if r = 1#w then false else avoidsOne poly n (step poly r false)

theorem ne_one_of_avoidsOne {n : Nat} {r : BitVec w} (h : avoidsOne poly n r = true) {k : Nat}
    (hk : k < n) : run poly r (zeros k) ≠ 1#w := by
  induction n generalizing r k with
  | zero => cases hk
  | succ n ih =>
      unfold avoidsOne at h
      split at h
      · cases h
      · next hne =>
          cases k with
          | zero => exact hne
          | succ k =>
              rw [zeros_succ, run_cons]
              exact ih h (by omega)

/-- Two differences are detected as far as the register, from the first one on, does not come
by the value one. -/
theorem run_two (hpoly : poly.getLsbD (w - 1) = true) {n : Nat}
    (hperiod : avoidsOne poly n poly = true) (hlength : error.length ≤ n)
    (h : Two error) : run poly 0 error ≠ 0 := by
  obtain ⟨a, k, c, rfl⟩ := h
  intro hzero
  have hbits : run poly 0 (true :: zeros k ++ [true]) = 0 := by
    refine run_between hpoly (a := a) (c := c) ?_
    simpa using hzero
  have hfirst : step poly 0 true = poly := by simp [step]
  have hsecond : run poly poly (zeros k ++ [true]) = 0 := by
    rw [← hbits, List.cons_append, run_cons, hfirst]
  have hw := width_pos hpoly
  have hone : step poly 1#w true = 0 := by
    have hlow : (1#w).getLsbD 0 = true := by simp [hw]
    unfold step
    rw [hlow, Bool.xor_self, if_neg Bool.false_ne_true]
    apply BitVec.eq_of_getLsbD_eq
    intro i _
    simp [BitVec.getLsbD_one]
  -- the second difference cancels the register only where it is one
  have hcancel : step poly (run poly poly (zeros k) ^^^ 1#w) false = 0 := by
    rw [run_append] at hsecond
    have hlast : step poly (run poly poly (zeros k)) true = 0 := hsecond
    rw [← Bool.xor_self true, step_xor, hlast, hone]
    exact BitVec.xor_self
  have hequal := BitVec.xor_eq_zero_iff.mp (step_false_eq_zero hpoly hcancel)
  refine ne_one_of_avoidsOne hperiod (k := k) ?_ hequal
  simp only [zeros, List.length_append, List.length_cons, List.length_replicate] at hlength
  omega

end Detection

end Lib.Crc
