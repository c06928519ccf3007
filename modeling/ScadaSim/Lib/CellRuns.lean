import ScadaSim.Lib.Cells

/-!
# Runs of programs over cells, step by step

`Runs p m a m'` says how `p` ends when it is started in the memory `m`. Programs are
composed by `Runs.bind`; a counting loop follows the states and memories that are given
for its turns (`Runs.loop`). `Mem.fill` is the memory with a stretch of a region replaced.
-/

namespace Lib.Cells

variable {R : Type} [DecidableEq R] {V : R → Type} {α β σ : Type}

/-! ## Filling a stretch -/

/-- The cells of `r` from `a` on hold `vs`. -/
def Mem.fill (m : Mem V) (r : R) (a : Nat) (vs : List (V r)) : Mem V :=
  Function.update m r fun i => if i < a then m r i else (vs[i - a]?).getD (m r i)

namespace Mem

variable (m : Mem V) (r : R)

@[simp] theorem fill_nil (a : Nat) : m.fill r a [] = m := by
  unfold fill
  simp

theorem fill_of_ne {r' : R} (h : r' ≠ r) (a : Nat) (vs : List (V r)) :
    m.fill r a vs r' = m r' :=
  Function.update_of_ne h _ _

theorem fill_self (a : Nat) (vs : List (V r)) (i : Nat) :
    m.fill r a vs r i = if i < a then m r i else (vs[i - a]?).getD (m r i) := by
  unfold fill
  rw [Function.update_self]

theorem fill_at {a i : Nat} {vs : List (V r)} {v : V r} (h : vs[i]? = some v) :
    m.fill r a vs r (a + i) = v := by
  rw [fill_self, if_neg (by omega), Nat.add_sub_cancel_left, h]
  rfl

theorem store_eq_fill (i : Nat) (v : V r) : m.store r i v = m.fill r i [v] := by
  unfold store fill
  congr 1
  funext j
  rcases Nat.lt_trichotomy j i with hlt | rfl | hgt
  · rw [Function.update_of_ne (Nat.ne_of_lt hlt), if_pos hlt]
  · simp
  · have hend : [v][j - i]? = none := List.getElem?_eq_none (by simp; omega)
    rw [Function.update_of_ne (Nat.ne_of_gt hgt), if_neg (by omega), hend]
    rfl

theorem fill_append (a : Nat) (vs ws : List (V r)) :
    (m.fill r a vs).fill r (a + vs.length) ws = m.fill r a (vs ++ ws) := by
  funext r'
  by_cases hr : r' = r
  · subst hr
    funext i
    rw [fill_self, fill_self, fill_self]
    rcases Nat.lt_or_ge i a with hlt | hge
    · have hin : i < a + vs.length := by omega
      rw [if_pos hin, if_pos hlt, if_pos hlt]
    · have hnot : ¬ i < a := Nat.not_lt.mpr hge
      rw [if_neg hnot, if_neg hnot]
      rcases Nat.lt_or_ge i (a + vs.length) with hin | hout
      · rw [if_pos hin, List.getElem?_append_left (by omega)]
      · rw [if_neg (Nat.not_lt.mpr hout), List.getElem?_append_right (by omega),
          List.getElem?_eq_none (show vs.length ≤ i - a by omega), Nat.sub_add_eq]
        rfl
  · rw [fill_of_ne _ _ hr, fill_of_ne _ _ hr, fill_of_ne _ _ hr]

/-- A stretch is replaced by one of its length. -/
theorem fill_middle (a : Nat) {us vs vs' ws : List (V r)} (h : vs'.length = vs.length) :
    (m.fill r a (us ++ vs ++ ws)).fill r (a + us.length) vs' = m.fill r a (us ++ vs' ++ ws) := by
  rw [← fill_append, ← fill_append, ← fill_append, ← fill_append, List.length_append,
    List.length_append, h]
  funext r'
  by_cases hr : r' = r
  · subst hr
    funext i
    simp only [fill_self]
    by_cases hfirst : i < a + us.length
    · have hbefore : i < a + (us.length + vs.length) := by omega
      simp only [if_pos hfirst, if_pos hbefore]
    · by_cases hin : i < a + (us.length + vs.length)
      · simp only [if_neg hfirst, if_pos hin]
        have hsome : i - (a + us.length) < vs'.length := by omega
        rw [List.getElem?_eq_getElem hsome]
        rfl
      · simp only [if_neg hfirst, if_neg hin]
        have hnone : vs'.length ≤ i - (a + us.length) := by omega
        have hnone' : vs.length ≤ i - (a + us.length) := by omega
        rw [List.getElem?_eq_none hnone, List.getElem?_eq_none hnone']
        rfl
  · simp only [fill_of_ne _ _ hr]

/-- A stretch is read back. -/
theorem map_fill (a : Nat) (vs : List (V r)) :
    (List.range' a vs.length).map (m.fill r a vs r) = vs := by
  apply List.ext_getElem
  · simp
  · intro i hi hlt
    rw [List.getElem_map, List.getElem_range', Nat.one_mul]
    exact fill_at m r (List.getElem?_eq_getElem hlt)

end Mem

/-! ## Runs -/

/-- Started in `m`, the program returns `a` and leaves `m'`. -/
structure Runs (p : Prog V α) (m : Mem V) (a : α) (m' : Mem V) : Prop where
  result : p.result m = a
  after : p.after m = m'

theorem Prog.after_bind (m : Mem V) (p : Prog V α) (f : α → Prog V β) :
    (p >>= f).after m = (f (p.result m)).after (p.after m) := by
  induction p generalizing m with
  | done a => rfl
  | read r i next ih => exact ih (m r i) m
  | write r i v next ih => exact ih (m.store r i v)

namespace Runs

variable {m m' m'' : Mem V}

theorem pure (a : α) : Runs (pure a : Prog V α) m a m := ⟨rfl, rfl⟩

theorem cell (r : R) (i : Nat) : Runs (cell r i : Prog V (V r)) m (m r i) m := ⟨rfl, rfl⟩

theorem setCell (r : R) (i : Nat) (v : V r) : Runs (setCell r i v) m () (m.fill r i [v]) :=
  ⟨rfl, m.store_eq_fill r i v⟩

theorem bind {p : Prog V α} {f : α → Prog V β} {a : α} {b : β} (h : Runs p m a m')
    (hf : Runs (f a) m' b m'') : Runs (p >>= f) m b m'' where
  result := by rw [Prog.result_bind, h.result, h.after, hf.result]
  after := by rw [Prog.after_bind, h.result, h.after, hf.after]

/-- The loop `for (i = a; i < a + n; i++)`: turn `k` takes the state `s k` and the memory
`mem k` to the next ones. -/
theorem loop {f : σ → Nat → Prog V σ} {a n : Nat} (s : Nat → σ) (mem : Nat → Mem V)
    (h : ∀ k, k < n → Runs (f (s k) (a + k)) (mem k) (s (k + 1)) (mem (k + 1))) :
    Runs ((List.range' a n).foldlM f (s 0)) (mem 0) (s n) (mem n) := by
  induction n generalizing a s mem with
  | zero => exact pure _
  | succ n ih =>
      rw [List.range'_succ, List.foldlM_cons]
      refine (h 0 (Nat.zero_lt_succ n)).bind (ih (fun k => s (k + 1)) (fun k => mem (k + 1)) ?_)
      intro k hk
      rw [Nat.add_right_comm]
      exact h (k + 1) (Nat.succ_lt_succ hk)

end Runs

end Lib.Cells
