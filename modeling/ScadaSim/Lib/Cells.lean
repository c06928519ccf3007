import Mathlib.Logic.Function.Basic

/-!
# Programs over cells

`Prog V α` is a program over a memory of numbered cells in regions, a cell of
region `r` holding a `V r`. Its run from a memory has a `result`, an `after`
and a `trace`: every access it makes, in order. Memories are total, so an access
past the end of an array has an entry in the trace like any other; whether there
is one is a question about the trace.

`Does.bind` composes programs that touch the same cells whatever these hold,
`Does.loop` is the rule of a counting loop over such a body, and `run_congr` says
that a run depends on the cells it reads before it writes them.
-/

namespace Lib.Cells

variable {R : Type} {V : R → Type} {α β σ : Type}

inductive Access (R : Type)
  | read (r : R) (i : Nat)
  | write (r : R) (i : Nat)
  deriving DecidableEq

abbrev Mem (V : R → Type) : Type := (r : R) → Nat → V r

inductive Prog (V : R → Type) (α : Type)
  | done (a : α)
  | read (r : R) (i : Nat) (next : V r → Prog V α)
  | write (r : R) (i : Nat) (v : V r) (next : Prog V α)

def Prog.bind : Prog V α → (α → Prog V β) → Prog V β
  | .done a, f => f a
  | .read r i next, f => .read r i fun v => (next v).bind f
  | .write r i v next, f => .write r i v (next.bind f)

instance : Monad (Prog V) where
  pure := .done
  bind := Prog.bind

/-- `region[i]`. -/
def cell (r : R) (i : Nat) : Prog V (V r) := .read r i .done

/-- `region[i] = v`. -/
def setCell (r : R) (i : Nat) (v : V r) : Prog V Unit := .write r i v (.done ())

/-! ## Traces -/

/-- Every cell of the trace is of `S`, or written before it is read. -/
def DefinedFrom (S : R → Nat → Prop) : List (Access R) → Prop
  | [] => True
  | .read r i :: rest => S r i ∧ DefinedFrom S rest
  | .write r i :: rest => DefinedFrom (fun r' j => S r' j ∨ (r' = r ∧ j = i)) rest

/-- The cells that are of `S` or written in a trace. -/
def Known (S : R → Nat → Prop) (t : List (Access R)) (r : R) (i : Nat) : Prop :=
  S r i ∨ .write r i ∈ t

theorem known_nil (S : R → Nat → Prop) : Known S [] = S := by
  funext r i
  simp [Known]

theorem known_read (S : R → Nat → Prop) (r : R) (i : Nat) (t : List (Access R)) :
    Known S (.read r i :: t) = Known S t := by
  funext r' j
  simp [Known]

theorem known_write (S : R → Nat → Prop) (r : R) (i : Nat) (t : List (Access R)) :
    Known S (.write r i :: t) = Known (fun r' j => S r' j ∨ (r' = r ∧ j = i)) t := by
  funext r' j
  simp [Known, or_assoc]

theorem definedFrom_append {S : R → Nat → Prop} {t u : List (Access R)} :
    DefinedFrom S (t ++ u) ↔ DefinedFrom S t ∧ DefinedFrom (Known S t) u := by
  induction t generalizing S with
  | nil => simp [DefinedFrom, known_nil]
  | cons a t ih =>
      cases a with
      | read r i => simp only [List.cons_append, DefinedFrom, ih, known_read, and_assoc]
      | write r i => simp only [List.cons_append, DefinedFrom, ih, known_write]

theorem definedFrom_of_reads {S : R → Nat → Prop} {t : List (Access R)}
    (h : ∀ r i, .read r i ∈ t → S r i) : DefinedFrom S t := by
  induction t generalizing S with
  | nil => exact True.intro
  | cons a t ih =>
      cases a with
      | read r i =>
          exact ⟨h r i (.head t), ih fun r' j hmem => h r' j (.tail _ hmem)⟩
      | write r i => exact ih fun r' j hmem => .inl (h r' j (.tail _ hmem))

/-! ## Runs -/

section Run

variable [DecidableEq R]

def Mem.store (m : Mem V) (r : R) (i : Nat) (v : V r) : Mem V :=
  Function.update m r (Function.update (m r) i v)

namespace Prog

def result : Prog V α → Mem V → α
  | .done a, _ => a
  | .read r i next, m => (next (m r i)).result m
  | .write r i v next, m => next.result (m.store r i v)

def after : Prog V α → Mem V → Mem V
  | .done _, m => m
  | .read r i next, m => (next (m r i)).after m
  | .write r i v next, m => next.after (m.store r i v)

def trace : Prog V α → Mem V → List (Access R)
  | .done _, _ => []
  | .read r i next, m => .read r i :: (next (m r i)).trace m
  | .write r i v next, m => .write r i :: next.trace (m.store r i v)

variable (m : Mem V)

@[simp] theorem result_bind (p : Prog V α) (f : α → Prog V β) :
    (p >>= f).result m = (f (p.result m)).result (p.after m) := by
  induction p generalizing m with
  | done a => rfl
  | read r i next ih => exact ih (m r i) m
  | write r i v next ih => exact ih (m.store r i v)

@[simp] theorem trace_bind (p : Prog V α) (f : α → Prog V β) :
    (p >>= f).trace m = p.trace m ++ (f (p.result m)).trace (p.after m) := by
  induction p generalizing m with
  | done a => rfl
  | read r i next ih =>
      show Access.read r i :: (next (m r i) >>= f).trace m = _
      rw [ih (m r i) m]
      rfl
  | write r i v next ih =>
      show Access.write r i :: (next >>= f).trace (m.store r i v) = _
      rw [ih (m.store r i v)]
      rfl

end Prog

/-! ## Programs that touch the same cells whatever these hold -/

/-- Whatever the memory holds, `p` makes the accesses `t` and ends in a value `P` holds of. -/
def Does (p : Prog V α) (t : List (Access R)) (P : α → Prop) : Prop :=
  ∀ m, p.trace m = t ∧ P (p.result m)

namespace Does

variable {p : Prog V α} {t u : List (Access R)} {P : α → Prop}

theorem pure {a : α} (h : P a) : Does (pure a : Prog V α) [] P := fun _ => ⟨rfl, h⟩

theorem cell (r : R) (i : Nat) : Does (cell r i : Prog V (V r)) [.read r i] fun _ => True :=
  fun _ => ⟨rfl, True.intro⟩

theorem setCell (r : R) (i : Nat) (v : V r) :
    Does (setCell r i v) [.write r i] fun _ => True :=
  fun _ => ⟨rfl, True.intro⟩

theorem congr (h : Does p t P) (htrace : t = u) : Does p u P := htrace ▸ h

theorem bind {f : α → Prog V β} {Q : β → Prop} (h : Does p t P)
    (hf : ∀ a, P a → Does (f a) u Q) : Does (p >>= f) (t ++ u) Q := by
  intro m
  obtain ⟨htrace, hresult⟩ := h m
  have hnext := hf _ hresult (p.after m)
  rw [Prog.trace_bind, Prog.result_bind, htrace, hnext.1]
  exact ⟨rfl, hnext.2⟩

/-- The loop `for (i = a; i < a + n; i++)`, with the invariant `I`. -/
theorem loop {f : σ → Nat → Prog V σ} {I : Nat → σ → Prop} {t : Nat → List (Access R)} {a n : Nat}
    {s : σ}
    (hturn : ∀ i s, a ≤ i → i < a + n → I i s → Does (f s i) (t i) (I (i + 1)))
    (hinit : I a s) :
    Does ((List.range' a n).foldlM f s) ((List.range' a n).flatMap t) (I (a + n)) := by
  induction n generalizing a s with
  | zero => exact pure hinit
  | succ n ih =>
      rw [List.range'_succ, List.foldlM_cons, List.flatMap_cons,
        show a + (n + 1) = a + 1 + n by omega]
      refine (hturn a s (Nat.le_refl a) (by omega) hinit).bind fun s' hs' => ih ?_ hs'
      intro i s hlow hhigh
      exact hturn i s (by omega) (by omega)

end Does

/-! ## What a run depends on -/

def Agree (S : R → Nat → Prop) (m m' : Mem V) : Prop := ∀ r i, S r i → m r i = m' r i

theorem Mem.store_self (m : Mem V) (r : R) (i : Nat) (v : V r) : m.store r i v r i = v := by
  simp [Mem.store]

theorem Mem.store_of_ne (m : Mem V) {r r' : R} {i j : Nat} (v : V r) (h : ¬ (r' = r ∧ j = i)) :
    m.store r i v r' j = m r' j := by
  by_cases hr : r' = r
  · subst hr
    have hj : j ≠ i := fun hj => h ⟨rfl, hj⟩
    simp [Mem.store, hj]
  · simp [Mem.store, hr]

theorem Agree.store {S : R → Nat → Prop} {m m' : Mem V} (h : Agree S m m') (r : R) (i : Nat)
    (v : V r) :
    Agree (fun r' j => S r' j ∨ (r' = r ∧ j = i)) (m.store r i v) (m'.store r i v) := by
  intro r' j hcell
  by_cases hself : r' = r ∧ j = i
  · obtain ⟨rfl, rfl⟩ := hself
    rw [m.store_self, m'.store_self]
  · rw [m.store_of_ne v hself, m'.store_of_ne v hself]
    exact h r' j (hcell.resolve_right hself)

/-- Runs from memories that agree on `S` agree on everything, if no other cell is read
before it is written. -/
theorem run_congr {S : R → Nat → Prop} {p : Prog V α} {m m' : Mem V}
    (hreads : DefinedFrom S (p.trace m)) (h : Agree S m m') :
    p.result m' = p.result m ∧ Agree (Known S (p.trace m)) (p.after m) (p.after m') := by
  induction p generalizing S m m' with
  | done a =>
      show a = a ∧ Agree (Known S []) m m'
      rw [known_nil]
      exact ⟨rfl, h⟩
  | read r i next ih =>
      obtain ⟨hhere, hrest⟩ := hreads
      show (next (m' r i)).result m' = (next (m r i)).result m ∧
        Agree (Known S (.read r i :: (next (m r i)).trace m)) ((next (m r i)).after m)
          ((next (m' r i)).after m')
      rw [known_read, ← h r i hhere]
      exact ih (m r i) hrest h
  | write r i v next ih =>
      show next.result (m'.store r i v) = next.result (m.store r i v) ∧
        Agree (Known S (.write r i :: next.trace (m.store r i v))) (next.after (m.store r i v))
          (next.after (m'.store r i v))
      rw [known_write]
      exact ih hreads (h.store r i v)

end Run

end Lib.Cells
