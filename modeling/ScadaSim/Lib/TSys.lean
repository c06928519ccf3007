import Mathlib.Order.Basic

/-!
# Labelled transition systems and their runs

A system is a set of start states and a labelled step relation. Two ways of
looking at its executions are used side by side:

* `Reachable` forgets the steps taken; `Inductive.invariant` packages the
  induction over it once;
* `Run` keeps them, as the list of labels with the states they lead to, so
  that a condition on the *steps* of an execution (`Guarded`) can be compared
  with a property of the *states* it visits (`Always`).

`Run.always_iff_guarded` is the comparison: where a guard decides, step by
step, whether a property survives, it decides for every whole run whether the
property holds in all the states the run visits.
-/

namespace Lib

/-- A labelled transition system over states `σ` and labels `α`. -/
structure TSys (σ α : Type) where
  init : σ → Prop
  step : σ → α → σ → Prop

namespace TSys

variable {σ α : Type} (T : TSys σ α)

/-- The states some execution visits. -/
inductive Reachable : σ → Prop
  | init {s : σ} : T.init s → Reachable s
  | step {s t : σ} {a : α} : Reachable s → T.step s a t → Reachable t

/-- `P` holds in every reachable state. -/
def Invariant (P : σ → Prop) : Prop := ∀ s, T.Reachable s → P s

/-- `P` holds at the start and every step preserves it. -/
structure Inductive (P : σ → Prop) : Prop where
  init : ∀ s, T.init s → P s
  step : ∀ s a t, P s → T.step s a t → P t

theorem Inductive.invariant {T : TSys σ α} {P : σ → Prop} (h : T.Inductive P) :
    T.Invariant P := by
  intro s hs
  induction hs with
  | init h0 => exact h.init _ h0
  | step _ hstep ih => exact h.step _ _ _ ih hstep

/-! ## Runs -/

/-- The steps of a run from `s`: each label with the state it leads to. -/
def Run : σ → List (α × σ) → Prop
  | _, [] => True
  | s, (a, t) :: rest => T.step s a t ∧ Run t rest

/-- `C` holds of every step, judged in the state before it. -/
def Guarded (C : σ → α → Prop) : σ → List (α × σ) → Prop
  | _, [] => True
  | s, (a, t) :: rest => C s a ∧ Guarded C t rest

instance decidableGuarded {C : σ → α → Prop} [∀ s a, Decidable (C s a)] :
    (s : σ) → (tr : List (α × σ)) → Decidable (Guarded C s tr)
  | _, [] => .isTrue trivial
  | s, (a, t) :: rest =>
      have : Decidable (Guarded C t rest) := decidableGuarded t rest
      inferInstanceAs (Decidable (C s a ∧ Guarded C t rest))

/-- `P` holds in every state the run visits, the first one included. -/
def Always (P : σ → Prop) : σ → List (α × σ) → Prop
  | s, [] => P s
  | s, (_, t) :: rest => P s ∧ Always P t rest

/-- The state a run ends in. -/
def finish : σ → List (α × σ) → σ
  | s, [] => s
  | _, (_, t) :: rest => finish t rest

variable {T}

theorem Always.head {P : σ → Prop} {s : σ} {tr : List (α × σ)} (h : Always P s tr) :
    P s := by
  cases tr with
  | nil => exact h
  | cons _ _ => exact h.1

theorem Always.last {P : σ → Prop} {s : σ} {tr : List (α × σ)} (h : Always P s tr) :
    P (finish s tr) := by
  induction tr generalizing s with
  | nil => exact h
  | cons at' rest ih => exact ih h.2

/-- What every step preserves holds along every run. -/
theorem Run.always {I : σ → Prop} (hI : ∀ s a t, I s → T.step s a t → I t) {s : σ}
    {tr : List (α × σ)} (hrun : T.Run s tr) (hs : I s) : Always I s tr := by
  induction tr generalizing s with
  | nil => exact hs
  | cons at' rest ih =>
      obtain ⟨hstep, hrest⟩ := hrun
      exact ⟨hs, ih hrest (hI _ _ _ hs hstep)⟩

/-- What every guarded step preserves holds along every guarded run. -/
theorem Run.always_of_guarded {I : σ → Prop} {C : σ → α → Prop}
    (hI : ∀ s a t, I s → C s a → T.step s a t → I t) {s : σ} {tr : List (α × σ)}
    (hrun : T.Run s tr) (hC : Guarded C s tr) (hs : I s) : Always I s tr := by
  induction tr generalizing s with
  | nil => exact hs
  | cons at' rest ih =>
      obtain ⟨hstep, hrest⟩ := hrun
      exact ⟨hs, ih hrest hC.2 (hI _ _ _ hs hC.1 hstep)⟩

theorem Always.mono {P Q : σ → Prop} (hPQ : ∀ s, P s → Q s) {s : σ} {tr : List (α × σ)}
    (h : Always P s tr) : Always Q s tr := by
  induction tr generalizing s with
  | nil => exact hPQ s h
  | cons at' rest ih => exact ⟨hPQ s h.1, ih h.2⟩

/-- A run from a reachable state stays in the reachable states. -/
theorem Run.reachable {s : σ} {tr : List (α × σ)} (hrun : T.Run s tr)
    (hs : T.Reachable s) : Always T.Reachable s tr :=
  hrun.always (fun _ _ _ hr hstep => .step hr hstep) hs

/-- A step-wise exact guard is exact for whole runs: when `I` is preserved by
every step and, from a state where both `I` and `P` hold, a step keeps `P`
just when its guard holds, then `P` holds all along a run just when all its
steps are guarded. -/
theorem Run.always_iff_guarded {I P : σ → Prop} {C : σ → α → Prop}
    (hI : ∀ s a t, I s → T.step s a t → I t)
    (hP : ∀ s a t, I s → P s → T.step s a t → (P t ↔ C s a))
    {s : σ} {tr : List (α × σ)} (hrun : T.Run s tr) (hIs : I s) (hPs : P s) :
    Always P s tr ↔ Guarded C s tr := by
  induction tr generalizing s with
  | nil => simp [Always, Guarded, hPs]
  | cons at' rest ih =>
      obtain ⟨a, t⟩ := at'
      obtain ⟨hstep, hrest⟩ := hrun
      have hIt : I t := hI s a t hIs hstep
      have hkeep : P t ↔ C s a := hP s a t hIs hPs hstep
      constructor
      · rintro ⟨-, hrestP⟩
        have hPt : P t := hrestP.head
        exact ⟨hkeep.mp hPt, (ih hrest hIt hPt).mp hrestP⟩
      · rintro ⟨hC, hrestC⟩
        have hPt : P t := hkeep.mpr hC
        exact ⟨hPs, (ih hrest hIt hPt).mpr hrestC⟩

/-- The same with an invariant that only guarded steps preserve: an unguarded step
breaks the property at once. -/
theorem Run.always_iff_guarded_of {J P : σ → Prop} {C : σ → α → Prop} (hJP : ∀ s, J s → P s)
    (hkeep : ∀ s a t, J s → C s a → T.step s a t → J t)
    (hbreak : ∀ s a t, J s → ¬ C s a → T.step s a t → ¬ P t) {s : σ} {tr : List (α × σ)}
    (hrun : T.Run s tr) (hJs : J s) : Always P s tr ↔ Guarded C s tr := by
  induction tr generalizing s with
  | nil => simp [Always, Guarded, hJP s hJs]
  | cons at' rest ih =>
      obtain ⟨a, t⟩ := at'
      obtain ⟨hstep, hrest⟩ := hrun
      by_cases hC : C s a
      · have hJt : J t := hkeep s a t hJs hC hstep
        simp [Always, Guarded, hJP s hJs, hC, ih hrest hJt]
      · have hPt : ¬ P t := hbreak s a t hJs hC hstep
        constructor
        · intro h
          exact absurd h.2.head hPt
        · intro h
          exact absurd h.1 hC

/-! ## What can still be reached -/

variable (T) in
/-- Some run from `s` ends where `P` holds. -/
def CanReach (P : σ → Prop) (s : σ) : Prop := ∃ tr, T.Run s tr ∧ P (finish s tr)

theorem CanReach.here {P : σ → Prop} {s : σ} (h : P s) : T.CanReach P s := ⟨[], trivial, h⟩

theorem CanReach.step {P : σ → Prop} {s t : σ} {a : α} (hstep : T.step s a t)
    (h : T.CanReach P t) : T.CanReach P s := by
  obtain ⟨tr, hrun, hend⟩ := h
  exact ⟨(a, t) :: tr, ⟨hstep, hrun⟩, hend⟩

/-- What no step leaves is a trap. -/
theorem not_canReach_of_trap {I P : σ → Prop} (hI : ∀ s a t, I s → T.step s a t → I t)
    (hP : ∀ s, I s → ¬ P s) {s : σ} (hs : I s) : ¬ T.CanReach P s := by
  rintro ⟨tr, hrun, hend⟩
  exact hP _ (hrun.always hI hs).last hend

/-! ## Runs of an executable step -/

/-- The run a list of labels takes, up to the first label that is refused. -/
def trace (step : σ → α → Option σ) (s : σ) : List α → List (α × σ)
  | [] => []
  | a :: rest =>
      match step s a with
      | none => []
      | some t => (a, t) :: trace step t rest

theorem run_trace {step : σ → α → Option σ}
    (hstep : ∀ s a t, step s a = some t → T.step s a t) (s : σ) (labels : List α) :
    T.Run s (trace step s labels) := by
  induction labels generalizing s with
  | nil => trivial
  | cons a rest ih =>
      unfold trace
      cases h : step s a with
      | none => trivial
      | some t => exact ⟨hstep s a t h, ih t⟩

end TSys

end Lib
