import Mathlib.Init

/-!
# Postconditions of computations that may fail

`Ensures bad P x` says of `x : Except ε α` that its result, if there is one,
satisfies `P`, and that its failure, if it fails, is none of the `bad` ones.
The rules follow the monad: `Ensures.bind` composes postconditions,
`Ensures.mono` weakens them. `Post` is the case where no failure is a bad one.
-/

namespace Lib

variable {ε α β : Type}

def Ensures (bad : ε → Prop) (P : α → Prop) : Except ε α → Prop
  | .ok a => P a
  | .error e => ¬ bad e

namespace Ensures

variable {bad : ε → Prop} {P Q : α → Prop} {R : β → Prop}

@[simp] theorem ok_iff {a : α} : Ensures bad P (.ok a) ↔ P a := Iff.rfl

/-- Nothing is asked of the result, and no failure is a bad one. -/
theorem of_never (h : ∀ e, ¬ bad e) (x : Except ε α) : Ensures bad (fun _ => True) x := by
  cases x with
  | ok a => exact True.intro
  | error e => exact h e

theorem mono {x : Except ε α} (h : Ensures bad P x) (hPQ : ∀ a, P a → Q a) :
    Ensures bad Q x := by
  cases x with
  | ok a => exact hPQ a h
  | error e => exact h

theorem bind {x : Except ε α} {f : α → Except ε β} (h : Ensures bad P x)
    (hf : ∀ a, P a → Ensures bad R (f a)) : Ensures bad R (x >>= f) := by
  cases x with
  | ok a => exact hf a h
  | error e => exact h

theorem of_ok {x : Except ε α} {a : α} (h : Ensures bad P x) (hx : x = .ok a) : P a := by
  rw [hx] at h
  exact h

end Ensures

/-- What is said is about the result alone. -/
abbrev Post (P : α → Prop) (x : Except ε α) : Prop := Ensures (fun _ => False) P x

namespace Post

variable {P : α → Prop}

@[simp] theorem error (e : ε) : Post P (.error e) := id

theorem intro {x : Except ε α} (h : ∀ a, x = .ok a → P a) : Post P x := by
  cases x with
  | ok a => exact h a rfl
  | error e => exact error e

/-- Whatever the first computation returns. -/
theorem bind_any {R : β → Prop} {x : Except ε α} {f : α → Except ε β} (hf : ∀ a, Post R (f a)) :
    Post R (x >>= f) :=
  Ensures.bind (Ensures.of_never (fun _ => id) x) fun a _ => hf a

theorem bind_ok {R : β → Prop} {x : Except ε α} {f : α → Except ε β}
    (hf : ∀ a, x = .ok a → Post R (f a)) : Post R (x >>= f) :=
  Ensures.bind (intro fun _ h => h) hf

end Post

@[simp] theorem ok_bind (a : α) (f : α → Except ε β) : (Except.ok a >>= f) = f a := rfl

theorem bind_eq {x : Except ε α} {f : α → Except ε β} {a : α} {y : Except ε β} (hx : x = .ok a)
    (hf : f a = y) : (x >>= f) = y := by
  rw [hx]
  exact hf

theorem ok_of_bind {x : Except ε α} {f : α → Except ε β} {b : β} (h : (x >>= f) = .ok b) :
    ∃ a, x = .ok a ∧ f a = .ok b := by
  cases x with
  | ok a => exact ⟨a, rfl, h⟩
  | error e => cases h

end Lib
