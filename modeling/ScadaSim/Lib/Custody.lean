import Mathlib.Logic.Function.Basic

/-!
# Items in custody

`held p n` says that the place `p` has the item `n` in its custody. A component
works on what it holds: it takes up nothing by itself, and from time to time it
hands over one item and gives up its place. `HandsOver` says so of one step; with
at most one place in use, nothing is held once an item is handed over.
-/

namespace Lib

variable {P Q N : Type}

/-- One place at most is in use. -/
def Single (held : P → N → Prop) : Prop :=
  ∀ p q m n, held p m → held q n → p = q

/-- The step from `held` to `held'` takes up nothing, and `out` is the item that it
hands over. -/
structure HandsOver (held held' : P → N → Prop) (out : Option N) : Prop where
  kept : ∀ p n, held' p n → held p n
  out : ∀ n, out = some n → ∃ p, held p n ∧ ∀ m, ¬ held' p m

namespace HandsOver

variable {held held' : P → N → Prop} {out : Option N}

theorem nothing (h : ∀ p n, held' p n → held p n) : HandsOver held held' none where
  kept := h
  out := nofun

/-- What happens before takes up nothing either. -/
theorem after {mid : P → N → Prop} (h : HandsOver mid held' out)
    (hmid : ∀ p n, mid p n → held p n) : HandsOver held held' out where
  kept := fun p n hp => hmid p n (h.kept p n hp)
  out := by
    intro n hn
    obtain ⟨p, hp, hgone⟩ := h.out n hn
    exact ⟨p, hmid p n hp, hgone⟩

/-- A step of one component, seen as a step of the whole system, in which the places
of the component are those that `place` gives. -/
theorem lift {part part' : Q → N → Prop} (h : HandsOver part part' out) (place : Q → P)
    (hbefore : ∀ q n, part q n → held (place q) n) (hafter : ∀ q n, held' (place q) n → part' q n)
    (hrest : ∀ p, (∀ q, p ≠ place q) → ∀ n, held' p n → held p n) : HandsOver held held' out where
  kept := by
    intro p n hp
    by_cases hplace : ∃ q, p = place q
    · obtain ⟨q, rfl⟩ := hplace
      exact hbefore q n (h.kept q n (hafter q n hp))
    · exact hrest p (fun q hq => hplace ⟨q, hq⟩) n hp
  out := by
    intro n hn
    obtain ⟨q, hq, hgone⟩ := h.out n hn
    exact ⟨place q, hbefore q n hq, fun m hm => hgone m (hafter q m hm)⟩

theorem single (h : HandsOver held held' out) (hone : Single held) : Single held' := by
  intro p q m n hp hq
  exact hone p q m n (h.kept p m hp) (h.kept q n hq)

/-- The item that is handed over was the only one. -/
theorem empty {n : N} (h : HandsOver held held' (some n)) (hone : Single held) :
    ∀ p m, ¬ held' p m := by
  intro p m hp
  obtain ⟨q, hq, hgone⟩ := h.out n rfl
  obtain rfl := hone p q m n (h.kept p m hp) hq
  exact hgone m hp

end HandsOver

end Lib
