import Mathlib.Data.List.Nodup
import Mathlib.Data.Nat.Find
import Mathlib.Logic.Function.Basic

/-!
# Shortest walks and next hops

Walks of a relation `E` to a target, their distance, and *next hops*: a
function that gives every vertex with a walk to the target the first vertex of
a shortest one.

* `NextHops.follow`: following next hops is a shortest walk.
* `NextHops.reroute`: any one shortest walk is followed by some next hops, so
  that what holds whatever next hops are used must hold on every shortest walk.
* `NextHops.of_label`: next hops are recognised by a labelling of the vertices
  that no edge decreases by more than one.
-/

namespace Lib.Walk

variable {V : Type}

/-- The vertices after `u` on a walk from `u` to `t`. -/
def IsWalk (E : V → V → Prop) : V → List V → V → Prop
  | u, [], t => u = t
  | u, v :: p, t => E u v ∧ IsWalk E v p t

variable {E : V → V → Prop}

theorem IsWalk.mono {F : V → V → Prop} (hEF : ∀ u v, E u v → F u v) {u t : V} {p : List V}
    (h : IsWalk E u p t) : IsWalk F u p t := by
  induction p generalizing u with
  | nil => exact h
  | cons v p ih => exact ⟨hEF u v h.1, ih h.2⟩

/-- From every vertex of a walk the rest of the walk leads on. -/
theorem IsWalk.suffix {u w t : V} {p : List V} (h : IsWalk E u p t) (hw : w ∈ u :: p) :
    ∃ q, IsWalk E w q t ∧ q.length ≤ p.length ∧ (w ≠ u → q.length < p.length) := by
  induction p generalizing u with
  | nil =>
      rw [List.mem_singleton] at hw
      subst hw
      exact ⟨[], h, Nat.le_refl _, fun hne => absurd rfl hne⟩
  | cons v p ih =>
      rcases List.mem_cons.mp hw with rfl | hw
      · exact ⟨v :: p, h, Nat.le_refl _, fun hne => absurd rfl hne⟩
      · obtain ⟨q, hq, hlen, -⟩ := ih h.2 hw
        exact ⟨q, hq, Nat.le_succ_of_le hlen, fun _ => Nat.lt_succ_of_le hlen⟩

/-! ## Distance -/

/-- The shortest walk from `u` to `t` has length `n`. -/
structure IsDist (E : V → V → Prop) (u t : V) (n : Nat) : Prop where
  walk : ∃ p, IsWalk E u p t ∧ p.length = n
  least : ∀ p, IsWalk E u p t → n ≤ p.length

theorem IsDist.unique {u t : V} {m n : Nat} (hm : IsDist E u t m) (hn : IsDist E u t n) :
    m = n := by
  obtain ⟨p, hp, hlp⟩ := hm.walk
  obtain ⟨q, hq, hlq⟩ := hn.walk
  have h1 := hm.least q hq
  have h2 := hn.least p hp
  omega

theorem IsWalk.exists_isDist {u t : V} {p : List V} (h : IsWalk E u p t) :
    ∃ n, IsDist E u t n := by
  classical
  have hex : ∃ n, ∃ q, IsWalk E u q t ∧ q.length = n := ⟨p.length, p, h, rfl⟩
  exact ⟨Nat.find hex, Nat.find_spec hex, fun q hq => Nat.find_min' hex ⟨q, hq, rfl⟩⟩

theorem isDist_zero (t : V) : IsDist E t t 0 :=
  ⟨⟨[], rfl, rfl⟩, fun _ _ => Nat.zero_le _⟩

theorem IsDist.eq_of_zero {u t : V} (h : IsDist E u t 0) : u = t := by
  obtain ⟨p, hp, hlen⟩ := h.walk
  rw [List.length_eq_zero_iff.mp hlen] at hp
  exact hp

/-- The walk `p` from `u` to `t` is a shortest one. -/
def IsShortest (E : V → V → Prop) (u : V) (p : List V) (t : V) : Prop :=
  IsWalk E u p t ∧ IsDist E u t p.length

theorem IsShortest.tail {u v t : V} {p : List V} (h : IsShortest E u (v :: p) t) :
    IsShortest E v p t := by
  obtain ⟨⟨huv, hp⟩, hdist⟩ := h
  refine ⟨hp, ⟨p, hp, rfl⟩, fun q hq => ?_⟩
  have hle := hdist.least (v :: q) ⟨huv, hq⟩
  exact Nat.le_of_succ_le_succ hle

theorem IsShortest.not_mem {u t : V} {p : List V} (h : IsShortest E u p t) : u ∉ p := by
  intro hu
  cases p with
  | nil => cases hu
  | cons v p =>
      obtain ⟨q, hq, hlen, -⟩ := h.1.2.suffix hu
      have hle := h.2.least q hq
      rw [List.length_cons] at hle
      omega

theorem IsShortest.nodup {u t : V} {p : List V} (h : IsShortest E u p t) :
    (u :: p).Nodup := by
  induction p generalizing u with
  | nil => exact List.nodup_singleton u
  | cons v p ih => exact List.nodup_cons.mpr ⟨h.not_mem, ih h.tail⟩

theorem IsDist.exists_isShortest {u t : V} {n : Nat} (h : IsDist E u t n) :
    ∃ p, IsShortest E u p t ∧ p.length = n := by
  obtain ⟨p, hp, rfl⟩ := h.walk
  exact ⟨p, ⟨hp, h⟩, rfl⟩

/-! ## Next hops -/

/-- The walk that next hops lead along. -/
def Follows (next : V → Option V) : V → List V → V → Prop :=
  IsWalk fun u v => next u = some v

/-- Next hops towards `t`: defined where there is a way to go, and each the
first step of a shortest walk. -/
structure NextHops (E : V → V → Prop) (t : V) (next : V → Option V) : Prop where
  dom : ∀ u, (∃ v, next u = some v) ↔ u ≠ t ∧ ∃ p, IsWalk E u p t
  edge : ∀ u v, next u = some v → E u v
  closer : ∀ u v, next u = some v → ∃ n, IsDist E v t n ∧ IsDist E u t (n + 1)

/-- Next hops lead to one vertex without a next hop, along one walk. -/
theorem Follows.end_unique {next : V → Option V} {u t t' : V} {p q : List V}
    (hp : Follows next u p t) (ht : next t = none) (ht' : next t' = none)
    (hq : Follows next u q t') : t = t' ∧ p = q := by
  induction p generalizing u q with
  | nil =>
      have hut : u = t := hp
      cases q with
      | nil => exact ⟨hut.symm.trans hq, rfl⟩
      | cons w q =>
          have huw : next u = some w := hq.1
          rw [hut, ht] at huw
          cases huw
  | cons v p ih =>
      have huv : next u = some v := hp.1
      cases q with
      | nil =>
          have hut : u = t' := hq
          rw [hut, ht'] at huv
          cases huv
      | cons w q =>
          have huw : next u = some w := hq.1
          rw [huv] at huw
          cases huw
          obtain ⟨heq, hpq⟩ := ih hp.2 hq.2
          exact ⟨heq, congrArg (v :: ·) hpq⟩

/-- A walk that next hops lead along is the only one to a vertex without a
next hop. -/
theorem Follows.unique {next : V → Option V} {t : V} (ht : next t = none) {u : V}
    {p q : List V} (hp : Follows next u p t) (hq : Follows next u q t) : p = q :=
  (hp.end_unique ht ht hq).2

theorem IsWalk.append {u v t : V} {p q : List V} (hp : IsWalk E u p v) (hq : IsWalk E v q t) :
    IsWalk E u (p ++ q) t := by
  induction p generalizing u with
  | nil =>
      have huv : u = v := hp
      rw [huv]
      exact hq
  | cons w p ih => exact ⟨hp.1, ih hp.2⟩

/-- On the way to a vertex without a next hop no vertex is visited twice. -/
theorem Follows.nodup {next : V → Option V} {t : V} (ht : next t = none) {u : V} {p : List V}
    (hp : Follows next u p t) : (u :: p).Nodup := by
  induction p generalizing u with
  | nil => exact List.nodup_singleton u
  | cons v p ih =>
      refine List.nodup_cons.mpr ⟨fun hu => ?_, ih hp.2⟩
      -- from the second visit a shorter way leads on
      obtain ⟨q, hq, hlen, -⟩ := IsWalk.suffix hp.2 hu
      have hpq : v :: p = q := Follows.unique ht hp hq
      rw [← hpq, List.length_cons] at hlen
      exact absurd hlen (Nat.not_succ_le_self _)

/-- Only the end of the way may be without a next hop. -/
theorem Follows.next_ne_none {next : V → Option V} {u t w : V} {p : List V}
    (hp : Follows next u p t) (hw : w ∈ u :: p) (hne : w ≠ t) : next w ≠ none := by
  obtain ⟨q, hq, -, -⟩ := IsWalk.suffix hp hw
  cases q with
  | nil => exact absurd hq hne
  | cons v q =>
      rw [show next w = some v from hq.1]
      exact Option.some_ne_none v

/-- Where every vertex above rank zero has a next hop of a lower rank, hops lead down to
rank zero, in no more of them than the rank. -/
theorem exists_follows_of_rank {next : V → Option V} {P : V → Prop} {rank : V → Nat}
    (hdown : ∀ u, P u → rank u ≠ 0 → ∃ v, next u = some v ∧ P v ∧ rank v < rank u) {u : V}
    (hu : P u) : ∃ p t, Follows next u p t ∧ P t ∧ rank t = 0 ∧ p.length ≤ rank u := by
  generalize hn : rank u = n
  induction n using Nat.strongRecOn generalizing u with
  | ind n ih =>
      by_cases hzero : rank u = 0
      · exact ⟨[], u, rfl, hu, hzero, Nat.zero_le n⟩
      · obtain ⟨v, hv, hPv, hlt⟩ := hdown u hu hzero
        obtain ⟨p, t, hp, ht, hrank, hlen⟩ := ih (rank v) (hn ▸ hlt) hPv rfl
        refine ⟨v :: p, t, ⟨hv, hp⟩, ht, hrank, ?_⟩
        rw [List.length_cons]
        omega

namespace NextHops

variable {t : V} {next : V → Option V}

theorem target (h : NextHops E t next) : next t = none := by
  cases hn : next t with
  | none => rfl
  | some v => exact absurd rfl ((h.dom t).mp ⟨v, hn⟩).1

/-- Each followed hop adds one to the distance. -/
theorem isDist (h : NextHops E t next) {u w : V} {p : List V} {n : Nat}
    (hp : Follows next u p w) (hw : IsDist E w t n) : IsDist E u t (n + p.length) := by
  induction p generalizing u with
  | nil =>
      have huw : u = w := hp
      rw [huw]
      exact hw
  | cons v p ih =>
      obtain ⟨m, hm, hu⟩ := h.closer u v hp.1
      rw [hm.unique (ih hp.2)] at hu
      exact hu

theorem isShortest (h : NextHops E t next) {u : V} {p : List V} (hp : Follows next u p t) :
    IsShortest E u p t := by
  have hdist := h.isDist hp (isDist_zero t)
  rw [Nat.zero_add] at hdist
  exact ⟨hp.mono h.edge, hdist⟩

/-- Following next hops leads to the target, on a shortest walk. -/
theorem follow (h : NextHops E t next) {u : V} {n : Nat} (hu : IsDist E u t n) :
    ∃ p, Follows next u p t ∧ p.length = n := by
  induction n generalizing u with
  | zero => exact ⟨[], hu.eq_of_zero, rfl⟩
  | succ n ih =>
      have hne : u ≠ t := by
        rintro rfl
        exact absurd (hu.unique (isDist_zero u)) (Nat.succ_ne_zero n)
      obtain ⟨q, hq, -⟩ := hu.walk
      obtain ⟨v, hv⟩ := (h.dom u).mpr ⟨hne, q, hq⟩
      obtain ⟨m, hm, hum⟩ := h.closer u v hv
      have hmn : m = n := Nat.succ.inj (hum.unique hu)
      rw [hmn] at hm
      obtain ⟨p, hp, hlen⟩ := ih hm
      exact ⟨v :: p, ⟨hv, hp⟩, congrArg (· + 1) hlen⟩

/-- Next hops are towards one target, seen from any vertex with a way to go. -/
theorem target_unique {F : V → V → Prop} {t' u : V} (h : NextHops E t next)
    (h' : NextHops F t' next) (hu : ∃ p, IsWalk E u p t) (hu' : ∃ p, IsWalk F u p t') : t = t' := by
  obtain ⟨p, hp⟩ := hu
  obtain ⟨n, hn⟩ := hp.exists_isDist
  obtain ⟨q, hq, -⟩ := h.follow hn
  obtain ⟨p', hp'⟩ := hu'
  obtain ⟨n', hn'⟩ := hp'.exists_isDist
  obtain ⟨q', hq', -⟩ := h'.follow hn'
  exact (hq.end_unique h.target h'.target hq').1

end NextHops

/-- Every target has next hops. -/
theorem exists_nextHops (E : V → V → Prop) (t : V) : ∃ next, NextHops E t next := by
  classical
  have hstep : ∀ u, ∃ o : Option V, ((∃ v, o = some v) ↔ u ≠ t ∧ ∃ p, IsWalk E u p t) ∧
      ∀ v, o = some v → E u v ∧ ∃ n, IsDist E v t n ∧ IsDist E u t (n + 1) := by
    intro u
    by_cases hu : u ≠ t ∧ ∃ p, IsWalk E u p t
    · obtain ⟨hne, p, hp⟩ := hu
      obtain ⟨n, hn⟩ := hp.exists_isDist
      obtain ⟨q, hq, hlen⟩ := hn.exists_isShortest
      cases q with
      | nil => exact absurd hq.1 hne
      | cons v q =>
          refine ⟨some v, iff_of_true ⟨v, rfl⟩ ⟨hne, p, hp⟩, ?_⟩
          rintro w ⟨⟩
          exact ⟨hq.1.1, q.length, hq.tail.2, hq.2⟩
    · refine ⟨none, iff_of_false ?_ hu, ?_⟩
      · rintro ⟨v, ⟨⟩⟩
      · rintro v ⟨⟩
  choose next hnext using hstep
  exact ⟨next, fun u => (hnext u).1, fun u v h => ((hnext u).2 v h).1,
    fun u v h => ((hnext u).2 v h).2⟩

/-- A next hop changed at a vertex that is not on the way changes nothing. -/
theorem Follows.update_of_not_mem [DecidableEq V] {next : V → Option V} {u w t : V} {q : List V}
    (h : Follows next w q t) (v : V) (hu : u ∉ w :: q) :
    Follows (Function.update next u (some v)) w q t := by
  induction q generalizing w with
  | nil => exact h
  | cons x q ih =>
      have hwu : w ≠ u := fun hwu => hu (hwu ▸ List.mem_cons_self)
      refine ⟨?_, ih h.2 fun hx => hu (List.mem_cons_of_mem w hx)⟩
      show Function.update next u (some v) w = some x
      rw [Function.update_of_ne hwu]
      exact h.1

/-- Any shortest walk is followed by some next hops. -/
theorem NextHops.reroute [DecidableEq V] {t : V} {next : V → Option V}
    (h : NextHops E t next) {u : V} {p : List V} (hp : IsShortest E u p t) :
    ∃ next', NextHops E t next' ∧ Follows next' u p t := by
  induction p generalizing u with
  | nil => exact ⟨next, h, hp.1⟩
  | cons v p ih =>
      obtain ⟨next', h', hfollow⟩ := ih hp.tail
      refine ⟨Function.update next' u (some v), ⟨?_, ?_, ?_⟩, Function.update_self .., ?_⟩
      · intro w
        by_cases hw : w = u
        · subst hw
          have hne : w ≠ t := by
            rintro rfl
            exact absurd (hp.2.unique (isDist_zero w)) (Nat.succ_ne_zero _)
          exact iff_of_true ⟨v, Function.update_self ..⟩ ⟨hne, _, hp.1⟩
        · rw [Function.update_of_ne hw]
          exact h'.dom w
      · intro w x hx
        by_cases hw : w = u
        · subst hw
          rw [Function.update_self] at hx
          cases hx
          exact hp.1.1
        · rw [Function.update_of_ne hw] at hx
          exact h'.edge w x hx
      · intro w x hx
        by_cases hw : w = u
        · subst hw
          rw [Function.update_self] at hx
          cases hx
          exact ⟨p.length, hp.tail.2, hp.2⟩
        · rw [Function.update_of_ne hw] at hx
          exact h'.closer w x hx
      · -- the walk does not come back to `u`, where the next hop was changed
        exact hfollow.update_of_not_mem v hp.not_mem

/-! ## Recognising next hops -/

/-- A walk is at least as long as the label of its start, where no edge leads
more than one down. -/
theorem IsWalk.exists_label_le {t : V} {label : V → Option Nat} (htarget : label t = some 0)
    (hedge : ∀ u v n, E u v → label v = some n → ∃ m, label u = some m ∧ m ≤ n + 1)
    {u : V} {p : List V} (hp : IsWalk E u p t) : ∃ m, label u = some m ∧ m ≤ p.length := by
  induction p generalizing u with
  | nil =>
      have hut : u = t := hp
      exact ⟨0, hut ▸ htarget, Nat.le_refl _⟩
  | cons v p ih =>
      obtain ⟨n, hn, hle⟩ := ih hp.2
      obtain ⟨m, hm, hmn⟩ := hedge u v n hp.1 hn
      exact ⟨m, hm, Nat.le_trans hmn (Nat.succ_le_succ hle)⟩

/-- Such a label is the distance, where every other vertex that has one has an
edge that leads one down. -/
theorem isDist_of_label {t : V} {label : V → Option Nat} (htarget : label t = some 0)
    (hedge : ∀ u v n, E u v → label v = some n → ∃ m, label u = some m ∧ m ≤ n + 1)
    (hdown : ∀ u n, u ≠ t → label u = some n →
      ∃ v m, E u v ∧ label v = some m ∧ label u = some (m + 1))
    {n : Nat} {u : V} (hu : label u = some n) : IsDist E u t n := by
  induction n generalizing u with
  | zero =>
      have hut : u = t := by
        by_contra hne
        obtain ⟨v, m, -, -, hm⟩ := hdown u 0 hne hu
        rw [hu] at hm
        cases hm
      rw [hut]
      exact isDist_zero t
  | succ n ih =>
      have hne : u ≠ t := by
        rintro rfl
        rw [htarget] at hu
        cases hu
      obtain ⟨v, m, huv, hv, hum⟩ := hdown u (n + 1) hne hu
      rw [hu] at hum
      cases hum
      obtain ⟨p, hp, hlen⟩ := (ih hv).walk
      refine ⟨⟨v :: p, ⟨huv, hp⟩, congrArg (· + 1) hlen⟩, fun q hq => ?_⟩
      obtain ⟨m', hm', hle⟩ := hq.exists_label_le htarget hedge
      rw [hu] at hm'
      cases hm'
      exact hle

/-- A labelling of the vertices that is zero at the target only, by which no
edge leads more than one down and every next hop leads one down, is the
distance; so the next hops are next hops. -/
theorem NextHops.of_label {t : V} {next : V → Option V} (label : V → Option Nat)
    (htarget : label t = some 0)
    (hedge : ∀ u v n, E u v → label v = some n → ∃ m, label u = some m ∧ m ≤ n + 1)
    (hdom : ∀ u, (∃ v, next u = some v) ↔ u ≠ t ∧ ∃ n, label u = some n)
    (hnext : ∀ u v, next u = some v →
      E u v ∧ ∃ n, label v = some n ∧ label u = some (n + 1)) :
    NextHops E t next := by
  have hdown : ∀ u n, u ≠ t → label u = some n →
      ∃ v m, E u v ∧ label v = some m ∧ label u = some (m + 1) := by
    intro u n hne hu
    obtain ⟨v, hv⟩ := (hdom u).mpr ⟨hne, n, hu⟩
    obtain ⟨huv, m, hm, hum⟩ := hnext u v hv
    exact ⟨v, m, huv, hm, hum⟩
  have hdist : ∀ {n : Nat} {u : V}, label u = some n → IsDist E u t n :=
    isDist_of_label htarget hedge hdown
  refine ⟨fun u => ?_, fun u v h => (hnext u v h).1, fun u v h => ?_⟩
  · rw [hdom u]
    constructor
    · rintro ⟨hne, n, hn⟩
      obtain ⟨p, hp, -⟩ := (hdist hn).walk
      exact ⟨hne, p, hp⟩
    · rintro ⟨hne, p, hp⟩
      obtain ⟨m, hm, -⟩ := hp.exists_label_le htarget hedge
      exact ⟨hne, m, hm⟩
  · obtain ⟨-, n, hv, hu⟩ := hnext u v h
    exact ⟨n, hdist hv, hdist hu⟩

end Lib.Walk
