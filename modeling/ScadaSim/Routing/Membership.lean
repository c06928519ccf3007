import ScadaSim.Lib.Text
import ScadaSim.Routing.Addresses

/-!
# The AS of a router-level node

`getRouterLevelNodes` searches the path of a node for the name of an AS with a dot
behind it, and for nothing in front of it. It finds names that merely end in the name
of the AS, and not the name of an AS in a module vector, which has its index behind it.
`belongs_iff_namesApart` says for which names neither makes a difference.
-/

namespace ScadaSim.Routing

open Lib Lib.Text

/-! ## Names and dots -/

theorem Component.not_mem_name (c : Component) {x : Char} (hx : isIdentifierChar x = false) :
    x ∉ c.name := by
  intro hmem
  have hchar := List.all_eq_true.mp c.identifier.2 x hmem
  rw [hx] at hchar
  cases hchar

theorem Component.dot_not_mem (c : Component) : '.' ∉ c.fullName := by
  have hname := c.not_mem_name (show isIdentifierChar '.' = false from rfl)
  unfold Component.fullName
  split
  · exact hname
  · rename_i i _
    have hdigits : '.' ∉ Nat.toDigits 10 i := fun h =>
      absurd (Nat.isDigit_of_mem_toDigits (by decide) (by decide) h) (by decide)
    simp [hname, hdigits]

/-- The name of a vector element ends in its index. -/
theorem Component.suffix_fullName_iff (c : Component) {name : Str} (hne : name ≠ [])
    (hname : ']' ∉ name) : name <:+ c.fullName ↔ c.index = none ∧ name <:+ c.name := by
  unfold Component.fullName
  cases c.index with
  | none => simp
  | some i =>
      refine iff_of_false ?_ (by simp)
      rintro ⟨front, hfront⟩
      have hlast := congrArg List.getLast? hfront
      rw [List.getLast?_append_of_ne_nil _ hne] at hlast
      simp only [List.getLast?_append, List.getLast?_cons] at hlast
      exact hname (List.mem_of_getLast? (by simpa using hlast))

/-- The search finds the end of a module above the last one. -/
theorem infix_joinPath_iff {name : Str} (hname : '.' ∉ name) (ancestors : List Component)
    (self : Component) :
    name ++ ['.'] <:+: joinPath (ancestors ++ [self]) ↔ ∃ c ∈ ancestors, name <:+ c.fullName := by
  induction ancestors with
  | nil =>
      have hself := self.dot_not_mem
      refine iff_of_false (fun h => hself (h.subset (by simp))) (by simp)
  | cons c ancestors ih =>
      have hjoin : joinPath (c :: (ancestors ++ [self])) =
          c.fullName ++ '.' :: joinPath (ancestors ++ [self]) := by
        cases ancestors with
        | nil => rfl
        | cons c' rest => rfl
      rw [List.cons_append, hjoin, concat_infix_iff hname c.dot_not_mem, ih]
      simp

/-- What `getRouterLevelNodes` finds. -/
theorem getRouterLevelNodes_iff {m : NedModule} (hrl : m.hasProperty "RL" = true) {name : Str}
    (hne : name ≠ []) (hname : name.all isIdentifierChar = true) :
    getRouterLevelNodes m name = true ↔
      ∃ c ∈ m.ancestors, c.index = none ∧ name <:+ c.name := by
  have hchar {x : Char} (hx : isIdentifierChar x = false) : x ∉ name := by
    intro hmem
    have hchar := List.all_eq_true.mp hname x hmem
    rw [hx] at hchar
    cases hchar
  have hfind : getRouterLevelNodes m name = true ↔ name ++ ['.'] <:+: m.fullPath := by
    unfold getRouterLevelNodes
    dsimp only
    cases hscan : Scan.find (name ++ ['.']) m.fullPath with
    | none => exact iff_of_false (by simp) (Scan.find_eq_none_iff.mp hscan)
    | some i =>
        refine iff_of_true (by simp [hrl]) ?_
        by_contra hno
        rw [Scan.find_eq_none_iff.mpr hno] at hscan
        cases hscan
  rw [hfind]
  unfold NedModule.fullPath NedModule.path
  rw [infix_joinPath_iff (hchar rfl)]
  simp only [Component.suffix_fullName_iff _ hne (hchar (x := ']') rfl)]

/-! ## Networks of ASs -/

/-- The module `a` is one of those around `m`. -/
def NedModule.IsAbove (a m : NedModule) : Prop := a.path <+: m.ancestors

/-- A network with its AS modules, which have names of their own, and paths that
`nodeInfoAS` makes a record of. -/
structure AsNetwork where
  modules : List NedModule
  asModules : List NedModule
  names : (asModules.map NedModule.name).Nodup
  accepted : ∀ a ∈ asModules, ∃ uninit addr netmask info,
    nodeInfoAS uninit addr netmask a.module = .ok info

namespace AsNetwork

/-- `m` is a router-level node. -/
def IsNode (net : AsNetwork) (m : NedModule) : Prop :=
  m ∈ net.modules ∧ m.hasProperty "RL" = true

/-- No AS is inside another one. -/
def Flat (net : AsNetwork) : Prop :=
  ∀ a ∈ net.asModules, ∀ b ∈ net.asModules, ¬ a.IsAbove b

/-- A node is extracted for the names of the modules around it; where no AS is inside
another one, it is extracted for its own AS and for no other. -/
structure Belongs (net : AsNetwork) : Prop where
  named : ∀ a ∈ net.asModules, ∀ m, net.IsNode m →
    (getRouterLevelNodes m a.name = true ↔ ∃ c ∈ m.ancestors, c.name = a.name)
  own : net.Flat → ∀ m, net.IsNode m → ∀ a ∈ net.asModules, a.IsAbove m →
    ∀ b ∈ net.asModules, getRouterLevelNodes m b.name = true ↔ b = a

/-- What the names around the nodes have to be like. -/
structure NamesApart (net : AsNetwork) : Prop where
  /-- A name that ends in the name of an AS stands beside that name. -/
  ends : ∀ a ∈ net.asModules, ∀ m, net.IsNode m → ∀ c ∈ m.ancestors, c.index = none →
    a.name <:+ c.name → ∃ c' ∈ m.ancestors, c'.name = a.name
  /-- The name of an AS is not only that of a vector element. -/
  vectors : ∀ a ∈ net.asModules, ∀ m, net.IsNode m → ∀ c ∈ m.ancestors, c.name = a.name →
    ∃ c' ∈ m.ancestors, c'.index = none ∧ a.name <:+ c'.name
  /-- Around a node of one AS no module has the name of another AS. -/
  owners : net.Flat → ∀ m, net.IsNode m → ∀ a ∈ net.asModules, a.IsAbove m →
    ∀ b ∈ net.asModules, b ≠ a → ∀ c ∈ m.ancestors, c.name ≠ b.name

theorem self_mem_ancestors {a m : NedModule} (h : a.IsAbove m) : a.self ∈ m.ancestors :=
  h.subset (by simp [NedModule.path])

theorem found_iff {net : AsNetwork} {m : NedModule} (hm : net.IsNode m) (a : NedModule) :
    getRouterLevelNodes m a.name = true ↔
      ∃ c ∈ m.ancestors, c.index = none ∧ a.name <:+ c.name :=
  getRouterLevelNodes_iff hm.2 a.self.identifier.1 a.self.identifier.2

theorem belongs_iff_namesApart (net : AsNetwork) : net.Belongs ↔ net.NamesApart := by
  constructor
  · intro h
    refine ⟨?_, ?_, ?_⟩
    · intro a ha m hm c hc hindex hsuffix
      exact (h.named a ha m hm).mp ((found_iff hm a).mpr ⟨c, hc, hindex, hsuffix⟩)
    · intro a ha m hm c hc hname
      exact (found_iff hm a).mp ((h.named a ha m hm).mpr ⟨c, hc, hname⟩)
    · intro hflat m hm a ha habove b hb hother c hc hname
      have hfound := (h.named b hb m hm).mpr ⟨c, hc, hname⟩
      exact hother ((h.own hflat m hm a ha habove b hb).mp hfound)
  · intro h
    have hnamed (a : NedModule) (ha : a ∈ net.asModules) (m : NedModule) (hm : net.IsNode m) :
        getRouterLevelNodes m a.name = true ↔ ∃ c ∈ m.ancestors, c.name = a.name := by
      rw [found_iff hm a]
      constructor
      · rintro ⟨c, hc, hindex, hsuffix⟩
        exact h.ends a ha m hm c hc hindex hsuffix
      · rintro ⟨c, hc, hname⟩
        exact h.vectors a ha m hm c hc hname
    refine ⟨hnamed, ?_⟩
    intro hflat m hm a ha habove b hb
    rw [hnamed b hb m hm]
    constructor
    · rintro ⟨c, hc, hname⟩
      by_contra hother
      exact h.owners hflat m hm a ha habove b hb hother c hc hname
    · rintro rfl
      exact ⟨b.self, self_mem_ancestors habove, rfl⟩

end AsNetwork

/-! ### A name that ends in another one -/

def newCorporateOne : Component := ⟨"newcorporate1".toList, none, by decide⟩

/-- Two ASs, with a core router in the second one. -/
def oldAndNew : AsNetwork where
  modules := [asModule corporateOne 1, asModule newCorporateOne 2, coreModule newCorporateOne 3]
  asModules := [asModule corporateOne 1, asModule newCorporateOne 2]
  names := by decide
  accepted := by
    intro a ha
    refine ⟨blankAS, 0, 0, ?_⟩
    rcases List.mem_cons.mp ha with rfl | ha
    · exact ⟨_, rfl⟩
    · rw [List.mem_singleton.mp ha]
      exact ⟨_, rfl⟩

/-- The router of `newcorporate1` is extracted for `corporate1` too. -/
theorem router_in_two_topologies :
    oldAndNew.IsNode (coreModule newCorporateOne 3) ∧
      getRouterLevelNodes (coreModule newCorporateOne 3) (asModule corporateOne 1).name = true ∧
      getRouterLevelNodes (coreModule newCorporateOne 3) (asModule newCorporateOne 2).name = true ∧
      ¬ oldAndNew.Belongs := by
  have hnode : oldAndNew.IsNode (coreModule newCorporateOne 3) :=
    ⟨by simp [oldAndNew], by decide⟩
  have hfound : getRouterLevelNodes (coreModule newCorporateOne 3)
      (asModule corporateOne 1).name = true := by decide
  refine ⟨hnode, hfound, by decide, fun h => ?_⟩
  obtain ⟨c, hc, hname⟩ := (h.named _ List.mem_cons_self _ hnode).mp hfound
  revert c
  decide

end ScadaSim.Routing
