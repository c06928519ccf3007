import ScadaSim.Routing.Delivery

/-!
# Packets for another AS

A packet that cannot be delivered inside its AS climbs along default routes to a core
router of the AS. The ids that are read from the names of the ASs are all the same, so that
no route leads on from there, and it is dropped: `dropped_at_core`.
-/

namespace ScadaSim.Routing

open Lib Lib.Walk

namespace Internet

variable {net : Internet} {spf : Nat → Nat → Paths} {coreSpf : Spf}

/-! ## Up to the core -/

/-- There is no way to the destination inside the AS of the node. -/
def Cut (net : Internet) (u d : Place) : Prop :=
  u.as = d.as →
    ¬ ∃ q, IsWalk ((net.level u.as).topology.Edge fun _ => true) u.node q d.node

/-- Then there is no host route, either. -/
theorem newRoute_of_cut (hlawful : net.Lawful spf coreSpf) {u d : Place} (hu : net.IsNode u)
    (hd : net.IsNode d) (hcut : net.Cut u d) (has : u.as = d.as) :
    (net.levelAt u.as net.tables).newRoute (spf u.as d.node) d.node u.node = none := by
  have hne : u.node ≠ d.node := fun heq => hcut has ⟨[], heq⟩
  have hpaths := hlawful.inside u.as hu.1 d.node (has ▸ hd.2)
  have hpath : (net.levelAt u.as net.tables).topology.getPath (spf u.as d.node) u.node = none :=
    (hpaths.getPath_eq_none_iff hne).mpr (hcut has)
  by_cases hes : ((net.levelAt u.as net.tables).record u.node).routerType = .endSys
  · exact @newRoute_endSys (net.levelAt u.as net.tables).toRouterLevel _ _ _ hu.2 hes
  · rw [@RouterLevel.newRoute_eq (net.levelAt u.as net.tables).toRouterLevel _ _ hu.2 hne hes,
      hpath]

/-- Default routes lead to a core router of the AS. -/
theorem climbs_to_core (hunused : net.Unused) (hlawful : net.Lawful spf coreSpf) {s d : Place}
    (hs : net.IsNode s) (hd : net.IsNode d) (hclimbs : (net.level s.as).Climbs)
    (hcut : net.Cut s d) :
    ∃ p c, p.length ≤ 3 ∧ net.Takes spf coreSpf (net.address d) s p c ∧ net.IsNode c ∧
      c.as = s.as ∧ (net.record c).routerType = .core ∧ net.Cut c d := by
  -- what a packet finds on its way up
  let Below : Place → Prop := fun u => net.IsNode u ∧ u.as = s.as ∧ net.Cut u d
  have hhop : ∀ u, Below u → (net.record u).routerType ≠ .core →
      ∃ v, net.nextHop spf coreSpf (net.address d) u = some v ∧ Below v ∧
        (net.record v).routerType.rank < (net.record u).routerType.rank := by
    rintro u ⟨hu, has, hucut⟩ hcore
    obtain ⟨v, hnext, hv, hrank, hedge⟩ := @nextHop_default net spf coreSpf
      hunused _ _ hu hd (has ▸ hclimbs) hcore (newRoute_of_cut hlawful hu hd hucut)
    refine ⟨⟨u.as, v⟩, hnext, ⟨hv, has, fun hvd hway => ?_⟩, hrank⟩
    obtain ⟨q, hq⟩ := hway
    exact hucut hvd ⟨v :: q, hedge, hq⟩
  have hup : ∀ u, Below u ∧ (net.record u).routerType ≠ .endSys →
      (net.record u).routerType.rank ≠ 0 →
        ∃ v, net.relay spf coreSpf (net.address d) u = some v ∧
          (Below v ∧ (net.record v).routerType ≠ .endSys) ∧
            (net.record v).routerType.rank < (net.record u).routerType.rank := by
    rintro u ⟨hu, hes⟩ hzero
    have hcore : (net.record u).routerType ≠ .core := fun hcore => hzero (by rw [hcore]; rfl)
    obtain ⟨v, hnext, hv, hrank⟩ := hhop u hu hcore
    have hne : u ≠ d := fun heq => hu.2.2 (congrArg Place.as heq) ⟨[], congrArg Place.node heq⟩
    refine ⟨v, ?_, ⟨hv, fun htype => ?_⟩, hrank⟩
    · rw [relay_eq hu.1 hd hne hes, hnext]
    · -- nothing stands below an end system
      rw [htype] at hrank
      have hthree : (net.record u).routerType.rank ≤ 3 := by
        cases (net.record u).routerType <;> decide
      exact absurd hrank (Nat.not_lt.mpr hthree)
  have hcoreOf : ∀ c, (net.record c).routerType.rank = 0 → (net.record c).routerType = .core := by
    intro c hrank
    cases htype : (net.record c).routerType with
    | core => rfl
    | gw => rw [htype] at hrank; cases hrank
    | edge => rw [htype] at hrank; cases hrank
    | endSys => rw [htype] at hrank; cases hrank
  have hstart : Below s := ⟨hs, rfl, hcut⟩
  by_cases hes : (net.record s).routerType = .endSys
  · have hcore : (net.record s).routerType ≠ .core := fun hcore => by
      have hboth := hes.symm.trans hcore
      cases hboth
    obtain ⟨v, hnext, hv, hrank⟩ := hhop s hstart hcore
    have hvtype : (net.record v).routerType ≠ .endSys := fun htype => by
      rw [htype, hes] at hrank
      exact lt_irrefl _ hrank
    obtain ⟨p, c, hp, ⟨⟨hc, has, hccut⟩, -⟩, hzero, hlen⟩ :=
      exists_follows_of_rank hup (u := v) ⟨hv, hvtype⟩
    rw [hes] at hrank
    have hthree : RouterType.endSys.rank = 3 := rfl
    refine ⟨v :: p, c, ?_, ⟨hnext, hp⟩, hc, has, hcoreOf c hzero, hccut⟩
    rw [List.length_cons]
    omega
  · obtain ⟨p, c, hp, ⟨⟨hc, has, hccut⟩, -⟩, hzero, hlen⟩ :=
      exists_follows_of_rank hup (u := s) ⟨hstart, hes⟩
    have hthree : (net.record s).routerType.rank ≤ 3 := by
      cases (net.record s).routerType <;> decide
    exact ⟨p, c, hlen.trans hthree, Takes.of_follows hp, hc, has, hcoreOf c hzero, hccut⟩

/-! ## The ids as they are read -/

/-- The names of the ASs are made with the keywords, as the constructors ask for. -/
def KeywordNames (net : Internet) : Prop :=
  ∀ i < net.asTopology.numNodes, ∃ kw : Keyword, kw.word <:+: (net.module (net.place i)).fullPath

/-- Then all core routers have the same id, and no route between ASs is added. -/
theorem routesFrom_keywordNames (hnames : net.KeywordNames) (coreSpf : Spf) (u : Place) :
    net.routesFrom coreSpf u = [] := by
  have hzero : ∀ i < net.asTopology.numNodes, (net.core i).asId = 0 := by
    intro i hi
    obtain ⟨asType, index, hfind, hid⟩ := core_asId hi
    obtain ⟨kw, hkw⟩ := hnames i hi
    obtain ⟨asType', index', hfind', hreads, hscan⟩ := findAsType_keyword
      "found module that doesn't belong to Transit AS (tas) or Stub AS (sas)" hkw
    obtain ⟨rfl, rfl⟩ := Prod.mk.inj (Except.ok.inj (hfind.symm.trans hfind'))
    rw [hid, if_pos hreads, hscan]
  unfold routesFrom
  split
  · refine List.filter_eq_nil_iff.mpr fun r hr => ?_
    have hinstalled := net.asLevel.createInterASPaths_installed coreSpf r hr
    have hrel := hinstalled.relevant
    unfold AsLevel.relevant at hrel
    rw [Bool.and_eq_true, Bool.not_eq_true'] at hrel
    have hsame : (net.asLevel.core r.destCore).sameAs (net.asLevel.core r.srcCore) = true :=
      beq_iff_eq.mpr ((hzero _ hinstalled.dest).trans (hzero _ hinstalled.src).symm)
    rw [hsame] at hrel
    cases hrel.2
  · rfl

/-- A packet that cannot reach its destination inside the AS, as none to another AS can, is
dropped at a core router of the AS, at most three hops away, for want of a route. -/
theorem dropped_at_core (hunused : net.Unused) (hlawful : net.Lawful spf coreSpf)
    (hnames : net.KeywordNames) {s d : Place} (hs : net.IsNode s) (hd : net.IsNode d)
    (hclimbs : (net.level s.as).Climbs) (hcut : net.Cut s d) :
    ∃ p c, p.length ≤ 3 ∧ net.Takes spf coreSpf (net.address d) s p c ∧ net.IsNode c ∧
      c.as = s.as ∧ (net.record c).routerType = .core ∧
      findBestMatchingRoute (net.finalTables spf coreSpf (net.module c).id).routes
        (net.address d) = none := by
  obtain ⟨p, c, hlen, hp, hc, has, hcore, hccut⟩ :=
    climbs_to_core hunused hlawful hs hd hclimbs hcut
  refine ⟨p, c, hlen, hp, hc, has, hcore, ?_⟩
  have hmatching : (net.finalTables spf coreSpf (net.module c).id).routes.filter
      (fun e => e.matchesAddr (net.address d)) = [] := by
    by_cases hcd : c.as = d.as
    · rw [matching_within hunused hc hd hcd, newRoute_of_cut hlawful hc hd hccut hcd, if_pos hcore,
        routesFrom_keywordNames hnames]
      rfl
    · rw [matching_across hunused hc hd hcd, if_pos hcore, routesFrom_keywordNames hnames]
      rfl
  rw [findBestMatchingRoute_eq hmatching]
  rfl

/-- From host to host. -/
theorem dropped_at_core_pair : ∃ spf coreSpf p c, p.length ≤ 3 ∧
    pairNet.Takes spf coreSpf (pairNet.address ⟨1, 3⟩) ⟨0, 3⟩ p c ∧ c.as = 0 ∧
      findBestMatchingRoute (pairNet.finalTables spf coreSpf (pairNet.module c).id).routes
        (pairNet.address ⟨1, 3⟩) = none := by
  obtain ⟨spf, coreSpf, hlawful⟩ := pairNet_lawful
  have hnames : pairNet.KeywordNames := by
    intro i hi
    refine ⟨.field, ?_⟩
    have hi2 : i < 2 := hi
    obtain rfl | rfl : i = 0 ∨ i = 1 := by omega
    · exact ⟨"net.".toList, "0.core0".toList, rfl⟩
    · exact ⟨"net.".toList, "1.core0".toList, rfl⟩
  obtain ⟨p, c, hlen, hp, -, has, -, hnone⟩ := dropped_at_core pairNet_unused hlawful hnames
    (s := ⟨0, 3⟩) (d := ⟨1, 3⟩) (by decide) (by decide) (pairNet_climbs 0)
    fun heq => absurd heq (by decide)
  exact ⟨spf, coreSpf, p, c, hlen, hp, has, hnone⟩

end Internet

end ScadaSim.Routing
