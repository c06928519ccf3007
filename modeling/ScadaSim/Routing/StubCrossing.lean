import ScadaSim.Routing.InterAsRoutes

/-!
# Stub ASs on inter-AS paths

`disableStubLinks` is to keep inter-AS paths out of stub ASs that are neither
source nor destination. It disables links of `rlTopology`; the paths are
computed on `asTopology`, whose links stay enabled. So a path is any shortest
path, and stub ASs are avoided exactly where no shortest path leads through
one: `stubFree_iff_avoidsStubs`.
-/

namespace ScadaSim.Routing

open Lib Lib.Walk AsLevel

namespace Configurator

/-- The core router `v` is in a stub AS other than those of the two ends. -/
def ForeignStub (net : Configurator) (srcCore destCore v : Nat) : Prop :=
  (net.core v).asType = .stubAS ∧ (net.core v).asId ≠ (net.core srcCore).asId ∧
    (net.core v).asId ≠ (net.core destCore).asId

/-- The path of the route leads to its destination and enters no foreign
stub. -/
def StubFree (net : Configurator) (r : AddedRoute) : Prop :=
  ∃ p, Follows (net.asTopology.nextNode r.paths) r.srcCore p r.destCore ∧
    ∀ v ∈ p, ¬ net.ForeignStub r.srcCore r.destCore v

/-- No shortest path of a pair that gets a route enters a foreign stub. -/
def AvoidsStubs (net : Configurator) : Prop :=
  ∀ pair ∈ net.served net.pairs, ∀ p, IsShortest net.CoreEdge pair.2 p pair.1 →
    ∀ v ∈ p, ¬ net.ForeignStub pair.2 pair.1 v

/-! ## Which configurations are safe -/

/-- A shortest walk of one pair can be the path that is computed for it. -/
theorem exists_lawful_along (net : Configurator) {u t : Nat} {p : List Nat}
    (hp : IsShortest net.CoreEdge u p t) :
    ∃ spf, net.Lawful spf ∧
      Follows (net.asTopology.nextNode (spf (fun _ => true) t)) u p t := by
  have hchoice : ∀ (enabled : Nat → Bool) (target : Nat), ∃ paths,
      net.asTopology.ShortestPathsTo enabled target paths ∧
      (enabled = (fun _ => true) → target = t →
        Follows (net.asTopology.nextNode paths) u p t) := by
    intro enabled target
    by_cases hcase : enabled = (fun _ => true) ∧ target = t
    · obtain ⟨rfl, rfl⟩ := hcase
      obtain ⟨paths, hpaths, hfollow⟩ := net.asTopology.exists_shortestPathsTo_along _ hp
      exact ⟨paths, hpaths, fun _ _ => hfollow⟩
    · obtain ⟨paths, hpaths⟩ := net.asTopology.exists_shortestPathsTo enabled target
      exact ⟨paths, hpaths, fun he ht => absurd ⟨he, ht⟩ hcase⟩
  choose spf hspf using hchoice
  exact ⟨spf, fun enabled target => (hspf enabled target).1, (hspf _ t).2 rfl rfl⟩

/-- Whatever shortest paths are computed, no added route crosses a foreign stub
AS: this holds just when no shortest path of a pair that gets a route does. -/
theorem stubFree_iff_avoidsStubs (net : Configurator) :
    (∀ spf, net.Lawful spf →
      ∀ r ∈ (net.createInterASPaths spf).routes, net.StubFree r) ↔ net.AvoidsStubs := by
  constructor
  · intro h pair hpair p hp
    obtain ⟨spf, hspf, hfollow⟩ := net.exists_lawful_along hp
    obtain ⟨r, hr, rfl⟩ := exists_route hspf net.computesRows hpair
    obtain ⟨q, hq, hfree⟩ := h spf hspf r hr
    rw [(mem_routes hspf net.computesRows hr).2] at hq
    rw [hfollow.unique (hspf _ _).nextHops.target hq]
    exact hfree
  · intro h spf hspf r hr
    obtain ⟨hserved, hpaths⟩ := mem_routes hspf net.computesRows hr
    have hnext := (hspf (fun _ => true) r.destCore).nextHops
    obtain ⟨w, hw⟩ := connected_of_served hserved
    obtain ⟨n, hn⟩ := hw.exists_isDist
    obtain ⟨p, hp, -⟩ := hnext.follow hn
    refine ⟨p, ?_, h _ hserved p (hnext.isShortest hp)⟩
    rw [hpaths]
    exact hp

end Configurator

/-! ## A stub in the middle -/

/-- Three ASs in a row with a core router each; the middle one is a stub. -/
def lineCore (i : Nat) (node : NodePtr) : NodeInfoRL where
  isIPNode := true
  ift := []
  defaultRouteIE := none
  asId := i + 1
  asType := if i = 1 then .stubAS else .transitAS
  routerType := .core
  moduleId := i
  addr := BitVec.ofNat 32 (i * 65536 + 65537)
  node := node

def lineAs (i : Nat) : AsNode where
  id := i + 1
  asType := if i = 1 then .stubAS else .transitAS
  coreNode := [lineCore i (.inRl i 0)]

theorem lineAs_coreNode {n i : Nat} {asNode : AsNode}
    (h : ((List.range n).map lineAs)[i]? = some asNode) :
    ∀ info ∈ asNode.coreNode, ∃ j, info.node = .inRl i j := by
  intro info hinfo
  obtain ⟨j, hj, rfl⟩ := List.mem_map.mp (List.mem_of_getElem? h)
  obtain ⟨hi, hget⟩ := List.getElem?_eq_some_iff.mp h
  obtain rfl := List.mem_singleton.mp hinfo
  have hij : i = j := by
    have hid := congrArg AsNode.id hget
    simp only [lineAs, List.getElem_map, List.getElem_range] at hid
    omega
  exact ⟨0, by rw [hij]; rfl⟩

def line : Configurator where
  asTopology := rowOfThree
  rlTopology := fun _ => ⟨1, []⟩
  asNodeVec := (List.range 3).map lineAs
  core := fun i => lineCore i (.inAs i)
  core_asId := fun i => Int.natCast_nonneg (i + 1)
  coreNode_node := fun _ _ => lineAs_coreNode

namespace Configurator

theorem line_served : (0, 2) ∈ line.served line.pairs := by
  classical
  have hconn : ∀ pair ∈ [((0 : Nat), (1 : Nat)), (0, 2)], line.Connected pair := by
    intro pair hpair
    simp only [List.mem_cons, List.not_mem_nil, or_false] at hpair
    rcases hpair with rfl | rfl
    · exact ⟨[0], rowOfThree_edge_iff.mpr (by simp), rfl⟩
    · exact ⟨[1, 0], rowOfThree_edge_iff.mpr (by simp), rowOfThree_edge_iff.mpr (by simp), rfl⟩
  have hfilter : line.pairs.filter line.relevant =
      [(0, 1), (0, 2), (1, 0), (1, 2), (2, 0), (2, 1)] := by decide
  unfold served
  rw [hfilter, List.takeWhile_cons, if_pos (decide_eq_true (hconn (0, 1) (by simp))),
    List.takeWhile_cons, if_pos (decide_eq_true (hconn (0, 2) (by simp)))]
  simp

/-- Whatever shortest paths are computed, the route from the last AS to the
first one enters the stub between them. -/
theorem stub_crossed_on_line :
    (∃ spf, line.Lawful spf) ∧ ∀ spf, line.Lawful spf →
      ∃ r ∈ (line.createInterASPaths spf).routes,
        r.srcCore = 2 ∧ r.destCore = 0 ∧ ¬ line.StubFree r := by
  refine ⟨line.exists_lawful, fun spf hspf => ?_⟩
  obtain ⟨r, hr, heq⟩ := exists_route hspf line.computesRows line_served
  obtain ⟨hdest, hsrc⟩ := Prod.mk.inj heq
  refine ⟨r, hr, hsrc, hdest, ?_⟩
  rintro ⟨p, hp, hfree⟩
  rw [(mem_routes hspf line.computesRows hr).2, hsrc, hdest] at hp
  cases p with
  | nil => cases hp
  | cons v p =>
      -- the only link of the last core router leads to the stub
      have hedge := (hspf _ _).nextHops.edge 2 v hp.1
      have hv : v = 1 := by simpa using rowOfThree_edge_iff.mp hedge
      refine hfree v List.mem_cons_self ?_
      rw [hv, hsrc, hdest]
      unfold ForeignStub
      decide

end Configurator

end ScadaSim.Routing
