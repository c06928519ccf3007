import ScadaSim.Lib.Walk
import ScadaSim.Routing.NodeInfo

/-!
# Topologies, shortest paths and routing tables

The part of OMNeT++ and INET the configurator works on: `cTopology` objects
with links that can be disabled, the result of
`calculateUnweightedSingleShortestPathsTo`, and routing tables.

The shortest-path computation is specified, not implemented:
`ShortestPathsTo` says that every node with a path has the first link of a
shortest one.
-/

namespace ScadaSim.Routing

open Lib Lib.Walk

/-! ## Topologies -/

/-- A link between two nodes of one topology object, given by their indices,
and the gate it leaves the first one through. -/
structure Link where
  src : Nat
  dst : Nat
  localGateId : Int
  deriving DecidableEq

structure CTopology where
  numNodes : Nat
  links : List Link
  deriving DecidableEq

/-- For each node the index of the link of its path, `getPath(0)`, if any. -/
abbrev Paths := Nat → Option Nat

namespace CTopology

/-- The nodes `u` and `v` are joined by an enabled link. -/
def Edge (topology : CTopology) (enabled : Nat → Bool) (u v : Nat) : Prop :=
  ∃ k link, topology.links[k]? = some link ∧ enabled k = true ∧ link.src = u ∧ link.dst = v

/-- `node->getPath(0)`. -/
def getPath (topology : CTopology) (paths : Paths) (u : Nat) : Option Link :=
  (paths u).bind fun k => topology.links[k]?

/-- The node at the other end of the path's first link. -/
def nextNode (topology : CTopology) (paths : Paths) (u : Nat) : Option Nat :=
  (topology.getPath paths u).map Link.dst

/-- The indices of the links that come in to a node. -/
def linksIn (topology : CTopology) (i : Nat) : List Nat :=
  (List.range topology.links.length).filter fun k =>
    topology.links[k]?.any fun link => link.dst == i

/-- What `calculateUnweightedSingleShortestPathsTo` leaves in the nodes: the
first link of a shortest path over enabled links, where there is a path. -/
structure ShortestPathsTo (topology : CTopology) (enabled : Nat → Bool) (target : Nat)
    (paths : Paths) : Prop where
  valid : ∀ u k, paths u = some k →
    ∃ link, topology.links[k]? = some link ∧ enabled k = true ∧ link.src = u
  nextHops : NextHops (topology.Edge enabled) target (topology.nextNode paths)

theorem ShortestPathsTo.getPath_eq_none_iff {topology : CTopology} {enabled : Nat → Bool}
    {target : Nat} {paths : Paths} (h : topology.ShortestPathsTo enabled target paths)
    {u : Nat} (hu : u ≠ target) :
    topology.getPath paths u = none ↔ ¬ ∃ p, IsWalk (topology.Edge enabled) u p target := by
  have hdom := h.nextHops.dom u
  simp only [nextNode] at hdom
  cases hpath : topology.getPath paths u with
  | none =>
      rw [hpath] at hdom
      refine iff_of_true rfl fun hp => ?_
      obtain ⟨v, ⟨⟩⟩ := hdom.mpr ⟨hu, hp⟩
  | some link =>
      rw [hpath] at hdom
      refine iff_of_false (fun h => by cases h) fun hp => ?_
      exact hp (hdom.mp ⟨link.dst, rfl⟩).2

/-- Next hops along enabled links are realised by links. -/
theorem exists_paths (topology : CTopology) (enabled : Nat → Bool) {target : Nat}
    {next : Nat → Option Nat} (h : NextHops (topology.Edge enabled) target next) :
    ∃ paths, topology.ShortestPathsTo enabled target paths ∧
      topology.nextNode paths = next := by
  have hlink : ∀ u, ∃ o : Option Nat,
      (o.bind fun k => topology.links[k]?).map Link.dst = next u ∧
      ∀ k, o = some k →
        ∃ link, topology.links[k]? = some link ∧ enabled k = true ∧ link.src = u := by
    intro u
    cases hu : next u with
    | none =>
        refine ⟨none, rfl, ?_⟩
        rintro k ⟨⟩
    | some v =>
        obtain ⟨k, link, hk, hen, hsrc, hdst⟩ := h.edge u v hu
        refine ⟨some k, ?_, ?_⟩
        · rw [Option.bind_some, hk, Option.map_some, hdst]
        · rintro k' ⟨⟩
          exact ⟨link, hk, hen, hsrc⟩
  choose paths hpaths using hlink
  have hnext : topology.nextNode paths = next := funext fun u => (hpaths u).1
  exact ⟨paths, ⟨fun u => (hpaths u).2, hnext ▸ h⟩, hnext⟩

theorem exists_shortestPathsTo (topology : CTopology) (enabled : Nat → Bool) (target : Nat) :
    ∃ paths, topology.ShortestPathsTo enabled target paths := by
  obtain ⟨next, hnext⟩ := exists_nextHops (topology.Edge enabled) target
  obtain ⟨paths, hpaths, -⟩ := topology.exists_paths enabled hnext
  exact ⟨paths, hpaths⟩

/-- Any shortest walk may be the one that is found. -/
theorem exists_shortestPathsTo_along (topology : CTopology) (enabled : Nat → Bool)
    {u target : Nat} {p : List Nat} (hp : IsShortest (topology.Edge enabled) u p target) :
    ∃ paths, topology.ShortestPathsTo enabled target paths ∧
      Follows (topology.nextNode paths) u p target := by
  obtain ⟨next, hnext⟩ := exists_nextHops (topology.Edge enabled) target
  obtain ⟨next', hnext', hfollow⟩ := hnext.reroute hp
  obtain ⟨paths, hpaths, heq⟩ := topology.exists_paths enabled hnext'
  exact ⟨paths, hpaths, heq ▸ hfollow⟩

end CTopology

/-- Three nodes in a row, joined both ways. -/
def rowOfThree : CTopology := ⟨3, [⟨0, 1, 1⟩, ⟨1, 0, 0⟩, ⟨1, 2, 1⟩, ⟨2, 1, 0⟩]⟩

theorem rowOfThree_edge_iff {u v : Nat} :
    rowOfThree.Edge (fun _ => true) u v ↔ (u, v) ∈ [(0, 1), (1, 0), (1, 2), (2, 1)] := by
  constructor
  · rintro ⟨k, link, hk, -, rfl, rfl⟩
    have hmem := List.mem_of_getElem? hk
    revert hmem
    simp only [rowOfThree, List.mem_cons, List.not_mem_nil, or_false]
    rintro (rfl | rfl | rfl | rfl) <;> simp
  · simp only [List.mem_cons, Prod.mk.injEq, List.not_mem_nil, or_false]
    rintro (⟨rfl, rfl⟩ | ⟨rfl, rfl⟩ | ⟨rfl, rfl⟩ | ⟨rfl, rfl⟩)
    · exact ⟨0, _, rfl, rfl, rfl, rfl⟩
    · exact ⟨1, _, rfl, rfl, rfl, rfl⟩
    · exact ⟨2, _, rfl, rfl, rfl, rfl⟩
    · exact ⟨3, _, rfl, rfl, rfl, rfl⟩

/-! ## Routes -/

inductive RouteType
  | direct | remote
  deriving DecidableEq

structure IPRoute where
  host : IPAddress
  netmask : IPAddress
  interface : Option Nat
  type : RouteType
  deriving DecidableEq

/-- `getInterfaceByNodeOutputGateId`: the place of the first such interface. -/
def getInterfaceByNodeOutputGateId (ift : List InterfaceEntry) (gateId : Int) : Option Nat :=
  ift.findIdx? fun ie => ie.nodeOutputGateId == gateId

end ScadaSim.Routing
