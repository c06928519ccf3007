import ScadaSim.Routing.Addresses
import ScadaSim.Routing.DefaultRoutes
import ScadaSim.Routing.InterAsRoutes

/-!
# The configured network

`initialize` as a whole: the ASs with their addresses and default routes, the routes
inside every AS, and the routes between the core routers of all of them. A node is given
by its `Place`, the AS and the node there; a core router has a number in `asTopology`,
too. The tables in the end are those that the parts leave, one behind the other:
`finalTables_routes_at`.
-/

namespace ScadaSim.Routing

open Lib Lib.Walk

/-- A router-level node: the AS, and the node in the topology of the AS. -/
structure Place where
  as : Nat
  node : Nat
  deriving DecidableEq

/-- `netIP` for the AS number `a`. -/
def netIP : Nat → IPAddress
  | 0 => 1 <<< IP_NET_SHIFT
  | a + 1 => netIP a + (1 <<< IP_NET_SHIFT)

/-- `asNodeVec.size()`: the ASs, or the one network that is router-level only. -/
def asCount (noAS : Int) : Nat :=
  if noAS > 0 then noAS.toNat else if noAS = 0 then 1 else 0

/-- What `initialize` works on, where it raises no error. `place i` is the node number `i`
of `asTopology`, `uninitCore` what stands in the memory where `createInterASPaths` makes its
records, and `wire` is where the output gates of a node lead: the topologies have their links
from it. -/
structure Internet where
  noAS : Int
  level : Nat → WiredLevel
  asModule : Nat → Module
  asInfo : Nat → NodeInfoAS
  asTopology : CTopology
  place : Nat → Place
  uninitCore : NodeInfoRL
  wire : Place → Int → Option Place
  tables : Tables
  fewAs : noAS < 65535
  fewNodes : ∀ a < asCount noAS, (level a).topology.numNodes ≤ 65535
  asIndex : ∀ a < asCount noAS, (level a).as = a
  asMade : ∀ a < asCount noAS, ∃ uninit,
    nodeInfoAS uninit (netIP a) NET_MASK (asModule a) = .ok (asInfo a)
  ids : ∀ a < asCount noAS, ∀ b < asCount noAS,
    ∀ i < (level a).topology.numNodes, ∀ j < (level b).topology.numNodes,
      ((level a).module i).id = ((level b).module j).id → a = b
  wired : ∀ a < asCount noAS, ∀ l ∈ (level a).topology.links,
    wire ⟨a, l.src⟩ l.localGateId = some ⟨a, l.dst⟩
  /-- The nodes with the property of core routers are those whose path says so. -/
  cores : ∀ u : Place, (u.as < asCount noAS ∧ u.node < (level u.as).topology.numNodes ∧
    ((level u.as).record u.node).routerType = .core) ↔ ∃ i < asTopology.numNodes, place i = u

namespace Internet

def numAs (net : Internet) : Nat := asCount net.noAS

def module (net : Internet) (u : Place) : Module := (net.level u.as).module u.node

def record (net : Internet) (u : Place) : NodeInfoRL := (net.level u.as).record u.node

/-- The node is there. -/
def IsNode (net : Internet) (u : Place) : Prop :=
  u.as < net.numAs ∧ u.node < (net.level u.as).topology.numNodes

instance (net : Internet) (u : Place) : Decidable (net.IsNode u) :=
  inferInstanceAs (Decidable (_ ∧ _))

/-! ## The configurator -/

/-- The AS with its prefix, and the tables as they are at the start. -/
def levelAt (net : Internet) (a : Nat) (tables : Tables) : WiredLevel :=
  { net.level a with addr := netIP a, tables := tables }

/-- The entry of the node in the node map of its AS. -/
def infoAt (net : Internet) (u : Place) : NodeInfoRL :=
  (net.levelAt u.as net.tables).infoAt u.node

/-- The address that the node is given. -/
def address (net : Internet) (u : Place) : IPAddress := (net.infoAt u).addr

/-- The loop over the ASs that assigns addresses and sets default routes. -/
def assignedTables (net : Internet) : Tables :=
  (List.range net.numAs).foldl (fun tables a => (net.levelAt a tables).assigned.tables)
    net.tables

/-- The loop over the ASs that sets the routes inside of each. `spf a` is
`calculateUnweightedSingleShortestPathsTo` on `rlTopology[a]`. -/
def intraTables (net : Internet) (spf : Nat → Nat → Paths) : Tables :=
  (List.range net.numAs).foldl
    (fun tables a => (net.levelAt a net.tables).setIntraASRoutes (spf a) tables)
    net.assignedTables

/-- The module of a core router, whose interfaces have their addresses by now. -/
def coreModule (net : Internet) (i : Nat) : Module :=
  { net.module (net.place i) with ift := (net.infoAt (net.place i)).ift }

/-- `nodeInfoRL(asTopology.getNode(i))`. -/
def core (net : Internet) (i : Nat) : NodeInfoRL :=
  (nodeInfoRL net.uninitCore (.inAs i) (net.coreModule i)).toOption.getD net.uninitCore

theorem coreNode_inRl {as : Nat} {l : List NodeInfoRL} (hl : ∀ info ∈ l, ∃ j, info.node = .inRl as j)
    (currentIP : IPAddress) (tables : Tables) :
    ∀ info ∈ (assignLoop currentIP l tables).coreNode, ∃ j, info.node = .inRl as j := by
  induction l generalizing currentIP tables with
  | nil =>
      intro info hinfo
      cases hinfo
  | cons entry rest ih =>
      intro info hinfo
      have hrest := ih (fun info hmem => hl info (.tail entry hmem)) (currentIP + 1)
        (Function.update tables entry.moduleId
          (setDefaultRoute currentIP entry (tables entry.moduleId)))
      unfold assignLoop at hinfo
      dsimp only at hinfo
      split at hinfo
      · rcases List.mem_cons.mp hinfo with rfl | hmem
        · exact hl entry (.head rest)
        · exact hrest info hmem
      · exact hrest info hinfo

/-- The topology of the core routers, with the records and lists made of the ASs. -/
def asLevel (net : Internet) : AsLevel where
  asTopology := net.asTopology
  rlTopology := fun a => (net.level a).topology
  asNodeVec := (List.range net.numAs).map fun a =>
    { id := (net.asInfo a).id, asType := (net.asInfo a).asType,
      coreNode := (net.levelAt a net.tables).assigned.coreNode }
  core := net.core
  coreNode_node := by
    intro i asNode hasNode info hinfo
    obtain ⟨a, ha, rfl⟩ := Option.map_eq_some_iff.mp (List.getElem?_map.symm.trans hasNode)
    obtain ⟨hlt, rfl⟩ := List.getElem?_eq_some_iff.mp ha
    rw [List.length_range] at hlt
    rw [List.getElem_range] at hinfo
    refine coreNode_inRl (fun info hmem => ?_) _ _ info hinfo
    obtain ⟨j, hj, rfl⟩ := List.mem_map.mp ((net.levelAt i net.tables).nodeMap_perm.mem_iff.mp hmem)
    refine ⟨j, ?_⟩
    rw [(RouterLevel.record_made (List.mem_range.mp hj)).node]
    exact congrArg (NodePtr.inRl · j) (net.asIndex i hlt)

/-- `initialize`: the routes between the core routers are added if there are ASs. `coreSpf` is
`calculateUnweightedSingleShortestPathsTo` on `asTopology`. -/
def finalTables (net : Internet) (spf : Nat → Nat → Paths) (coreSpf : Spf) : Tables :=
  if net.noAS > 0 then
    (net.asLevel.createInterASPaths coreSpf).routes.foldl
      (fun tables r => addRoute tables (net.module (net.place r.srcCore)).id r.route)
      (net.intraTables spf)
  else net.intraTables spf

/-- Where a packet goes from a node: out of the interface its table gives. -/
def nextHop (net : Internet) (spf : Nat → Nat → Paths) (coreSpf : Spf) (dest : IPAddress)
    (u : Place) : Option Place := do
  let k ← getInterfaceForDestAddr (net.finalTables spf coreSpf (net.module u).id) dest
  let ie ← (net.module u).ift[k]?
  net.wire u ie.nodeOutputGateId

/-- Where a packet that comes in goes on to: the node it is for keeps it, and an end system
passes nothing on. -/
def relay (net : Internet) (spf : Nat → Nat → Paths) (coreSpf : Spf) (dest : IPAddress)
    (u : Place) : Option Place :=
  if net.address u = dest ∨ (net.record u).routerType = .endSys then none
  else net.nextHop spf coreSpf dest u

/-- A packet that `s` sends to `dest` goes over the nodes `p` to `t`. -/
def Takes (net : Internet) (spf : Nat → Nat → Paths) (coreSpf : Spf) (dest : IPAddress)
    (s : Place) : List Place → Place → Prop
  | [], t => s = t
  | v :: p, t => net.nextHop spf coreSpf dest s = some v ∧
      Follows (net.relay spf coreSpf dest) v p t

/-! ## Addresses -/

theorem toNat_netIP {a : Nat} (ha : a < 65535) : (netIP a).toNat = 65536 * (a + 1) := by
  induction a with
  | zero => exact toNat_netStep
  | succ a ih =>
      show (netIP a + (1 <<< IP_NET_SHIFT)).toNat = _
      rw [BitVec.toNat_add, toNat_netStep, ih (by omega)]
      omega

theorem numAs_lt (net : Internet) : net.numAs < 65535 := by
  have hfew := net.fewAs
  unfold numAs asCount
  split
  · omega
  · split <;> omega

theorem nodeMap_length (net : RouterLevel) : net.nodeMap.length = net.topology.numNodes := by
  rw [net.nodeMap_perm.length_eq, List.length_map, List.length_range]

/-- The entry of a node stands somewhere in the node map. -/
theorem infoAt_getElem {net : RouterLevel} {j : Nat} (hj : j < net.topology.numNodes) :
    ∃ k : Nat, net.assigned.nodeMap[k]? = some (net.infoAt j) := by
  obtain ⟨ip, hfind, -⟩ := assignLoop_find net.nodeMap_nodup (net.record_mem_nodeMap hj)
    (net.addr + 1) net.tables
  rw [(RouterLevel.record_made hj).moduleId] at hfind
  have hinfo : net.infoAt j = assignAddress ip (net.record j) := by
    unfold RouterLevel.infoAt nodeMapAt RouterLevel.assigned assignAddressAndSetDefaultRoutes
    rw [hfind]
    rfl
  rw [hinfo]
  exact List.getElem?_of_mem (List.mem_of_find?_eq_some hfind)

/-- The address of a node is the prefix of its AS and the place of its entry. -/
theorem address_counted {net : Internet} {u : Place} (hu : net.IsNode u) :
    ∃ k < 65535, (net.levelAt u.as net.tables).assigned.nodeMap[k]? = some (net.infoAt u) ∧
      (net.address u).toNat = 65536 * (u.as + 1) + (k + 1) := by
  obtain ⟨has, hnode⟩ := hu
  have hfew := net.fewNodes u.as has
  have hnum := net.numAs_lt
  have hnet := toNat_netIP (Nat.lt_trans has hnum)
  have hfirst : (netIP u.as + 1).toNat = 65536 * (u.as + 1) + 1 := by
    rw [BitVec.toNat_add, hnet, show (1 : IPAddress).toNat = 1 from rfl]
    omega
  have hlength : (net.levelAt u.as net.tables).nodeMap.length =
      (net.level u.as).topology.numNodes := nodeMap_length _
  have hroom : (netIP u.as + 1).toNat + (net.levelAt u.as net.tables).nodeMap.length <
      4294967296 := by
    rw [hfirst, hlength]
    omega
  obtain ⟨hcount, hentries⟩ := assignLoop_addr (net.levelAt u.as net.tables).tables hroom
  have hentry : ∃ k : Nat, (net.levelAt u.as net.tables).assigned.nodeMap[k]? =
      some (net.infoAt u) := infoAt_getElem hnode
  obtain ⟨k, hk⟩ := hentry
  have haddr := hentries k _ hk
  obtain ⟨hlt, -⟩ := List.getElem?_eq_some_iff.mp hk
  change k < (assignLoop (netIP u.as + 1) (net.levelAt u.as net.tables).nodeMap _).nodeMap.length
    at hlt
  rw [hcount, hlength] at hlt
  refine ⟨k, by omega, hk, ?_⟩
  rw [address, haddr, hfirst]
  omega

/-- The entry of a node is its record with an address. -/
theorem infoAt_eq {net : Internet} {u : Place} (hu : net.IsNode u) :
    ∃ ip, net.infoAt u = assignAddress ip (net.record u) := by
  obtain ⟨ip, hinfo, -⟩ := @RouterLevel.infoAt_eq (net.levelAt u.as net.tables).toRouterLevel _ hu.2
  exact ⟨ip, hinfo⟩

/-- No two nodes have the same address. -/
theorem address_inj {net : Internet} {u v : Place} (hu : net.IsNode u) (hv : net.IsNode v)
    (h : net.address u = net.address v) : u = v := by
  obtain ⟨k, hk, hentry, haddr⟩ := address_counted hu
  obtain ⟨l, hl, hentry', haddr'⟩ := address_counted hv
  rw [h] at haddr
  obtain ⟨a, i⟩ := u
  obtain ⟨b, j⟩ := v
  dsimp only at hk hl haddr haddr'
  obtain rfl : a = b := by omega
  obtain rfl : k = l := by omega
  rw [hentry] at hentry'
  have hinfo := Option.some.inj hentry'
  obtain ⟨ip, hi⟩ := infoAt_eq hu
  obtain ⟨ip', hj⟩ := infoAt_eq hv
  have hid : ((net.level a).record i).moduleId = ((net.level a).record j).moduleId := by
    have hsame := congrArg NodeInfoRL.moduleId (hi.symm.trans (hinfo.trans hj))
    exact hsame
  rw [(RouterLevel.record_made hu.2).moduleId, (RouterLevel.record_made hv.2).moduleId] at hid
  rw [(net.level a).ids i j hu.2 hv.2 hid]

end Internet

end ScadaSim.Routing
