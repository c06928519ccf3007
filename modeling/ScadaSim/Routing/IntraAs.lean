import ScadaSim.Routing.Topology

/-!
# Intra-AS routes

The configurator on one AS: the node map filled from the router-level topology,
`assignAddressAndSetDefaultRoutes` and `setIntraASRoutes`, and the lookup in
the routing tables they leave.
-/

namespace ScadaSim.Routing

open Lib Lib.Walk

/-! ## Routing tables -/

structure RoutingTable where
  routerId : IPAddress
  routes : List IPRoute
  deriving DecidableEq

def ALLONES_ADDRESS : IPAddress := 0xffffffff

/-- `maskedAddrAreEqual`. -/
def IPRoute.matchesAddr (e : IPRoute) (dest : IPAddress) : Bool :=
  e.host &&& e.netmask == dest &&& e.netmask

/-- Whether `e` takes the place of the best route so far: the longer netmask
does, and among equals the first. -/
def betterThan (e : IPRoute) : Option IPRoute → Bool
  | none => true
  | some best => best.netmask < e.netmask

def findBestMatchingRoute (routes : List IPRoute) (dest : IPAddress) : Option IPRoute :=
  routes.foldl (fun best e => if e.matchesAddr dest && betterThan e best then some e else best)
    none

/-- The interface for a destination; without a route there is none. -/
def getInterfaceForDestAddr (table : RoutingTable) (dest : IPAddress) : Option Nat :=
  (findBestMatchingRoute table.routes dest).bind IPRoute.interface

/-! ## Addresses and default routes -/

/-- The routing table of each module. -/
abbrev Tables := Int → RoutingTable

def addRoute (tables : Tables) (moduleId : Int) (e : IPRoute) : Tables :=
  Function.update tables moduleId
    { tables moduleId with routes := (tables moduleId).routes ++ [e] }

/-- `nodeMap.insert`: in the order of module ids, an existing entry stays. -/
def nodeMapInsert (info : NodeInfoRL) : List NodeInfoRL → List NodeInfoRL
  | [] => [info]
  | entry :: rest =>
      if info.moduleId < entry.moduleId then info :: entry :: rest
      else if info.moduleId = entry.moduleId then entry :: rest
      else entry :: nodeMapInsert info rest

/-- `nodeMap[moduleId]`; a missing entry would be made by the default
constructor, which sets nothing. -/
def nodeMapAt (uninit : NodeInfoRL) (nodeMap : List NodeInfoRL) (moduleId : Int) :
    NodeInfoRL :=
  (nodeMap.find? fun info => info.moduleId == moduleId).getD uninit

/-- All interfaces except loopback get the same address. -/
def assignAddress (currentIP : IPAddress) (info : NodeInfoRL) : NodeInfoRL :=
  { info with
    ift := info.ift.map fun ie =>
      if ie.isLoopback then ie
      else { ie with ipAddress := currentIP, netmask := ALLONES_ADDRESS }
    addr := currentIP }

def defaultRoute (info : NodeInfoRL) : IPRoute where
  host := 0
  netmask := 0
  interface := info.defaultRouteIE
  type := .remote

/-- The table of a node: its router id, and a default route unless it is a core
router. -/
def setDefaultRoute (currentIP : IPAddress) (info : NodeInfoRL) (table : RoutingTable) :
    RoutingTable :=
  { routerId := if table.routerId = 0 then currentIP else table.routerId
    routes :=
      if info.routerType = .core then table.routes
      else table.routes ++ [defaultRoute info] }

structure AsState where
  nodeMap : List NodeInfoRL
  coreNode : List NodeInfoRL
  tables : Tables

/-- The loop over the node map, from the address `currentIP` on. -/
def assignLoop : IPAddress → List NodeInfoRL → Tables → AsState
  | _, [], tables => ⟨[], [], tables⟩
  | currentIP, info :: rest, tables =>
      let st := assignLoop (currentIP + 1) rest (Function.update tables info.moduleId
        (setDefaultRoute currentIP info (tables info.moduleId)))
      let info := assignAddress currentIP info
      { st with
        nodeMap := info :: st.nodeMap
        coreNode := if info.routerType = .core then info :: st.coreNode else st.coreNode }

def assignAddressAndSetDefaultRoutes (addr : IPAddress) (nodeMap : List NodeInfoRL)
    (tables : Tables) : AsState :=
  assignLoop (addr + 1) nodeMap tables

/-! ## The network of one AS -/

def NodePtr.index : NodePtr → Nat
  | .inAs i => i
  | .inRl _ i => i

/-- One AS: its router-level topology with the modules of the nodes, their
records as `nodeInfoRL` makes them, the AS prefix and the routing tables
before. A gate belongs to one link, and a link leaves through a registered
interface. -/
structure RouterLevel where
  as : Nat
  addr : IPAddress
  topology : CTopology
  module : Nat → Module
  record : Nat → NodeInfoRL
  uninit : NodeInfoRL
  tables : Tables
  made : ∀ j, j < topology.numNodes →
    ∃ uninit, nodeInfoRL uninit (.inRl as j) (module j) = .ok (record j)
  ids : ∀ i j, i < topology.numNodes → j < topology.numNodes →
    (module i).id = (module j).id → i = j
  inRange : ∀ l ∈ topology.links, l.src < topology.numNodes ∧ l.dst < topology.numNodes
  gates : ∀ l ∈ topology.links, ∀ l' ∈ topology.links,
    l.src = l'.src → l.localGateId = l'.localGateId → l = l'
  registered : ∀ l ∈ topology.links,
    ∃ ie ∈ (module l.src).ift, ie.nodeOutputGateId = l.localGateId

namespace RouterLevel

/-- The nodes entered into the node map, as `initialize` does. -/
def nodeMap (net : RouterLevel) : List NodeInfoRL :=
  (List.range net.topology.numNodes).foldl
    (fun nodeMap j => nodeMapInsert (net.record j) nodeMap) []

def assigned (net : RouterLevel) : AsState :=
  assignAddressAndSetDefaultRoutes net.addr net.nodeMap net.tables

/-- `asInfo.nodeMap[topology.getNode(j)->getModule()->getId()]`. -/
def infoAt (net : RouterLevel) (j : Nat) : NodeInfoRL :=
  nodeMapAt net.uninit net.assigned.nodeMap (net.module j).id

/-- What the inner loop of `setIntraASRoutes` adds to the table of node `j` with
the paths computed for destination `i`: no route without a path, none for an
end system, none where the default route does. -/
def newRoute (net : RouterLevel) (paths : Paths) (i j : Nat) : Option IPRoute :=
  if j = i then none
  else
    let destNode := net.infoAt i
    let srcNode := net.infoAt j
    match net.topology.getPath paths srcNode.node.index with
    | none => none
    | some link =>
        if srcNode.routerType = .endSys then none
        else
          let ie := getInterfaceByNodeOutputGateId srcNode.ift link.localGateId
          if ie = srcNode.defaultRouteIE then none
          else
            some { host := destNode.addr, netmask := ALLONES_ADDRESS, interface := ie,
                   type := .direct }

/-- The body of the inner loop. -/
def intraASStep (net : RouterLevel) (paths : Paths) (i : Nat) (tables : Tables) (j : Nat) :
    Tables :=
  match net.newRoute paths i j with
  | none => tables
  | some e => addRoute tables (net.infoAt j).moduleId e

/-- `setIntraASRoutes`; `spf` is `calculateUnweightedSingleShortestPathsTo`,
with all links enabled. -/
def setIntraASRoutes (net : RouterLevel) (spf : Nat → Paths) (tables : Tables) : Tables :=
  (List.range net.topology.numNodes).foldl (fun tables i =>
    (List.range net.topology.numNodes).foldl
      (net.intraASStep (spf (net.infoAt i).node.index) i) tables) tables

/-- The tables when the AS is set up. -/
def finalTables (net : RouterLevel) (spf : Nat → Paths) : Tables :=
  net.setIntraASRoutes spf net.assigned.tables

/-- The address assigned to a node. -/
def address (net : RouterLevel) (j : Nat) : IPAddress := (net.infoAt j).addr

/-- The routes that were there before concern no address of the AS. -/
def Unused (net : RouterLevel) : Prop :=
  ∀ s d, s < net.topology.numNodes → d < net.topology.numNodes →
    ∀ e ∈ (net.tables (net.module s).id).routes, e.matchesAddr (net.address d) = false

/-! ## Forwarding -/

/-- Where a packet goes from node `s`: out of the interface its table gives,
over the link at the gate of that interface. -/
def nextHop (net : RouterLevel) (spf : Nat → Paths) (dest : IPAddress) (s : Nat) :
    Option Nat := do
  let k ← getInterfaceForDestAddr (net.finalTables spf (net.module s).id) dest
  let ie ← (net.module s).ift[k]?
  let link ← net.topology.links.find? fun l =>
    l.src == s && l.localGateId == ie.nodeOutputGateId
  return link.dst

/-- A node that is not an end system passes the packet on. -/
def Forwards (net : RouterLevel) (spf : Nat → Paths) (dest : IPAddress) (u v : Nat) : Prop :=
  (net.record u).routerType ≠ .endSys ∧ net.nextHop spf dest u = some v

end RouterLevel

end ScadaSim.Routing
