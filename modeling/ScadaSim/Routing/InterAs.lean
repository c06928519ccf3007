import ScadaSim.Routing.Topology

/-!
# Inter-AS paths

`createInterASPaths` with `disableStubLinks` and `enableStubLinks`. There are
two kinds of topology objects: `asTopology`, the core routers of the whole
network, and `rlTopology[i]`, the nodes of one AS; each has links of its own,
with their own flags.
-/

namespace ScadaSim.Routing

open Lib Lib.Walk

/-- A link of `asTopology` or of `rlTopology[as]`, by its index there. -/
inductive LinkPtr
  | inAs (k : Nat)
  | inRl (as k : Nat)
  deriving DecidableEq

/-- An entry of `asNodeVec`. -/
structure AsNode where
  id : Int
  asType : AsType
  coreNode : List NodeInfoRL

/-- The configurator when all router-level topologies are set up. `core i` is
the record made of node `i` of `asTopology`. The core nodes of an AS were filled
in from its `rlTopology`. -/
structure AsLevel where
  asTopology : CTopology
  rlTopology : Nat → CTopology
  asNodeVec : List AsNode
  core : Nat → NodeInfoRL
  coreNode_node : ∀ (i : Nat) (asNode : AsNode), asNodeVec[i]? = some asNode →
    ∀ info ∈ asNode.coreNode, ∃ j, info.node = .inRl i j

/-- The ids in the records are read from digits. -/
structure Configurator extends AsLevel where
  core_asId : ∀ i, 0 ≤ (core i).asId

/-- A route added by `createInterASPaths`: to the table of which core router,
towards which, and the paths its first hop was taken from. -/
structure AddedRoute where
  srcCore : Nat
  destCore : Nat
  paths : Paths
  route : IPRoute

structure InterASState where
  enabled : LinkPtr → Bool
  paths : Paths
  asIdHistory : Int
  routes : List AddedRoute
  crashed : Bool

/-- `calculateUnweightedSingleShortestPathsTo` on `asTopology`: a function of
the flags of its links and of the target. -/
abbrev Spf := (Nat → Bool) → Nat → Paths

def IP_NET_SHIFT : Nat := 16

def NET_MASK : IPAddress := 0xffff0000

namespace AsLevel

/-- The links that come in to a node, in the topology object of the node. -/
def linksIn (net : AsLevel) : NodePtr → List LinkPtr
  | .inAs i => (net.asTopology.linksIn i).map .inAs
  | .inRl as i => ((net.rlTopology as).linksIn i).map (.inRl as)

/-- The links the loops over `coreNode` of an AS run through. -/
def coreLinksIn (net : AsLevel) (asNode : AsNode) : List LinkPtr :=
  asNode.coreNode.flatMap fun info => net.linksIn info.node

def setEnabled (value : Bool) (links : List LinkPtr) (enabled : LinkPtr → Bool) :
    LinkPtr → Bool :=
  links.foldl (fun enabled link => Function.update enabled link value) enabled

def disableStubLinks (net : AsLevel) (dst src : NodeInfoRL)
    (enabled : LinkPtr → Bool) : LinkPtr → Bool :=
  net.asNodeVec.foldl (fun enabled asNode =>
    if asNode.id = dst.asId ∨ asNode.id = src.asId then enabled
    else if asNode.asType = .transitAS then enabled
    else setEnabled false (net.coreLinksIn asNode) enabled) enabled

def enableStubLinks (net : AsLevel) (enabled : LinkPtr → Bool) : LinkPtr → Bool :=
  net.asNodeVec.foldl (fun enabled asNode =>
    if asNode.asType = .transitAS then enabled
    else setEnabled true (net.coreLinksIn asNode) enabled) enabled

/-- The record of a core router with its address cut down to the prefix. -/
def corePrefix (net : AsLevel) (i : Nat) : NodeInfoRL :=
  let info := net.core i
  { info with addr := (info.addr >>> IP_NET_SHIFT) <<< IP_NET_SHIFT }

@[simp] theorem corePrefix_asId (net : AsLevel) (i : Nat) :
    (net.corePrefix i).asId = (net.core i).asId := by
  simp only [corePrefix]

/-- Paths towards `i` are computed anew for a source AS that differs from the
one before. -/
def computePaths (net : AsLevel) (spf : Spf) (i : Nat) (destCore srcCore : NodeInfoRL)
    (st : InterASState) : InterASState :=
  if st.asIdHistory != srcCore.asId then
    let enabled := net.disableStubLinks destCore srcCore st.enabled
    { st with enabled := enabled, paths := spf (fun k => enabled (.inAs k)) i }
  else st

/-- The route from core router `j` to `i`, and the rest of the loop body. -/
def addPath (net : AsLevel) (i j : Nat) (destCore srcCore : NodeInfoRL)
    (st : InterASState) : InterASState :=
  match net.asTopology.getPath st.paths j with
  | none => { st with crashed := true } -- `getPath(0)` is a null pointer
  | some link =>
      let ie := getInterfaceByNodeOutputGateId srcCore.ift link.localGateId
      let e : IPRoute :=
        { host := destCore.addr, netmask := NET_MASK, interface := ie, type := .direct }
      let added : AddedRoute := { srcCore := j, destCore := i, paths := st.paths, route := e }
      { st with
        routes := st.routes ++ [added]
        enabled :=
          if st.asIdHistory != srcCore.asId then net.enableStubLinks st.enabled else st.enabled
        asIdHistory := srcCore.asId }

/-- The body of the inner loop of `createInterASPaths`. -/
def interASStep (net : AsLevel) (spf : Spf) (i : Nat) (st : InterASState) (j : Nat) :
    InterASState :=
  if st.crashed then st
  else if i = j then st
  else
    let destCore := net.corePrefix i
    let srcCore := net.corePrefix j
    if destCore.sameAs srcCore then st
    else net.addPath i j destCore srcCore (net.computePaths spf i destCore srcCore st)

/-- The body of the outer loop. -/
def interASRow (net : AsLevel) (spf : Spf) (st : InterASState) (i : Nat) :
    InterASState :=
  (List.range net.asTopology.numNodes).foldl (net.interASStep spf i)
    { st with asIdHistory := -1 }

/-- Nothing has been computed and all links are enabled. -/
def interASStart : InterASState where
  enabled := fun _ => true
  paths := fun _ => none
  asIdHistory := 0
  routes := []
  crashed := false

def createInterASPaths (net : AsLevel) (spf : Spf) : InterASState :=
  (List.range net.asTopology.numNodes).foldl (net.interASRow spf) interASStart

/-- What the shortest-path computation is relied on for. -/
def Lawful (net : AsLevel) (spf : Spf) : Prop :=
  ∀ enabled target, net.asTopology.ShortestPathsTo enabled target (spf enabled target)

/-! ## Whose links are touched -/

theorem setEnabled_of_not_mem {value : Bool} {links : List LinkPtr}
    {enabled : LinkPtr → Bool} {link : LinkPtr} (h : link ∉ links) :
    setEnabled value links enabled link = enabled link := by
  induction links generalizing enabled with
  | nil => rfl
  | cons l links ih =>
      have hne : link ≠ l := fun heq => h (heq ▸ List.mem_cons_self)
      show setEnabled value links (Function.update enabled l value) link = enabled link
      rw [ih fun hmem => h (List.mem_cons_of_mem l hmem), Function.update_of_ne hne]

/-- The core nodes of `asNodeVec` are nodes of `rlTopology`: no link of
`asTopology` comes in to them. -/
theorem inAs_not_mem_coreLinksIn (net : AsLevel) {asNode : AsNode}
    (h : asNode ∈ net.asNodeVec) (k : Nat) : .inAs k ∉ net.coreLinksIn asNode := by
  intro hmem
  obtain ⟨i, hi⟩ := List.mem_iff_getElem?.mp h
  obtain ⟨info, hinfo, hlink⟩ := List.mem_flatMap.mp hmem
  obtain ⟨j, hj⟩ := net.coreNode_node i asNode hi info hinfo
  rw [hj] at hlink
  obtain ⟨k', -, hk'⟩ := List.mem_map.mp hlink
  cases hk'

/-- So neither function changes a flag of `asTopology`. -/
theorem disableStubLinks_inAs (net : AsLevel) (dst src : NodeInfoRL)
    (enabled : LinkPtr → Bool) (k : Nat) :
    net.disableStubLinks dst src enabled (.inAs k) = enabled (.inAs k) := by
  unfold disableStubLinks
  refine List.foldlRecOn (motive := fun en : LinkPtr → Bool => en (.inAs k) = enabled (.inAs k))
    net.asNodeVec _ rfl fun en hen asNode hmem => ?_
  split
  · exact hen
  · split
    · exact hen
    · rw [setEnabled_of_not_mem (net.inAs_not_mem_coreLinksIn hmem k), hen]

theorem enableStubLinks_inAs (net : AsLevel) (enabled : LinkPtr → Bool) (k : Nat) :
    net.enableStubLinks enabled (.inAs k) = enabled (.inAs k) := by
  unfold enableStubLinks
  refine List.foldlRecOn (motive := fun en : LinkPtr → Bool => en (.inAs k) = enabled (.inAs k))
    net.asNodeVec _ rfl fun en hen asNode hmem => ?_
  split
  · exact hen
  · rw [setEnabled_of_not_mem (net.inAs_not_mem_coreLinksIn hmem k), hen]

end AsLevel

end ScadaSim.Routing
