import ScadaSim.Routing.IntraAs
import ScadaSim.Routing.InterAs

/-!
# The extraction of the topologies

What `initialize` does up to the addresses: the AS modules and the router-level nodes
of each are picked out of the network, every AS gets a prefix of 16 bits and every
node an address below it. A module is given by its path, the network first.
-/

namespace ScadaSim.Routing

open Lib

/-! ## Modules -/

def isIdentifierChar (c : Char) : Bool := c.isAlphanum || c == '_'

/-- One step of a path: the name of a module, and its index if it is an element of a
module vector. -/
structure Component where
  name : Str
  index : Option Nat := none
  identifier : name ≠ [] ∧ name.all isIdentifierChar = true

def Component.fullName (c : Component) : Str :=
  match c.index with
  | none => c.name
  | some i => c.name ++ '[' :: (Nat.toDigits 10 i ++ [']'])

/-- The components with dots between them. -/
def joinPath : List Component → Str
  | [] => []
  | [c] => c.fullName
  | c :: c' :: path => c.fullName ++ '.' :: joinPath (c' :: path)

/-- A module of the network, around it the modules `ancestors`, the outermost first.
`property` is the first value of the default key of a property that the module has. -/
structure NedModule where
  ancestors : List Component
  self : Component
  property : String → Option (Option String)
  id : Int
  hasRoutingTable : Bool
  ift : List InterfaceEntry
  nextGateOwner : Int → Option Str

namespace NedModule

def path (m : NedModule) : List Component := m.ancestors ++ [m.self]

/-- `getFullPath()`. -/
def fullPath (m : NedModule) : Str := joinPath m.path

/-- `getName()`. -/
def name (m : NedModule) : Str := m.self.name

/-- What the node records are made from. -/
def module (m : NedModule) : Module where
  id := m.id
  fullPath := m.fullPath
  hasRoutingTable := m.hasRoutingTable
  ift := m.ift
  nextGateOwner := m.nextGateOwner

/-- The module has the property, with another value than `false`. -/
def hasProperty (m : NedModule) (property : String) : Bool :=
  match m.property property with
  | none => false
  | some value => value != some "false"

end NedModule

/-! ## Topologies -/

def getRouterLevelNodes (curMod : NedModule) (name : Str) : Bool :=
  let sCurName := name ++ ['.']
  if (Scan.find sCurName curMod.fullPath).isNone then false
  else curMod.hasProperty "RL"

def extractByProperty (net : List NedModule) (property : String) : List NedModule :=
  net.filter fun m => m.hasProperty property

/-- An entry of `asNodeVec`, with its entry of `rlTopology`. -/
structure AsEntry where
  info : NodeInfoAS
  topology : List NedModule

/-- The loop over the AS modules, from the `i`-th on. -/
def extractLoop (net : List NedModule) (uninit : Nat → NodeInfoAS) :
    Nat → IPAddress → List NedModule → Except Failure (List AsEntry)
  | _, _, [] => .ok []
  | i, netIP, curAS :: rest => do
      let topology := net.filter fun m => getRouterLevelNodes m curAS.name
      let info ← nodeInfoAS (uninit i) netIP NET_MASK curAS.module
      let entries ← extractLoop net uninit (i + 1) (netIP + (1 <<< IP_NET_SHIFT)) rest
      return ⟨info, topology⟩ :: entries

/-- The AS-level topology. -/
def extractAsModules (noAS : Int) (net : List NedModule) : Except Failure (List NedModule) :=
  if noAS > 0 then
    let currentAS := extractByProperty net "AS"
    if currentAS.length ≠ noAS then
      .error (.oppError ("Error: AS-Topology contains " ++ toString currentAS.length ++
        " elements - expected " ++ toString noAS ++ "\n"))
    else .ok currentAS
  else if noAS = 0 then
    -- router-level only
    let currentAS := extractByProperty net "Internet"
    if currentAS.length ≠ 1 then
      .error (.oppError ("Error: tried to extract router-level only topology, but found more " ++
        "than 1 Inet module\n"))
    else .ok currentAS
  else .ok []

def extractTopology (noAS : Int) (net : List NedModule) (uninit : Nat → NodeInfoAS) :
    Except Failure (List AsEntry) := do
  let currentAS ← extractAsModules noAS net
  extractLoop net uninit 0 (1 <<< IP_NET_SHIFT) currentAS

/-! ## Addresses -/

/-- The router-level nodes of the AS `as` are entered into its node map, from the `j`-th
on. -/
def enterNodes (uninit : Nat → NodeInfoRL) (as : Nat) :
    Nat → List NedModule → List NodeInfoRL → Except Failure (List NodeInfoRL)
  | _, [], nodeMap => .ok nodeMap
  | j, m :: rest, nodeMap => do
      let curRLNode ← nodeInfoRL (uninit j) (.inRl as j) m.module
      enterNodes uninit as (j + 1) rest (nodeMapInsert curRLNode nodeMap)

/-- The loop of `initialize` over the ASs, from the `i`-th on. -/
def assignAll (uninit : Nat → Nat → NodeInfoRL) :
    Nat → List AsEntry → Tables → Except Failure (List (NodeInfoAS × AsState))
  | _, [], _ => .ok []
  | i, entry :: rest, tables => do
      if entry.topology.length > (0xffffffff - NET_MASK).toNat then
        .error (.oppError "to many nodes in current topology")
      else
        let nodeMap ← enterNodes (uninit i) i 0 entry.topology []
        let assigned := assignAddressAndSetDefaultRoutes entry.info.addr nodeMap tables
        let others ← assignAll uninit (i + 1) rest assigned.tables
        return (entry.info, assigned) :: others

/-- `initialize`, up to the intra-AS routes: each AS with its nodes. -/
def initializeAddresses (noAS : Int) (net : List NedModule) (uninitAS : Nat → NodeInfoAS)
    (uninitRL : Nat → Nat → NodeInfoRL) (tables : Tables) :
    Except Failure (List (NodeInfoAS × AsState)) :=
  if noAS ≥ 65535 then
    .error (.oppError "too many AS nodes in AS-level topology, max 2^16 -1")
  else do
    let asNodeVec ← extractTopology noAS net uninitAS
    assignAll uninitRL 0 asNodeVec tables

end ScadaSim.Routing
