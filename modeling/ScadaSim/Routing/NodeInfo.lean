import ScadaSim.Lib.Scan

/-!
# Node records of the network configurator

The constructors `nodeInfoRL` and `nodeInfoAS`: everything the configurator
knows of a router-level node or an AS is read off the full path of its module.

A member the constructor does not write keeps the value of the record it is
given, `uninit`: C++ leaves it indeterminate.
-/

namespace ScadaSim.Routing

open Lib

abbrev Str := List Char

abbrev IPAddress := BitVec 32

inductive AsType
  | transitAS | stubAS | unspecified
  deriving DecidableEq

inductive RouterType
  | core | gw | edge | endSys
  deriving DecidableEq

/-- How a constructor can fail: `opp_error`, or a null pointer dereferenced. -/
inductive Failure
  | oppError (text : String)
  | nullPointer
  deriving DecidableEq

structure InterfaceEntry where
  isLoopback : Bool
  ipAddress : IPAddress
  netmask : IPAddress
  nodeOutputGateId : Int
  deriving DecidableEq

/-- A module, as far as the configurator looks at it. `nextGateOwner` is the
full path of the module at the other end of an output gate. -/
structure Module where
  id : Int
  fullPath : Str
  hasRoutingTable : Bool
  ift : List InterfaceEntry
  nextGateOwner : Int → Option Str

/-- A node of `asTopology` or of `rlTopology[as]`, by its index there. -/
inductive NodePtr
  | inAs (i : Nat)
  | inRl (as i : Nat)
  deriving DecidableEq

/-- `nodeInfoRL`; interface entries are given by their place in the table. -/
structure NodeInfoRL where
  isIPNode : Bool
  ift : List InterfaceEntry
  defaultRouteIE : Option Nat
  asId : Int
  asType : AsType
  routerType : RouterType
  moduleId : Int
  addr : IPAddress
  node : NodePtr
  deriving DecidableEq

/-- `nodeInfoAS`, without the lists filled later. -/
structure NodeInfoAS where
  id : Int
  asType : AsType
  addr : IPAddress
  netmask : IPAddress
  deriving DecidableEq

/-! ## The scanners -/

/-- The type of the AS by the keywords in the path, and where its keyword
stands. -/
def findAsType (text : String) (fullPath : Str) : Except Failure (AsType × Nat) :=
  match Scan.find "corporate".toList fullPath with
  | some index => .ok (.stubAS, index)
  | none =>
    match Scan.find "remote".toList fullPath with
    | some index => .ok (.stubAS, index)
    | none =>
      match Scan.find "field".toList fullPath with
      | some index => .ok (.transitAS, index)
      | none =>
        match Scan.find "SCADA".toList fullPath with
        | some index => .ok (.unspecified, index)
        | none => .error (.oppError text)

def isdigit (c : Char) : Bool := '0' ≤ c && c ≤ '9'

/-- `atoi` of a string of digits whose value fits. -/
def atoi (digits : Str) : Int :=
  digits.foldl (fun n c => 10 * n + ((c.toNat : Int) - 48)) 0

/-- `index += 3`, the digit loop and `atoi`. -/
def scanId (fullPath : Str) (index : Nat) : Int :=
  atoi (Scan.run isdigit fullPath (index + 3))

def contains (fullPath : Str) (word : String) : Bool :=
  (Scan.find word.toList fullPath).isSome

def findRouterType (fullPath : Str) : Except Failure RouterType :=
  if contains fullPath "core" then .ok .core
  else if contains fullPath "gw" then .ok .gw
  else if contains fullPath "edge" then .ok .edge
  else if contains fullPath "host" then .ok .endSys
  else if contains fullPath "Server" then .ok .endSys
  else .error (.oppError "found module without valid type")

/-- What the neighbour's path of a default interface contains; a core router
has no default interface. -/
def RouterType.higherLevel : RouterType → Option String
  | .core => none
  | .gw => some "core"
  | .edge => some "gw"
  | .endSys => some "edge"

/-- The loop for a core router: the address of the last interface that is not
loopback. -/
def lastAddress (addr : IPAddress) (ift : List InterfaceEntry) : IPAddress :=
  ift.foldl (fun addr ie => if ie.isLoopback then addr else ie.ipAddress) addr

/-- The loop for the others, from the `i`-th interface on: it ends at the first
interface connected to a node of the higher level. -/
def findDefaultRoute (module : Module) (word : String) :
    List InterfaceEntry → Nat → IPAddress × Option Nat →
      Except Failure (IPAddress × Option Nat)
  | [], _, found => .ok found
  | ie :: rest, i, (addr, defaultRouteIE) =>
      if ie.isLoopback then findDefaultRoute module word rest (i + 1) (addr, defaultRouteIE)
      else
        match module.nextGateOwner ie.nodeOutputGateId with
        | none => .error .nullPointer
        | some path =>
            if contains path word then .ok (ie.ipAddress, some i)
            else findDefaultRoute module word rest (i + 1) (ie.ipAddress, defaultRouteIE)

/-! ## The constructors -/

/-- The id is read for stub and transit ASs only. -/
def readsId : AsType → Bool
  | .stubAS | .transitAS => true
  | .unspecified => false

def nodeInfoRL (uninit : NodeInfoRL) (node : NodePtr) (module : Module) :
    Except Failure NodeInfoRL := do
  let info := { uninit with
    node := node
    moduleId := module.id
    ift := module.ift
    isIPNode := module.hasRoutingTable
    addr := 0 }
  let (asType, index) ← findAsType
    "found module that doesn't belong to Transit AS (tas) or Stub AS (sas)" module.fullPath
  let info := { info with
    asType := asType
    asId := if readsId asType then scanId module.fullPath index else info.asId }
  let routerType ← findRouterType module.fullPath
  let info := { info with routerType := routerType }
  match routerType.higherLevel with
  | none => return { info with addr := lastAddress info.addr info.ift, defaultRouteIE := none }
  | some word =>
      let (addr, defaultRouteIE) ←
        findDefaultRoute module word info.ift 0 (info.addr, info.defaultRouteIE)
      return { info with addr := addr, defaultRouteIE := defaultRouteIE }

def nodeInfoAS (uninit : NodeInfoAS) (addr netmask : IPAddress) (module : Module) :
    Except Failure NodeInfoAS := do
  let (asType, index) ← findAsType
    "found module that doesn't belong to TAS or SAS" module.fullPath
  return { uninit with
    addr := addr
    netmask := netmask
    asType := asType
    id := if readsId asType then scanId module.fullPath index else uninit.id }

/-- The test by which `createInterASPaths` skips a pair of core routers. -/
def NodeInfoRL.sameAs (destCore srcCore : NodeInfoRL) : Bool := destCore.asId == srcCore.asId

/-- A record that was made is about its node and module; a core router has no
default interface. -/
structure NodeInfoRL.Made (info : NodeInfoRL) (node : NodePtr) (module : Module) : Prop where
  node : info.node = node
  moduleId : info.moduleId = module.id
  ift : info.ift = module.ift
  defaultRouteIE : info.routerType = .core → info.defaultRouteIE = none

/-- A record is made just where both scanners find a type and the loop over the interfaces
ends well; only the members that are not read come from `uninit`. -/
theorem nodeInfoRL_eq_ok {uninit info : NodeInfoRL} {node : NodePtr} {module : Module} :
    nodeInfoRL uninit node module = .ok info ↔
      ∃ asType index routerType addr defaultRouteIE,
        findAsType "found module that doesn't belong to Transit AS (tas) or Stub AS (sas)"
          module.fullPath = .ok (asType, index) ∧
        findRouterType module.fullPath = .ok routerType ∧
        (match routerType.higherLevel with
          | none => lastAddress 0 module.ift = addr ∧ none = defaultRouteIE
          | some word =>
              findDefaultRoute module word module.ift 0 (0, uninit.defaultRouteIE) =
                .ok (addr, defaultRouteIE)) ∧
        info = {
          isIPNode := module.hasRoutingTable
          ift := module.ift
          defaultRouteIE := defaultRouteIE
          asId := if readsId asType then scanId module.fullPath index else uninit.asId
          asType := asType
          routerType := routerType
          moduleId := module.id
          addr := addr
          node := node } := by
  constructor
  · intro h
    simp only [nodeInfoRL, bind, Except.bind] at h
    split at h
    · cases h
    · rename_i found hfind
      obtain ⟨asType, index⟩ := found
      split at h
      · cases h
      · rename_i routerType hrt
        refine ⟨asType, index, routerType, ?_⟩
        cases hlevel : routerType.higherLevel with
        | none =>
            simp only [hlevel] at h
            cases h
            exact ⟨_, _, hfind, hrt, ⟨rfl, rfl⟩, rfl⟩
        | some word =>
            simp only [hlevel] at h
            split at h
            · cases h
            · rename_i route hroute
              cases h
              exact ⟨route.1, route.2, hfind, hrt, hroute, rfl⟩
  · rintro ⟨asType, index, routerType, addr, defaultRouteIE, hfind, hrt, hroute, rfl⟩
    simp only [nodeInfoRL, hfind, hrt, bind, Except.bind]
    cases hlevel : routerType.higherLevel with
    | none =>
        simp only [hlevel] at hroute
        obtain ⟨rfl, rfl⟩ := hroute
        rfl
    | some word =>
        simp only [hlevel] at hroute
        simp only [hroute]
        rfl

theorem nodeInfoRL_made {uninit info : NodeInfoRL} {node : NodePtr} {module : Module}
    (h : nodeInfoRL uninit node module = .ok info) : info.Made node module := by
  obtain ⟨asType, index, routerType, addr, defaultRouteIE, -, -, hroute, rfl⟩ :=
    nodeInfoRL_eq_ok.mp h
  refine ⟨rfl, rfl, rfl, fun hcore => ?_⟩
  have hcore' : routerType = .core := hcore
  rw [hcore'] at hroute
  exact hroute.2.symm

/-! ## What the scanners find -/

/-- The three keywords of an AS name. -/
inductive Keyword
  | corporate | remote | field
  deriving DecidableEq

def Keyword.word : Keyword → Str
  | .corporate => "corporate".toList
  | .remote => "remote".toList
  | .field => "field".toList

/-- The third character behind the start of a keyword is no digit. -/
theorem scanId_keyword (kw : Keyword) {fullPath : Str} {index : Nat}
    (h : Scan.find kw.word fullPath = some index) : scanId fullPath index = 0 := by
  have hrun : Scan.run isdigit fullPath (index + 3) = [] := by
    cases kw with
    | corporate => exact Scan.run_eq_nil_of_find (k := 3) (c := 'p') h rfl rfl
    | remote => exact Scan.run_eq_nil_of_find (k := 3) (c := 'o') h rfl rfl
    | field => exact Scan.run_eq_nil_of_find (k := 3) (c := 'l') h rfl rfl
  unfold scanId
  rw [hrun]
  rfl

/-- In a path with a keyword the constructors find an AS type with an id, and
the id they read is zero. -/
theorem findAsType_keyword (text : String) {kw : Keyword} {fullPath : Str}
    (h : kw.word <:+: fullPath) :
    ∃ asType index, findAsType text fullPath = .ok (asType, index) ∧
      readsId asType = true ∧ scanId fullPath index = 0 := by
  unfold findAsType
  cases hc : Scan.find "corporate".toList fullPath with
  | some index => exact ⟨_, _, rfl, rfl, scanId_keyword .corporate hc⟩
  | none =>
      cases hr : Scan.find "remote".toList fullPath with
      | some index => exact ⟨_, _, rfl, rfl, scanId_keyword .remote hr⟩
      | none =>
          cases hf : Scan.find "field".toList fullPath with
          | some index => exact ⟨_, _, rfl, rfl, scanId_keyword .field hf⟩
          | none =>
              -- one of the three searches must have succeeded
              exfalso
              cases kw with
              | corporate => exact Scan.find_eq_none_iff.mp hc h
              | remote => exact Scan.find_eq_none_iff.mp hr h
              | field => exact Scan.find_eq_none_iff.mp hf h

/-- Whatever else goes wrong, the id in a record of a path with a keyword is
zero. -/
theorem nodeInfoRL_asId {uninit info : NodeInfoRL} {node : NodePtr} {module : Module}
    {kw : Keyword} (hkw : kw.word <:+: module.fullPath)
    (h : nodeInfoRL uninit node module = .ok info) : info.asId = 0 := by
  obtain ⟨asType, index, routerType, addr, defaultRouteIE, hfind, -, -, rfl⟩ :=
    nodeInfoRL_eq_ok.mp h
  obtain ⟨asType', index', hfind', hreads, hid⟩ := findAsType_keyword
    "found module that doesn't belong to Transit AS (tas) or Stub AS (sas)" hkw
  obtain ⟨rfl, rfl⟩ := Prod.mk.inj (Except.ok.inj (hfind.symm.trans hfind'))
  show (if readsId asType then scanId module.fullPath index else uninit.asId) = 0
  rw [if_pos hreads, hid]

theorem nodeInfoAS_id {uninit info : NodeInfoAS} {addr netmask : IPAddress}
    {module : Module} {kw : Keyword} (hkw : kw.word <:+: module.fullPath)
    (h : nodeInfoAS uninit addr netmask module = .ok info) : info.id = 0 := by
  obtain ⟨asType, index, hfind, hreads, hid⟩ := findAsType_keyword
    "found module that doesn't belong to TAS or SAS" hkw
  simp only [nodeInfoAS, hfind, bind, Except.bind, hreads, hid, if_true] at h
  cases h
  rfl

end ScadaSim.Routing
