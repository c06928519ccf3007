import ScadaSim.Traffic.Profile

/-!
# Connection managers

One connection manager in each AS and one for the network. Servers register
with the manager of their AS, the managers of the ASs with the one of the
network, `topCM`, and a user asks its manager for a profile and a server.

A manager is referred to by its module id. `TargetInfo &ti` is passed in and
returned, as each function writes it.
-/

namespace ScadaSim.Traffic

/-- A connection manager, by its module id. -/
abbrev CMId := Nat

structure ServerConnection where
  address : IPvXAddress
  port : Int
  profileID : Int
  ratio : Int
  id : Int
  probability : Rat := 0
  manager : CMId
  deriving DecidableEq

structure ForeignNetwork where
  manager : CMId
  ratio : Int
  id : Int
  probability : Rat
  topManager : CMId
  deriving DecidableEq

/-- The constructor of `foreignNetwork`. -/
def ForeignNetwork.new (c : CMId) (moduleId : Int) (ratio : Int) (topCM : CMId) :
    ForeignNetwork where
  manager := c
  ratio := ratio
  id := moduleId
  probability := ratio
  topManager := topCM

structure ConnectionManager where
  servers : Int → Option (List ServerConnection) := fun _ => none
  subCM : List ForeignNetwork := []
  topCM : Option CMId := none
  serverProbabilityIsDirty : Bool := false
  networkProbabilityIsDirty : Bool := false
  isTopCM : Bool := false
  isFlatNet : Bool := true

abbrev Managers := CMId → ConnectionManager

variable {fp : Doubles}

namespace Managers

def getId (self : CMId) : Int := self

/-! ## Registration -/

def registerServer (cms : Managers) (self : CMId) (address : IPvXAddress) (port : Int)
    (profileId : Int) (moduleId : Int) : Managers :=
  let cm := cms self
  let svector := (cm.servers profileId).getD []
  let server : ServerConnection :=
    { address := address, port := port, profileID := profileId, ratio := 1, id := moduleId,
      manager := self }
  Function.update cms self { cm with
    isFlatNet := if cm.isTopCM then true else cm.isFlatNet
    servers := Function.update cm.servers profileId (some (svector ++ [server]))
    serverProbabilityIsDirty := true }

/-- `addSubCM(foreignNetwork *)`. A manager that is not the top one refuses
without an error. -/
def addNetwork (cms : Managers) (self : CMId) (network : ForeignNetwork) : Managers :=
  let cm := cms self
  if !cm.isTopCM then cms
  else Function.update cms self { cm with
    isFlatNet := false
    subCM := cm.subCM ++ [network]
    networkProbabilityIsDirty := true }

/-- `addSubCM(ConnectionManager *, int)`. -/
def addSubCM (cms : Managers) (self other : CMId) (id : Int) : Managers :=
  cms.addNetwork self (.new other id 1 self)

end Managers

/-- The modules that contain a connection manager: paths from the innermost
name outwards, the network itself being the empty path. -/
structure Hierarchy where
  container : CMId → List String
  connectionManager : List String → Option CMId

namespace Hierarchy

/-- `getSubmodule("connectionManager")` in the module at the path, else in the
modules around it. -/
def search (h : Hierarchy) : List String → Option CMId
  | [] => h.connectionManager []
  | name :: path => (h.connectionManager (name :: path)).or (h.search path)

/-- The search of `registerConnectionManager`, which starts around the module
that contains the caller. -/
def findTopCM (h : Hierarchy) (self : CMId) : Option CMId :=
  match h.container self with
  | [] => none
  | _ :: path => h.search path

end Hierarchy

def Managers.registerConnectionManager (h : Hierarchy) (cms : Managers) (self : CMId)
    (id : Int) : Managers :=
  let cm := cms self
  if cm.isTopCM || cm.topCM.isSome then cms
  else
    match (h.findTopCM self).filter (· != self) with
    | none => Function.update cms self { cm with isTopCM := true, topCM := some self }
    | some mod =>
        Managers.addSubCM (Function.update cms self { cm with topCM := some mod }) mod self id

/-! ## Selection -/

/-- The random number generator: `index k n` is the `k`-th number drawn, from
`uniform(0, n)` and rounded down, `unit k` the one from `uniform(0, 1)`. -/
structure Rng (fp : Doubles) where
  index : Nat → Nat → Nat
  unit : Nat → Rat
  index_lt : ∀ k n, 0 < n → index k n < n
  unit_drawn : ∀ k, fp.drawn (unit k)

/-- The managers, and how many numbers have been drawn. -/
structure Sim where
  cms : Managers
  pos : Nat

def ConnectionManager.updateServerProbabilities (cm : ConnectionManager) :
    Except Failure ConnectionManager :=
  if cm.isTopCM && !cm.isFlatNet then
    .error (.oppError "invalid state: i'm topCM and have no server list!")
  else
    .ok { cm with
      serverProbabilityIsDirty := false
      servers := fun profileId => (cm.servers profileId).map fun vec =>
        let cum_ratio : Rat := (vec.map fun s => (s.ratio : Rat)).sum
        vec.map fun s => { s with probability := s.ratio / cum_ratio } }

def ConnectionManager.updateNetworkProbabilities (cm : ConnectionManager) :
    Except Failure ConnectionManager :=
  if !cm.isTopCM then
    .error (.oppError "invalid state: i'm not topCM and have no network list")
  else
    let cum_ratio : Rat := (cm.subCM.map fun n => (n.ratio : Rat)).sum
    .ok { cm with
      networkProbabilityIsDirty := false
      -- it is the old probability that is divided, not the ratio
      subCM := cm.subCM.map fun n => { n with probability := n.probability / cum_ratio } }

def Sim.set (sim : Sim) (m : CMId) (cm : ConnectionManager) : Sim :=
  { sim with cms := Function.update sim.cms m cm }

/-- The loop of `haveProfile`: at most `runs` tries; it returns `goOn`, the
target and the number of draws. -/
def serverLoop (rng : Rng fp) (svector : List ServerConnection) (moduleId : Int) :
    Nat → TargetInfo → Nat → Except Failure (Bool × TargetInfo × Nat)
  | 0, ti, pos => .ok (true, ti, pos)
  | runs + 1, ti, pos =>
      match svector[rng.index pos svector.length]? with
      | none => .error .indexOutOfRange
      | some server =>
          -- the default id -1 excludes no server
          if server.id = moduleId ∧ moduleId ≠ -1 then
            serverLoop rng svector moduleId runs ti (pos + 1)
          else .ok (false, { ti with address := server.address, port := server.port }, pos + 1)

def haveProfile (rng : Rng fp) (self : CMId) (ti : TargetInfo) (profileId moduleId : Int)
    (sim : Sim) : Except Failure (Bool × TargetInfo × Sim) :=
  let cm := sim.cms self
  if cm.isTopCM && !cm.isFlatNet then .error (.oppError "asking TopCM for ServerProfile\n")
  else do
    let cm ← (if cm.serverProbabilityIsDirty then cm.updateServerProbabilities else .ok cm)
    let sim := sim.set self cm
    match cm.servers profileId with
    | none => return (false, { ti with address := 0, port := -1 }, sim)
    | some svector =>
        let (goOn, ti, pos) ← serverLoop rng svector moduleId 100 ti sim.pos
        let sim := { sim with pos := pos }
        if goOn then return (false, { ti with address := 0, port := -1 }, sim)
        else return (true, ti, sim)

/-- The loop of `getForeignServer` of the top manager `self`. -/
def networkLoop (rng : Rng fp) (self : CMId) (profileId moduleId : Int) :
    Nat → TargetInfo → Sim → Except Failure (Bool × TargetInfo × Sim)
  | 0, ti, sim => .ok (true, ti, sim)
  | runs + 1, ti, sim =>
      let subCM := (sim.cms self).subCM
      match subCM[rng.index sim.pos subCM.length]? with
      | none => .error .indexOutOfRange
      | some network =>
          let sim := { sim with pos := sim.pos + 1 }
          if network.id = moduleId then networkLoop rng self profileId moduleId runs ti sim
          else do
            -- called without a module id
            let (found, ti, sim) ← haveProfile rng network.manager ti profileId (-1) sim
            if !found then networkLoop rng self profileId moduleId runs ti sim
            else return (false, ti, sim)

def getForeignServer (rng : Rng fp) (self : CMId) (ti : TargetInfo) (profileId moduleId : Int)
    (sim : Sim) : Except Failure (TargetInfo × Sim) :=
  let cm := sim.cms self
  if !cm.isTopCM then .error (.oppError "asking non-TopCM for foreignServer\n")
  else do
    let cm ← (if cm.networkProbabilityIsDirty then cm.updateNetworkProbabilities else .ok cm)
    let (goOn, ti, sim) ← networkLoop rng self profileId moduleId 100 ti (sim.set self cm)
    if goOn then return ({ ti with address := 0, port := -1 }, sim) else return (ti, sim)

/-- Which function had the last word on the target. -/
inductive Via
  | haveProfile
  | getForeignServer
  deriving DecidableEq

/-- The second half of both `getServer` functions: ask for a server of the
profile, here or in another AS. -/
def chooseServer (rng : Rng fp) (self : CMId) (ti : TargetInfo) (profileId : Int)
    (isForeign : Bool) (moduleId : Int) (sim : Sim) :
    Except Failure (Via × TargetInfo × Sim) :=
  match isForeign, (sim.cms self).topCM with
  | true, some topCM =>
      if (sim.cms topCM).isFlatNet then do
        let (_, ti, sim) ← haveProfile rng self ti profileId (Managers.getId self) sim
        return (.haveProfile, ti, sim)
      else do
        let (ti, sim) ← getForeignServer rng topCM ti profileId (Managers.getId self) sim
        return (.getForeignServer, ti, sim)
  | _, _ => do
      let (found, ti, sim) ← haveProfile rng self ti profileId moduleId sim
      if found then return (.haveProfile, ti, sim)
      else
        match (sim.cms self).topCM with
        | none => .error (.oppError "couldn't get server - no TopCM available\n")
        | some topCM =>
            -- in a flat network there is no other AS to ask
            if (sim.cms topCM).isFlatNet then return (.haveProfile, ti, sim)
            else do
              let (ti, sim) ← getForeignServer rng topCM ti profileId (Managers.getId self) sim
              return (.getForeignServer, ti, sim)

/-- One pair of draws and the profile they select. -/
def drawProfile (rng : Rng fp) (profiles : List TrafficProfile) (isForeign : Bool) (pos : Nat) :
    Except Failure (TrafficProfile × Bool) :=
  getTrafficProfile fp profiles (rng.unit (pos + 1)) (rng.unit pos) isForeign

/-- `while (tp.profileID == except)`, for at most `fuel` rounds. -/
def redrawLoop (rng : Rng fp) (profiles : List TrafficProfile) (except : Int) :
    Nat → TrafficProfile → Bool → Nat → Except Failure (TrafficProfile × Bool × Nat)
  | fuel, tp, isForeign, pos =>
      if tp.profileID = except then
        match fuel with
        | 0 => .error .nonTermination
        | fuel + 1 => do
            let (tp, isForeign) ← drawProfile rng profiles isForeign pos
            redrawLoop rng profiles except fuel tp isForeign (pos + 2)
      else .ok (tp, isForeign, pos)

/-- What `getServer` leaves in its reference parameters, and behind; the second
overload has no `except`. -/
structure Selection where
  via : Via
  ti : TargetInfo
  tp : TrafficProfile
  except : Option Int
  sim : Sim

/-- `getServer(ti, tp, except, moduleId)`; `fuel` bounds the rounds of the redraw
loop. -/
def getServer (rng : Rng fp) (fuel : Nat) (profiles : List TrafficProfile) (self : CMId)
    (ti : TargetInfo) (tp : TrafficProfile) (except moduleId : Int) (sim : Sim) :
    Except Failure Selection := do
  let (tp, isForeign, pos) ←
    if except = -1 then do
      let (tp, isForeign) ← drawProfile rng profiles false sim.pos
      pure (tp, isForeign, sim.pos + 2)
    else redrawLoop rng profiles except fuel tp false sim.pos
  let (via, ti, sim) ←
    chooseServer rng self ti tp.profileID isForeign moduleId { sim with pos := pos }
  return { via := via, ti := ti, tp := tp, except := some tp.profileID, sim := sim }

/-- `getServer(ti, tp, moduleId)`, for a user with a fixed profile. -/
def getFixServer (rng : Rng fp) (profiles : List TrafficProfile) (self : CMId) (ti : TargetInfo)
    (tp : TrafficProfile) (moduleId : Int) (sim : Sim) : Except Failure Selection := do
  let (tp, isForeign) ← getFixTrafficProfile profiles tp (rng.unit sim.pos) false
  let (via, ti, sim) ←
    chooseServer rng self ti tp.profileID isForeign moduleId { sim with pos := sim.pos + 1 }
  return { via := via, ti := ti, tp := tp, except := none, sim := sim }

end ScadaSim.Traffic
