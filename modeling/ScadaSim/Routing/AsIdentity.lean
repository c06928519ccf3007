import ScadaSim.Routing.NodeInfo

/-!
# AS identity

Inter-AS routing tells ASs apart by the number behind the keyword of their
name. Both scanners skip three characters, the length of the old keywords
"sas" and "tas", and so look for digits inside "corporate", "remote" or
"field": every id is zero. The ids agree, but they separate no two ASs:
`asIdentity_iff_oneAs`.
-/

namespace ScadaSim.Routing

open Lib

/-- A router-level node below an AS: its module, with the path relative to the
AS, and whether it has the property of core routers. -/
structure RlNode where
  relPath : Str
  coreRouter : Bool
  id : Int
  hasRoutingTable : Bool
  ift : List InterfaceEntry
  nextGateOwner : Int → Option Str

/-- An AS module: where it is, a keyword and a number for its name, and its
nodes. -/
structure AsModule where
  path : Str
  keyword : Keyword
  number : Str
  digits : ∀ c ∈ number, isdigit c = true
  nodes : List RlNode

namespace AsModule

def name (a : AsModule) : Str := a.keyword.word ++ a.number

/-- The module of the AS inside the module at its path. -/
def module (a : AsModule) : Module where
  id := 0
  fullPath := a.path ++ '.' :: a.name
  hasRoutingTable := false
  ift := []
  nextGateOwner := fun _ => none

/-- The module of a node of the AS. -/
def nodeModule (a : AsModule) (n : RlNode) : Module where
  id := n.id
  fullPath := a.path ++ '.' :: a.name ++ '.' :: n.relPath
  hasRoutingTable := n.hasRoutingTable
  ift := n.ift
  nextGateOwner := n.nextGateOwner

theorem keyword_infix (a : AsModule) : a.keyword.word <:+: a.module.fullPath :=
  ⟨a.path ++ ['.'], a.number, by simp [module, name]⟩

theorem keyword_infix_node (a : AsModule) (n : RlNode) :
    a.keyword.word <:+: (a.nodeModule n).fullPath :=
  ⟨a.path ++ ['.'], a.number ++ '.' :: n.relPath, by simp [nodeModule, name]⟩

end AsModule

/-- A network with two or more ASs, told apart by their names. -/
structure Network where
  asModules : List AsModule
  distinct : (asModules.map AsModule.name).Nodup
  several : 2 ≤ asModules.length

namespace Network

/-- `info` is a record `nodeInfoRL` makes of node `n` of AS `a`. -/
def RecordRL (net : Network) (a : AsModule) (n : RlNode) (info : NodeInfoRL) : Prop :=
  a ∈ net.asModules ∧ n ∈ a.nodes ∧
    ∃ uninit node, nodeInfoRL uninit node (a.nodeModule n) = .ok info

/-- `info` is a record `nodeInfoAS` makes of AS `a`. -/
def RecordAS (net : Network) (a : AsModule) (info : NodeInfoAS) : Prop :=
  a ∈ net.asModules ∧
    ∃ uninit addr netmask, nodeInfoAS uninit addr netmask a.module = .ok info

theorem RecordRL.asId {net : Network} {a : AsModule} {n : RlNode} {info : NodeInfoRL}
    (h : net.RecordRL a n info) : info.asId = 0 := by
  obtain ⟨-, -, uninit, node, h⟩ := h
  exact nodeInfoRL_asId (a.keyword_infix_node n) h

theorem RecordAS.id {net : Network} {a : AsModule} {info : NodeInfoAS}
    (h : net.RecordAS a info) : info.id = 0 := by
  obtain ⟨-, uninit, addr, netmask, h⟩ := h
  exact nodeInfoAS_id a.keyword_infix h

/-- The ids do what inter-AS routing needs of them. -/
structure AsIdentity (net : Network) : Prop where
  agree : ∀ a n info infoAS, net.RecordRL a n info → net.RecordAS a infoAS →
    info.asId = infoAS.id
  separate : ∀ a b n m info info', net.RecordRL a n info → net.RecordRL b m info' →
    (info.asId = info'.asId ↔ a = b)
  skips : ∀ a b n m destCore srcCore, n.coreRouter → m.coreRouter →
    net.RecordRL a n destCore → net.RecordRL b m srcCore →
    (destCore.sameAs srcCore ↔ a = b)

/-- All router-level nodes for which there is a record lie in one AS. -/
def OneAs (net : Network) : Prop :=
  ∀ a b n m info info', net.RecordRL a n info → net.RecordRL b m info' → a = b

theorem asIdentity_iff_oneAs (net : Network) : net.AsIdentity ↔ net.OneAs := by
  constructor
  · intro h a b n m info info' hn hm
    exact (h.separate a b n m info info' hn hm).mp (hn.asId.trans hm.asId.symm)
  · intro h
    refine ⟨?_, ?_, ?_⟩
    · intro a n info infoAS hn ha
      rw [hn.asId, ha.id]
    · intro a b n m info info' hn hm
      exact iff_of_true (hn.asId.trans hm.asId.symm) (h a b n m info info' hn hm)
    · intro a b n m destCore srcCore _ _ hn hm
      refine iff_of_true ?_ (h a b n m destCore srcCore hn hm)
      rw [NodeInfoRL.sameAs, hn.asId, hm.asId]
      rfl

end Network

/-! ## Two ASs -/

/-- A core router with one interface. -/
def coreNode (id : Int) (addr : IPAddress) : RlNode where
  relPath := "core0".toList
  coreRouter := true
  id := id
  hasRoutingTable := true
  ift := [⟨false, addr, 0, 7⟩]
  nextGateOwner := fun _ => none

def corporate1 : AsModule :=
  ⟨"scada".toList, .corporate, ['1'], List.forall_mem_singleton.mpr rfl, [coreNode 3 0x10001]⟩

def remote2 : AsModule :=
  ⟨"scada".toList, .remote, ['2'], List.forall_mem_singleton.mpr rfl, [coreNode 5 0x20001]⟩

/-- A corporate network and a remote one, with a core router each. -/
def twoAs : Network where
  asModules := [corporate1, remote2]
  distinct := by decide
  several := by decide

/-- The two core routers have the same id, and the pair is skipped. -/
theorem corporate1_remote2_skipped :
    ∃ destCore srcCore : NodeInfoRL,
      twoAs.RecordRL corporate1 (coreNode 3 0x10001) destCore ∧
      twoAs.RecordRL remote2 (coreNode 5 0x20001) srcCore ∧
      destCore.sameAs srcCore ∧ corporate1.name ≠ remote2.name ∧ ¬ twoAs.AsIdentity := by
  let uninit : NodeInfoRL := ⟨false, [], none, 17, .unspecified, .endSys, 0, 0, .inAs 0⟩
  have hdest : twoAs.RecordRL corporate1 (coreNode 3 0x10001)
      ⟨true, [⟨false, 0x10001, 0, 7⟩], none, 0, .stubAS, .core, 3, 0x10001, .inAs 0⟩ :=
    ⟨by simp [twoAs], by simp [corporate1], uninit, .inAs 0, by decide⟩
  have hsrc : twoAs.RecordRL remote2 (coreNode 5 0x20001)
      ⟨true, [⟨false, 0x20001, 0, 7⟩], none, 0, .stubAS, .core, 5, 0x20001, .inAs 1⟩ :=
    ⟨by simp [twoAs], by simp [remote2], uninit, .inAs 1, by decide⟩
  have hname : corporate1.name ≠ remote2.name := by decide
  refine ⟨_, _, hdest, hsrc, rfl, hname, fun h => hname ?_⟩
  rw [(h.separate _ _ _ _ _ _ hdest hsrc).mp rfl]

end ScadaSim.Routing
