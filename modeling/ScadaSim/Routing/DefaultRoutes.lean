import ScadaSim.Lib.Outcome
import ScadaSim.Routing.Forwarding

/-!
# Where default routes lead

`nodeInfoRL` looks for the default interface of a node among those connected to the next
level: of a gateway to `core`, of an edge router to `gw`, of an end system to `edge`. A
node connected to another level only gets none, and its `defaultRouteIE` stays as the
constructor found it. `defaultsReachCore_iff` says which networks are well connected.
-/

namespace ScadaSim.Routing

open Lib Lib.Walk

/-! ## The default interface -/

/-- The interface is connected to a module of the level above. -/
def isHigher (module : Module) (word : String) (ie : InterfaceEntry) : Bool :=
  !ie.isLoopback &&
    (module.nextGateOwner ie.nodeOutputGateId).any fun path => contains path word

/-- The place of the first one in the interface table. -/
def higherInterface (module : Module) (word : String) : Option Nat :=
  module.ift.findIdx? (isHigher module word)

/-- The loop finds the first interface that is connected to the level above; without one it
leaves `defaultRouteIE` alone. -/
theorem findDefaultRoute_spec (module : Module) (word : String) (ift : List InterfaceEntry)
    (i : Nat) (found : IPAddress × Option Nat) :
    Post (fun r => r.2 = ((ift.findIdx? (isHigher module word)).map (· + i)).or found.2)
      (findDefaultRoute module word ift i found) := by
  induction ift generalizing i found with
  | nil => rfl
  | cons ie rest ih =>
      obtain ⟨addr, defaultRouteIE⟩ := found
      have hnext : ((rest.findIdx? (isHigher module word)).map (· + 1)).map (· + i) =
          (rest.findIdx? (isHigher module word)).map (· + (i + 1)) := by
        rw [Option.map_map]
        congr 1
        funext k
        show k + 1 + i = k + (i + 1)
        omega
      rw [List.findIdx?_cons]
      unfold findDefaultRoute
      by_cases hloop : ie.isLoopback = true
      · have hno : isHigher module word ie = false := by simp [isHigher, hloop]
        rw [if_pos hloop, hno, if_neg (by decide), hnext]
        exact ih _ _
      · rw [if_neg hloop]
        cases howner : module.nextGateOwner ie.nodeOutputGateId with
        | none => exact Post.error _
        | some path =>
            have hhigher : isHigher module word ie = contains path word := by
              simp [isHigher, hloop, howner]
            rw [hhigher]
            dsimp only
            split
            · simp
            · rw [hnext]
              exact ih _ _

/-- Whether it ends well does not depend on what it was given. -/
theorem findDefaultRoute_accepts {module : Module} {word : String} {ift : List InterfaceEntry}
    {i : Nat} {found r : IPAddress × Option Nat}
    (h : findDefaultRoute module word ift i found = .ok r) (found' : IPAddress × Option Nat) :
    ∃ r', findDefaultRoute module word ift i found' = .ok r' := by
  induction ift generalizing i found found' with
  | nil => exact ⟨found', rfl⟩
  | cons ie rest ih =>
      obtain ⟨addr, defaultRouteIE⟩ := found
      obtain ⟨addr', defaultRouteIE'⟩ := found'
      unfold findDefaultRoute at h ⊢
      split at h
      · rename_i hloop
        rw [if_pos hloop]
        exact ih h _
      · rename_i hloop
        rw [if_neg hloop]
        cases howner : module.nextGateOwner ie.nodeOutputGateId with
        | none =>
            rw [howner] at h
            cases h
        | some path =>
            rw [howner] at h
            dsimp only at h ⊢
            split at h
            · rename_i hword
              rw [if_pos hword]
              exact ⟨_, rfl⟩
            · rename_i hword
              rw [if_neg hword]
              exact ih h _

/-- The record has the type that the path gives, and the default interface that is found
for it. -/
theorem nodeInfoRL_default {uninit info : NodeInfoRL} {node : NodePtr} {module : Module}
    (h : nodeInfoRL uninit node module = .ok info) :
    findRouterType module.fullPath = .ok info.routerType ∧
      ∀ word, info.routerType.higherLevel = some word →
        info.defaultRouteIE = (higherInterface module word).or uninit.defaultRouteIE := by
  obtain ⟨asType, index, routerType, addr, defaultRouteIE, -, hrt, hroute, rfl⟩ :=
    nodeInfoRL_eq_ok.mp h
  refine ⟨hrt, fun word hword => ?_⟩
  have hlevel : routerType.higherLevel = some word := hword
  rw [hlevel] at hroute
  have hspec := (findDefaultRoute_spec _ _ _ _ _).of_ok hroute
  simpa [higherInterface] using hspec

/-- The path and the gates decide whether a record is made. -/
theorem nodeInfoRL_accepts {uninit info : NodeInfoRL} {node : NodePtr} {module : Module}
    (h : nodeInfoRL uninit node module = .ok info) (uninit' : NodeInfoRL) :
    ∃ info', nodeInfoRL uninit' node module = .ok info' := by
  obtain ⟨asType, index, routerType, addr, defaultRouteIE, hfind, hrt, hroute, -⟩ :=
    nodeInfoRL_eq_ok.mp h
  cases hlevel : routerType.higherLevel with
  | none =>
      refine ⟨_, nodeInfoRL_eq_ok.mpr ⟨asType, index, routerType, addr, defaultRouteIE, hfind,
        hrt, ?_, rfl⟩⟩
      rw [hlevel] at hroute ⊢
      exact hroute
  | some word =>
      rw [hlevel] at hroute
      obtain ⟨⟨addr', defaultRouteIE'⟩, hroute'⟩ :=
        findDefaultRoute_accepts hroute (0, uninit'.defaultRouteIE)
      refine ⟨_, nodeInfoRL_eq_ok.mpr ⟨asType, index, routerType, addr', defaultRouteIE', hfind,
        hrt, ?_, rfl⟩⟩
      rw [hlevel]
      exact hroute'

/-! ## The levels -/

/-- How far a level is from the core. -/
def RouterType.rank : RouterType → Nat
  | .core => 0
  | .gw => 1
  | .edge => 2
  | .endSys => 3

/-- The word of the level above is looked for before those of the level itself: a path that
contains it is of a level nearer to the core. -/
theorem rank_lt_of_contains {level routerType : RouterType} {word : String} {fullPath : Str}
    (hlevel : level.higherLevel = some word) (hword : contains fullPath word = true)
    (htype : findRouterType fullPath = .ok routerType) : routerType.rank < level.rank := by
  unfold findRouterType at htype
  cases level with
  | core => cases hlevel
  | gw =>
      obtain rfl := Option.some.inj hlevel
      rw [if_pos hword] at htype
      cases htype
      decide
  | edge =>
      obtain rfl := Option.some.inj hlevel
      rw [if_pos hword] at htype
      split at htype
      · cases htype
        decide
      · cases htype
        decide
  | endSys =>
      obtain rfl := Option.some.inj hlevel
      rw [if_pos hword] at htype
      split at htype
      · cases htype
        decide
      · split at htype
        · cases htype
          decide
        · cases htype
          decide

theorem contains_iff {fullPath : Str} {word : String} :
    contains fullPath word = true ↔ word.toList <:+: fullPath := by
  unfold contains
  cases hfind : Scan.find word.toList fullPath with
  | none => exact iff_of_false (by simp) (Scan.find_eq_none_iff.mp hfind)
  | some i =>
      refine iff_of_true rfl ?_
      by_contra hno
      rw [Scan.find_eq_none_iff.mpr hno] at hfind
      cases hfind

/-! ## Hops -/

namespace RouterLevel

/-- What `assignAddressAndSetDefaultRoutes` adds to the table of the node. -/
def addedRoutes (net : RouterLevel) (j : Nat) : List IPRoute :=
  (net.assigned.tables (net.module j).id).routes.drop (net.tables (net.module j).id).routes.length

/-- The node that the interface `k` of `j` is linked to. -/
def hopVia (net : RouterLevel) (j k : Nat) : Option Nat := do
  let ie ← (net.module j).ift[k]?
  let link ← net.topology.links.find? fun l =>
    l.src == j && l.localGateId == ie.nodeOutputGateId
  return link.dst

/-- Where the default route of the node leads. -/
def defaultHop (net : RouterLevel) (j : Nat) : Option Nat := do
  let e ← (net.addedRoutes j).head?
  let k ← e.interface
  net.hopVia j k

/-- A core router gets no route, every other node one through its default interface. -/
theorem addedRoutes_eq {net : RouterLevel} {j : Nat} (hj : j < net.topology.numNodes) :
    net.addedRoutes j =
      if (net.record j).routerType = .core then [] else [defaultRoute (net.record j)] := by
  obtain ⟨ip, -, htable⟩ := infoAt_eq hj
  unfold addedRoutes
  rw [htable]
  by_cases hcore : (net.record j).routerType = .core
  · simp [setDefaultRoute, hcore]
  · simp [setDefaultRoute, hcore]

theorem hopVia_spec {net : RouterLevel} {j k v : Nat} (h : net.hopVia j k = some v) :
    ∃ ie, (net.module j).ift[k]? = some ie ∧ ∃ link ∈ net.topology.links,
      link.src = j ∧ link.localGateId = ie.nodeOutputGateId ∧ link.dst = v := by
  obtain ⟨ie, hie, hrest⟩ := Option.bind_eq_some_iff.mp h
  obtain ⟨link, hlink, hdst⟩ := Option.bind_eq_some_iff.mp hrest
  have hgate := List.find?_some hlink
  simp only [Bool.and_eq_true, beq_iff_eq] at hgate
  exact ⟨ie, hie, link, List.mem_of_find?_eq_some hlink, hgate.1, hgate.2, Option.some.inj hdst⟩

end RouterLevel

/-- A router-level topology as it is wired: behind the gate of a link stands the module at
its other end, or one around either end. -/
structure WiredLevel extends RouterLevel where
  behind : ∀ l ∈ topology.links, ∀ path,
    (module l.src).nextGateOwner l.localGateId = some path →
      path <+: (module l.dst).fullPath ∨ path <+: (module l.src).fullPath

namespace WiredLevel

open RouterLevel

/-- Every node below the core has a default interface, whatever the constructor finds in
the member, and default routes lead from it to a core router within three hops. -/
structure DefaultsReachCore (net : WiredLevel) : Prop where
  defined : ∀ j < net.topology.numNodes, (net.record j).routerType ≠ .core →
    ∃ k, ∀ uninit info, nodeInfoRL uninit (.inRl net.as j) (net.module j) = .ok info →
      info.defaultRouteIE = some k
  reach : ∀ j < net.topology.numNodes, (net.record j).routerType ≠ .core →
    ∃ p c, p.length ≤ 3 ∧ Follows net.defaultHop j p c ∧ c < net.topology.numNodes ∧
      (net.record c).routerType = .core

/-- Every node below the core is connected to the level above, and the first interface that
is leads to a node of the topology. -/
def Climbs (net : WiredLevel) : Prop :=
  ∀ j < net.topology.numNodes, ∀ routerType word,
    findRouterType (net.module j).fullPath = .ok routerType →
      routerType.higherLevel = some word →
        ∃ k, higherInterface (net.module j) word = some k ∧ (net.hopVia j k).isSome

theorem record_default {net : WiredLevel} {j : Nat} (hj : j < net.topology.numNodes) :
    findRouterType (net.module j).fullPath = .ok (net.record j).routerType ∧
      ∀ word k, (net.record j).routerType.higherLevel = some word →
        higherInterface (net.module j) word = some k → (net.record j).defaultRouteIE = some k := by
  obtain ⟨uninit, hmade⟩ := net.made j hj
  obtain ⟨htype, hdefault⟩ := nodeInfoRL_default hmade
  refine ⟨htype, fun word k hlevel hk => ?_⟩
  rw [hdefault word hlevel, hk]
  rfl

theorem exists_higherLevel {routerType : RouterType} (h : routerType ≠ .core) :
    ∃ word, routerType.higherLevel = some word := by
  cases routerType with
  | core => exact absurd rfl h
  | gw => exact ⟨_, rfl⟩
  | edge => exact ⟨_, rfl⟩
  | endSys => exact ⟨_, rfl⟩

/-- The default route takes the interface that the constructor has found. -/
theorem defaultHop_eq {net : WiredLevel} {j : Nat} (hj : j < net.topology.numNodes)
    (hcore : (net.record j).routerType ≠ .core) :
    net.defaultHop j = (net.record j).defaultRouteIE.bind (net.hopVia j) := by
  unfold RouterLevel.defaultHop
  rw [addedRoutes_eq hj, if_neg hcore]
  rfl

/-- The interface that is found leads nearer to the core. -/
theorem rank_lt_of_hopVia {net : WiredLevel} {j k v : Nat} {word : String}
    (hj : j < net.topology.numNodes) (hlevel : (net.record j).routerType.higherLevel = some word)
    (hk : higherInterface (net.module j) word = some k) (hv : net.hopVia j k = some v) :
    v < net.topology.numNodes ∧
      (net.record v).routerType.rank < (net.record j).routerType.rank := by
  obtain ⟨ie, hie, link, hlink, hsrc, hgate, rfl⟩ := hopVia_spec hv
  have hrange := (net.inRange link hlink).2
  refine ⟨hrange, rank_lt_of_contains hlevel ?_ (record_default hrange).1⟩
  obtain ⟨hlt, hhigher, -⟩ := List.findIdx?_eq_some_iff_getElem.mp hk
  rw [List.getElem?_eq_getElem hlt] at hie
  rw [Option.some.inj hie] at hhigher
  simp only [isHigher, Bool.and_eq_true, Option.any_eq_true] at hhigher
  obtain ⟨-, path, howner, hword⟩ := hhigher
  rw [← hsrc, ← hgate] at howner
  rw [contains_iff] at hword ⊢
  rcases net.behind link hlink path howner with hdst | hself
  · exact hword.trans hdst.isInfix
  · -- a module around the node itself: then the word is in the path of the node
    have hown := contains_iff.mpr (hword.trans hself.isInfix)
    rw [hsrc] at hown
    exact absurd (rank_lt_of_contains hlevel hown (record_default hj).1) (lt_irrefl _)

theorem defaultsReachCore_of_climbs {net : WiredLevel} (h : net.Climbs) :
    net.DefaultsReachCore := by
  have hfound : ∀ j < net.topology.numNodes, (net.record j).routerType ≠ .core →
      ∃ word k v, (net.record j).routerType.higherLevel = some word ∧
        higherInterface (net.module j) word = some k ∧ net.hopVia j k = some v := by
    intro j hj hcore
    obtain ⟨word, hlevel⟩ := exists_higherLevel hcore
    obtain ⟨k, hk, hlink⟩ := h j hj _ word (record_default hj).1 hlevel
    obtain ⟨v, hv⟩ := Option.isSome_iff_exists.mp hlink
    exact ⟨word, k, v, hlevel, hk, hv⟩
  constructor
  · intro j hj hcore
    obtain ⟨word, k, v, hlevel, hk, -⟩ := hfound j hj hcore
    refine ⟨k, fun uninit info hinfo => ?_⟩
    obtain ⟨htype, hdefault⟩ := nodeInfoRL_default hinfo
    have hsame : info.routerType = (net.record j).routerType :=
      Except.ok.inj (htype.symm.trans (record_default hj).1)
    rw [hdefault word (hsame ▸ hlevel), hk]
    rfl
  · intro j hj hcore
    have hdown : ∀ u, u < net.topology.numNodes → (net.record u).routerType.rank ≠ 0 →
        ∃ v, net.defaultHop u = some v ∧ v < net.topology.numNodes ∧
          (net.record v).routerType.rank < (net.record u).routerType.rank := by
      intro u hu hzero
      have hbelow : (net.record u).routerType ≠ .core := by
        intro hcore
        rw [hcore] at hzero
        exact hzero rfl
      obtain ⟨word, k, v, hlevel, hk, hv⟩ := hfound u hu hbelow
      obtain ⟨hrange, hlt⟩ := rank_lt_of_hopVia hu hlevel hk hv
      refine ⟨v, ?_, hrange, hlt⟩
      rw [defaultHop_eq hu hbelow, (record_default hu).2 word k hlevel hk]
      exact hv
    obtain ⟨p, c, hp, hc, hrank, hlen⟩ := exists_follows_of_rank hdown hj
    have hthree : (net.record j).routerType.rank ≤ 3 := by
      cases (net.record j).routerType <;> decide
    refine ⟨p, c, hlen.trans hthree, hp, hc, ?_⟩
    cases htype : (net.record c).routerType with
    | core => rfl
    | gw => rw [htype] at hrank; cases hrank
    | edge => rw [htype] at hrank; cases hrank
    | endSys => rw [htype] at hrank; cases hrank

/-- The default routes lead to the core just where every node is connected to the level
above. -/
theorem defaultsReachCore_iff (net : WiredLevel) : net.DefaultsReachCore ↔ net.Climbs := by
  refine ⟨fun h j hj routerType word htype hlevel => ?_, defaultsReachCore_of_climbs⟩
  obtain ⟨uninit, hmade⟩ := net.made j hj
  have hsame : routerType = (net.record j).routerType :=
    Except.ok.inj (htype.symm.trans (record_default hj).1)
  rw [hsame] at hlevel
  have hcore : (net.record j).routerType ≠ .core := by
    intro hcore
    rw [hcore] at hlevel
    cases hlevel
  -- the record made where the member happens to be null has the interface, too
  obtain ⟨k, hdefined⟩ := h.defined j hj hcore
  obtain ⟨info, hinfo⟩ := nodeInfoRL_accepts hmade { uninit with defaultRouteIE := none }
  obtain ⟨htype', hdefault⟩ := nodeInfoRL_default hinfo
  have hlevel' : info.routerType.higherLevel = some word := by
    rw [Except.ok.inj (htype'.symm.trans (record_default hj).1), hlevel]
  have hk : higherInterface (net.module j) word = some k := by
    have heq := (hdefault word hlevel').symm.trans (hdefined _ _ hinfo)
    simpa using heq
  refine ⟨k, hk, ?_⟩
  obtain ⟨p, c, -, hp, -, hc⟩ := h.reach j hj hcore
  cases p with
  | nil =>
      have hjc : j = c := hp
      exact absurd (hjc ▸ hc) hcore
  | cons v p =>
      have hhop : net.defaultHop j = some v := hp.1
      rw [defaultHop_eq hj hcore, (record_default hj).2 word k hlevel hk] at hhop
      exact Option.isSome_iff_exists.mpr ⟨v, hhop⟩

end WiredLevel

/-! ## An edge router next to the core -/

/-- A core router and an edge router that is connected to it and to nothing else. -/
def shortcutModule (j : Nat) : Module where
  id := 10 + j
  fullPath := "scada.field1.".toList ++ (if j = 0 then "core0" else "edge0").toList
  hasRoutingTable := true
  ift := [⟨true, 0x7f000001, 0xff000000, -1⟩, ⟨false, 0, 0, 0⟩]
  nextGateOwner := fun _ =>
    some ("scada.field1.".toList ++ (if j = 0 then "edge0" else "core0").toList)

def shortcutRecord (j : Nat) : NodeInfoRL where
  isIPNode := true
  ift := (shortcutModule j).ift
  defaultRouteIE := none
  asId := 0
  asType := .transitAS
  routerType := if j = 0 then .core else .edge
  moduleId := 10 + j
  addr := 0
  node := .inRl 0 j

theorem shortcutRecord_made {j : Nat} (hj : j < 2) :
    ∃ uninit, nodeInfoRL uninit (.inRl 0 j) (shortcutModule j) = .ok (shortcutRecord j) := by
  refine ⟨shortcutRecord 0, ?_⟩
  obtain rfl | rfl : j = 0 ∨ j = 1 := by omega
  · decide
  · decide

theorem shortcutModule_id {i j : Nat} (h : (shortcutModule i).id = (shortcutModule j).id) :
    i = j := by
  have h' : (10 + i : Int) = 10 + j := h
  omega

def shortcut : WiredLevel where
  as := 0
  addr := 0x00010000
  topology := ⟨2, [⟨0, 1, 0⟩, ⟨1, 0, 0⟩]⟩
  module := shortcutModule
  record := shortcutRecord
  uninit := shortcutRecord 0
  tables := fun _ => ⟨0, []⟩
  made := fun _ => shortcutRecord_made
  ids := fun _ _ _ _ => shortcutModule_id
  inRange := by decide
  gates := by decide
  registered := by decide
  behind := by decide

/-- The edge router is connected to no gateway: the pointer to its default interface is
what it was in the memory of the record. -/
theorem shortcut_not_defined :
    (∀ uninit, ∃ info, nodeInfoRL uninit (.inRl 0 1) (shortcut.module 1) = .ok info ∧
      info.defaultRouteIE = uninit.defaultRouteIE) ∧ ¬ shortcut.DefaultsReachCore := by
  have hkept : ∀ uninit, ∃ info, nodeInfoRL uninit (.inRl 0 1) (shortcut.module 1) = .ok info ∧
      info.defaultRouteIE = uninit.defaultRouteIE := fun uninit => ⟨_, rfl, rfl⟩
  refine ⟨hkept, fun h => ?_⟩
  obtain ⟨k, hk⟩ := h.defined 1 (by decide) (by decide)
  obtain ⟨info, hinfo, hnone⟩ := hkept (shortcutRecord 0)
  have hsome := hk _ _ hinfo
  rw [hnone] at hsome
  cases hsome

end ScadaSim.Routing
