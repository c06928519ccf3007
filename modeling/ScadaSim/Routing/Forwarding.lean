import Mathlib.Data.List.Nodup
import ScadaSim.Routing.IntraAs

/-!
# Intra-AS tables realise shortest paths

Each node's table holds a default route, unless it is a core router, and a host
route for every destination whose first hop is not the default one. The lookup
of a destination therefore gives the first link of the path computed towards
it, and forwarding follows the shortest-path tree of the destination.
-/

namespace ScadaSim.Routing

open Lib Lib.Walk

/-! ## Lookup -/

theorem findBestMatchingRoute_filter (routes : List IPRoute) (dest : IPAddress) :
    findBestMatchingRoute routes dest =
      findBestMatchingRoute (routes.filter fun e => e.matchesAddr dest) dest := by
  unfold findBestMatchingRoute
  generalize (none : Option IPRoute) = best
  induction routes generalizing best with
  | nil => rfl
  | cons e routes ih =>
      by_cases he : e.matchesAddr dest = true
      · rw [List.filter_cons, if_pos he, List.foldl_cons, List.foldl_cons, ih]
      · rw [List.filter_cons, if_neg he, List.foldl_cons, ih]
        simp [he]

theorem defaultRoute_matches (info : NodeInfoRL) (dest : IPAddress) :
    (defaultRoute info).matchesAddr dest = true := by
  simp [defaultRoute, IPRoute.matchesAddr]

theorem findBestMatchingRoute_single {e : IPRoute} {dest : IPAddress}
    (he : e.matchesAddr dest = true) : findBestMatchingRoute [e] dest = some e := by
  simp [findBestMatchingRoute, he, betterThan]

/-- A host route is taken before a default route. -/
theorem findBestMatchingRoute_pair {r e : IPRoute} {dest : IPAddress}
    (hr : r.matchesAddr dest = true) (hzero : r.netmask = 0)
    (he : e.matchesAddr dest = true) (hones : e.netmask = ALLONES_ADDRESS) :
    findBestMatchingRoute [r, e] dest = some e := by
  have hfirst : betterThan r none = true := rfl
  have hbetter : betterThan e (some r) = true := by
    show decide (r.netmask < e.netmask) = true
    rw [hzero, hones]
    decide
  simp [findBestMatchingRoute, hr, he, hfirst, hbetter]

theorem flatMap_toList_filter {f : Nat → Option IPRoute} {p : IPRoute → Bool} {n d : Nat}
    (hd : d < n) (hf : ∀ e, f d = some e → p e = true)
    (hother : ∀ i e, i < n → i ≠ d → f i = some e → p e = false) :
    (((List.range n).flatMap fun i => (f i).toList).filter p) = (f d).toList := by
  have hlist : ∀ (l : List Nat), l.Nodup → (∀ i ∈ l, i < n) →
      (l.flatMap fun i => (f i).toList).filter p = if d ∈ l then (f d).toList else [] := by
    intro l
    induction l with
    | nil => simp
    | cons i l ih =>
        intro hnodup hl
        rw [List.nodup_cons] at hnodup
        rw [List.flatMap_cons, List.filter_append,
          ih hnodup.2 fun k hk => hl k (List.mem_cons_of_mem i hk)]
        by_cases hi : i = d
        · subst hi
          cases hfi : f i with
          | none => simp
          | some e => simp [hf e hfi, hnodup.1]
        · cases hfi : f i with
          | none => simp [Ne.symm hi]
          | some e => simp [hother i e (hl i List.mem_cons_self) hi hfi, Ne.symm hi]
  rw [hlist _ List.nodup_range fun i hi => List.mem_range.mp hi,
    if_pos (List.mem_range.mpr hd)]

/-! ## The node map -/

theorem nodeMapInsert_perm {info : NodeInfoRL} {entries : List NodeInfoRL}
    (h : ∀ entry ∈ entries, info.moduleId ≠ entry.moduleId) :
    (nodeMapInsert info entries).Perm (info :: entries) := by
  induction entries with
  | nil => exact List.Perm.refl _
  | cons entry rest ih =>
      unfold nodeMapInsert
      split
      · exact List.Perm.refl _
      · rw [if_neg (h entry List.mem_cons_self)]
        have hrest := ih fun e he => h e (List.mem_cons_of_mem entry he)
        exact (hrest.cons entry).trans (List.Perm.swap info entry rest)

/-- The table of a module that is not in the list stays as it is. -/
theorem assignLoop_tables_of_not_mem {l : List NodeInfoRL} {id : Int}
    (hid : id ∉ l.map NodeInfoRL.moduleId) (ip : IPAddress) (tables : Tables) :
    (assignLoop ip l tables).tables id = tables id := by
  induction l generalizing ip tables with
  | nil => rfl
  | cons entry rest ih =>
      rw [List.map_cons, List.mem_cons, not_or] at hid
      show (assignLoop (ip + 1) rest _).tables id = tables id
      rw [ih hid.2, Function.update_of_ne hid.1]

theorem assignLoop_find {l : List NodeInfoRL} (hl : (l.map NodeInfoRL.moduleId).Nodup)
    {info : NodeInfoRL} (hinfo : info ∈ l) (currentIP : IPAddress) (tables : Tables) :
    ∃ ip, (assignLoop currentIP l tables).nodeMap.find?
        (fun entry => entry.moduleId == info.moduleId) = some (assignAddress ip info) ∧
      (assignLoop currentIP l tables).tables info.moduleId =
        setDefaultRoute ip info (tables info.moduleId) := by
  induction l generalizing currentIP tables with
  | nil => cases hinfo
  | cons entry rest ih =>
      rw [List.map_cons, List.nodup_cons] at hl
      rcases List.mem_cons.mp hinfo with rfl | hmem
      · refine ⟨currentIP, ?_, ?_⟩
        · show (assignAddress currentIP info :: _).find? _ = _
          rw [List.find?_cons_of_pos]
          simp [assignAddress]
        · show (assignLoop (currentIP + 1) rest _).tables info.moduleId = _
          rw [assignLoop_tables_of_not_mem hl.1, Function.update_self]
      · -- the ids are distinct, so the entry before is not found, nor is its table written
        have hne : entry.moduleId ≠ info.moduleId := fun heq =>
          hl.1 (heq ▸ List.mem_map_of_mem hmem)
        obtain ⟨ip, hfind, htable⟩ := ih hl.2 hmem (currentIP + 1)
          (Function.update tables entry.moduleId
            (setDefaultRoute currentIP entry (tables entry.moduleId)))
        refine ⟨ip, ?_, ?_⟩
        · show (assignAddress currentIP entry :: _).find? _ = _
          rw [List.find?_cons_of_neg]
          · exact hfind
          · simpa [assignAddress] using hne
        · rw [Function.update_of_ne (Ne.symm hne)] at htable
          exact htable

namespace RouterLevel

variable (net : RouterLevel)

theorem record_made {net : RouterLevel} {j : Nat} (hj : j < net.topology.numNodes) :
    (net.record j).Made (.inRl net.as j) (net.module j) := by
  obtain ⟨uninit, h⟩ := net.made j hj
  exact nodeInfoRL_made h

theorem records_nodup : ((List.range net.topology.numNodes).map
    fun j => (net.record j).moduleId).Nodup := by
  refine List.Nodup.map_on ?_ List.nodup_range
  intro i hi j hj heq
  rw [List.mem_range] at hi hj
  rw [(record_made hi).moduleId, (record_made hj).moduleId] at heq
  exact net.ids i j hi hj heq

theorem nodeMap_perm : net.nodeMap.Perm ((List.range net.topology.numNodes).map net.record) := by
  have hfold : ∀ (js : List Nat) (entries : List NodeInfoRL),
      (js.map (fun j => (net.record j).moduleId) ++ entries.map NodeInfoRL.moduleId).Nodup →
      (js.foldl (fun nodeMap j => nodeMapInsert (net.record j) nodeMap) entries).Perm
        (js.map net.record ++ entries) := by
    intro js
    induction js with
    | nil => exact fun entries _ => List.Perm.refl _
    | cons j js ih =>
        intro entries hnodup
        rw [List.map_cons, List.cons_append, List.nodup_cons, List.mem_append, not_or] at hnodup
        obtain ⟨⟨hjs, hentries⟩, hrest⟩ := hnodup
        have hins : (nodeMapInsert (net.record j) entries).Perm (net.record j :: entries) :=
          nodeMapInsert_perm fun entry he heq => hentries (heq ▸ List.mem_map_of_mem he)
        have hids : (js.map (fun j => (net.record j).moduleId) ++
            (nodeMapInsert (net.record j) entries).map NodeInfoRL.moduleId).Nodup := by
          have hp := (hins.map NodeInfoRL.moduleId).append_left
            (js.map fun j => (net.record j).moduleId)
          rw [hp.nodup_iff, List.map_cons, List.nodup_middle, List.nodup_cons, List.mem_append,
            not_or]
          exact ⟨⟨hjs, hentries⟩, hrest⟩
        exact (ih _ hids).trans ((hins.append_left _).trans List.perm_middle)
  have h := hfold _ [] (by simpa using net.records_nodup)
  rwa [List.append_nil] at h

theorem record_mem_nodeMap {j : Nat} (hj : j < net.topology.numNodes) :
    net.record j ∈ net.nodeMap :=
  net.nodeMap_perm.mem_iff.mpr (List.mem_map_of_mem (List.mem_range.mpr hj))

theorem nodeMap_nodup : (net.nodeMap.map NodeInfoRL.moduleId).Nodup := by
  rw [(net.nodeMap_perm.map NodeInfoRL.moduleId).nodup_iff, List.map_map]
  exact net.records_nodup

/-- The node map has the record of each node, with its new address; its table
has a default route unless it is a core router. -/
theorem infoAt_eq {net : RouterLevel} {j : Nat} (hj : j < net.topology.numNodes) :
    ∃ ip, net.infoAt j = assignAddress ip (net.record j) ∧
      net.assigned.tables (net.module j).id =
        setDefaultRoute ip (net.record j) (net.tables (net.module j).id) := by
  obtain ⟨ip, hfind, htable⟩ := assignLoop_find net.nodeMap_nodup (net.record_mem_nodeMap hj)
    (net.addr + 1) net.tables
  rw [(record_made hj).moduleId] at hfind htable
  refine ⟨ip, ?_, htable⟩
  unfold infoAt nodeMapAt assigned assignAddressAndSetDefaultRoutes
  rw [hfind]
  rfl

/-- Assigning addresses leaves the gates alone. -/
theorem getInterface_assignAddress (ip : IPAddress) (info : NodeInfoRL) (gateId : Int) :
    getInterfaceByNodeOutputGateId (assignAddress ip info).ift gateId =
      getInterfaceByNodeOutputGateId info.ift gateId := by
  unfold getInterfaceByNodeOutputGateId assignAddress
  rw [List.findIdx?_map]
  congr 1
  funext ie
  show ((if ie.isLoopback then ie else _ : InterfaceEntry).nodeOutputGateId == gateId) = _
  split <;> rfl

/-- The route added for a pair of nodes, in terms of their records. -/
theorem newRoute_eq {net : RouterLevel} {i j : Nat} (hj : j < net.topology.numNodes)
    (hij : j ≠ i) (hes : (net.record j).routerType ≠ .endSys) (paths : Paths) :
    net.newRoute paths i j =
      match net.topology.getPath paths j with
      | none => none
      | some link =>
          let ie := getInterfaceByNodeOutputGateId (net.module j).ift link.localGateId
          if ie = (net.record j).defaultRouteIE then none
          else some ⟨net.address i, ALLONES_ADDRESS, ie, .direct⟩ := by
  obtain ⟨ip, hinfo, -⟩ := infoAt_eq hj
  have hnode : (net.infoAt j).node.index = j := by
    rw [hinfo]
    show (net.record j).node.index = j
    rw [(record_made hj).node]
    rfl
  have hift : ∀ gateId, getInterfaceByNodeOutputGateId (net.infoAt j).ift gateId =
      getInterfaceByNodeOutputGateId (net.module j).ift gateId := by
    intro gateId
    rw [hinfo, getInterface_assignAddress, (record_made hj).ift]
  have htype : (net.infoAt j).routerType = (net.record j).routerType := by rw [hinfo]; rfl
  have hdefault : (net.infoAt j).defaultRouteIE = (net.record j).defaultRouteIE := by
    rw [hinfo]; rfl
  unfold newRoute
  rw [if_neg hij]
  simp only [hnode, htype, hdefault, hift, if_neg hes]
  rfl

/-- Only host routes to the destination are added. -/
theorem newRoute_matches {net : RouterLevel} {paths : Paths} {i j : Nat} {e : IPRoute}
    (h : net.newRoute paths i j = some e) (dest : IPAddress) :
    e.matchesAddr dest = (net.address i == dest) := by
  have hhost : e.host = net.address i ∧ e.netmask = ALLONES_ADDRESS := by
    unfold newRoute at h
    split at h
    · cases h
    · simp only at h
      split at h
      · cases h
      · split at h
        · cases h
        · split at h
          · cases h
          · cases h
            exact ⟨rfl, rfl⟩
  have hones : ∀ a : IPAddress, a &&& ALLONES_ADDRESS = a := by
    intro a
    have hall : ALLONES_ADDRESS = BitVec.allOnes 32 := by decide
    rw [hall, BitVec.and_allOnes]
  unfold IPRoute.matchesAddr
  rw [hhost.1, hhost.2, hones, hones]

/-! ## The table of one node -/

theorem intraASStep_routes {net : RouterLevel} (paths : Paths) (i : Nat) (tables : Tables)
    {j s : Nat} (hj : j < net.topology.numNodes) (hs : s < net.topology.numNodes) :
    (net.intraASStep paths i tables j (net.module s).id).routes =
      (tables (net.module s).id).routes ++
        if j = s then (net.newRoute paths i s).toList else [] := by
  have hid : (net.infoAt j).moduleId = (net.module j).id := by
    obtain ⟨ip, hinfo, -⟩ := infoAt_eq hj
    rw [hinfo]
    exact (record_made hj).moduleId
  unfold intraASStep
  by_cases hjs : j = s
  · subst hjs
    cases hnew : net.newRoute paths i j with
    | none => simp
    | some e => simp [addRoute, hid]
  · have hne : (net.module s).id ≠ (net.module j).id := fun heq =>
      hjs (net.ids j s hj hs heq.symm)
    rw [if_neg hjs]
    cases hnew : net.newRoute paths i j with
    | none => simp
    | some e => simp [addRoute, hid, Function.update_of_ne hne]

theorem foldl_intraASStep_routes {net : RouterLevel} (paths : Paths) (i : Nat)
    (tables : Tables) {s : Nat} (hs : s < net.topology.numNodes) :
    ((List.range net.topology.numNodes).foldl (net.intraASStep paths i) tables
        (net.module s).id).routes =
      (tables (net.module s).id).routes ++ (net.newRoute paths i s).toList := by
  have hfold : ∀ (js : List Nat), js.Nodup → (∀ j ∈ js, j < net.topology.numNodes) →
      ∀ tables : Tables, (js.foldl (net.intraASStep paths i) tables (net.module s).id).routes =
        (tables (net.module s).id).routes ++
          if s ∈ js then (net.newRoute paths i s).toList else [] := by
    intro js
    induction js with
    | nil => simp
    | cons j js ih =>
        intro hnodup hjs tables
        rw [List.nodup_cons] at hnodup
        rw [List.foldl_cons, ih hnodup.2 fun k hk => hjs k (List.mem_cons_of_mem j hk),
          intraASStep_routes paths i tables (hjs j List.mem_cons_self) hs, List.append_assoc]
        congr 1
        by_cases hjs' : j = s
        · subst hjs'
          simp [hnodup.1]
        · simp [hjs', Ne.symm hjs']
  rw [hfold _ List.nodup_range (fun j hj => List.mem_range.mp hj) tables,
    if_pos (List.mem_range.mpr hs)]

/-- The table of a node in the end: the routes from before, the default route,
and the host routes in the order of the destinations. -/
theorem finalTables_routes {net : RouterLevel} (spf : Nat → Paths) {s : Nat}
    (hs : s < net.topology.numNodes) :
    (net.finalTables spf (net.module s).id).routes =
      (net.assigned.tables (net.module s).id).routes ++
        (List.range net.topology.numNodes).flatMap fun i =>
          (net.newRoute (spf (net.infoAt i).node.index) i s).toList := by
  have hfold : ∀ (is : List Nat) (tables : Tables),
      (is.foldl (fun tables i => (List.range net.topology.numNodes).foldl
        (net.intraASStep (spf (net.infoAt i).node.index) i) tables) tables
          (net.module s).id).routes =
        (tables (net.module s).id).routes ++
          is.flatMap fun i => (net.newRoute (spf (net.infoAt i).node.index) i s).toList := by
    intro is
    induction is with
    | nil => simp
    | cons i is ih =>
        intro tables
        rw [List.foldl_cons, ih, foldl_intraASStep_routes _ _ _ hs, List.flatMap_cons,
          List.append_assoc]
  exact hfold _ _

/-! ## Looking a destination up -/

section

variable {net : RouterLevel} {spf : Nat → Paths}
  (hunused : net.Unused)
  (hdistinct : ∀ i j, i < net.topology.numNodes → j < net.topology.numNodes →
    net.address i = net.address j → i = j)

include hunused hdistinct

/-- The routes of `s` that concern `d`: the default route and the host route. -/
theorem finalTables_filter {s d : Nat} (hs : s < net.topology.numNodes)
    (hd : d < net.topology.numNodes) :
    ((net.finalTables spf (net.module s).id).routes.filter
        fun e => e.matchesAddr (net.address d)) =
      (if (net.record s).routerType = .core then [] else [defaultRoute (net.record s)]) ++
        (net.newRoute (spf d) d s).toList := by
  have hindex : ∀ i, i < net.topology.numNodes → (net.infoAt i).node.index = i := by
    intro i hi
    obtain ⟨ip, hinfo, -⟩ := infoAt_eq hi
    rw [hinfo]
    show (net.record i).node.index = i
    rw [(record_made hi).node]
    rfl
  -- no route was there before that concerns `d`
  have hold : (net.tables (net.module s).id).routes.filter
      (fun e => e.matchesAddr (net.address d)) = [] := by
    rw [List.filter_eq_nil_iff]
    intro e he hmatch
    rw [hunused s d hs hd e he] at hmatch
    cases hmatch
  obtain ⟨ip, -, htable⟩ := infoAt_eq hs
  rw [finalTables_routes spf hs, List.filter_append, htable]
  congr 1
  · unfold setDefaultRoute
    by_cases hcore : (net.record s).routerType = .core
    · simp [hcore, hold]
    · simp [hcore, hold, defaultRoute_matches]
  · have hspec := flatMap_toList_filter (n := net.topology.numNodes)
      (f := fun i => net.newRoute (spf (net.infoAt i).node.index) i s)
      (p := fun e => e.matchesAddr (net.address d)) hd ?_ ?_
    · rw [hindex d hd] at hspec
      exact hspec
    · intro e he
      rw [newRoute_matches he]
      exact beq_self_eq_true _
    · intro i e hi hid he
      rw [newRoute_matches he, beq_eq_false_iff_ne]
      exact fun heq => hid (hdistinct i d hi hd heq)

/-- Whatever the first link towards `d` is, its interface is what the table of
`s` gives for `d`. -/
theorem getInterface_eq {s d : Nat} (hs : s < net.topology.numNodes)
    (hd : d < net.topology.numNodes) (hsd : s ≠ d)
    (hes : (net.record s).routerType ≠ .endSys) {link : Link}
    (hlink : net.topology.getPath (spf d) s = some link)
    (hreg : getInterfaceByNodeOutputGateId (net.module s).ift link.localGateId ≠ none) :
    getInterfaceForDestAddr (net.finalTables spf (net.module s).id) (net.address d) =
      getInterfaceByNodeOutputGateId (net.module s).ift link.localGateId := by
  have hnew := newRoute_eq hs hsd hes (spf d)
  rw [hlink] at hnew
  simp only at hnew
  unfold getInterfaceForDestAddr
  rw [findBestMatchingRoute_filter, finalTables_filter hunused hdistinct hs hd]
  by_cases hie : getInterfaceByNodeOutputGateId (net.module s).ift link.localGateId =
      (net.record s).defaultRouteIE
  · -- the default route does: `s` is not a core router
    have hcore : (net.record s).routerType ≠ .core := fun hcore =>
      hreg (hie.trans ((record_made hs).defaultRouteIE hcore))
    rw [if_pos hie] at hnew
    rw [hnew, if_neg hcore, hie, Option.toList_none, List.append_nil,
      findBestMatchingRoute_single (defaultRoute_matches _ _)]
    rfl
  · rw [if_neg hie] at hnew
    -- a host route to `d` beats the default route
    have hmatch : IPRoute.matchesAddr ⟨net.address d, ALLONES_ADDRESS,
        getInterfaceByNodeOutputGateId (net.module s).ift link.localGateId, .direct⟩
          (net.address d) = true := by
      rw [newRoute_matches hnew]
      exact beq_self_eq_true _
    rw [hnew, Option.toList_some]
    by_cases hcore : (net.record s).routerType = .core
    · rw [if_pos hcore, List.nil_append, findBestMatchingRoute_single hmatch]
      rfl
    · rw [if_neg hcore]
      show (findBestMatchingRoute [_, _] _).bind _ = _
      rw [findBestMatchingRoute_pair (defaultRoute_matches _ _) rfl hmatch rfl]
      rfl

end

/-! ## Forwarding -/

/-- The first link of a computed path is a link of the source, through an
interface of its own. -/
theorem getPath_spec {net : RouterLevel} {paths : Paths} {s d : Nat} {link : Link}
    (hpaths : net.topology.ShortestPathsTo (fun _ => true) d paths)
    (hlink : net.topology.getPath paths s = some link) :
    link ∈ net.topology.links ∧ link.src = s ∧
      ∃ k ie, getInterfaceByNodeOutputGateId (net.module s).ift link.localGateId = some k ∧
        (net.module s).ift[k]? = some ie ∧ ie.nodeOutputGateId = link.localGateId := by
  obtain ⟨k, hk, hget⟩ := Option.bind_eq_some_iff.mp hlink
  obtain ⟨link', hget', -, hsrc⟩ := hpaths.valid s k hk
  rw [hget] at hget'
  cases hget'
  have hmem := List.mem_of_getElem? hget
  refine ⟨hmem, hsrc, ?_⟩
  obtain ⟨ie, hie, hgate⟩ := net.registered link hmem
  rw [hsrc] at hie
  unfold getInterfaceByNodeOutputGateId
  cases hfind : (net.module s).ift.findIdx? fun ie => ie.nodeOutputGateId == link.localGateId with
  | none =>
      have hno := List.findIdx?_eq_none_iff.mp hfind ie hie
      simp [hgate] at hno
  | some m =>
      obtain ⟨hm, hmgate, -⟩ := List.findIdx?_eq_some_iff_getElem.mp hfind
      exact ⟨m, _, rfl, List.getElem?_eq_getElem hm, by simpa using hmgate⟩

section

variable {net : RouterLevel} {spf : Nat → Paths}
  (hspf : ∀ d, d < net.topology.numNodes →
    net.topology.ShortestPathsTo (fun _ => true) d (spf d))
  (hunused : net.Unused)
  (hdistinct : ∀ i j, i < net.topology.numNodes → j < net.topology.numNodes →
    net.address i = net.address j → i = j)

include hspf hunused hdistinct

/-- A packet goes where the path computed towards its destination goes. -/
theorem forwards_nextNode {s d v : Nat} (hs : s < net.topology.numNodes)
    (hd : d < net.topology.numNodes) (hsd : s ≠ d)
    (hes : (net.record s).routerType ≠ .endSys)
    (hv : net.topology.nextNode (spf d) s = some v) :
    net.Forwards spf (net.address d) s v := by
  refine ⟨hes, ?_⟩
  obtain ⟨link, hlink, rfl⟩ := Option.map_eq_some_iff.mp hv
  obtain ⟨hmem, hsrc, k, ie, hk, hie, hgate⟩ := getPath_spec (hspf d hd) hlink
  have hreg : getInterfaceByNodeOutputGateId (net.module s).ift link.localGateId ≠ none := by
    rw [hk]
    exact Option.some_ne_none k
  have hlookup := getInterface_eq hunused hdistinct hs hd hsd hes hlink hreg
  -- the gate of that interface belongs to no other link of the node
  have hfind : net.topology.links.find?
      (fun l => l.src == s && l.localGateId == ie.nodeOutputGateId) = some link := by
    cases hf : net.topology.links.find?
        (fun l => l.src == s && l.localGateId == ie.nodeOutputGateId) with
    | none =>
        have hno := List.find?_eq_none.mp hf link hmem
        simp [hsrc, hgate] at hno
    | some link' =>
        have hp := List.find?_some hf
        simp only [Bool.and_eq_true, beq_iff_eq] at hp
        have hmem' := List.mem_of_find?_eq_some hf
        rw [net.gates link' hmem' link hmem (hp.1.trans hsrc.symm) (hp.2.trans hgate)]
  unfold nextHop
  rw [hlookup, hk]
  simp [hie, hfind]

/-- Along the computed path a packet goes on to the destination, or to the
first end system on the way. -/
theorem forwards_along {d : Nat} (hd : d < net.topology.numNodes) (q : List Nat) :
    ∀ u, u < net.topology.numNodes → Follows (net.topology.nextNode (spf d)) u q d →
      ∃ p rest w, q = p ++ rest ∧ IsWalk (net.Forwards spf (net.address d)) u p w ∧
        Follows (net.topology.nextNode (spf d)) u p w ∧
        Follows (net.topology.nextNode (spf d)) w rest d ∧
        (w ≠ d → (net.record w).routerType = .endSys) := by
  induction q with
  | nil =>
      intro u _ hu
      exact ⟨[], [], u, rfl, rfl, rfl, hu, fun hne => absurd hu hne⟩
  | cons v q ih =>
      intro u hun hu
      by_cases hes : (net.record u).routerType = .endSys
      · exact ⟨[], v :: q, u, rfl, rfl, rfl, hu, fun _ => hes⟩
      · have hnext : net.topology.nextNode (spf d) u = some v := hu.1
        have hud : u ≠ d := by
          rintro rfl
          rw [(hspf u hd).nextHops.target] at hnext
          cases hnext
        -- the next node is one of the topology, so the rest can be followed from there
        have hvn : v < net.topology.numNodes := by
          obtain ⟨link, hlink, rfl⟩ := Option.map_eq_some_iff.mp hnext
          exact (net.inRange link (getPath_spec (hspf d hd) hlink).1).2
        have hfw := forwards_nextNode hspf hunused hdistinct hun hd hud hes hnext
        obtain ⟨p, rest, w, rfl, hp, hfollow, hrest, hw⟩ := ih v hvn hu.2
        exact ⟨v :: p, rest, w, rfl, ⟨hfw, hp⟩, ⟨hnext, hfollow⟩, hrest, hw⟩

/-- The tables realise shortest paths: from a node `s` that is not an end
system, the lookup of a reachable destination `d` gives the interface of the
first link of the computed path, and a packet forwarded hop by hop, visiting no
node twice, gets one closer with each hop until it is at `d` or at an end
system. -/
theorem tables_realise_shortest_paths {s d : Nat} (hs : s < net.topology.numNodes)
    (hd : d < net.topology.numNodes) (hsd : s ≠ d)
    (hes : (net.record s).routerType ≠ .endSys)
    (hreach : ∃ p, IsWalk (net.topology.Edge fun _ => true) s p d) :
    (∃ link k ie, net.topology.getPath (spf d) s = some link ∧
      getInterfaceForDestAddr (net.finalTables spf (net.module s).id) (net.address d) = some k ∧
      (net.module s).ift[k]? = some ie ∧ ie.nodeOutputGateId = link.localGateId) ∧
    ∃ p w m, IsWalk (net.Forwards spf (net.address d)) s p w ∧ (s :: p).Nodup ∧
      (w ≠ d → (net.record w).routerType = .endSys) ∧
      IsDist (net.topology.Edge fun _ => true) w d m ∧
      IsDist (net.topology.Edge fun _ => true) s d (m + p.length) := by
  have hnext := (hspf d hd).nextHops
  constructor
  · obtain ⟨v, hv⟩ := (hnext.dom s).mpr ⟨hsd, hreach⟩
    obtain ⟨link, hlink, -⟩ := Option.map_eq_some_iff.mp hv
    obtain ⟨-, -, k, ie, hk, hie, hgate⟩ := getPath_spec (hspf d hd) hlink
    refine ⟨link, k, ie, hlink, ?_, hie, hgate⟩
    rw [getInterface_eq hunused hdistinct hs hd hsd hes hlink]
    · exact hk
    · rw [hk]
      exact Option.some_ne_none k
  · obtain ⟨q₀, hq₀⟩ := hreach
    obtain ⟨n, hn⟩ := hq₀.exists_isDist
    obtain ⟨q, hq, -⟩ := hnext.follow hn
    obtain ⟨p, rest, w, rfl, hp, hfollow, hrest, hw⟩ :=
      forwards_along hspf hunused hdistinct hd q s hs hq
    -- what is left of a shortest walk is one, and so is what was gone
    have hdist := (hnext.isShortest hrest).2
    refine ⟨p, w, rest.length, hp, ?_, hw, hdist, hnext.isDist hfollow hdist⟩
    have hnodup := (hnext.isShortest hq).nodup
    rw [← List.cons_append] at hnodup
    exact hnodup.of_append_left

end

end RouterLevel

/-! ## A chain of three routers -/

/-- The modules of a core, a gateway and an edge router in a row. -/
def chainModule (j : Nat) : Module where
  id := 10 + j
  fullPath := "scada.field1.".toList ++
    (if j = 0 then "core0" else if j = 1 then "gw0" else "edge0").toList
  hasRoutingTable := true
  ift := ⟨true, 0x7f000001, 0xff000000, -1⟩ ::
    (if j = 0 then [⟨false, 0, 0, 1⟩]
      else if j = 1 then [⟨false, 0, 0, 0⟩, ⟨false, 0, 0, 1⟩] else [⟨false, 0, 0, 0⟩])
  nextGateOwner := fun gate =>
    if j = 0 then some "scada.field1.gw0".toList
    else if j = 1 then
      some (if gate = 0 then "scada.field1.core0" else "scada.field1.edge0").toList
    else some "scada.field1.gw0".toList

def chainRecord (j : Nat) : NodeInfoRL where
  isIPNode := true
  ift := (chainModule j).ift
  defaultRouteIE := if j = 0 then none else some 1
  asId := 0
  asType := .transitAS
  routerType := if j = 0 then .core else if j = 1 then .gw else .edge
  moduleId := 10 + j
  addr := 0
  node := .inRl 0 j

def chain : RouterLevel where
  as := 0
  addr := 0x00010000
  topology := rowOfThree
  module := chainModule
  record := chainRecord
  uninit := chainRecord 0
  tables := fun _ => ⟨0, []⟩
  made := by
    intro j hj
    have hj3 : j < 3 := hj
    refine ⟨chainRecord 0, ?_⟩
    obtain rfl | rfl | rfl : j = 0 ∨ j = 1 ∨ j = 2 := by omega
    · decide
    · decide
    · decide
  ids := by
    intro i j _ _ h
    have h' : (10 + i : Int) = 10 + j := h
    omega
  inRange := by decide
  gates := by decide
  registered := by decide

/-- The link each node takes: towards `d` along the chain. -/
def chainPaths (d s : Nat) : Option Nat :=
  if s < d then if s = 0 then some 0 else if s = 1 then some 2 else none
  else if d < s then if s = 1 then some 1 else if s = 2 then some 3 else none
  else none

/-- The distance of two nodes of the chain. -/
def chainLabel (d s : Nat) : Option Nat :=
  if s < 3 then some (if s < d then d - s else s - d) else none

theorem chain_nextNode {d s : Nat} (hd : d < 3) (hs : s < 3) :
    chain.topology.nextNode (chainPaths d) s =
      if s < d then some (s + 1) else if d < s then some (s - 1) else none := by
  obtain rfl | rfl | rfl : d = 0 ∨ d = 1 ∨ d = 2 := by omega
  all_goals obtain rfl | rfl | rfl : s = 0 ∨ s = 1 ∨ s = 2 := by omega
  all_goals decide

/-- Beyond the chain there is no link to take. -/
theorem chain_nextNode_far {d s : Nat} (hd : d < 3) (hs : 3 ≤ s) :
    chain.topology.nextNode (chainPaths d) s = none := by
  have hpath : chainPaths d s = none := by
    unfold chainPaths
    rw [if_neg (by omega), if_pos (by omega), if_neg (by omega), if_neg (by omega)]
  simp [CTopology.nextNode, CTopology.getPath, hpath]

theorem chainPaths_lawful (d : Nat) (hd : d < chain.topology.numNodes) :
    chain.topology.ShortestPathsTo (fun _ => true) d (chainPaths d) := by
  have hd3 : d < 3 := hd
  refine ⟨?_, .of_label (chainLabel d) (by simp [chainLabel, hd3]) ?_ ?_ ?_⟩
  · -- every link taken starts at the node that takes it
    intro u k hk
    unfold chainPaths at hk
    split_ifs at hk <;> cases hk
    · exact ⟨⟨0, 1, 1⟩, rfl, rfl, ‹u = 0›.symm⟩
    · exact ⟨⟨1, 2, 1⟩, rfl, rfl, ‹u = 1›.symm⟩
    · exact ⟨⟨1, 0, 0⟩, rfl, rfl, ‹u = 1›.symm⟩
    · exact ⟨⟨2, 1, 0⟩, rfl, rfl, ‹u = 2›.symm⟩
  · -- a link joins neighbours, so it changes the distance by one
    intro u v n huv hv
    replace huv := rowOfThree_edge_iff.mp huv
    simp only [List.mem_cons, Prod.mk.injEq, List.not_mem_nil, or_false] at huv
    unfold chainLabel at hv ⊢
    have hv3 : v < 3 := by omega
    rw [if_pos hv3] at hv
    cases hv
    refine ⟨_, if_pos (by omega), ?_⟩
    split <;> split <;> omega
  · -- every node of the chain but `d` has a next node
    intro u
    by_cases hu : u < 3
    · rw [chain_nextNode hd3 hu]
      constructor
      · rintro ⟨v, hv⟩
        refine ⟨?_, _, if_pos hu⟩
        rintro rfl
        simp at hv
      · rintro ⟨hne, -⟩
        rcases Nat.lt_or_gt_of_ne hne with h | h
        · exact ⟨_, if_pos h⟩
        · rw [if_neg (by omega)]
          exact ⟨_, if_pos h⟩
    · rw [chain_nextNode_far hd3 (by omega)]
      refine iff_of_false ?_ ?_
      · rintro ⟨v, h⟩
        cases h
      · rintro ⟨-, n, hn⟩
        rw [chainLabel, if_neg hu] at hn
        cases hn
  · -- and that one is nearer to `d`
    intro u v huv
    by_cases hu : u < 3
    · rw [chain_nextNode hd3 hu] at huv
      show rowOfThree.Edge _ u v ∧ _
      rw [rowOfThree_edge_iff]
      simp only [List.mem_cons, Prod.mk.injEq, List.not_mem_nil, or_false]
      unfold chainLabel
      split_ifs at huv <;> cases huv
      · exact ⟨by omega, _, if_pos (by omega), by rw [if_pos hu]; congr 1; split <;> split <;> omega⟩
      · exact ⟨by omega, _, if_pos (by omega), by rw [if_pos hu]; congr 1; split <;> split <;> omega⟩
    · rw [chain_nextNode_far hd3 (by omega)] at huv
      cases huv

theorem chain_distinct (i j : Nat) (hi : i < chain.topology.numNodes)
    (hj : j < chain.topology.numNodes) (h : chain.address i = chain.address j) : i = j := by
  have hi3 : i < 3 := hi
  have hj3 : j < 3 := hj
  have hall : ∀ i : Fin 3, ∀ j : Fin 3, chain.address i = chain.address j → i = j := by decide
  exact congrArg Fin.val (hall ⟨i, hi3⟩ ⟨j, hj3⟩ h)

/-- From the core router to the edge router. -/
theorem tables_realise_on_chain :
    (∃ link k ie, chain.topology.getPath (chainPaths 2) 0 = some link ∧
      getInterfaceForDestAddr (chain.finalTables chainPaths (chain.module 0).id)
        (chain.address 2) = some k ∧
      (chain.module 0).ift[k]? = some ie ∧ ie.nodeOutputGateId = link.localGateId) ∧
    ∃ p w m, IsWalk (chain.Forwards chainPaths (chain.address 2)) 0 p w ∧ (0 :: p).Nodup ∧
      (w ≠ 2 → (chain.record w).routerType = .endSys) ∧
      IsDist (chain.topology.Edge fun _ => true) w 2 m ∧
      IsDist (chain.topology.Edge fun _ => true) 0 2 (m + p.length) :=
  RouterLevel.tables_realise_shortest_paths chainPaths_lawful
    (fun _ _ _ _ _ he => absurd he List.not_mem_nil) chain_distinct
    (by decide) (by decide) (by decide) (by decide)
    ⟨[1, 2], rowOfThree_edge_iff.mpr (by simp), rowOfThree_edge_iff.mpr (by simp), rfl⟩

end ScadaSim.Routing
