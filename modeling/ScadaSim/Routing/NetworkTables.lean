import ScadaSim.Routing.Internet

/-!
# The tables of the configured network

Every loop of `initialize` changes the tables of its own nodes only. So the table of a node
in the end is the one its AS gives it, with the routes to other ASs behind:
`finalTables_at`. A lookup looks at the routes that match, and takes a host route before
the routes to other ASs, and these before the default route.
-/

namespace ScadaSim.Routing

open Lib Lib.Walk

/-! ## Lookup -/

theorem findBestMatchingRoute_eq {routes matching : List IPRoute} {dest : IPAddress}
    (h : routes.filter (fun e => e.matchesAddr dest) = matching) :
    findBestMatchingRoute routes dest = findBestMatchingRoute matching dest := by
  rw [findBestMatchingRoute_filter, h]

theorem foldl_best_of_le {e : IPRoute} {dest : IPAddress} {routes : List IPRoute}
    (h : ∀ e' ∈ routes, e'.matchesAddr dest = true → ¬ e.netmask < e'.netmask) :
    routes.foldl (fun best e => if e.matchesAddr dest && betterThan e best then some e else best)
      (some e) = some e := by
  induction routes with
  | nil => rfl
  | cons e' routes ih =>
      have hkeep : (e'.matchesAddr dest && betterThan e' (some e)) = false := by
        cases hmatch : e'.matchesAddr dest with
        | false => rfl
        | true => exact decide_eq_false (h e' (.head routes) hmatch)
      rw [List.foldl_cons, hkeep, if_neg Bool.false_ne_true]
      exact ih fun e'' hmem => h e'' (.tail e' hmem)

/-- No netmask is longer than that of a host route. -/
theorem findBestMatchingRoute_host {e : IPRoute} {dest : IPAddress} {routes : List IPRoute}
    (hmatch : e.matchesAddr dest = true) (hones : e.netmask = ALLONES_ADDRESS) :
    findBestMatchingRoute (e :: routes) dest = some e := by
  have hfirst : (e.matchesAddr dest && betterThan e none) = true := by
    rw [hmatch]
    rfl
  unfold findBestMatchingRoute
  rw [List.foldl_cons, if_pos hfirst]
  refine foldl_best_of_le fun e' _ _ hlt => ?_
  rw [hones, BitVec.lt_def, show ALLONES_ADDRESS.toNat = 4294967295 from rfl] at hlt
  have hbound := e'.netmask.isLt
  omega

/-! ## The tables of one AS -/

/-- Addresses do not depend on the tables. -/
theorem assignLoop_nodeMap (currentIP : IPAddress) (l : List NodeInfoRL) (tables tables' : Tables) :
    (assignLoop currentIP l tables).nodeMap = (assignLoop currentIP l tables').nodeMap := by
  induction l generalizing currentIP tables tables' with
  | nil => rfl
  | cons info rest ih =>
      unfold assignLoop
      dsimp only
      rw [ih]

namespace RouterLevel

variable {net : RouterLevel}

theorem assigned_table {j : Nat} (hj : j < net.topology.numNodes) :
    net.assigned.tables (net.module j).id =
      setDefaultRoute (net.address j) (net.record j) (net.tables (net.module j).id) := by
  obtain ⟨ip, hinfo, htable⟩ := infoAt_eq hj
  have hip : net.address j = ip := by
    unfold address
    rw [hinfo]
    rfl
  rw [htable, hip]

/-- A module of another AS. -/
def Foreign (net : RouterLevel) (id : Int) : Prop :=
  ∀ j < net.topology.numNodes, (net.module j).id ≠ id

theorem assigned_foreign {id : Int} (h : net.Foreign id) :
    net.assigned.tables id = net.tables id := by
  refine assignLoop_tables_of_not_mem (fun hmem => ?_) _ _
  obtain ⟨info, hinfo, hid⟩ := List.mem_map.mp hmem
  obtain ⟨j, hj, rfl⟩ := List.mem_map.mp (net.nodeMap_perm.mem_iff.mp hinfo)
  have hj' := List.mem_range.mp hj
  rw [(record_made hj').moduleId] at hid
  exact h j hj' hid

theorem intraASStep_foreign {id : Int} (h : net.Foreign id) (paths : Paths) (i : Nat)
    (tables : Tables) {j : Nat} (hj : j < net.topology.numNodes) :
    net.intraASStep paths i tables j id = tables id := by
  unfold intraASStep
  cases net.newRoute paths i j with
  | none => rfl
  | some e =>
      obtain ⟨ip, hinfo, -⟩ := infoAt_eq hj
      have hid : (net.infoAt j).moduleId = (net.module j).id := by
        rw [hinfo]
        exact (record_made hj).moduleId
      show addRoute tables (net.infoAt j).moduleId e id = tables id
      unfold addRoute
      rw [hid, Function.update_of_ne (Ne.symm (h j hj))]

theorem setIntraASRoutes_foreign {id : Int} (h : net.Foreign id) (spf : Nat → Paths)
    (tables : Tables) : net.setIntraASRoutes spf tables id = tables id := by
  unfold setIntraASRoutes
  refine List.foldlRecOn (motive := fun t : Tables => t id = tables id) _ _ rfl
    fun t ht i _ => ?_
  refine List.foldlRecOn (motive := fun t : Tables => t id = tables id) _ _ ht
    fun t ht j hj => ?_
  rw [intraASStep_foreign h _ _ _ (List.mem_range.mp hj), ht]

/-- The routes that are added for a node do not depend on the table. -/
theorem setIntraASRoutes_routes (spf : Nat → Paths) {s : Nat} (hs : s < net.topology.numNodes)
    (tables : Tables) :
    (net.setIntraASRoutes spf tables (net.module s).id).routes =
      (tables (net.module s).id).routes ++
        (List.range net.topology.numNodes).flatMap fun i =>
          (net.newRoute (spf (net.infoAt i).node.index) i s).toList := by
  have hfold : ∀ (is : List Nat) (tables : Tables),
      (is.foldl (fun tables i => (List.range net.topology.numNodes).foldl
        (net.intraASStep (spf (net.infoAt i).node.index) i) tables) tables
          (net.module s).id).routes =
        (tables (net.module s).id).routes ++
          is.flatMap fun i => (net.newRoute (spf (net.infoAt i).node.index) i s).toList := by
    intro is
    induction is with
    | nil => intro tables; exact (List.append_nil _).symm
    | cons i is ih =>
        intro tables
        rw [List.foldl_cons, ih, foldl_intraASStep_routes _ _ _ hs, List.flatMap_cons,
          List.append_assoc]
  exact hfold _ _

end RouterLevel

namespace Internet

variable {net : Internet}

theorem foreign {u : Place} (hu : net.IsNode u) {a : Nat} (ha : a < net.numAs) (hne : a ≠ u.as)
    (tables : Tables) :
    (net.levelAt a tables).toRouterLevel.Foreign (net.module u).id := fun j hj hid =>
  hne (net.ids a ha u.as hu.1 j hj u.node hu.2 hid)

theorem infoAt_levelAt (a j : Nat) (tables : Tables) :
    (net.levelAt a tables).infoAt j = net.infoAt ⟨a, j⟩ := by
  unfold infoAt RouterLevel.infoAt RouterLevel.assigned assignAddressAndSetDefaultRoutes
  exact congrArg (nodeMapAt _ · _) (assignLoop_nodeMap _ _ _ _)

/-- The address and the default route of a node come from its own AS. -/
theorem assignedTables_at {u : Place} (hu : net.IsNode u) :
    net.assignedTables (net.module u).id =
      (net.levelAt u.as net.tables).assigned.tables (net.module u).id := by
  have hfold : ∀ (as : List Nat), as.Nodup → (∀ a ∈ as, a < net.numAs) → ∀ tables : Tables,
      tables (net.module u).id = net.tables (net.module u).id →
        as.foldl (fun tables a => (net.levelAt a tables).assigned.tables) tables
            (net.module u).id =
          if u.as ∈ as then (net.levelAt u.as net.tables).assigned.tables (net.module u).id
          else tables (net.module u).id := by
    intro as
    induction as with
    | nil => exact fun _ _ tables _ => rfl
    | cons a as ih =>
        intro hnodup has tables htables
        rw [List.nodup_cons] at hnodup
        have hrest := fun a' hmem => has a' (List.mem_cons_of_mem a hmem)
        rw [List.foldl_cons]
        by_cases ha : a = u.as
        · subst ha
          -- the ASs behind leave the table alone
          have hlater : ∀ tables : Tables, as.foldl
              (fun tables a => (net.levelAt a tables).assigned.tables) tables (net.module u).id =
                tables (net.module u).id := by
            intro tables
            refine List.foldlRecOn (motive := fun t : Tables => t (net.module u).id =
              tables (net.module u).id) as _ rfl fun t ht b hb => ?_
            have hne : b ≠ u.as := fun heq => hnodup.1 (heq ▸ hb)
            rw [RouterLevel.assigned_foreign (foreign hu (hrest b hb) hne t)]
            exact ht
          rw [hlater, if_pos List.mem_cons_self]
          have hown := @RouterLevel.assigned_table (net.levelAt u.as tables).toRouterLevel _ hu.2
          have hown' :=
            @RouterLevel.assigned_table (net.levelAt u.as net.tables).toRouterLevel _ hu.2
          refine hown.trans (Eq.trans ?_ hown'.symm)
          unfold RouterLevel.address
          rw [infoAt_levelAt, infoAt_levelAt]
          exact congrArg _ htables
        · have hstep := RouterLevel.assigned_foreign (foreign hu (has a List.mem_cons_self) ha tables)
          have hsame : (net.levelAt a tables).assigned.tables (net.module u).id =
              tables (net.module u).id := hstep
          rw [ih hnodup.2 hrest _ (hsame.trans htables), hsame]
          by_cases hmem : u.as ∈ as
          · rw [if_pos hmem, if_pos (List.mem_cons_of_mem a hmem)]
          · rw [if_neg hmem, if_neg]
            rw [List.mem_cons, not_or]
            exact ⟨Ne.symm ha, hmem⟩
  have hall := hfold (List.range net.numAs) List.nodup_range
    (fun a ha => List.mem_range.mp ha) net.tables rfl
  rw [if_pos (List.mem_range.mpr hu.1)] at hall
  exact hall

/-- So do the routes inside the AS. -/
theorem intraTables_at {u : Place} (hu : net.IsNode u) (spf : Nat → Nat → Paths) :
    (net.intraTables spf (net.module u).id).routes =
      ((net.levelAt u.as net.tables).finalTables (spf u.as) (net.module u).id).routes := by
  have hown := @RouterLevel.setIntraASRoutes_routes
    (net.levelAt u.as net.tables).toRouterLevel (spf u.as) _ hu.2
  have hfold : ∀ (as : List Nat), as.Nodup → (∀ a ∈ as, a < net.numAs) → ∀ tables : Tables,
      (as.foldl (fun tables a => (net.levelAt a net.tables).setIntraASRoutes (spf a) tables)
          tables (net.module u).id).routes =
        if u.as ∈ as then
          ((net.levelAt u.as net.tables).setIntraASRoutes (spf u.as) tables
            (net.module u).id).routes
        else (tables (net.module u).id).routes := by
    intro as
    induction as with
    | nil => exact fun _ _ tables => rfl
    | cons a as ih =>
        intro hnodup has tables
        rw [List.nodup_cons] at hnodup
        have hrest := fun a' hmem => has a' (List.mem_cons_of_mem a hmem)
        rw [List.foldl_cons, ih hnodup.2 hrest]
        by_cases ha : a = u.as
        · subst ha
          rw [if_neg hnodup.1, if_pos List.mem_cons_self]
        · have hsame : (net.levelAt a net.tables).setIntraASRoutes (spf a) tables
              (net.module u).id = tables (net.module u).id :=
            RouterLevel.setIntraASRoutes_foreign
              (foreign hu (has a List.mem_cons_self) ha net.tables) _ _
          by_cases hmem : u.as ∈ as
          · rw [if_pos hmem, if_pos (List.mem_cons_of_mem a hmem)]
            refine (hown _).trans (Eq.trans ?_ (hown tables).symm)
            exact congrArg (fun t : RoutingTable => t.routes ++ _) hsame
          · rw [if_neg hmem, if_neg, hsame]
            rw [List.mem_cons, not_or]
            exact ⟨Ne.symm ha, hmem⟩
  have hall := hfold (List.range net.numAs) List.nodup_range
    (fun a ha => List.mem_range.mp ha) net.assignedTables
  rw [if_pos (List.mem_range.mpr hu.1)] at hall
  refine hall.trans ((hown _).trans (Eq.trans ?_ (hown _).symm))
  exact congrArg (fun t : RoutingTable => t.routes ++ _) (assignedTables_at hu)

end Internet

/-! ## The routes to other ASs -/

namespace AsLevel

/-- What is known of a route, whatever paths it was taken from. -/
structure Installed (net : AsLevel) (r : AddedRoute) : Prop where
  src : r.srcCore < net.asTopology.numNodes
  dest : r.destCore < net.asTopology.numNodes
  relevant : net.relevant (r.destCore, r.srcCore) = true
  route : ∃ link, net.asTopology.getPath r.paths r.srcCore = some link ∧
    r.route = ⟨(net.corePrefix r.destCore).addr, NET_MASK,
      getInterfaceByNodeOutputGateId (net.corePrefix r.srcCore).ift link.localGateId, .direct⟩

theorem computePaths_routes (net : AsLevel) (spf : Spf) (i : Nat) (destCore srcCore : NodeInfoRL)
    (st : InterASState) : (net.computePaths spf i destCore srcCore st).routes = st.routes := by
  unfold computePaths
  split
  · rfl
  · rfl

theorem interASStep_installed {net : AsLevel} {spf : Spf} {i j : Nat} {st : InterASState}
    (hi : i < net.asTopology.numNodes) (hj : j < net.asTopology.numNodes)
    (h : ∀ r ∈ st.routes, net.Installed r) :
    ∀ r ∈ (net.interASStep spf i st j).routes, net.Installed r := by
  by_cases hdo : st.crashed = true ∨ net.relevant (i, j) = false
  · rw [interASStep_skip hdo]
    exact h
  · rw [not_or, Bool.not_eq_true, Bool.not_eq_false] at hdo
    obtain ⟨hcr, hrel⟩ := hdo
    rw [interASStep_serve hcr hrel]
    have hroutes := net.computePaths_routes spf i (net.corePrefix i) (net.corePrefix j) st
    generalize net.computePaths spf i (net.corePrefix i) (net.corePrefix j) st = st' at hroutes ⊢
    unfold addPath
    cases hpath : net.asTopology.getPath st'.paths j with
    | none => exact hroutes ▸ h
    | some link =>
        intro r hr
        rcases List.mem_append.mp hr with hold | hnew
        · exact h r (hroutes ▸ hold)
        · rw [List.mem_singleton.mp hnew]
          exact ⟨hj, hi, hrel, link, hpath, rfl⟩

theorem createInterASPaths_installed (net : AsLevel) (spf : Spf) :
    ∀ r ∈ (net.createInterASPaths spf).routes, net.Installed r := by
  unfold createInterASPaths
  refine List.foldlRecOn (motive := fun st : InterASState => ∀ r ∈ st.routes, net.Installed r)
    _ _ (fun r hr => absurd hr List.not_mem_nil) fun st hst i hi => ?_
  unfold interASRow
  refine List.foldlRecOn (motive := fun st : InterASState => ∀ r ∈ st.routes, net.Installed r)
    _ _ hst fun st hst j hj => ?_
  exact interASStep_installed (List.mem_range.mp hi) (List.mem_range.mp hj) hst

end AsLevel

namespace Internet

variable {net : Internet}

/-- The routes that `createInterASPaths` adds to the table of a node. -/
def routesFrom (net : Internet) (coreSpf : Spf) (u : Place) : List AddedRoute :=
  if net.noAS > 0 then
    (net.asLevel.createInterASPaths coreSpf).routes.filter fun r => net.place r.srcCore = u
  else []

theorem isNode_place {i : Nat} (hi : i < net.asTopology.numNodes) :
    net.IsNode (net.place i) ∧ (net.record (net.place i)).routerType = .core := by
  obtain ⟨has, hnode, hcore⟩ := (net.cores (net.place i)).mpr ⟨i, hi, rfl⟩
  exact ⟨⟨has, hnode⟩, hcore⟩

theorem module_id_inj {u v : Place} (hu : net.IsNode u) (hv : net.IsNode v)
    (h : (net.module u).id = (net.module v).id) : u = v := by
  obtain ⟨a, i⟩ := u
  obtain ⟨b, j⟩ := v
  obtain rfl : a = b := net.ids a hu.1 b hv.1 i hu.2 j hv.2 h
  rw [(net.level a).ids i j hu.2 hv.2 h]

/-- The table of a node in the end. -/
theorem finalTables_at {u : Place} (hu : net.IsNode u) (spf : Nat → Nat → Paths) (coreSpf : Spf) :
    (net.finalTables spf coreSpf (net.module u).id).routes =
      ((net.levelAt u.as net.tables).finalTables (spf u.as) (net.module u).id).routes ++
        (net.routesFrom coreSpf u).map AddedRoute.route := by
  unfold finalTables routesFrom
  split
  · rw [← intraTables_at hu]
    have hinstalled := net.asLevel.createInterASPaths_installed coreSpf
    generalize (net.asLevel.createInterASPaths coreSpf).routes = routes at hinstalled
    generalize net.intraTables spf = tables
    induction routes generalizing tables with
    | nil => exact (List.append_nil _).symm
    | cons r routes ih =>
        have hsrc := (hinstalled r (.head routes)).src
        rw [List.foldl_cons, ih (fun r' hmem => hinstalled r' (.tail r hmem))]
        by_cases heq : net.place r.srcCore = u
        · have hkeep : (r :: routes).filter (fun r => net.place r.srcCore = u) =
              r :: routes.filter fun r => net.place r.srcCore = u :=
            List.filter_cons_of_pos (decide_eq_true heq)
          rw [hkeep, List.map_cons, heq]
          unfold addRoute
          rw [Function.update_self, List.append_assoc]
          rfl
        · have hdrop : (r :: routes).filter (fun r => net.place r.srcCore = u) =
              routes.filter fun r => net.place r.srcCore = u :=
            List.filter_cons_of_neg (by rw [decide_eq_false heq]; exact Bool.false_ne_true)
          have hne : (net.module u).id ≠ (net.module (net.place r.srcCore)).id := fun hid =>
            heq (module_id_inj hu (isNode_place hsrc).1 hid).symm
          rw [hdrop]
          unfold addRoute
          rw [Function.update_of_ne hne]
  · rw [← intraTables_at hu]
    exact (List.append_nil _).symm

/-- Only core routers get routes to other ASs. -/
theorem routesFrom_of_not_core {u : Place} (h : (net.record u).routerType ≠ .core)
    (coreSpf : Spf) : net.routesFrom coreSpf u = [] := by
  unfold routesFrom
  split
  · refine List.filter_eq_nil_iff.mpr fun r hr heq => h ?_
    have hsrc := (net.asLevel.createInterASPaths_installed coreSpf r hr).src
    rw [← of_decide_eq_true heq]
    exact (isNode_place hsrc).2
  · rfl

/-- The id of a core router is read off its path, if its AS has one to read. -/
theorem core_asId {i : Nat} (hi : i < net.asTopology.numNodes) :
    ∃ asType index, findAsType
        "found module that doesn't belong to Transit AS (tas) or Stub AS (sas)"
        (net.module (net.place i)).fullPath = .ok (asType, index) ∧
      (net.core i).asId = if readsId asType then scanId (net.module (net.place i)).fullPath index
        else net.uninitCore.asId := by
  obtain ⟨hnode, hcore⟩ := isNode_place hi
  obtain ⟨uninit, hmade⟩ := (net.level (net.place i).as).made (net.place i).node hnode.2
  obtain ⟨asType, index, routerType, addr, defaultRouteIE, hfind, hrt, hroute, hrecord⟩ :=
    nodeInfoRL_eq_ok.mp hmade
  have htype : routerType = .core := by
    rw [← hcore]
    exact (congrArg NodeInfoRL.routerType hrecord).symm
  subst htype
  -- the interfaces matter for the address only
  obtain ⟨info, hnew, hid⟩ : ∃ info,
      nodeInfoRL net.uninitCore (.inAs i) (net.coreModule i) = .ok info ∧
        info.asId = if readsId asType then scanId (net.module (net.place i)).fullPath index
          else net.uninitCore.asId :=
    ⟨_, nodeInfoRL_eq_ok.mpr ⟨asType, index, .core, _, none, hfind, hrt, ⟨rfl, rfl⟩, rfl⟩, rfl⟩
  have hvalue : net.core i = info := by
    unfold core
    rw [hnew]
    rfl
  rw [hvalue]
  exact ⟨asType, index, hfind, hid⟩

end Internet

end ScadaSim.Routing
