import ScadaSim.Routing.NetworkTables

/-!
# Delivery

Where the packets of the configured network go. Inside an AS every node reaches every
other one on a shortest way, end systems included: `delivers_within`.
-/

namespace ScadaSim.Routing

open Lib Lib.Walk

namespace Internet

/-- What the shortest-path computation is relied on for. -/
structure Lawful (net : Internet) (spf : Nat → Nat → Paths) (coreSpf : Spf) : Prop where
  inside : ∀ a < net.numAs, ∀ d < (net.level a).topology.numNodes,
    (net.level a).topology.ShortestPathsTo (fun _ => true) d (spf a d)
  between : net.asLevel.Lawful coreSpf

/-- The routes that were there before concern no address that is assigned. -/
def Unused (net : Internet) : Prop :=
  ∀ u, net.IsNode u → ∀ v, net.IsNode v →
    ∀ e ∈ (net.tables (net.module u).id).routes, e.matchesAddr (net.address v) = false

variable {net : Internet} {spf : Nat → Nat → Paths} {coreSpf : Spf}

/-! ## Hops -/

/-- A packet leaves through the interface that the lookup gives. -/
theorem nextHop_eq {dest : IPAddress} {u v : Place} {k : Nat} {ie : InterfaceEntry}
    (hlookup : getInterfaceForDestAddr (net.finalTables spf coreSpf (net.module u).id) dest = some k)
    (hie : (net.module u).ift[k]? = some ie) (hwire : net.wire u ie.nodeOutputGateId = some v) :
    net.nextHop spf coreSpf dest u = some v := by
  unfold nextHop
  rw [hlookup]
  show ((net.module u).ift[k]?).bind _ = _
  rw [hie]
  exact hwire

/-- The hop of the AS is the hop of the network: the links are its wires. -/
theorem wire_of_hopVia {u : Place} (hu : net.IsNode u) {k v : Nat}
    (h : (net.level u.as).hopVia u.node k = some v) :
    ∃ ie, (net.module u).ift[k]? = some ie ∧ net.wire u ie.nodeOutputGateId = some ⟨u.as, v⟩ := by
  obtain ⟨ie, hie, link, hlink, hsrc, hgate, rfl⟩ := RouterLevel.hopVia_spec h
  refine ⟨ie, hie, ?_⟩
  have hwire := net.wired u.as hu.1 link hlink
  rw [hsrc, hgate] at hwire
  exact hwire

theorem relay_eq {u d : Place} (hu : net.IsNode u) (hd : net.IsNode d) (hne : u ≠ d)
    (hes : (net.record u).routerType ≠ .endSys) :
    net.relay spf coreSpf (net.address d) u = net.nextHop spf coreSpf (net.address d) u := by
  unfold relay
  rw [if_neg]
  rintro (haddr | htype)
  · exact hne (address_inj hu hd haddr)
  · exact hes htype

theorem relay_self (d : Place) : net.relay spf coreSpf (net.address d) d = none := by
  unfold relay
  rw [if_pos (.inl rfl)]

theorem relay_cases (dest : IPAddress) (u : Place) :
    net.relay spf coreSpf dest u = none ∨
      net.relay spf coreSpf dest u = net.nextHop spf coreSpf dest u := by
  unfold relay
  split
  · exact .inl rfl
  · exact .inr rfl

/-- What a way that relays follow is for the packet of the first node. -/
theorem Takes.of_follows {dest : IPAddress} {s t : Place} {p : List Place}
    (hp : Follows (net.relay spf coreSpf dest) s p t) : net.Takes spf coreSpf dest s p t := by
  cases p with
  | nil => exact hp
  | cons v p =>
      have hnext : net.relay spf coreSpf dest s = some v := hp.1
      refine ⟨?_, hp.2⟩
      rcases @relay_cases net spf coreSpf dest s with hnone | heq
      · rw [hnone] at hnext
        cases hnext
      · rw [← heq, hnext]

/-- A packet visits no node twice. -/
theorem Takes.nodup {dest : IPAddress} {s t : Place} {p : List Place}
    (h : net.Takes spf coreSpf dest s p t) (hst : s ≠ t)
    (ht : net.relay spf coreSpf dest t = none) : (s :: p).Nodup := by
  cases p with
  | nil => exact List.nodup_singleton s
  | cons v p =>
      rcases @relay_cases net spf coreSpf dest s with hnone | heq
      · refine List.nodup_cons.mpr ⟨fun hmem => ?_, Follows.nodup ht h.2⟩
        exact h.2.next_ne_none hmem hst hnone
      · exact Follows.nodup ht (p := v :: p) ⟨heq.trans h.1, h.2⟩

/-! ## The routes that match -/

section

variable (hunused : net.Unused)

include hunused

/-- Inside the AS: the default route, the host route and what there is to other ASs. -/
theorem matching_within {u d : Place} (hu : net.IsNode u) (hd : net.IsNode d) (has : u.as = d.as) :
    (net.finalTables spf coreSpf (net.module u).id).routes.filter
        (fun e => e.matchesAddr (net.address d)) =
      (if (net.record u).routerType = .core then [] else [defaultRoute (net.record u)]) ++
        ((net.levelAt u.as net.tables).newRoute (spf u.as d.node) d.node u.node).toList ++
          ((net.routesFrom coreSpf u).map AddedRoute.route).filter
            fun e => e.matchesAddr (net.address d) := by
  obtain ⟨a, i⟩ := u
  obtain ⟨b, j⟩ := d
  obtain rfl : a = b := has
  rw [finalTables_at hu, List.filter_append]
  congr 1
  refine @RouterLevel.finalTables_filter (net.levelAt a net.tables).toRouterLevel (spf a)
    (fun s d hs hd e he => ?_) (fun i j hi hj heq => ?_) _ _ hu.2 hd.2
  · exact hunused ⟨a, s⟩ ⟨hu.1, hs⟩ ⟨a, d⟩ ⟨hu.1, hd⟩ e he
  · exact congrArg Place.node (@address_inj net ⟨a, i⟩ ⟨a, j⟩ ⟨hu.1, hi⟩ ⟨hu.1, hj⟩ heq)

/-- To another AS: there is no host route. -/
theorem matching_across {u d : Place} (hu : net.IsNode u) (hd : net.IsNode d) (has : u.as ≠ d.as) :
    (net.finalTables spf coreSpf (net.module u).id).routes.filter
        (fun e => e.matchesAddr (net.address d)) =
      (if (net.record u).routerType = .core then [] else [defaultRoute (net.record u)]) ++
        ((net.routesFrom coreSpf u).map AddedRoute.route).filter
          fun e => e.matchesAddr (net.address d) := by
  rw [finalTables_at hu, List.filter_append]
  congr 1
  have hroutes := @RouterLevel.finalTables_routes
    (net.levelAt u.as net.tables).toRouterLevel (spf u.as) _ hu.2
  have htable := @RouterLevel.assigned_table (net.levelAt u.as net.tables).toRouterLevel _ hu.2
  have hwhole := hroutes.trans (congrArg (fun t : RoutingTable => t.routes ++ _) htable)
  refine (congrArg (List.filter _) hwhole).trans ?_
  rw [List.filter_append]
  have hhosts : (((List.range (net.level u.as).topology.numNodes).flatMap fun i =>
      ((net.levelAt u.as net.tables).newRoute
        (spf u.as ((net.levelAt u.as net.tables).infoAt i).node.index) i u.node).toList).filter
          fun e => e.matchesAddr (net.address d)) = [] := by
    refine List.filter_eq_nil_iff.mpr fun e he hmatch => ?_
    obtain ⟨i, hi, hmem⟩ := List.mem_flatMap.mp he
    have hnew := Option.mem_toList.mp hmem
    rw [RouterLevel.newRoute_matches hnew] at hmatch
    have hsame := @address_inj net ⟨u.as, i⟩ _ ⟨hu.1, List.mem_range.mp hi⟩ hd
      (beq_iff_eq.mp hmatch)
    have hown : (Place.mk u.as i).as = d.as := congrArg Place.as hsame
    exact has hown
  refine (congrArg (_ ++ ·) hhosts).trans ?_
  rw [List.append_nil]
  have hold : (net.tables (net.module u).id).routes.filter
      (fun e => e.matchesAddr (net.address d)) = [] := by
    refine List.filter_eq_nil_iff.mpr fun e he hmatch => ?_
    rw [hunused u hu d hd e he] at hmatch
    cases hmatch
  show ((if (net.record u).routerType = .core then (net.tables (net.module u).id).routes
    else (net.tables (net.module u).id).routes ++ [defaultRoute (net.record u)]).filter _) = _
  split
  · exact hold
  · rw [List.filter_append, hold, List.nil_append]
    exact List.filter_cons_of_pos (defaultRoute_matches _ _)

/-- Inside the AS a router passes a packet on as the path computed towards its destination
goes. -/
theorem nextHop_within (hlawful : net.Lawful spf coreSpf) {u d : Place} (hu : net.IsNode u)
    (hd : net.IsNode d) (has : u.as = d.as) (hne : u ≠ d)
    (hes : (net.record u).routerType ≠ .endSys) {v : Nat}
    (hv : (net.level u.as).topology.nextNode (spf u.as d.node) u.node = some v) :
    net.nextHop spf coreSpf (net.address d) u = some ⟨u.as, v⟩ := by
  have hnode : u.node ≠ d.node := fun heq => hne (by
    obtain ⟨a, i⟩ := u
    obtain ⟨b, j⟩ := d
    obtain rfl : a = b := has
    obtain rfl : i = j := heq
    rfl)
  obtain ⟨link, hlink, rfl⟩ := Option.map_eq_some_iff.mp hv
  obtain ⟨hmem, hsrc, k, ie, hk, hie, hgate⟩ := @RouterLevel.getPath_spec
    (net.level u.as).toRouterLevel _ _ _ _ (hlawful.inside u.as hu.1 d.node (has ▸ hd.2)) hlink
  have hwire : net.wire u ie.nodeOutputGateId = some ⟨u.as, link.dst⟩ := by
    have hwired := net.wired u.as hu.1 link hmem
    rw [hsrc, ← hgate] at hwired
    exact hwired
  refine nextHop_eq ?_ hie hwire
  -- the first link is that of the default route, or there is a host route
  have hnew := @RouterLevel.newRoute_eq (net.levelAt u.as net.tables).toRouterLevel d.node _
    hu.2 hnode hes (spf u.as d.node)
  have hpath : (net.levelAt u.as net.tables).topology.getPath (spf u.as d.node) u.node =
      some link := hlink
  have hgateway : getInterfaceByNodeOutputGateId
      ((net.levelAt u.as net.tables).module u.node).ift link.localGateId = some k := hk
  rw [hpath] at hnew
  dsimp only at hnew
  rw [hgateway] at hnew
  unfold getInterfaceForDestAddr
  rw [findBestMatchingRoute_eq (matching_within hunused hu hd has)]
  by_cases hdefault : some k = ((net.levelAt u.as net.tables).record u.node).defaultRouteIE
  · have hcore : (net.record u).routerType ≠ .core := fun hcore =>
      Option.some_ne_none k
        (hdefault.trans ((RouterLevel.record_made hu.2).defaultRouteIE hcore))
    rw [if_pos hdefault] at hnew
    rw [hnew, if_neg hcore, routesFrom_of_not_core hcore]
    show (findBestMatchingRoute [defaultRoute (net.record u)] _).bind _ = _
    rw [findBestMatchingRoute_single (defaultRoute_matches _ _)]
    exact hdefault.symm
  · rw [if_neg hdefault] at hnew
    have hmatch := (RouterLevel.newRoute_matches hnew (net.address d)).trans (beq_iff_eq.mpr ?_)
    · rw [hnew, Option.toList_some]
      by_cases hcore : (net.record u).routerType = .core
      · rw [if_pos hcore, List.nil_append]
        refine (congrArg (Option.bind · IPRoute.interface)
          (findBestMatchingRoute_host hmatch rfl)).trans ?_
        rfl
      · rw [if_neg hcore, routesFrom_of_not_core hcore]
        show (findBestMatchingRoute [defaultRoute (net.record u), _] _).bind _ = _
        rw [findBestMatchingRoute_pair (defaultRoute_matches _ _) rfl hmatch rfl]
        rfl
    · show net.address ⟨u.as, d.node⟩ = net.address d
      rw [has]

/-- Where only the default route matches, a packet goes to the level above. -/
theorem nextHop_default {u d : Place} (hu : net.IsNode u) (hd : net.IsNode d)
    (hclimbs : (net.level u.as).Climbs) (hcore : (net.record u).routerType ≠ .core)
    (hno : u.as = d.as →
      (net.levelAt u.as net.tables).newRoute (spf u.as d.node) d.node u.node = none) :
    ∃ v, net.nextHop spf coreSpf (net.address d) u = some ⟨u.as, v⟩ ∧
      net.IsNode ⟨u.as, v⟩ ∧
      (net.record ⟨u.as, v⟩).routerType.rank < (net.record u).routerType.rank ∧
      (net.level u.as).topology.Edge (fun _ => true) u.node v := by
  obtain ⟨word, hlevel⟩ := WiredLevel.exists_higherLevel hcore
  obtain ⟨htype, hdefault⟩ := WiredLevel.record_default hu.2
  obtain ⟨k, hk, hlinked⟩ := hclimbs u.node hu.2 _ word htype hlevel
  obtain ⟨v, hv⟩ := Option.isSome_iff_exists.mp hlinked
  obtain ⟨hvrange, hrank⟩ := WiredLevel.rank_lt_of_hopVia hu.2 hlevel hk hv
  obtain ⟨ie, hie, hwire⟩ := wire_of_hopVia hu hv
  obtain ⟨-, -, link, hlink, hsrc, -, hdst⟩ := RouterLevel.hopVia_spec hv
  obtain ⟨n, hn⟩ := List.getElem?_of_mem hlink
  refine ⟨v, nextHop_eq ?_ hie hwire, ⟨hu.1, hvrange⟩, hrank, n, link, hn, rfl, hsrc, hdst⟩
  have hmatching : (net.finalTables spf coreSpf (net.module u).id).routes.filter
      (fun e => e.matchesAddr (net.address d)) = [defaultRoute (net.record u)] := by
    by_cases has : u.as = d.as
    · rw [matching_within hunused hu hd has, hno has, if_neg hcore,
        routesFrom_of_not_core hcore]
      rfl
    · rw [matching_across hunused hu hd has, if_neg hcore, routesFrom_of_not_core hcore]
      rfl
  unfold getInterfaceForDestAddr
  rw [findBestMatchingRoute_eq hmatching, findBestMatchingRoute_single (defaultRoute_matches _ _)]
  exact hdefault word k hlevel hk

end

end Internet

/-! ## Inside an AS -/

/-- Every end system is linked to one other node only. -/
def RouterLevel.SingleHomed (net : RouterLevel) : Prop :=
  ∀ w < net.topology.numNodes, (net.record w).routerType = .endSys →
    ∃ h, ∀ l ∈ net.topology.links, (l.src = w → l.dst = h) ∧ (l.dst = w → l.src = h)

namespace Internet

variable {net : Internet} {spf : Nat → Nat → Paths} {coreSpf : Spf}

/-- A shortest way passes over no end system: it would go back where it came from. -/
theorem not_endSys_of_follows (hlawful : net.Lawful spf coreSpf) {a d : Nat} (ha : a < net.numAs)
    (hd : d < (net.level a).topology.numNodes) (hsingle : (net.level a).SingleHomed) {u v : Nat}
    {q : List Nat} (hq : Follows ((net.level a).topology.nextNode (spf a d)) u (v :: q) d)
    (hne : v ≠ d) : ((net.level a).record v).routerType ≠ .endSys := by
  intro hes
  have hpaths := hlawful.inside a ha d hd
  have hshort := hpaths.nextHops.isShortest hq
  cases q with
  | nil => exact hne hq.2
  | cons y q =>
      obtain ⟨k, link, hk, -, hsrc, hdst⟩ := hshort.1.1
      obtain ⟨k', link', hk', -, hsrc', hdst'⟩ := hshort.1.2.1
      have hv := ((net.level a).inRange link (List.mem_of_getElem? hk)).2
      rw [hdst] at hv
      obtain ⟨h, honly⟩ := hsingle v hv hes
      have hback : y = u := by
        rw [← hdst', ← hsrc, (honly link' (List.mem_of_getElem? hk')).1 hsrc',
          (honly link (List.mem_of_getElem? hk)).2 hdst]
      have hnodup := hshort.nodup
      rw [hback, List.nodup_cons] at hnodup
      exact hnodup.1 (.tail v (.head q))

/-- From router to router along the computed path. -/
theorem relay_within (hunused : net.Unused) (hlawful : net.Lawful spf coreSpf) {a d : Nat}
    (hd : net.IsNode ⟨a, d⟩) (hsingle : (net.level a).SingleHomed) (q : List Nat) :
    ∀ u, net.IsNode ⟨a, u⟩ → (u ≠ d → ((net.level a).record u).routerType ≠ .endSys) →
      Follows ((net.level a).topology.nextNode (spf a d)) u q d →
        Follows (net.relay spf coreSpf (net.address ⟨a, d⟩)) ⟨a, u⟩ (q.map (Place.mk a)) ⟨a, d⟩ := by
  induction q with
  | nil =>
      intro u hu _ hq
      have hud : u = d := hq
      rw [hud]
      rfl
  | cons v q ih =>
      intro u hu hes hq
      have hpaths := hlawful.inside a hd.1 d hd.2
      have hud : u ≠ d := by
        rintro rfl
        have hnext : (net.level a).topology.nextNode (spf a u) u = some v := hq.1
        rw [hpaths.nextHops.target] at hnext
        cases hnext
      have hv : net.IsNode ⟨a, v⟩ := by
        obtain ⟨k, link, hk, -, -, hdst⟩ := hpaths.nextHops.edge u v hq.1
        refine ⟨hd.1, ?_⟩
        show v < _
        rw [← hdst]
        exact ((net.level a).inRange link (List.mem_of_getElem? hk)).2
      have hne : (⟨a, u⟩ : Place) ≠ ⟨a, d⟩ := fun heq => hud (congrArg Place.node heq)
      refine ⟨?_, ih v hv (fun hvd => not_endSys_of_follows hlawful hd.1 hd.2 hsingle hq hvd) hq.2⟩
      show net.relay spf coreSpf (net.address ⟨a, d⟩) ⟨a, u⟩ = some ⟨a, v⟩
      rw [relay_eq hu hd hne (hes hud)]
      exact nextHop_within hunused hlawful hu hd rfl hne (hes hud) hq.1

theorem newRoute_endSys {net : RouterLevel} {paths : Paths} {i j : Nat}
    (hj : j < net.topology.numNodes) (hes : (net.record j).routerType = .endSys) :
    net.newRoute paths i j = none := by
  obtain ⟨ip, hinfo, -⟩ := RouterLevel.infoAt_eq hj
  have htype : (net.infoAt j).routerType = .endSys := by
    rw [hinfo]
    exact hes
  unfold RouterLevel.newRoute
  split
  · rfl
  · dsimp only
    split
    · rfl
    · rw [if_pos htype]

/-- Inside an AS every node reaches every other one that is connected to it, and a packet
visits no node twice and takes no more hops than the distance. -/
theorem delivers_within (hunused : net.Unused) (hlawful : net.Lawful spf coreSpf) {s d : Place}
    (hs : net.IsNode s) (hd : net.IsNode d) (has : s.as = d.as)
    (hclimbs : (net.level s.as).Climbs) (hsingle : (net.level s.as).SingleHomed)
    (hreach : ∃ q, IsWalk ((net.level s.as).topology.Edge fun _ => true) s.node q d.node) :
    ∃ p, net.Takes spf coreSpf (net.address d) s p d ∧ (s :: p).Nodup ∧
      IsDist ((net.level s.as).topology.Edge fun _ => true) s.node d.node p.length := by
  obtain ⟨a, i⟩ := s
  obtain ⟨b, j⟩ := d
  obtain rfl : a = b := has
  have hpaths := hlawful.inside a hs.1 j hd.2
  obtain ⟨q₀, hq₀⟩ := hreach
  obtain ⟨n, hn⟩ := hq₀.exists_isDist
  obtain ⟨q, hq, hlen⟩ := hpaths.nextHops.follow hn
  rw [← hlen] at hn
  by_cases hij : i = j
  · obtain rfl := hij
    refine ⟨[], rfl, List.nodup_singleton _, ?_⟩
    have hzero := hn.unique (isDist_zero i)
    rw [hzero] at hn
    exact hn
  · have htakes : net.Takes spf coreSpf (net.address ⟨a, j⟩) ⟨a, i⟩ (q.map (Place.mk a)) ⟨a, j⟩ := by
      by_cases hes : ((net.level a).record i).routerType = .endSys
      · -- an end system has its default route, and no other neighbour
        cases q with
        | nil => exact absurd hq hij
        | cons v q =>
            have hcore : (net.record ⟨a, i⟩).routerType ≠ .core := fun hcore => by
              have hsame := hes.symm.trans hcore
              cases hsame
            obtain ⟨v', hnext, hv', hrank, k', link', hk', -, hsrc', hdst'⟩ :=
              @nextHop_default net spf coreSpf hunused _ _ hs hd hclimbs hcore fun _ =>
                @newRoute_endSys (net.levelAt a net.tables).toRouterLevel _ _ _ hs.2 hes
            obtain ⟨k, link, hk, -, hsrc, hdst⟩ := hpaths.nextHops.edge i v hq.1
            obtain ⟨h, honly⟩ := hsingle i hs.2 hes
            have hvv : v' = v := by
              rw [← hdst, ← hdst', (honly link (List.mem_of_getElem? hk)).1 hsrc,
                (honly link' (List.mem_of_getElem? hk')).1 hsrc']
            rw [hvv] at hnext hv' hrank
            refine ⟨hnext, relay_within hunused hlawful hd hsingle q v hv' (fun _ htype => ?_) hq.2⟩
            have htypes : (net.record ⟨a, v⟩).routerType = (net.record ⟨a, i⟩).routerType :=
              htype.trans hes.symm
            rw [htypes] at hrank
            exact lt_irrefl _ hrank
      · exact Takes.of_follows (relay_within hunused hlawful hd hsingle q i hs (fun _ => hes) hq)
    refine ⟨_, htakes, ?_, ?_⟩
    · exact htakes.nodup (fun heq => hij (congrArg Place.node heq)) (relay_self _)
    · rw [List.length_map]
      exact hn

end Internet

/-! ## Two ASs in a row -/

/-- A core router, a gateway, an edge router and a host in a row. -/
def rowOfFour : CTopology :=
  ⟨4, [⟨0, 1, 1⟩, ⟨1, 0, 0⟩, ⟨1, 2, 1⟩, ⟨2, 1, 0⟩, ⟨2, 3, 1⟩, ⟨3, 2, 0⟩]⟩

def pairName (a : Nat) : Str := "net.field".toList ++ (if a = 0 then "0" else "1").toList

def pairPath (a j : Nat) : Str :=
  pairName a ++
    (if j = 0 then ".core0" else if j = 1 then ".gw0" else if j = 2 then ".edge0"
      else ".host0").toList

def pairModule (a j : Nat) : Module where
  id := 10 * a + j
  fullPath := pairPath a j
  hasRoutingTable := true
  ift := ⟨true, 0x7f000001, 0xff000000, -1⟩ ::
    (if j = 0 then [⟨false, 0, 0, 1⟩, ⟨false, 0, 0, 2⟩]
      else if j = 3 then [⟨false, 0, 0, 0⟩] else [⟨false, 0, 0, 0⟩, ⟨false, 0, 0, 1⟩])
  nextGateOwner := fun gate =>
    some (pairPath a (if gate = 0 then j - 1 else if gate = 1 then j + 1 else 0))

def pairRecord (a j : Nat) : NodeInfoRL where
  isIPNode := true
  ift := (pairModule a j).ift
  defaultRouteIE := if j = 0 then none else some 1
  asId := 0
  asType := .transitAS
  routerType := if j = 0 then .core else if j = 1 then .gw else if j = 2 then .edge else .endSys
  moduleId := 10 * a + j
  addr := 0
  node := .inRl a j

theorem pairRecord_made (a : Nat) {j : Nat} (hj : j < 4) :
    ∃ uninit, nodeInfoRL uninit (.inRl a j) (pairModule a j) = .ok (pairRecord a j) := by
  refine ⟨pairRecord a 0, ?_⟩
  by_cases ha : a = 0
  · subst ha
    obtain rfl | rfl | rfl | rfl : j = 0 ∨ j = 1 ∨ j = 2 ∨ j = 3 := by omega
    all_goals rfl
  · unfold pairModule pairRecord pairPath pairName
    simp only [if_neg ha]
    obtain rfl | rfl | rfl | rfl : j = 0 ∨ j = 1 ∨ j = 2 ∨ j = 3 := by omega
    all_goals rfl

def pairLevel (a : Nat) : WiredLevel where
  as := a
  addr := 0
  topology := rowOfFour
  module := pairModule a
  record := pairRecord a
  uninit := pairRecord a 0
  tables := fun _ => ⟨0, []⟩
  made := fun _ => pairRecord_made a
  ids := by
    intro i j _ _ h
    have h' : (10 * a + i : Int) = 10 * a + j := h
    omega
  inRange := by decide
  gates := by decide
  registered := by
    intro l hl
    simp only [rowOfFour, List.mem_cons, List.not_mem_nil, or_false] at hl
    rcases hl with rfl | rfl | rfl | rfl | rfl | rfl
    all_goals
      first
      | exact ⟨_, .tail _ (.head _), rfl⟩
      | exact ⟨_, .tail _ (.tail _ (.head _)), rfl⟩
  behind := by
    intro l hl path hpath
    simp only [rowOfFour, List.mem_cons, List.not_mem_nil, or_false] at hl
    rcases hl with rfl | rfl | rfl | rfl | rfl | rfl
    all_goals exact .inl (Option.some.inj hpath ▸ List.prefix_rfl)

/-- The two core routers are linked. -/
def pairWire (u : Place) (gate : Int) : Option Place :=
  if gate = 0 then some ⟨u.as, u.node - 1⟩
  else if gate = 1 then some ⟨u.as, u.node + 1⟩
  else if gate = 2 then some ⟨1 - u.as, 0⟩
  else none

def pairAs (a : Nat) : NodeInfoAS :=
  ⟨0, .transitAS, netIP a, NET_MASK⟩

def pairNet : Internet where
  noAS := 2
  level := pairLevel
  asModule := fun a => ⟨0, pairName a, false, [], fun _ => none⟩
  asInfo := pairAs
  asTopology := ⟨2, [⟨0, 1, 2⟩, ⟨1, 0, 2⟩]⟩
  place := fun i => ⟨i, 0⟩
  uninitCore := pairRecord 0 0
  wire := pairWire
  tables := fun _ => ⟨0, []⟩
  fewAs := by decide
  fewNodes := fun _ _ => (by decide : 4 ≤ 65535)
  asIndex := fun _ _ => rfl
  asMade := by
    intro a _
    refine ⟨pairAs 0, ?_⟩
    by_cases ha : a = 0
    · subst ha
      rfl
    · unfold pairName
      rw [if_neg ha]
      rfl
  ids := by
    intro a _ b _ i hi j hj h
    have hi4 : i < 4 := hi
    have hj4 : j < 4 := hj
    have h' : (10 * a + i : Int) = 10 * b + j := h
    omega
  wired := by
    intro a _ l hl
    simp only [pairLevel, rowOfFour, List.mem_cons, List.not_mem_nil, or_false] at hl
    rcases hl with rfl | rfl | rfl | rfl | rfl | rfl
    all_goals rfl
  cores := by
    rintro ⟨a, j⟩
    constructor
    · rintro ⟨ha, hj, hcore⟩
      have hj4 : j < 4 := hj
      refine ⟨a, ha, ?_⟩
      obtain rfl | rfl | rfl | rfl : j = 0 ∨ j = 1 ∨ j = 2 ∨ j = 3 := by omega
      · rfl
      all_goals cases hcore
    · rintro ⟨i, hi, h⟩
      cases h
      exact ⟨hi, (by decide : 0 < 4), rfl⟩

theorem pairNet_unused : pairNet.Unused :=
  fun _ _ _ _ _ he => absurd he List.not_mem_nil

theorem pairNet_lawful : ∃ spf coreSpf, pairNet.Lawful spf coreSpf := by
  choose spf hspf using rowOfFour.exists_shortestPathsTo fun _ => true
  obtain ⟨coreSpf, hcoreSpf⟩ := pairNet.asLevel.exists_lawful
  exact ⟨fun _ => spf, coreSpf, fun _ _ d _ => hspf d, hcoreSpf⟩

/-- The first interface of every other node leads up. -/
theorem pairModule_higher (a : Nat) {j : Nat} (hj : j < 4) {word : String}
    (h : (pairRecord a j).routerType.higherLevel = some word) :
    higherInterface (pairModule a j) word = some 1 ∧
      ((pairLevel a).hopVia j 1).isSome := by
  unfold pairModule pairPath pairName
  by_cases ha : a = 0
  · subst ha
    obtain rfl | rfl | rfl | rfl : j = 0 ∨ j = 1 ∨ j = 2 ∨ j = 3 := by omega
    · cases h
    all_goals
      cases h
      exact ⟨rfl, rfl⟩
  · simp only [if_neg ha]
    obtain rfl | rfl | rfl | rfl : j = 0 ∨ j = 1 ∨ j = 2 ∨ j = 3 := by omega
    · cases h
    all_goals
      cases h
      exact ⟨rfl, rfl⟩

theorem pairNet_climbs (a : Nat) : (pairNet.level a).Climbs := by
  intro j hj routerType word htype hlevel
  have hfound : (pairRecord a j).routerType = routerType := by
    obtain ⟨uninit, hmade⟩ := pairRecord_made a hj
    exact Except.ok.inj ((nodeInfoRL_default hmade).1.symm.trans htype)
  rw [← hfound] at hlevel
  exact ⟨1, pairModule_higher a hj hlevel⟩

theorem pairNet_singleHomed (a : Nat) :
    (pairNet.level a).SingleHomed := by
  intro w hw hes
  have hw4 : w < 4 := hw
  obtain rfl | rfl | rfl | rfl : w = 0 ∨ w = 1 ∨ w = 2 ∨ w = 3 := by omega
  · cases hes
  · cases hes
  · cases hes
  · exact ⟨2, (by decide : ∀ l ∈ rowOfFour.links, (l.src = 3 → l.dst = 2) ∧ (l.dst = 3 → l.src = 2))⟩

/-- The row can be walked from end to end. -/
theorem rowOfFour_connected {i j : Nat} (hi : i < 4) (hj : j < 4) :
    ∃ q, IsWalk (rowOfFour.Edge fun _ => true) i q j := by
  have hlink : ∀ (k : Nat) (link : Link), rowOfFour.links[k]? = some link →
      rowOfFour.Edge (fun _ => true) link.src link.dst := fun k link hk =>
    ⟨k, link, hk, rfl, rfl, rfl⟩
  have hdown : ∀ i < 4, ∃ q, IsWalk (rowOfFour.Edge fun _ => true) i q 0 := by
    intro i hi
    have h10 := hlink 1 _ rfl
    have h21 := hlink 3 _ rfl
    have h32 := hlink 5 _ rfl
    obtain rfl | rfl | rfl | rfl : i = 0 ∨ i = 1 ∨ i = 2 ∨ i = 3 := by omega
    · exact ⟨[], rfl⟩
    · exact ⟨[0], h10, rfl⟩
    · exact ⟨[1, 0], h21, h10, rfl⟩
    · exact ⟨[2, 1, 0], h32, h21, h10, rfl⟩
  have hup : ∀ j < 4, ∃ q, IsWalk (rowOfFour.Edge fun _ => true) 0 q j := by
    intro j hj
    have h01 := hlink 0 _ rfl
    have h12 := hlink 2 _ rfl
    have h23 := hlink 4 _ rfl
    obtain rfl | rfl | rfl | rfl : j = 0 ∨ j = 1 ∨ j = 2 ∨ j = 3 := by omega
    · exact ⟨[], rfl⟩
    · exact ⟨[1], h01, rfl⟩
    · exact ⟨[1, 2], h01, h12, rfl⟩
    · exact ⟨[1, 2, 3], h01, h12, h23, rfl⟩
  obtain ⟨q, hq⟩ := hdown i hi
  obtain ⟨q', hq'⟩ := hup j hj
  exact ⟨q ++ q', hq.append hq'⟩

/-- A host reaches the core router of its AS, three hops away. -/
theorem delivers_within_pair : ∃ spf coreSpf p,
    pairNet.Takes spf coreSpf (pairNet.address ⟨0, 0⟩) ⟨0, 3⟩ p ⟨0, 0⟩ ∧
      (⟨0, 3⟩ :: p : List Place).Nodup := by
  obtain ⟨spf, coreSpf, hlawful⟩ := pairNet_lawful
  obtain ⟨p, hp, hnodup, -⟩ := Internet.delivers_within (pairNet_unused) hlawful
    (s := ⟨0, 3⟩) (d := ⟨0, 0⟩) (by decide) (by decide) rfl (pairNet_climbs 0)
    (pairNet_singleHomed 0) (rowOfFour_connected (by decide) (by decide))
  exact ⟨spf, coreSpf, p, hp, hnodup⟩

end ScadaSim.Routing
