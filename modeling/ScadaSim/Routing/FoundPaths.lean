import ScadaSim.Routing.StubCrossing

/-!
# First hops without a path

`createInterASPaths` reads the first hop of a source without asking whether it has a
path, as `setIntraASRoutes` does. Nothing in front of it makes sure of one:
`takesFoundPaths_iff` says for which networks there always is, those that need no check.
-/

namespace ScadaSim.Routing

open Lib Lib.Walk

namespace AsLevel

/-- The paths that the route was taken from were computed towards its destination, and
there was one from its source. -/
def Found (net : AsLevel) (r : AddedRoute) : Prop :=
  ∃ enabled, net.asTopology.ShortestPathsTo enabled r.destCore r.paths ∧
    ∃ p, IsWalk (net.asTopology.Edge enabled) r.srcCore p r.destCore

/-- Every first hop that is read has been found, and routes are installed between the
core routers of different ASs just where there is a way. -/
structure TakesFoundPaths (net : AsLevel) (spf : Spf) : Prop where
  alive : (net.createInterASPaths spf).crashed = false
  found : ∀ r ∈ (net.createInterASPaths spf).routes, net.Found r
  installed : ∀ pair ∈ net.pairs, net.relevant pair = true →
    ((∃ r ∈ (net.createInterASPaths spf).routes, (r.destCore, r.srcCore) = pair) ↔
      net.Connected pair)

/-! ## What a run keeps -/

/-- Between two states of a run: routes stay, and a crash is the end. -/
structure Later (st st' : InterASState) : Prop where
  routes : ∀ r ∈ st.routes, r ∈ st'.routes
  crashed : st'.crashed = false → st.crashed = false

theorem Later.refl (st : InterASState) : Later st st := ⟨fun _ h => h, id⟩

theorem Later.trans {st st' st'' : InterASState} (h : Later st st') (h' : Later st' st'') :
    Later st st'' where
  routes := fun r hr => h'.routes r (h.routes r hr)
  crashed := fun hcr => h.crashed (h'.crashed hcr)

theorem addPath_later (net : AsLevel) (i j : Nat) (destCore srcCore : NodeInfoRL)
    (st : InterASState) :
    Later st (net.addPath i j destCore srcCore st) ∧
      (net.addPath i j destCore srcCore st).paths = st.paths := by
  unfold addPath
  split
  · exact ⟨⟨fun _ h => h, fun hcr => by cases hcr⟩, rfl⟩
  · exact ⟨⟨fun r hr => List.mem_append_left _ hr, id⟩, rfl⟩

theorem interASStep_later (net : AsLevel) (spf : Spf) (i : Nat) (st : InterASState) (j : Nat) :
    Later st (net.interASStep spf i st j) ∧
      ((net.interASStep spf i st j).paths = st.paths ∨
        ∃ enabled, (net.interASStep spf i st j).paths = spf enabled i) := by
  unfold interASStep
  split
  · exact ⟨.refl st, .inl rfl⟩
  · split
    · exact ⟨.refl st, .inl rfl⟩
    · dsimp only
      split
      · exact ⟨.refl st, .inl rfl⟩
      · obtain ⟨hlater, hpaths⟩ := net.addPath_later i j (net.corePrefix i) (net.corePrefix j)
          (net.computePaths spf i (net.corePrefix i) (net.corePrefix j) st)
        rw [hpaths]
        unfold computePaths at hlater ⊢
        split
        · rename_i hrenew
          rw [if_pos hrenew] at hlater
          exact ⟨⟨hlater.routes, hlater.crashed⟩, .inr ⟨_, rfl⟩⟩
        · rename_i hrenew
          rw [if_neg hrenew] at hlater
          exact ⟨hlater, .inl rfl⟩

theorem foldl_interASStep_later (net : AsLevel) (spf : Spf) (i : Nat) (js : List Nat)
    (st : InterASState) :
    Later st (js.foldl (net.interASStep spf i) st) ∧
      ((js.foldl (net.interASStep spf i) st).paths = st.paths ∨
        ∃ enabled, (js.foldl (net.interASStep spf i) st).paths = spf enabled i) := by
  induction js generalizing st with
  | nil => exact ⟨.refl st, .inl rfl⟩
  | cons j js ih =>
      obtain ⟨hlater, hpaths⟩ := net.interASStep_later spf i st j
      obtain ⟨hlater', hpaths'⟩ := ih (net.interASStep spf i st j)
      refine ⟨hlater.trans hlater', ?_⟩
      rcases hpaths' with hsame | hnew
      · rw [List.foldl_cons, hsame]
        exact hpaths
      · exact .inr hnew

theorem foldl_interASRow_later (net : AsLevel) (spf : Spf) (is : List Nat) (st : InterASState) :
    Later st (is.foldl (net.interASRow spf) st) ∧
      ((is.foldl (net.interASRow spf) st).paths = st.paths ∨
        ∃ i ∈ is, ∃ enabled, (is.foldl (net.interASRow spf) st).paths = spf enabled i) := by
  induction is generalizing st with
  | nil => exact ⟨.refl st, .inl rfl⟩
  | cons i is ih =>
      obtain ⟨hlater, hpaths⟩ := net.foldl_interASStep_later spf i
        (List.range net.asTopology.numNodes) { st with asIdHistory := -1 }
      obtain ⟨hlater', hpaths'⟩ := ih (net.interASRow spf st i)
      refine ⟨⟨fun r hr => hlater'.routes r (hlater.routes r hr),
        fun hcr => hlater.crashed (hlater'.crashed hcr)⟩, ?_⟩
      rcases hpaths' with hsame | ⟨i', hi', hnew⟩
      · rw [List.foldl_cons, hsame]
        exact hpaths.imp_right fun hnew => ⟨i, List.mem_cons_self, hnew⟩
      · exact .inr ⟨i', List.mem_cons_of_mem i hi', hnew⟩

/-! ## Rows that begin without a computation -/

/-- The id of the first source is `-1`: the paths at hand are taken, whatever they were
computed for. -/
theorem computePaths_of_same {net : AsLevel} {spf : Spf} {i j : Nat} {destCore : NodeInfoRL}
    {st : InterASState} (h : st.asIdHistory = (net.core j).asId) :
    net.computePaths spf i destCore (net.corePrefix j) st = st := by
  unfold computePaths
  simp [h]

/-- They were not computed towards `i`, nor is there a route without paths. -/
theorem not_found_of_stale {net : AsLevel} {spf : Spf} (hspf : net.Lawful spf) {i : Nat}
    {rows : List Nat} (hi : i ∉ rows) {st : InterASState}
    (hpaths : st.paths = interASStart.paths ∨ ∃ i' ∈ rows, ∃ enabled, st.paths = spf enabled i')
    {j : Nat} {link : Link} (hlink : net.asTopology.getPath st.paths j = some link)
    {r : AddedRoute} (hdest : r.destCore = i) (hsrc : r.srcCore = j) (hr : r.paths = st.paths) :
    ¬ net.Found r := by
  rintro ⟨enabled, hcomputed, hway⟩
  rw [hdest, hr] at hcomputed
  rw [hsrc, hdest] at hway
  rcases hpaths with hnone | ⟨i', hi', enabled', hnew⟩
  · -- nothing has been computed at all
    rw [hnone] at hlink
    cases hlink
  · have hother := hspf enabled' i'
    rw [← hnew] at hother
    have hnext : net.asTopology.nextNode st.paths j = some link.dst := by
      unfold CTopology.nextNode
      rw [hlink]
      rfl
    have hway' := ((hother.nextHops.dom j).mp ⟨_, hnext⟩).2
    have heq : i = i' := hcomputed.nextHops.target_unique hother.nextHops hway hway'
    exact hi (heq ▸ hi')

/-- A row in which the first source has the id `-1` does not take its paths as found. -/
theorem computesRows_of_takesFoundPaths {net : AsLevel} {spf : Spf} (hspf : net.Lawful spf)
    (h : net.TakesFoundPaths spf) : net.ComputesRows := by
  intro i hi j hfirst hid
  obtain ⟨rows, rest, hrows⟩ := List.append_of_mem (List.mem_range.mpr hi)
  have hnew : i ∉ rows := by
    have hnodup : (rows ++ i :: rest).Nodup := hrows ▸ List.nodup_range
    exact fun hmem => (List.nodup_append.mp hnodup).2.2 i hmem i List.mem_cons_self rfl
  obtain ⟨hrel, before, after, hcols, hskipped⟩ := List.find?_eq_some_iff_append.mp hfirst
  -- the run up to row `i`, and in it up to its first source
  obtain ⟨-, horigin⟩ := net.foldl_interASRow_later spf rows interASStart
  have hrun : net.createInterASPaths spf = rest.foldl (net.interASRow spf)
      (net.interASRow spf (rows.foldl (net.interASRow spf) interASStart) i) := by
    unfold createInterASPaths
    rw [hrows, List.foldl_append, List.foldl_cons]
  generalize rows.foldl (net.interASRow spf) interASStart = st at horigin hrun
  have hbefore : before.foldl (net.interASStep spf i) { st with asIdHistory := -1 } =
      { st with asIdHistory := -1 } := by
    refine List.foldlRecOn (motive := fun s => s = { st with asIdHistory := -1 }) before _ rfl
      fun s hs j' hj' => ?_
    rw [interASStep_skip (.inr (by simpa using hskipped j' hj')), hs]
  have hrow : net.interASRow spf st i = after.foldl (net.interASStep spf i)
      (net.interASStep spf i { st with asIdHistory := -1 } j) := by
    unfold interASRow
    rw [hcols, List.foldl_append, List.foldl_cons, hbefore]
  obtain ⟨hlast, -⟩ := net.foldl_interASRow_later spf rest (net.interASRow spf st i)
  obtain ⟨hcols', -⟩ := net.foldl_interASStep_later spf i after
    (net.interASStep spf i { st with asIdHistory := -1 } j)
  rw [← hrow] at hcols'
  have hlater := hcols'.trans hlast
  rw [← hrun] at hlater
  have hstep := hlater.crashed h.alive
  have hcr := (net.interASStep_later spf i { st with asIdHistory := -1 } j).1.crashed hstep
  rw [interASStep_serve hcr hrel, computePaths_of_same hid.symm] at hlater hstep
  unfold addPath at hlater hstep
  cases hlink : net.asTopology.getPath st.paths j with
  | none => simp [hlink] at hstep
  | some link =>
      simp only [hlink] at hlater
      exact not_found_of_stale hspf hnew horigin hlink rfl rfl rfl
        (h.found _ (hlater.routes _ (List.mem_append_right _ (List.mem_singleton_self _))))

/-! ## Which networks need no check -/

/-- Whenever a first hop is read it has been found, just where any two core routers of
different ASs are connected, and no row begins with the id `-1`. -/
theorem takesFoundPaths_iff {net : AsLevel} {spf : Spf} (hspf : net.Lawful spf) :
    net.TakesFoundPaths spf ↔ net.AllConnected net.pairs ∧ net.ComputesRows := by
  constructor
  · intro h
    have hrows := computesRows_of_takesFoundPaths hspf h
    exact ⟨((createInterASPaths_adds hspf hrows).crashed.mp h.alive).2, hrows⟩
  · rintro ⟨hall, hrows⟩
    refine ⟨(createInterASPaths_adds hspf hrows).crashed.mpr ⟨rfl, hall⟩, ?_, ?_⟩
    · intro r hr
      obtain ⟨hserved, hpaths⟩ := mem_routes hspf hrows hr
      refine ⟨fun _ => true, ?_, connected_of_served hserved⟩
      rw [hpaths]
      exact hspf _ _
    · intro pair hpair hrel
      have hmem := List.mem_filter.mpr ⟨hpair, hrel⟩
      refine iff_of_true (exists_route hspf hrows ?_) (hall pair hmem)
      rw [served_of_allConnected hall]
      exact hmem

/-- Two ASs with a core router each, and what links there are between them. -/
def twoCores (links : List Link) : AsLevel where
  asTopology := ⟨2, links⟩
  rlTopology := fun _ => ⟨1, []⟩
  asNodeVec := (List.range 2).map lineAs
  core := fun i => lineCore i (.inAs i)
  coreNode_node := fun _ _ => lineAs_coreNode

theorem twoCores_computesRows (links : List Link) : (twoCores links).ComputesRows := by
  intro i _ j _ heq
  have hid : ((j : Int) + 1) = -1 := heq
  omega

theorem twoCores_relevant (links : List Link) :
    (twoCores links).pairs.filter (twoCores links).relevant = [(0, 1), (1, 0)] := by
  rfl

/-- Linked with each other, they take what paths there are. -/
theorem takesFoundPaths_linked :
    ∃ spf, (twoCores [⟨0, 1, 1⟩, ⟨1, 0, 1⟩]).Lawful spf ∧
      (twoCores [⟨0, 1, 1⟩, ⟨1, 0, 1⟩]).TakesFoundPaths spf := by
  obtain ⟨spf, hspf⟩ := exists_lawful (twoCores [⟨0, 1, 1⟩, ⟨1, 0, 1⟩])
  refine ⟨spf, hspf, (takesFoundPaths_iff hspf).mpr ⟨?_, twoCores_computesRows _⟩⟩
  intro pair hpair
  rw [twoCores_relevant] at hpair
  simp only [List.mem_cons, List.not_mem_nil, or_false] at hpair
  rcases hpair with rfl | rfl
  · exact ⟨[0], ⟨1, ⟨1, 0, 1⟩, rfl, rfl, rfl, rfl⟩, rfl⟩
  · exact ⟨[1], ⟨0, ⟨0, 1, 1⟩, rfl, rfl, rfl, rfl⟩, rfl⟩

/-- Without a link between them, the first hop of the first source is a null pointer. -/
theorem null_first_hop :
    (∃ spf, (twoCores []).Lawful spf) ∧ ∀ spf, (twoCores []).Lawful spf →
      ((twoCores []).createInterASPaths spf).crashed = true ∧
        ¬ (twoCores []).TakesFoundPaths spf := by
  refine ⟨exists_lawful _, fun spf hspf => ?_⟩
  have hcrashed : ((twoCores []).createInterASPaths spf).crashed = true := by
    refine (createInterASPaths_adds hspf (twoCores_computesRows [])).crashed_of_not ?_
    rintro ⟨-, hall⟩
    obtain ⟨p, hp⟩ := hall (0, 1) (by rw [twoCores_relevant]; simp)
    cases p with
    | nil => cases hp
    | cons v p =>
        obtain ⟨k, link, hlink, -⟩ := hp.1
        simp [twoCores] at hlink
  refine ⟨hcrashed, fun h => ?_⟩
  have halive := h.alive
  rw [hcrashed] at halive
  cases halive

end AsLevel

end ScadaSim.Routing
