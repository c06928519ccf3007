import Mathlib.Data.List.TakeWhile
import ScadaSim.Routing.InterAs

/-!
# The routes between ASs, pair by pair

`createInterASPaths` runs through the pairs of a destination and a source. Where paths
are computed at the start of every row, there is a route for each pair of different ASs
up to the first one that is not connected, from the paths over all links:
`createInterASPaths_adds`.
-/

namespace ScadaSim.Routing

open Lib Lib.Walk

namespace AsLevel

/-! ## The pairs that get a route -/

/-- All links of `asTopology` enabled. -/
def CoreEdge (net : AsLevel) : Nat → Nat → Prop :=
  net.asTopology.Edge fun _ => true

/-- Destination and source are core routers of different ASs. -/
def relevant (net : AsLevel) (pair : Nat × Nat) : Bool :=
  pair.1 != pair.2 && !(net.core pair.1).sameAs (net.core pair.2)

def Connected (net : AsLevel) (pair : Nat × Nat) : Prop :=
  ∃ p, IsWalk net.CoreEdge pair.2 p pair.1

/-- All pairs of a destination and a source, in the order of the two loops. -/
def pairs (net : AsLevel) : List (Nat × Nat) :=
  (List.range net.asTopology.numNodes).flatMap fun i =>
    (List.range net.asTopology.numNodes).map fun j => (i, j)

open Classical in
/-- The pairs of different ASs up to the first one that is not connected. -/
noncomputable def served (net : AsLevel) (pairs : List (Nat × Nat)) :
    List (Nat × Nat) :=
  (pairs.filter net.relevant).takeWhile fun pair => decide (net.Connected pair)

/-- The paths for the first of the sources `js` of row `i` are computed anew: its id is not
the one the row starts with. -/
def Computes (net : AsLevel) (i : Nat) (js : List Nat) : Prop :=
  ∀ j, js.find? (fun j => net.relevant (i, j)) = some j → (net.core j).asId ≠ -1

/-- They are in every row. -/
def ComputesRows (net : AsLevel) : Prop :=
  ∀ i < net.asTopology.numNodes, net.Computes i (List.range net.asTopology.numNodes)

/-- All the pairs that are to be connected are. -/
def AllConnected (net : AsLevel) (pairs : List (Nat × Nat)) : Prop :=
  ∀ pair ∈ pairs.filter net.relevant, net.Connected pair

theorem served_of_allConnected {net : AsLevel} {ps : List (Nat × Nat)}
    (h : net.AllConnected ps) : net.served ps = ps.filter net.relevant := by
  classical
  exact List.takeWhile_eq_self_iff.mpr fun pair hpair => decide_eq_true (h pair hpair)

theorem served_append {net : AsLevel} {ps : List (Nat × Nat)}
    (h : net.AllConnected ps) (qs : List (Nat × Nat)) :
    net.served (ps ++ qs) = net.served ps ++ net.served qs := by
  have hall := served_of_allConnected h
  unfold served at hall ⊢
  rw [List.filter_append, List.takeWhile_append, hall, if_pos rfl]

/-- Behind a pair that is not connected none is served. -/
theorem served_append_of_not {net : AsLevel} {ps : List (Nat × Nat)}
    (h : ¬ net.AllConnected ps) (qs : List (Nat × Nat)) :
    net.served (ps ++ qs) = net.served ps := by
  classical
  unfold served
  rw [List.filter_append, List.takeWhile_append, if_neg]
  intro hlen
  have htw := (List.takeWhile_prefix fun pair => decide (net.Connected pair)).eq_of_length hlen
  exact h fun pair hpair => of_decide_eq_true (List.takeWhile_eq_self_iff.mp htw pair hpair)

/-- There are shortest paths to compute. -/
theorem exists_lawful (net : AsLevel) : ∃ spf, net.Lawful spf := by
  choose spf hspf using fun enabled target =>
    net.asTopology.exists_shortestPathsTo enabled target
  exact ⟨spf, hspf⟩

/-! ## The routes, pair by pair -/

/-- What a part of the loops adds: a route for every pair served, from the
paths over all links. -/
structure Adds (net : AsLevel) (spf : Spf) (ps : List (Nat × Nat))
    (st st' : InterASState) : Prop where
  enabled : ∀ k, st'.enabled (.inAs k) = true
  pairs : st'.routes.map (fun r => (r.destCore, r.srcCore)) =
    st.routes.map (fun r => (r.destCore, r.srcCore)) ++
      if st.crashed then [] else net.served ps
  crashed : st'.crashed = false ↔
    st.crashed = false ∧ net.AllConnected ps
  paths : ∀ r ∈ st'.routes, r ∈ st.routes ∨ r.paths = spf (fun _ => true) r.destCore

theorem Adds.nil {net : AsLevel} {spf : Spf} {st st' : InterASState}
    (hen : ∀ k, st'.enabled (.inAs k) = true) (hroutes : st'.routes = st.routes)
    (hcrashed : st'.crashed = st.crashed) : net.Adds spf [] st st' where
  enabled := hen
  pairs := by
    rw [hroutes]
    simp [served]
  crashed := by simp [hcrashed, AllConnected]
  paths := fun r hr => .inl (hroutes ▸ hr)

/-- After a crash, or where a destination is not connected, there is a crash. -/
theorem Adds.crashed_of_not {net : AsLevel} {spf : Spf} {ps : List (Nat × Nat)}
    {st st' : InterASState} (h : net.Adds spf ps st st')
    (hnot : ¬ (st.crashed = false ∧ net.AllConnected ps)) : st'.crashed = true := by
  by_contra hne
  exact hnot (h.crashed.mp (Bool.eq_false_iff.mpr hne))

theorem Adds.append {net : AsLevel} {spf : Spf} {ps qs : List (Nat × Nat)}
    {st st' st'' : InterASState} (h : net.Adds spf ps st st')
    (h' : net.Adds spf qs st' st'') : net.Adds spf (ps ++ qs) st st'' where
  enabled := h'.enabled
  pairs := by
    rw [h'.pairs, h.pairs, List.append_assoc]
    congr 1
    cases hcr : st.crashed with
    | true =>
        have hcr' : st'.crashed = true := h.crashed_of_not fun hfine => by simp [hcr] at hfine
        simp [hcr']
    | false =>
        simp only [Bool.false_eq_true, if_false]
        by_cases hall : net.AllConnected ps
        · rw [h.crashed.mpr ⟨hcr, hall⟩, served_append hall]
          simp
        · -- the first destination without a path ends the loop: `qs` is not reached
          have hcr' : st'.crashed = true := h.crashed_of_not fun hfine => hall hfine.2
          rw [hcr', served_append_of_not hall]
          simp
  crashed := by
    have hsplit : net.AllConnected (ps ++ qs) ↔ net.AllConnected ps ∧ net.AllConnected qs := by
      unfold AllConnected
      rw [List.filter_append, List.forall_mem_append]
    rw [h'.crashed, h.crashed, hsplit, and_assoc]
  paths := by
    intro r hr
    rcases h'.paths r hr with hr' | hpaths
    · exact h.paths r hr'
    · exact .inr hpaths

/-- A single pair: skipped, connected or not. -/
theorem served_singleton (net : AsLevel) (pair : Nat × Nat) :
    (net.relevant pair = false → net.served [pair] = [] ∧ net.AllConnected [pair]) ∧
    (net.relevant pair = true → net.Connected pair →
      net.served [pair] = [pair] ∧ net.AllConnected [pair]) ∧
    (net.relevant pair = true → ¬ net.Connected pair →
      net.served [pair] = [] ∧ ¬ net.AllConnected [pair]) := by
  classical
  unfold served AllConnected
  refine ⟨?_, ?_, ?_⟩
  · intro hrel
    rw [List.filter_cons_of_neg (by simp [hrel])]
    exact ⟨rfl, fun _ h => by cases h⟩
  · intro hrel hconn
    rw [List.filter_cons_of_pos hrel]
    simp [hconn]
  · intro hrel hconn
    rw [List.filter_cons_of_pos hrel]
    simp [hconn]

/-- In row `i`, before the sources `js`, with all links of `asTopology` enabled: the paths
at hand are those towards `i`, or nothing has been computed in this row. -/
structure Ready (net : AsLevel) (spf : Spf) (i : Nat) (js : List Nat) (st : InterASState) :
    Prop where
  enabled : ∀ k, st.enabled (.inAs k) = true
  paths : st.crashed = false →
    st.paths = spf (fun _ => true) i ∨ st.asIdHistory = -1 ∧ net.Computes i js

/-- The paths in use when a route is added are those over all links. -/
theorem computePaths_ready {net : AsLevel} {spf : Spf} {i j : Nat} {js : List Nat}
    {st : InterASState} (h : net.Ready spf i (j :: js) st) (hcr : st.crashed = false)
    (hrel : net.relevant (i, j) = true) (destCore : NodeInfoRL) :
    let st' := net.computePaths spf i destCore (net.corePrefix j) st
    (∀ k, st'.enabled (.inAs k) = true) ∧ st'.paths = spf (fun _ => true) i ∧
      st'.routes = st.routes ∧ st'.crashed = st.crashed := by
  unfold computePaths
  by_cases hrenew : (st.asIdHistory != (net.corePrefix j).asId) = true
  · have hflags : ∀ k, net.disableStubLinks destCore (net.corePrefix j) st.enabled (.inAs k) =
        true := by
      intro k
      rw [disableStubLinks_inAs, h.enabled]
    simp only [hrenew, if_true]
    refine ⟨hflags, ?_, trivial, trivial⟩
    rw [funext hflags]
  · simp only [hrenew, Bool.false_eq_true, if_false]
    refine ⟨h.enabled, ?_, trivial, trivial⟩
    rcases h.paths hcr with hpaths | ⟨hhist, hfirst⟩
    · exact hpaths
    · -- the row starts with `-1`, which the id of its first source is not
      have hid : (net.core j).asId ≠ -1 := hfirst j (List.find?_cons_of_pos hrel)
      rw [hhist] at hrenew
      have heq : -1 = (net.core j).asId := by simpa using hrenew
      exact absurd heq.symm hid

theorem relevant_iff (net : AsLevel) (i j : Nat) :
    net.relevant (i, j) = true ↔
      i ≠ j ∧ (net.corePrefix i).sameAs (net.corePrefix j) = false := by
  simp [relevant, NodeInfoRL.sameAs]

theorem interASStep_skip {net : AsLevel} {spf : Spf} {i j : Nat} {st : InterASState}
    (h : st.crashed = true ∨ net.relevant (i, j) = false) :
    net.interASStep spf i st j = st := by
  unfold interASStep
  split
  · rfl
  · split
    · rfl
    · rename_i hcr hij
      have hsame : (net.corePrefix i).sameAs (net.corePrefix j) = true := by
        by_contra hne
        have hrel := (net.relevant_iff i j).mpr ⟨hij, Bool.eq_false_iff.mpr hne⟩
        rcases h with h | h
        · exact hcr h
        · rw [hrel] at h
          cases h
      simp only [hsame, if_true]

theorem interASStep_serve {net : AsLevel} {spf : Spf} {i j : Nat} {st : InterASState}
    (hcr : st.crashed = false) (hrel : net.relevant (i, j) = true) :
    net.interASStep spf i st j = net.addPath i j (net.corePrefix i) (net.corePrefix j)
      (net.computePaths spf i (net.corePrefix i) (net.corePrefix j) st) := by
  obtain ⟨hij, hsame⟩ := (net.relevant_iff i j).mp hrel
  simp only [interASStep, hcr, hsame, Bool.false_eq_true, if_false, if_neg hij]

theorem interASStep_adds {net : AsLevel} {spf : Spf} (hspf : net.Lawful spf) {i j : Nat}
    {js : List Nat} {st : InterASState} (h : net.Ready spf i (j :: js) st) :
    net.Adds spf [(i, j)] st (net.interASStep spf i st j) ∧
      net.Ready spf i js (net.interASStep spf i st j) := by
  obtain ⟨hskip, hserve, hcrash⟩ := net.served_singleton (i, j)
  by_cases hdo : st.crashed = true ∨ net.relevant (i, j) = false
  · -- nothing is done: after a crash, for the AS itself and for one of the same prefix
    rw [interASStep_skip hdo]
    refine ⟨⟨h.enabled, ?_, ?_, fun r hr => .inl hr⟩, h.enabled, fun hcr => ?_⟩
    · rcases hdo with hcr | hrel
      · simp [hcr]
      · simp [(hskip hrel).1]
    · rcases hdo with hcr | hrel
      · simp [hcr]
      · simp [(hskip hrel).2]
    · have hrel : net.relevant (i, j) = false := by
        rcases hdo with hcr' | hrel
        · rw [hcr] at hcr'
          cases hcr'
        · exact hrel
      refine (h.paths hcr).imp_right fun hfirst => ⟨hfirst.1, fun j' hj' => hfirst.2 j' ?_⟩
      rw [List.find?_cons_of_neg (by simp [hrel])]
      exact hj'
  · have hcr : st.crashed = false := Bool.eq_false_iff.mpr fun hcr => hdo (.inl hcr)
    have hrel : net.relevant (i, j) = true := by
      by_contra hrel
      exact hdo (.inr (Bool.eq_false_iff.mpr hrel))
    have hij : j ≠ i := Ne.symm ((net.relevant_iff i j).mp hrel).1
    rw [interASStep_serve hcr hrel]
    obtain ⟨hflags, hpaths, hroutes, hcrashed⟩ :=
      computePaths_ready h hcr hrel (net.corePrefix i)
    generalize net.computePaths spf i (net.corePrefix i) (net.corePrefix j) st = st'
      at hflags hpaths hroutes hcrashed ⊢
    have hnone := (hspf (fun _ => true) i).getPath_eq_none_iff hij
    rw [← hpaths] at hnone
    unfold addPath
    cases hpath : net.asTopology.getPath st'.paths j with
    | none =>
        -- no path, and the link is read all the same
        obtain ⟨hserved, hall⟩ := hcrash hrel (hnone.mp hpath)
        refine ⟨⟨hflags, ?_, ?_, fun r hr => .inl (hroutes ▸ hr)⟩, hflags, fun _ => .inl hpaths⟩
        · simp [hroutes, hserved]
        · simp [hall]
    | some link =>
        have hconn : net.Connected (i, j) := by
          by_contra hnot
          rw [hnone.mpr hnot] at hpath
          cases hpath
        obtain ⟨hserved, hall⟩ := hserve hrel hconn
        dsimp only
        -- bringing the stub links back leaves the links between ASes alone
        have hflags' : ∀ k, (if st'.asIdHistory != (net.corePrefix j).asId then
            net.enableStubLinks st'.enabled else st'.enabled) (.inAs k) = true := by
          intro k
          split
          · rw [enableStubLinks_inAs, hflags]
          · exact hflags k
        refine ⟨⟨hflags', ?_, ?_, ?_⟩, hflags', fun _ => .inl hpaths⟩
        · simp [hroutes, hserved, hcr]
        · simp [hcrashed, hall]
        · intro r hr
          rcases List.mem_append.mp hr with hr | hr
          · exact .inl (hroutes ▸ hr)
          · rw [List.mem_singleton] at hr
            exact .inr (hr ▸ hpaths)

theorem foldl_interASStep_adds {net : AsLevel} {spf : Spf} (hspf : net.Lawful spf)
    {i : Nat} (js : List Nat) {st : InterASState} (h : net.Ready spf i js st) :
    net.Adds spf (js.map fun j => (i, j)) st (js.foldl (net.interASStep spf i) st) := by
  induction js generalizing st with
  | nil => exact .nil h.enabled rfl rfl
  | cons j js ih =>
      obtain ⟨hstep, hready⟩ := interASStep_adds hspf h
      exact hstep.append (ih hready)

theorem interASRow_adds {net : AsLevel} {spf : Spf} (hspf : net.Lawful spf)
    {st : InterASState} (h : ∀ k, st.enabled (.inAs k) = true) {i : Nat}
    (hrow : net.Computes i (List.range net.asTopology.numNodes)) :
    net.Adds spf ((List.range net.asTopology.numNodes).map fun j => (i, j)) st
      (net.interASRow spf st i) := by
  have hready : net.Ready spf i (List.range net.asTopology.numNodes)
      { st with asIdHistory := -1 } := ⟨h, fun _ => .inr ⟨rfl, hrow⟩⟩
  obtain ⟨hen, hpairs, hcr, hpaths⟩ := foldl_interASStep_adds hspf _ hready
  exact ⟨hen, hpairs, hcr, hpaths⟩

/-- The routes of a whole run: one for every pair served, from the paths over
all links. -/
theorem createInterASPaths_adds {net : AsLevel} {spf : Spf} (hspf : net.Lawful spf)
    (hrows : net.ComputesRows) :
    net.Adds spf net.pairs interASStart (net.createInterASPaths spf) := by
  have hrun : ∀ (is : List Nat) (st : InterASState), (∀ i ∈ is, i < net.asTopology.numNodes) →
      (∀ k, st.enabled (.inAs k) = true) →
      net.Adds spf (is.flatMap fun i => (List.range net.asTopology.numNodes).map fun j => (i, j))
        st (is.foldl (net.interASRow spf) st) := by
    intro is
    induction is with
    | nil => exact fun st _ hst => .nil hst rfl rfl
    | cons i is ih =>
        intro st his hst
        have hrow := interASRow_adds hspf hst (hrows i (his i List.mem_cons_self))
        exact hrow.append (ih _ (fun i' hi' => his i' (List.mem_cons_of_mem i hi')) hrow.enabled)
  exact hrun _ _ (fun i hi => List.mem_range.mp hi) fun _ => rfl

theorem mem_routes {net : AsLevel} {spf : Spf} (hspf : net.Lawful spf)
    (hrows : net.ComputesRows) {r : AddedRoute} (hr : r ∈ (net.createInterASPaths spf).routes) :
    (r.destCore, r.srcCore) ∈ net.served net.pairs ∧
      r.paths = spf (fun _ => true) r.destCore := by
  have hadds := createInterASPaths_adds hspf hrows
  have hpairs := hadds.pairs
  refine ⟨?_, ?_⟩
  · have hmem := List.mem_map_of_mem (f := fun r : AddedRoute => (r.destCore, r.srcCore)) hr
    rw [hpairs] at hmem
    simpa [interASStart] using hmem
  · rcases hadds.paths r hr with hold | hpaths
    · cases hold
    · exact hpaths

theorem exists_route {net : AsLevel} {spf : Spf} (hspf : net.Lawful spf)
    (hrows : net.ComputesRows) {pair : Nat × Nat} (hp : pair ∈ net.served net.pairs) :
    ∃ r ∈ (net.createInterASPaths spf).routes, (r.destCore, r.srcCore) = pair := by
  have hpairs := (createInterASPaths_adds hspf hrows).pairs
  have hmem : pair ∈ (net.createInterASPaths spf).routes.map
      fun r => (r.destCore, r.srcCore) := by
    rw [hpairs]
    simpa [interASStart] using hp
  obtain ⟨r, hr, heq⟩ := List.mem_map.mp hmem
  exact ⟨r, hr, heq⟩

theorem connected_of_served {net : AsLevel} {pair : Nat × Nat}
    {pairs : List (Nat × Nat)} (hp : pair ∈ net.served pairs) : net.Connected pair := by
  classical
  have hdec : decide (net.Connected pair) = true :=
    List.mem_takeWhile_imp (p := fun pair => decide (net.Connected pair)) hp
  exact of_decide_eq_true hdec

end AsLevel

/-- Ids that are read from digits are never `-1`. -/
theorem Configurator.computesRows (net : Configurator) : net.ComputesRows := by
  intro i _ j _ heq
  have hnonneg := net.core_asId j
  omega

end ScadaSim.Routing
