import ScadaSim.Routing.InterAsRoutes

/-!
# Paths that are kept from source to source

`createInterASPaths` computes paths for a source only if the one before is of another
AS. The plain algorithm computes them for every pair, with the stub links disabled for
that pair. Which links `disableStubLinks` disables is decided by the ids of the two
ASs, and `enableStubLinks` enables them all again; so the paths that are kept are those
the plain algorithm computes: `createInterASPaths_eq_plain`.
-/

namespace ScadaSim.Routing

namespace AsLevel

/-! ## The plain algorithm -/

structure PlainState where
  enabled : LinkPtr → Bool
  routes : List AddedRoute
  crashed : Bool

/-- The stub links are disabled, paths computed and the route added, for every pair of
different ASs. -/
def plainStep (net : AsLevel) (spf : Spf) (st : PlainState) (pair : Nat × Nat) : PlainState :=
  if st.crashed || !net.relevant pair then st
  else
    let destCore := net.corePrefix pair.1
    let srcCore := net.corePrefix pair.2
    let enabled := net.disableStubLinks destCore srcCore st.enabled
    let paths := spf (fun k => enabled (.inAs k)) pair.1
    match net.asTopology.getPath paths pair.2 with
    | none => { st with enabled := enabled, crashed := true }
    | some link =>
        let ie := getInterfaceByNodeOutputGateId srcCore.ift link.localGateId
        let e : IPRoute :=
          { host := destCore.addr, netmask := NET_MASK, interface := ie, type := .direct }
        { st with
          enabled := net.enableStubLinks enabled
          routes := st.routes ++
            [{ srcCore := pair.2, destCore := pair.1, paths := paths, route := e }] }

def plainStart : PlainState where
  enabled := fun _ => true
  routes := []
  crashed := false

def plainInterASPaths (net : AsLevel) (spf : Spf) : PlainState :=
  net.pairs.foldl (net.plainStep spf) plainStart

/-! ## Links disabled and enabled again -/

theorem setEnabled_of_mem {value : Bool} {links : List LinkPtr} {enabled : LinkPtr → Bool}
    {link : LinkPtr} (h : link ∈ links) : setEnabled value links enabled link = value := by
  induction links generalizing enabled with
  | nil => cases h
  | cons l links ih =>
      show setEnabled value links (Function.update enabled l value) link = value
      by_cases hmem : link ∈ links
      · exact ih hmem
      · obtain rfl : link = l := (List.mem_cons.mp h).resolve_right hmem
        rw [setEnabled_of_not_mem hmem, Function.update_self]

/-- The link comes in to a core node of a stub AS. -/
def IsStubLink (net : AsLevel) (link : LinkPtr) : Prop :=
  ∃ asNode ∈ net.asNodeVec, asNode.asType ≠ .transitAS ∧ link ∈ net.coreLinksIn asNode

theorem disableStubLinks_of_not {net : AsLevel} {link : LinkPtr} (h : ¬ net.IsStubLink link)
    (dst src : NodeInfoRL) (enabled : LinkPtr → Bool) :
    net.disableStubLinks dst src enabled link = enabled link := by
  unfold disableStubLinks
  refine List.foldlRecOn (motive := fun en : LinkPtr → Bool => en link = enabled link)
    net.asNodeVec _ rfl fun en hen asNode hmem => ?_
  split
  · exact hen
  · split
    · exact hen
    · rename_i htype
      rw [setEnabled_of_not_mem fun hlink => h ⟨asNode, hmem, htype, hlink⟩, hen]

/-- What is enabled stays so, over any part of the loop of `enableStubLinks`. -/
theorem foldl_enable_of_enabled (net : AsLevel) (asNodes : List AsNode)
    {enabled : LinkPtr → Bool} {link : LinkPtr} (h : enabled link = true) :
    asNodes.foldl (fun enabled asNode =>
      if asNode.asType = .transitAS then enabled
      else setEnabled true (net.coreLinksIn asNode) enabled) enabled link = true := by
  refine List.foldlRecOn (motive := fun en : LinkPtr → Bool => en link = true)
    asNodes _ h fun en hen asNode _ => ?_
  split
  · exact hen
  · by_cases hlink : link ∈ net.coreLinksIn asNode
    · exact setEnabled_of_mem hlink
    · rw [setEnabled_of_not_mem hlink, hen]

theorem enableStubLinks_of_stub {net : AsLevel} {link : LinkPtr} (h : net.IsStubLink link)
    (enabled : LinkPtr → Bool) : net.enableStubLinks enabled link = true := by
  obtain ⟨asNode, hmem, htype, hlink⟩ := h
  obtain ⟨before, after, hvec⟩ := List.append_of_mem hmem
  unfold enableStubLinks
  rw [hvec, List.foldl_append, List.foldl_cons, if_neg htype]
  exact net.foldl_enable_of_enabled after (setEnabled_of_mem hlink)

/-- `enableStubLinks` takes back what `disableStubLinks` has done. -/
theorem enableStubLinks_disableStubLinks (net : AsLevel) (dst src : NodeInfoRL) :
    net.enableStubLinks (net.disableStubLinks dst src fun _ => true) = fun _ => true := by
  funext link
  by_cases hstub : net.IsStubLink link
  · exact enableStubLinks_of_stub hstub _
  · refine net.foldl_enable_of_enabled net.asNodeVec ?_
    rw [disableStubLinks_of_not hstub]

/-! ## What the paths that are kept stand for -/

/-- The paths the plain algorithm computes for the pair. -/
def freshPaths (net : AsLevel) (spf : Spf) (i j : Nat) : Paths :=
  spf (fun k => net.disableStubLinks (net.corePrefix i) (net.corePrefix j)
    (fun _ => true) (.inAs k)) i

/-- Only the id of the source AS counts. -/
theorem freshPaths_congr {net : AsLevel} (spf : Spf) (i : Nat) {j j' : Nat}
    (h : (net.core j).asId = (net.core j').asId) :
    net.freshPaths spf i j = net.freshPaths spf i j' := by
  unfold freshPaths disableStubLinks
  simp only [corePrefix_asId, h]

/-- Between two pairs: the two algorithms have added the same routes, and all links are
enabled. -/
structure SameRoutes (st : InterASState) (plain : PlainState) : Prop where
  routes : st.routes = plain.routes
  crashed : st.crashed = plain.crashed
  enabled : st.crashed = false → st.enabled = (fun _ => true) ∧ plain.enabled = fun _ => true

/-- In row `i`, moreover, the paths that are kept are those for any source of the AS they
were computed for. -/
structure InStep (net : AsLevel) (spf : Spf) (i : Nat) (st : InterASState) (plain : PlainState) :
    Prop extends SameRoutes st plain where
  paths : st.crashed = false → ∀ j, (net.core j).asId = st.asIdHistory →
    st.paths = net.freshPaths spf i j

/-- What a source is served with: its own paths, and all links enabled behind it. -/
theorem computePaths_fresh {net : AsLevel} {spf : Spf} {i : Nat} {st : InterASState}
    {plain : PlainState} (h : net.InStep spf i st plain) (hcr : st.crashed = false) (j : Nat) :
    let st' := net.computePaths spf i (net.corePrefix i) (net.corePrefix j) st
    st'.paths = net.freshPaths spf i j ∧ st'.routes = st.routes ∧ st'.crashed = st.crashed ∧
      st'.asIdHistory = st.asIdHistory ∧
      (if st.asIdHistory != (net.corePrefix j).asId then net.enableStubLinks st'.enabled
        else st'.enabled) = fun _ => true := by
  unfold computePaths
  by_cases hrenew : (st.asIdHistory != (net.corePrefix j).asId) = true
  · simp only [hrenew, if_true, (h.enabled hcr).1]
    exact ⟨rfl, trivial, trivial, trivial, net.enableStubLinks_disableStubLinks _ _⟩
  · have hsame : st.asIdHistory = (net.core j).asId := by simpa using hrenew
    simp only [hrenew, Bool.false_eq_true, if_false]
    exact ⟨h.paths hcr j hsame.symm, trivial, trivial, trivial, (h.enabled hcr).1⟩

theorem plainStep_skip {net : AsLevel} {spf : Spf} {i j : Nat} {plain : PlainState}
    (h : plain.crashed = true ∨ net.relevant (i, j) = false) :
    net.plainStep spf plain (i, j) = plain := by
  unfold plainStep
  rw [if_pos]
  rcases h with h | h <;> simp [h]

theorem interASStep_inStep {net : AsLevel} {spf : Spf} {i : Nat} {st : InterASState}
    {plain : PlainState} (h : net.InStep spf i st plain) (j : Nat) :
    net.InStep spf i (net.interASStep spf i st j) (net.plainStep spf plain (i, j)) := by
  by_cases hdo : st.crashed = true ∨ net.relevant (i, j) = false
  · rw [interASStep_skip hdo, plainStep_skip (h.crashed ▸ hdo)]
    exact h
  · have hcr : st.crashed = false := Bool.eq_false_iff.mpr fun hcr => hdo (.inl hcr)
    have hrel : net.relevant (i, j) = true := by
      by_contra hrel
      exact hdo (.inr (Bool.eq_false_iff.mpr hrel))
    have hplain : plain.crashed = false := h.crashed ▸ hcr
    rw [interASStep_serve hcr hrel]
    obtain ⟨hpaths, hroutes, hcrashed, hhist, henabled⟩ := computePaths_fresh h hcr j
    generalize net.computePaths spf i (net.corePrefix i) (net.corePrefix j) st = st'
      at hpaths hroutes hcrashed hhist henabled ⊢
    have hfresh : spf (fun k => net.disableStubLinks (net.corePrefix i) (net.corePrefix j)
        plain.enabled (.inAs k)) i = st'.paths := by
      rw [hpaths, (h.enabled hcr).2]
      rfl
    unfold addPath plainStep
    simp only [hplain, hrel, Bool.not_true, Bool.or_self, Bool.false_eq_true, if_false, hfresh]
    cases hpath : net.asTopology.getPath st'.paths j with
    | none =>
        exact ⟨⟨hroutes.trans h.routes, rfl, fun hfine => by cases hfine⟩,
          fun hfine => by cases hfine⟩
    | some link =>
        refine ⟨⟨?_, hcrashed.trans hcr, fun _ => ⟨?_, ?_⟩⟩, fun _ j' hj' => ?_⟩
        · show st'.routes ++ _ = plain.routes ++ _
          rw [hroutes, h.routes]
        · rw [← hhist] at henabled
          exact henabled
        · rw [(h.enabled hcr).2, enableStubLinks_disableStubLinks]
        · show st'.paths = _
          rw [hpaths]
          exact freshPaths_congr spf i (by simpa using hj'.symm)

/-- Across a row, whatever the order of the sources. -/
theorem foldl_inStep {net : AsLevel} {spf : Spf} {i : Nat} (js : List Nat) {st : InterASState}
    {plain : PlainState} (h : net.InStep spf i st plain) :
    net.InStep spf i (js.foldl (net.interASStep spf i) st)
      ((js.map fun j => (i, j)).foldl (net.plainStep spf) plain) := by
  induction js generalizing st plain with
  | nil => exact h
  | cons j js ih => exact ih (interASStep_inStep h j)

end AsLevel

namespace Configurator

open AsLevel

/-- No id is `-1`: no paths are kept when a row begins. -/
theorem inStep_of_sameRoutes {net : Configurator} (spf : Spf) (i : Nat) {st : InterASState}
    {plain : PlainState} (h : SameRoutes st plain) :
    net.InStep spf i { st with asIdHistory := -1 } plain where
  routes := h.routes
  crashed := h.crashed
  enabled := h.enabled
  paths := by
    intro _ j hj
    have hnonneg := net.core_asId j
    have hid : (net.core j).asId = -1 := hj
    omega

theorem foldl_sameRoutes {net : Configurator} {spf : Spf} (is : List Nat) {st : InterASState}
    {plain : PlainState} (h : SameRoutes st plain) :
    SameRoutes (is.foldl (net.interASRow spf) st)
      ((is.flatMap fun i => (List.range net.asTopology.numNodes).map fun j => (i, j)).foldl
        (net.plainStep spf) plain) := by
  induction is generalizing st plain with
  | nil => exact h
  | cons i is ih =>
      rw [List.flatMap_cons, List.foldl_append]
      exact ih (foldl_inStep _ (inStep_of_sameRoutes spf i h)).toSameRoutes

/-- The two algorithms add the same routes, and stop at the same pair if it has no path;
otherwise all links are enabled at the end. -/
theorem createInterASPaths_eq_plain (net : Configurator) (spf : Spf) :
    (net.createInterASPaths spf).routes = (net.plainInterASPaths spf).routes ∧
      (net.createInterASPaths spf).crashed = (net.plainInterASPaths spf).crashed ∧
      ((net.createInterASPaths spf).crashed = false →
        (net.createInterASPaths spf).enabled = fun _ => true) := by
  have hstart : SameRoutes interASStart plainStart := ⟨rfl, rfl, fun _ => ⟨rfl, rfl⟩⟩
  have hrun : SameRoutes (net.createInterASPaths spf) (net.plainInterASPaths spf) :=
    foldl_sameRoutes _ hstart
  exact ⟨hrun.routes, hrun.crashed, fun hcr => (hrun.enabled hcr).1⟩

end Configurator

end ScadaSim.Routing
