import ScadaSim.Lib.Outcome
import ScadaSim.Lib.TSys
import ScadaSim.Traffic.Registration

/-!
# What the selection of servers keeps

Registration, with any ids and in any order, keeps `WellFormed`; the selection functions
change probabilities and dirty flags only, `SamePlain`. So no vector is indexed past its
end, and `chooseServer_origin` says where a target comes from.
-/

namespace ScadaSim.Traffic

open Lib

variable {fp : Doubles}

/-! ## Registration runs -/

/-- The managers from their construction on. -/
def registry (h : Hierarchy) : TSys Managers Registration where
  init := fun cms => cms = fun _ => {}
  step := fun cms a cms' => cms' = a.apply h cms

/-- The manager `m` is in order: server vectors are filled, each with its servers
of the profile; a network that is not flat has sub managers. -/
structure WellFormedAt (m : CMId) (cm : ConnectionManager) : Prop where
  servers : ∀ profileId vec, cm.servers profileId = some vec →
    vec ≠ [] ∧ ∀ s ∈ vec, s.profileID = profileId ∧ s.manager = m
  flat : cm.isFlatNet = false → cm.subCM ≠ []

def WellFormed (cms : Managers) : Prop := ∀ m, WellFormedAt m (cms m)

theorem WellFormed.update {cms : Managers} (h : WellFormed cms) {m : CMId}
    {cm : ConnectionManager} (hcm : WellFormedAt m cm) :
    WellFormed (Function.update cms m cm) := by
  intro n
  by_cases hn : n = m
  · subst hn
    rw [Function.update_self]
    exact hcm
  · rw [Function.update_of_ne hn]
    exact h n

theorem wellFormed_init : WellFormed fun _ => {} := by
  intro m
  refine ⟨?_, ?_⟩
  · intro profileId vec h
    cases h
  · intro h
    cases h

theorem wellFormed_registerServer {cms : Managers} (h : WellFormed cms) (self : CMId)
    (address : IPvXAddress) (port profileId moduleId : Int) :
    WellFormed (cms.registerServer self address port profileId moduleId) := by
  refine h.update ⟨?_, ?_⟩
  · intro p vec hvec
    dsimp only at hvec
    by_cases hp : p = profileId
    · subst hp
      rw [Function.update_self] at hvec
      cases hvec
      refine ⟨by simp, fun s hs => ?_⟩
      -- the old servers, and the one registered last
      rcases List.mem_append.mp hs with hs | hs
      · cases hold : (cms self).servers p with
        | none =>
            rw [hold] at hs
            cases hs
        | some old =>
            rw [hold] at hs
            exact ((h self).servers p old hold).2 s hs
      · rw [List.mem_singleton] at hs
        subst hs
        exact ⟨rfl, rfl⟩
    · rw [Function.update_of_ne hp] at hvec
      exact (h self).servers p vec hvec
  · intro hflat
    refine (h self).flat ?_
    -- the call can only set the flag
    revert hflat
    show (if (cms self).isTopCM then true else (cms self).isFlatNet) = false → _
    split
    · exact fun hflat => by cases hflat
    · exact id

theorem wellFormed_addNetwork {cms : Managers} (h : WellFormed cms) (self : CMId)
    (network : ForeignNetwork) : WellFormed (cms.addNetwork self network) := by
  unfold Managers.addNetwork
  dsimp only
  split
  · exact h
  · exact h.update ⟨(h self).servers, fun _ => by simp⟩

theorem wellFormed_registerConnectionManager {cms : Managers} (h : WellFormed cms)
    (hier : Hierarchy) (self : CMId) (id : Int) :
    WellFormed (cms.registerConnectionManager hier self id) := by
  have hself := h self
  unfold Managers.registerConnectionManager
  dsimp only
  split
  · exact h
  · split
    · exact h.update ⟨hself.servers, hself.flat⟩
    · refine wellFormed_addNetwork (h.update ?_) _ _
      exact ⟨hself.servers, hself.flat⟩

theorem wellFormed_apply (hier : Hierarchy) {cms : Managers} (h : WellFormed cms)
    (a : Registration) : WellFormed (a.apply hier cms) := by
  cases a with
  | registerConnectionManager self id =>
      exact wellFormed_registerConnectionManager h hier self id
  | addSubCM self other id => exact wellFormed_addNetwork h self _
  | addNetwork self network => exact wellFormed_addNetwork h self network
  | registerServer self address port profileId moduleId =>
      exact wellFormed_registerServer h self address port profileId moduleId

/-- Registration, in any order, leaves the managers in order. -/
theorem registry_wellFormed (hier : Hierarchy) : (registry hier).Invariant WellFormed := by
  refine TSys.Inductive.invariant ⟨?_, ?_⟩
  · rintro _ rfl
    exact wellFormed_init
  · rintro cms a _ h rfl
    exact wellFormed_apply hier h a

/-! ## What selection leaves alone -/

def ServerConnection.plain (s : ServerConnection) : ServerConnection :=
  { s with probability := 0 }

def ForeignNetwork.plain (n : ForeignNetwork) : ForeignNetwork := { n with probability := 0 }

/-- A manager up to probabilities and dirty flags. -/
def ConnectionManager.plain (cm : ConnectionManager) : ConnectionManager :=
  { cm with
    servers := fun profileId => (cm.servers profileId).map (List.map ServerConnection.plain)
    subCM := cm.subCM.map ForeignNetwork.plain
    serverProbabilityIsDirty := false
    networkProbabilityIsDirty := false }

/-- The managers differ in probabilities and dirty flags at most. -/
def SamePlain (cms cms' : Managers) : Prop := ∀ m, (cms' m).plain = (cms m).plain

theorem SamePlain.refl (cms : Managers) : SamePlain cms cms := fun _ => rfl

theorem SamePlain.trans {cms cms' cms'' : Managers} (h : SamePlain cms cms')
    (h' : SamePlain cms' cms'') : SamePlain cms cms'' :=
  fun m => (h' m).trans (h m)

theorem samePlain_set {sim : Sim} {m : CMId} {cm : ConnectionManager}
    (hcm : cm.plain = (sim.cms m).plain) : SamePlain sim.cms (sim.set m cm).cms := by
  intro n
  by_cases hn : n = m
  · subst hn
    simp [Sim.set, hcm]
  · simp [Sim.set, hn]

/-- The manager of a network that is not flat has no servers to ask for. -/
def ConnectionManager.closed (cm : ConnectionManager) : Bool := cm.isTopCM && !cm.isFlatNet

/-- `s` is a server of the manager `owner`, registered for the profile with the
given address, port and module id. -/
def Registered (cms : Managers) (owner : CMId) (profileId : Int) (ti : TargetInfo)
    (id : Int) : Prop :=
  ∃ vec s, (cms owner).servers profileId = some vec ∧ s ∈ vec ∧
    s.profileID = profileId ∧ s.manager = owner ∧ ti = ⟨s.address, s.port⟩ ∧ s.id = id

theorem SamePlain.servers {cms cms' : Managers} (h : SamePlain cms cms') (m : CMId)
    (profileId : Int) :
    ((cms' m).servers profileId).map (List.map ServerConnection.plain) =
      ((cms m).servers profileId).map (List.map ServerConnection.plain) :=
  congrFun (congrArg ConnectionManager.servers (h m)) profileId

theorem SamePlain.subCM {cms cms' : Managers} (h : SamePlain cms cms') (m : CMId) :
    (cms' m).subCM.map ForeignNetwork.plain = (cms m).subCM.map ForeignNetwork.plain :=
  congrArg ConnectionManager.subCM (h m)

theorem SamePlain.isTopCM {cms cms' : Managers} (h : SamePlain cms cms') (m : CMId) :
    (cms' m).isTopCM = (cms m).isTopCM := by
  show (cms' m).plain.isTopCM = (cms m).plain.isTopCM
  rw [h m]

theorem SamePlain.topCM {cms cms' : Managers} (h : SamePlain cms cms') (m : CMId) :
    (cms' m).topCM = (cms m).topCM := by
  show (cms' m).plain.topCM = (cms m).plain.topCM
  rw [h m]

theorem SamePlain.closed {cms cms' : Managers} (h : SamePlain cms cms') (m : CMId) :
    (cms' m).closed = (cms m).closed := by
  show (cms' m).plain.closed = (cms m).plain.closed
  rw [h m]

theorem SamePlain.isFlatNet {cms cms' : Managers} (h : SamePlain cms cms') (m : CMId) :
    (cms' m).isFlatNet = (cms m).isFlatNet := by
  show (cms' m).plain.isFlatNet = (cms m).plain.isFlatNet
  rw [h m]

theorem SamePlain.exists_servers {cms cms' : Managers} (h : SamePlain cms cms') {m : CMId}
    {profileId : Int} {vec : List ServerConnection}
    (hvec : (cms' m).servers profileId = some vec) :
    ∃ vec₀, (cms m).servers profileId = some vec₀ ∧
      vec₀.map ServerConnection.plain = vec.map ServerConnection.plain := by
  have hservers := h.servers m profileId
  rw [hvec, Option.map_some] at hservers
  exact Option.map_eq_some_iff.mp hservers.symm

/-- An element has a counterpart in a list with the same images. -/
theorem exists_of_map_eq {α β : Type} {f : α → β} {l₀ l : List α} (h : l₀.map f = l.map f)
    {a : α} (ha : a ∈ l) : ∃ a₀ ∈ l₀, f a₀ = f a := by
  have hmem : f a ∈ l₀.map f := by
    rw [h]
    exact List.mem_map_of_mem ha
  exact List.mem_map.mp hmem

theorem Registered.samePlain {cms cms' : Managers} (h : SamePlain cms cms') {owner : CMId}
    {profileId : Int} {ti : TargetInfo} {id : Int} (hr : Registered cms' owner profileId ti id) :
    Registered cms owner profileId ti id := by
  obtain ⟨vec, s, hvec, hs, hprofile, hmanager, hti, hid⟩ := hr
  obtain ⟨vec₀, hvec₀, hplain⟩ := h.exists_servers hvec
  obtain ⟨s₀, hs₀, heq⟩ := exists_of_map_eq hplain hs
  -- all fields but the probability agree
  have hfield : ∀ {α : Type} (f : ServerConnection → α), (∀ s, f s.plain = f s) →
      f s₀ = f s := by
    intro α f hf
    rw [← hf s₀, heq, hf]
  refine ⟨vec₀, s₀, hvec₀, hs₀, ?_, ?_, ?_, ?_⟩
  · rw [hfield ServerConnection.profileID fun _ => rfl, hprofile]
  · rw [hfield ServerConnection.manager fun _ => rfl, hmanager]
  · rw [hfield ServerConnection.address fun _ => rfl, hfield ServerConnection.port fun _ => rfl,
      hti]
  · rw [hfield ServerConnection.id fun _ => rfl, hid]

theorem WellFormed.samePlain {cms cms' : Managers} (hw : WellFormed cms)
    (h : SamePlain cms cms') : WellFormed cms' := by
  intro m
  refine ⟨?_, ?_⟩
  · intro profileId vec hvec
    obtain ⟨vec₀, hvec₀, hplain⟩ := h.exists_servers hvec
    obtain ⟨hne, hall⟩ := (hw m).servers profileId vec₀ hvec₀
    refine ⟨?_, ?_⟩
    · rintro rfl
      exact hne (List.map_eq_nil_iff.mp hplain)
    · intro s hs
      obtain ⟨s₀, hs₀, heq⟩ := exists_of_map_eq hplain hs
      obtain ⟨hprofile, hmanager⟩ := hall s₀ hs₀
      exact ⟨(congrArg ServerConnection.profileID heq).symm.trans hprofile,
        (congrArg ServerConnection.manager heq).symm.trans hmanager⟩
  · intro hflat hnil
    have hsub := h.subCM m
    rw [hnil] at hsub
    exact (hw m).flat ((h.isFlatNet m).symm.trans hflat) (List.map_eq_nil_iff.mp hsub.symm)

/-! ## The selection functions -/

/-- What must not happen. -/
def bad (e : Failure) : Prop := e = .indexOutOfRange

theorem not_bad {e : Failure} (h : e ≠ .indexOutOfRange) : ¬ bad e := h

theorem updateServerProbabilities_spec (cm : ConnectionManager) :
    Ensures bad (fun cm' => cm'.plain = cm.plain) cm.updateServerProbabilities := by
  unfold ConnectionManager.updateServerProbabilities
  split
  · exact not_bad nofun
  · have hplain : ∀ (s : ServerConnection) (x : Rat),
        ServerConnection.plain { s with probability := x } = s.plain := fun _ _ => rfl
    simp [ConnectionManager.plain, Function.comp_def, hplain]

theorem updateNetworkProbabilities_spec (cm : ConnectionManager) :
    Ensures bad (fun cm' => cm'.plain = cm.plain) cm.updateNetworkProbabilities := by
  unfold ConnectionManager.updateNetworkProbabilities
  split
  · exact not_bad nofun
  · have hplain : ∀ (n : ForeignNetwork) (x : Rat),
        ForeignNetwork.plain { n with probability := x } = n.plain := fun _ _ => rfl
    simp [ConnectionManager.plain, Function.comp_def, hplain]

/-- An update that is made when a flag says so. -/
theorem ensures_ifDirty {cm : ConnectionManager} {x : Except Failure ConnectionManager}
    (dirty : Bool) (hx : Ensures bad (fun cm' => cm'.plain = cm.plain) x) :
    Ensures bad (fun cm' => cm'.plain = cm.plain) (if dirty then x else .ok cm) := by
  cases dirty with
  | true => exact hx
  | false => exact (rfl : cm.plain = cm.plain)

/-- The loop ends with a server of the vector that is not the excluded one, or
goes on to the end. -/
theorem serverLoop_spec (rng : Rng fp) {svector : List ServerConnection} (hne : svector ≠ [])
    (moduleId : Int) (runs : Nat) (ti : TargetInfo) (pos : Nat) :
    Ensures bad (fun r => r.1 = false → ∃ s ∈ svector, r.2.1 = ⟨s.address, s.port⟩ ∧
      (moduleId ≠ -1 → s.id ≠ moduleId)) (serverLoop rng svector moduleId runs ti pos) := by
  induction runs generalizing pos with
  | zero => exact fun h => by cases h
  | succ runs ih =>
      unfold serverLoop
      have hlt := rng.index_lt pos svector.length (List.length_pos_iff.mpr hne)
      rw [List.getElem?_eq_getElem hlt]
      dsimp only
      split
      · exact ih (pos + 1)
      · rename_i hid
        refine fun _ => ⟨_, List.getElem_mem hlt, rfl, fun hex heq => ?_⟩
        exact hid ⟨heq, hex⟩

/-- What a call to `haveProfile` of the manager `m` may do. -/
structure HaveProfile (cms : Managers) (m : CMId) (profileId moduleId : Int)
    (r : Bool × TargetInfo × Sim) : Prop where
  same : SamePlain cms r.2.2.cms
  found : r.1 = true → (cms m).closed = false ∧ ∃ id, Registered cms m profileId r.2.1 id ∧
    (moduleId ≠ -1 → id ≠ moduleId)
  missing : r.1 = false → r.2.1 = .unspecified

theorem haveProfile_spec (rng : Rng fp) (self : CMId) (ti : TargetInfo)
    (profileId moduleId : Int) (sim : Sim) (hw : WellFormed sim.cms) :
    Ensures bad (HaveProfile sim.cms self profileId moduleId)
      (haveProfile rng self ti profileId moduleId sim) := by
  unfold haveProfile
  dsimp only
  split
  · exact not_bad nofun
  · rename_i hopen
    refine (ensures_ifDirty _ (updateServerProbabilities_spec (sim.cms self))).bind ?_
    intro cm hplain
    have hsame := samePlain_set hplain
    have hw' := hw.samePlain hsame self
    have hself : (sim.set self cm).cms self = cm := Function.update_self ..
    rw [hself] at hw'
    cases hvec : cm.servers profileId with
    | none => exact ⟨hsame, (fun h => by cases h), fun _ => rfl⟩
    | some svector =>
        -- the loop draws from what has been registered under this profile
        obtain ⟨hne, hall⟩ := hw'.servers profileId svector hvec
        refine (serverLoop_spec rng hne moduleId 100 ti _).bind ?_
        rintro ⟨goOn, ti', pos⟩ hloop
        cases goOn with
        | true => exact ⟨hsame, (fun h => by cases h), fun _ => rfl⟩
        | false =>
            obtain ⟨s, hs, hti, hid⟩ := hloop rfl
            obtain ⟨hprofile, hmanager⟩ := hall s hs
            have hreg : Registered (sim.set self cm).cms self profileId ti' s.id :=
              ⟨svector, s, by rw [hself, hvec], hs, hprofile, hmanager, hti, rfl⟩
            exact ⟨hsame, fun _ => ⟨Bool.eq_false_iff.mpr hopen, s.id, hreg.samePlain hsame, hid⟩,
              fun h => by cases h⟩

/-- The target is a server of a network below `topCM` that has another id than `moduleId`. -/
def FromNetwork (cms : Managers) (topCM : CMId) (profileId moduleId : Int) (ti : TargetInfo) :
    Prop :=
  ∃ network ∈ (cms topCM).subCM, network.id ≠ moduleId ∧
    (cms network.manager).closed = false ∧ ∃ id, Registered cms network.manager profileId ti id

theorem FromNetwork.samePlain {cms cms' : Managers} (h : SamePlain cms cms') {topCM : CMId}
    {profileId moduleId : Int} {ti : TargetInfo}
    (hti : FromNetwork cms' topCM profileId moduleId ti) :
    FromNetwork cms topCM profileId moduleId ti := by
  obtain ⟨network, hmem, hid, hopen, id, hreg⟩ := hti
  obtain ⟨n₀, hn₀, heq⟩ := exists_of_map_eq (h.subCM topCM).symm hmem
  have hid₀ : n₀.plain.id = network.plain.id := congrArg ForeignNetwork.id heq
  have hmanager : n₀.plain.manager = network.plain.manager := congrArg ForeignNetwork.manager heq
  refine ⟨n₀, hn₀, fun hown => hid (hid₀.symm.trans hown), ?_, id, ?_⟩
  · rw [show n₀.manager = network.manager from hmanager, ← h.closed]
    exact hopen
  · rw [show n₀.manager = network.manager from hmanager]
    exact hreg.samePlain h

/-- What the loop of `getForeignServer` may do: it goes on to the end, or ends with a
server of a network. -/
structure ForeignChoice (cms : Managers) (topCM : CMId) (profileId moduleId : Int)
    (r : Bool × TargetInfo × Sim) : Prop where
  same : SamePlain cms r.2.2.cms
  found : r.1 = false → FromNetwork cms topCM profileId moduleId r.2.1

theorem networkLoop_spec (rng : Rng fp) (self : CMId) (profileId moduleId : Int) (runs : Nat) :
    ∀ (ti : TargetInfo) (sim : Sim), WellFormed sim.cms → (sim.cms self).isFlatNet = false →
      Ensures bad (ForeignChoice sim.cms self profileId moduleId)
        (networkLoop rng self profileId moduleId runs ti sim) := by
  induction runs with
  | zero =>
      intro _ sim _ _
      exact ⟨.refl _, fun h => by cases h⟩
  | succ runs ih =>
      intro ti sim hw hflat
      have hne := (hw self).flat hflat
      have hlt := rng.index_lt sim.pos _ (List.length_pos_iff.mpr hne)
      unfold networkLoop
      dsimp only
      rw [List.getElem?_eq_getElem hlt]
      dsimp only
      split
      · exact ih ti { sim with pos := sim.pos + 1 } hw hflat
      · rename_i hid
        -- the call excludes no server: its last argument has the default value
        refine (haveProfile_spec rng _ ti profileId (-1) { sim with pos := sim.pos + 1 }
          hw).bind ?_
        rintro ⟨found, ti', sim'⟩ ⟨hsame, hfound, -⟩
        cases found with
        | false =>
            have hflat' := (hsame.isFlatNet self).trans hflat
            refine (ih ti' sim' (hw.samePlain hsame) hflat').mono ?_
            rintro r ⟨hsame', hchoice⟩
            exact ⟨hsame.trans hsame', fun hgo => (hchoice hgo).samePlain hsame⟩
        | true =>
            obtain ⟨hopen, id, hreg, -⟩ := hfound rfl
            exact ⟨hsame, fun _ => ⟨_, List.getElem_mem hlt, hid, hopen, id, hreg⟩⟩

theorem getForeignServer_spec (rng : Rng fp) (self : CMId) (ti : TargetInfo)
    (profileId moduleId : Int) (sim : Sim) (hw : WellFormed sim.cms)
    (hflat : (sim.cms self).isFlatNet = false) :
    Ensures bad (fun r => r.1 = .unspecified ∨
        (sim.cms self).isTopCM = true ∧ FromNetwork sim.cms self profileId moduleId r.1)
      (getForeignServer rng self ti profileId moduleId sim) := by
  unfold getForeignServer
  dsimp only
  split
  · exact not_bad nofun
  · rename_i htop
    refine (ensures_ifDirty _ (updateNetworkProbabilities_spec (sim.cms self))).bind ?_
    intro cm hplain
    have hsame := samePlain_set hplain
    have hflat' := (hsame.isFlatNet self).trans hflat
    refine (networkLoop_spec rng self profileId moduleId 100 ti (sim.set self cm)
      (hw.samePlain hsame) hflat').bind ?_
    rintro ⟨goOn, ti', sim'⟩ ⟨-, hchoice⟩
    cases goOn with
    | true => exact .inl rfl
    | false =>
        refine .inr ⟨?_, (hchoice rfl).samePlain hsame⟩
        rw [Bool.not_eq_true', Bool.not_eq_false] at htop
        exact htop

/-- Where a server of profile `profileId` with the target `ti` comes from, that
`chooseServer` has chosen. -/
inductive Origin (cms : Managers) (self : CMId) (moduleId profileId : Int) (ti : TargetInfo) :
    Via → Prop
  /-- The own manager was asked, with the id of the caller. -/
  | own (hopen : (cms self).closed = false) {id : Int}
      (hreg : Registered cms self profileId ti id) (hid : moduleId ≠ -1 → id ≠ moduleId) :
      Origin cms self moduleId profileId ti .haveProfile
  /-- The network is flat: the own manager was asked, with its own id. -/
  | flat (hopen : (cms self).closed = false) {topCM : CMId} (htop : (cms self).topCM = some topCM)
      (hflat : (cms topCM).isFlatNet = true) {id : Int}
      (hreg : Registered cms self profileId ti id) (hid : id ≠ Managers.getId self) :
      Origin cms self moduleId profileId ti .haveProfile
  /-- The top manager was asked, with the id of the own manager. -/
  | network {topCM : CMId} (htop : (cms self).topCM = some topCM)
      (hisTop : (cms topCM).isTopCM = true) (hflat : (cms topCM).isFlatNet = false)
      (hfrom : FromNetwork cms topCM profileId (Managers.getId self) ti) :
      Origin cms self moduleId profileId ti .getForeignServer

theorem getId_ne (self : CMId) : Managers.getId self ≠ -1 := by
  unfold Managers.getId
  omega

theorem origin_getForeignServer (rng : Rng fp) {cms : Managers} {topCM self : CMId}
    (ti : TargetInfo) (profileId moduleId : Int) (sim : Sim) (hw : WellFormed cms)
    (hsame : SamePlain cms sim.cms) (htop : (sim.cms self).topCM = some topCM)
    (hflat : ¬ (sim.cms topCM).isFlatNet = true) :
    Ensures bad
      (fun r => r.1 = .unspecified ∨ Origin cms self moduleId profileId r.1 .getForeignServer)
      (getForeignServer rng topCM ti profileId (Managers.getId self) sim) := by
  rw [hsame.topCM] at htop
  have hflat' := Bool.eq_false_iff.mpr hflat
  refine (getForeignServer_spec rng topCM ti profileId _ sim (hw.samePlain hsame) hflat').mono ?_
  rintro r (hnone | ⟨hisTop, hfrom⟩)
  · exact .inl hnone
  · rw [hsame.isTopCM] at hisTop
    rw [hsame.isFlatNet] at hflat'
    exact .inr (.network htop hisTop hflat' (hfrom.samePlain hsame))

/-- A target is unspecified, or comes from one of three places; no vector is indexed past
its end. -/
theorem chooseServer_origin (rng : Rng fp) (self : CMId) (ti : TargetInfo) (profileId : Int)
    (isForeign : Bool) (moduleId : Int) (sim : Sim) (hw : WellFormed sim.cms) :
    Ensures bad
      (fun r => r.2.1 = .unspecified ∨ Origin sim.cms self moduleId profileId r.2.1 r.1)
      (chooseServer rng self ti profileId isForeign moduleId sim) := by
  unfold chooseServer
  split
  · rename_i topCM htop
    split
    · rename_i hflat
      refine (haveProfile_spec rng self ti profileId _ sim hw).bind ?_
      rintro ⟨found, ti', sim'⟩ hr
      cases found with
      | false => exact .inl (hr.missing rfl)
      | true =>
          obtain ⟨hopen, id, hreg, hid⟩ := hr.found rfl
          exact .inr (.flat hopen htop hflat hreg (hid (getId_ne self)))
    · rename_i hflat
      refine (origin_getForeignServer rng ti profileId moduleId sim hw (.refl _) htop hflat).bind ?_
      intro r hr
      exact hr
  · refine (haveProfile_spec rng self ti profileId moduleId sim hw).bind ?_
    rintro ⟨found, ti', sim'⟩ hr
    cases found with
    | true =>
        obtain ⟨hopen, id, hreg, hid⟩ := hr.found rfl
        exact .inr (.own hopen hreg hid)
    | false =>
        dsimp only
        rw [if_neg Bool.false_ne_true]
        split
        · exact not_bad nofun
        · rename_i topCM htop
          split
          · -- the ignored result: `haveProfile` has left the target unspecified
            exact .inl (hr.missing rfl)
          · rename_i hflat
            refine (origin_getForeignServer rng ti' profileId moduleId sim' hw hr.same htop
              hflat).bind ?_
            intro r' hr'
            exact hr'

theorem drawProfile_spec (rng : Rng fp) (profiles : List TrafficProfile) (isForeign : Bool)
    (pos : Nat) : Ensures bad (fun _ => True) (drawProfile rng profiles isForeign pos) := by
  unfold drawProfile getTrafficProfile
  split
  · exact not_bad nofun
  · exact True.intro

theorem redrawLoop_spec (rng : Rng fp) (profiles : List TrafficProfile) (except : Int)
    (fuel : Nat) : ∀ (tp : TrafficProfile) (isForeign : Bool) (pos : Nat),
      Ensures bad (fun _ => True) (redrawLoop rng profiles except fuel tp isForeign pos) := by
  induction fuel with
  | zero =>
      intro tp isForeign pos
      unfold redrawLoop
      split
      · exact not_bad nofun
      · exact True.intro
  | succ fuel ih =>
      intro tp isForeign pos
      unfold redrawLoop
      split
      · refine (drawProfile_spec rng profiles isForeign pos).bind ?_
        rintro ⟨tp', isForeign'⟩ -
        exact ih tp' isForeign' (pos + 2)
      · exact True.intro

/-- The target of a selection, for the profile that comes with it, is unspecified or comes
from one of three places. -/
def Selection.Originates (cms : Managers) (self : CMId) (moduleId : Int) (r : Selection) : Prop :=
  r.ti = .unspecified ∨ Origin cms self moduleId r.tp.profileID r.ti r.via

theorem getServer_origin (rng : Rng fp) (fuel : Nat) (profiles : List TrafficProfile)
    (self : CMId) (ti : TargetInfo) (tp : TrafficProfile) (except moduleId : Int) (sim : Sim)
    (hw : WellFormed sim.cms) :
    Ensures bad (Selection.Originates sim.cms self moduleId)
      (getServer rng fuel profiles self ti tp except moduleId sim) := by
  unfold getServer
  have hchoose : ∀ r : TrafficProfile × Bool × Nat, True →
      Ensures bad (Selection.Originates sim.cms self moduleId)
        (chooseServer rng self ti r.1.profileID r.2.1 moduleId { sim with pos := r.2.2 } >>=
          fun c => pure { via := c.1, ti := c.2.1, tp := r.1, except := some r.1.profileID,
                          sim := c.2.2 }) := by
    rintro ⟨tp', isForeign, pos⟩ -
    refine (chooseServer_origin rng self ti tp'.profileID isForeign moduleId
      { sim with pos := pos } hw).bind ?_
    intro c hc
    exact hc
  split
  · refine (drawProfile_spec rng profiles false sim.pos).bind ?_
    rintro ⟨tp', isForeign⟩ -
    exact hchoose (tp', isForeign, sim.pos + 2) True.intro
  · exact (redrawLoop_spec rng profiles except fuel tp false sim.pos).bind hchoose

theorem getFixServer_origin (rng : Rng fp) (profiles : List TrafficProfile) (self : CMId)
    (ti : TargetInfo) (tp : TrafficProfile) (moduleId : Int) (sim : Sim)
    (hw : WellFormed sim.cms) :
    Ensures bad (Selection.Originates sim.cms self moduleId)
      (getFixServer rng profiles self ti tp moduleId sim) := by
  unfold getFixServer getFixTrafficProfile
  split
  · exact not_bad nofun
  · rename_i t _
    refine (chooseServer_origin rng self ti t.profileID _ moduleId
      { sim with pos := sim.pos + 1 } hw).bind ?_
    intro r hr
    exact hr

/-! ## Two ASs, and one flat network -/

/-- All registered, and one server for the profile 5 in the second AS. -/
def twoAsManagers : Managers :=
  startup twoAs [.registerConnectionManager 0 0, .registerConnectionManager 1 1,
    .registerConnectionManager 2 2, .registerServer 2 7 80 5 40]

theorem reachable_twoAsManagers : (registry twoAs).Reachable twoAsManagers :=
  .step (a := .registerServer 2 7 80 5 40) (.step (a := .registerConnectionManager 2 2)
    (.step (a := .registerConnectionManager 1 1) (.step (a := .registerConnectionManager 0 0)
      (.init rfl) rfl) rfl) rfl) rfl

/-- A network with one manager, and a server registered without a module id. -/
def flatManagers : Managers :=
  startup twoAs [.registerConnectionManager 0 0, .registerServer 0 7 80 5 (-1)]

/-- Draws the last entry of every vector, and one half. -/
def lastRng : Rng .exact where
  index := fun _ n => n - 1
  unit := fun _ => 1 / 2
  index_lt := fun _ n hn => Nat.sub_lt hn Nat.one_pos
  unit_drawn := fun _ => by decide +kernel

end ScadaSim.Traffic
