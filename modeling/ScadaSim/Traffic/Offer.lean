import ScadaSim.Lib.Tries
import ScadaSim.Traffic.ServerSelection

/-!
# What a search comes to

With given draws the search for a server of a profile has one of three ends:
`Offer`. It is described by the state of the managers before the search and by the
first of hundred draws that hits, and the selection functions come to just that.
-/

namespace ScadaSim.Traffic

open Lib

variable {fp : Doubles}

inductive Offer
  /-- A manager complains. -/
  | refusal
  | nothing
  | server (ti : TargetInfo)
  deriving DecidableEq

/-- The server that the draw `j` hits, unless it is the one to leave out. -/
def serverAt (rng : Rng fp) (svector : List ServerConnection) (moduleId : Int) (pos j : Nat) :
    Option TargetInfo :=
  match svector[rng.index (pos + j) svector.length]? with
  | none => none
  | some s => if s.id = moduleId ∧ moduleId ≠ -1 then none else some ⟨s.address, s.port⟩

/-- The servers of the manager `self`. -/
def localOffer (rng : Rng fp) (cms : Managers) (self : CMId) (profileId moduleId : Int)
    (pos : Nat) : Offer :=
  if (cms self).closed then .refusal
  else
    match (cms self).servers profileId with
    | none => .nothing
    | some svector =>
        match firstOf (serverAt rng svector moduleId pos) 100 with
        | none => .nothing
        | some ti => .server ti

/-- The network that the draw `j` hits, unless it is the one that asks or has nothing
to offer. -/
def networkAt (rng : Rng fp) (cms : Managers) (topCM : CMId) (profileId moduleId : Int)
    (pos j : Nat) : Option Offer :=
  match (cms topCM).subCM[rng.index (pos + j) (cms topCM).subCM.length]? with
  | none => none
  | some network =>
      if network.id = moduleId then none
      else
        match localOffer rng cms network.manager profileId (-1) (pos + j + 1) with
        | .nothing => none
        | o => some o

/-- The networks below the manager `topCM`. -/
def foreignOffer (rng : Rng fp) (cms : Managers) (topCM : CMId) (profileId moduleId : Int)
    (pos : Nat) : Offer :=
  if !(cms topCM).isTopCM then .refusal
  else (firstOf (networkAt rng cms topCM profileId moduleId pos) 100).getD .nothing

/-- The draws that a search of the manager `self` takes if it ends with nothing. -/
def tries (cms : Managers) (self : CMId) (profileId : Int) : Nat :=
  if ((cms self).servers profileId).isSome then 100 else 0

/-- What the manager `self` can offer, at the draw `pos`. -/
def offer (rng : Rng fp) (cms : Managers) (self : CMId) (profileId : Int) (isForeign : Bool)
    (moduleId : Int) (pos : Nat) : Offer :=
  match isForeign, (cms self).topCM with
  | true, some topCM =>
      if (cms topCM).isFlatNet then
        localOffer rng cms self profileId (Managers.getId self) pos
      else foreignOffer rng cms topCM profileId (Managers.getId self) pos
  | _, _ =>
      match localOffer rng cms self profileId moduleId pos, (cms self).topCM with
      | .nothing, none => .refusal
      | .nothing, some topCM =>
          if (cms topCM).isFlatNet then .nothing
          else
            foreignOffer rng cms topCM profileId (Managers.getId self)
              (pos + tries cms self profileId)
      | o, _ => o

/-! ## Probabilities make no difference -/

theorem serverAt_plain (rng : Rng fp) (svector : List ServerConnection) (moduleId : Int)
    (pos : Nat) :
    serverAt rng (svector.map ServerConnection.plain) moduleId pos =
      serverAt rng svector moduleId pos := by
  funext j
  unfold serverAt
  rw [List.length_map, List.getElem?_map]
  cases svector[rng.index (pos + j) svector.length]? <;> rfl

theorem localOffer_samePlain {cms cms' : Managers} (h : SamePlain cms cms') (rng : Rng fp)
    (self : CMId) (profileId moduleId : Int) (pos : Nat) :
    localOffer rng cms' self profileId moduleId pos =
      localOffer rng cms self profileId moduleId pos := by
  have hservers := h.servers self profileId
  unfold localOffer
  rw [h.closed self]
  cases hvec : (cms self).servers profileId with
  | none =>
      rw [hvec, Option.map_none, Option.map_eq_none_iff] at hservers
      rw [hservers]
  | some svector =>
      rw [hvec, Option.map_some, Option.map_eq_some_iff] at hservers
      obtain ⟨svector', hvec', hplain⟩ := hservers
      have hat : serverAt rng svector' moduleId pos = serverAt rng svector moduleId pos := by
        rw [← serverAt_plain rng svector', hplain, serverAt_plain]
      rw [hvec']
      dsimp only
      rw [hat]

theorem networkAt_samePlain {cms cms' : Managers} (h : SamePlain cms cms') (rng : Rng fp)
    (topCM : CMId) (profileId moduleId : Int) (pos : Nat) :
    networkAt rng cms' topCM profileId moduleId pos =
      networkAt rng cms topCM profileId moduleId pos := by
  funext j
  have hsub := h.subCM topCM
  have hlen : (cms' topCM).subCM.length = (cms topCM).subCM.length := by
    simpa using congrArg List.length hsub
  have hat := congrArg (fun l => l[rng.index (pos + j) (cms topCM).subCM.length]?) hsub
  simp only [List.getElem?_map] at hat
  unfold networkAt
  rw [hlen]
  cases hnet : (cms topCM).subCM[rng.index (pos + j) (cms topCM).subCM.length]? with
  | none =>
      rw [hnet, Option.map_none, Option.map_eq_none_iff] at hat
      rw [hat]
  | some network =>
      rw [hnet, Option.map_some, Option.map_eq_some_iff] at hat
      obtain ⟨network', hnet', hplain⟩ := hat
      have hid : network'.id = network.id :=
        show network'.plain.id = network.plain.id by rw [hplain]
      have hmanager : network'.manager = network.manager :=
        show network'.plain.manager = network.plain.manager by rw [hplain]
      rw [hnet']
      dsimp only
      rw [hid, hmanager, localOffer_samePlain h]

theorem foreignOffer_samePlain {cms cms' : Managers} (h : SamePlain cms cms') (rng : Rng fp)
    (topCM : CMId) (profileId moduleId : Int) (pos : Nat) :
    foreignOffer rng cms' topCM profileId moduleId pos =
      foreignOffer rng cms topCM profileId moduleId pos := by
  unfold foreignOffer
  rw [h.isTopCM topCM, networkAt_samePlain h]

/-! ## The selection functions -/

/-- A call ends as `o` says: `Missing` holds of its result if there is nothing, `Found` if
there is a server. -/
inductive EndsAs {α : Type} (Missing : α → Prop) (Found : α → TargetInfo → Prop) :
    Offer → Except Failure α → Prop
  | refusal (text : String) : EndsAs Missing Found .refusal (.error (.oppError text))
  | nothing (a : α) : Missing a → EndsAs Missing Found .nothing (.ok a)
  | server (a : α) (ti : TargetInfo) : Found a ti → EndsAs Missing Found (.server ti) (.ok a)

theorem EndsAs.mono {α : Type} {Missing Missing' : α → Prop} {Found Found' : α → TargetInfo → Prop}
    {o : Offer} {x : Except Failure α} (h : EndsAs Missing Found o x)
    (hmissing : ∀ a, Missing a → Missing' a) (hfound : ∀ a ti, Found a ti → Found' a ti) :
    EndsAs Missing' Found' o x := by
  cases h with
  | refusal text => exact .refusal text
  | nothing a ha => exact .nothing a (hmissing a ha)
  | server a ti ha => exact .server a ti (hfound a ti ha)

theorem EndsAs.post {α : Type} {Missing : α → Prop} {Found : α → TargetInfo → Prop} {P : α → Prop}
    {o : Offer} {x : Except Failure α} (h : EndsAs Missing Found o x)
    (hmissing : ∀ a, Missing a → P a) (hfound : ∀ a ti, Found a ti → P a) : Post P x := by
  cases h with
  | refusal text => exact Post.error _
  | nothing a ha => exact hmissing a ha
  | server a ti ha => exact hfound a ti ha

theorem EndsAs.bind {α β : Type} {Missing : α → Prop} {Found : α → TargetInfo → Prop}
    {Missing' : β → Prop} {Found' : β → TargetInfo → Prop} {o o' : Offer} {x : Except Failure α}
    {f : α → Except Failure β} (h : EndsAs Missing Found o x)
    (hrefusal : o = .refusal → o' = .refusal)
    (hmissing : ∀ a, o = .nothing → Missing a → EndsAs Missing' Found' o' (f a))
    (hfound : ∀ a ti, o = .server ti → Found a ti → EndsAs Missing' Found' o' (f a)) :
    EndsAs Missing' Found' o' (x >>= f) := by
  cases h with
  | refusal text =>
      rw [hrefusal rfl]
      exact .refusal text
  | nothing a ha => exact hmissing a rfl ha
  | server a ti ha => exact hfound a ti rfl ha

theorem serverAt_succ (rng : Rng fp) (svector : List ServerConnection) (moduleId : Int)
    (pos : Nat) :
    (fun j => serverAt rng svector moduleId pos (j + 1)) =
      serverAt rng svector moduleId (pos + 1) := by
  funext j
  unfold serverAt
  rw [show pos + (j + 1) = pos + 1 + j by omega]

/-- One run of the loop. -/
theorem serverLoop_succ (rng : Rng fp) {svector : List ServerConnection} (hne : svector ≠ [])
    (moduleId : Int) (ti : TargetInfo) (runs pos : Nat) :
    serverLoop rng svector moduleId (runs + 1) ti pos =
      match serverAt rng svector moduleId pos 0 with
      | none => serverLoop rng svector moduleId runs ti (pos + 1)
      | some found => .ok (false, found, pos + 1) := by
  have hlt := rng.index_lt pos svector.length (List.length_pos_iff.mpr hne)
  have hat := List.getElem?_eq_getElem hlt
  have hat0 : svector[rng.index (pos + 0) svector.length]? = _ := hat
  unfold serverAt
  rw [serverLoop, hat, hat0]
  dsimp only
  split <;> rfl

/-- The loop ends with the server of the first draw that hits. -/
theorem serverLoop_offer (rng : Rng fp) {svector : List ServerConnection} (hne : svector ≠ [])
    (moduleId : Int) (ti : TargetInfo) (runs pos : Nat) :
    match firstOf (serverAt rng svector moduleId pos) runs with
    | none => serverLoop rng svector moduleId runs ti pos = .ok (true, ti, pos + runs)
    | some found =>
        ∃ pos', serverLoop rng svector moduleId runs ti pos = .ok (false, found, pos') := by
  induction runs generalizing pos with
  | zero => rfl
  | succ runs ih =>
      rw [serverLoop_succ rng hne]
      cases hat : serverAt rng svector moduleId pos 0 with
      | none =>
          rw [firstOf_succ_of_none hat, serverAt_succ,
            show pos + (runs + 1) = pos + 1 + runs by omega]
          exact ih (pos + 1)
      | some found =>
          rw [firstOf_succ_of_some hat]
          exact ⟨pos + 1, rfl⟩

/-- An update that is made when a flag says so is one that succeeds. -/
theorem exists_ifDirty {cm : ConnectionManager} {x : Except Failure ConnectionManager}
    (dirty : Bool) (hx : ∃ cm', x = .ok cm' ∧ cm'.plain = cm.plain) :
    ∃ cm', (if dirty then x else .ok cm) = .ok cm' ∧ cm'.plain = cm.plain := by
  cases dirty with
  | true => exact hx
  | false => exact ⟨cm, rfl, rfl⟩

/-- Only a top manager above networks refuses to compute probabilities. -/
theorem exists_updateServerProbabilities {cm : ConnectionManager} (hclosed : ¬ cm.closed = true) :
    ∃ cm', cm.updateServerProbabilities = .ok cm' ∧ cm'.plain = cm.plain := by
  have hspec := updateServerProbabilities_spec cm
  unfold ConnectionManager.updateServerProbabilities at hspec ⊢
  rw [if_neg (show ¬ (cm.isTopCM && !cm.isFlatNet) = true from hclosed)] at hspec ⊢
  exact ⟨_, rfl, hspec⟩

theorem haveProfile_offer (rng : Rng fp) (self : CMId) (ti : TargetInfo) (profileId moduleId : Int)
    (sim : Sim) (hw : WellFormed sim.cms) :
    EndsAs
      (fun r => r.1 = false ∧ r.2.1 = .unspecified ∧ SamePlain sim.cms r.2.2.cms ∧
        r.2.2.pos = sim.pos + tries sim.cms self profileId)
      (fun r found => r.1 = true ∧ r.2.1 = found ∧ SamePlain sim.cms r.2.2.cms)
      (localOffer rng sim.cms self profileId moduleId sim.pos)
      (haveProfile rng self ti profileId moduleId sim) := by
  unfold haveProfile localOffer
  dsimp only
  by_cases hclosed : (sim.cms self).closed = true
  · rw [if_pos hclosed, if_pos (show ((sim.cms self).isTopCM && !(sim.cms self).isFlatNet) = true
      from hclosed)]
    exact .refusal _
  · rw [if_neg hclosed, if_neg (show ¬ ((sim.cms self).isTopCM && !(sim.cms self).isFlatNet) = true
      from hclosed)]
    -- the probabilities may be brought up to date first, which no offer depends on
    obtain ⟨cm, hok, hplain⟩ := exists_ifDirty (sim.cms self).serverProbabilityIsDirty
      (exists_updateServerProbabilities hclosed)
    rw [bind_eq hok rfl]
    have hsame : SamePlain sim.cms (sim.set self cm).cms := samePlain_set hplain
    have hservers := hsame.servers self profileId
    have hself : (sim.set self cm).cms self = cm := Function.update_self ..
    rw [hself] at hservers
    unfold tries
    cases hvec : (sim.cms self).servers profileId with
    | none =>
        rw [hvec, Option.map_none, Option.map_eq_none_iff] at hservers
        rw [hservers]
        exact .nothing _ ⟨rfl, rfl, hsame, rfl⟩
    | some svector =>
        rw [hvec, Option.map_some, Option.map_eq_some_iff] at hservers
        obtain ⟨svector', hvec', hplain'⟩ := hservers
        have hne : svector' ≠ [] := by
          rintro rfl
          exact ((hw self).servers profileId svector hvec).1 (List.map_eq_nil_iff.mp hplain'.symm)
        -- the draw is the same on the list with its new probabilities
        have hat : serverAt rng svector' moduleId sim.pos =
            serverAt rng svector moduleId sim.pos := by
          rw [← serverAt_plain rng svector', hplain', serverAt_plain]
        have hloop := serverLoop_offer rng hne moduleId ti 100 sim.pos
        rw [hat] at hloop
        rw [hvec']
        dsimp only
        change EndsAs _ _ _ (serverLoop rng svector' moduleId 100 ti sim.pos >>= _)
        cases hfirst : firstOf (serverAt rng svector moduleId sim.pos) 100 with
        | none =>
            rw [hfirst] at hloop
            rw [hloop]
            refine .nothing
              (false, TargetInfo.unspecified, { sim.set self cm with pos := sim.pos + 100 }) ?_
            exact ⟨rfl, rfl, hsame, rfl⟩
        | some found =>
            rw [hfirst] at hloop
            obtain ⟨pos', hloop⟩ := hloop
            rw [hloop]
            refine .server (true, found, { sim.set self cm with pos := pos' }) found ?_
            exact ⟨rfl, rfl, hsame⟩

/-- With the default id the first draw hits. -/
theorem tries_of_nothing {rng : Rng fp} {cms : Managers} (hw : WellFormed cms) {m : CMId}
    {profileId : Int} {pos : Nat} (h : localOffer rng cms m profileId (-1) pos = .nothing) :
    tries cms m profileId = 0 := by
  unfold tries
  cases hvec : (cms m).servers profileId with
  | none => rfl
  | some svector =>
      have hne := ((hw m).servers profileId svector hvec).1
      have hlt := rng.index_lt pos svector.length (List.length_pos_iff.mpr hne)
      have hat : svector[rng.index (pos + 0) svector.length]? = _ := List.getElem?_eq_getElem hlt
      have hhit : serverAt rng svector (-1) pos 0 = some
          ⟨svector[rng.index pos svector.length].address,
            svector[rng.index pos svector.length].port⟩ := by
        unfold serverAt
        rw [hat]
        exact if_neg fun hout => hout.2 rfl
      unfold localOffer at h
      split at h
      · cases h
      · rw [hvec] at h
        dsimp only at h
        rw [firstOf_succ_of_some hhit] at h
        cases h

theorem networkAt_succ (rng : Rng fp) (cms : Managers) (topCM : CMId) (profileId moduleId : Int)
    (pos : Nat) :
    (fun j => networkAt rng cms topCM profileId moduleId pos (j + 1)) =
      networkAt rng cms topCM profileId moduleId (pos + 1) := by
  funext j
  unfold networkAt
  rw [show pos + (j + 1) = pos + 1 + j by omega]

theorem networkAt_zero_of_own {rng : Rng fp} {cms : Managers} {topCM : CMId}
    {profileId moduleId : Int} {pos : Nat} {network : ForeignNetwork}
    (hat : (cms topCM).subCM[rng.index pos (cms topCM).subCM.length]? = some network)
    (hown : network.id = moduleId) :
    networkAt rng cms topCM profileId moduleId pos 0 = none := by
  unfold networkAt
  rw [Nat.add_zero, hat]
  exact if_pos hown

theorem networkAt_zero_of_other (profileId : Int) {rng : Rng fp} {cms : Managers} {topCM : CMId}
    {moduleId : Int} {pos : Nat} {network : ForeignNetwork}
    (hat : (cms topCM).subCM[rng.index pos (cms topCM).subCM.length]? = some network)
    (hother : ¬ network.id = moduleId) :
    networkAt rng cms topCM profileId moduleId pos 0 =
      match localOffer rng cms network.manager profileId (-1) (pos + 1) with
      | .nothing => none
      | o => some o := by
  unfold networkAt
  rw [Nat.add_zero, hat]
  exact if_neg hother

theorem networkLoop_offer (rng : Rng fp) (self : CMId) (profileId moduleId : Int) (runs : Nat) :
    ∀ (ti : TargetInfo) (sim : Sim), WellFormed sim.cms → (sim.cms self).isFlatNet = false →
      EndsAs (fun r => r.1 = true ∧ SamePlain sim.cms r.2.2.cms)
        (fun r found => r.1 = false ∧ r.2.1 = found ∧ SamePlain sim.cms r.2.2.cms)
        ((firstOf (networkAt rng sim.cms self profileId moduleId sim.pos) runs).getD .nothing)
        (networkLoop rng self profileId moduleId runs ti sim) := by
  induction runs with
  | zero =>
      intro ti sim _ _
      exact .nothing (true, ti, sim) ⟨rfl, .refl _⟩
  | succ runs ih =>
      intro ti sim hw hflat
      -- induction on the draws that are left: a miss goes on with the next draw
      have hlt := rng.index_lt sim.pos _ (List.length_pos_iff.mpr ((hw self).flat hflat))
      obtain ⟨network, hat⟩ : ∃ network,
          (sim.cms self).subCM[rng.index sim.pos (sim.cms self).subCM.length]? = some network :=
        ⟨_, List.getElem?_eq_getElem hlt⟩
      unfold networkLoop
      dsimp only
      rw [hat]
      dsimp only
      split
      · -- the own network is drawn: the draw is lost
        rename_i hown
        rw [firstOf_succ_of_none (networkAt_zero_of_own hat hown), networkAt_succ]
        exact ih ti { sim with pos := sim.pos + 1 } hw hflat
      · rename_i hother
        have hask := haveProfile_offer rng network.manager ti profileId (-1)
          { sim with pos := sim.pos + 1 } hw
        have hnet := networkAt_zero_of_other profileId hat hother
        refine hask.bind ?_ ?_ ?_
        · intro hoffer
          dsimp only at hoffer
          rw [hoffer] at hnet
          rw [firstOf_succ_of_some hnet]
          rfl
        · rintro ⟨found, ti', sim'⟩ hoffer ⟨rfl, -, hsame, hpos⟩
          dsimp only at hoffer hsame hpos
          rw [hoffer] at hnet
          rw [tries_of_nothing hw hoffer, Nat.add_zero] at hpos
          have hrest := ih ti' sim' (hw.samePlain hsame) ((hsame.isFlatNet self).trans hflat)
          rw [networkAt_samePlain hsame, hpos] at hrest
          rw [firstOf_succ_of_none hnet, networkAt_succ]
          refine hrest.mono ?_ ?_
          · rintro r ⟨hgo, hsame'⟩
            exact ⟨hgo, hsame.trans hsame'⟩
          · rintro r target ⟨hgo, htarget, hsame'⟩
            exact ⟨hgo, htarget, hsame.trans hsame'⟩
        · rintro ⟨found, ti', sim'⟩ target hoffer ⟨rfl, rfl, hsame⟩
          dsimp only at hoffer
          rw [hoffer] at hnet
          rw [firstOf_succ_of_some hnet]
          exact .server (false, ti', sim') ti' ⟨rfl, rfl, hsame⟩

theorem getForeignServer_offer (rng : Rng fp) (self : CMId) (ti : TargetInfo)
    (profileId moduleId : Int) (sim : Sim) (hw : WellFormed sim.cms)
    (hflat : (sim.cms self).isFlatNet = false) :
    EndsAs (fun r => r.1 = .unspecified ∧ SamePlain sim.cms r.2.cms)
      (fun r found => r.1 = found ∧ SamePlain sim.cms r.2.cms)
      (foreignOffer rng sim.cms self profileId moduleId sim.pos)
      (getForeignServer rng self ti profileId moduleId sim) := by
  unfold getForeignServer foreignOffer
  dsimp only
  by_cases htop : (!(sim.cms self).isTopCM) = true
  · rw [if_pos htop, if_pos htop]
    exact .refusal _
  · rw [if_neg htop, if_neg htop]
    have hupdate : ∃ cm', (sim.cms self).updateNetworkProbabilities = .ok cm' ∧
        cm'.plain = (sim.cms self).plain := by
      have hspec := updateNetworkProbabilities_spec (sim.cms self)
      unfold ConnectionManager.updateNetworkProbabilities at hspec ⊢
      rw [if_neg htop] at hspec ⊢
      exact ⟨_, rfl, hspec⟩
    obtain ⟨cm, hok, hplain⟩ := exists_ifDirty (sim.cms self).networkProbabilityIsDirty hupdate
    rw [bind_eq hok rfl]
    have hsame : SamePlain sim.cms (sim.set self cm).cms := samePlain_set hplain
    have hloop := networkLoop_offer rng self profileId moduleId 100 ti (sim.set self cm)
      (hw.samePlain hsame) ((hsame.isFlatNet self).trans hflat)
    rw [networkAt_samePlain hsame, show (sim.set self cm).pos = sim.pos from rfl] at hloop
    refine hloop.bind id ?_ ?_
    · rintro ⟨goOn, ti', sim'⟩ hoffer ⟨rfl, hsame'⟩
      rw [hoffer]
      exact .nothing (TargetInfo.unspecified, sim') ⟨rfl, hsame.trans hsame'⟩
    · rintro ⟨goOn, ti', sim'⟩ target hoffer ⟨rfl, rfl, hsame'⟩
      rw [hoffer]
      exact .server (ti', sim') ti' ⟨rfl, hsame.trans hsame'⟩

/-- A choice of a server ends as `o` says, with the target it says. -/
abbrev Chosen (sim : Sim) : Offer → Except Failure (Via × TargetInfo × Sim) → Prop :=
  EndsAs (fun r => r.2.1 = .unspecified ∧ SamePlain sim.cms r.2.2.cms)
    (fun r found => r.2.1 = found ∧ SamePlain sim.cms r.2.2.cms)

/-- The networks are asked, by a manager that is not the only one. -/
theorem foreignChoice_offer (rng : Rng fp) (self topCM : CMId) (ti : TargetInfo) (profileId : Int)
    (sim sim' : Sim) (hw : WellFormed sim.cms) (hsame : SamePlain sim.cms sim'.cms)
    (hflat : ¬ (sim'.cms topCM).isFlatNet = true) :
    Chosen sim (foreignOffer rng sim.cms topCM profileId (Managers.getId self) sim'.pos)
      (getForeignServer rng topCM ti profileId (Managers.getId self) sim' >>= fun r =>
        pure (Via.getForeignServer, r.1, r.2)) := by
  have hask := getForeignServer_offer rng topCM ti profileId (Managers.getId self) sim'
    (hw.samePlain hsame) (Bool.eq_false_iff.mpr hflat)
  rw [foreignOffer_samePlain hsame] at hask
  refine hask.bind id ?_ ?_
  · rintro r hoffer ⟨hti, hsame'⟩
    rw [hoffer]
    exact .nothing (Via.getForeignServer, r.1, r.2) ⟨hti, hsame.trans hsame'⟩
  · rintro r target hoffer ⟨hti, hsame'⟩
    rw [hoffer]
    exact .server (Via.getForeignServer, r.1, r.2) target ⟨hti, hsame.trans hsame'⟩

/-- The manager's own servers are asked first, then the networks. -/
theorem localChoice_offer (rng : Rng fp) (self : CMId) (ti : TargetInfo) (profileId moduleId : Int)
    (sim : Sim) (hw : WellFormed sim.cms) :
    Chosen sim (offer rng sim.cms self profileId false moduleId sim.pos)
      (chooseServer rng self ti profileId false moduleId sim) := by
  unfold chooseServer offer
  dsimp only
  refine (haveProfile_offer rng self ti profileId moduleId sim hw).bind ?_ ?_ ?_
  · intro hoffer
    rw [hoffer]
  · rintro ⟨found, ti', sim'⟩ hoffer ⟨rfl, rfl, hsame, hpos⟩
    dsimp only at hsame hpos
    rw [hoffer]
    dsimp only
    rw [if_neg Bool.false_ne_true, hsame.topCM]
    cases htop : (sim.cms self).topCM with
    | none => exact .refusal _
    | some topCM =>
        dsimp only
        rw [← hsame.isFlatNet topCM]
        split
        · exact .nothing (_, TargetInfo.unspecified, sim') ⟨rfl, hsame⟩
        · rename_i hflat
          rw [← hpos]
          exact foreignChoice_offer rng self topCM _ profileId sim sim' hw hsame hflat
  · rintro ⟨found, ti', sim'⟩ target hoffer ⟨rfl, rfl, hsame⟩
    rw [hoffer]
    exact .server (_, ti', sim') ti' ⟨rfl, hsame⟩

theorem chooseServer_offer (rng : Rng fp) (self : CMId) (ti : TargetInfo) (profileId : Int)
    (isForeign : Bool) (moduleId : Int) (sim : Sim) (hw : WellFormed sim.cms) :
    Chosen sim (offer rng sim.cms self profileId isForeign moduleId sim.pos)
      (chooseServer rng self ti profileId isForeign moduleId sim) := by
  have hlocal := localChoice_offer rng self ti profileId moduleId sim hw
  cases isForeign with
  | false => exact hlocal
  | true =>
      cases htop : (sim.cms self).topCM with
      | none =>
          unfold chooseServer offer at hlocal ⊢
          rw [htop] at hlocal ⊢
          exact hlocal
      | some topCM =>
          unfold chooseServer offer
          rw [htop]
          dsimp only
          split
          · refine (haveProfile_offer rng self ti profileId (Managers.getId self) sim hw).bind id
              ?_ ?_
            · rintro r hoffer ⟨-, hti, hsame, -⟩
              rw [hoffer]
              exact .nothing (_, r.2.1, r.2.2) ⟨hti, hsame⟩
            · rintro r target hoffer ⟨-, hti, hsame⟩
              rw [hoffer]
              exact .server (_, r.2.1, r.2.2) target ⟨hti, hsame⟩
          · rename_i hflat
            exact foreignChoice_offer rng self topCM ti profileId sim sim hw (.refl _) hflat

theorem getFixServer_offer (rng : Rng fp) {profiles : List TrafficProfile} (self : CMId)
    (ti : TargetInfo) {tp p : TrafficProfile} (moduleId : Int) (sim : Sim) (hw : WellFormed sim.cms)
    (hp : scanFixProfile tp.profileID profiles = some p) :
    EndsAs (fun r => r.tp = p ∧ r.ti = .unspecified) (fun r found => r.tp = p ∧ r.ti = found)
      (offer rng sim.cms self p.profileID (decideForeign p (rng.unit sim.pos) false) moduleId
        (sim.pos + 1))
      (getFixServer rng profiles self ti tp moduleId sim) := by
  unfold getFixServer getFixTrafficProfile
  rw [hp]
  refine (chooseServer_offer rng self ti p.profileID (decideForeign p (rng.unit sim.pos) false)
    moduleId { sim with pos := sim.pos + 1 } hw).bind id ?_ ?_
  · rintro ⟨via, ti', sim'⟩ hoffer ⟨hti, -⟩
    rw [hoffer]
    refine .nothing (Selection.mk via ti' p none sim') ?_
    exact ⟨rfl, hti⟩
  · rintro ⟨via, ti', sim'⟩ found hoffer ⟨hti, -⟩
    rw [hoffer]
    refine .server (Selection.mk via ti' p none sim') found ?_
    exact ⟨rfl, hti⟩

/-! ## Servers that are offered -/

theorem localOffer_registered {rng : Rng fp} {cms : Managers} (hw : WellFormed cms) {self : CMId}
    {profileId moduleId : Int} {pos : Nat} {ti : TargetInfo}
    (h : localOffer rng cms self profileId moduleId pos = .server ti) :
    ∃ id, Registered cms self profileId ti id := by
  unfold localOffer at h
  split at h
  · cases h
  · cases hvec : (cms self).servers profileId with
    | none =>
        rw [hvec] at h
        cases h
    | some svector =>
        rw [hvec] at h
        dsimp only at h
        cases hfirst : firstOf (serverAt rng svector moduleId pos) 100 with
        | none =>
            rw [hfirst] at h
            cases h
        | some found =>
            rw [hfirst] at h
            cases h
            obtain ⟨j, -, hat⟩ := exists_of_firstOf hfirst
            unfold serverAt at hat
            split at hat
            · cases hat
            · rename_i s hs
              split at hat
              · cases hat
              · cases hat
                have hmem := List.mem_of_getElem? hs
                obtain ⟨hprofile, hmanager⟩ := ((hw self).servers profileId svector hvec).2 s hmem
                exact ⟨s.id, svector, s, hvec, hmem, hprofile, hmanager, rfl, rfl⟩

theorem foreignOffer_registered {rng : Rng fp} {cms : Managers} (hw : WellFormed cms) {topCM : CMId}
    {profileId moduleId : Int} {pos : Nat} {ti : TargetInfo}
    (h : foreignOffer rng cms topCM profileId moduleId pos = .server ti) :
    ∃ owner id, Registered cms owner profileId ti id := by
  unfold foreignOffer at h
  split at h
  · cases h
  · cases hfirst : firstOf (networkAt rng cms topCM profileId moduleId pos) 100 with
    | none =>
        rw [hfirst] at h
        cases h
    | some o =>
        rw [hfirst] at h
        obtain ⟨j, -, hat⟩ := exists_of_firstOf hfirst
        rw [show o = .server ti from h] at hat
        unfold networkAt at hat
        split at hat
        · cases hat
        · rename_i network hnet
          split at hat
          · cases hat
          · split at hat
            · cases hat
            · exact ⟨network.manager, localOffer_registered hw (Option.some.inj hat)⟩

theorem offer_registered {rng : Rng fp} {cms : Managers} (hw : WellFormed cms) {self : CMId}
    {profileId moduleId : Int} {isForeign : Bool} {pos : Nat} {ti : TargetInfo}
    (h : offer rng cms self profileId isForeign moduleId pos = .server ti) :
    ∃ owner id, Registered cms owner profileId ti id := by
  unfold offer at h
  split at h
  · split at h
    · exact ⟨self, localOffer_registered hw h⟩
    · exact foreignOffer_registered hw h
  · split at h
    · cases h
    · split at h
      · cases h
      · exact foreignOffer_registered hw h
    · exact ⟨self, localOffer_registered hw h⟩

/-! ## The managers in service -/

/-- What the managers are called for, in the course of a simulation. -/
inductive Call (fp : Doubles)
  | registration (a : Registration)
  | getServer (rng : Rng fp) (fuel : Nat) (profiles : List TrafficProfile) (self : CMId)
      (ti : TargetInfo) (tp : TrafficProfile) (except moduleId : Int) (pos : Nat)
  | getFixServer (rng : Rng fp) (profiles : List TrafficProfile) (self : CMId) (ti : TargetInfo)
      (tp : TrafficProfile) (moduleId : Int) (pos : Nat)

/-- The managers from their construction on; a call that ends in an error is no step. -/
def service (fp : Doubles) (h : Hierarchy) : TSys Managers (Call fp) where
  init := fun cms => cms = fun _ => {}
  step := fun cms call cms' =>
    match call with
    | .registration a => cms' = a.apply h cms
    | .getServer rng fuel profiles self ti tp except moduleId pos =>
        ∃ r, Traffic.getServer rng fuel profiles self ti tp except moduleId ⟨cms, pos⟩ = .ok r ∧
          r.sim.cms = cms'
    | .getFixServer rng profiles self ti tp moduleId pos =>
        ∃ r, Traffic.getFixServer rng profiles self ti tp moduleId ⟨cms, pos⟩ = .ok r ∧
          r.sim.cms = cms'

theorem chooseServer_same (rng : Rng fp) (self : CMId) (ti : TargetInfo) (profileId : Int)
    (isForeign : Bool) (moduleId : Int) (sim : Sim) (hw : WellFormed sim.cms) :
    Post (fun r => SamePlain sim.cms r.2.2.cms)
      (chooseServer rng self ti profileId isForeign moduleId sim) :=
  (chooseServer_offer rng self ti profileId isForeign moduleId sim hw).post
    (fun _ h => h.2) (fun _ _ h => h.2)

theorem getServer_same (rng : Rng fp) (fuel : Nat) (profiles : List TrafficProfile) (self : CMId)
    (ti : TargetInfo) (tp : TrafficProfile) (except moduleId : Int) (sim : Sim)
    (hw : WellFormed sim.cms) :
    Post (fun r => SamePlain sim.cms r.sim.cms)
      (getServer rng fuel profiles self ti tp except moduleId sim) := by
  have hchoose (drawn : TrafficProfile × Bool × Nat) :
      Post (fun r : Selection => SamePlain sim.cms r.sim.cms)
        (chooseServer rng self ti drawn.1.profileID drawn.2.1 moduleId
            { sim with pos := drawn.2.2 } >>=
          fun c => pure { via := c.1, ti := c.2.1, tp := drawn.1, except := some drawn.1.profileID,
                          sim := c.2.2 }) :=
    (chooseServer_same rng self ti _ _ moduleId { sim with pos := drawn.2.2 } hw).bind fun _ h => h
  unfold getServer
  split
  · exact Post.bind_any fun drawn => hchoose (drawn.1, drawn.2, sim.pos + 2)
  · exact Post.bind_any hchoose

theorem getFixServer_same (rng : Rng fp) (profiles : List TrafficProfile) (self : CMId)
    (ti : TargetInfo) (tp : TrafficProfile) (moduleId : Int) (sim : Sim) (hw : WellFormed sim.cms) :
    Post (fun r => SamePlain sim.cms r.sim.cms)
      (getFixServer rng profiles self ti tp moduleId sim) := by
  unfold getFixServer
  refine Post.bind_any fun found => ?_
  have hw' : WellFormed { sim with pos := sim.pos + 1 }.cms := hw
  exact (chooseServer_same rng self ti _ _ moduleId _ hw').bind fun _ h => h

theorem service_wellFormed (hier : Hierarchy) : (service fp hier).Invariant WellFormed := by
  refine TSys.Inductive.invariant ⟨?_, ?_⟩
  · rintro _ rfl
    exact wellFormed_init
  · intro cms call cms' hw hstep
    cases call with
    | registration a =>
        obtain rfl : cms' = a.apply hier cms := hstep
        exact wellFormed_apply hier hw a
    | getServer rng fuel profiles self ti tp except moduleId pos =>
        obtain ⟨r, hok, rfl⟩ := hstep
        exact hw.samePlain
          ((getServer_same rng fuel profiles self ti tp except moduleId ⟨cms, pos⟩ hw).of_ok hok)
    | getFixServer rng profiles self ti tp moduleId pos =>
        obtain ⟨r, hok, rfl⟩ := hstep
        exact hw.samePlain
          ((getFixServer_same rng profiles self ti tp moduleId ⟨cms, pos⟩ hw).of_ok hok)

end ScadaSim.Traffic
