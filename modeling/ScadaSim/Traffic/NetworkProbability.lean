import Mathlib.Algebra.BigOperators.Ring.List
import ScadaSim.Lib.Outcome
import ScadaSim.Lib.TSys
import ScadaSim.Traffic.ConnectionManager

/-!
# The selection probabilities of the ASs

The manager of the network brings the probabilities of the ASs up to date when it is
asked for a foreign server and there are new ones. `updateNetworkProbabilities` divides
what an earlier update has left, where its twin for the servers starts from the ratios.
`always_normalised_iff_guarded`: that is right as long as no update has been made.
-/

namespace ScadaSim.Traffic

open Lib

variable {fp : Doubles}

def ratioSum (subCM : List ForeignNetwork) : Rat := (subCM.map fun n => (n.ratio : Rat)).sum

/-- Each AS has the probability that its ratio gives it. -/
def Shared (subCM : List ForeignNetwork) : Prop :=
  (∀ n ∈ subCM, n.probability = n.ratio / ratioSum subCM) ∧
    (subCM.map fun n => n.probability).sum = 1

/-- Up to date, the networks share out the probability. -/
def ConnectionManager.Normalised (cm : ConnectionManager) : Prop :=
  cm.networkProbabilityIsDirty = false → cm.subCM ≠ [] → Shared cm.subCM

/-- Calls to the manager of the network. -/
inductive NetworkCall
  | addSubCM (other : CMId) (id : Int)
  /-- With a network that is made for the call. -/
  | addNetwork (c : CMId) (moduleId ratio : Int)
  | getForeignServer (rng : Rng .exact) (ti : TargetInfo) (profileId moduleId : Int) (pos : Nat)

/-- A call that ends in an error is no step. -/
def NetworkCall.apply (self : CMId) (cms : Managers) : NetworkCall → Option Managers
  | .addSubCM other id => some (cms.addSubCM self other id)
  | .addNetwork c moduleId ratio => some (cms.addNetwork self (.new c moduleId ratio self))
  | .getForeignServer rng ti profileId moduleId pos =>
      match Traffic.getForeignServer rng self ti profileId moduleId ⟨cms, pos⟩ with
      | .error _ => none
      | .ok r => some r.2.cms

/-- The manager `self` of the network, from its construction on, among any others. -/
def networks (self : CMId) : TSys Managers NetworkCall where
  init := fun cms => (cms self).subCM = [] ∧ (cms self).networkProbabilityIsDirty = false
  step := fun cms call cms' => call.apply self cms = some cms'

/-- An update finds in each entry the probability that it was made with, which is its
ratio, and the ratios are good for a division. -/
def Untouched (self : CMId) (cms : Managers) : NetworkCall → Prop
  | .getForeignServer _ _ _ _ _ =>
      (cms self).networkProbabilityIsDirty = true → (cms self).subCM ≠ [] →
        ratioSum (cms self).subCM ≠ 0 ∧ ∀ n ∈ (cms self).subCM, n.probability = n.ratio
  | _ => True

/-! ## What the calls do to the networks -/

/-- The managers have the same networks. -/
def SameNetworks (cms cms' : Managers) : Prop :=
  ∀ m, (cms' m).subCM = (cms m).subCM ∧
    (cms' m).networkProbabilityIsDirty = (cms m).networkProbabilityIsDirty

theorem SameNetworks.refl (cms : Managers) : SameNetworks cms cms := fun _ => ⟨rfl, rfl⟩

theorem SameNetworks.trans {cms cms' cms'' : Managers} (h : SameNetworks cms cms')
    (h' : SameNetworks cms' cms'') : SameNetworks cms cms'' :=
  fun m => ⟨(h' m).1.trans (h m).1, (h' m).2.trans (h m).2⟩

theorem sameNetworks_set {sim : Sim} {m : CMId} {cm : ConnectionManager}
    (hsub : cm.subCM = (sim.cms m).subCM)
    (hdirty : cm.networkProbabilityIsDirty = (sim.cms m).networkProbabilityIsDirty) :
    SameNetworks sim.cms (sim.set m cm).cms := by
  intro n
  unfold Sim.set
  by_cases hn : n = m
  · subst hn
    simp [hsub, hdirty]
  · simp [hn]

theorem updateServerProbabilities_networks (cm : ConnectionManager) :
    Post (fun cm' => cm'.subCM = cm.subCM ∧
      cm'.networkProbabilityIsDirty = cm.networkProbabilityIsDirty) cm.updateServerProbabilities := by
  unfold ConnectionManager.updateServerProbabilities
  split
  · exact Post.error _
  · exact ⟨rfl, rfl⟩

theorem haveProfile_networks (rng : Rng fp) (self : CMId) (ti : TargetInfo)
    (profileId moduleId : Int) (sim : Sim) :
    Post (fun r => SameNetworks sim.cms r.2.2.cms)
      (haveProfile rng self ti profileId moduleId sim) := by
  unfold haveProfile
  dsimp only
  split
  · exact Post.error _
  · have hupdate : Post (fun cm' => cm'.subCM = (sim.cms self).subCM ∧
        cm'.networkProbabilityIsDirty = (sim.cms self).networkProbabilityIsDirty)
        (if (sim.cms self).serverProbabilityIsDirty then (sim.cms self).updateServerProbabilities
          else .ok (sim.cms self)) := by
      split
      · exact updateServerProbabilities_networks _
      · exact ⟨rfl, rfl⟩
    refine hupdate.bind fun cm hcm => ?_
    have hset := sameNetworks_set hcm.1 hcm.2
    split
    · exact hset
    · refine Post.bind_any fun drawn => ?_
      split
      · exact hset
      · exact hset

theorem networkLoop_networks (rng : Rng fp) (self : CMId) (profileId moduleId : Int) (runs : Nat)
    (ti : TargetInfo) (sim : Sim) :
    Post (fun r => SameNetworks sim.cms r.2.2.cms)
      (networkLoop rng self profileId moduleId runs ti sim) := by
  induction runs generalizing ti sim with
  | zero => exact SameNetworks.refl _
  | succ runs ih =>
      unfold networkLoop
      dsimp only
      split
      · exact Post.error _
      · rename_i network _
        split
        · exact ih ti { sim with pos := sim.pos + 1 }
        · have hask := haveProfile_networks rng network.manager ti profileId (-1)
            { sim with pos := sim.pos + 1 }
          refine hask.bind fun r hr => ?_
          split
          · exact (ih r.2.1 r.2.2).mono fun _ h => hr.trans h
          · exact hr

/-- What an update leaves. -/
def updated (subCM : List ForeignNetwork) : List ForeignNetwork :=
  subCM.map fun n => { n with probability := n.probability / ratioSum subCM }

/-- The networks of a manager that has been asked for a foreign server. -/
def ConnectionManager.broughtUpToDate (cm : ConnectionManager) : List ForeignNetwork :=
  if cm.networkProbabilityIsDirty then updated cm.subCM else cm.subCM

theorem getForeignServer_networks (rng : Rng fp) (self : CMId) (ti : TargetInfo)
    (profileId moduleId : Int) (sim : Sim) :
    Post (fun r => (r.2.cms self).networkProbabilityIsDirty = false ∧
      (r.2.cms self).subCM = (sim.cms self).broughtUpToDate)
      (getForeignServer rng self ti profileId moduleId sim) := by
  unfold getForeignServer
  dsimp only
  split
  · exact Post.error _
  · rename_i htop
    have hupdate : Post (fun cm' => cm'.networkProbabilityIsDirty = false ∧
        cm'.subCM = (sim.cms self).broughtUpToDate)
        (if (sim.cms self).networkProbabilityIsDirty then
            (sim.cms self).updateNetworkProbabilities
          else .ok (sim.cms self)) := by
      unfold ConnectionManager.broughtUpToDate
      by_cases hdirty : (sim.cms self).networkProbabilityIsDirty = true
      · rw [if_pos hdirty, if_pos hdirty]
        unfold ConnectionManager.updateNetworkProbabilities
        rw [if_neg htop]
        exact ⟨rfl, rfl⟩
      · rw [if_neg hdirty, if_neg hdirty]
        exact ⟨Bool.eq_false_iff.mpr hdirty, rfl⟩
    refine hupdate.bind fun cm hcm => ?_
    have hself : (sim.set self cm).cms self = cm := Function.update_self ..
    refine (networkLoop_networks rng self profileId moduleId 100 ti (sim.set self cm)).bind
      fun r hr => ?_
    have hsame := hr self
    rw [hself] at hsame
    split
    · exact ⟨hsame.2.trans hcm.1, hsame.1.trans hcm.2⟩
    · exact ⟨hsame.2.trans hcm.1, hsame.1.trans hcm.2⟩

/-! ## Every run -/

theorem ratioSum_updated (subCM : List ForeignNetwork) :
    ratioSum (updated subCM) = ratioSum subCM := by
  unfold ratioSum updated
  rw [List.map_map]
  rfl

/-- An update is right when it finds the ratios. -/
theorem shared_updated_iff (subCM : List ForeignNetwork) :
    Shared (updated subCM) ↔
      ratioSum subCM ≠ 0 ∧ ∀ n ∈ subCM, n.probability = n.ratio := by
  have hsum : ((updated subCM).map fun n => n.probability).sum =
      (subCM.map fun n => n.probability).sum / ratioSum subCM := by
    unfold updated
    rw [List.map_map, div_eq_mul_inv, ← List.sum_map_mul_right]
    rfl
  have hshare : (∀ n ∈ updated subCM, n.probability = n.ratio / ratioSum (updated subCM)) ↔
      ∀ n ∈ subCM, n.probability / ratioSum subCM = n.ratio / ratioSum subCM := by
    rw [ratioSum_updated]
    unfold updated
    simp
  unfold Shared
  rw [hshare, hsum]
  constructor
  · rintro ⟨hshares, hone⟩
    have hne : ratioSum subCM ≠ 0 := by
      intro hzero
      rw [hzero, div_zero] at hone
      exact zero_ne_one hone
    exact ⟨hne, fun n hn => (div_left_inj' hne).mp (hshares n hn)⟩
  · rintro ⟨hne, hratio⟩
    refine ⟨fun n hn => by rw [hratio n hn], ?_⟩
    rw [List.map_congr_left hratio]
    exact div_self hne

theorem addNetwork_normalised {self : CMId} {cms : Managers} (n : ForeignNetwork)
    (hnormal : (cms self).Normalised) : (cms.addNetwork self n self).Normalised := by
  unfold Managers.addNetwork
  split
  · exact hnormal
  · intro hdirty
    rw [Function.update_self] at hdirty
    cases hdirty

theorem apply_getForeignServer {self : CMId} {cms cms' : Managers} {rng : Rng .exact}
    {ti : TargetInfo} {profileId moduleId : Int} {pos : Nat}
    (h : NetworkCall.apply self cms (.getForeignServer rng ti profileId moduleId pos) = some cms') :
    ∃ r, getForeignServer rng self ti profileId moduleId ⟨cms, pos⟩ = .ok r ∧ r.2.cms = cms' := by
  rw [NetworkCall.apply] at h
  cases hask : getForeignServer rng self ti profileId moduleId ⟨cms, pos⟩ with
  | error e =>
      rw [hask] at h
      cases h
  | ok r =>
      rw [hask] at h
      exact ⟨r, rfl, Option.some.inj h⟩

theorem normalised_step {self : CMId} {cms cms' : Managers} {call : NetworkCall}
    (hnormal : (cms self).Normalised) (hstep : (networks self).step cms call cms') :
    (cms' self).Normalised ↔ Untouched self cms call := by
  cases call with
  | addSubCM other id =>
      cases hstep
      exact iff_of_true (addNetwork_normalised _ hnormal) True.intro
  | addNetwork c moduleId ratio =>
      cases hstep
      exact iff_of_true (addNetwork_normalised _ hnormal) True.intro
  | getForeignServer rng ti profileId moduleId pos =>
      obtain ⟨hclean, hsub⟩ : (cms' self).networkProbabilityIsDirty = false ∧
          (cms' self).subCM = (cms self).broughtUpToDate := by
        obtain ⟨r, hr, rfl⟩ := apply_getForeignServer hstep
        exact (getForeignServer_networks rng self ti profileId moduleId ⟨cms, pos⟩).of_ok hr
      unfold ConnectionManager.broughtUpToDate at hsub
      unfold ConnectionManager.Normalised Untouched
      rw [hclean, hsub]
      by_cases hdirty : (cms self).networkProbabilityIsDirty = true
      · rw [if_pos hdirty, shared_updated_iff]
        have hempty : updated (cms self).subCM ≠ [] ↔ (cms self).subCM ≠ [] := by
          unfold updated
          rw [ne_eq, List.map_eq_nil_iff]
        rw [hempty]
        exact ⟨fun h _ => h rfl, fun h _ => h hdirty⟩
      · rw [if_neg hdirty]
        refine iff_of_true (fun _ => hnormal (Bool.eq_false_iff.mpr hdirty)) fun h => ?_
        exact absurd h hdirty

/-- The probabilities are normalised whenever they are up to date just when no update finds
what an earlier one has left. -/
theorem always_normalised_iff_guarded {self : CMId} {cms : Managers}
    (hinit : (networks self).init cms) {tr : List (NetworkCall × Managers)}
    (hrun : (networks self).Run cms tr) :
    TSys.Always (fun cms => (cms self).Normalised) cms tr ↔
      TSys.Guarded (Untouched self) cms tr := by
  refine hrun.always_iff_guarded (I := fun _ => True) (fun _ _ _ _ _ => True.intro)
    (fun _ _ _ _ => normalised_step) True.intro ?_
  intro _ hne
  exact absurd hinit.1 hne

/-! ### Two ASs, and a third one that comes later -/

/-- The manager of the network is number 0. -/
def newNetwork : Managers := fun m => { isTopCM := m == 0 }

theorem lastEntry_lt (_ n : Nat) (hn : 0 < n) : n - 1 < n := Nat.sub_one_lt_of_lt hn

/-- Draws the last entry of every vector. -/
def lastEntry : Rng .exact where
  index := fun _ n => n - 1
  unit := fun _ => 0
  index_lt := lastEntry_lt
  unit_drawn := fun _ => ⟨le_rfl, zero_lt_one⟩

/-- Each time the AS that is registered last asks for a server outside. -/
def lateAs : List NetworkCall :=
  [.addSubCM 1 1, .addSubCM 2 2, .getForeignServer lastEntry .unspecified 5 2 0,
    .addSubCM 3 3, .getForeignServer lastEntry .unspecified 5 3 0]

theorem run_lateAs : (networks 0).Run newNetwork
    (TSys.trace (fun cms call => NetworkCall.apply 0 cms call) newNetwork lateAs) :=
  TSys.run_trace (fun _ _ _ h => h) newNetwork lateAs

/-- After the first update the two ASs have half each, after the second a sixth. -/
theorem probabilities_lateAs : ((TSys.finish newNetwork
    (TSys.trace (fun cms call => NetworkCall.apply 0 cms call) newNetwork lateAs) 0).subCM.map
      fun n => n.probability) = [1 / 6, 1 / 6, 1 / 3] := by decide +kernel

/-- Three ASs of one ratio, with the sum of their probabilities at two thirds. -/
theorem late_as_not_normalised :
    (networks 0).init newNetwork ∧
      (networks 0).Run newNetwork
        (TSys.trace (fun cms call => NetworkCall.apply 0 cms call) newNetwork lateAs) ∧
      ¬ TSys.Always (fun cms => (cms 0).Normalised) newNetwork
        (TSys.trace (fun cms call => NetworkCall.apply 0 cms call) newNetwork lateAs) := by
  refine ⟨⟨rfl, rfl⟩, run_lateAs, fun h => ?_⟩
  have hclean : (TSys.finish newNetwork (TSys.trace (fun cms call => NetworkCall.apply 0 cms call)
      newNetwork lateAs) 0).networkProbabilityIsDirty = false := by decide +kernel
  have hsubCM : (TSys.finish newNetwork (TSys.trace (fun cms call => NetworkCall.apply 0 cms call)
      newNetwork lateAs) 0).subCM ≠ [] := by decide +kernel
  have hone := (h.last hclean hsubCM).2
  rw [probabilities_lateAs] at hone
  exact absurd hone (by decide +kernel)

/-- The first update finds the ratios. -/
theorem normalised_firstUpdate : TSys.Always (fun cms => (cms 0).Normalised) newNetwork
    (TSys.trace (fun cms call => NetworkCall.apply 0 cms call) newNetwork (lateAs.take 3)) :=
  (always_normalised_iff_guarded ⟨rfl, rfl⟩
    (TSys.run_trace (fun _ _ _ h => h) newNetwork (lateAs.take 3))).mpr ⟨True.intro, True.intro,
      fun _ _ => ⟨by decide +kernel, by decide +kernel⟩, True.intro⟩

end ScadaSim.Traffic
