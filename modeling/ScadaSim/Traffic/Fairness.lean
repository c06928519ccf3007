import ScadaSim.Lib.Rejection
import ScadaSim.Traffic.Offer

/-!
# All servers have the same chance

A search draws again when it has hit what it leaves out, a hundred times at most. Counted
over all sequences of draws, each as likely as the others, every server that is not left
out comes out as often as the others, and every AS too: `haveProfile_fair` and
`getForeignServer_fair`. How often a search fails is known exactly.
-/

namespace ScadaSim.Traffic

open Lib Lib.Rejection Finset

/-- A generator for each sequence of hundred numbers below `n` that can be drawn next. -/
structure Sequences (n pos : Nat) where
  rng : (Fin 100 → Fin n) → Rng .exact
  index_eq : ∀ d (j : Fin 100), (rng d).index (pos + j) n = d j

theorem sequences_unit (_ : Nat) : (0 : Rat) ≤ 0 ∧ (0 : Rat) < 1 := ⟨le_rfl, zero_lt_one⟩

/-- There are such generators for all `n`. -/
def sequences (n pos : Nat) : Sequences n pos where
  rng d :=
    { index := fun k m => if h : m = n ∧ k - pos < 100 then d ⟨k - pos, h.2⟩ else 0
      unit := fun _ => 0
      index_lt := fun k m hm => by
        split
        · rename_i h
          exact h.1.symm ▸ (d ⟨k - pos, h.2⟩).isLt
        · exact hm
      unit_drawn := sequences_unit }
  index_eq d j := by
    have hj : n = n ∧ pos + j - pos < 100 := ⟨rfl, by omega⟩
    dsimp only
    rw [dif_pos hj]
    congr 2
    exact Fin.ext (by show pos + j - pos = j; omega)

/-- The target that the server makes, unless it is the one to leave out. -/
def ServerConnection.hit (moduleId : Int) (s : ServerConnection) : Option TargetInfo :=
  if s.id = moduleId ∧ moduleId ≠ -1 then none else some ⟨s.address, s.port⟩

/-- The answer of `haveProfile`: a target, or that there is none. -/
def answer : Except Failure (Bool × TargetInfo × Sim) → Option (Option TargetInfo)
  | .ok (true, ti, _) => some (some ti)
  | .ok (false, _, _) => some none
  | .error _ => none

def Offer.answer : Offer → Option (Option TargetInfo)
  | .refusal => none
  | .nothing => some none
  | .server ti => some (some ti)

theorem answer_of_offer {o : Offer} {x : Except Failure (Bool × TargetInfo × Sim)}
    {Missing : Bool × TargetInfo × Sim → Prop} {Found : Bool × TargetInfo × Sim → TargetInfo → Prop}
    (h : EndsAs Missing Found o x) (hmissing : ∀ a, Missing a → a.1 = false)
    (hfound : ∀ a ti, Found a ti → a.1 = true ∧ a.2.1 = ti) : Traffic.answer x = o.answer := by
  cases h with
  | refusal text => rfl
  | nothing a ha =>
      obtain ⟨found, ti, sim⟩ := a
      obtain rfl : found = false := hmissing _ ha
      rfl
  | server a ti ha =>
      obtain ⟨found, ti', sim⟩ := a
      obtain ⟨rfl, rfl⟩ : found = true ∧ ti' = ti := hfound _ _ ha
      rfl

section Local

variable {svector : List ServerConnection} {cms : Managers} {self : CMId}
  {profileId moduleId : Int} {pos : Nat}

/-- The search comes to what its draws come to. -/
theorem localOffer_outcome (hclosed : (cms self).closed = false)
    (hvec : (cms self).servers profileId = some svector) (r : Sequences svector.length pos)
    (d : Fin 100 → Fin svector.length) :
    (localOffer (r.rng d) cms self profileId moduleId pos).answer =
      some (outcome (fun i : Fin svector.length => svector[i].hit moduleId) 100 d) := by
  have hat : ∀ j : Fin 100, serverAt (r.rng d) svector moduleId pos j =
      svector[d j].hit moduleId := by
    intro j
    unfold serverAt
    rw [r.index_eq d j, List.getElem?_eq_getElem (d j).isLt]
    rfl
  have hfirst := firstOf_eq_outcome (f := fun i : Fin svector.length => svector[i].hit moduleId)
    100 hat
  unfold localOffer
  rw [hclosed, if_neg Bool.false_ne_true, hvec]
  dsimp only
  rw [hfirst]
  cases outcome (fun i : Fin svector.length => svector[i].hit moduleId) 100 d with
  | none => rfl
  | some ti => rfl

/-- Of all sequences of draws, those in which `haveProfile` returns a target are as many as
there are servers with that target, times the same number for all; where every draw hits a
server that is left out it finds none. -/
theorem haveProfile_fair {sim : Sim} (hw : WellFormed sim.cms)
    (hclosed : (sim.cms self).closed = false)
    (hvec : (sim.cms self).servers profileId = some svector)
    (r : Sequences svector.length sim.pos) (ti : TargetInfo) :
    (∀ target, (univ.filter fun d => answer (haveProfile (r.rng d) self ti profileId moduleId sim) =
        some (some target)).card =
      svector.countP (fun s => s.hit moduleId = some target) *
        spread svector.length (svector.countP fun s => s.hit moduleId = none) 100) ∧
    (univ.filter fun d => answer (haveProfile (r.rng d) self ti profileId moduleId sim) =
        some none).card = (svector.countP fun s => s.hit moduleId = none) ^ 100 := by
  have hanswer : ∀ d, answer (haveProfile (r.rng d) self ti profileId moduleId sim) =
      some (outcome (fun i : Fin svector.length => svector[i].hit moduleId) 100 d) := by
    intro d
    rw [answer_of_offer (haveProfile_offer (r.rng d) self ti profileId moduleId sim hw)
      (fun _ h => h.1) (fun _ _ h => ⟨h.1, h.2.1⟩), localOffer_outcome hclosed hvec r d]
  have hways : ∀ o, (univ.filter fun d =>
      answer (haveProfile (r.rng d) self ti profileId moduleId sim) = some o).card =
      ways (fun i : Fin svector.length => svector[i].hit moduleId) 100 o := by
    intro o
    unfold ways
    refine congrArg card (filter_congr fun d _ => ?_)
    rw [hanswer, Option.some.injEq]
  refine ⟨fun target => ?_, ?_⟩
  · rw [hways, ways_some, Fintype.card_fin, draws_getElem, draws_getElem]
  · rw [hways, ways_none, draws_getElem]

/-- The manager of the second AS, with three servers of the profile 5. -/
def threeServers : Managers :=
  startup twoAs [.registerConnectionManager 0 0, .registerConnectionManager 1 1,
    .registerConnectionManager 2 2, .registerServer 2 7 80 5 40, .registerServer 2 8 80 5 41,
    .registerServer 2 9 80 5 42]

theorem wellFormed_threeServers : WellFormed threeServers := by
  have hreach : (registry twoAs).Reachable threeServers :=
    .step (a := .registerServer 2 9 80 5 42) (.step (a := .registerServer 2 8 80 5 41)
      reachable_twoAsManagers rfl) rfl
  exact registry_wellFormed twoAs threeServers hreach

def threeVector : List ServerConnection :=
  [⟨7, 80, 5, 1, 40, 0, 2⟩, ⟨8, 80, 5, 1, 41, 0, 2⟩, ⟨9, 80, 5, 1, 42, 0, 2⟩]

theorem threeServers_two :
    (threeServers 2).closed = false ∧ (threeServers 2).servers 5 = some threeVector := by
  refine ⟨by decide +kernel, ?_⟩
  rfl

/-- The second server asks, and both others come out in `spread 3 1 100` cases. -/
theorem haveProfile_fair_threeServers :
    (∀ target ∈ [⟨7, 80⟩, (⟨9, 80⟩ : TargetInfo)], (univ.filter fun d : Fin 100 → Fin 3 =>
      answer (haveProfile ((sequences 3 0).rng d) 2 .unspecified 5 41 ⟨threeServers, 0⟩) =
        some (some target)).card = spread 3 1 100) ∧
    (univ.filter fun d : Fin 100 → Fin 3 =>
      answer (haveProfile ((sequences 3 0).rng d) 2 .unspecified 5 41 ⟨threeServers, 0⟩) =
        some none).card = 1 := by
  have hfair := @haveProfile_fair threeVector 2 5 41 ⟨threeServers, 0⟩ wellFormed_threeServers
    threeServers_two.1 threeServers_two.2 (sequences 3 0) .unspecified
  have hmissed : (threeVector.countP fun s => s.hit 41 = none) = 1 := by decide
  rw [hmissed] at hfair
  refine ⟨fun target htarget => (hfair.1 target).trans ?_, hfair.2.trans (one_pow 100)⟩
  have honce : (threeVector.countP fun s => s.hit 41 = some target) = 1 := by
    rcases List.mem_cons.mp htarget with rfl | htarget
    · decide
    · rw [List.mem_singleton.mp htarget]
      decide
  rw [honce, Nat.one_mul]
  rfl

end Local

/-! ## Other ASs -/

/-- The manager that the network makes, unless it is the network that asks or one without a
server of the profile. -/
def ForeignNetwork.hit (cms : Managers) (profileId moduleId : Int) (network : ForeignNetwork) :
    Option CMId :=
  if network.id = moduleId ∨ ((cms network.manager).servers profileId).isNone then none
  else some network.manager

/-- The network that is asked in the end. -/
def chosenNetwork (cms : Managers) (topCM : CMId) (profileId moduleId : Int)
    (d : Fin 100 → Fin (cms topCM).subCM.length) : Option CMId :=
  outcome (fun i : Fin (cms topCM).subCM.length =>
    (cms topCM).subCM[i].hit cms profileId moduleId) 100 d

/-- The offer is a server of the manager. -/
def OffersServerOf (cms : Managers) (profileId : Int) (o : Offer) (m : CMId) : Prop :=
  ∃ target id, o = .server target ∧ Registered cms m profileId target id

section Foreign

variable {cms : Managers} {topCM : CMId} {profileId moduleId : Int} {pos : Nat}

/-- A manager with servers of the profile offers one of them. -/
theorem offersServerOf {m : CMId} {vec : List ServerConnection} (hw : WellFormed cms)
    (hclosed : (cms m).closed = false) (hvec : (cms m).servers profileId = some vec)
    (rng : Rng .exact) (pos : Nat) :
    OffersServerOf cms profileId (localOffer rng cms m profileId (-1) pos) m := by
  cases hoffer : localOffer rng cms m profileId (-1) pos with
  | refusal =>
      unfold localOffer at hoffer
      rw [hclosed, if_neg Bool.false_ne_true, hvec] at hoffer
      dsimp only at hoffer
      split at hoffer
      · cases hoffer
      · cases hoffer
  | nothing =>
      have htries := tries_of_nothing hw hoffer
      unfold tries at htries
      rw [hvec] at htries
      cases htries
  | server ti =>
      obtain ⟨id, hreg⟩ := localOffer_registered hw hoffer
      exact ⟨ti, id, rfl, hreg⟩

theorem networkAt_hit (hw : WellFormed cms)
    (hopen : ∀ network ∈ (cms topCM).subCM, (cms network.manager).closed = false)
    (r : Sequences (cms topCM).subCM.length pos) (d : Fin 100 → Fin (cms topCM).subCM.length)
    (j : Fin 100) : Option.Rel (OffersServerOf cms profileId)
      (networkAt (r.rng d) cms topCM profileId moduleId pos j)
      ((cms topCM).subCM[d j].hit cms profileId moduleId) := by
  obtain ⟨network, hnet⟩ : ∃ network, (cms topCM).subCM[d j] = network := ⟨_, rfl⟩
  have hat : (cms topCM).subCM[(d j : Nat)]? = some network := by
    rw [← hnet]
    exact List.getElem?_eq_getElem (d j).isLt
  have hclosed := hopen network (List.mem_of_getElem? hat)
  unfold networkAt
  rw [r.index_eq d j, hat, hnet]
  dsimp only
  unfold ForeignNetwork.hit
  by_cases hown : network.id = moduleId
  · rw [if_pos hown, if_pos (.inl hown)]
    exact .none
  · rw [if_neg hown]
    cases hvec : (cms network.manager).servers profileId with
    | none =>
        have hnothing : localOffer (r.rng d) cms network.manager profileId (-1) (pos + j + 1) =
            .nothing := by
          unfold localOffer
          rw [hclosed, if_neg Bool.false_ne_true, hvec]
        rw [hnothing, if_pos (.inr rfl)]
        exact .none
    | some vec =>
        obtain ⟨target, id, hoffer, hreg⟩ :=
          offersServerOf hw hclosed hvec (r.rng d) (pos + j + 1)
        have hhit : ¬ (network.id = moduleId ∨ (some vec).isNone = true) :=
          not_or.mpr ⟨hown, Bool.false_ne_true⟩
        rw [hoffer, if_neg hhit]
        exact .some ⟨target, id, rfl, hreg⟩

/-- A call that ends as the relation says. -/
theorem getForeignServer_of_rel {sim : Sim} {x : Except Failure (TargetInfo × Sim)}
    {o : Option Offer} {m : Option CMId}
    (hrel : Option.Rel (OffersServerOf sim.cms profileId) o m)
    (hends : EndsAs (fun r => r.1 = .unspecified ∧ SamePlain sim.cms r.2.cms)
      (fun r found => r.1 = found ∧ SamePlain sim.cms r.2.cms) (o.getD .nothing) x) :
    ∃ target sim', x = .ok (target, sim') ∧
      match m with
      | none => target = .unspecified
      | some m => ∃ id, Registered sim.cms m profileId target id := by
  cases hrel with
  | none =>
      cases hends with
      | nothing r hr => exact ⟨r.1, r.2, rfl, hr.1⟩
  | some hoffers =>
      obtain ⟨target, id, rfl, hreg⟩ := hoffers
      cases hends with
      | server r found hr => exact ⟨r.1, r.2, rfl, id, hr.1 ▸ hreg⟩

/-- Of all sequences of draws, those in which `getForeignServer` chooses an AS are as many as
its entries that can be chosen, times the same number for all ASs; its target is a server of
that AS. -/
theorem getForeignServer_fair {sim : Sim} (hw : WellFormed sim.cms)
    (htop : (sim.cms topCM).isTopCM = true) (hflat : (sim.cms topCM).isFlatNet = false)
    (hopen : ∀ network ∈ (sim.cms topCM).subCM, (sim.cms network.manager).closed = false)
    (r : Sequences (sim.cms topCM).subCM.length sim.pos) (ti : TargetInfo) :
    (∀ d, ∃ target sim',
      getForeignServer (r.rng d) topCM ti profileId moduleId sim = .ok (target, sim') ∧
        match chosenNetwork sim.cms topCM profileId moduleId d with
        | none => target = .unspecified
        | some m => ∃ id, Registered sim.cms m profileId target id) ∧
    (∀ m, (univ.filter fun d => chosenNetwork sim.cms topCM profileId moduleId d = some m).card =
      (sim.cms topCM).subCM.countP (fun network =>
        network.hit sim.cms profileId moduleId = some m) *
      spread (sim.cms topCM).subCM.length ((sim.cms topCM).subCM.countP fun network =>
        network.hit sim.cms profileId moduleId = none) 100) ∧
    (univ.filter fun d => chosenNetwork sim.cms topCM profileId moduleId d = none).card =
      ((sim.cms topCM).subCM.countP fun network =>
        network.hit sim.cms profileId moduleId = none) ^ 100 := by
  refine ⟨fun d => ?_, fun m => ?_, ?_⟩
  · have hrel : Option.Rel (OffersServerOf sim.cms profileId)
        (firstOf (networkAt (r.rng d) sim.cms topCM profileId moduleId sim.pos) 100)
        (chosenNetwork sim.cms topCM profileId moduleId d) :=
      rel_outcome 100 fun j => networkAt_hit hw hopen r d j
    have hends := getForeignServer_offer (r.rng d) topCM ti profileId moduleId sim hw hflat
    unfold foreignOffer at hends
    rw [htop] at hends
    exact getForeignServer_of_rel hrel hends
  · unfold chosenNetwork
    rw [← ways, ways_some, Fintype.card_fin, draws_getElem, draws_getElem]
  · unfold chosenNetwork
    rw [← ways, ways_none, draws_getElem]

/-- The first AS asks, and the second one is the only other. -/
theorem getForeignServer_fair_threeServers :
    (univ.filter fun d => chosenNetwork threeServers 0 5 1 d = some 2).card =
      spread (threeServers 0).subCM.length 1 100 := by
  have hopen : ∀ network ∈ (threeServers 0).subCM,
      (threeServers network.manager).closed = false := by
    decide +kernel
  have hfair := @getForeignServer_fair 0 5 1 ⟨threeServers, 0⟩ wellFormed_threeServers rfl rfl
    hopen (sequences _ 0) .unspecified
  have hsecond : ((threeServers 0).subCM.countP fun network =>
      network.hit threeServers 5 1 = some 2) = 1 := by
    decide +kernel
  have hmissed : ((threeServers 0).subCM.countP fun network =>
      network.hit threeServers 5 1 = none) = 1 := by
    decide +kernel
  refine (hfair.2.1 2).trans ?_
  simp only [hsecond, hmissed, Nat.one_mul]

end Foreign

end ScadaSim.Traffic
