import ScadaSim.Traffic.Offer

/-!
# Soundness of server selection

A target that `getServer` returns is to be a server of the profile, of another AS or with
another id than the caller. Two ids stand in for that of the caller on the way:
`haveProfile` takes -1, the default, for none, and in a flat network the branch for foreign
profiles gives it the id of the manager. `selectsSoundly_iff` says in which states of the
managers this matters.
-/

namespace ScadaSim.Traffic

open Lib

variable {fp : Doubles}

/-- What the function that had the last word may choose. -/
def Via.Admits (self : CMId) (moduleId : Int) : Via → CMId → Int → Prop
  | .haveProfile, owner, id => owner = self ∧ id ≠ moduleId
  | .getForeignServer, owner, _ => owner ≠ self

/-- The target is unspecified, or a server of the returned profile that may be chosen. -/
def Selection.Sound (cms : Managers) (self : CMId) (moduleId : Int) (r : Selection) : Prop :=
  r.ti = .unspecified ∨ ∃ owner id, Registered cms owner r.tp.profileID r.ti id ∧
    r.via.Admits self moduleId owner id

/-- Both `getServer` functions are sound, and index no vector past its end, whatever is drawn. -/
def SelectsSoundly (fp : Doubles) (cms : Managers) (self : CMId) (moduleId : Int) : Prop :=
  ∀ (rng : Rng fp) (fuel pos : Nat) (profiles : List TrafficProfile) (ti : TargetInfo)
    (tp : TrafficProfile) (except : Int),
    Ensures bad (Selection.Sound cms self moduleId)
        (getServer rng fuel profiles self ti tp except moduleId ⟨cms, pos⟩) ∧
      Ensures bad (Selection.Sound cms self moduleId)
        (getFixServer rng profiles self ti tp moduleId ⟨cms, pos⟩)

/-- A server of the manager that has no id but `id`. -/
def KnownAs (cms : Managers) (owner : CMId) (profileId : Int) (ti : TargetInfo) (id : Int) : Prop :=
  ti ≠ .unspecified ∧ (∃ i, Registered cms owner profileId ti i) ∧
    ∀ i, Registered cms owner profileId ti i → i = id

/-- A server of the manager that is registered with no other one. -/
def OnlyWith (cms : Managers) (owner : CMId) (profileId : Int) (ti : TargetInfo) : Prop :=
  ti ≠ .unspecified ∧ (∃ i, Registered cms owner profileId ti i) ∧
    ∀ m i, Registered cms m profileId ti i → m = owner

/-- The ids that are compared tell the caller from the servers of its manager `m`, and the
AS of `m` from the others. -/
structure ToldApart (cms : Managers) (m : CMId) (moduleId : Int) : Prop where
  /-- If a server has the id of the caller, that id is always the one to leave out. -/
  servers : ∀ profileId ti, KnownAs cms m profileId ti moduleId →
    moduleId ≠ -1 ∧ (moduleId = Managers.getId m ∨
      ∀ topCM, (cms m).topCM = some topCM → (cms topCM).isFlatNet = false)
  /-- The AS is listed under the id of its manager, or all it has are servers of others too. -/
  networks : ∀ topCM, (cms m).topCM = some topCM → (cms topCM).isTopCM = true →
    (cms topCM).isFlatNet = false → ∀ network ∈ (cms topCM).subCM, network.manager = m →
      network.id ≠ Managers.getId m → ∀ profileId ti, ¬ OnlyWith cms m profileId ti

/-! ## Told apart, the choice is sound -/

/-- A server that is not known under the id only has another one. -/
theorem exists_other_id {cms : Managers} {self : CMId} {profileId id moduleId : Int}
    {ti : TargetInfo} (hti : ti ≠ .unspecified) (hreg : Registered cms self profileId ti id)
    (hnot : ¬ KnownAs cms self profileId ti moduleId) :
    ∃ other, Registered cms self profileId ti other ∧ other ≠ moduleId := by
  by_contra hall
  push Not at hall
  exact hnot ⟨hti, ⟨id, hreg⟩, hall⟩

theorem exists_other_owner {cms : Managers} {self : CMId} {profileId id : Int} {ti : TargetInfo}
    (hti : ti ≠ .unspecified) (hreg : Registered cms self profileId ti id)
    (hnot : ¬ OnlyWith cms self profileId ti) :
    ∃ owner other, Registered cms owner profileId ti other ∧ owner ≠ self := by
  by_contra hall
  push Not at hall
  exact hnot ⟨hti, ⟨id, hreg⟩, hall⟩

theorem sound_of_origin {cms : Managers} {self : CMId} {moduleId : Int}
    (h : (cms self).closed = true ∨ ToldApart cms self moduleId) {r : Selection}
    (hr : r.Originates cms self moduleId) : r.Sound cms self moduleId := by
  by_cases hti : r.ti = .unspecified
  · exact .inl hti
  have horigin := hr.resolve_left hti
  right
  have hapart (hopen : (cms self).closed = false) : ToldApart cms self moduleId :=
    h.resolve_left fun hclosed => Bool.false_ne_true (hopen.symm.trans hclosed)
  generalize r.via = via at horigin
  cases horigin with
  | own hopen hreg hid =>
      by_cases hdefault : moduleId = -1
      · have hnot : ¬ KnownAs cms self r.tp.profileID r.ti moduleId := fun hknown =>
          ((hapart hopen).servers _ _ hknown).1 hdefault
        obtain ⟨other, hother, hne⟩ := exists_other_id hti hreg hnot
        exact ⟨self, other, hother, rfl, hne⟩
      · exact ⟨self, _, hreg, rfl, hid hdefault⟩
  | flat hopen htop hflat hreg hid =>
      by_cases hown : moduleId = Managers.getId self
      · exact ⟨self, _, hreg, rfl, hown ▸ hid⟩
      · have hnot : ¬ KnownAs cms self r.tp.profileID r.ti moduleId := fun hknown => by
          have hnonflat := ((hapart hopen).servers _ _ hknown).2.resolve_left hown _ htop
          exact Bool.false_ne_true (hnonflat.symm.trans hflat)
        obtain ⟨other, hother, hne⟩ := exists_other_id hti hreg hnot
        exact ⟨self, other, hother, rfl, hne⟩
  | network htop hisTop hflat hfrom =>
      obtain ⟨network, hmem, hid, hopen, id, hreg⟩ := hfrom
      by_cases hself : network.manager = self
      · rw [hself] at hopen hreg
        obtain ⟨owner, other, hother, hne⟩ := exists_other_owner hti hreg
          ((hapart hopen).networks _ htop hisTop hflat network hmem hself hid _ _)
        exact ⟨owner, other, hother, hne⟩
      · exact ⟨network.manager, id, hreg, hself⟩

/-! ## Draws that lead to a given server -/

/-- Draws `i` with the number at 1 and `j` with every other one. -/
def drawing (i j : Nat) : Rng fp where
  index := fun k n => if k = 1 then (if i < n then i else 0) else if j < n then j else 0
  unit := fun _ => 0
  index_lt := fun k n hn => by
    split
    · split
      · assumption
      · exact hn
    · split
      · assumption
      · exact hn
  unit_drawn := fun _ => fp.drawn_zero

section Draws

variable {rng : Rng fp} {cms : Managers} {self topCM : CMId} {profileId moduleId : Int}
  {i j pos : Nat}

theorem localOffer_hit (hopen : (cms self).closed = false) {vec : List ServerConnection}
    (hvec : (cms self).servers profileId = some vec) {s : ServerConnection}
    (hs : vec[rng.index pos vec.length]? = some s) (hid : moduleId ≠ -1 → s.id ≠ moduleId) :
    localOffer rng cms self profileId moduleId pos = .server ⟨s.address, s.port⟩ := by
  have hhit : serverAt rng vec moduleId pos 0 = some ⟨s.address, s.port⟩ := by
    unfold serverAt
    rw [Nat.add_zero, hs]
    exact if_neg fun hout => hid hout.2 hout.1
  unfold localOffer
  rw [hopen, if_neg Bool.false_ne_true, hvec]
  dsimp only
  rw [firstOf_succ_of_some hhit]

theorem foreignOffer_hit (hisTop : (cms topCM).isTopCM = true) {network : ForeignNetwork}
    (hnetwork : (cms topCM).subCM[rng.index pos (cms topCM).subCM.length]? = some network)
    (hother : network.id ≠ moduleId) {ti : TargetInfo}
    (hoffer : localOffer rng cms network.manager profileId (-1) (pos + 1) = .server ti) :
    foreignOffer rng cms topCM profileId moduleId pos = .server ti := by
  have hhit := networkAt_zero_of_other profileId hnetwork hother
  rw [hoffer] at hhit
  unfold foreignOffer
  rw [hisTop, if_neg (by decide), firstOf_succ_of_some hhit]
  rfl

theorem haveProfile_hit (hw : WellFormed cms) (ti : TargetInfo) {found : TargetInfo}
    (hoffer : localOffer rng cms self profileId moduleId pos = .server found) :
    ∃ sim, haveProfile rng self ti profileId moduleId ⟨cms, pos⟩ = .ok (true, found, sim) := by
  have hask := haveProfile_offer rng self ti profileId moduleId ⟨cms, pos⟩ hw
  rw [hoffer] at hask
  generalize haveProfile rng self ti profileId moduleId ⟨cms, pos⟩ = x at hask
  cases hask with
  | server r _ hr =>
      obtain ⟨_, _, sim⟩ := r
      obtain ⟨rfl, rfl, -⟩ := hr
      exact ⟨sim, rfl⟩

theorem chooseServer_local (hw : WellFormed cms) (ti : TargetInfo) {found : TargetInfo}
    (hoffer : localOffer rng cms self profileId moduleId pos = .server found) :
    ∃ sim, chooseServer rng self ti profileId false moduleId ⟨cms, pos⟩ =
      .ok (.haveProfile, found, sim) := by
  obtain ⟨sim, hhit⟩ := haveProfile_hit hw ti hoffer
  refine ⟨sim, ?_⟩
  unfold chooseServer
  rw [hhit]
  rfl

theorem chooseServer_flat (hw : WellFormed cms) (htop : (cms self).topCM = some topCM)
    (hflat : (cms topCM).isFlatNet = true) (ti : TargetInfo) (moduleId : Int) {found : TargetInfo}
    (hoffer : localOffer rng cms self profileId (Managers.getId self) pos = .server found) :
    ∃ sim, chooseServer rng self ti profileId true moduleId ⟨cms, pos⟩ =
      .ok (.haveProfile, found, sim) := by
  obtain ⟨sim, hhit⟩ := haveProfile_hit hw ti hoffer
  refine ⟨sim, ?_⟩
  unfold chooseServer
  rw [htop]
  dsimp only
  rw [if_pos hflat, hhit]
  rfl

theorem chooseServer_foreign (hw : WellFormed cms) (htop : (cms self).topCM = some topCM)
    (hflat : (cms topCM).isFlatNet = false) (ti : TargetInfo) (moduleId : Int) {found : TargetInfo}
    (hoffer : foreignOffer rng cms topCM profileId (Managers.getId self) pos = .server found) :
    ∃ sim, chooseServer rng self ti profileId true moduleId ⟨cms, pos⟩ =
      .ok (.getForeignServer, found, sim) := by
  have hask := getForeignServer_offer rng topCM ti profileId (Managers.getId self) ⟨cms, pos⟩ hw
    hflat
  rw [hoffer] at hask
  unfold chooseServer
  rw [htop]
  dsimp only
  rw [if_neg (fun h => Bool.false_ne_true (hflat.symm.trans h))]
  generalize getForeignServer rng topCM ti profileId (Managers.getId self) ⟨cms, pos⟩ = x at hask
  cases hask with
  | server r _ hr =>
      obtain ⟨_, sim⟩ := r
      obtain ⟨rfl, -⟩ := hr
      exact ⟨sim, rfl⟩

end Draws

/-! ## When the choice is sound -/

/-- A profile that leaves the AS always, or never. -/
def onlyProfile (profileId : Int) (isForeign : Bool) : TrafficProfile :=
  { profileID := profileId, WANprob := if isForeign then 0 else -1 }

/-- The choice of a server, called with a list of one profile, is sound. -/
theorem SelectsSoundly.chosen {cms : Managers} {self : CMId} {moduleId : Int}
    (h : SelectsSoundly fp cms self moduleId) {i j : Nat} {profileId : Int} {isForeign : Bool}
    {via : Via} {found : TargetInfo} {sim : Sim}
    (hchoose : chooseServer (drawing i j : Rng fp) self .unspecified profileId isForeign moduleId
      ⟨cms, 1⟩ = .ok (via, found, sim)) :
    found = .unspecified ∨ ∃ owner id, Registered cms owner profileId found id ∧
      via.Admits self moduleId owner id := by
  have hfix := (h (drawing i j) 0 0 [onlyProfile profileId isForeign] .unspecified {} (-1)).2
  have hforeign : decideForeign (onlyProfile profileId isForeign) 0 false = isForeign := by
    unfold decideForeign onlyProfile
    cases isForeign with
    | true => rfl
    | false => exact if_neg (show ¬ (-1 : Rat) ≥ 0 by decide +kernel)
  unfold getFixServer at hfix
  change Ensures bad _ (chooseServer (drawing i j) self .unspecified profileId
    (decideForeign (onlyProfile profileId isForeign) 0 false) moduleId ⟨cms, 1⟩ >>= _) at hfix
  rw [hforeign, hchoose] at hfix
  exact hfix

/-- A draw that hits the position. -/
theorem getElem?_drawing {α : Type} {l : List α} {a : α} {i : Nat} (j : Nat)
    (ha : l[i]? = some a) : l[(drawing i j : Rng fp).index 1 l.length]? = some a := by
  obtain ⟨hlt, -⟩ := List.getElem?_eq_some_iff.mp ha
  rw [show (drawing i j : Rng fp).index 1 l.length = i from if_pos hlt]
  exact ha

theorem getElem?_drawing_next {α : Type} {l : List α} {a : α} {j : Nat} (i : Nat)
    (ha : l[j]? = some a) : l[(drawing i j : Rng fp).index 2 l.length]? = some a := by
  obtain ⟨hlt, -⟩ := List.getElem?_eq_some_iff.mp ha
  rw [show (drawing i j : Rng fp).index 2 l.length = j from if_pos hlt]
  exact ha

section Sound

variable {cms : Managers} {self : CMId} {moduleId : Int}

/-- Where the caller may be chosen, it is not a server with this id only. -/
theorem not_chosen_of_knownAs (h : SelectsSoundly fp cms self moduleId) {profileId : Int}
    {ti : TargetInfo} (hknown : KnownAs cms self profileId ti moduleId) {i j : Nat}
    {isForeign : Bool} {sim : Sim} :
    chooseServer (drawing i j : Rng fp) self .unspecified profileId isForeign moduleId ⟨cms, 1⟩ ≠
      .ok (.haveProfile, ti, sim) := by
  obtain ⟨hti, -, honly⟩ := hknown
  intro hchoose
  rcases h.chosen hchoose with hnone | ⟨owner, id, hreg, rfl, hne⟩
  · exact hti hnone
  · exact hne (honly _ hreg)

theorem toldApart_of_sound (hw : WellFormed cms) (h : SelectsSoundly fp cms self moduleId)
    (hopen : (cms self).closed = false) : ToldApart cms self moduleId := by
  constructor
  · intro profileId ti hknown
    obtain ⟨i, vec, s, hvec, hs, hprofile, hmanager, rfl, hid⟩ := hknown.2.1
    obtain ⟨k, hk⟩ := List.mem_iff_getElem?.mp hs
    have hcaller : s.id = moduleId := hknown.2.2 _ ⟨vec, s, hvec, hs, hprofile, hmanager, rfl, rfl⟩
    have hdrawn : vec[(drawing k 0 : Rng fp).index 1 vec.length]? = some s :=
      getElem?_drawing 0 hk
    constructor
    · -- without an id to leave out, any server of the manager may be chosen
      intro hdefault
      obtain ⟨sim, hchoose⟩ := chooseServer_local hw .unspecified
        (localOffer_hit hopen hvec hdrawn fun hne => absurd hdefault hne)
      exact not_chosen_of_knownAs h hknown hchoose
    · by_contra hno
      obtain ⟨hother, hno⟩ := not_or.mp hno
      push Not at hno
      obtain ⟨topCM, htop, hflat⟩ := hno
      -- the branch for foreign profiles leaves out the id of the manager
      obtain ⟨sim, hchoose⟩ := chooseServer_flat hw htop
        (Bool.not_eq_false _ ▸ hflat) .unspecified moduleId
        (localOffer_hit hopen hvec hdrawn fun _ => hcaller ▸ hother)
      exact not_chosen_of_knownAs h hknown hchoose
  · rintro topCM htop hisTop hflat network hmem rfl hother profileId ti ⟨hti, hreg, honly⟩
    obtain ⟨i, vec, s, hvec, hs, hprofile, hmanager, rfl, hid⟩ := hreg
    obtain ⟨k, hk⟩ := List.mem_iff_getElem?.mp hs
    obtain ⟨n, hn⟩ := List.mem_iff_getElem?.mp hmem
    have hdrawn : (cms topCM).subCM[(drawing n k : Rng fp).index 1 (cms topCM).subCM.length]? =
        some network := getElem?_drawing k hn
    have hnext : vec[(drawing n k : Rng fp).index 2 vec.length]? = some s :=
      getElem?_drawing_next n hk
    obtain ⟨sim, hchoose⟩ := chooseServer_foreign hw htop hflat .unspecified moduleId
      (foreignOffer_hit hisTop hdrawn hother
        (localOffer_hit hopen hvec hnext fun hne => absurd rfl hne))
    rcases h.chosen hchoose with hnone | ⟨owner, id, hreg, hne⟩
    · exact hti hnone
    · exact hne (honly _ _ hreg)

end Sound

/-- In every state that registration leads to, and for every caller, the selection of servers
is sound just when the caller is told apart, or when the manager is the closed top one, which
refuses to be asked. -/
theorem selectsSoundly_iff {hier : Hierarchy} {cms : Managers}
    (hreach : (registry hier).Reachable cms) (self : CMId) (moduleId : Int) :
    SelectsSoundly fp cms self moduleId ↔
      (cms self).closed = true ∨ ToldApart cms self moduleId := by
  have hw : WellFormed cms := registry_wellFormed hier cms hreach
  constructor
  · intro h
    cases hclosed : (cms self).closed with
    | true => exact .inl rfl
    | false => exact .inr (toldApart_of_sound hw h hclosed)
  · intro h rng fuel pos profiles ti tp except
    exact ⟨(getServer_origin rng fuel profiles self ti tp except moduleId ⟨cms, pos⟩ hw).mono
        fun _ hr => sound_of_origin h hr,
      (getFixServer_origin rng profiles self ti tp moduleId ⟨cms, pos⟩ hw).mono
        fun _ hr => sound_of_origin h hr⟩

/-! ### A server that asks for another one -/

/-- The second AS has one server, which asks for another one: it is left out. -/
theorem selectsSoundly_twoAs : SelectsSoundly .exact twoAsManagers 2 40 := by
  refine (selectsSoundly_iff reachable_twoAsManagers 2 40).mpr (.inr ⟨?_, ?_⟩)
  · rintro profileId ti -
    refine ⟨by decide, .inr fun topCM htop => ?_⟩
    cases htop
    rfl
  · intro topCM htop _ _ network hmem hmanager hother
    cases htop
    have hids : ∀ n ∈ (twoAsManagers 0).subCM, n.id = Managers.getId n.manager := by
      decide +kernel
    exact absurd (hmanager ▸ hids network hmem) hother

/-- A network with one manager, and one server, the module 40. -/
def flatServer : Managers :=
  startup twoAs [.registerConnectionManager 0 0, .registerServer 0 7 80 5 40]

theorem flatServer_servers : (flatServer 0).servers 5 =
    some [{ address := 7, port := 80, profileID := 5, ratio := 1, id := 40, manager := 0 }] := rfl

theorem knownAs_flatServer : KnownAs flatServer 0 5 ⟨7, 80⟩ 40 := by
  refine ⟨by decide, ⟨40, _, _, flatServer_servers, .head _, rfl, rfl, rfl, rfl⟩, ?_⟩
  rintro i ⟨vec, s, hvec, hs, -, -, -, rfl⟩
  rw [flatServer_servers] at hvec
  cases hvec
  rw [List.mem_singleton.mp hs]

/-- The server draws a profile that leaves the AS, and is its own target. -/
theorem own_server_selected :
    (registry twoAs).Reachable flatServer ∧
      (getServer lastRng 0 [{ profileID := 5, WANprob := 1 }] 0 .unspecified {} (-1) 40
        ⟨flatServer, 0⟩).toOption.map (fun r => (r.via, r.ti, r.tp.profileID)) =
          some (.haveProfile, ⟨7, 80⟩, 5) ∧
      KnownAs flatServer 0 5 ⟨7, 80⟩ 40 ∧ ¬ SelectsSoundly .exact flatServer 0 40 := by
  have hreach : (registry twoAs).Reachable flatServer :=
    .step (a := .registerServer 0 7 80 5 40)
      (.step (a := .registerConnectionManager 0 0) (.init rfl) rfl) rfl
  refine ⟨hreach, by decide +kernel, knownAs_flatServer, fun h => ?_⟩
  have hapart := toldApart_of_sound (registry_wellFormed twoAs _ hreach) h rfl
  rcases (hapart.servers 5 ⟨7, 80⟩ knownAs_flatServer).2 with hown | hnonflat
  · exact absurd hown (by decide)
  · exact absurd (hnonflat 0 rfl) (by decide +kernel)

end ScadaSim.Traffic
