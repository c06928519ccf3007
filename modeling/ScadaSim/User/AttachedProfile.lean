import ScadaSim.Traffic.Offer
import ScadaSim.User.InetUser

/-!
# The attached profile

A user with an attached profile asks for no other. `honoured_iff_honourable` says when
`transmissionDone()` honours that: the profile must be in the list, and a server must
be found, since the profile search falls back on the last profile, and a search that
finds no server is not told from one that does.
-/

namespace ScadaSim.User

open Lib Traffic

/-- The first profile with the id, or the last one. -/
def chosenProfile (profiles : List TrafficProfile) (profileID : Int) : Option TrafficProfile :=
  (profiles.find? fun t => t.profileID = profileID).or profiles.getLast?

theorem scanFixProfile_eq (profileID : Int) (profiles : List TrafficProfile) :
    scanFixProfile profileID profiles = chosenProfile profiles profileID := by
  induction profiles with
  | nil => rfl
  | cons t rest ih =>
      cases rest with
      | nil =>
          unfold scanFixProfile chosenProfile
          by_cases ht : t.profileID = profileID <;> simp [ht]
      | cons t' rest =>
          unfold scanFixProfile
          rw [ih]
          unfold chosenProfile
          by_cases ht : t.profileID = profileID
          · simp [ht]
          · simp [ht, List.getLast?_cons_cons]

/-- The transmission that `transmissionDone()` starts is one of the attached profile, in
an application that is there, and goes to a registered server; else it complains. -/
def Honoured (cms : Managers) (u : InetUser) : Except Failure Decision → Prop
  | .ok d => ∃ a, d.start = some a ∧ a ∈ u.applications ∧
      d.user.curTrafficProfile.profileID = u.attachedProfileId ∧
      ∃ owner id, Registered cms owner u.attachedProfileId d.user.curTargetInfo id
  | .error (.oppError _) => True
  | .error _ => False

/-- What the managers offer to `u`, if it asks for a server of `p`. -/
def offerFor (u : InetUser) (s : Supply) (sim : Sim) (p : TrafficProfile) : Offer :=
  offer s.rng sim.cms u.cm p.profileID (decideForeign p (s.rng.unit sim.pos) false) u.id (sim.pos + 1)

/-- A transmission to what is offered has a server to go to. Pings are sent to any
address, the unspecified one included, which a server may have registered. -/
def Serves (cms : Managers) (profileID : Int) (a : ApplicationType) : Offer → Prop
  | .refusal => False
  | .nothing => a = .icmpApp ∧ ∃ owner id, Registered cms owner profileID .unspecified id
  | .server ti => a = .icmpApp ∨ ti.port > 0

/-- Somebody complains, or the user gets the attached profile with a server. -/
def Honourable (u : InetUser) (s : Supply) (sim : Sim) : Prop :=
  ∃ p, chosenProfile s.profiles u.curTrafficProfile.profileID = some p ∧
    (offerFor u s sim p = .refusal ∨ GET_APP_TYPE p.profileID = .notSet ∨
      (p.profileID = u.attachedProfileId ∧ GET_APP_TYPE p.profileID ∈ u.applications ∧
        Serves sim.cms p.profileID (GET_APP_TYPE p.profileID) (offerFor u s sim p)))

/-- A user with an attached profile asks for a server of the profile that the search
for its current one comes to. -/
theorem request_offer {u : InetUser} (hattached : u.attachedProfileId ≠ -1) (s : Supply) (sim : Sim)
    (hw : WellFormed sim.cms) {p : TrafficProfile}
    (hp : chosenProfile s.profiles u.curTrafficProfile.profileID = some p) :
    EndsAs (fun r : Request => r.tp = p ∧ r.ti = .unspecified) (fun r ti => r.tp = p ∧ r.ti = ti)
      (offerFor u s sim p) (u.request s sim) := by
  rw [← scanFixProfile_eq] at hp
  unfold InetUser.request
  rw [if_neg hattached]
  refine (getFixServer_offer s.rng u.cm u.curTargetInfo u.id sim hw hp).bind id ?_ ?_
  · intro r hoffer hr
    rw [show offerFor u s sim p = .nothing from hoffer]
    refine .nothing (Request.mk 0 r.ti r.tp r.sim) ?_
    exact hr
  · intro r ti hoffer hr
    rw [show offerFor u s sim p = .server ti from hoffer]
    refine .server (Request.mk 0 r.ti r.tp r.sim) ti ?_
    exact hr

/-- The start of a transmission is honoured if there is an application for it and a
server to go to. -/
theorem startTransmission_honoured {cms : Managers} (u : InetUser) (sim : Sim)
    {ti : TargetInfo} {p : TrafficProfile} :
    Honoured cms u (InetUser.startTransmission
        { u with curTargetInfo := ti, curTrafficProfile := p } sim) ↔
      GET_APP_TYPE p.profileID = .notSet ∨
        (p.profileID = u.attachedProfileId ∧ GET_APP_TYPE p.profileID ∈ u.applications ∧
          (GET_APP_TYPE p.profileID = .icmpApp ∨ ti.port > 0) ∧
          ∃ owner id, Registered cms owner u.attachedProfileId ti id) := by
  unfold InetUser.startTransmission
  dsimp only
  cases htype : GET_APP_TYPE p.profileID with
  | notSet => simp [Honoured]
  | udpApp =>
      by_cases hport : ti.port > 0
      · simp [Honoured, hport]
        tauto
      · simp [Honoured, hport]
  | icmpApp =>
      simp [Honoured]
      tauto
  | tcpApp =>
      by_cases hport : ti.port > 0
      · simp [Honoured, hport]
        tauto
      · simp [Honoured, hport]

theorem honoured_iff_honourable {fp : Doubles} {hier : Hierarchy} {sim : Sim}
    (hreach : (service fp hier).Reachable sim.cms) {u : InetUser}
    (hattached : 0 < u.attachedProfileId) {s : Supply} (hprofiles : s.profiles ≠ []) :
    Honoured sim.cms u (u.transmissionDone s sim) ↔ Honourable u s sim := by
  have hw := service_wellFormed hier sim.cms hreach
  obtain ⟨p, hp⟩ : ∃ p, chosenProfile s.profiles u.curTrafficProfile.profileID = some p := by
    have hlast := List.getLast?_eq_some_getLast hprofiles
    unfold chosenProfile
    cases List.find? _ s.profiles with
    | none => exact ⟨_, hlast⟩
    | some t => exact ⟨t, rfl⟩
  -- what `transmissionDone` does depends on the answer it gets, and that is the offer
  have hask := request_offer (u := u) (by omega) s sim hw hp
  have hright : Honourable u s sim ↔
      (offerFor u s sim p = .refusal ∨ GET_APP_TYPE p.profileID = .notSet ∨
        (p.profileID = u.attachedProfileId ∧ GET_APP_TYPE p.profileID ∈ u.applications ∧
          Serves sim.cms p.profileID (GET_APP_TYPE p.profileID) (offerFor u s sim p))) := by
    unfold Honourable
    rw [hp]
    simp
  have hregistered (ti : TargetInfo) (hoffer : offerFor u s sim p = .server ti) :
      ∃ owner id, Registered sim.cms owner p.profileID ti id := offer_registered hw hoffer
  rw [hright]
  unfold InetUser.transmissionDone
  generalize u.request s sim = x at hask
  generalize offerFor u s sim p = o at hask hregistered
  cases hask with
  | refusal text => exact iff_of_true True.intro (.inl rfl)
  -- port -1: right for ping only
  | nothing r hr =>
      obtain ⟨htp, hti⟩ := hr
      rw [ok_bind, startTransmission_honoured, htp, hti]
      unfold Serves
      constructor
      · rintro (hnone | ⟨hid, happ, hport, hreg⟩)
        · exact .inr (.inl hnone)
        · refine .inr (.inr ⟨hid, happ, ?_, hid ▸ hreg⟩)
          rcases hport with hicmp | hport
          · exact hicmp
          · exact absurd hport (by decide)
      · rintro (hrefused | hnone | ⟨hid, happ, hicmp, hreg⟩)
        · cases hrefused
        · exact .inl hnone
        · exact .inr ⟨hid, happ, .inl hicmp, hid ▸ hreg⟩
  | server r ti hr =>
      obtain ⟨htp, hti⟩ := hr
      have hreg := hregistered ti rfl
      rw [ok_bind, startTransmission_honoured, htp, hti]
      unfold Serves
      constructor
      · rintro (hnone | ⟨hid, happ, hport, -⟩)
        · exact .inr (.inl hnone)
        · exact .inr (.inr ⟨hid, happ, hport⟩)
      · rintro (hrefused | hnone | ⟨hid, happ, hport⟩)
        · cases hrefused
        · exact .inl hnone
        · exact .inr ⟨hid, happ, hport, hid ▸ hreg⟩

/-! ### A network with one server, for the profile 5 -/

theorem reachable_flatManagers : (service .exact twoAs).Reachable flatManagers :=
  .step (a := .registration (.registerServer 0 7 80 5 (-1)))
    (.step (a := .registration (.registerConnectionManager 0 0)) (.init rfl) rfl) rfl

/-- A user with a TCP and a UDP application, the latter with the profile `k` attached. -/
def attachedUser (k : Int) : InetUser :=
  (InetUser.setApplication { cm := 0, id := 9 } .tcpApp 0).setApplication .udpApp k

def oneProfile (profileID : Int) : Supply := ⟨.exact, lastRng, 0, [{ profileID := profileID }]⟩

/-- Without a server for its profile the user is left idle, and without its profile in
the list it starts a transmission of another one. -/
theorem attached_profile_dropped :
    (service .exact twoAs).Reachable flatManagers ∧
      ((attachedUser 12).transmissionDone (oneProfile 12) ⟨flatManagers, 0⟩).toOption.map
        Decision.start = some none ∧
      ((attachedUser 12).transmissionDone (oneProfile 5) ⟨flatManagers, 0⟩).toOption.map
        (fun d => (d.start, d.user.curTrafficProfile.profileID)) = some (some .tcpApp, 5) ∧
      ¬ Honoured flatManagers (attachedUser 12)
        ((attachedUser 12).transmissionDone (oneProfile 12) ⟨flatManagers, 0⟩) ∧
      ¬ Honoured flatManagers (attachedUser 12)
        ((attachedUser 12).transmissionDone (oneProfile 5) ⟨flatManagers, 0⟩) := by
  have hidle : ((attachedUser 12).transmissionDone (oneProfile 12) ⟨flatManagers, 0⟩).toOption.map
      Decision.start = some none := by decide +kernel
  have hother : ((attachedUser 12).transmissionDone (oneProfile 5) ⟨flatManagers, 0⟩).toOption.map
      (fun d => (d.start, d.user.curTrafficProfile.profileID)) = some (some .tcpApp, 5) := by
    decide +kernel
  refine ⟨reachable_flatManagers, hidle, hother, ?_, ?_⟩
  · generalize (attachedUser 12).transmissionDone (oneProfile 12) ⟨flatManagers, 0⟩ = x at hidle
    cases x with
    | error e => cases hidle
    | ok d =>
        rintro ⟨a, ha, -⟩
        have hnone : d.start = none := Option.some.inj hidle
        rw [hnone] at ha
        cases ha
  · generalize (attachedUser 12).transmissionDone (oneProfile 5) ⟨flatManagers, 0⟩ = x at hother
    cases x with
    | error e => cases hother
    | ok d =>
        rintro ⟨a, -, -, hid, -⟩
        have hfive := congrArg Prod.snd (Option.some.inj hother)
        rw [show d.user.curTrafficProfile.profileID = 5 from hfive] at hid
        exact absurd hid (by decide)

theorem honoured_flatManagers :
    ((attachedUser 5).transmissionDone (oneProfile 5) ⟨flatManagers, 0⟩).toOption.map
        (fun d => (d.start, d.user.curTargetInfo)) = some (some .tcpApp, ⟨7, 80⟩) ∧
      (Honoured flatManagers (attachedUser 5)
          ((attachedUser 5).transmissionDone (oneProfile 5) ⟨flatManagers, 0⟩) ↔
        Honourable (attachedUser 5) (oneProfile 5) ⟨flatManagers, 0⟩) :=
  ⟨by decide +kernel,
    @honoured_iff_honourable .exact twoAs ⟨flatManagers, 0⟩ reachable_flatManagers (attachedUser 5)
      (by decide) (oneProfile 5) (by decide)⟩

end ScadaSim.User
