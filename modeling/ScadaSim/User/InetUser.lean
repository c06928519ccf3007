import ScadaSim.Traffic.ConnectionManager
import ScadaSim.Traffic.TransmissionConfig

/-!
# The user

`InetUser`: it asks the connection manager for a profile and a server, starts a
transmission in the application of the profile, and books its statistics when it
is done.
-/

namespace ScadaSim.User

open Traffic

/-- `GET_APP_TYPE`. -/
def GET_APP_TYPE (x : Int) : ApplicationType :=
  if x < 0 then .notSet
  else if x < 11 then .tcpApp
  else if x < 21 then .udpApp
  else if x < 31 then .icmpApp
  else .notSet

structure InetUser where
  /-- the connection manager, and `getId()` -/
  cm : CMId
  id : Int
  /-- The applications that the map has an entry for. -/
  applications : List ApplicationType := []
  noICMPProfile : Int := 0
  noUDPProfile : Int := 0
  noTCPProfile : Int := 0
  previousProfileId : Int := -1
  attachedProfileId : Int := -1
  curTrafficProfile : TrafficProfile := {}
  curTargetInfo : TargetInfo := ⟨0, 0⟩
  communicationStatistics : UserCommunicationStatistics := {}

namespace InetUser

def setApplication (u : InetUser) (applicationType : ApplicationType)
    (attachedProfileNumber : Int) : InetUser :=
  let u := { u with applications := applicationType :: u.applications }
  if attachedProfileNumber > 0 then
    { u with
      attachedProfileId := attachedProfileNumber
      curTrafficProfile := { u.curTrafficProfile with profileID := attachedProfileNumber } }
  else u

/-- `transmissionDone(t)`, up to the start of the next transmission. -/
def book (u : InetUser) (t : TransmissionStatistics) : InetUser :=
  let c := u.communicationStatistics
  let c :=
    match GET_APP_TYPE u.curTrafficProfile.profileID with
    | .tcpApp => c.updateTcpStatistics t
    | .udpApp => c.updateUdpStatistics t
    | .icmpApp => c.updateIcmpStatistics t
    | .notSet => c
  { u with communicationStatistics := c.updateStatistics t }

end InetUser

/-- What the requests of a user leave in `curTargetInfo` and `curTrafficProfile`, after
how many runs. -/
structure Request where
  runs : Nat
  ti : TargetInfo
  tp : TrafficProfile
  sim : Sim

/-- What a user works with: the doubles, the generator, the bound on redraws and the
profiles. -/
structure Supply where
  fp : Doubles
  rng : Rng fp
  fuel : Nat
  profiles : List TrafficProfile

namespace InetUser

/-- The loop of `transmissionDone`, with `left` runs left of 100. `getServer` leaves the
id of the profile in `exceptId`. -/
def requestLoop (u : InetUser) (s : Supply) :
    Nat → Int → TargetInfo → TrafficProfile → Sim → Except Failure Request
  | 0, _, ti, tp, sim => .ok ⟨100, ti, tp, sim⟩
  | left + 1, exceptId, ti, tp, sim => do
      let runs := 100 - left
      let exceptId := if runs = 50 then -1 else exceptId
      let r ← getServer s.rng s.fuel s.profiles u.cm ti tp exceptId u.id sim
      if r.ti.address = 0 then
        requestLoop u s left (r.except.getD exceptId) r.ti r.tp r.sim
      else .ok ⟨runs, r.ti, r.tp, r.sim⟩

/-- A random profile, or the attached one. -/
def request (u : InetUser) (s : Supply) (sim : Sim) : Except Failure Request :=
  if u.attachedProfileId = -1 then do
    let r ← u.requestLoop s 100 u.previousProfileId u.curTargetInfo u.curTrafficProfile sim
    if r.runs = 100 ∧ r.ti.address = 0 then
      .error (.oppError ("No valid server could be requested for randomly selected traffic " ++
        "profiles (tried 100 times)"))
    else .ok r
  else do
    let r ← getFixServer s.rng s.profiles u.cm u.curTargetInfo u.curTrafficProfile u.id sim
    return ⟨0, r.ti, r.tp, r.sim⟩

end InetUser

/-- The user after `transmissionDone()`, and the application it starts a transmission
in, if any. -/
structure Decision where
  user : InetUser
  start : Option ApplicationType
  sim : Sim

namespace InetUser

/-- The second half of `transmissionDone()`. -/
def startTransmission (u : InetUser) (sim : Sim) : Except Failure Decision :=
  match GET_APP_TYPE u.curTrafficProfile.profileID with
  | .notSet => .error (.oppError "invalid traffic profile configuration!")
  | .udpApp =>
      .ok {
        user := { u with noUDPProfile := u.noUDPProfile + 1 }
        start := if u.curTargetInfo.port > 0 then some .udpApp else none
        sim := sim }
  | .icmpApp =>
      .ok {
        user := { u with noICMPProfile := u.noICMPProfile + 1 }
        start := some .icmpApp
        sim := sim }
  | .tcpApp =>
      .ok {
        user := { u with noTCPProfile := u.noTCPProfile + 1 }
        start := if u.curTargetInfo.port > 0 then some .tcpApp else none
        sim := sim }

def transmissionDone (u : InetUser) (s : Supply) (sim : Sim) : Except Failure Decision := do
  let r ← u.request s sim
  startTransmission { u with curTargetInfo := r.ti, curTrafficProfile := r.tp } r.sim

end InetUser

end ScadaSim.User
