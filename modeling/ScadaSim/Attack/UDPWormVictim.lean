import ScadaSim.Attack.Timer
import ScadaSim.Lib.Outcome
import ScadaSim.Lib.TSys

/-!
# The worm victim

`UDPWormVictim`: a host is vulnerable until a probing packet reaches it, and then
probes other hosts itself, one packet for each expiry of its timer.

`LifeCycle` is what the class is documented to do. `always_lifeCycle_iff` says in
which runs it does: the timer of a host without probes left expires once more, and
then nobody is there to make the host inactive.
-/

namespace ScadaSim.Attack

open Lib Traffic

def FIRST_ATTACK_ID_OF_WORM_SPREAD : Int := 10000

/-- The parameters of the module. -/
structure WormParameters where
  timeBetweenProbingPackets : Rat
  maxProbingPackets : Int
  sourcePort : Int
  listenAndVictimPort : Int
  probingPacketLength : Int
  attackTag : Int
  addressRangeStart : IPvXAddress
  addressRangeEnd : IPvXAddress
  startProbing : Rat
  startProbingDiff : Rat
  startProbingProbability : Rat

structure UDPWormVictim where
  probingDelay : Rat
  maxProbingPackets : Int
  sourcePort : Int
  victimPort : Int
  packetLength : Int
  attackTag : Int
  addrStart : IPvXAddress
  addrEnd : IPvXAddress
  startTime : Rat
  isActive : Bool
  probingTimer : Timer
  deriving DecidableEq

/-- A probing packet, with the fields of its headers and of its control information. -/
structure ProbingPacket where
  byteLength : Int
  sourcePort : Int
  destinationPort : Int
  destAddr : IPvXAddress
  attackTag : Int
  deriving DecidableEq

/-- What arrives from the network: a UDP packet, around a worm query or not, or
another message. -/
inductive Arrival
  | udpPacket (wormQuery : Bool)
  | other

namespace UDPWormVictim

/-- Stage 3; `draw` is the random number `uniform(0, 1, 4)`. -/
def initializeModule (par : WormParameters) (simTime draw : Rat) :
    Except Fault UDPWormVictim := do
  let isActive := decide (par.startProbingProbability > draw)
  let probingTimer ←
    if isActive then scheduleAt none simTime (par.startProbing + par.startProbingDiff)
    else .ok none
  return {
    probingDelay := par.timeBetweenProbingPackets
    maxProbingPackets := par.maxProbingPackets
    sourcePort := par.sourcePort
    victimPort := par.listenAndVictimPort
    packetLength := par.probingPacketLength
    attackTag := par.attackTag + FIRST_ATTACK_ID_OF_WORM_SPREAD
    addrStart := par.addressRangeStart
    addrEnd := par.addressRangeEnd
    startTime := par.startProbing
    isActive := isActive
    probingTimer := probingTimer }

/-- The target is a random number of the address range. -/
def sendProbingPacket (v : UDPWormVictim) (targetAddr : IPvXAddress) : ProbingPacket where
  byteLength := v.packetLength
  sourcePort := v.sourcePort
  destinationPort := v.victimPort
  destAddr := targetAddr
  attackTag := v.attackTag

/-- One packet less, unless the number is unlimited. -/
def countDown (maxProbingPackets : Int) : Int :=
  if maxProbingPackets > 0 then maxProbingPackets - 1 else maxProbingPackets

/-- The branch of `handleMessage` for the self message, which is no longer scheduled
when it is delivered. -/
def selfMessage (v : UDPWormVictim) (simTime : Rat) (targetAddr : IPvXAddress) :
    Except Fault (UDPWormVictim × List ProbingPacket) :=
  let v := { v with probingTimer := none }
  if v.maxProbingPackets ≠ 0 then do
    let v := { v with maxProbingPackets := countDown v.maxProbingPackets }
    let probingTimer ← scheduleAt v.probingTimer simTime v.probingDelay
    return ({ v with probingTimer := probingTimer }, [v.sendProbingPacket targetAddr])
  -- `isActive` stays as it is
  else .ok (v, [])

/-- The other branches. -/
def networkMessage (v : UDPWormVictim) (simTime : Rat) (msg : Arrival) :
    Except Fault UDPWormVictim :=
  match msg with
  | .udpPacket wormQuery =>
      if v.isActive then .ok v
      else if wormQuery then do
        let v := { v with isActive := true }
        let probingTimer ← scheduleAt v.probingTimer simTime v.probingDelay
        return { v with probingTimer := probingTimer }
      else .ok v
  | .other => .ok v

/-! ## Runs -/

inductive Event
  | timerExpires (targetAddr : IPvXAddress)
  | arrives (simTime : Rat) (msg : Arrival)

/-- The host, the packets it has sent, and the error that ended the simulation. -/
structure World where
  victim : UDPWormVictim
  probes : List ProbingPacket := []
  fault : Option Fault := none
  deriving DecidableEq

/-- What one event does. -/
def World.handle (w : World) : Event → Option (Except Fault World)
  | .timerExpires targetAddr =>
      match w.victim.probingTimer with
      | none => none
      | some simTime =>
          some ((w.victim.selfMessage simTime targetAddr).map fun r =>
            { w with victim := r.1, probes := w.probes ++ r.2 })
  | .arrives simTime msg =>
      some ((w.victim.networkMessage simTime msg).map fun v => { w with victim := v })

/-- An error ends the simulation: the event has no effect but that no other follows. -/
def World.settle (w : World) : Except Fault World → World
  | .ok w' => w'
  | .error e => { w with fault := some e }

/-- The worlds after `initialize`, and the events of a host in any order. -/
def system (par : WormParameters) : TSys World Event where
  init w := ∃ simTime draw v, initializeModule par simTime draw = .ok v ∧ w = { victim := v }
  step w e w' := w.fault = none ∧ ∃ r, w.handle e = some r ∧ w' = w.settle r

/-- A limited host has sent at most as many probes as it may, the timer is never
scheduled twice, and a host is active while it has a probing timer pending. -/
structure LifeCycle (par : WormParameters) (w : World) : Prop where
  scheduledOnce : w.fault ≠ some .alreadyScheduled
  limited : 0 ≤ par.maxProbingPackets → (w.probes.length : Int) ≤ par.maxProbingPackets
  active : w.victim.isActive = true ↔ w.victim.probingTimer.isSome

/-- The timer expires while there are probes left to send. -/
def ExpiresInTime (w : World) (e : Event) : Prop :=
  ∀ targetAddr, e = .timerExpires targetAddr → w.victim.maxProbingPackets ≠ 0

/-! ## What the events do -/

section Events

variable {v : UDPWormVictim} {t : Rat}

/-- Without probes left the timer is not set again. -/
theorem selfMessage_exhausted (hmax : v.maxProbingPackets = 0) (targetAddr : IPvXAddress) :
    v.selfMessage t targetAddr = .ok ({ v with probingTimer := none }, []) := by
  simp [selfMessage, hmax]

theorem selfMessage_probes (hmax : v.maxProbingPackets ≠ 0) (targetAddr : IPvXAddress) :
    v.selfMessage t targetAddr = .error .past ∨
      ∃ t' probe, v.selfMessage t targetAddr = .ok ({ v with
        maxProbingPackets := countDown v.maxProbingPackets, probingTimer := some t' }, [probe]) := by
  unfold selfMessage
  rw [if_pos hmax]
  rcases scheduleAt_none_cases t v.probingDelay with h | h
  · left
    simp only [h]
    rfl
  · right
    simp only [h]
    exact ⟨_, _, rfl⟩

/-- A message changes nothing, fails, or makes a vulnerable host active. -/
theorem networkMessage_cases (hpending : v.probingTimer.isSome → v.isActive = true)
    (msg : Arrival) :
    v.networkMessage t msg = .ok v ∨ v.networkMessage t msg = .error .past ∨
      ∃ t', v.networkMessage t msg =
        .ok { v with isActive := true, probingTimer := some t' } := by
  cases msg with
  | other => exact .inl rfl
  | udpPacket wormQuery =>
      by_cases hactive : v.isActive = true
      · exact .inl (by simp [networkMessage, hactive])
      · cases wormQuery with
        | false => exact .inl (by simp [networkMessage])
        | true =>
            have hnone : v.probingTimer = none := by
              by_contra hne
              exact hactive (hpending (Option.isSome_iff_ne_none.mpr hne))
            right
            simp only [networkMessage, hactive, hnone]
            rcases scheduleAt_none_cases t v.probingDelay with h | h
            · simp only [h]
              exact .inl rfl
            · simp only [h]
              exact .inr ⟨_, rfl⟩

end Events

/-! ## The bounds -/

/-- Probes sent and probes left make up the limit, if there is one. -/
def Budget (limit sent left : Int) : Prop :=
  (0 ≤ limit ∧ 0 ≤ left ∧ sent + left = limit) ∨ (limit < 0 ∧ left = limit)

theorem Budget.countDown {limit sent left : Int} (h : Budget limit sent left) (hleft : left ≠ 0) :
    Budget limit (sent + 1) (countDown left) := by
  unfold Budget UDPWormVictim.countDown at *
  split <;> omega

/-- The invariant of every run. -/
structure Bounded (par : WormParameters) (w : World) : Prop where
  scheduledOnce : w.fault ≠ some .alreadyScheduled
  budget : Budget par.maxProbingPackets w.probes.length w.victim.maxProbingPackets
  pending : w.victim.probingTimer.isSome → w.victim.isActive = true

variable {par : WormParameters} {w w' : World} {e : Event}

theorem Bounded.limited (h : Bounded par w) (hlimit : 0 ≤ par.maxProbingPackets) :
    (w.probes.length : Int) ≤ par.maxProbingPackets := by
  rcases h.budget with ⟨-, hleft, hsum⟩ | ⟨hneg, -⟩ <;> omega

/-- What a step does: each branch of `handleMessage`, and the errors of `scheduleAt`. -/
inductive Effect (w : World) : Event → World → Prop
  | ignored {simTime : Rat} {msg : Arrival} : Effect w (.arrives simTime msg) w
  | infected {simTime t : Rat} {msg : Arrival} : Effect w (.arrives simTime msg)
      { w with victim := { w.victim with isActive := true, probingTimer := some t } }
  | infectedPast {simTime : Rat} {msg : Arrival} :
      Effect w (.arrives simTime msg) { w with fault := some .past }
  | probed {targetAddr : IPvXAddress} {t : Rat} {probe : ProbingPacket} :
      w.victim.probingTimer.isSome → w.victim.maxProbingPackets ≠ 0 →
      Effect w (.timerExpires targetAddr) { w with
        victim := { w.victim with
          maxProbingPackets := countDown w.victim.maxProbingPackets, probingTimer := some t }
        probes := w.probes ++ [probe] }
  | probedPast {targetAddr : IPvXAddress} : w.victim.maxProbingPackets ≠ 0 →
      Effect w (.timerExpires targetAddr) { w with fault := some .past }
  | exhausted {targetAddr : IPvXAddress} :
      w.victim.probingTimer.isSome → w.victim.maxProbingPackets = 0 →
      Effect w (.timerExpires targetAddr)
        { w with victim := { w.victim with probingTimer := none } }

theorem step_effect (hpending : w.victim.probingTimer.isSome → w.victim.isActive = true)
    (hstep : (system par).step w e w') : w.fault = none ∧ Effect w e w' := by
  obtain ⟨hfault, r, hr, rfl⟩ := hstep
  refine ⟨hfault, ?_⟩
  cases e with
  | arrives simTime msg =>
      cases hr
      rcases networkMessage_cases (v := w.victim) (t := simTime) hpending msg with h | h | ⟨t, h⟩
      · rw [h]
        exact .ignored
      · rw [h]
        exact .infectedPast
      · rw [h]
        exact .infected
  | timerExpires targetAddr =>
      simp only [World.handle] at hr
      cases htimer : w.victim.probingTimer with
      | none =>
          rw [htimer] at hr
          cases hr
      | some simTime =>
          rw [htimer] at hr
          cases hr
          have hsome : w.victim.probingTimer.isSome := by rw [htimer]; rfl
          by_cases hmax : w.victim.maxProbingPackets = 0
          · -- no packets are left: the timer is not set again
            rw [selfMessage_exhausted hmax]
            have hprobes : w.probes ++ [] = w.probes := List.append_nil _
            simp only [Except.map, World.settle, hprobes]
            exact .exhausted hsome hmax
          · rcases selfMessage_probes hmax targetAddr with h | ⟨t, probe, h⟩
            · rw [h]
              exact .probedPast hmax
            · rw [h]
              exact .probed hsome hmax

/-- The bounds hold whatever happens. -/
theorem Bounded.step (h : Bounded par w) (hstep : (system par).step w e w') : Bounded par w' := by
  obtain ⟨-, heffect⟩ := step_effect h.pending hstep
  cases heffect with
  | ignored => exact h
  | infected => exact ⟨h.scheduledOnce, h.budget, fun _ => rfl⟩
  | infectedPast => exact ⟨by simp, h.budget, h.pending⟩
  | probed hsome hmax =>
      refine ⟨h.scheduledOnce, ?_, fun _ => h.pending hsome⟩
      rw [List.length_append, Nat.cast_add]
      exact h.budget.countDown hmax
  | probedPast => exact ⟨by simp, h.budget, h.pending⟩
  | exhausted _ _ => exact ⟨h.scheduledOnce, h.budget, by simp⟩

/-- The flag and the timer go on agreeing just when the timer expires in time. -/
theorem Bounded.active_step (h : Bounded par w)
    (hactive : w.victim.isActive = true ↔ w.victim.probingTimer.isSome)
    (hstep : (system par).step w e w') :
    (w'.victim.isActive = true ↔ w'.victim.probingTimer.isSome) ↔ ExpiresInTime w e := by
  obtain ⟨-, heffect⟩ := step_effect h.pending hstep
  cases heffect with
  | ignored => simp [ExpiresInTime, hactive]
  | infected => simp [ExpiresInTime]
  | infectedPast => simp [ExpiresInTime, hactive]
  | probed hsome hmax => simp [ExpiresInTime, hmax, h.pending hsome]
  | probedPast hmax => simp [ExpiresInTime, hmax, hactive]
  | exhausted hsome hmax => simp [ExpiresInTime, hmax, h.pending hsome]

/-! ## Whole runs -/

theorem initializeModule_spec (simTime draw : Rat) :
    Post (fun v => v.maxProbingPackets = par.maxProbingPackets ∧
      (v.isActive = true ↔ v.probingTimer.isSome)) (initializeModule par simTime draw) := by
  unfold initializeModule
  by_cases hdraw : par.startProbingProbability > draw
  · simp only [hdraw, decide_true, if_true]
    refine Ensures.bind (Post.intro fun t ht => ?_) fun t ht => ⟨rfl, ht⟩
    rcases scheduleAt_none_cases simTime (par.startProbing + par.startProbingDiff) with h | h
    · rw [h] at ht
      cases ht
    · rw [h] at ht
      cases ht
      simp
  · simp [hdraw]

theorem Bounded.init (hinit : (system par).init w) : Bounded par w ∧
    (w.victim.isActive = true ↔ w.victim.probingTimer.isSome) := by
  obtain ⟨simTime, draw, v, hv, rfl⟩ := hinit
  obtain ⟨hmax, hactive⟩ := (initializeModule_spec simTime draw).of_ok hv
  refine ⟨⟨by simp, ?_, hactive.mpr⟩, hactive⟩
  rw [hmax]
  unfold Budget
  simp
  omega

/-- In every run the timer is never scheduled twice and a limited host sends at most
as many probes as it may. -/
theorem always_bounded {tr : List (Event × World)} (hinit : (system par).init w)
    (hrun : (system par).Run w tr) : TSys.Always (Bounded par) w tr :=
  hrun.always (fun _ _ _ h hstep => h.step hstep) (Bounded.init hinit).1

/-- The life cycle is as documented all along a run just when the timer never expires
at a host that has no probes left. -/
theorem always_lifeCycle_iff {tr : List (Event × World)} (hinit : (system par).init w)
    (hrun : (system par).Run w tr) :
    TSys.Always (LifeCycle par) w tr ↔ TSys.Guarded ExpiresInTime w tr := by
  obtain ⟨hbounded, hactive⟩ := Bounded.init hinit
  refine hrun.always_iff_guarded (I := Bounded par) ?_ ?_ hbounded
    ⟨hbounded.scheduledOnce, hbounded.limited, hactive⟩
  · intro w e w' h hstep
    exact h.step hstep
  · intro w e w' h hlife hstep
    have hstep' : Bounded par w' := h.step hstep
    constructor
    · intro hlife'
      exact (h.active_step hlife.active hstep).mp hlife'.active
    · intro htime
      exact ⟨hstep'.scheduledOnce, hstep'.limited, (h.active_step hlife.active hstep).mpr htime⟩

/-- A host that starts to probe after one second and may send one packet. -/
def onePacket : WormParameters where
  timeBetweenProbingPackets := 1
  maxProbingPackets := 1
  sourcePort := 4000
  listenAndVictimPort := 4000
  probingPacketLength := 404
  attackTag := 0
  addressRangeStart := 10
  addressRangeEnd := 20
  startProbing := 1
  startProbingDiff := 0
  startProbingProbability := 1

/-- The host with `left` packets left. -/
def onePacketHost (left : Int) (timer : Timer) : UDPWormVictim where
  probingDelay := 1
  maxProbingPackets := left
  sourcePort := 4000
  victimPort := 4000
  packetLength := 404
  attackTag := 10000
  addrStart := 10
  addrEnd := 20
  startTime := 1
  isActive := true
  probingTimer := timer

def probeTo (destAddr : IPvXAddress) : ProbingPacket := ⟨404, 4000, 4000, destAddr, 10000⟩

theorem onePacket_init : (system onePacket).init { victim := onePacketHost 1 (some 1) } :=
  ⟨0, 0, _, by decide +kernel, rfl⟩

/-- The timer expires and the one packet is sent. -/
def firstExpiry : Event × World :=
  (.timerExpires 15, { victim := onePacketHost 0 (some 2), probes := [probeTo 15] })

theorem firstExpiry_step :
    (system onePacket).step { victim := onePacketHost 1 (some 1) } firstExpiry.1 firstExpiry.2 :=
  ⟨rfl, _, rfl, by decide +kernel⟩

/-- Up to here the life cycle is as documented. -/
theorem always_lifeCycle_firstExpiry :
    TSys.Always (LifeCycle onePacket) { victim := onePacketHost 1 (some 1) } [firstExpiry] := by
  have hrun : (system onePacket).Run { victim := onePacketHost 1 (some 1) } [firstExpiry] :=
    ⟨firstExpiry_step, trivial⟩
  refine (always_lifeCycle_iff onePacket_init hrun).mpr ⟨?_, trivial⟩
  intro targetAddr _
  decide

/-- The timer expires again. -/
def secondExpiry : Event × World :=
  (.timerExpires 16, { victim := onePacketHost 0 none, probes := [probeTo 15] })

theorem active_after_secondExpiry :
    (system onePacket).init { victim := onePacketHost 1 (some 1) } ∧
      (system onePacket).Run { victim := onePacketHost 1 (some 1) } [firstExpiry, secondExpiry] ∧
      ¬ TSys.Always (LifeCycle onePacket) { victim := onePacketHost 1 (some 1) }
        [firstExpiry, secondExpiry] := by
  have hstep : (system onePacket).step firstExpiry.2 secondExpiry.1 secondExpiry.2 :=
    ⟨rfl, _, rfl, rfl⟩
  refine ⟨onePacket_init, ⟨firstExpiry_step, hstep, trivial⟩, ?_⟩
  intro halways
  exact absurd (halways.last.active.mp rfl) (by decide)

end UDPWormVictim

end ScadaSim.Attack
