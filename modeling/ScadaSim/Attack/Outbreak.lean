import Mathlib.Data.Fintype.Card
import ScadaSim.Attack.UDPWormVictim
import ScadaSim.Lib.Doubling

/-!
# The outbreak of a worm

All worm hosts of a network, with the probing packets that are on their way between them.
Packets may be lost, and come in in any order; events are in the order of their times.

* `outbreak_bounded`: however the packets travel, the active hosts at most double in every
  probing interval.
* `outbreak_contained`: a host becomes active only if a chain of address ranges leads to it
  from a host that is active at the start, and not before there was time for the chain.
-/

namespace ScadaSim.Attack

open Lib Lib.Doubling UDPWormVictim Traffic

/-- The worm hosts of a network. -/
structure WormNetwork (Host : Type) where
  par : Host → WormParameters
  address : Host → IPvXAddress

/-- A probing packet on its way. Who sent it, and when, is written down for the proofs. -/
structure Flying (Host : Type) where
  sender : Host
  sentAt : Rat
  packet : ProbingPacket
  deriving DecidableEq

structure Outbreak (Host : Type) where
  now : Rat
  victim : Host → UDPWormVictim
  flight : List (Flying Host) := []
  fault : Option Fault := none

namespace WormNetwork

/-- A timer expires, a packet reaches its host or is lost, or other traffic arrives. -/
inductive Event (Host : Type)
  | expires (h : Host) (targetAddr : IPvXAddress)
  | delivers (p : Flying Host) (h : Host) (simTime : Rat)
  | loses (p : Flying Host) (simTime : Rat)
  | arrives (h : Host) (simTime : Rat) (msg : Arrival)

variable {Host : Type} [DecidableEq Host]

/-- What one event does, where it can happen. -/
def handle (net : WormNetwork Host) (w : Outbreak Host) :
    Event Host → Option (Except Fault (Outbreak Host))
  | .expires h targetAddr =>
      match (w.victim h).probingTimer with
      | none => none
      | some simTime =>
          if w.now ≤ simTime ∧ (w.victim h).addrStart ≤ targetAddr ∧
              targetAddr ≤ (w.victim h).addrEnd then
            some (((w.victim h).selfMessage simTime targetAddr).map fun r =>
              { w with
                now := simTime
                victim := Function.update w.victim h r.1
                flight := r.2.map (Flying.mk h simTime) ++ w.flight })
          else none
  | .delivers p h simTime =>
      if p ∈ w.flight ∧ w.now ≤ simTime ∧ net.address h = p.packet.destAddr then
        some (((w.victim h).networkMessage simTime (.udpPacket true)).map fun v =>
          { w with
            now := simTime
            victim := Function.update w.victim h v
            flight := w.flight.erase p })
      else none
  | .loses p simTime =>
      if p ∈ w.flight ∧ w.now ≤ simTime then
        some (.ok { w with now := simTime, flight := w.flight.erase p })
      else none
  | .arrives h simTime msg =>
      match msg with
      | .udpPacket true => none
      | _ =>
          if w.now ≤ simTime then
            some (((w.victim h).networkMessage simTime msg).map fun v =>
              { w with now := simTime, victim := Function.update w.victim h v })
          else none

/-- An error ends the simulation. -/
def settle (w : Outbreak Host) : Except Fault (Outbreak Host) → Outbreak Host
  | .ok w' => w'
  | .error e => { w with fault := some e }

/-- The hosts are initialised at time zero, and then events happen in any order. -/
def system (net : WormNetwork Host) : TSys (Outbreak Host) (Event Host) where
  init w := w.now = 0 ∧ w.flight = [] ∧ w.fault = none ∧
    ∀ h, ∃ draw, initializeModule (net.par h) 0 draw = .ok (w.victim h)
  step w e w' := w.fault = none ∧ ∃ r, net.handle w e = some r ∧ w' = settle w r

/-! ## What the events do -/

section Events

variable {v : UDPWormVictim} {t : Rat}

theorem selfMessage_fires (hmax : v.maxProbingPackets ≠ 0) (hdelay : 0 ≤ v.probingDelay)
    (targetAddr : IPvXAddress) :
    v.selfMessage t targetAddr = .ok ({ v with
        maxProbingPackets := countDown v.maxProbingPackets
        probingTimer := some (t + v.probingDelay) }, [v.sendProbingPacket targetAddr]) := by
  unfold selfMessage
  rw [if_pos hmax]
  unfold scheduleAt
  simp only [if_neg (not_lt.mpr hdelay)]
  rfl

theorem networkMessage_active (h : v.isActive = true) (msg : Arrival) :
    v.networkMessage t msg = .ok v := by
  cases msg with
  | udpPacket wormQuery =>
      unfold networkMessage
      dsimp only
      rw [if_pos h]
  | other => rfl

theorem networkMessage_infects (h : v.isActive = false) (hnone : v.probingTimer = none)
    (hdelay : 0 ≤ v.probingDelay) :
    v.networkMessage t (.udpPacket true) =
      .ok { v with isActive := true, probingTimer := some (t + v.probingDelay) } := by
  unfold networkMessage
  dsimp only
  rw [h, if_neg Bool.false_ne_true, if_pos rfl, hnone]
  unfold scheduleAt
  simp only [if_neg (not_lt.mpr hdelay)]
  rfl

/-- Traffic without a worm query changes nothing. -/
theorem networkMessage_other {msg : Arrival} (h : msg ≠ .udpPacket true) :
    v.networkMessage t msg = .ok v := by
  cases msg with
  | other => rfl
  | udpPacket wormQuery =>
      cases wormQuery with
      | true => exact absurd rfl h
      | false =>
          unfold networkMessage
          dsimp only
          rw [if_neg Bool.false_ne_true]
          split
          · rfl
          · rfl

end Events

/-- What holds in every state. -/
structure Consistent (net : WormNetwork Host) (w : Outbreak Host) : Prop where
  delay : ∀ h, (w.victim h).probingDelay = (net.par h).timeBetweenProbingPackets
  range : ∀ h, (w.victim h).addrStart = (net.par h).addressRangeStart ∧
    (w.victim h).addrEnd = (net.par h).addressRangeEnd
  pending : ∀ h, (w.victim h).probingTimer.isSome → (w.victim h).isActive = true
  sent : ∀ p ∈ w.flight, p.sentAt ≤ w.now

/-- What a step does, where no delay is negative. -/
inductive Effect (net : WormNetwork Host) (w : Outbreak Host) : Event Host → Outbreak Host → Prop
  | probes {h : Host} {targetAddr : IPvXAddress} {t : Rat} :
      (w.victim h).probingTimer = some t → w.now ≤ t →
      (net.par h).addressRangeStart ≤ targetAddr → targetAddr ≤ (net.par h).addressRangeEnd →
      Effect net w (.expires h targetAddr) { w with
        now := t
        victim := Function.update w.victim h { w.victim h with
          maxProbingPackets := countDown (w.victim h).maxProbingPackets
          probingTimer := some (t + (w.victim h).probingDelay) }
        flight := ⟨h, t, (w.victim h).sendProbingPacket targetAddr⟩ :: w.flight }
  | retires {h : Host} {targetAddr : IPvXAddress} {t : Rat} :
      (w.victim h).probingTimer = some t → w.now ≤ t →
      Effect net w (.expires h targetAddr) { w with
        now := t
        victim := Function.update w.victim h { w.victim h with probingTimer := none } }
  | infects {p : Flying Host} {h : Host} {t : Rat} :
      p ∈ w.flight → w.now ≤ t → net.address h = p.packet.destAddr →
      (w.victim h).isActive = false →
      Effect net w (.delivers p h t) { w with
        now := t
        victim := Function.update w.victim h { w.victim h with
          isActive := true
          probingTimer := some (t + (w.victim h).probingDelay) }
        flight := w.flight.erase p }
  | ignores {p : Flying Host} {h : Host} {t : Rat} : p ∈ w.flight → w.now ≤ t →
      Effect net w (.delivers p h t) { w with now := t, flight := w.flight.erase p }
  | loses {p : Flying Host} {t : Rat} : p ∈ w.flight → w.now ≤ t →
      Effect net w (.loses p t) { w with now := t, flight := w.flight.erase p }
  | passes {h : Host} {t : Rat} {msg : Arrival} : w.now ≤ t →
      Effect net w (.arrives h t msg) { w with now := t }

variable {net : WormNetwork Host} {w w' : Outbreak Host} {e : Event Host}

theorem step_effect (hpositive : ∀ h, 0 ≤ (net.par h).timeBetweenProbingPackets)
    (hw : Consistent net w) (hstep : net.system.step w e w') : Effect net w e w' := by
  obtain ⟨-, r, hr, rfl⟩ := hstep
  have hdelay : ∀ h, 0 ≤ (w.victim h).probingDelay := fun h => (hw.delay h).symm ▸ hpositive h
  cases e with
  | expires h targetAddr =>
      unfold handle at hr
      dsimp only at hr
      cases htimer : (w.victim h).probingTimer with
      | none =>
          rw [htimer] at hr
          cases hr
      | some t =>
          rw [htimer] at hr
          dsimp only at hr
          split at hr
          · rename_i hcan
            obtain ⟨hnow, hfrom, hto⟩ := hcan
            rw [(hw.range h).1] at hfrom
            rw [(hw.range h).2] at hto
            cases hr
            by_cases hmax : (w.victim h).maxProbingPackets = 0
            · rw [selfMessage_exhausted hmax]
              exact .retires htimer hnow
            · rw [selfMessage_fires hmax (hdelay h)]
              exact .probes htimer hnow hfrom hto
          · cases hr
  | delivers p h t =>
      unfold handle at hr
      dsimp only at hr
      split at hr
      · rename_i hcan
        obtain ⟨hp, hnow, haddr⟩ := hcan
        cases hr
        cases hactive : (w.victim h).isActive with
        | true =>
            rw [networkMessage_active hactive]
            show Effect net w _ { w with
              now := t, victim := Function.update w.victim h (w.victim h),
              flight := w.flight.erase p }
            rw [Function.update_eq_self]
            exact .ignores hp hnow
        | false =>
            have hnone : (w.victim h).probingTimer = none := by
              by_contra hne
              have hsome := hw.pending h (Option.isSome_iff_ne_none.mpr hne)
              rw [hactive] at hsome
              cases hsome
            rw [networkMessage_infects hactive hnone (hdelay h)]
            exact .infects hp hnow haddr hactive
      · cases hr
  | loses p t =>
      unfold handle at hr
      dsimp only at hr
      split at hr
      · rename_i hcan
        cases hr
        exact .loses hcan.1 hcan.2
      · cases hr
  | arrives h t msg =>
      by_cases hmsg : msg = .udpPacket true
      · rw [hmsg] at hr
        cases hr
      · have hhandle : net.handle w (.arrives h t msg) =
            if w.now ≤ t then
              some (((w.victim h).networkMessage t msg).map fun v =>
                { w with now := t, victim := Function.update w.victim h v })
            else none := by
          cases msg with
          | other => rfl
          | udpPacket wormQuery =>
              cases wormQuery with
              | true => exact absurd rfl hmsg
              | false => rfl
        rw [hhandle] at hr
        split at hr
        · rename_i hnow
          cases hr
          rw [networkMessage_other hmsg]
          show Effect net w _ { w with
            now := t, victim := Function.update w.victim h (w.victim h) }
          rw [Function.update_eq_self]
          exact .passes hnow
        · cases hr

/-! ## The invariant -/

theorem Consistent.init (hinit : net.system.init w) : Consistent net w ∧
    ∀ h, (w.victim h).isActive = true →
      (w.victim h).probingTimer =
        some ((net.par h).startProbing + (net.par h).startProbingDiff) := by
  obtain ⟨-, hflight, -, hhosts⟩ := hinit
  have hspec : ∀ h, (w.victim h).probingDelay = (net.par h).timeBetweenProbingPackets ∧
      (w.victim h).addrStart = (net.par h).addressRangeStart ∧
      (w.victim h).addrEnd = (net.par h).addressRangeEnd ∧
      (w.victim h).probingTimer = if (w.victim h).isActive then
        some ((net.par h).startProbing + (net.par h).startProbingDiff) else none := by
    intro h
    obtain ⟨draw, hdraw⟩ := hhosts h
    unfold initializeModule at hdraw
    by_cases hactive : (net.par h).startProbingProbability > draw
    · unfold scheduleAt at hdraw
      simp only [hactive, decide_true, if_true] at hdraw
      split at hdraw
      · cases hdraw
      · have hv := Except.ok.inj hdraw
        rw [← hv]
        exact ⟨rfl, rfl, rfl, by rw [if_pos rfl, zero_add]⟩
    · simp only [hactive, decide_false, Bool.false_eq_true, if_false] at hdraw
      have hv := Except.ok.inj hdraw
      rw [← hv]
      exact ⟨rfl, rfl, rfl, rfl⟩
  refine ⟨⟨fun h => (hspec h).1, fun h => ⟨(hspec h).2.1, (hspec h).2.2.1⟩, fun h hsome => ?_,
    fun p hp => ?_⟩, fun h hactive => ?_⟩
  · rw [(hspec h).2.2.2] at hsome
    split at hsome
    · assumption
    · cases hsome
  · rw [hflight] at hp
    cases hp
  · rw [(hspec h).2.2.2, if_pos hactive]

theorem Consistent.step (h : Consistent net w) (heffect : Effect net w e w') :
    Consistent net w' := by
  -- a change of one host that keeps the parameters
  have hkeep : ∀ (h' : Host) (v : UDPWormVictim),
      v.probingDelay = (w.victim h').probingDelay → v.addrStart = (w.victim h').addrStart →
      v.addrEnd = (w.victim h').addrEnd → (v.probingTimer.isSome → v.isActive = true) →
      ∀ k, (Function.update w.victim h' v k).probingDelay =
          (net.par k).timeBetweenProbingPackets ∧
        ((Function.update w.victim h' v k).addrStart = (net.par k).addressRangeStart ∧
          (Function.update w.victim h' v k).addrEnd = (net.par k).addressRangeEnd) ∧
        ((Function.update w.victim h' v k).probingTimer.isSome →
          (Function.update w.victim h' v k).isActive = true) := by
    intro h' v hdelay hfrom hto hpending k
    by_cases hk : k = h'
    · rw [hk, Function.update_self, hdelay, hfrom, hto]
      exact ⟨h.delay h', h.range h', hpending⟩
    · rw [Function.update_of_ne hk]
      exact ⟨h.delay k, h.range k, h.pending k⟩
  have hlater : ∀ {t : Rat} {l : List (Flying Host)}, w.now ≤ t → (∀ p ∈ l, p ∈ w.flight) →
      ∀ p ∈ l, p.sentAt ≤ t := fun hnow hsub p hp => (h.sent p (hsub p hp)).trans hnow
  cases heffect with
  | probes htimer hnow hfrom hto =>
      rename_i h' targetAddr t
      have hactive : (w.victim h').isActive = true := h.pending h' (by rw [htimer]; rfl)
      have hall := hkeep h' { w.victim h' with
        maxProbingPackets := countDown (w.victim h').maxProbingPackets
        probingTimer := some (t + (w.victim h').probingDelay) } rfl rfl rfl fun _ => hactive
      refine ⟨fun k => (hall k).1, fun k => (hall k).2.1, fun k => (hall k).2.2, fun p hp => ?_⟩
      rcases List.mem_cons.mp hp with rfl | hold
      · exact le_rfl
      · exact hlater hnow (fun _ hq => hq) p hold
  | retires htimer hnow =>
      rename_i h' targetAddr t
      have hall := hkeep h' { w.victim h' with probingTimer := none } rfl rfl rfl
        fun hsome => by cases hsome
      exact ⟨fun k => (hall k).1, fun k => (hall k).2.1, fun k => (hall k).2.2,
        hlater hnow fun _ hp => hp⟩
  | infects hp hnow haddr hvulnerable =>
      rename_i p h' t
      have hall := hkeep h' { w.victim h' with
        isActive := true
        probingTimer := some (t + (w.victim h').probingDelay) } rfl rfl rfl fun _ => rfl
      exact ⟨fun k => (hall k).1, fun k => (hall k).2.1, fun k => (hall k).2.2,
        hlater hnow fun _ hmem => List.mem_of_mem_erase hmem⟩
  | ignores _ hnow =>
      exact ⟨h.delay, h.range, h.pending, hlater hnow fun _ hp => List.mem_of_mem_erase hp⟩
  | loses _ hnow =>
      exact ⟨h.delay, h.range, h.pending, hlater hnow fun _ hp => List.mem_of_mem_erase hp⟩
  | passes hnow => exact ⟨h.delay, h.range, h.pending, hlater hnow fun _ hp => hp⟩

/-! ## The population -/

/-- When the active hosts of some hosts are due. -/
def dueOf (victim : Host → UDPWormVictim) (hosts : Multiset Host) : Multiset (Option Rat) :=
  (hosts.filter fun h => (victim h).isActive = true).map fun h => (victim h).probingTimer

omit [DecidableEq Host] in
theorem dueOf_cons_active {victim : Host → UDPWormVictim} {h : Host}
    (hactive : (victim h).isActive = true) (hosts : Multiset Host) :
    dueOf victim (h ::ₘ hosts) = (victim h).probingTimer ::ₘ dueOf victim hosts := by
  unfold dueOf
  rw [Multiset.filter_cons_of_pos (p := fun h => (victim h).isActive = true) _ hactive,
    Multiset.map_cons]

omit [DecidableEq Host] in
theorem dueOf_cons_vulnerable {victim : Host → UDPWormVictim} {h : Host}
    (hactive : (victim h).isActive = false) (hosts : Multiset Host) :
    dueOf victim (h ::ₘ hosts) = dueOf victim hosts := by
  unfold dueOf
  rw [Multiset.filter_cons_of_neg]
  rw [hactive]
  exact Bool.false_ne_true

/-- The other hosts do not notice. -/
theorem dueOf_update (victim : Host → UDPWormVictim) (h : Host) (v : UDPWormVictim)
    {hosts : Multiset Host} (hnot : h ∉ hosts) :
    dueOf (Function.update victim h v) hosts = dueOf victim hosts := by
  have hsame : ∀ k ∈ hosts, Function.update victim h v k = victim k := by
    intro k hk
    have hne : k ≠ h := fun heq => hnot (heq ▸ hk)
    exact Function.update_of_ne hne v victim
  unfold dueOf
  have hfilter : hosts.filter (fun k => (Function.update victim h v k).isActive = true) =
      hosts.filter fun k => (victim k).isActive = true :=
    Multiset.filter_congr fun k hk => by rw [hsame k hk]
  rw [hfilter]
  exact Multiset.map_congr rfl fun k hk => by rw [hsame k (Multiset.mem_of_mem_filter hk)]

/-- A packet less is an offspring less. -/
theorem young_erase {flight : List (Flying Host)} {p : Flying Host} (hp : p ∈ flight) :
    ((flight.map Flying.sentAt : List Rat) : Multiset Rat) =
      p.sentAt ::ₘ ((flight.erase p).map Flying.sentAt : List Rat) :=
  Multiset.coe_eq_coe.mpr ((List.perm_cons_erase hp).map Flying.sentAt)

section Population

variable [Fintype Host]

def activeHosts (victim : Host → UDPWormVictim) : Finset Host :=
  Finset.univ.filter fun h => (victim h).isActive = true

/-- The active hosts as a population: they beget probing packets. -/
def population (w : Outbreak Host) : Population where
  now := w.now
  due := dueOf w.victim Finset.univ.val
  young := (w.flight.map Flying.sentAt : List Rat)

omit [DecidableEq Host] in
theorem card_population (w : Outbreak Host) :
    (population w).due.card = (activeHosts w.victim).card :=
  Multiset.card_map _ _

theorem univ_cons (h : Host) :
    ∃ others : Multiset Host, (Finset.univ : Finset Host).val = h ::ₘ others ∧ h ∉ others := by
  refine ⟨(Finset.univ : Finset Host).val.erase h,
    (Multiset.cons_erase (Finset.mem_univ h)).symm, fun hmem => ?_⟩
  exact (Multiset.Nodup.mem_erase_iff Finset.univ.nodup).mp hmem |>.1 rfl

/-- Every step of the outbreak is one of the population. -/
theorem Effect.population_step {δ : Rat}
    (hdelay : ∀ h, δ ≤ (net.par h).timeBetweenProbingPackets) (hw : Consistent net w)
    (heffect : Effect net w e w') : Step δ (population w) (population w') := by
  have hnext : ∀ (h : Host) (t : Rat), t + δ ≤ t + (w.victim h).probingDelay := by
    intro h t
    have hle := hdelay h
    rw [← hw.delay h] at hle
    exact add_le_add le_rfl hle
  cases heffect with
  | probes htimer hnow hfrom hto =>
      rename_i h targetAddr t
      have hactive : (w.victim h).isActive = true := hw.pending h (by rw [htimer]; rfl)
      obtain ⟨others, huniv, hnot⟩ := univ_cons h
      unfold population
      dsimp only
      rw [huniv, dueOf_cons_active hactive, htimer, dueOf_cons_active, dueOf_update _ _ _ hnot,
        Function.update_self]
      · exact .beget hnow (hnext h t)
      · rw [Function.update_self]
        exact hactive
  | retires htimer hnow =>
      rename_i h targetAddr t
      have hactive : (w.victim h).isActive = true := hw.pending h (by rw [htimer]; rfl)
      obtain ⟨others, huniv, hnot⟩ := univ_cons h
      unfold population
      dsimp only
      rw [huniv, dueOf_cons_active hactive, htimer, dueOf_cons_active, dueOf_update _ _ _ hnot,
        Function.update_self]
      · exact .giveUp hnow
      · rw [Function.update_self]
        exact hactive
  | infects hp hnow haddr hvulnerable =>
      rename_i p h t
      obtain ⟨others, huniv, hnot⟩ := univ_cons h
      unfold population
      dsimp only
      rw [huniv, dueOf_cons_vulnerable hvulnerable, dueOf_cons_active, dueOf_update _ _ _ hnot,
        Function.update_self, young_erase hp]
      · exact .birth hnow ((hw.sent p hp).trans hnow) (hnext h t)
      · rw [Function.update_self]
  | ignores hp hnow =>
      unfold population
      rw [young_erase hp]
      exact .loss hnow
  | loses hp hnow =>
      unfold population
      rw [young_erase hp]
      exact .loss hnow
  | passes hnow => exact .wait hnow

/-- In any time the active hosts at most double with every probing interval: `δ` is the
shortest interval and `start` the earliest time to begin. -/
theorem outbreak_bounded {δ start : Rat} (hδ : 0 < δ)
    (hdelay : ∀ h, δ ≤ (net.par h).timeBetweenProbingPackets)
    (hstart : ∀ h, start ≤ (net.par h).startProbing + (net.par h).startProbingDiff)
    {tr : List (Event Host × Outbreak Host)} (hinit : net.system.init w)
    (hrun : net.system.Run w tr) :
    TSys.Always (fun w' => (activeHosts w'.victim).card ≤
      (activeHosts w.victim).card * 2 ^ rounds δ w'.now start) w tr := by
  obtain ⟨hconsistent, htimers⟩ := Consistent.init hinit
  have hpositive : ∀ h, 0 ≤ (net.par h).timeBetweenProbingPackets := fun h =>
    hδ.le.trans (hdelay h)
  have hrefines := hrun.always
    (I := fun w' => Consistent net w' ∧
      Relation.ReflTransGen (Step δ) (population w) (population w'))
    (fun w₁ e w₂ hI hstep => by
      have heffect := step_effect hpositive hI.1 hstep
      exact ⟨hI.1.step heffect, hI.2.tail (heffect.population_step hdelay hI.1)⟩)
    ⟨hconsistent, .refl⟩
  refine hrefines.mono fun w' hw' => ?_
  have hdue : ∀ o ∈ (population w).due, ∀ t, o = some t → start ≤ t := by
    intro o ho t hot
    obtain ⟨h, hmem, htimer⟩ := Multiset.mem_map.mp ho
    rw [htimers h (Multiset.mem_filter.mp hmem).2, hot] at htimer
    rw [← Option.some.inj htimer]
    exact hstart h
  have hyoung : (population w).young = 0 := by
    unfold population
    rw [hinit.2.1]
    rfl
  have hcard := card_le hδ hdue hyoung hw'.2
  rw [card_population, card_population] at hcard
  exact hcard

/-- Two hosts; the first one is infected from the start. -/
def twoHosts : WormNetwork Bool where
  par h := { onePacket with startProbingProbability := bif h then 0 else 1 }
  address h := bif h then 15 else 10

/-- A host that no worm has reached yet. -/
def vulnerableHost : UDPWormVictim := { onePacketHost 1 none with isActive := false }

def twoHostsStart : Outbreak Bool where
  now := 0
  victim h := bif h then vulnerableHost else onePacketHost 1 (some 1)
  flight := []

/-- The first host happens to probe the second one. -/
def firstProbe : Event Bool × Outbreak Bool :=
  (.expires false 15, {
    now := 1
    victim := Function.update twoHostsStart.victim false (onePacketHost 0 (some 2))
    flight := [⟨false, 1, probeTo 15⟩] })

def secondInfected : Event Bool × Outbreak Bool :=
  (.delivers ⟨false, 1, probeTo 15⟩ true 1, {
    now := 1
    victim := Function.update firstProbe.2.victim true (onePacketHost 1 (some 2))
    flight := firstProbe.2.flight.erase ⟨false, 1, probeTo 15⟩ })

theorem twoHosts_init : twoHosts.system.init twoHostsStart := by
  refine ⟨rfl, rfl, rfl, fun h => ⟨0, ?_⟩⟩
  cases h with
  | false => decide +kernel
  | true => decide +kernel

theorem twoHosts_run : twoHosts.system.Run twoHostsStart [firstProbe, secondInfected] := by
  have hprobe : (onePacketHost 1 (some 1)).selfMessage 1 15 =
      .ok (onePacketHost 0 (some 2), [probeTo 15]) := by decide +kernel
  have hinfected : vulnerableHost.networkMessage 1 (.udpPacket true) =
      .ok (onePacketHost 1 (some 2)) := by decide +kernel
  refine ⟨⟨rfl, _, rfl, ?_⟩, ⟨rfl, _, rfl, ?_⟩, trivial⟩
  · show firstProbe.2 = settle _ (Except.map _ ((onePacketHost 1 (some 1)).selfMessage 1 15))
    rw [hprobe]
    rfl
  · show secondInfected.2 = settle _
      (Except.map _ (vulnerableHost.networkMessage 1 (.udpPacket true)))
    rw [hinfected]
    rfl

theorem twoHosts_delay (h : Bool) : (1 : Rat) ≤ (twoHosts.par h).timeBetweenProbingPackets :=
  le_rfl

theorem twoHosts_startProbing (h : Bool) :
    (1 : Rat) ≤ (twoHosts.par h).startProbing + (twoHosts.par h).startProbingDiff :=
  le_add_of_nonneg_right le_rfl

/-- The bound is reached: after the first probe both hosts are active. -/
theorem outbreak_bounded_twoHosts :
    (activeHosts secondInfected.2.victim).card = 2 ∧
      (activeHosts secondInfected.2.victim).card ≤
        (activeHosts twoHostsStart.victim).card * 2 ^ rounds 1 1 1 :=
  ⟨by decide, (outbreak_bounded one_pos twoHosts_delay twoHosts_startProbing twoHosts_init
    twoHosts_run).last⟩

end Population

/-! ## Who can be reached -/

/-- A chain of `k` address ranges leads to the host from one of the first. -/
inductive Generation (net : WormNetwork Host) (first : Host → Prop) : Nat → Host → Prop
  | first {h : Host} : first h → Generation net first 0 h
  | hop {k : Nat} {g h : Host} : Generation net first k g →
      (net.par g).addressRangeStart ≤ net.address h →
      net.address h ≤ (net.par g).addressRangeEnd → Generation net first (k + 1) h

/-- There is a chain to every active host and to the sender of every packet, and there was
time for it. -/
structure Contained (net : WormNetwork Host) (δ start : Rat) (first : Host → Prop)
    (w : Outbreak Host) : Prop where
  hosts : ∀ h, (w.victim h).isActive = true → ∃ k, Generation net first k h ∧
    k ≤ rounds δ w.now start ∧ ∀ t, (w.victim h).probingTimer = some t → start + k * δ ≤ t
  packets : ∀ p ∈ w.flight, ∃ k, Generation net first k p.sender ∧ start + k * δ ≤ p.sentAt ∧
    (net.par p.sender).addressRangeStart ≤ p.packet.destAddr ∧
    p.packet.destAddr ≤ (net.par p.sender).addressRangeEnd

theorem Contained.step {δ start : Rat} {first : Host → Prop} (hδ : 0 < δ)
    (hdelay : ∀ h, δ ≤ (net.par h).timeBetweenProbingPackets) (hw : Consistent net w)
    (h : Contained net δ start first w) (heffect : Effect net w e w') :
    Contained net δ start first w' := by
  have hnext : ∀ h, δ ≤ (w.victim h).probingDelay := fun h => (hw.delay h).symm ▸ hdelay h
  -- the hosts that do not change
  have hothers : ∀ {t : Rat}, w.now ≤ t → ∀ k, (w.victim k).isActive = true →
      ∃ n, Generation net first n k ∧ n ≤ rounds δ t start ∧
        ∀ t', (w.victim k).probingTimer = some t' → start + n * δ ≤ t' := by
    intro t hnow k hactive
    obtain ⟨n, hn, hrounds, htimer⟩ := h.hosts k hactive
    exact ⟨n, hn, hrounds.trans (rounds_mono hδ hnow), htimer⟩
  cases heffect with
  | probes htimer hnow hfrom hto =>
      rename_i g targetAddr t
      have hactive : (w.victim g).isActive = true := hw.pending g (by rw [htimer]; rfl)
      obtain ⟨n, hn, hrounds, hdue⟩ := hothers hnow g hactive
      have hsent := hdue t htimer
      refine ⟨fun k hk => ?_, fun p hp => ?_⟩
      · by_cases hkg : k = g
        · subst hkg
          refine ⟨n, hn, hrounds, fun t' ht' => ?_⟩
          dsimp only at ht'
          rw [Function.update_self] at ht'
          rw [← Option.some.inj ht']
          have hpositive := hδ.trans_le (hnext k)
          linarith
        · dsimp only at hk ⊢
          rw [Function.update_of_ne hkg] at hk ⊢
          exact hothers hnow k hk
      · rcases List.mem_cons.mp hp with rfl | hold
        · exact ⟨n, hn, hsent, hfrom, hto⟩
        · exact h.packets p hold
  | retires htimer hnow =>
      rename_i g targetAddr t
      have hactive : (w.victim g).isActive = true := hw.pending g (by rw [htimer]; rfl)
      refine ⟨fun k hk => ?_, h.packets⟩
      by_cases hkg : k = g
      · subst hkg
        obtain ⟨n, hn, hrounds, -⟩ := hothers hnow k hactive
        refine ⟨n, hn, hrounds, fun t' ht' => ?_⟩
        dsimp only at ht'
        rw [Function.update_self] at ht'
        cases ht'
      · dsimp only at hk ⊢
        rw [Function.update_of_ne hkg] at hk ⊢
        exact hothers hnow k hk
  | infects hp hnow haddr hvulnerable =>
      rename_i p g t
      obtain ⟨n, hn, hsent, hfrom, hto⟩ := h.packets p hp
      rw [← haddr] at hfrom hto
      have hlate : start + n * δ ≤ t := hsent.trans ((hw.sent p hp).trans hnow)
      refine ⟨fun k hk => ?_, fun q hq => h.packets q (List.mem_of_mem_erase hq)⟩
      by_cases hkg : k = g
      · subst hkg
        refine ⟨n + 1, .hop hn hfrom hto, le_rounds hδ hlate, fun t' ht' => ?_⟩
        dsimp only at ht'
        rw [Function.update_self] at ht'
        rw [← Option.some.inj ht', Nat.cast_succ]
        have hstep := hnext k
        linarith
      · dsimp only at hk ⊢
        rw [Function.update_of_ne hkg] at hk ⊢
        exact hothers hnow k hk
  | ignores hp hnow =>
      exact ⟨hothers hnow, fun q hq => h.packets q (List.mem_of_mem_erase hq)⟩
  | loses hp hnow => exact ⟨hothers hnow, fun q hq => h.packets q (List.mem_of_mem_erase hq)⟩
  | passes hnow => exact ⟨hothers hnow, h.packets⟩

/-- A host is active only if a chain of address ranges leads to it from a host that was
active at the start, with no more links than there were probing intervals. -/
theorem outbreak_contained {δ start : Rat} (hδ : 0 < δ)
    (hdelay : ∀ h, δ ≤ (net.par h).timeBetweenProbingPackets)
    (hstart : ∀ h, start ≤ (net.par h).startProbing + (net.par h).startProbingDiff)
    {tr : List (Event Host × Outbreak Host)} (hinit : net.system.init w)
    (hrun : net.system.Run w tr) :
    TSys.Always (fun w' => ∀ h, (w'.victim h).isActive = true →
      ∃ k ≤ rounds δ w'.now start,
        Generation net (fun g => (w.victim g).isActive = true) k h) w tr := by
  obtain ⟨hconsistent, htimers⟩ := Consistent.init hinit
  have hpositive : ∀ h, 0 ≤ (net.par h).timeBetweenProbingPackets := fun h =>
    hδ.le.trans (hdelay h)
  have hfirst : Contained net δ start (fun g => (w.victim g).isActive = true) w := by
    refine ⟨fun h hactive => ⟨0, .first hactive, Nat.zero_le _, fun t ht => ?_⟩, fun p hp => ?_⟩
    · rw [htimers h hactive] at ht
      rw [← Option.some.inj ht, Nat.cast_zero, zero_mul, add_zero]
      exact hstart h
    · rw [hinit.2.1] at hp
      cases hp
  have hcontained := hrun.always
    (I := fun w' => Consistent net w' ∧
      Contained net δ start (fun g => (w.victim g).isActive = true) w')
    (fun w₁ e w₂ hI hstep => by
      have heffect := step_effect hpositive hI.1 hstep
      exact ⟨hI.1.step heffect, hI.2.step hδ hdelay hI.1 heffect⟩)
    ⟨hconsistent, hfirst⟩
  refine hcontained.mono fun w' hw' h hactive => ?_
  obtain ⟨k, hk, hrounds, -⟩ := hw'.2.hosts h hactive
  exact ⟨k, hrounds, hk⟩

theorem outbreak_contained_twoHosts :
    ∃ k ≤ rounds 1 1 1,
      Generation twoHosts (fun g => (twoHostsStart.victim g).isActive = true) k true :=
  (outbreak_contained one_pos twoHosts_delay twoHosts_startProbing twoHosts_init
    twoHosts_run).last true rfl

end WormNetwork

end ScadaSim.Attack
