import ScadaSim.Attack.TribeFloodNetwork
import ScadaSim.Lib.Arrivals
import Mathlib.Data.List.GetD
import Mathlib.Data.List.Sort

/-!
# The order of the start messages

A start message carries no index: the attack it is for is told by the number of start
messages that have come before, whatever they were scheduled for. Here the messages
arrive by their times, as the kernel delivers them, and each wave is kept with the
message that has started it.

`always_ownParameters_iff` says which runs give every wave the parameters of its own
attack; where the start times are listed in order, all do.
-/

namespace ScadaSim.Attack

open Lib Arrivals

namespace TribeFloodNetwork

/-! ## The parameters of a wave -/

/-- What stays the same during a wave. -/
structure Wave where
  victimAddr : Traffic.IPvXAddress
  packetSize : Int
  attackType : Int
  floodFunc : Option FloodingFunc
  maxPacket : Int
  dstPortWalkOn : Bool
  srcPortWalkOn : Bool
  deriving DecidableEq

/-- The parameters at the start of a wave; ports may walk from there. -/
structure StartedWave extends Wave where
  victimPort : Int
  sourcePort : Int
  deriving DecidableEq

/-- The parameters that are in use. -/
def wave (s : TribeFloodNetwork) : StartedWave where
  victimAddr := s.c_victimAddr
  packetSize := s.c_packetSize
  attackType := s.c_attackType
  floodFunc := some s.floodFunc
  maxPacket := s.c_maxPacket
  dstPortWalkOn := s.dstPortWalkOn
  srcPortWalkOn := s.srcPortWalkOn
  victimPort := s.c_victimPort
  sourcePort := s.c_sourcePort

/-- A wave with these parameters: port -1 walks, and a packet has a size of 1 at least. -/
def StartedWave.ofParameters (victimAddr : Traffic.IPvXAddress)
    (destinationPort sourcePort packetSize attackType maxPacket : Int) : StartedWave where
  victimAddr := victimAddr
  packetSize := max 1 packetSize
  attackType := attackType
  floodFunc := (setFloodingFunc attackType).toOption
  maxPacket := maxPacket
  dstPortWalkOn := decide (destinationPort = -1)
  srcPortWalkOn := decide (sourcePort = -1)
  victimPort := if destinationPort = -1 then 1 else destinationPort
  sourcePort := if sourcePort = -1 then 9999 else sourcePort

/-- The wave that attack `i` of the configured lists describes. -/
def attack (s : TribeFloodNetwork) (i : Nat) : Option StartedWave := do
  let victimAddr ← s.victimAddr[i]?
  let destinationPort ← s.victimPort[i]?
  let sourcePort ← s.sourcePort[i]?
  let packetSize ← s.packetSize[i]?
  let attackType ← s.attackType[i]?
  let maxPacket ← s.maxPacket[i]?
  return .ofParameters victimAddr destinationPort sourcePort packetSize attackType maxPacket

/-- A start message with this random number makes the zombie join or switch. -/
def joins (s : TribeFloodNetwork) (prob : Rat) : Bool :=
  if s.isActive then prob ≤ s.probAttackSwitch else prob ≤ s.probAttackOn

/-- The lists are not changed. -/
def SameLists (s s' : TribeFloodNetwork) : Prop := ∀ i, s'.attack i = s.attack i

section Specifications

variable {env : Environment} {par : FloodParameters} {t prob prob' : Rat} {s : TribeFloodNetwork}

theorem access_eq_ok {α : Type} {v : List α} {i : Nat} :
    Post (fun x => v[i]? = some x) (access v i) := by
  unfold access
  split
  · exact Post.error _
  · rename_i x hx
    exact hx

theorem setFloodingFunc_toOption (type : Int) :
    Post (fun f => (setFloodingFunc type).toOption = some f) (setFloodingFunc type) :=
  Post.intro fun f hf => by rw [hf]; rfl

/-- The parameters of attack `i` are set, and nothing else but the history of the wave. -/
theorem setCurrentFloodingParameter_wave (i : Nat) :
    Post (fun s' => some s'.wave = s.attack i ∧ SameLists s s' ∧ s'.index = s.index ∧
      s'.attackIndex = s.index) (s.setCurrentFloodingParameter env par t i) := by
  unfold setCurrentFloodingParameter
  split
  · exact Post.error _
  · refine access_eq_ok.bind fun victimPort hvictimPort => ?_
    refine access_eq_ok.bind fun sourcePort hsourcePort => ?_
    refine access_eq_ok.bind fun victimAddr hvictimAddr => ?_
    refine access_eq_ok.bind fun packetSize hpacketSize => ?_
    refine access_eq_ok.bind fun attackType hattackType => ?_
    refine (setFloodingFunc_toOption attackType).bind fun floodFunc hfloodFunc => ?_
    refine access_eq_ok.bind fun maxPacket hmaxPacket => ?_
    split
    · exact Post.error _
    · refine ⟨?_, fun _ => rfl, rfl, rfl⟩
      have hattack : s.attack i = some (.ofParameters victimAddr victimPort sourcePort packetSize
          attackType maxPacket) := by
        simp only [attack, hvictimPort, hsourcePort, hvictimAddr, hpacketSize, hattackType,
          hmaxPacket]
        rfl
      have hsize : (if packetSize < 1 then 1 else packetSize) = max 1 packetSize := by
        split <;> omega
      rw [hattack]
      simp only [StartedWave.ofParameters, wave, hfloodFunc, hsize]

theorem beginWave_wave :
    Post (fun r => some r.1.wave = s.attack s.index ∧ SameLists s r.1 ∧ r.1.index = s.index ∧
      r.2 = [.begins s.index]) (s.beginWave env par t) := by
  unfold beginWave
  refine (setCurrentFloodingParameter_wave s.index).bind fun s' hs' => ?_
  obtain ⟨hwave, hlists, hindex, hattack⟩ := hs'
  exact Post.bind_any fun _ => ⟨hwave, hlists, hindex, by rw [← hattack]⟩

theorem decideAttack_wave :
    Post (fun r => (s.joins prob = true → some r.1.wave = s.attack s.index) ∧
      (s.joins prob = false → r.1.wave = s.wave ∧ (r.1.isActive = true → s.isActive = true)) ∧
      SameLists s r.1 ∧ r.1.index = s.index) (s.decideAttack env par t prob prob') := by
  unfold decideAttack joins
  by_cases hactive : s.isActive = true
  · rw [if_pos hactive, if_pos hactive]
    by_cases hswitch : prob ≤ s.probAttackSwitch
    · rw [if_pos hswitch, decide_eq_true hswitch]
      refine beginWave_wave.bind fun begun hbegun => ?_
      exact ⟨fun _ => hbegun.1, nofun, hbegun.2.1, hbegun.2.2.1⟩
    · rw [if_neg hswitch, decide_eq_false hswitch]
      split
      · exact ⟨nofun, fun _ => ⟨rfl, fun _ => hactive⟩, fun _ => rfl, rfl⟩
      · exact ⟨nofun, fun _ => ⟨rfl, id⟩, fun _ => rfl, rfl⟩
  · rw [if_neg hactive, if_neg hactive]
    by_cases hon : prob ≤ s.probAttackOn
    · rw [if_pos hon, decide_eq_true hon]
      refine beginWave_wave.bind fun begun hbegun => ?_
      exact ⟨fun _ => hbegun.1, nofun, hbegun.2.1, hbegun.2.2.1⟩
    · rw [if_neg hon, decide_eq_false hon]
      exact ⟨nofun, fun _ => ⟨rfl, id⟩, fun _ => rfl, rfl⟩

theorem startFlooding_wave :
    Post (fun r => (s.joins prob = true → some r.1.wave = s.attack s.index) ∧
      (s.joins prob = false → r.1.wave = s.wave ∧ (r.1.isActive = true → s.isActive = true)) ∧
      SameLists s r.1 ∧ r.1.index = s.index + 1) (s.startFlooding env par t prob prob') := by
  unfold startFlooding
  refine decideAttack_wave.bind fun decided hdecided => ?_
  obtain ⟨hjoin, hstay, hlists, hindex⟩ := hdecided
  exact ⟨hjoin, hstay, hlists, congrArg (· + 1) hindex⟩

/-- A packet changes the ports at most. -/
theorem sendAttackPacket_wave (draw : PacketDraw) :
    Post (fun r => r.1.wave.toWave = s.wave.toWave ∧ (r.1.isActive = true → s.isActive = true) ∧
      SameLists s r.1 ∧ r.1.index = s.index) (s.sendAttackPacket env t draw) := by
  obtain ⟨c_sourcePort, c_victimPort, hflood⟩ :=
    flood_spec env { s with floodingTime := none } draw
  unfold sendAttackPacket
  generalize { s with floodingTime := none }.flood env draw = sent at hflood ⊢
  obtain ⟨s', packet⟩ := sent
  obtain rfl : s' = _ := hflood
  dsimp only
  split
  · exact Post.bind_any fun _ => ⟨rfl, id, fun _ => rfl, rfl⟩
  · exact ⟨rfl, nofun, fun _ => rfl, rfl⟩

end Specifications

/-! ## Deliveries -/

/-- The start message for the `i`-th configured start time, the timer, or a message of the
network. -/
inductive Delivery
  | startFlooding (i : Nat) (prob prob' : Rat)
  | floodingTime (draw : PacketDraw)
  | networkMessage

/-- The generator with the start times as they are configured, the start messages that are
still scheduled, and the waves that have begun, with the messages that have started them;
the latest first. -/
structure Timed where
  tfn : TribeFloodNetwork
  startTimes : List Rat
  pending : List Nat
  started : List (Nat × StartedWave) := []

namespace Timed

def time (s : Timed) (i : Nat) : Rat := s.startTimes.getD i 0

/-- Message `i` comes before the timer: of two messages for one time the one that was
scheduled first is delivered first. -/
def Due (s : Timed) (i : Nat) : Prop := ∀ t, s.tfn.floodingTime = some t → s.time i ≤ t

/-- The timer comes before all start messages. -/
def TimerDue (s : Timed) (t : Rat) : Prop := ∀ i ∈ s.pending, t < s.time i

/-- A delivery; an error ends the simulation. -/
inductive Step (env : Environment) (par : FloodParameters) : Timed → Delivery → Timed → Prop
  | startFlooding {s : Timed} {i : Nat} {prob prob' : Rat}
      {r : TribeFloodNetwork × List Observed} :
      Next s.time s.pending i → s.Due i →
        s.tfn.startFlooding env par (s.time i) prob prob' = .ok r →
        Step env par s (.startFlooding i prob prob') { s with
          tfn := r.1
          pending := s.pending.erase i
          started := if s.tfn.joins prob then (i, r.1.wave) :: s.started else s.started }
  | floodingTime {s : Timed} {t : Rat} {draw : PacketDraw}
      {r : TribeFloodNetwork × List Observed} :
      s.tfn.floodingTime = some t → s.TimerDue t →
        s.tfn.sendAttackPacket env t draw = .ok r →
        Step env par s (.floodingTime draw) { s with tfn := r.1 }
  | networkMessage {s : Timed} : Step env par s .networkMessage s

end Timed

/-- The generator from `initialize` on. -/
def timed (env : Environment) (par : FloodParameters) : TSys Timed Delivery where
  init s := ∃ simTime raw r, initializeModule env par simTime raw = .ok r ∧
    s = { tfn := r.1, startTimes := r.2, pending := List.range r.2.length }
  step := Timed.Step env par

/-- Each wave has begun with the parameters of the attack whose start message has started
it, and goes on with them. -/
structure OwnParameters (s : Timed) : Prop where
  started : ∀ x ∈ s.started, s.tfn.attack x.1 = some x.2
  current : s.tfn.isActive = true →
    ∀ x, s.started.head? = some x → s.tfn.wave.toWave = x.2.toWave

/-- A start message that makes the zombie join or switch comes in a place whose attack has
the parameters of its own. -/
def OwnPlace (s : Timed) : Delivery → Prop
  | .startFlooding i prob _ => s.tfn.joins prob = true →
      s.tfn.attack (place s.time s.startTimes.length i) = s.tfn.attack i
  | _ => True

/-- The start messages that have come are counted. -/
structure Counted (s : Timed) : Prop where
  pending : Pending s.time s.startTimes.length s.pending
  index : s.tfn.index + s.pending.length = s.startTimes.length

section Runs

variable {env : Environment} {par : FloodParameters} {s s' : Timed} {d : Delivery}

theorem Counted.index_eq {i : Nat} (h : Counted s) (hnext : Next s.time s.pending i) :
    s.tfn.index = place s.time s.startTimes.length i := by
  have hplace := h.pending.place_eq hnext
  have hindex := h.index
  omega

theorem Counted.init (hinit : (timed env par).init s) : Counted s := by
  obtain ⟨simTime, raw, r, hr, rfl⟩ := hinit
  obtain ⟨-, hindex, -, -, -, -⟩ := initializeModule_spec.of_ok hr
  refine ⟨pending_range, ?_⟩
  show r.1.index + (List.range r.2.length).length = r.2.length
  rw [hindex, List.length_range, Nat.zero_add]

theorem Counted.step (h : Counted s) (hstep : Timed.Step env par s d s') : Counted s' := by
  cases hstep with
  | @startFlooding i _ _ r hnext _ hr =>
      obtain ⟨-, -, -, hindex⟩ := startFlooding_wave.of_ok hr
      refine ⟨h.pending.erase hnext, ?_⟩
      have hlen := List.length_erase_of_mem hnext.1
      have hpos := List.length_pos_of_mem hnext.1
      have hcount := h.index
      show r.1.index + (s.pending.erase i).length = s.startTimes.length
      omega
  | @floodingTime _ _ r _ _ hr =>
      obtain ⟨-, -, -, hindex⟩ := (sendAttackPacket_wave _).of_ok hr
      refine ⟨h.pending, ?_⟩
      show r.1.index + s.pending.length = s.startTimes.length
      rw [hindex]
      exact h.index
  | networkMessage => exact h

theorem OwnParameters.init (hinit : (timed env par).init s) : OwnParameters s := by
  obtain ⟨simTime, raw, r, -, rfl⟩ := hinit
  exact ⟨fun x hx => absurd hx List.not_mem_nil, fun _ x hx => by cases hx⟩

/-- The wave that begins has the parameters at the number of start messages before it. -/
theorem OwnParameters.step_iff (hcounted : Counted s) (h : OwnParameters s)
    (hstep : Timed.Step env par s d s') : OwnParameters s' ↔ OwnPlace s d := by
  cases hstep with
  | @startFlooding i prob prob' r hnext _ hr =>
      obtain ⟨hjoin, hstay, hlists, -⟩ := startFlooding_wave.of_ok hr
      have hindex := hcounted.index_eq hnext
      cases hjoins : s.tfn.joins prob with
      | true =>
          have hwave := hjoin hjoins
          rw [hindex] at hwave
          constructor
          · intro h' _
            have hown : r.1.attack i = some r.1.wave := h'.started _ List.mem_cons_self
            rw [hlists i] at hown
            exact hwave.symm.trans hown.symm
          · intro hplace
            have hown : s.tfn.attack i = some r.1.wave := (hplace hjoins).symm.trans hwave.symm
            constructor
            · intro x hx
              rcases List.mem_cons.mp hx with rfl | hx
              · exact (hlists i).trans hown
              · exact (hlists x.1).trans (h.started x hx)
            · intro _ x hx
              cases hx
              rfl
      | false =>
          obtain ⟨hwave, hactive⟩ := hstay hjoins
          refine iff_of_true ?_ fun hjoins' => ?_
          · constructor
            · exact fun x hx => (hlists x.1).trans (h.started x hx)
            · intro hact x hx
              show r.1.wave.toWave = x.2.toWave
              rw [hwave]
              exact h.current (hactive hact) x hx
          · rw [hjoins] at hjoins'
            cases hjoins'
  | @floodingTime _ draw r _ _ hr =>
      obtain ⟨hwave, hactive, hlists, -⟩ := (sendAttackPacket_wave draw).of_ok hr
      refine iff_of_true ⟨fun x hx => (hlists x.1).trans (h.started x hx), ?_⟩ trivial
      intro hact x hx
      exact hwave.trans (h.current (hactive hact) x hx)
  | networkMessage => exact iff_of_true h trivial

/-- The start times do not change. -/
theorem startTimes_step (hstep : Timed.Step env par s d s') : s'.startTimes = s.startTimes := by
  cases hstep <;> rfl

/-- Where the start times are in order, each message comes in its own place. -/
theorem ownPlace_of_sorted (hcounted : Counted s) (hsorted : s.startTimes.SortedLE)
    (hstep : Timed.Step env par s d s') : OwnPlace s d := by
  cases hstep with
  | @startFlooding i _ _ _ hnext _ _ =>
      intro _
      have hi : i < s.startTimes.length := hcounted.pending.range i hnext.1
      rw [place_of_sorted ?_ hi]
      intro j k hjk hk
      unfold Timed.time
      rw [List.getD_eq_getElem _ _ hk, List.getD_eq_getElem _ _ (Nat.lt_of_le_of_lt hjk hk)]
      exact hsorted.getElem_le_getElem_of_le hjk
  | floodingTime => trivial
  | networkMessage => trivial

theorem guarded_of_sorted {run : List (Delivery × Timed)} (hcounted : Counted s)
    (hsorted : s.startTimes.SortedLE) (hrun : (timed env par).Run s run) :
    TSys.Guarded OwnPlace s run := by
  induction run generalizing s with
  | nil => trivial
  | cons step rest ih =>
      obtain ⟨d, s'⟩ := step
      obtain ⟨hstep, hrest⟩ := hrun
      refine ⟨ownPlace_of_sorted hcounted hsorted hstep, ?_⟩
      exact ih (hcounted.step hstep) (by rw [startTimes_step hstep]; exact hsorted) hrest

/-- All waves of a run have their own parameters just where the messages that start them
come in places with these parameters; start times in order are enough. -/
theorem always_ownParameters_iff {run : List (Delivery × Timed)}
    (hinit : (timed env par).init s) (hrun : (timed env par).Run s run) :
    (TSys.Always OwnParameters s run ↔ TSys.Guarded OwnPlace s run) ∧
      (s.startTimes.SortedLE → TSys.Always OwnParameters s run) := by
  have hcounted := Counted.init hinit
  have hiff : TSys.Always OwnParameters s run ↔ TSys.Guarded OwnPlace s run :=
    hrun.always_iff_guarded (fun _ _ _ h hstep => h.step hstep)
      (fun _ _ _ hI hP hstep => hP.step_iff hI hstep) hcounted (OwnParameters.init hinit)
  exact ⟨hiff, fun hsorted => hiff.mpr (guarded_of_sorted hcounted hsorted hrun)⟩

end Runs

theorem ownParameters_joinedZombie :
    TSys.Always OwnParameters ⟨idleZombie, [10], [0], []⟩
      [(Delivery.startFlooding 0 0 0, ⟨joinedZombie, [10], [], [(0, joinedZombie.wave)]⟩)] := by
  have hinit : (timed oneAttackLibrary oneAttack).init ⟨idleZombie, [10], [0], []⟩ :=
    ⟨0, idleZombie, (idleZombie, [10]), by decide +kernel, rfl⟩
  have hstep : Timed.Step oneAttackLibrary oneAttack ⟨idleZombie, [10], [0], []⟩
      (.startFlooding 0 0 0) ⟨joinedZombie, [10], [], [(0, joinedZombie.wave)]⟩ :=
    .startFlooding (r := (joinedZombie, [.begins 0])) (by decide +kernel) nofun (by decide +kernel)
  have hrun : (timed oneAttackLibrary oneAttack).Run ⟨idleZombie, [10], [0], []⟩
      [(.startFlooding 0 0 0, ⟨joinedZombie, [10], [], [(0, joinedZombie.wave)]⟩)] :=
    ⟨hstep, trivial⟩
  exact (always_ownParameters_iff hinit hrun).2 (List.pairwise_singleton _ _).sortedLE

/-- Two attacks on different victims, the later one first. -/
def twoAttacks : FloodParameters :=
  { oneAttack with
    attackStartTime := ['2', '0', ' ', '1', '0']
    maxPacket := ['2', ' ', '2']
    attackType := ['6', ' ', '6']
    packetSize := ['8', ' ', '8']
    destinationPort := ['9', ' ', '9']
    sourcePort := ['7', ' ', '7']
    victimAddress := ['v', ' ', 'w'] }

/-- A resolver that knows two addresses. -/
def twoAttacksLibrary : Environment :=
  { oneAttackLibrary with
    resolve := fun text => if text = ['w'] then some 6 else some 5 }

/-- A zombie with the lists of both attacks. -/
def withBoth (s : TribeFloodNetwork) : TribeFloodNetwork :=
  { s with
    packetSize := [8, 8]
    attackType := [6, 6]
    maxPacket := [2, 2]
    victimAddr := [5, 6]
    victimPort := [9, 9]
    sourcePort := [7, 7] }

/-- The message for second 10, which belongs to the second attack, starts the first. -/
theorem firstAttack_of_secondMessage :
    (timed twoAttacksLibrary twoAttacks).init ⟨idleZombie.withBoth, [20, 10], [0, 1], []⟩ ∧
      (timed twoAttacksLibrary twoAttacks).step ⟨idleZombie.withBoth, [20, 10], [0, 1], []⟩
        (.startFlooding 1 0 0)
        ⟨joinedZombie.withBoth, [20, 10], [0], [(1, joinedZombie.withBoth.wave)]⟩ ∧
      ¬ OwnParameters ⟨joinedZombie.withBoth, [20, 10], [0], [(1, joinedZombie.withBoth.wave)]⟩ := by
  refine ⟨⟨0, idleZombie, (idleZombie.withBoth, [20, 10]), by decide +kernel, rfl⟩, ?_, ?_⟩
  · exact Timed.Step.startFlooding (r := (joinedZombie.withBoth, [.begins 0]))
      (by decide +kernel) nofun (by decide +kernel)
  · intro h
    have hown := h.started _ List.mem_cons_self
    exact absurd hown (by decide +kernel)

end TribeFloodNetwork

end ScadaSim.Attack
