import ScadaSim.Attack.Timer
import ScadaSim.Lib.Number
import ScadaSim.Lib.Outcome
import ScadaSim.Lib.TSys

/-!
# The Tribe Flood Network generator

`TribeFloodNetwork`: at each start message a zombie joins, switches or leaves an
attack by chance, and while it is active its timer sends one attack packet after the
other. `initialize` is `initializeModule` here.

A history of what can be observed from outside stands beside the state: where a wave
begins, each packet and each record. `Bookkeeping` compares the records with it.
-/

namespace ScadaSim.Attack

open Lib Traffic

def SYN_FLOODING : Int := 1
def SYN_ACK_FLOODING : Int := 2
def RST_FLOODING : Int := 3
def ICMP_FLOODING : Int := 4
def SMURF_FLOODING : Int := 5
def UDP_FLOODING : Int := 6
def FIN_FLOODING : Int := 7
def MIN_ATTACK_TYPE : Int := 1
def MAX_ATTACK_TYPE : Int := 7

/-- The conversions of the C library, the address resolver of INET, which may fail,
and the path of the parent module. -/
structure Environment where
  atoi : List Char → Int
  atof : List Char → Rat
  resolve : List Char → Option IPvXAddress
  isIPv6 : IPvXAddress → Bool
  parentPath : List Char
  id : Int

structure FloodParameters where
  attackStartTime : List Char
  attackStartDiff : Rat
  maxPacket : List Char
  attackType : List Char
  packetSize : List Char
  destinationPort : List Char
  sourcePort : List Char
  victimAddress : List Char
  timeBetweenPacketMin : Rat
  timeBetweenPacketDiff : Rat
  attackOnProbability : Rat
  attackSwitchProbability : Rat
  attackOffProbability : Rat
  sourceAddressStart : IPvXAddress
  sourceAddressEnd : IPvXAddress

/-- `cStringTokenizer(par, " ").asVector()`. -/
def tokens (par : List Char) : List (List Char) := (par.splitOn ' ').filter (· ≠ [])

/-- The values of `floodFunc`. -/
inductive FloodingFunc
  | handleTCPFlood
  | handlePingFlood
  | handleUDPFlood
  deriving DecidableEq

structure TribeFloodNetwork where
  packetSize : List Int
  attackType : List Int
  maxPacket : List Int
  victimAddr : List IPvXAddress
  victimPort : List Int
  sourcePort : List Int
  sourceAddrStart : IPvXAddress
  sourceAddrEnd : IPvXAddress
  spoofingOn : Bool
  srcPortWalkOn : Bool
  dstPortWalkOn : Bool
  floodingTime : Timer
  probAttackOn : Rat
  probAttackSwitch : Rat
  probAttackOff : Rat
  floodingTimes : Int
  floodFunc : FloodingFunc
  index : Nat
  c_victimPort : Int
  c_sourcePort : Int
  c_packetSize : Int
  c_attackType : Int
  c_maxPacket : Int
  c_floodingDelay : Rat
  c_victimAddr : IPvXAddress
  isActive : Bool
  attackIndex : Nat
  packetsSent : Nat
  attackStart : Rat
  attackEnd : Rat
  sourceIP : IPvXAddress
  destIP : IPvXAddress
  deriving DecidableEq

/-- The headers of an attack packet. -/
inductive AttackHeader
  | tcp (synBit ackBit rstBit finBit urgBit : Bool)
      (sequenceNo window srcPort destPort byteLength : Int)
  | udp (sourcePort destinationPort bitLength : Int)
  | ping (originatorId seqNo byteLength : Int)
  deriving DecidableEq

/-- An attack packet, with its control information and the gate it leaves by. -/
structure AttackPacket where
  header : AttackHeader
  srcAddr : IPvXAddress
  destAddr : IPvXAddress
  attackTag : Int
  gate : String
  deriving DecidableEq

/-- What `recordAttackScalars` records. -/
structure AttackScalars where
  attackIndex : Nat
  attackStart : Rat
  attackEnd : Rat
  packetsSent : Nat
  deriving DecidableEq

/-- The random numbers of a packet. -/
structure PacketDraw where
  sourceAddr : IPvXAddress
  sequenceNo : Int

namespace TribeFloodNetwork

/-- Stage 4, for an object as the constructor has left it: the members that neither
sets are arbitrary. With the object come the times of the start messages. -/
def initializeModule (env : Environment) (par : FloodParameters) (simTime : Rat)
    (raw : TribeFloodNetwork) : Except Fault (TribeFloodNetwork × List Rat) :=
  let vTime := tokens par.attackStartTime
  let delays := vTime.map fun time => env.atof time + par.attackStartDiff
  let vPacket := tokens par.maxPacket
  let vType := tokens par.attackType
  let vSize := tokens par.packetSize
  let vVPort := tokens par.destinationPort
  let vSPort := tokens par.sourcePort
  let vAddress := tokens par.victimAddress
  if delays.any (· < 0) then .error .past
  else match vAddress.mapM env.resolve with
  | none => .error .unresolved
  | some victimAddr =>
      if vAddress.length ≠ vVPort.length ∨ vVPort.length ≠ vSPort.length ∨
          vSPort.length ≠ vSize.length ∨ vSize.length ≠ vType.length ∨
          vType.length ≠ vPacket.length ∨ vPacket.length ≠ vTime.length then
        .error (.oppError "input parameter arrays don't have the same lengths")
      else
        .ok ({ raw with
          maxPacket := vPacket.map env.atoi
          attackType := vType.map env.atoi
          packetSize := vSize.map env.atoi
          victimPort := vVPort.map env.atoi
          sourcePort := vSPort.map env.atoi
          victimAddr := victimAddr
          probAttackOn := par.attackOnProbability
          probAttackSwitch := par.attackSwitchProbability
          probAttackOff := par.attackOffProbability
          sourceAddrStart := par.sourceAddressStart
          sourceAddrEnd := par.sourceAddressEnd
          floodingTime := none
          isActive := false
          -- set by the constructor
          c_packetSize := 1
          c_sourcePort := 0
          c_victimPort := 0
          spoofingOn := false
          srcPortWalkOn := false
          dstPortWalkOn := false
          floodingTimes := 0
          index := 0
          c_maxPacket := 1
          packetsSent := 0 }, delays.map (simTime + ·))

def setFloodingFunc (type : Int) : Except Fault FloodingFunc :=
  if type > MAX_ATTACK_TYPE ∨ type < MIN_ATTACK_TYPE then .error (.oppError "invalid attackType %u\n")
  else if type = ICMP_FLOODING ∨ type = SMURF_FLOODING then .ok .handlePingFlood
  else if type = UDP_FLOODING then .ok .handleUDPFlood
  else .ok .handleTCPFlood

/-- `vector::operator[]`. -/
def access {α : Type} (v : List α) (i : Nat) : Except Fault α :=
  match v[i]? with
  | none => .error .indexOutOfRange
  | some x => .ok x

/-- The attack path that is written to standard out is left out. -/
def setCurrentFloodingParameter (env : Environment) (par : FloodParameters) (simTime : Rat)
    (s : TribeFloodNetwork) (i : Nat) : Except Fault TribeFloodNetwork :=
  if i ≥ s.victimPort.length then
    .error (.oppError "index in setCurrentFloodingParameter greater than vector size")
  else do
  let victimPort ← access s.victimPort i
  let sourcePort ← access s.sourcePort i
  let victimAddr ← access s.victimAddr i
  let packetSize ← access s.packetSize i
  let attackType ← access s.attackType i
  let floodFunc ← setFloodingFunc attackType
  let c_floodingDelay := par.timeBetweenPacketMin + par.timeBetweenPacketDiff
  let maxPacket ← access s.maxPacket i
  match env.resolve env.parentPath with
  | none => .error .unresolved
  | some sourceIP =>
      .ok { s with
        floodingTimes := 0
        dstPortWalkOn := decide (victimPort = -1)
        c_victimPort := if victimPort = -1 then 1 else victimPort
        srcPortWalkOn := decide (sourcePort = -1)
        c_sourcePort := if sourcePort = -1 then 9999 else sourcePort
        c_victimAddr := victimAddr
        c_packetSize := if packetSize < 1 then 1 else packetSize
        c_attackType := attackType
        floodFunc := floodFunc
        c_floodingDelay := c_floodingDelay
        c_maxPacket := maxPacket
        floodingTime := none
        destIP := victimAddr
        sourceIP := sourceIP
        attackIndex := s.index
        attackStart := simTime + c_floodingDelay }

def recordAttackScalars (simTime : Rat) (s : TribeFloodNetwork) :
    TribeFloodNetwork × AttackScalars :=
  ({ s with attackEnd := simTime, packetsSent := 0 },
    ⟨s.attackIndex, s.attackStart, simTime, s.packetsSent⟩)

/-! ## Attack packets -/

/-- The source address is random where spoofing is on. -/
def packetSource (s : TribeFloodNetwork) (draw : PacketDraw) : IPvXAddress :=
  if s.spoofingOn then draw.sourceAddr else 0

/-- The next ports, where they walk. -/
def walkPorts (s : TribeFloodNetwork) : TribeFloodNetwork :=
  let c_sourcePort := if s.srcPortWalkOn then s.c_sourcePort - 1 else s.c_sourcePort
  let c_victimPort := if s.dstPortWalkOn then s.c_victimPort + 1 else s.c_victimPort
  { s with
    c_sourcePort := if c_sourcePort < 1 then 9999 else c_sourcePort
    c_victimPort := if c_victimPort > 9999 then 1 else c_victimPort }

/-- The packet with its control information: the gate is that of the address family. -/
def toIp (env : Environment) (s : TribeFloodNetwork) (draw : PacketDraw) (header : AttackHeader)
    (attackTag : Int) (gate gate6 : String) : AttackPacket where
  header := header
  srcAddr := s.packetSource draw
  destAddr := s.c_victimAddr
  attackTag := attackTag
  gate := if env.isIPv6 s.c_victimAddr then gate6 else gate

def handleTCPFlood (env : Environment) (s : TribeFloodNetwork) (draw : PacketDraw) :
    TribeFloodNetwork × AttackPacket :=
  let s := s.walkPorts
  let header := .tcp
    (decide (s.c_attackType = SYN_FLOODING ∨ s.c_attackType = SYN_ACK_FLOODING))
    (decide (s.c_attackType = SYN_ACK_FLOODING)) (decide (s.c_attackType = RST_FLOODING))
    (decide (s.c_attackType = FIN_FLOODING)) true
    draw.sequenceNo 65535 s.c_sourcePort s.c_victimPort 20
  -- every TCP attack carries the tag of a SYN flood
  (s, s.toIp env draw header SYN_FLOODING "to_ip_tcp" "to_ipv6_tcp")

def handleUDPFlood (env : Environment) (s : TribeFloodNetwork) (draw : PacketDraw) :
    TribeFloodNetwork × AttackPacket :=
  let s := s.walkPorts
  (s, s.toIp env draw (.udp s.c_sourcePort s.c_victimPort s.c_packetSize) UDP_FLOODING
    "to_ip_udp" "to_ipv6_udp")

def handlePingFlood (env : Environment) (s : TribeFloodNetwork) (draw : PacketDraw) :
    TribeFloodNetwork × AttackPacket :=
  (s, s.toIp env draw (.ping env.id 1 s.c_packetSize) ICMP_FLOODING "to_ip_ping" "to_ipv6_ping")

def flood (env : Environment) (s : TribeFloodNetwork) (draw : PacketDraw) :
    TribeFloodNetwork × AttackPacket :=
  match s.floodFunc with
  | .handleTCPFlood => s.handleTCPFlood env draw
  | .handlePingFlood => s.handlePingFlood env draw
  | .handleUDPFlood => s.handleUDPFlood env draw

/-! ## Messages -/

/-- What is observed: a wave begins (its parameters are set), a packet leaves, a
record is written. -/
inductive Observed
  | begins (attackIndex : Nat)
  | sends (packet : AttackPacket)
  | records (scalars : AttackScalars)
  deriving DecidableEq

/-- The observations of a message, the latest first. -/
abbrev Handled := Except Fault (TribeFloodNetwork × List Observed)

/-- The parameters of attack `index` are set and the timer is started. -/
def beginWave (env : Environment) (par : FloodParameters) (simTime : Rat) (s : TribeFloodNetwork) :
    Handled := do
  let s ← s.setCurrentFloodingParameter env par simTime s.index
  let floodingTime ← scheduleAt s.floodingTime simTime s.c_floodingDelay
  return ({ s with floodingTime := floodingTime }, [.begins s.attackIndex])

/-- The branch of `handleMessage` for a start message, up to `index++`; `prob` and
`prob'` are the random numbers. -/
def decideAttack (env : Environment) (par : FloodParameters) (simTime prob prob' : Rat)
    (s : TribeFloodNetwork) : Handled :=
  if s.isActive then
    if prob ≤ s.probAttackSwitch then do
      -- the wave that ends is recorded before its parameters are overwritten
      let r := s.recordAttackScalars simTime
      let begun ← r.1.beginWave env par simTime
      return (begun.1, begun.2 ++ [.records r.2])
    else if prob' ≤ s.probAttackOff then
      let r := { s with isActive := false, floodingTime := none }.recordAttackScalars simTime
      .ok (r.1, [.records r.2])
    else .ok (s, [])
  else if prob ≤ s.probAttackOn then do
    let begun ← s.beginWave env par simTime
    return ({ begun.1 with isActive := true }, begun.2)
  else .ok (s, [])

def startFlooding (env : Environment) (par : FloodParameters) (simTime prob prob' : Rat)
    (s : TribeFloodNetwork) : Handled := do
  let decided ← s.decideAttack env par simTime prob prob'
  return ({ decided.1 with index := decided.1.index + 1 }, decided.2)

/-- The branch for the timer, which is no longer scheduled when it is delivered. -/
def sendAttackPacket (env : Environment) (simTime : Rat) (draw : PacketDraw)
    (s : TribeFloodNetwork) : Handled :=
  let sent := { s with floodingTime := none }.flood env draw
  let s : TribeFloodNetwork := { sent.1 with
    floodingTimes := sent.1.floodingTimes + 1, packetsSent := sent.1.packetsSent + 1 }
  if s.floodingTimes < s.c_maxPacket ∨ s.c_maxPacket < 0 then do
    let floodingTime ← scheduleAt s.floodingTime simTime s.c_floodingDelay
    return ({ s with floodingTime := floodingTime }, [.sends sent.2])
  else
    let r := { s with isActive := false }.recordAttackScalars simTime
    .ok (r.1, [.records r.2, .sends sent.2])

/-- When the simulation ends. -/
def finish (simTime : Rat) (s : TribeFloodNetwork) : TribeFloodNetwork × List Observed :=
  if s.isActive then
    let r := s.recordAttackScalars simTime
    (r.1, [.records r.2])
  else (s, [])

/-! ## Runs -/

inductive Event
  | startFlooding (simTime prob prob' : Rat)
  | floodingTime (draw : PacketDraw)
  | networkMessage
  | finish (simTime : Rat)

/-- The generator with the start messages that are still scheduled, the history, the
latest observation first, and how the simulation ended. -/
structure World where
  tfn : TribeFloodNetwork
  startMsg : List Rat
  history : List Observed := []
  finished : Bool := false
  fault : Option Fault := none
  deriving DecidableEq

/-- Messages of the network are discarded. -/
def World.handle (env : Environment) (par : FloodParameters) (w : World) :
    Event → Option (Except Fault World)
  | .startFlooding simTime prob prob' =>
      if simTime ∈ w.startMsg then
        some ((w.tfn.startFlooding env par simTime prob prob').map fun r => { w with
          tfn := r.1, startMsg := w.startMsg.erase simTime, history := r.2 ++ w.history })
      else none
  | .floodingTime draw =>
      match w.tfn.floodingTime with
      | none => none
      | some simTime =>
          some ((w.tfn.sendAttackPacket env simTime draw).map fun r => { w with
            tfn := r.1, history := r.2 ++ w.history })
  | .networkMessage => some (.ok w)
  | .finish simTime =>
      let r := w.tfn.finish simTime
      some (.ok { w with tfn := r.1, history := r.2 ++ w.history, finished := true })

/-- An error ends the simulation: the event has no effect but that no other follows. -/
def World.settle (w : World) : Except Fault World → World
  | .ok w' => w'
  | .error e => { w with fault := some e }

/-- The worlds after `initialize`, and the events in any order. -/
def system (env : Environment) (par : FloodParameters) : TSys World Event where
  init w := ∃ simTime raw r, initializeModule env par simTime raw = .ok r ∧
    w = { tfn := r.1, startMsg := r.2 }
  step w e w' := w.fault = none ∧ w.finished = false ∧
    ∃ r, w.handle env par e = some r ∧ w' = w.settle r

/-! ## The bookkeeping -/

/-- The wave that has begun and has no record yet, with the number of its packets. -/
def openWave : List Observed → Option (Nat × Nat)
  | [] => none
  | .begins attackIndex :: _ => some (attackIndex, 0)
  | .sends _ :: past => (openWave past).map fun wave => (wave.1, wave.2 + 1)
  | .records _ :: _ => none

/-- One observation after the others: a wave begins when none is open and has an index
of its own, every packet belongs to a wave, and a record is about the open wave. -/
def Fits (past : List Observed) : Observed → Prop
  | .begins attackIndex => openWave past = none ∧ .begins attackIndex ∉ past
  | .sends _ => openWave past ≠ none
  | .records scalars => openWave past = some (scalars.attackIndex, scalars.packetsSent)

def Fitting : List Observed → Prop
  | [] => True
  | e :: past => Fits past e ∧ Fitting past

/-- The packets recorded so far. -/
def recorded : List Observed → Nat
  | [] => 0
  | .records scalars :: past => scalars.packetsSent + recorded past
  | .begins _ :: past => recorded past
  | .sends _ :: past => recorded past

/-- The packets sent so far. -/
def sent : List Observed → Nat
  | [] => 0
  | .sends _ :: past => sent past + 1
  | .begins _ :: past => sent past
  | .records _ :: past => sent past

/-- `i` is an index of every parameter array. -/
structure InRange (s : TribeFloodNetwork) (i : Nat) : Prop where
  packetSize : i < s.packetSize.length
  attackType : i < s.attackType.length
  maxPacket : i < s.maxPacket.length
  victimAddr : i < s.victimAddr.length
  victimPort : i < s.victimPort.length
  sourcePort : i < s.sourcePort.length

/-- The number of configured attacks. -/
def configured (par : FloodParameters) : Nat := (tokens par.attackStartTime).length

/-- The errors of a wrong index, and of a timer that is scheduled twice. -/
def Wrong (e : Fault) : Prop :=
  e = .oppError "index in setCurrentFloodingParameter greater than vector size" ∨
    e = .indexOutOfRange ∨ e = .alreadyScheduled

structure Bookkeeping (par : FloodParameters) (w : World) : Prop where
  active : w.tfn.isActive = true ↔ w.tfn.floodingTime.isSome
  index : w.tfn.index ≤ configured par
  inRange : ∀ i, .begins i ∈ w.history → InRange w.tfn i
  noFault : ∀ e, w.fault = some e → ¬ Wrong e
  total : recorded w.history + w.tfn.packetsSent = sent w.history
  waves : Fitting w.history

/-! ## What the operations do -/

/-- The parameter arrays are of one size. -/
structure Sized (n : Nat) (s : TribeFloodNetwork) : Prop where
  packetSize : s.packetSize.length = n
  attackType : s.attackType.length = n
  maxPacket : s.maxPacket.length = n
  victimAddr : s.victimAddr.length = n
  victimPort : s.victimPort.length = n
  sourcePort : s.sourcePort.length = n

theorem Sized.inRange {n i : Nat} {s : TribeFloodNetwork} (h : Sized n s) (hi : i < n) :
    InRange s i := by
  constructor <;> simp [h.packetSize, h.attackType, h.maxPacket, h.victimAddr, h.victimPort,
    h.sourcePort, hi]

/-- The lengths of the vectors that are read at the index of an attack. -/
def lengths (s : TribeFloodNetwork) : List Nat :=
  [s.packetSize.length, s.attackType.length, s.maxPacket.length, s.victimAddr.length,
    s.victimPort.length, s.sourcePort.length]

theorem Sized.congr {n : Nat} {s s' : TribeFloodNetwork} (h : Sized n s)
    (hsame : lengths s' = lengths s) : Sized n s' := by
  simp only [lengths, List.cons.injEq, and_true] at hsame
  obtain ⟨hsize, htype, hmax, haddr, hport, hsource⟩ := hsame
  exact ⟨hsize.trans h.packetSize, htype.trans h.attackType, hmax.trans h.maxPacket,
    haddr.trans h.victimAddr, hport.trans h.victimPort, hsource.trans h.sourcePort⟩

section Operations

variable {env : Environment} {par : FloodParameters} {t prob prob' : Rat} {n : Nat}
  {s s' : TribeFloodNetwork}

theorem access_ok {α : Type} {v : List α} {i : Nat} (hi : i < v.length) :
    access v i = .ok v[i] := by
  simp [access, hi]

theorem setFloodingFunc_spec (type : Int) :
    Ensures Wrong (fun _ => True) (setFloodingFunc type) := by
  unfold setFloodingFunc
  split
  · simp [Ensures, Wrong]
  · split
    · trivial
    · split <;> trivial

/-- What setting the parameters of an attack leaves alone. -/
structure Keeps (n : Nat) (s s' : TribeFloodNetwork) : Prop where
  sized : Sized n s'
  isActive : s'.isActive = s.isActive
  index : s'.index = s.index
  packetsSent : s'.packetsSent = s.packetsSent

/-- With an index in range there is no error about it; the timer is cancelled. -/
theorem setCurrentFloodingParameter_spec (hsized : Sized n s) (hindex : s.index < n) :
    Ensures Wrong (fun s' => Keeps n s s' ∧ s'.floodingTime = none ∧ s'.attackIndex = s.index)
      (s.setCurrentFloodingParameter env par t s.index) := by
  have hin : InRange s s.index := hsized.inRange hindex
  unfold setCurrentFloodingParameter
  rw [if_neg (Nat.not_le.mpr hin.victimPort)]
  simp only [access_ok hin.victimPort, access_ok hin.sourcePort, access_ok hin.victimAddr,
    access_ok hin.packetSize, access_ok hin.attackType, access_ok hin.maxPacket, ok_bind]
  refine (setFloodingFunc_spec _).bind fun floodFunc _ => ?_
  cases env.resolve env.parentPath with
  | none => simp [Ensures, Wrong]
  | some sourceIP => exact ⟨⟨hsized.congr rfl, rfl, rfl, rfl⟩, rfl, rfl⟩

theorem beginWave_spec (hsized : Sized n s) (hindex : s.index < n) :
    Ensures Wrong (fun r => Keeps n s r.1 ∧ r.1.floodingTime.isSome ∧
      r.1.attackIndex = s.index ∧ r.2 = [.begins s.index]) (s.beginWave env par t) := by
  unfold beginWave
  refine (setCurrentFloodingParameter_spec hsized hindex).bind fun s' hs' => ?_
  obtain ⟨hkeeps, htimer, hattack⟩ := hs'
  rw [htimer]
  rcases scheduleAt_none_cases t s'.c_floodingDelay with h | h
  · rw [h]
    simp [Ensures, Wrong, Bind.bind, Except.bind]
  · rw [h, ok_bind]
    exact ⟨⟨hkeeps.sized.congr rfl, hkeeps.isActive, hkeeps.index, hkeeps.packetsSent⟩, rfl,
      hattack, by rw [hattack]⟩

end Operations

/-! ## The history -/

/-- The history fits together, the waves have indices below `bound`, and `count`
packets are not recorded yet. -/
structure Log (bound count : Nat) (past : List Observed) : Prop where
  waves : Fitting past
  begun : ∀ i, .begins i ∈ past → i < bound
  total : recorded past + count = sent past

namespace Log

variable {bound count : Nat} {past : List Observed}

theorem begins (h : Log bound 0 past) (hclosed : openWave past = none) :
    Log (bound + 1) 0 (.begins bound :: past) where
  waves := ⟨⟨hclosed, fun hmem => Nat.lt_irrefl bound (h.begun bound hmem)⟩, h.waves⟩
  begun := by
    intro i hi
    rcases List.mem_cons.mp hi with heq | hmem
    · cases heq
      exact Nat.lt_succ_self bound
    · exact Nat.lt_succ_of_lt (h.begun i hmem)
  total := h.total

/-- Only a wave that begins has a new index. -/
theorem begun_cons (h : Log bound count past) {e : Observed} (he : ∀ i, e ≠ .begins i) :
    ∀ i, .begins i ∈ e :: past → i < bound := by
  intro i hi
  rcases List.mem_cons.mp hi with heq | hmem
  · exact absurd heq.symm (he i)
  · exact h.begun i hmem

theorem sends {wave : Nat × Nat} (h : Log bound count past) (hopen : openWave past = some wave)
    (packet : AttackPacket) : Log bound (count + 1) (.sends packet :: past) where
  waves := ⟨by simp [Fits, hopen], h.waves⟩
  begun := h.begun_cons nofun
  total := by
    have htotal := h.total
    simp only [recorded, sent]
    omega

theorem records (scalars : AttackScalars) (h : Log bound scalars.packetsSent past)
    (hopen : openWave past = some (scalars.attackIndex, scalars.packetsSent)) :
    Log bound 0 (.records scalars :: past) where
  waves := ⟨hopen, h.waves⟩
  begun := h.begun_cons nofun
  total := by
    have htotal := h.total
    simp only [recorded, sent]
    omega

theorem later (h : Log bound count past) : Log (bound + 1) count past :=
  ⟨h.waves, fun i hi => Nat.lt_succ_of_lt (h.begun i hi), h.total⟩

end Log

/-- The state and the history: an active zombie has its timer running and its wave
open, with as many packets as it has counted. -/
structure Books (n bound : Nat) (s : TribeFloodNetwork) (past : List Observed) : Prop where
  sized : Sized n s
  log : Log bound s.packetsSent past
  active : s.isActive = true ↔ s.floodingTime.isSome
  opened : s.isActive = true → openWave past = some (s.attackIndex, s.packetsSent)
  closed : s.isActive = false → openWave past = none ∧ s.packetsSent = 0

section Books

variable {env : Environment} {par : FloodParameters} {t prob prob' : Rat} {n bound : Nat}
  {s : TribeFloodNetwork} {past : List Observed}

/-- A wave begins where none is open. -/
theorem Log.beginWave (hlog : Log s.index s.packetsSent past) (hclosed : openWave past = none)
    (hcount : s.packetsSent = 0) (hsized : Sized n s) (hindex : s.index < n) :
    Ensures Wrong (fun r => r.1.index = s.index ∧ r.1.isActive = s.isActive ∧
        Books n (s.index + 1) { r.1 with isActive := true } (r.2 ++ past))
      (s.beginWave env par t) := by
  refine (beginWave_spec hsized hindex).mono fun r hr => ?_
  obtain ⟨hkeeps, htimer, hattack, hseen⟩ := hr
  rw [hcount] at hlog
  have hpackets : r.1.packetsSent = 0 := hkeeps.packetsSent.trans hcount
  refine ⟨hkeeps.index, hkeeps.isActive, ?_⟩
  rw [hseen]
  exact
    { sized := hkeeps.sized.congr rfl
      log := by
        rw [hpackets]
        exact hlog.begins hclosed
      active := by simp [htimer]
      opened := by simp [openWave, hattack, hpackets]
      closed := by simp }

/-- A record closes the wave of an active zombie. -/
theorem Books.record (h : Books n bound s past) (hactive : s.isActive = true) (time : Rat) :
    Log bound 0 (.records (s.recordAttackScalars time).2 :: past) :=
  Log.records _ h.log (h.opened hactive)

theorem Books.decideAttack (h : Books n s.index s past) (hindex : s.index < n) :
    Ensures Wrong (fun r => r.1.index = s.index ∧ Books n (s.index + 1) r.1 (r.2 ++ past))
      (s.decideAttack env par t prob prob') := by
  have hlater : Books n (s.index + 1) s past :=
    ⟨h.sized, h.log.later, h.active, h.opened, h.closed⟩
  unfold TribeFloodNetwork.decideAttack
  by_cases hactive : s.isActive = true
  · rw [if_pos hactive]
    by_cases hswitch : prob ≤ s.probAttackSwitch
    · rw [if_pos hswitch]
      -- the old wave is recorded before the new one begins
      have hlog : Log (s.recordAttackScalars t).1.index (s.recordAttackScalars t).1.packetsSent
          (.records (s.recordAttackScalars t).2 :: past) := h.record hactive t
      have hsized : Sized n (s.recordAttackScalars t).1 := h.sized.congr rfl
      refine (hlog.beginWave rfl rfl hsized hindex).bind fun begun hbegun => ?_
      obtain ⟨hindex', hactive', hbooks⟩ := hbegun
      have heq : { begun.1 with isActive := true } = begun.1 := by
        rw [← hactive'.trans hactive]
      rw [heq] at hbooks
      refine ⟨hindex', ?_⟩
      rw [List.append_assoc]
      exact hbooks
    · rw [if_neg hswitch]
      by_cases hoff : prob' ≤ s.probAttackOff
      · -- the zombie goes off: a record, and no wave is open
        rw [if_pos hoff]
        exact ⟨rfl,
          { sized := h.sized.congr rfl
            log := (h.record hactive t).later
            active := by simp [recordAttackScalars]
            opened := by simp [recordAttackScalars]
            closed := by simp [recordAttackScalars, openWave] }⟩
      · rw [if_neg hoff]
        exact ⟨rfl, hlater⟩
  · -- an idle zombie has no open wave to record
    have hidle : s.isActive = false := Bool.eq_false_iff.mpr hactive
    rw [if_neg hactive]
    by_cases hon : prob ≤ s.probAttackOn
    · rw [if_pos hon]
      obtain ⟨hclosed, hcount⟩ := h.closed hidle
      refine (h.log.beginWave hclosed hcount h.sized hindex).bind fun begun hbegun => ?_
      exact ⟨hbegun.1, hbegun.2.2⟩
    · rw [if_neg hon]
      exact ⟨rfl, hlater⟩

theorem Books.startFlooding (h : Books n s.index s past) (hindex : s.index < n) :
    Ensures Wrong (fun r => r.1.index = s.index + 1 ∧ Books n r.1.index r.1 (r.2 ++ past))
      (s.startFlooding env par t prob prob') := by
  refine (h.decideAttack hindex).bind fun r hr => ?_
  obtain ⟨heq, hbooks⟩ := hr
  refine ⟨by simp [heq], ?_⟩
  rw [heq]
  exact ⟨hbooks.sized.congr rfl, hbooks.log, hbooks.active, hbooks.opened, hbooks.closed⟩

/-- The flood functions change the ports at most. -/
theorem flood_spec (env : Environment) (s : TribeFloodNetwork) (draw : PacketDraw) :
    ∃ c_sourcePort c_victimPort, (s.flood env draw).1 =
      { s with c_sourcePort := c_sourcePort, c_victimPort := c_victimPort } := by
  unfold flood
  split
  · exact ⟨_, _, rfl⟩
  · exact ⟨s.c_sourcePort, s.c_victimPort, rfl⟩
  · exact ⟨_, _, rfl⟩

/-- The packet is counted; the wave ends with the packet that exhausts it. -/
theorem Books.sendAttackPacket (h : Books n bound s past) (hactive : s.isActive = true)
    (draw : PacketDraw) :
    Ensures Wrong (fun r => r.1.index = s.index ∧ Books n bound r.1 (r.2 ++ past))
      (s.sendAttackPacket env t draw) := by
  obtain ⟨c_sourcePort, c_victimPort, hflood⟩ :=
    flood_spec env { s with floodingTime := none } draw
  unfold TribeFloodNetwork.sendAttackPacket
  generalize { s with floodingTime := none }.flood env draw = sentPacket at hflood ⊢
  have hlog : ∀ packet, Log bound (s.packetsSent + 1) (.sends packet :: past) :=
    fun packet => h.log.sends (h.opened hactive) packet
  have hopen : ∀ packet, openWave (.sends packet :: past) =
      some (s.attackIndex, s.packetsSent + 1) := by
    intro packet
    simp [openWave, h.opened hactive]
  obtain ⟨s', packet⟩ := sentPacket
  obtain rfl : s' = _ := hflood
  dsimp only
  split
  · -- packets are left: the next one is scheduled, unless that is in the past
    rcases scheduleAt_none_cases t s.c_floodingDelay with hpast | hset
    · rw [hpast]
      simp [Ensures, Wrong, Bind.bind, Except.bind]
    · rw [hset, ok_bind]
      exact ⟨rfl,
        { sized := h.sized.congr rfl
          log := hlog packet
          active := by simp [hactive]
          opened := by simp [hopen packet]
          closed := by simp [hactive] }⟩
  · refine ⟨rfl,
      { sized := h.sized.congr rfl
        log := Log.records ⟨s.attackIndex, s.attackStart, t, _⟩ (hlog packet) (hopen packet)
        active := by simp [recordAttackScalars]
        opened := by simp [recordAttackScalars]
        closed := by simp [recordAttackScalars, openWave] }⟩

end Books

/-! ## Every run -/

/-- The invariant. After `finish` no event follows, and the state of a zombie that was
active is left as it was. -/
structure Kept (par : FloodParameters) (w : World) : Prop where
  sized : Sized (configured par) w.tfn
  pending : w.tfn.index + w.startMsg.length = configured par
  log : Log w.tfn.index w.tfn.packetsSent w.history
  active : w.tfn.isActive = true ↔ w.tfn.floodingTime.isSome
  books : w.finished = false → Books (configured par) w.tfn.index w.tfn w.history
  noFault : ∀ e, w.fault = some e → ¬ Wrong e

theorem Kept.bookkeeping {par : FloodParameters} {w : World} (h : Kept par w) :
    Bookkeeping par w where
  active := h.active
  index := by
    have hpending := h.pending
    omega
  inRange := by
    intro i hi
    have hlt := h.log.begun i hi
    have hpending := h.pending
    exact h.sized.inRange (by omega)
  noFault := h.noFault
  total := h.log.total
  waves := h.log.waves

section Runs

variable {env : Environment} {par : FloodParameters} {w w' : World}

theorem length_of_mapM {α β : Type} {f : α → Option β} {l : List α} {r : List β}
    (h : l.mapM f = some r) : r.length = l.length := by
  induction l generalizing r with
  | nil =>
      cases h
      rfl
  | cons a rest ih =>
      rw [List.mapM_cons] at h
      obtain ⟨b, -, h⟩ := Option.bind_eq_some_iff.mp h
      obtain ⟨r', hr', h⟩ := Option.bind_eq_some_iff.mp h
      cases h
      simp [ih hr']

theorem initializeModule_spec {simTime : Rat} {raw : TribeFloodNetwork} :
    Post (fun r => Sized (configured par) r.1 ∧ r.1.index = 0 ∧ r.1.packetsSent = 0 ∧
        r.1.isActive = false ∧ r.1.floodingTime = none ∧ r.2.length = configured par)
      (initializeModule env par simTime raw) := by
  unfold initializeModule
  dsimp only
  split
  · exact Post.error _
  · cases hresolve : (tokens par.victimAddress).mapM env.resolve with
    | none => exact Post.error _
    | some victimAddr =>
      have hlen := length_of_mapM hresolve
      dsimp only
      split
      · exact Post.error _
      · rename_i heq
        simp only [not_or, not_not] at heq
        obtain ⟨hvp, hps, hsz, hty, hpa, hti⟩ := heq
        refine ⟨⟨?_, ?_, ?_, ?_, ?_, ?_⟩, rfl, rfl, rfl, rfl, ?_⟩ <;>
          simp [configured, hlen, hvp, hps, hsz, hty, hpa, hti]

theorem Kept.init (hinit : (system env par).init w) : Kept par w := by
  obtain ⟨simTime, raw, r, hr, rfl⟩ := hinit
  obtain ⟨hsized, hindex, hcount, hidle, htimer, hpending⟩ := initializeModule_spec.of_ok hr
  have hlog : Log r.1.index r.1.packetsSent [] :=
    ⟨trivial, by simp, by simp [recorded, sent, hcount]⟩
  have hactive : r.1.isActive = true ↔ r.1.floodingTime.isSome := by simp [hidle, htimer]
  exact
    { sized := hsized
      pending := by simp [hindex, hpending]
      log := hlog
      active := hactive
      books := fun _ => ⟨hsized, hlog, hactive, by simp [hidle], by simp [openWave, hcount]⟩
      noFault := by simp }

/-- The event of a generator whose books are in order. -/
theorem Kept.ofBooks (h : Kept par w) {tfn : TribeFloodNetwork} {startMsg : List Rat}
    {seen : List Observed} (hbooks : Books (configured par) tfn.index tfn (seen ++ w.history))
    (hpending : tfn.index + startMsg.length = configured par) :
    Kept par { w with tfn := tfn, startMsg := startMsg, history := seen ++ w.history } where
  sized := hbooks.sized
  pending := hpending
  log := hbooks.log
  active := hbooks.active
  books := fun _ => hbooks
  noFault := h.noFault

/-- A start message that is delivered was scheduled. -/
theorem handle_startFlooding {t prob prob' : Rat} {r : Except Fault World}
    (hr : w.handle env par (.startFlooding t prob prob') = some r) :
    t ∈ w.startMsg ∧ r = (w.tfn.startFlooding env par t prob prob').map fun r => { w with
      tfn := r.1, startMsg := w.startMsg.erase t, history := r.2 ++ w.history } := by
  unfold World.handle at hr
  dsimp only at hr
  split at hr
  · rename_i hmem
    exact ⟨hmem, (Option.some.inj hr).symm⟩
  · cases hr

/-- The timer is delivered at the time it was scheduled for. -/
theorem handle_floodingTime {draw : PacketDraw} {r : Except Fault World}
    (hr : w.handle env par (.floodingTime draw) = some r) : ∃ t, w.tfn.floodingTime = some t ∧
      r = (w.tfn.sendAttackPacket env t draw).map fun r => { w with
        tfn := r.1, history := r.2 ++ w.history } := by
  unfold World.handle at hr
  dsimp only at hr
  split at hr
  · cases hr
  · rename_i t htimer
    exact ⟨t, htimer, (Option.some.inj hr).symm⟩

/-- What is ensured of a handler carries over to the event. -/
theorem Kept.settle (h : Kept par w) {x : Handled} {P : TribeFloodNetwork × List Observed → Prop}
    (hx : Ensures Wrong P x) {f : TribeFloodNetwork × List Observed → World}
    (hf : ∀ r, P r → Kept par (f r)) : Kept par (w.settle (x.map f)) := by
  cases x with
  | ok r => exact hf r hx
  | error e =>
      refine ⟨h.sized, h.pending, h.log, h.active, h.books, ?_⟩
      intro e' he'
      cases he'
      exact hx

theorem Kept.step {e : Event} (h : Kept par w) (hstep : (system env par).step w e w') :
    Kept par w' := by
  obtain ⟨-, hfinished, r, hr, rfl⟩ := hstep
  have hbooks := h.books hfinished
  have hpending := h.pending
  cases e with
  | startFlooding simTime prob prob' =>
      obtain ⟨hmem, rfl⟩ := handle_startFlooding hr
      -- one start message less, one index more
      have hlen := List.length_erase_of_mem hmem
      have hpos := List.length_pos_of_mem hmem
      refine h.settle (hbooks.startFlooding (by omega)) fun r hr => ?_
      exact h.ofBooks hr.2 (by omega)
  | floodingTime draw =>
      obtain ⟨simTime, htimer, rfl⟩ := handle_floodingTime hr
      have hactive : w.tfn.isActive = true := h.active.mpr (by rw [htimer]; rfl)
      refine h.settle (hbooks.sendAttackPacket hactive draw) fun r hr => ?_
      exact h.ofBooks (hr.1 ▸ hr.2) (hr.1 ▸ hpending)
  | networkMessage =>
      cases hr
      exact h
  | finish simTime =>
      cases hr
      by_cases hactive : w.tfn.isActive = true
      · simp only [World.settle, finish, if_pos hactive]
        have hlog := hbooks.record hactive simTime
        exact ⟨h.sized.congr rfl, hpending, hlog, h.active, by simp, h.noFault⟩
      · simp only [World.settle, finish, if_neg hactive]
        exact ⟨h.sized, hpending, h.log, h.active, by simp, h.noFault⟩

/-- The bookkeeping is right in every reachable state. -/
theorem bookkeeping_of_reachable (h : (system env par).Reachable w) : Bookkeeping par w := by
  have hkept : (system env par).Inductive (Kept par) :=
    ⟨fun _ hinit => Kept.init hinit, fun _ _ _ hkept hstep => hkept.step hstep⟩
  exact (hkept.invariant w h).bookkeeping

end Runs

/-- One UDP attack of two packets, from second 10 on. -/
def oneAttack : FloodParameters where
  attackStartTime := ['1', '0']
  attackStartDiff := 0
  maxPacket := ['2']
  attackType := ['6']
  packetSize := ['8']
  destinationPort := ['9']
  sourcePort := ['7']
  victimAddress := ['v']
  timeBetweenPacketMin := 1
  timeBetweenPacketDiff := 0
  attackOnProbability := 1
  attackSwitchProbability := 0
  attackOffProbability := 0
  sourceAddressStart := 0
  sourceAddressEnd := 0

/-- The conversions of the C library, with doubles that are exact, and a resolver that knows
one address. -/
def oneAttackLibrary : Environment where
  atoi := Number.atoi
  atof text :=
    match Number.atof text with
    | .finite x => x
    | .infinite _ | .nan _ => 0
  resolve _ := some 5
  isIPv6 _ := false
  parentPath := ['z']
  id := 1

/-- The zombie after `initialize`. -/
def idleZombie : TribeFloodNetwork where
  packetSize := [8]
  attackType := [6]
  maxPacket := [2]
  victimAddr := [5]
  victimPort := [9]
  sourcePort := [7]
  sourceAddrStart := 0
  sourceAddrEnd := 0
  spoofingOn := false
  srcPortWalkOn := false
  dstPortWalkOn := false
  floodingTime := none
  probAttackOn := 1
  probAttackSwitch := 0
  probAttackOff := 0
  floodingTimes := 0
  floodFunc := .handleTCPFlood
  index := 0
  c_victimPort := 0
  c_sourcePort := 0
  c_packetSize := 1
  c_attackType := 0
  c_maxPacket := 1
  c_floodingDelay := 0
  c_victimAddr := 0
  isActive := false
  attackIndex := 0
  packetsSent := 0
  attackStart := 0
  attackEnd := 0
  sourceIP := 0
  destIP := 0

/-- The zombie after it has joined the attack. -/
def joinedZombie : TribeFloodNetwork :=
  { idleZombie with
    floodingTime := some 11
    floodFunc := .handleUDPFlood
    index := 1
    c_victimPort := 9
    c_sourcePort := 7
    c_packetSize := 8
    c_attackType := 6
    c_maxPacket := 2
    c_floodingDelay := 1
    c_victimAddr := 5
    isActive := true
    attackStart := 11
    sourceIP := 5
    destIP := 5 }

/-- The step as a function. -/
def World.next (env : Environment) (par : FloodParameters) (w : World) (e : Event) :
    Option World :=
  if w.fault = none ∧ w.finished = false then (w.handle env par e).map w.settle else none

theorem World.next_step {env : Environment} {par : FloodParameters} {w w' : World} {e : Event}
    (h : w.next env par e = some w') : (system env par).step w e w' := by
  unfold next at h
  split at h
  · rename_i hrunning
    obtain ⟨r, hr, rfl⟩ := Option.map_eq_some_iff.mp h
    exact ⟨hrunning.1, hrunning.2, r, hr, rfl⟩
  · cases h

/-- The simulation after `initialize`. -/
def idleWorld : World := { tfn := idleZombie, startMsg := [10] }

theorem idleWorld_init : (system oneAttackLibrary oneAttack).init idleWorld :=
  ⟨0, idleZombie, (idleZombie, [10]), by decide +kernel, rfl⟩

/-- The zombie joins the attack, sends its two packets, and the simulation ends. -/
def twoPacketRun : List (Event × World) :=
  TSys.trace (World.next oneAttackLibrary oneAttack) idleWorld
    [.startFlooding 10 0 0, .floodingTime ⟨0, 0⟩, .networkMessage, .floodingTime ⟨0, 0⟩, .finish 20]

theorem bookkeeping_twoPacketRun : TSys.Always (Bookkeeping oneAttack) idleWorld twoPacketRun := by
  have hrun : (system oneAttackLibrary oneAttack).Run idleWorld twoPacketRun :=
    TSys.run_trace (fun _ _ _ => World.next_step) _ _
  exact (hrun.reachable (.init idleWorld_init)).mono fun _ => bookkeeping_of_reachable

/-- The record is of both packets, from second 11 to second 12. -/
example : (TSys.finish idleWorld twoPacketRun).finished = true ∧
    (TSys.finish idleWorld twoPacketRun).history.head? = some (.records ⟨0, 11, 12, 2⟩) := by
  decide +kernel

end TribeFloodNetwork

end ScadaSim.Attack
