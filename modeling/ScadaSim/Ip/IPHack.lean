import ScadaSim.Attack.Timer
import ScadaSim.Lib.Outcome
import ScadaSim.Lib.TSys
import ScadaSim.Routing.NodeInfo
import ScadaSim.Traffic.TransmissionConfig

/-!
# The IP layer

`IP_hack`: datagrams of attackers may have a false source address, and the traffic that
comes from the network is counted, for an output vector with one value for each interval.

The base class serves one message after the other. How long it takes is left open: a
message is served at any time that is not past the next trace message. Routing tables,
ARP and ICMP are not here; what is handed over to them is an `Action`.
-/

namespace ScadaSim.Ip

open Lib Traffic Attack Routing

/-- Runtime errors: `opp_error`, a failed `check_and_cast`, and those of `scheduleAt`. -/
inductive Fault
  | oppError (text : String)
  | badCast
  | scheduling (e : Attack.Fault)
  deriving DecidableEq

inductive Protocol
  | icmp
  | tcp
  | udp
  | other (number : Int)
  deriving DecidableEq

inductive OptionCode
  | noOption
  | endOfOptions
  | security
  | looseSourceRouting
  | timestamp
  | recordRoute
  | streamId
  | strictSourceRouting
  | routerAlert
  | other (number : Int)
  deriving DecidableEq

def IP_HEADER_BYTES : Int := 20

/-- `IPDatagram_hacked`. -/
structure Datagram where
  byteLength : Int
  headerLength : Int := IP_HEADER_BYTES
  hasBitError : Bool := false
  srcAddress : IPAddress := 0
  destAddress : IPAddress
  transportProtocol : Protocol
  timeToLive : Int
  diffServCodePoint : Int
  identification : Int
  moreFragments : Bool := false
  dontFragment : Bool
  fragmentOffset : Int := 0
  optionCode : OptionCode := .noOption
  attackTag : BitVec 16 := 0
  deriving DecidableEq

/-- `IPControlInfo`; one of the class `IPControlInfo_hacked` has an attack tag. -/
structure ControlInfo where
  srcAddr : IPAddress
  destAddr : IPAddress
  interfaceId : Int
  protocol : Protocol
  diffServCodePoint : Int
  timeToLive : Int
  dontFragment : Bool
  attackTag : Option (BitVec 16)
  deriving DecidableEq

/-- A packet of the transport layer. -/
structure TransportPacket where
  className : String
  fullName : String
  byteLength : Int
  controlInfo : Option ControlInfo
  deriving DecidableEq

inductive Message
  | transport (packet : TransportPacket)
  | arpPacket
  | datagram (datagram : Datagram)

/-- A message is told by its gate, and by its class. -/
structure Arrived where
  arrivalGate : String
  message : Message

/-- What the module knows of its node: interfaces are known by their number. -/
structure Node where
  numInterfaces : Nat
  interfaceById : Int → Option Nat
  interfaceByAddress : IPAddress → Option Nat
  defaultTimeToLive : Int
  defaultMCTimeToLive : Int

/-- The parameters of the module. -/
structure Parameters where
  spoofingOn : Bool
  tracingOn : Bool
  tracingInterval : Rat
  traceStartTime : Rat

/-- The members. Of an output vector the latest value is first; `curFragmentId` is an `int`,
which is all that `setIdentification` takes of it. -/
structure IP_hack where
  tracingOn : Bool := false
  spoofingAllowed : Bool := false
  startTrace : Bool := false
  totalTrace : Int := 0
  udpTrace : Int := 0
  tcpTrace : Int := 0
  icmpTrace : Int := 0
  totalPackets : Int := 0
  udpPackets : Int := 0
  tcpPackets : Int := 0
  icmpPackets : Int := 0
  traceInterval : Rat := 0
  traceMsg : Timer := none
  output : List (Rat × Int) := []
  udpout : List (Rat × Int) := []
  tcpout : List (Rat × Int) := []
  icmpout : List (Rat × Int) := []
  curFragmentId : Int
  deriving DecidableEq

/-- What becomes of a message that has been served: the base class routes it, from the
higher layers or not, with the interface that was asked for. -/
inductive Action
  | routePacket (datagram : Datagram) (destIE : Option Nat) (fromHL : Bool)
  | routeMulticastPacket (datagram : Datagram) (destIE : Option Nat) (fromHL : Bool)
  | parameterProblem (datagram : Datagram)
  | handleARP
  | delete
  deriving DecidableEq

/-- Class D. -/
def isMulticast (a : IPAddress) : Bool := a.toNat / 2 ^ 28 == 14

def str (a : IPAddress) : String :=
  let byte (k : Nat) := toString (a.toNat / 2 ^ (8 * k) % 256)
  byte 3 ++ "." ++ byte 2 ++ "." ++ byte 1 ++ "." ++ byte 0

namespace IP_hack

def scheduled (r : Except Attack.Fault Timer) : Except Fault Timer := r.mapError .scheduling

/-- `curFragmentId` is what the base class has put there: a counter of its own. -/
def initializeModule (par : Parameters) (simTime : Rat) (curFragmentId : Int) :
    Except Fault IP_hack := do
  let s : IP_hack :=
    { curFragmentId := int32 curFragmentId
      spoofingAllowed := par.spoofingOn
      tracingOn := par.tracingOn }
  if s.tracingOn then
    let s := { s with traceInterval := par.tracingInterval }
    let traceMsg ← scheduled (
      if par.traceStartTime ≤ 0 then scheduleAt s.traceMsg simTime s.traceInterval
      else scheduleAt s.traceMsg simTime par.traceStartTime)
    return { s with traceMsg := traceMsg }
  else return s

/-- `handleMessage` for `traceMsg`, which is no longer scheduled when it is delivered. -/
def handleTraceMsg (s : IP_hack) (simTime : Rat) : Except Fault IP_hack := do
  let s := { s with traceMsg := none }
  if ¬ s.startTrace then
    let s := { s with
      startTrace := true, totalTrace := 0, icmpTrace := 0, tcpTrace := 0, udpTrace := 0 }
    let traceMsg ← scheduled (scheduleAt s.traceMsg simTime s.traceInterval)
    return { s with traceMsg := traceMsg }
  else
    let s := if s.tracingOn then
        { s with
          output := (simTime, s.totalTrace) :: s.output
          icmpout := (simTime, s.icmpTrace) :: s.icmpout
          tcpout := (simTime, s.tcpTrace) :: s.tcpout
          udpout := (simTime, s.udpTrace) :: s.udpout
          totalTrace := 0, icmpTrace := 0, tcpTrace := 0, udpTrace := 0 }
      else s
    let traceMsg ← scheduled (scheduleAt s.traceMsg simTime s.traceInterval)
    return { s with traceMsg := traceMsg }

def encapsulate (node : Node) (s : IP_hack) (transportPacket : TransportPacket) :
    Except Fault (IP_hack × Datagram × Option Nat) := do
  let controlInfo ← transportPacket.controlInfo.elim (.error .badCast) .ok
  let destIE := node.interfaceById controlInfo.interfaceId
  let src := controlInfo.srcAddr
  if src ≠ 0 ∧ node.interfaceByAddress src = none ∧ ¬ s.spoofingAllowed then
    .error (.oppError ("Wrong source address " ++ str src ++ " in (" ++
      transportPacket.className ++ ")" ++ transportPacket.fullName ++
      ": no interface with such address"))
  else
    return ({ s with curFragmentId := int32 (s.curFragmentId + 1) },
      { byteLength := IP_HEADER_BYTES + transportPacket.byteLength
        destAddress := controlInfo.destAddr
        attackTag := controlInfo.attackTag.getD 0
        -- without one, the routing puts in that of the outgoing interface
        srcAddress := src
        diffServCodePoint := controlInfo.diffServCodePoint
        identification := s.curFragmentId
        moreFragments := false
        dontFragment := controlInfo.dontFragment
        fragmentOffset := 0
        timeToLive :=
          if controlInfo.timeToLive > 0 then controlInfo.timeToLive
          else if isMulticast controlInfo.destAddr then node.defaultMCTimeToLive
          else node.defaultTimeToLive
        transportProtocol := controlInfo.protocol }, destIE)

def handleMessageFromHL (node : Node) (s : IP_hack) (msg : TransportPacket) :
    Except Fault (IP_hack × Action) :=
  if node.numInterfaces = 0 then .ok (s, .delete)
  else do
    let (s, datagram, destIE) ← s.encapsulate node msg
    if ¬ isMulticast datagram.destAddress then return (s, .routePacket datagram destIE true)
    else return (s, .routeMulticastPacket datagram destIE true)

def processPacket (s : IP_hack) (datagram : Datagram) (checkOpts : Bool) :
    Except Fault (IP_hack × Action) :=
  let route : IP_hack × Action :=
    if ¬ isMulticast datagram.destAddress then (s, .routePacket datagram none false)
    else (s, .routeMulticastPacket datagram none false)
  if checkOpts then
    match datagram.optionCode with
    | .other _ => .error (.oppError "unknown IP option\n")
    | _ => .ok route
  else .ok route

/-- The counters, in case of tracing. -/
def count (s : IP_hack) (protocol : Protocol) : IP_hack :=
  if s.tracingOn then
    let s := { s with
      totalTrace := int32 (s.totalTrace + 1), totalPackets := int32 (s.totalPackets + 1) }
    match protocol with
    | .icmp => { s with
        icmpTrace := int32 (s.icmpTrace + 1), icmpPackets := int32 (s.icmpPackets + 1) }
    | .tcp => { s with
        tcpTrace := int32 (s.tcpTrace + 1), tcpPackets := int32 (s.tcpPackets + 1) }
    | .udp => { s with
        udpTrace := int32 (s.udpTrace + 1), udpPackets := int32 (s.udpPackets + 1) }
    | .other _ => s
  else s

/-- `draw` is the random number that decides whether a bit error is in the header. A
datagram is not empty. -/
def handlePacketFromNetwork (s : IP_hack) (datagram : Datagram) (draw : Rat) :
    Except Fault (IP_hack × Action) :=
  let s := s.count datagram.transportProtocol
  if datagram.hasBitError ∧ draw ≤ datagram.headerLength / datagram.byteLength then
    .ok (s, .parameterProblem datagram)
  else s.processPacket { datagram with timeToLive := datagram.timeToLive - 1 } true

def endService (node : Node) (s : IP_hack) (msg : Arrived) (draw : Rat) :
    Except Fault (IP_hack × Action) :=
  if msg.arrivalGate = "transportIn" then
    match msg.message with
    | .transport packet => s.handleMessageFromHL node packet
    -- without control information of its class
    | _ => if node.numInterfaces = 0 then .ok (s, .delete) else .error .badCast
  else
    match msg.message with
    | .arpPacket => .ok (s, .handleARP)
    | .datagram datagram =>
        if msg.arrivalGate = "queueIn" then s.handlePacketFromNetwork datagram draw
        else .error (.oppError "msg received on IP_hack layer that cannot be handled\n")
    | .transport _ =>
        if msg.arrivalGate = "queueIn" then .error .badCast
        else .error (.oppError "msg received on IP_hack layer that cannot be handled\n")

/-- The scalars that are recorded at the end. -/
def finish (s : IP_hack) : List (String × Int) :=
  [("Total packets", s.totalPackets), ("TCP packets", s.tcpPackets),
    ("UDP packets", s.udpPackets), ("ICMP packets", s.icmpPackets)]

end IP_hack

/-! ## Runs -/

inductive Event
  | traceMsg
  | endService (simTime : Rat) (msg : Arrived) (draw : Rat)

/-- What is observed: a trace message, or a message that has been served. -/
inductive Observed
  | traceMsg (simTime : Rat)
  | served (simTime : Rat) (msg : Arrived) (action : Action)

/-- The module and its history, the latest observation first. An error ends the
simulation. -/
structure World where
  now : Rat
  module : IP_hack
  history : List Observed := []
  fault : Option Fault := none

namespace World

def handle (node : Node) (w : World) : Event → Option (Except Fault World)
  | .traceMsg =>
      match w.module.traceMsg with
      | none => none
      | some simTime =>
          if w.now ≤ simTime then
            some ((w.module.handleTraceMsg simTime).map fun s =>
              { w with now := simTime, module := s, history := .traceMsg simTime :: w.history })
          else none
  | .endService simTime msg draw =>
      if w.now ≤ simTime ∧ ∀ t ∈ w.module.traceMsg, simTime ≤ t then
        some ((w.module.endService node msg draw).map fun r =>
          { w with
            now := simTime
            module := r.1
            history := .served simTime msg r.2 :: w.history })
      else none

def settle (w : World) : Except Fault World → World
  | .ok w' => w'
  | .error e => { w with fault := some e }

end World

def system (node : Node) (par : Parameters) : TSys World Event where
  init w := ∃ curFragmentId s,
    IP_hack.initializeModule par w.now curFragmentId = .ok s ∧ w = { now := w.now, module := s }
  step w e w' := w.fault = none ∧ ∃ r, w.handle node e = some r ∧ w' = w.settle r

/-- What a step does: an error, a trace message or a message that is served. -/
theorem step_cases {node : Node} {par : Parameters} {w w' : World} {e : Event}
    (hstep : (system node par).step w e w') :
    (∃ e, w' = { w with fault := some e }) ∨
      (∃ t s, w.module.traceMsg = some t ∧ w.now ≤ t ∧ w.module.handleTraceMsg t = .ok s ∧
        w' = { w with now := t, module := s, history := .traceMsg t :: w.history }) ∨
      ∃ t msg draw r, w.now ≤ t ∧ w.module.endService node msg draw = .ok r ∧
        w' = { w with now := t, module := r.1, history := .served t msg r.2 :: w.history } := by
  obtain ⟨-, r, hr, rfl⟩ := hstep
  cases r with
  | error e => exact .inl ⟨e, rfl⟩
  | ok w' =>
      right
      cases e with
      | traceMsg =>
          left
          unfold World.handle at hr
          dsimp only at hr
          cases htimer : w.module.traceMsg with
          | none =>
              rw [htimer] at hr
              cases hr
          | some t =>
              rw [htimer] at hr
              dsimp only at hr
              split at hr
              · rename_i hnow
                cases hs : w.module.handleTraceMsg t with
                | error e =>
                    rw [hs] at hr
                    cases hr
                | ok s =>
                    rw [hs] at hr
                    cases hr
                    exact ⟨t, s, rfl, hnow, hs, rfl⟩
              · cases hr
      | endService t msg draw =>
          right
          unfold World.handle at hr
          dsimp only at hr
          split at hr
          · rename_i hnow
            cases hs : w.module.endService node msg draw with
            | error e =>
                rw [hs] at hr
                cases hr
            | ok r =>
                rw [hs] at hr
                cases hr
                exact ⟨t, msg, draw, r, hnow.1, hs, rfl⟩
          · cases hr

/-- The step as a function. -/
def World.next (node : Node) (w : World) (e : Event) : Option World :=
  if w.fault = none then (w.handle node e).map w.settle else none

theorem World.next_step {node : Node} {par : Parameters} {w w' : World} {e : Event}
    (h : w.next node e = some w') :
    (system node par).step w e w' := by
  unfold next at h
  split at h
  · rename_i hfault
    obtain ⟨r, hr, rfl⟩ := Option.map_eq_some_iff.mp h
    exact ⟨hfault, r, hr, rfl⟩
  · cases h

end ScadaSim.Ip
