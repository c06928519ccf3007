import ScadaSim.Lib.TSys
import ScadaSim.User.Carriers
import ScadaSim.User.InetUser

/-!
# The user and its applications

A host: its `InetUser`, and one client application for each protocol. An application
that reports a transmission calls its user, which books the statistics and starts
the next transmission, all within the same event.
-/

namespace ScadaSim.User

open Lib Traffic

/-- A report to `transmissionDone`, with the application that it comes from. -/
structure Report where
  transmission : Nat
  producer : ApplicationType
  stat : TransmissionStatistics

/-- `started` numbers the transmissions and `reports` keeps what the user was told;
no function of the user reads them. -/
structure Host (U : UdpApp.UDPSocket) (S : TcpApp.TCPSocket) where
  user : InetUser
  /-- The wakeup message is scheduled. -/
  startMessage : Bool
  udp : UdpApp.GenericUDPApplication U
  tcp : TcpApp.GenericTCPApplication S
  icmp : PingApp.GenericICMPPingApplication
  started : Nat := 0
  reports : List Report := []

/-- What an event finds: the connection managers, the values that are drawn, and the
socket, the connection and the address of a new thread. -/
structure Turn where
  supply : Supply
  sim : Sim
  draws : Nat → Draw
  sockId : Int
  connId : Int
  q : Nat

inductive Event
  | wakeup
  | udp (a : UdpApp.Action)
  | tcp (a : TcpApp.AppAction)
  | pingTimer (draws : Nat → Draw)
  | pong (msg : Option PingApp.PingPayload)

namespace Host

variable {U : UdpApp.UDPSocket} {S : TcpApp.TCPSocket}

/-- `applications[a]->transmissionStart(curTrafficProfile, curTargetInfo)`. -/
def start (h : Host U S) (n : Turn) (a : ApplicationType) : Option (Host U S) :=
  if a ∈ h.user.applications then
    match a with
    | .udpApp =>
        if h.udp.Fresh n.sockId n.q then
          match h.udp.transmissionStart h.user.curTrafficProfile h.user.curTargetInfo h.started
              n.draws n.sockId n.q with
          | .ok app => some { h with udp := app, started := h.started + 1 }
          | .error _ => none
        else none
    | .tcpApp =>
        if n.q ∉ h.tcp.threads then
          match h.tcp.transmissionStart h.user.curTrafficProfile h.started (n.draws 0) n.connId
              n.q with
          | .ok e => some { h with tcp := e.app, started := h.started + 1 }
          | .error _ => none
        else none
    | .icmpApp =>
        match h.icmp.transmissionStart h.user.curTrafficProfile h.user.curTargetInfo h.started
            n.draws with
        | .ok app => some { h with icmp := app, started := h.started + 1 }
        | .error _ => none
    | .notSet => none
  else none

/-- `transmissionDone()`. -/
def transmissionDone (h : Host U S) (n : Turn) : Option (Host U S) :=
  match h.user.transmissionDone n.supply n.sim with
  | .error _ => none
  | .ok d =>
      match d.start with
      | none => some { h with user := d.user }
      | some a => start { h with user := d.user } n a

/-- `transmissionDone(t)`, called by the application `producer`, if it reports. -/
def finish (h : Host U S) (n : Turn) (producer : ApplicationType) :
    Option (Nat × TransmissionStatistics) → Option (Host U S)
  | none => some h
  | some r =>
      transmissionDone { h with
        user := h.user.book r.2
        reports := h.reports ++ [⟨r.1, producer, r.2⟩] } n

/-- One event. What ends in an error is no step: the simulation is over. -/
def next (h : Host U S) (n : Turn) : Event → Option (Host U S)
  | .wakeup =>
      if h.startMessage then transmissionDone { h with startMessage := false } n else none
  | .udp a =>
      if a.external ∧ h.udp.Enabled a then
        match h.udp.apply a with
        | .ok e => finish { h with udp := e.app } n .udpApp e.report
        | .error _ => none
      else none
  | .tcp a =>
      if a.external ∧ h.tcp.Enabled a then
        match h.tcp.apply a with
        | .ok e => finish { h with tcp := e.app } n .tcpApp e.report
        | .error _ => none
      else none
  | .pingTimer draws =>
      if h.icmp.selfMsg then
        match h.icmp.timerExpired draws with
        | .ok e => finish { h with icmp := e.app } n .icmpApp e.report
        | .error _ => none
      else none
  | .pong msg => some { h with icmp := h.icmp.receivePong msg }

/-- A host before its first event: the applications have made themselves known to
the user. -/
def Initial (h : Host U S) : Prop :=
  (∃ cm id registered, h.user = List.foldl
      (fun (u : InetUser) (r : ApplicationType × Int) => u.setApplication r.1 r.2)
      { cm := cm, id := id } registered) ∧
    h.startMessage = true ∧
    (∃ port noThreads sockId,
      UdpApp.GenericUDPApplication.initializeModule false port noThreads sockId = .ok h.udp) ∧
    (∃ noThreads, h.tcp = TcpApp.GenericTCPApplication.initializeModule false noThreads) ∧
    (∃ id myAddr, h.icmp = { id := id, myAddr := myAddr }) ∧
    h.started = 0 ∧ h.reports = []

end Host

/-- The runs of a host. -/
def host (U : UdpApp.UDPSocket) (S : TcpApp.TCPSocket) : TSys (Host U S) (Turn × Event) where
  init := Host.Initial
  step := fun h l h' => h.next l.1 l.2 = some h'

end ScadaSim.User
