import ScadaSim.TcpApp.Socket

/-!
# The client thread

`GenericTCPApplicationClientThread`. Points in time are left out: a scheduled
message may expire at any later moment.
-/

namespace ScadaSim.TcpApp

inductive ThreadState
  | waiting
  | connected
  | disconnected
  | finish
  deriving DecidableEq

structure TransmissionStatistics where
  noBytesSend : Nat
  noBytesReceived : Nat
  noPacketSend : Nat
  noPacketReceived : Nat
  deriving DecidableEq

/-- What the profile draws for one request. -/
structure Draw where
  requestLength : Nat
  replyLength : Nat
  timeToRespond : Rat

/-- `removed` holds the statistics with which the thread was removed. -/
structure ClientThread (S : TCPSocket) where
  port : Port S
  threadState : ThreadState
  noRequestsToSend : Nat
  noBytesSend : Nat := 0
  noBytesReceived : Nat := 0
  noPacketSend : Nat := 0
  noPacketReceived : Nat := 0
  removed : Option TransmissionStatistics := none

/-- `noRequestsToSend--` on an `unsigned long`. -/
def decrement (n : Nat) : Nat := if n = 0 then 2 ^ 64 - 1 else n - 1

namespace ClientThread

variable {S : TCPSocket}

/-- The constructor and `init`; the session length is drawn. -/
def init (requestsPerSession : Nat) : ClientThread S where
  port := { socket := S.bound, selfMsg := true }
  threadState := .waiting
  noRequestsToSend := requestsPerSession

def sendRequest (c : ClientThread S) (d : Draw) : Except Fault (ClientThread S) := do
  let noRequestsToSend := decrement c.noRequestsToSend
  let threadState := if noRequestsToSend ≤ 0 then .disconnected else c.threadState
  let appmsg : GenericApplicationMessage :=
    { byteLength := d.requestLength
      replyLength := d.replyLength
      replyPerRequest := 1
      timeToRespond := d.timeToRespond
      last := threadState = .disconnected
      packetNumber := c.noPacketSend + 1 }
  let port ← (c.port.record (.decremented c.noRequestsToSend)).send appmsg
  return { c with
    port := port
    threadState := threadState
    noRequestsToSend := noRequestsToSend
    noPacketSend := c.noPacketSend + 1
    noBytesSend := c.noBytesSend + d.requestLength }

/-- `ownerModule->removeThread(this, s)`: the application reports the statistics
to the user, and the destructor cancels the self message. -/
def removeThread (c : ClientThread S) (s : TransmissionStatistics) : ClientThread S :=
  { c with removed := some s, port := c.port.cancelEvent }

def timerExpired (c : ClientThread S) (d : Draw) : Except Fault (ClientThread S) :=
  match c.threadState with
  | .waiting => do
      let port ← c.port.connect
      return { c with port := port }
  | .connected => c.sendRequest d
  | .disconnected =>
      if !S.isLocallyClosed c.port.socket then do
        let port ← c.port.close
        return { c with port := port }
      else .ok c
  | .finish =>
      .ok (c.removeThread ⟨c.noBytesSend, c.noBytesReceived, c.noPacketSend, c.noPacketReceived⟩)

/-- The delay is `SELF_CALL_DELAY` after the last reply, and else drawn. -/
def socketDataArrived (c : ClientThread S) (m : GenericApplicationMessage) :
    Except Fault (ClientThread S) := do
  let port ← (c.port.record (.arrived m)).scheduleAt
  return { c with
    port := port
    noBytesReceived := c.noBytesReceived + m.byteLength
    noPacketReceived := c.noPacketReceived + 1 }

def socketEstablished (c : ClientThread S) (d : Draw) : Except Fault (ClientThread S) :=
  sendRequest
    { c with
      noRequestsToSend := if c.noRequestsToSend < 1 then 1 else c.noRequestsToSend
      threadState := .connected } d

def socketPeerClosed (c : ClientThread S) : ClientThread S := c

def socketClosed (c : ClientThread S) : Except Fault (ClientThread S) := do
  let port := if c.port.selfMsg then c.port.cancelEvent else c.port
  let port ← port.scheduleAt
  return { c with port := port, threadState := .finish }

/-- What reaches the thread of a segment. The connection need not tell a side
that has closed itself about the `fin` of the other one: `indicate`. -/
def processMessage (c : ClientThread S) (d : Draw) (indicate : Bool) :
    Segment → Except Fault (ClientThread S)
  | .syn => .ok c
  | .established =>
      socketEstablished
        { c with port := { c.port with socket := S.established c.port.socket } } d
  | .data m => c.socketDataArrived m
  | .fin =>
      if c.port.finSent && !indicate then .ok c
      else
        .ok (socketPeerClosed
          { c with port := { c.port with socket := S.peerClosed c.port.socket } })

end ClientThread

end ScadaSim.TcpApp
