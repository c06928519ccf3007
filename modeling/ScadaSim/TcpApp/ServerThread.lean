import ScadaSim.TcpApp.Socket

/-!
# The server thread

`GenericTCPApplicationServerThread`, and the part of `handleMessage` that makes
one for an indication without a socket.
-/

namespace ScadaSim.TcpApp

/-- `present` until `removeThread`. -/
structure ServerThread (S : TCPSocket) where
  port : Port S
  doClose : Bool := false
  replies : List GenericApplicationMessage := []
  present : Bool := false

/-- `setByteLength(replyLength)` on the request. -/
def GenericApplicationMessage.reply (m : GenericApplicationMessage) :
    GenericApplicationMessage :=
  { m with byteLength := m.replyLength }

namespace ServerThread

variable {S : TCPSocket}

/-- A new thread with a new socket, on the same connection. -/
def accept (v : ServerThread S) : ServerThread S where
  port := { v.port with socket := S.accepted, selfMsg := false }
  present := true

/-- `if (doClose && (socket->getState() != TCPSocket::LOCALLY_CLOSED)) socket->close();` -/
def closeIfDone (v : ServerThread S) : Except Fault (ServerThread S) :=
  if v.doClose && !S.isLocallyClosed v.port.socket then do
    let port ← v.port.close
    return { v with port := port }
  else .ok v

def timerExpired (v : ServerThread S) : Except Fault (ServerThread S) :=
  match v.replies with
  | [] => v.closeIfDone
  | front :: rest => do
      let port ← v.port.send front
      closeIfDone { v with port := port, replies := rest }

def socketDataArrived (v : ServerThread S) (m : GenericApplicationMessage) :
    Except Fault (ServerThread S) :=
  let v := { v with doClose := m.last, port := v.port.record (.arrived m) }
  if m.replyLength = 0 then .ok v
  else if m.timeToRespond > 0 then do
    let port ← v.port.scheduleAt
    return { v with replies := v.replies ++ [m.reply], port := port }
  else do
    let port ← v.port.send m.reply
    closeIfDone { v with port := port }

def socketPeerClosed (v : ServerThread S) : ServerThread S := { v with doClose := true }

/-- The thread is removed, with its self message and its replies. -/
def socketClosed (v : ServerThread S) : ServerThread S :=
  { v with present := false, port := v.port.cancelEvent, replies := [] }

def processMessage (v : ServerThread S) (indicate : Bool) :
    Segment → Except Fault (ServerThread S)
  | .syn => .ok v
  | .established =>
      .ok { v with port := { v.port with socket := S.established v.port.socket } }
  | .data m => v.socketDataArrived m
  | .fin =>
      if v.port.finSent && !indicate then .ok v
      else
        .ok (socketPeerClosed
          { v with port := { v.port with socket := S.peerClosed v.port.socket } })

/-- The thread for an indication; one without a socket makes a new thread. -/
def findSocketFor (v : ServerThread S) : ServerThread S := if v.present then v else v.accept

def handleMessage (v : ServerThread S) (indicate : Bool) (m : Segment) :
    Except Fault (ServerThread S) :=
  v.findSocketFor.processMessage indicate m

end ServerThread

end ScadaSim.TcpApp
