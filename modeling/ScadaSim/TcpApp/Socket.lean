import Mathlib.Algebra.Order.Field.Rat

/-!
# What a thread works with

A thread of the TCP application has a socket, a self message and a connection.
The socket class is a parameter, `TCPSocket`; `TCPSocket.Contract` names what
the threads rely on. The connection is the list of segments that are on their
way to the other side.
-/

namespace ScadaSim.TcpApp

/-- A request; the server sends it back as the reply, with another length. -/
structure GenericApplicationMessage where
  byteLength : Nat
  replyLength : Nat
  replyPerRequest : Nat
  timeToRespond : Rat
  last : Bool
  packetNumber : Nat
  deriving DecidableEq

/-- `syn` opens the connection, `established` tells one side that it is open, and
`fin` closes the direction it is sent in. -/
inductive Segment
  | syn
  | established
  | data (m : GenericApplicationMessage)
  | fin
  deriving DecidableEq

/-- The socket class: its states, the calls of a thread, which fail in some
states, and what the indications of the connection do to the state. -/
structure TCPSocket where
  State : Type
  /-- After `bind`. -/
  bound : State
  /-- As constructed from an indication. -/
  accepted : State
  connect : State → Option State
  send : State → Option State
  close : State → Option State
  established : State → State
  peerClosed : State → State
  closed : State → State
  /-- `getState() == LOCALLY_CLOSED`. -/
  isLocallyClosed : State → Bool
  /-- `getState() == CLOSED`. -/
  isClosed : State → Bool

/-- What the threads rely on. A socket is `Open` from its establishment until the
thread closes it, whether the peer has closed or not. -/
structure TCPSocket.Contract (S : TCPSocket) (Open : S.State → Prop) : Prop where
  connect : ∃ t, S.connect S.bound = some t
  established : ∀ s, Open (S.established s)
  send : ∀ s, Open s → ∃ t, S.send s = some t ∧ Open t
  close : ∀ s, Open s → ∃ t, S.close s = some t
  peerClosed : ∀ s, Open s → Open (S.peerClosed s)
  isLocallyClosed : ∀ s, Open s → S.isLocallyClosed s = false

/-- Runtime errors: a call that the socket refuses, `scheduleAt` with a message
that is scheduled, and an indication for a client that has no socket. -/
inductive Fault
  | socket
  | alreadyScheduled
  | unknownSocket
  deriving DecidableEq

/-- What a thread does and learns. The log is never read. -/
inductive Event
  | sent (m : GenericApplicationMessage)
  | arrived (m : GenericApplicationMessage)
  | closed
  /-- `noRequestsToSend--`, from this value. -/
  | decremented (noRequestsToSend : Nat)
  deriving DecidableEq

/-- The socket of a thread, whether its `selfMsg` is scheduled, the segments on
their way to the other side, and whether it has called `close`. -/
structure Port (S : TCPSocket) where
  socket : S.State
  selfMsg : Bool := false
  out : List Segment := []
  finSent : Bool := false
  log : List Event := []

namespace Port

variable {S : TCPSocket}

def record (p : Port S) (e : Event) : Port S := { p with log := p.log ++ [e] }

def connect (p : Port S) : Except Fault (Port S) :=
  match S.connect p.socket with
  | none => .error .socket
  | some socket => .ok { p with socket := socket, out := p.out ++ [.syn] }

def send (p : Port S) (m : GenericApplicationMessage) : Except Fault (Port S) :=
  match S.send p.socket with
  | none => .error .socket
  | some socket =>
      .ok { p with socket := socket, out := p.out ++ [.data m], log := p.log ++ [.sent m] }

def close (p : Port S) : Except Fault (Port S) :=
  match S.close p.socket with
  | none => .error .socket
  | some socket =>
      .ok { p with socket := socket, out := p.out ++ [.fin], finSent := true,
                   log := p.log ++ [.closed] }

def scheduleAt (p : Port S) : Except Fault (Port S) :=
  if p.selfMsg then .error .alreadyScheduled else .ok { p with selfMsg := true }

def cancelEvent (p : Port S) : Port S := { p with selfMsg := false }

theorem connect_eq {p : Port S} {t : S.State} (h : S.connect p.socket = some t) :
    p.connect = .ok { p with socket := t, out := p.out ++ [.syn] } := by
  rw [connect, h]

theorem send_eq {p : Port S} {t : S.State} (h : S.send p.socket = some t)
    (m : GenericApplicationMessage) :
    p.send m =
      .ok { p with socket := t, out := p.out ++ [.data m], log := p.log ++ [.sent m] } := by
  rw [send, h]

theorem close_eq {p : Port S} {t : S.State} (h : S.close p.socket = some t) :
    p.close = .ok { p with socket := t, out := p.out ++ [.fin], finSent := true,
                           log := p.log ++ [.closed] } := by
  rw [close, h]

end Port

end ScadaSim.TcpApp
