import ScadaSim.Lib.TSys
import ScadaSim.TcpApp.ClientThread
import ScadaSim.TcpApp.ServerThread

/-!
# A session

One client thread and one server thread on a connection that loses, reorders
and invents nothing. Segments and timers come in any order that keeps each
direction of the connection in sequence. When the `fin`s of both sides have
arrived, the connection tells each side, at any later moment, that it is closed.
-/

namespace ScadaSim.TcpApp

open Lib

structure Session (S : TCPSocket) where
  client : ClientThread S
  server : ServerThread S
  /-- The `fin` of the server has arrived at the client, and conversely. -/
  clientFin : Bool := false
  serverFin : Bool := false
  /-- The side has been told that the connection is closed. -/
  clientClosed : Bool := false
  serverClosed : Bool := false

inductive Action
  /-- The listening side answers. -/
  | handshake
  | clientTimer (d : Draw)
  /-- The next segment on the way to the client arrives. -/
  | toClient (d : Draw) (indicate : Bool)
  | closeClient
  | serverTimer
  | toServer (indicate : Bool)
  | closeServer

namespace Session

variable {S : TCPSocket}

/-- Both `fin`s have arrived. -/
def bothFins (s : Session S) : Bool := s.clientFin && s.serverFin

def handshake (s : Session S) : Option (Except Fault (Session S)) :=
  match s.client.port.out with
  | .syn :: rest =>
      some (.ok { s with
        client := { s.client with port := { s.client.port with out := rest ++ [.established] } }
        server := { s.server with
          port := { s.server.port with out := s.server.port.out ++ [.established] } } })
  | _ => none

def clientTimer (s : Session S) (d : Draw) : Option (Except Fault (Session S)) :=
  if s.client.port.selfMsg then
    some (do
      let c := { s.client with port := { s.client.port with selfMsg := false } }
      let c ← c.timerExpired d
      return { s with client := c })
  else none

def serverTimer (s : Session S) : Option (Except Fault (Session S)) :=
  if s.server.port.selfMsg then
    some (do
      let v := { s.server with port := { s.server.port with selfMsg := false } }
      let v ← v.timerExpired
      return { s with server := v })
  else none

def toClient (s : Session S) (d : Draw) (indicate : Bool) : Option (Except Fault (Session S)) :=
  match s.server.port.out with
  | [] => none
  | m :: rest =>
      let s := { s with
        server := { s.server with port := { s.server.port with out := rest } }
        clientFin := s.clientFin || m = Segment.fin }
      if s.client.removed.isSome then some (.error .unknownSocket)
      else
        some (do
          let c ← s.client.processMessage d indicate m
          return { s with client := c })

def toServer (s : Session S) (indicate : Bool) : Option (Except Fault (Session S)) :=
  match s.client.port.out with
  | [] => none
  | .syn :: _ => none
  | m :: rest =>
      let s := { s with
        client := { s.client with port := { s.client.port with out := rest } }
        serverFin := s.serverFin || m = Segment.fin }
      some (do
        let v ← s.server.handleMessage indicate m
        return { s with server := v })

def closeClient (s : Session S) : Option (Except Fault (Session S)) :=
  if s.bothFins && !s.clientClosed then
    if s.client.removed.isSome then some (.error .unknownSocket)
    else
      some (do
        let c := { s.client with
          port := { s.client.port with socket := S.closed s.client.port.socket } }
        let c ← c.socketClosed
        return { s with client := c, clientClosed := true })
  else none

def closeServer (s : Session S) : Option (Except Fault (Session S)) :=
  if s.bothFins && !s.serverClosed then
    let v := s.server.findSocketFor
    let v := { v with port := { v.port with socket := S.closed v.port.socket } }
    some (.ok { s with server := v.socketClosed, serverClosed := true })
  else none

/-- `none` where the action is not possible. -/
def step (s : Session S) : Action → Option (Except Fault (Session S))
  | .handshake => s.handshake
  | .clientTimer d => s.clientTimer d
  | .toClient d indicate => s.toClient d indicate
  | .closeClient => s.closeClient
  | .serverTimer => s.serverTimer
  | .toServer indicate => s.toServer indicate
  | .closeServer => s.closeServer

/-- The state after an action that is possible and succeeds. -/
def next (s : Session S) (a : Action) : Option (Session S) :=
  match s.step a with
  | some (.ok t) => some t
  | _ => none

/-- A session of `N` requests, before its first event. -/
def start (S : TCPSocket) (N : Nat) : Session S where
  client := .init N
  server := { port := { socket := S.accepted } }

end Session

/-- The sessions of `N` requests. -/
def sessions (S : TCPSocket) (N : Nat) : TSys (Session S) Action where
  init := fun s => s = .start S N
  step := fun s a t => s.step a = some (.ok t)

theorem next_step {S : TCPSocket} {N : Nat} (s : Session S) (a : Action) (t : Session S)
    (h : s.next a = some t) : (sessions S N).step s a t := by
  show s.step a = some (.ok t)
  unfold Session.next at h
  split at h
  · rename_i t' hstep
    cases h
    exact hstep
  · cases h

end ScadaSim.TcpApp
