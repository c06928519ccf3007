import ScadaSim.Lib.Outcome
import ScadaSim.Traffic.TransmissionConfig

/-!
# Sockets and messages of the UDP application

The socket class is a parameter, `UDPSocket`; `UDPSocket.Contract` names what is
relied on. A call that the socket refuses ends the simulation with an error, and
so does every other runtime error.
-/

namespace ScadaSim.UdpApp

open Lib Traffic

structure GenericApplicationMessage where
  byteLength : Int := 0
  replyLength : Int := 0
  replyPerRequest : Int := 0
  timeToRespond : Rat := 0
  last : Bool := false
  packetNumber : Int := 0
  deriving DecidableEq

structure UDPControlInfo where
  sockId : Int
  srcAddr : IPvXAddress
  srcPort : Int
  destPort : Int
  deriving DecidableEq

/-- The socket class: its states and the calls of the application, which may fail. -/
structure UDPSocket where
  State : Type
  new : State
  bind : State → Int → Option State
  connect : State → IPvXAddress → Int → Option State
  send : State → GenericApplicationMessage → Option State
  close : State → State
  /-- The socket receives what arrives at its port. -/
  isBound : State → Bool

/-- A socket is bound after `bind`, and is not after `close`. -/
structure UDPSocket.Contract (U : UDPSocket) : Prop where
  bind : ∀ s port t, U.bind s port = some t → U.isBound t = true
  close : ∀ s, U.isBound (U.close s) = false

/-- Runtime errors: `opp_error`, an assertion, a call the socket refuses,
`scheduleAt` for a message that is scheduled or for a time in the past, and a
pointer that is null. -/
inductive Fault
  | oppError (text : String)
  | assertion
  | socket
  | alreadyScheduled
  | past
  | nullPointer
  deriving DecidableEq

/-- A socket object; the constructor gives it its id. -/
structure Socket (U : UDPSocket) where
  sockId : Int
  state : U.State

namespace Socket

variable {U : UDPSocket}

def new (sockId : Int) : Socket U := ⟨sockId, U.new⟩

def bind (s : Socket U) (port : Int) : Except Fault (Socket U) :=
  match U.bind s.state port with
  | none => .error .socket
  | some state => .ok { s with state := state }

def connect (s : Socket U) (addr : IPvXAddress) (port : Int) : Except Fault (Socket U) :=
  match U.connect s.state addr port with
  | none => .error .socket
  | some state => .ok { s with state := state }

def close (s : Socket U) : Socket U := { s with state := U.close s.state }

/-- `send`, one message after the other. -/
def sendAll : Socket U → List GenericApplicationMessage → Except Fault (Socket U)
  | s, [] => .ok s
  | s, m :: rest =>
      match U.send s.state m with
      | none => .error .socket
      | some state => sendAll { s with state := state } rest

def isBound (s : Socket U) : Bool := U.isBound s.state

theorem bind_spec (C : U.Contract) (s : Socket U) (port : Int) :
    Post (fun t => t.sockId = s.sockId ∧ t.isBound = true) (s.bind port) := by
  unfold bind
  split
  · exact Post.error _
  · rename_i state h
    exact ⟨rfl, C.bind _ _ _ h⟩

theorem bind_sockId (s : Socket U) (port : Int) :
    Post (fun t => t.sockId = s.sockId) (s.bind port) := by
  unfold bind
  split
  · exact Post.error _
  · rfl

theorem connect_sockId (s : Socket U) (addr : IPvXAddress) (port : Int) :
    Post (fun t => t.sockId = s.sockId) (s.connect addr port) := by
  unfold connect
  split
  · exact Post.error _
  · rfl

theorem sendAll_sockId (s : Socket U) (ms : List GenericApplicationMessage) :
    Post (fun t => t.sockId = s.sockId) (s.sendAll ms) := by
  induction ms generalizing s with
  | nil => rfl
  | cons m rest ih =>
      unfold sendAll
      split
      · exact Post.error _
      · exact ih _

end Socket

/-- What `UDPSocket` keeps of its state: whether it is bound and connected. -/
structure SocketState where
  bound : Bool
  connected : Bool
  deriving DecidableEq

/-- `UDPSocket`, as its documentation describes it: it is not bound twice, is
connected to a specified address and port, and then sends. -/
abbrev inetSocket : UDPSocket where
  State := SocketState
  new := ⟨false, false⟩
  bind s _ := if s.bound then none else some { s with bound := true }
  connect s addr port := if addr = 0 ∨ port ≤ 0 then none else some { s with connected := true }
  send s _ := if s.connected then some s else none
  close s := { s with bound := false }
  isBound s := s.bound

theorem inetSocket_contract : inetSocket.Contract where
  bind := by
    intro s port t h
    change (if s.bound then none else some { s with bound := true }) = some t at h
    split at h
    · cases h
    · cases h
      rfl
  close := fun _ => rfl

/-- `scheduleAt(simTime() + delay, selfMsg)`, with `selfMsg` scheduled or not. -/
def scheduleAt (selfMsg : Bool) (delay : Rat) : Except Fault Bool :=
  if selfMsg then .error .alreadyScheduled else if delay < 0 then .error .past else .ok true

def SELF_CALL_DELAY : Rat := 1 / 1000

/-- The largest payload of a fragment; the source has it as a `double`. -/
def UDP_MAX_PAYLOAD : Int := 1022

/-- `(int) ceil(size / UDP_MAX_PAYLOAD)`. -/
def ceilPayload (size : Int) : Int := (size + 1021) / UDP_MAX_PAYLOAD

/-- What a thread asks of its owner at the end of a callback. -/
inductive Removal
  | none
  | removeThread
  | removeThreadWith (stat : TransmissionStatistics)
  deriving DecidableEq

/-- A thread after a callback, with the messages it has sent. -/
structure Reaction (T : Type) where
  thread : T
  sent : List GenericApplicationMessage := []
  removal : Removal := .none

end ScadaSim.UdpApp
