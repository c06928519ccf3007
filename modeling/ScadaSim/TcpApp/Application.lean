import ScadaSim.Lib.Outcome
import ScadaSim.Lib.Table
import ScadaSim.TcpApp.ClientThread
import ScadaSim.TcpApp.ServerThread
import ScadaSim.Traffic.TransmissionConfig

/-!
# The TCP application

`GenericTCPApplication`: the threads that are alive, the list and the socket map
that find them, and the count. A server makes a thread for every indication of a
connection that it has no socket for, as long as the limit is not reached; a client
makes one for each transmission of its user.
-/

namespace ScadaSim.TcpApp

open Lib

/-- Thread objects, by address. -/
abbrev ThreadPtr := Nat

/-- `transmission` tells the transmissions of a user apart; no function reads it. -/
inductive Role (S : TCPSocket)
  | server (v : ServerThread S)
  | client (transmission : Nat) (c : ClientThread S)

/-- A thread, with the connection id of its socket. -/
structure Thread (S : TCPSocket) where
  connId : Int
  role : Role S

/-- What TCP tells the application about a connection. Data that is no
`GenericApplicationMessage` has a length only. -/
inductive Indication
  | established
  | data (m : GenericApplicationMessage)
  | otherData (byteLength : Nat)
  | peerClosed
  | closed
  | failure
  | status

inductive AppFault
  | thread (f : Fault)
  | oppError (text : String)
  | assertion
  | nullPointer

def ofThread {α : Type} : Except Fault α → Except AppFault α
  | .ok a => .ok a
  | .error f => .error (.thread f)

/-- What an application does to its threads. -/
inductive Happening
  /-- A connection is accepted and killed. -/
  | refused (connId : Int)
  /-- A server thread is created. -/
  | created (connId : Int)
  | removed (connId : Int)
  /-- The statistics of a transmission are passed to the user. -/
  | reported (transmission : Nat) (stat : Traffic.TransmissionStatistics)
  deriving DecidableEq

structure GenericTCPApplication (S : TCPSocket) where
  isServer : Bool
  maxThreadCount : Int
  threadCount : Int
  threadList : List ThreadPtr
  /-- The map leads to sockets; the callback object of a socket is its thread. -/
  socketMap : AList fun _ : Int => ThreadPtr
  /-- the thread objects that are alive -/
  threads : AList fun _ : ThreadPtr => Thread S

structure Effect (S : TCPSocket) where
  app : GenericTCPApplication S
  log : List Happening := []

def INT_MAX : Int := 2147483647

namespace Thread

variable {S : TCPSocket}

/-- The transmission that a client thread carries. -/
def transmission (t : Thread S) : Option Nat :=
  match t.role with
  | .server _ => none
  | .client transmission _ => some transmission

/-- The self message of the thread is scheduled. -/
def selfMsg (t : Thread S) : Bool :=
  match t.role with
  | .server v => v.port.selfMsg
  | .client _ c => c.port.selfMsg

end Thread

namespace ServerThread

variable {S : TCPSocket}

/-- The constructor and `init`, with the socket of an indication. -/
def init : ServerThread S where
  port := { socket := S.accepted }
  present := true

/-- `TCPSocket::processMessage` with the thread as callback object. -/
def indicate (v : ServerThread S) : Indication → Except AppFault (ServerThread S)
  | .established =>
      .ok { v with port := { v.port with socket := S.established v.port.socket } }
  | .data m => ofThread (v.socketDataArrived m)
  | .otherData _ => .error (.oppError "Message (%s) %s is not a GenericApplicationMessage")
  | .peerClosed =>
      .ok (socketPeerClosed { v with port := { v.port with socket := S.peerClosed v.port.socket } })
  | .closed =>
      .ok (socketClosed { v with port := { v.port with socket := S.closed v.port.socket } })
  -- `socketFailure` removes the thread as `socketClosed` does
  | .failure => .ok v.socketClosed
  | .status => .ok v

end ServerThread

namespace ClientThread

variable {S : TCPSocket}

def indicate (c : ClientThread S) (d : Draw) : Indication → Except AppFault (ClientThread S)
  | .established =>
      ofThread (socketEstablished
        { c with port := { c.port with socket := S.established c.port.socket } } d)
  | .data m => ofThread (c.socketDataArrived m)
  | .otherData byteLength => ofThread (c.socketDataArrived ⟨byteLength, 0, 0, 0, false, 0⟩)
  | .peerClosed =>
      .ok (socketPeerClosed { c with port := { c.port with socket := S.peerClosed c.port.socket } })
  | .closed =>
      ofThread (socketClosed { c with port := { c.port with socket := S.closed c.port.socket } })
  | .failure => .ok (c.removeThread ⟨0, 0, 0, 0⟩)
  | .status => .ok c

end ClientThread

/-- The counters of a thread are `unsigned long`; the constructor takes them as `int`. -/
def TransmissionStatistics.passed (s : TransmissionStatistics) : Traffic.TransmissionStatistics :=
  .ofInts (Traffic.int32 s.noBytesSend) (Traffic.int32 s.noBytesReceived)
    (Traffic.int32 s.noPacketSend) (Traffic.int32 s.noPacketReceived)

namespace GenericTCPApplication

variable {S : TCPSocket}

/-- `initialize`, with the parameters of the module. -/
def initializeModule (isServer : Bool) (noThreads : Int) : GenericTCPApplication S :=
  let maxThreadCount := if isServer then noThreads else 0
  { isServer := isServer
    maxThreadCount := if maxThreadCount = 0 then INT_MAX else maxThreadCount
    threadCount := 0
    threadList := []
    socketMap := ∅
    threads := ∅ }

/-- A thread after one of its callbacks. -/
def setThread (app : GenericTCPApplication S) (p : ThreadPtr) (t : Thread S) :
    GenericTCPApplication S :=
  { app with threads := app.threads.insert p t }

/-- `delete`, for a thread that is in the list. -/
def dropThread (app : GenericTCPApplication S) (p : ThreadPtr) (connId : Int) :
    GenericTCPApplication S :=
  { app with
    threadList := app.threadList.erase p
    socketMap := app.socketMap.erase connId
    threads := app.threads.erase p
    threadCount := app.threadCount - 1 }

def removeThread (app : GenericTCPApplication S) (p : ThreadPtr) : Except AppFault (Effect S) :=
  if p ∈ app.threadList then
    match app.threads.lookup p with
    | none => .error .nullPointer
    | some t => .ok { app := app.dropThread p t.connId, log := [.removed t.connId] }
  else .error (.oppError "cannot find TCP thread in threadList\n")

/-- The overload with statistics; the client at `p` carries `transmission`. -/
def removeThreadWith (app : GenericTCPApplication S) (p : ThreadPtr) (transmission : Nat)
    (stat : TransmissionStatistics) : Except AppFault (Effect S) := do
  let e ← app.removeThread p
  return { e with
    log := e.log ++ if !app.isServer then [.reported transmission stat.passed] else [] }

/-- `new`, for a thread on a new socket: it gets into the map and the list and is
counted. -/
def addThread (app : GenericTCPApplication S) (q : ThreadPtr) (t : Thread S) :
    GenericTCPApplication S :=
  { app with
    socketMap := app.socketMap.insert t.connId q
    threadCount := app.threadCount + 1
    threadList := app.threadList ++ [q]
    threads := app.threads.insert q t }

/-- After a callback of the thread at `p`, which may have asked for its removal. -/
def finishCallback (app : GenericTCPApplication S) (p : ThreadPtr) (t : Thread S) :
    Except AppFault (Effect S) :=
  let app := app.setThread p t
  match t.role with
  | .server v => if v.present then .ok { app := app } else app.removeThread p
  | .client transmission c =>
      match c.removed with
      | none => .ok { app := app }
      | some stat => app.removeThreadWith p transmission stat

def timerExpired (app : GenericTCPApplication S) (p : ThreadPtr) (d : Draw) :
    Except AppFault (Effect S) :=
  match app.threads.lookup p with
  | none => .error .nullPointer
  | some ⟨connId, .server v⟩ => do
      let v ← ofThread (ServerThread.timerExpired { v with port := v.port.cancelEvent })
      app.finishCallback p ⟨connId, .server v⟩
  | some ⟨connId, .client transmission c⟩ => do
      let c ← ofThread (ClientThread.timerExpired { c with port := c.port.cancelEvent } d)
      app.finishCallback p ⟨connId, .client transmission c⟩

/-- `socket->processMessage(msg)`. -/
def processMessage (app : GenericTCPApplication S) (p : ThreadPtr) (ind : Indication) (d : Draw) :
    Except AppFault (Effect S) :=
  match app.threads.lookup p with
  | none => .error .nullPointer
  | some ⟨connId, .server v⟩ => do
      let v ← v.indicate ind
      app.finishCallback p ⟨connId, .server v⟩
  | some ⟨connId, .client transmission c⟩ => do
      let c ← c.indicate d ind
      app.finishCallback p ⟨connId, .client transmission c⟩

/-- An indication, for which `q` is the address of a new thread. -/
def handleMessage (app : GenericTCPApplication S) (connId : Int) (ind : Indication) (d : Draw)
    (q : ThreadPtr) : Except AppFault (Effect S) :=
  match app.socketMap.lookup connId with
  | some p => app.processMessage p ind d
  | none =>
      if !app.isServer then .error (.oppError "received client message to unknown socket\n")
      else if app.threadCount ≥ app.maxThreadCount then
        -- if thread limit is hit - kill all incoming connection attempts
        if !S.isClosed S.accepted then
          match S.close S.accepted with
          | none => .error (.thread .socket)
          | some _ => .ok { app := app, log := [.refused connId] }
        else .ok { app := app, log := [.refused connId] }
      else do
        -- valid connection attempts get their own server thread
        let e ← (app.addThread q ⟨connId, .server .init⟩).processMessage q ind d
        return { e with log := .created connId :: e.log }

/-- The number of requests is an `int` that becomes an `unsigned long`. -/
def transmissionStart (app : GenericTCPApplication S) (p : Traffic.TrafficProfile)
    (transmission : Nat) (d : Traffic.Draw) (connId : Int) (q : ThreadPtr) :
    Except AppFault (Effect S) :=
  if app.isServer ∨ connId ∈ app.socketMap then .error .assertion
  else
    .ok { app := app.addThread q
            ⟨connId, .client transmission
              (.init (UInt64.ofInt (p.getRequestsPerSession true d)).toNat)⟩ }

end GenericTCPApplication

/-! ## Steps -/

/-- What can happen to an application; `q` is the address of a new thread, should
there be one. -/
inductive AppAction
  | timer (p : ThreadPtr) (d : Draw)
  | indication (connId : Int) (ind : Indication) (d : Draw) (q : ThreadPtr)
  | transmissionStart (p : Traffic.TrafficProfile) (transmission : Nat) (d : Traffic.Draw)
      (connId : Int) (q : ThreadPtr)

namespace GenericTCPApplication

variable {S : TCPSocket}

def Enabled (app : GenericTCPApplication S) : AppAction → Prop
  | .timer p _ => ∃ t, app.threads.lookup p = some t ∧ t.selfMsg = true
  | .indication _ _ _ q => q ∉ app.threads
  | .transmissionStart _ _ _ _ q => q ∉ app.threads

instance (app : GenericTCPApplication S) (a : AppAction) : Decidable (app.Enabled a) :=
  match a with
  | .timer p _ =>
      decidable_of_iff ((app.threads.lookup p).any Thread.selfMsg = true) (Option.any_eq_true ..)
  | .indication _ _ _ q => inferInstanceAs (Decidable (q ∉ app.threads))
  | .transmissionStart _ _ _ _ q => inferInstanceAs (Decidable (q ∉ app.threads))

def apply (app : GenericTCPApplication S) : AppAction → Except AppFault (Effect S)
  | .timer p d => app.timerExpired p d
  | .indication connId ind d q => app.handleMessage connId ind d q
  | .transmissionStart p transmission d connId q =>
      app.transmissionStart p transmission d connId q

end GenericTCPApplication

end ScadaSim.TcpApp
