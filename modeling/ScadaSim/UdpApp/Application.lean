import ScadaSim.Lib.Outcome
import ScadaSim.Lib.Table
import ScadaSim.UdpApp.ClientThread
import ScadaSim.UdpApp.ServerThread

/-!
# The UDP application

`GenericUDPApplication`: the welcome socket, the threads that are alive and the
map that finds them by the id of their socket. Every application serves requests;
one that is no server also starts transmissions for its user.
-/

namespace ScadaSim.UdpApp

open Traffic

/-- Thread objects, by address. -/
abbrev ThreadPtr := Nat

inductive Thread (U : UDPSocket)
  | server (v : ServerThread U)
  | client (c : ClientThread U)

namespace Thread

variable {U : UDPSocket}

def getSocket : Thread U → Socket U
  | .server v => v.socket
  | .client c => c.socket

def sockId (t : Thread U) : Int := t.getSocket.sockId

def isServer : Thread U → Bool
  | .server _ => true
  | .client _ => false

/-- The transmission that a client thread carries. -/
def transmission : Thread U → Option Nat
  | .server _ => none
  | .client c => some c.transmission

/-- The self message of the thread is scheduled. -/
def selfMsg : Thread U → Bool
  | .server v => v.selfMsg
  | .client c => c.selfMsg

/-- What a callback makes of a thread. -/
inductive Callback : Thread U → Thread U → Prop
  | serverTimer {v : ServerThread U} {r : Reaction (ServerThread U)} :
      ServerThread.timerExpired { v with selfMsg := false } = .ok r →
        Callback (.server v) (.server r.thread)
  | clientTimer {c : ClientThread U} {draws : Nat → Draw} {r : Reaction (ClientThread U)} :
      ClientThread.timerExpired { c with selfMsg := false } draws = .ok r →
        Callback (.client c) (.client r.thread)
  | clientLast {c c' : ClientThread U} {draws : Nat → Draw} :
      c.socketDatagramArrived draws = .ok c' → Callback (.client c) (.client c')

theorem Callback.sockId {t t' : Thread U} (h : Callback t t') : t'.sockId = t.sockId := by
  cases h with
  | @serverTimer v _ h =>
      exact (ServerThread.timerExpired_sockId { v with selfMsg := false }).of_ok h
  | @clientTimer c draws _ h =>
      exact ((ClientThread.timerExpired_same { c with selfMsg := false } draws).of_ok h).sockId
  | clientLast h => exact ((ClientThread.socketDatagramArrived_same _ _).of_ok h).sockId

theorem Callback.transmission {t t' : Thread U} (h : Callback t t') :
    t'.transmission = t.transmission := by
  cases h with
  | serverTimer => rfl
  | @clientTimer c draws _ h =>
      exact congrArg some
        ((ClientThread.timerExpired_same { c with selfMsg := false } draws).of_ok h).transmission
  | clientLast h =>
      exact congrArg some ((ClientThread.socketDatagramArrived_same _ _).of_ok h).transmission

theorem Callback.isServer {t t' : Thread U} (h : Callback t t') : t'.isServer = t.isServer := by
  cases h <;> rfl

end Thread

structure ThreadInfo where
  isServer : Bool
  thread : ThreadPtr
  deriving DecidableEq

structure GenericUDPApplication (U : UDPSocket) where
  isServer : Bool
  port : Int
  maxThreadCount : Int
  threadCount : Int
  mySocket : Socket U
  threadMap : AList fun _ : Int => ThreadInfo
  /-- the thread objects that are alive -/
  threads : AList fun _ : ThreadPtr => Thread U

/-- What goes out in a step. -/
inductive Sent
  | nothing
  | reply (fragments : List GenericApplicationMessage)
  | request (fragments : List GenericApplicationMessage)

/-- The application after a step, what it has sent, and the statistics it reports
to its user, with the transmission they belong to. -/
structure Effect (U : UDPSocket) where
  app : GenericUDPApplication U
  sent : Sent := .nothing
  report : Option (Nat × TransmissionStatistics) := none

def INT_MAX : Int := 2147483647

namespace GenericUDPApplication

variable {U : UDPSocket}

/-- `initialize`, with the parameters of the module; the welcome socket gets the
id `sockId`. -/
def initializeModule (isServer : Bool) (port noThreads sockId : Int) :
    Except Fault (GenericUDPApplication U) := do
  let maxThreadCount := if isServer then noThreads else 0
  let mySocket ← (Socket.new sockId).bind port
  return {
    isServer := isServer
    port := port
    maxThreadCount := if maxThreadCount = 0 then INT_MAX else maxThreadCount
    threadCount := 0
    mySocket := mySocket
    threadMap := ∅
    threads := ∅ }

def removeThread (app : GenericUDPApplication U) (p : ThreadPtr) :
    Except Fault (GenericUDPApplication U) :=
  match app.threads.lookup p with
  | none => .error .nullPointer
  | some t =>
      match app.threadMap.lookup t.sockId with
      | none => .error (.oppError "cannot find UDP thread in threadMap\n")
      | some _ =>
          let app := { app with
            threadMap := app.threadMap.erase t.sockId
            threads := app.threads.erase p
            threadCount := app.threadCount - 1 }
          if app.threadCount = app.maxThreadCount - 1 then do
            let mySocket ← app.mySocket.bind app.port
            return { app with mySocket := mySocket }
          else .ok app

/-- The overload with statistics; the client at `p` carries `transmission`. -/
def removeThreadWith (app : GenericUDPApplication U) (p : ThreadPtr) (transmission : Nat)
    (stat : TransmissionStatistics) : Except Fault (Effect U) := do
  let app ← app.removeThread p
  return { app := app, report := if !app.isServer then some (transmission, stat) else none }

/-- `new`, for a thread on a new socket: it is counted and gets its entry. An
entry that is there stays. -/
def addThread (app : GenericUDPApplication U) (q : ThreadPtr) (t : Thread U) :
    GenericUDPApplication U :=
  { app with
    threadCount := app.threadCount + 1
    threads := app.threads.insert q t
    threadMap :=
      if t.sockId ∈ app.threadMap then app.threadMap
      else app.threadMap.insert t.sockId ⟨t.isServer, q⟩ }

/-- A thread after one of its callbacks. -/
def setThread (app : GenericUDPApplication U) (p : ThreadPtr) (t : Thread U) :
    GenericUDPApplication U :=
  { app with threads := app.threads.insert p t }

def transmissionStart (app : GenericUDPApplication U) (p : TrafficProfile) (i : TargetInfo)
    (transmission : Nat) (draws : Nat → Draw) (sockId : Int) (q : ThreadPtr) :
    Except Fault (GenericUDPApplication U) :=
  if app.isServer then .error .assertion
  else do
    let socket ← (Socket.new sockId).bind p.ownPort
    let t ← ClientThread.init transmission p i draws socket
    return app.addThread q (.client t)

/-- The timer of the thread at `p`. -/
def timerExpired (app : GenericUDPApplication U) (p : ThreadPtr) (draws : Nat → Draw) :
    Except Fault (Effect U) :=
  match app.threads.lookup p with
  | none => .error .nullPointer
  | some (.server v) => do
      let r ← ServerThread.timerExpired { v with selfMsg := false }
      let app := app.setThread p (.server r.thread)
      match r.removal with
      | .none => return { app := app, sent := .reply r.sent }
      | _ => do
          let app ← app.removeThread p
          return { app := app }
  | some (.client c) => do
      let r ← ClientThread.timerExpired { c with selfMsg := false } draws
      let app := app.setThread p (.client r.thread)
      match r.removal with
      | .removeThreadWith stat => app.removeThreadWith p c.transmission stat
      | _ =>
          return {
            app := app
            sent := if c.threadState = .connected then .request r.sent else .nothing }

/-- The branch of `handleMessage` for `UDP_I_ERROR`. -/
def handleError (app : GenericUDPApplication U) (ctrl : Option UDPControlInfo) :
    Except Fault (Effect U) :=
  match ctrl with
  | none => .error .nullPointer
  | some ctrl =>
      if ctrl.sockId = app.mySocket.sockId then .ok { app := app }
      else
        match app.threadMap.lookup ctrl.sockId with
        | none =>
            .error (.oppError "ICMP error message at udp layer with no corresponding socket\n")
        | some info =>
            if info.isServer then do
              let app ← app.removeThread info.thread
              return { app := app }
            else
              match app.threads.lookup info.thread with
              | some (.client c) =>
                  app.removeThreadWith info.thread c.transmission (.ofInts 0 0 0 0)
              | _ => .error .nullPointer

/-- With the thread that is added now the server accepts no more connection
attempts, if it is the last one. -/
def closeWhenFull (app : GenericUDPApplication U) : GenericUDPApplication U :=
  if app.threadCount + 1 = app.maxThreadCount then { app with mySocket := app.mySocket.close }
  else app

/-- A new server thread for a request; the socket has the id `sockId`. -/
def accept (app : GenericUDPApplication U) (ctrl : UDPControlInfo)
    (appmsg : GenericApplicationMessage) (sockId : Int) (q : ThreadPtr) :
    Except Fault (GenericUDPApplication U) := do
  let socket ← (Socket.new sockId).bind ctrl.destPort
  let socket ← socket.connect ctrl.srcAddr ctrl.srcPort
  if sockId ∈ app.threadMap then .error (.oppError "socket id is already in use")
  else do
    let thread ← (ServerThread.init socket).socketDatagramArrived appmsg
    return app.closeWhenFull.addThread q (.server thread)

/-- The branch for a message that carries the last flag. -/
def handleLast (app : GenericUDPApplication U) (ctrl : Option UDPControlInfo)
    (draws : Nat → Draw) : Except Fault (GenericUDPApplication U) :=
  match ctrl with
  | none => .error .nullPointer
  | some ctrl =>
      match app.threadMap.lookup ctrl.sockId with
      | none => .error (.oppError "received last UDP message but no client is waiting for it")
      | some info =>
          if info.isServer then
            .error (.oppError "a client may not send a <last> udp message to a server\n")
          else
            match app.threads.lookup info.thread with
            | some (.client c) => do
                let c ← c.socketDatagramArrived draws
                return app.setThread info.thread (.client c)
            | _ => .error .nullPointer

/-- The branch for application messages; what is none is deleted. -/
def handleAppMessage (app : GenericUDPApplication U) (ctrl : Option UDPControlInfo)
    (appmsg : Option GenericApplicationMessage) (draws : Nat → Draw) (sockId : Int)
    (q : ThreadPtr) : Except Fault (GenericUDPApplication U) :=
  match appmsg with
  | none => .ok app
  | some appmsg =>
      if appmsg.packetNumber = 1 then
        match ctrl with
        | none => .error (.oppError "received non-udp packet at udp-application\n")
        | some ctrl => app.accept ctrl appmsg sockId q
      else if appmsg.last then app.handleLast ctrl draws
      else .ok app

end GenericUDPApplication

/-! ## Steps -/

/-- What can happen to an application. `sockId` and `q` are the socket id and the
address of a new thread, should there be one. -/
inductive Action
  | timer (p : ThreadPtr) (draws : Nat → Draw)
  | error (ctrl : Option UDPControlInfo)
  | message (ctrl : Option UDPControlInfo) (appmsg : Option GenericApplicationMessage)
      (draws : Nat → Draw) (sockId : Int) (q : ThreadPtr)
  | transmissionStart (p : TrafficProfile) (i : TargetInfo) (transmission : Nat)
      (draws : Nat → Draw) (sockId : Int) (q : ThreadPtr)
  | removeThread (p : ThreadPtr)

namespace GenericUDPApplication

variable {U : UDPSocket}

/-- The id belongs to no socket of the application, the address to no thread. -/
def Fresh (app : GenericUDPApplication U) (sockId : Int) (q : ThreadPtr) : Prop :=
  sockId ≠ app.mySocket.sockId ∧ q ∉ app.threads ∧
    ∀ p t, app.threads.lookup p = some t → t.sockId ≠ sockId

def Enabled (app : GenericUDPApplication U) : Action → Prop
  | .timer p _ => ∃ t, app.threads.lookup p = some t ∧ t.selfMsg = true
  | .error _ => True
  | .message _ _ _ sockId q => app.Fresh sockId q
  | .transmissionStart _ _ _ _ sockId q => app.Fresh sockId q
  | .removeThread p => p ∈ app.threads

instance (app : GenericUDPApplication U) (sockId : Int) (q : ThreadPtr) :
    Decidable (app.Fresh sockId q) :=
  decidable_of_iff
    (sockId ≠ app.mySocket.sockId ∧ q ∉ app.threads ∧
      ∀ x ∈ app.threads.entries, Thread.sockId x.2 ≠ sockId)
    (and_congr_right' (and_congr_right'
      ⟨fun h p t ht => h ⟨p, t⟩ (AList.mem_lookup_iff.mp ht),
        fun h x hx => h x.1 x.2 (AList.mem_lookup_iff.mpr hx)⟩))

instance (app : GenericUDPApplication U) (a : Action) : Decidable (app.Enabled a) :=
  match a with
  | .timer p _ =>
      decidable_of_iff ((app.threads.lookup p).any Thread.selfMsg = true) (Option.any_eq_true ..)
  | .error _ => .isTrue trivial
  | .message _ _ _ sockId q => inferInstanceAs (Decidable (app.Fresh sockId q))
  | .transmissionStart _ _ _ _ sockId q => inferInstanceAs (Decidable (app.Fresh sockId q))
  | .removeThread p => inferInstanceAs (Decidable (p ∈ app.threads))

def apply (app : GenericUDPApplication U) : Action → Except Fault (Effect U)
  | .timer p draws => app.timerExpired p draws
  | .error ctrl => app.handleError ctrl
  | .message ctrl appmsg draws sockId q => do
      let app ← app.handleAppMessage ctrl appmsg draws sockId q
      return { app := app }
  | .transmissionStart p i transmission draws sockId q => do
      let app ← app.transmissionStart p i transmission draws sockId q
      return { app := app }
  | .removeThread p => do
      let app ← app.removeThread p
      return { app := app }

/-- The application after an action that is possible and succeeds. -/
def next (app : GenericUDPApplication U) (a : Action) : Option (GenericUDPApplication U) :=
  if app.Enabled a then
    match app.apply a with
    | .ok e => some e.app
    | .error _ => none
  else none

theorem next_spec {app app' : GenericUDPApplication U} {a : Action} (h : app.next a = some app') :
    app.Enabled a ∧ ∃ e, app.apply a = .ok e ∧ e.app = app' := by
  unfold next at h
  split at h
  · rename_i ha
    split at h
    · rename_i e he
      exact ⟨ha, e, he, Option.some.inj h⟩
    · cases h
  · cases h

end GenericUDPApplication

end ScadaSim.UdpApp
