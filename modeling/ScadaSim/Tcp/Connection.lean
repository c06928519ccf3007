import Mathlib.Data.Finset.Card
import Mathlib.Logic.Function.Basic

/-!
# TCP with a limited number of connections

`TCP_hack` and `TCPConnection_hack`: INET's TCP with a worker flag on
connections and a counter of open ones. What INET's base classes do to a
connection and to the application map is a parameter (`InetTcp`); the worker
flag, the counter, the decisions of `processSegmentInListen` and the state
machine are the source's own.
-/

namespace ScadaSim.Tcp

abbrev IPvXAddress := Nat

/-- Connection objects, by address. -/
abbrev ConnPtr := Nat

inductive TcpState
  | init | closed | listen | synSent | synRcvd | established | closeWait | lastAck
  | finWait1 | finWait2 | closing | timeWait
  deriving DecidableEq

inductive TCPEventCode
  | ignore
  | openActive | openPassive | send | close | abort | status
  | rcvData | rcvAck | rcvSyn | rcvSynAck | rcvFin | rcvFinAck | rcvRst | rcvUnexpSyn
  | timeout2MSL | timeoutConnEstab | timeoutFinWait2
  deriving DecidableEq

structure TCPSegment where
  rstBit : Bool := false
  ackBit : Bool := false
  synBit : Bool := false
  finBit : Bool := false
  urgBit : Bool := false
  pshBit : Bool := false
  sequenceNo : UInt32 := 0
  ackNo : UInt32 := 0
  srcPort : Nat := 0
  destPort : Nat := 0
  headerLength : Nat := 20
  payloadLength : Nat := 0
  deriving DecidableEq

/-- Length of a TCP header without options. -/
def TCP_HEADER_OCTETS : Nat := 20

/-- `TCPStateVariables`: what the modelled code reads or writes, and the send
side that `selectInitialSeqNum` and `updateWndInfo` set. -/
structure TCPStateVariables where
  active : Bool := false
  fork : Bool := false
  rcv_nxt : UInt32 := 0
  rcv_wnd : UInt32 := 0
  rcv_adv : UInt32 := 0
  irs : UInt32 := 0
  iss : UInt32 := 0
  snd_una : UInt32 := 0
  snd_nxt : UInt32 := 0
  snd_wnd : UInt32 := 0
  ack_now : Bool := false
  maxRcvBuffer : Nat := 0
  freeRcvBuffer : Nat := 0
  tcpRcvQueueDrops : Nat := 0
  deriving DecidableEq

/-- What a connection sends while it handles a segment in LISTEN. -/
inductive Output
  | rst (ackNo : UInt32) (src dest : IPvXAddress) (srcPort destPort : Nat)
  | synAck
  deriving DecidableEq

structure TCPConnection_hack where
  appGateIndex : Int
  connId : Int
  localAddr : IPvXAddress := 0
  localPort : Nat := 0
  remoteAddr : IPvXAddress := 0
  remotePort : Nat := 0
  fsm : TcpState := .init
  state : TCPStateVariables := {}
  synRexmitTimer : Bool := false
  connEstabTimer : Bool := false
  worker : Bool := false
  deriving DecidableEq

structure AppConnKey where
  appGateIndex : Int
  connId : Int
  deriving DecidableEq

/-- `tcpAppConnMap` -/
abbrev AppConnMap := AppConnKey → Option ConnPtr

/-- Only the addresses and ports of the connection are filled in. -/
structure SockPairChange (c c' : TCPConnection_hack) : Prop where
  appGateIndex : c'.appGateIndex = c.appGateIndex
  connId : c'.connId = c.connId
  fsm : c'.fsm = c.fsm
  state : c'.state = c.state
  synRexmitTimer : c'.synRexmitTimer = c.synRexmitTimer
  connEstabTimer : c'.connEstabTimer = c.connEstabTimer
  worker : c'.worker = c.worker

/-- INET's part. In the handling of a SYN an operation may change the state variables of
the connection it is called on, and nothing else. Of `updateSockPair`, `removeConnection`
and `addForkedConnection` there is what they do to the connection and to the application
map, with what the code relies on. -/
structure InetTcp where
  getStateVariables : TCPStateVariables
  configureStateVariables : TCPStateVariables → TCPStateVariables
  receiveQueueInit : UInt32 → TCPStateVariables → TCPStateVariables
  selectInitialSeqNum : TCPStateVariables → TCPStateVariables
  updateWndInfo : TCPSegment → TCPStateVariables → TCPStateVariables
  readHeaderOptions : TCPSegment → TCPStateVariables → TCPStateVariables
  updateRcvQueueVars : TCPStateVariables → TCPStateVariables
  insertBytesFromSegment : TCPSegment → TCPStateVariables → TCPStateVariables
  updateSockPair : TCPConnection_hack → IPvXAddress → IPvXAddress → Nat → Nat →
    TCPConnection_hack
  /-- For a connection with the key. -/
  removeConnection : AppConnMap → AppConnKey → AppConnMap
  /-- For the key and the new one, the connection that gets the new key, and its clone. -/
  addForkedConnection : AppConnMap → AppConnKey → AppConnKey → ConnPtr → ConnPtr → AppConnMap
  updateSockPair_change : ∀ c localAddr remoteAddr localPort remotePort,
    SockPairChange c (updateSockPair c localAddr remoteAddr localPort remotePort)
  removeConnection_self : ∀ map key, removeConnection map key key = none
  removeConnection_of_ne : ∀ map key key', key' ≠ key → removeConnection map key key' = map key'
  /-- The clone lives on under the old key. -/
  addForkedConnection_clone : ∀ map key newKey p q,
    addForkedConnection map key newKey p q key = some q
  addForkedConnection_forked : ∀ map key newKey p q, newKey ≠ key →
    addForkedConnection map key newKey p q newKey = some p
  addForkedConnection_of_ne : ∀ map key newKey p q key', key' ≠ key → key' ≠ newKey →
    addForkedConnection map key newKey p q key' = map key'

namespace InetTcp

variable (inet : InetTcp) (c : TCPConnection_hack) (localAddr remoteAddr : IPvXAddress)
  (localPort remotePort : Nat)

@[simp] theorem updateSockPair_worker :
    (inet.updateSockPair c localAddr remoteAddr localPort remotePort).worker = c.worker :=
  (inet.updateSockPair_change c localAddr remoteAddr localPort remotePort).worker

@[simp] theorem updateSockPair_fsm :
    (inet.updateSockPair c localAddr remoteAddr localPort remotePort).fsm = c.fsm :=
  (inet.updateSockPair_change c localAddr remoteAddr localPort remotePort).fsm

@[simp] theorem updateSockPair_state :
    (inet.updateSockPair c localAddr remoteAddr localPort remotePort).state = c.state :=
  (inet.updateSockPair_change c localAddr remoteAddr localPort remotePort).state

@[simp] theorem updateSockPair_appGateIndex :
    (inet.updateSockPair c localAddr remoteAddr localPort remotePort).appGateIndex =
      c.appGateIndex :=
  (inet.updateSockPair_change c localAddr remoteAddr localPort remotePort).appGateIndex

@[simp] theorem updateSockPair_connId :
    (inet.updateSockPair c localAddr remoteAddr localPort remotePort).connId = c.connId :=
  (inet.updateSockPair_change c localAddr remoteAddr localPort remotePort).connId

end InetTcp

namespace TCPConnection_hack

/-- The key of the connection in the application map. -/
def key (c : TCPConnection_hack) : AppConnKey := ⟨c.appGateIndex, c.connId⟩

def setWorkerThread (c : TCPConnection_hack) : TCPConnection_hack :=
  { c with worker := true }

def isWorkerThread (c : TCPConnection_hack) : Bool := c.worker

/-- `cloneListeningConnection`: the clone, which stays in LISTEN, and the
original, whose own variables are configured once more. -/
def cloneListeningConnection (inet : InetTcp) (c : TCPConnection_hack) :
    TCPConnection_hack × TCPConnection_hack :=
  ({ appGateIndex := c.appGateIndex
     connId := c.connId
     localAddr := c.localAddr
     localPort := c.localPort
     fsm := .listen
     state := { inet.getStateVariables with active := false, fork := true } },
    { c with state := inet.configureStateVariables c.state })

/-! ## The state machine -/

/-- The switch of `performStateTransition`. -/
def nextState (c : TCPConnection_hack) (event : TCPEventCode) : TcpState :=
  match c.fsm, event with
  | .init, .openPassive => .listen
  | .init, .openActive => .synSent
  | .listen, .openActive => .synSent
  | .listen, .send => .synSent
  | .listen, .close => .closed
  | .listen, .abort => .closed
  | .listen, .rcvSyn => .synRcvd
  | .synRcvd, .close => .finWait1
  | .synRcvd, .abort => .closed
  | .synRcvd, .timeoutConnEstab | .synRcvd, .rcvRst =>
      -- a worker does not go back to LISTEN
      if c.isWorkerThread then .closed else if c.state.active then .closed else .listen
  | .synRcvd, .rcvAck => .established
  | .synRcvd, .rcvFin => .closeWait
  | .synRcvd, .rcvUnexpSyn => .closed
  | .synSent, .close => .closed
  | .synSent, .abort => .closed
  | .synSent, .timeoutConnEstab => .closed
  | .synSent, .rcvRst => .closed
  | .synSent, .rcvSynAck => .established
  | .synSent, .rcvSyn => .synRcvd
  | .established, .close => .finWait1
  | .established, .abort => .closed
  | .established, .rcvFin => .closeWait
  | .established, .rcvRst => .closed
  | .established, .rcvUnexpSyn => .closed
  | .closeWait, .close => .lastAck
  | .closeWait, .abort => .closed
  | .closeWait, .rcvRst => .closed
  | .closeWait, .rcvUnexpSyn => .closed
  | .lastAck, .abort => .closed
  | .lastAck, .rcvAck => .closed
  | .lastAck, .rcvRst => .closed
  | .lastAck, .rcvUnexpSyn => .closed
  | .finWait1, .abort => .closed
  | .finWait1, .rcvFin => .closing
  | .finWait1, .rcvAck => .finWait2
  | .finWait1, .rcvFinAck => .timeWait
  | .finWait1, .rcvRst => .closed
  | .finWait1, .rcvUnexpSyn => .closed
  | .finWait2, .abort => .closed
  | .finWait2, .rcvFin => .timeWait
  | .finWait2, .timeoutFinWait2 => .closed
  | .finWait2, .rcvRst => .closed
  | .finWait2, .rcvUnexpSyn => .closed
  | .closing, .abort => .closed
  | .closing, .rcvAck => .timeWait
  | .closing, .rcvRst => .closed
  | .closing, .rcvUnexpSyn => .closed
  | .timeWait, .abort => .closed
  | .timeWait, .timeout2MSL => .closed
  | .timeWait, .rcvRst => .closed
  | .timeWait, .rcvUnexpSyn => .closed
  | s, _ => s

/-- `performStateTransition`: the connection in its next state, and whether it
lives on. An ignored segment is no event at all. -/
def performStateTransition (c : TCPConnection_hack) (event : TCPEventCode) :
    TCPConnection_hack × Bool :=
  if event = .ignore then (c, true)
  else
    let c' := { c with fsm := c.nextState event }
    (c', c'.fsm != .closed)

@[simp] theorem performStateTransition_worker (c : TCPConnection_hack)
    (event : TCPEventCode) : (c.performStateTransition event).1.worker = c.worker := by
  unfold performStateTransition
  split <;> rfl

/-- The state variables after a SYN, before its payload is looked at. -/
def synState (inet : InetTcp) (seg : TCPSegment) (s : TCPStateVariables) :
    TCPStateVariables :=
  let s := { s with rcv_nxt := seg.sequenceNo + 1 }
  let s := { s with rcv_adv := s.rcv_nxt + s.rcv_wnd }
  let s := { s with irs := seg.sequenceNo }
  let s := inet.receiveQueueInit s.rcv_nxt s
  let s := inet.selectInitialSeqNum s
  let s := inet.updateWndInfo seg s
  let s := if seg.headerLength > TCP_HEADER_OCTETS then inet.readHeaderOptions seg s else s
  { s with ack_now := true }

/-- What `processSegmentInListen` makes of a SYN once the listening socket is
taken care of: the event, the connection and the segments sent. -/
def acceptSyn (inet : InetTcp) (c : TCPConnection_hack) (seg : TCPSegment) :
    TCPEventCode × TCPConnection_hack × List Output :=
  let c := { c with
    state := synState inet seg c.state
    synRexmitTimer := true
    connEstabTimer := true }
  if seg.payloadLength > 0 then
    let s := inet.updateRcvQueueVars c.state
    if s.freeRcvBuffer ≥ seg.payloadLength then
      (.rcvSyn, { c with state := inet.insertBytesFromSegment seg s }, [.synAck])
    else
      -- the segment is dropped, but the SYN+ACK is out and the timers run
      (.ignore, { c with state := { s with tcpRcvQueueDrops := s.tcpRcvQueueDrops + 1 } },
        [.synAck])
  else (.rcvSyn, c, [.synAck])

@[simp] theorem acceptSyn_worker (inet : InetTcp) (c : TCPConnection_hack)
    (seg : TCPSegment) : (c.acceptSyn inet seg).2.1.worker = c.worker := by
  simp only [acceptSyn]
  split
  · split <;> rfl
  · rfl

@[simp] theorem acceptSyn_fsm (inet : InetTcp) (c : TCPConnection_hack)
    (seg : TCPSegment) : (c.acceptSyn inet seg).2.1.fsm = c.fsm := by
  simp only [acceptSyn]
  split
  · split <;> rfl
  · rfl

@[simp] theorem acceptSyn_key (inet : InetTcp) (c : TCPConnection_hack)
    (seg : TCPSegment) : (c.acceptSyn inet seg).2.1.key = c.key := by
  simp only [acceptSyn]
  split
  · split <;> rfl
  · rfl

theorem acceptSyn_event (inet : InetTcp) (c : TCPConnection_hack) (seg : TCPSegment) :
    (c.acceptSyn inet seg).1 = .rcvSyn ∨ (c.acceptSyn inet seg).1 = .ignore := by
  simp only [acceptSyn]
  split
  · split
    · exact .inl rfl
    · exact .inr rfl
  · exact .inl rfl

end TCPConnection_hack

/-! ## The TCP module -/

/-- The module: its counters, the live connection objects, the map from
application sockets to connections, and the supply of connection ids. -/
structure TCP_hack where
  maxThreadCount : Int
  currentConnectionCount : Int
  droppedConnections : Int
  live : Finset ConnPtr
  conn : ConnPtr → TCPConnection_hack
  tcpAppConnMap : AppConnMap
  nextConnId : Int

def INT_MAX : Int := 2147483647

namespace TCP_hack

/-- `initialize`: a limit that is not positive means no limit. -/
def initializeModule (maxThreadCount : Int) : TCP_hack where
  maxThreadCount := if maxThreadCount ≤ 0 then INT_MAX else maxThreadCount
  currentConnectionCount := 0
  droppedConnections := 0
  live := ∅
  conn := fun _ => { appGateIndex := 0, connId := 0 }
  tcpAppConnMap := fun _ => none
  nextConnId := 0

def acceptAnotherConnection (tcp : TCP_hack) : Bool × TCP_hack :=
  if tcp.maxThreadCount > tcp.currentConnectionCount then
    (true, { tcp with
      currentConnectionCount := tcp.currentConnectionCount + 1
      droppedConnections := 0 })
  else (false, { tcp with droppedConnections := tcp.droppedConnections + 1 })

def canceledHalfOpenConnection (tcp : TCP_hack) : Bool × TCP_hack :=
  if tcp.currentConnectionCount ≤ 0 then (false, tcp)
  else (true, { tcp with currentConnectionCount := tcp.currentConnectionCount - 1 })

/-- Store back the connection at `p`. -/
def set (tcp : TCP_hack) (p : ConnPtr) (c : TCPConnection_hack) : TCP_hack :=
  { tcp with conn := Function.update tcp.conn p c }

/-- A new connection object at the fresh address `p`. -/
def new (tcp : TCP_hack) (p : ConnPtr) (c : TCPConnection_hack) : TCP_hack :=
  { tcp.set p c with live := insert p tcp.live }

/-- `createConnection`, and its entry in the application map. -/
def createConnection (tcp : TCP_hack) (p : ConnPtr) (key : AppConnKey) : TCP_hack :=
  { tcp.new p { appGateIndex := key.appGateIndex, connId := key.connId } with
    tcpAppConnMap := Function.update tcp.tcpAppConnMap key (some p) }

/-- `delete conn`: the destructor of `TCPConnection_hack` gives one connection
back, whatever the connection was. -/
def destroy (tcp : TCP_hack) (p : ConnPtr) : TCP_hack :=
  { tcp.canceledHalfOpenConnection.2 with live := tcp.live.erase p }

/-- `removeConnection`: the entry is erased and the connection deleted. -/
def removeConnection (inet : InetTcp) (tcp : TCP_hack) (p : ConnPtr) : TCP_hack :=
  { tcp.destroy p with
    tcpAppConnMap := inet.removeConnection tcp.tcpAppConnMap (tcp.conn p).key }

/-- `addForkedConnection`: the connection at `p` gets the remote address and a
new id, the clone at the fresh address `q` lives on under the old one. -/
def addForkedConnection (inet : InetTcp) (tcp : TCP_hack) (p : ConnPtr)
    (this : TCPConnection_hack) (q : ConnPtr) (clone : TCPConnection_hack)
    (localAddr remoteAddr : IPvXAddress) (localPort remotePort : Nat) :
    TCP_hack × TCPConnection_hack :=
  let this' := { inet.updateSockPair this localAddr remoteAddr localPort remotePort with
    connId := tcp.nextConnId }
  ({ tcp.new q clone with
      tcpAppConnMap := inet.addForkedConnection tcp.tcpAppConnMap this.key this'.key p q
      nextConnId := tcp.nextConnId + 1 }, this')

section Forked

variable (inet : InetTcp) (tcp : TCP_hack) (p : ConnPtr) (this : TCPConnection_hack) (q : ConnPtr)
  (clone : TCPConnection_hack) (localAddr remoteAddr : IPvXAddress) (localPort remotePort : Nat)

@[simp] theorem addForkedConnection_worker :
    (tcp.addForkedConnection inet p this q clone localAddr remoteAddr localPort
      remotePort).2.worker = this.worker :=
  inet.updateSockPair_worker this localAddr remoteAddr localPort remotePort

@[simp] theorem addForkedConnection_fsm :
    (tcp.addForkedConnection inet p this q clone localAddr remoteAddr localPort
      remotePort).2.fsm = this.fsm :=
  inet.updateSockPair_fsm this localAddr remoteAddr localPort remotePort

@[simp] theorem addForkedConnection_state :
    (tcp.addForkedConnection inet p this q clone localAddr remoteAddr localPort
      remotePort).2.state = this.state :=
  inet.updateSockPair_state this localAddr remoteAddr localPort remotePort

@[simp] theorem addForkedConnection_key :
    (tcp.addForkedConnection inet p this q clone localAddr remoteAddr localPort
      remotePort).2.key = ⟨this.appGateIndex, tcp.nextConnId⟩ := by
  rw [← inet.updateSockPair_appGateIndex this localAddr remoteAddr localPort remotePort]
  rfl

end Forked

/-- `processSegmentInListen` on the connection at `p`; `q` is the address of
the clone, should there be one. -/
def processSegmentInListen (inet : InetTcp) (tcp : TCP_hack) (p q : ConnPtr)
    (seg : TCPSegment) (srcAddr destAddr : IPvXAddress) :
    TCPEventCode × TCP_hack × List Output :=
  let this := tcp.conn p
  if seg.rstBit then (.ignore, tcp, [])
  else if seg.ackBit then
    (.ignore, tcp, [.rst seg.ackNo destAddr srcAddr seg.destPort seg.srcPort])
  else if seg.synBit then
    if this.state.fork then
      match tcp.acceptAnotherConnection with
      | (true, tcp) =>
          let (clone, this) := this.cloneListeningConnection inet
          let (tcp, this) := tcp.addForkedConnection inet p this.setWorkerThread q clone
            destAddr srcAddr seg.destPort seg.srcPort
          let (event, this, sent) := this.acceptSyn inet seg
          (event, tcp.set p this, sent)
      | (false, tcp) => (.ignore, tcp, [])
    else
      let this := inet.updateSockPair this destAddr srcAddr seg.destPort seg.srcPort
      let (event, this, sent) := this.acceptSyn inet seg
      (event, tcp.set p this, sent)
  else (.ignore, tcp, [])

/-- The state transition an event causes on the connection at `p`; a closed
connection is removed. -/
def applyEvent (inet : InetTcp) (tcp : TCP_hack) (p : ConnPtr) (event : TCPEventCode) :
    TCP_hack :=
  let (c, alive) := (tcp.conn p).performStateTransition event
  if alive then tcp.set p c else tcp.removeConnection inet p

/-- `findConnForApp`, or a new connection at the fresh address `q`. -/
def findOrCreate (tcp : TCP_hack) (key : AppConnKey) (q : ConnPtr) : ConnPtr × TCP_hack :=
  match tcp.tcpAppConnMap key with
  | some p => (p, tcp)
  | none => (q, tcp.createConnection q key)

/-- `handleMessage` for a command from the application: `processAppCommand`
leaves the connection as `c`, and ends in the state transition for an event or
in an exception, which is caught. -/
def handleAppCommand (inet : InetTcp) (tcp : TCP_hack) (key : AppConnKey) (q : ConnPtr)
    (c : TCPConnection_hack) (outcome : Option TCPEventCode) : TCP_hack :=
  let (p, tcp) := tcp.findOrCreate key q
  match outcome with
  | some event => (tcp.set p c).applyEvent inet p event
  | none => tcp.set p c

end TCP_hack

end ScadaSim.Tcp
