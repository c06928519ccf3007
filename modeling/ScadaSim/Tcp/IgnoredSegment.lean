import ScadaSim.Tcp.Limit

/-!
# Segments that are ignored

`processSegmentInListen` returns `TCP_E_IGNORE` for a segment it drops, and a
connection that goes on listening should be as before. The last of its checks comes
after everything else is done: `noTrace_iff` says which segments leave a trace.

INET's map from socket pairs to connections, which the rest of the model does without,
is a parameter here: `SocketMap`.
-/

namespace ScadaSim.Tcp

open TCP_hack

/-- `tcpConnMap`, and what INET does to it for a connection with its new addresses and
ports, and for a new connection. -/
structure SocketMap where
  Map : Type
  updateSockPair : Map → ConnPtr → TCPConnection_hack → IPvXAddress → IPvXAddress → Nat → Nat → Map
  addSockPair : Map → ConnPtr → TCPConnection_hack → Map

/-- The exits of `processSegmentInListen`; a SYN is taken by a forked connection or by
the listening one alone. -/
inductive ListenExit
  | rst
  | ack
  | full
  | forked
  | alone
  | unexpected
  deriving DecidableEq

def listenExit (tcp : TCP_hack) (p : ConnPtr) (seg : TCPSegment) : ListenExit :=
  if seg.rstBit then .rst
  else if seg.ackBit then .ack
  else if seg.synBit then
    if (tcp.conn p).state.fork then
      if tcp.acceptAnotherConnection.1 then .forked else .full
    else .alone
  else .unexpected

/-- The connection that a SYN reaches, when its state variables are filled in. -/
def synConnection (inet : InetTcp) (tcp : TCP_hack) (p : ConnPtr) : TCPConnection_hack :=
  if (tcp.conn p).state.fork then ((tcp.conn p).cloneListeningConnection inet).2
  else tcp.conn p

/-- What the handling of a segment does to `tcpConnMap`. -/
def SocketMap.listen (sockets : SocketMap) (inet : InetTcp) (tcp : TCP_hack) (p q : ConnPtr)
    (seg : TCPSegment) (srcAddr destAddr : IPvXAddress) (map : sockets.Map) : sockets.Map :=
  match listenExit tcp p seg with
  | .forked =>
      sockets.addSockPair
        (sockets.updateSockPair map p (tcp.conn p) destAddr srcAddr seg.destPort seg.srcPort)
        q ((tcp.conn p).cloneListeningConnection inet).1
  | .alone => sockets.updateSockPair map p (tcp.conn p) destAddr srcAddr seg.destPort seg.srcPort
  | .rst | .ack | .full | .unexpected => map

/-- The connection at `p` and the module are as before, but for the counters of what was
dropped, and no SYN+ACK has been sent. -/
structure NoTrace {M : Type} (p : ConnPtr) (tcp tcp' : TCP_hack) (map map' : M)
    (sent : List Output) : Prop where
  worker : (tcp'.conn p).worker = (tcp.conn p).worker
  state : { (tcp'.conn p).state with
    tcpRcvQueueDrops := (tcp.conn p).state.tcpRcvQueueDrops } = (tcp.conn p).state
  synRexmitTimer : (tcp'.conn p).synRexmitTimer = (tcp.conn p).synRexmitTimer
  connEstabTimer : (tcp'.conn p).connEstabTimer = (tcp.conn p).connEstabTimer
  currentConnectionCount : tcp'.currentConnectionCount = tcp.currentConnectionCount
  tcpAppConnMap : tcp'.tcpAppConnMap = tcp.tcpAppConnMap
  tcpConnMap : map' = map
  silent : .synAck ∉ sent

/-- A SYN that is taken, with a payload for which the receive buffer has no room: too
late, for everything else has been done. -/
def DroppedLate (inet : InetTcp) (tcp : TCP_hack) (p : ConnPtr) (seg : TCPSegment) : Prop :=
  (listenExit tcp p seg = .forked ∨ listenExit tcp p seg = .alone) ∧ 0 < seg.payloadLength ∧
    (inet.updateRcvQueueVars
      (TCPConnection_hack.synState inet seg (synConnection inet tcp p).state)).freeRcvBuffer <
        seg.payloadLength

section Exits

variable (inet : InetTcp) (tcp : TCP_hack) (p q : ConnPtr) (seg : TCPSegment)
  (srcAddr destAddr : IPvXAddress)

/-- A SYN that is taken is answered, and ignored all the same when its payload finds no
room. -/
theorem acceptSyn_ignore_iff (c : TCPConnection_hack) :
    (.synAck ∈ (c.acceptSyn inet seg).2.2) ∧
      ((c.acceptSyn inet seg).1 = .ignore ↔ 0 < seg.payloadLength ∧
        (inet.updateRcvQueueVars (TCPConnection_hack.synState inet seg c.state)).freeRcvBuffer <
          seg.payloadLength) := by
  simp only [TCPConnection_hack.acceptSyn]
  by_cases hpayload : seg.payloadLength > 0
  · rw [if_pos hpayload]
    split
    · rename_i hroom
      simp [Nat.not_lt.mpr hroom]
    · rename_i hfull
      simp [hpayload, Nat.lt_of_not_le hfull]
  · simp [hpayload]

/-- Without a connection that takes the segment, only the counter of dropped
connections changes, and an ACK is answered by a reset. -/
theorem processSegmentInListen_dropped
    (h : listenExit tcp p seg ≠ .forked ∧ listenExit tcp p seg ≠ .alone) :
    ∃ n sent, tcp.processSegmentInListen inet p q seg srcAddr destAddr =
      (.ignore, { tcp with droppedConnections := n }, sent) ∧ .synAck ∉ sent := by
  obtain ⟨hforked, halone⟩ := h
  unfold listenExit at hforked halone
  simp only [processSegmentInListen]
  by_cases hrst : seg.rstBit = true
  · exact ⟨tcp.droppedConnections, [], by simp [hrst], by simp⟩
  by_cases hack : seg.ackBit = true
  · exact ⟨tcp.droppedConnections,
      [.rst seg.ackNo destAddr srcAddr seg.destPort seg.srcPort], by simp [hrst, hack], by simp⟩
  by_cases hsyn : seg.synBit = true
  · by_cases hfork : (tcp.conn p).state.fork = true
    · have hfull : ¬ tcp.maxThreadCount > tcp.currentConnectionCount := by
        intro hroom
        simp [hrst, hack, hsyn, hfork, acceptAnotherConnection, hroom] at hforked
      exact ⟨tcp.droppedConnections + 1, [],
        by simp [hrst, hack, hsyn, hfork, acceptAnotherConnection, hfull], by simp⟩
    · simp [hrst, hack, hsyn, hfork] at halone
  · exact ⟨tcp.droppedConnections, [], by simp [hrst, hack, hsyn], by simp⟩

/-- A SYN that is taken ends in `acceptSyn`, on a connection with the state variables of
`synConnection`. -/
theorem processSegmentInListen_taken
    (h : listenExit tcp p seg = .forked ∨ listenExit tcp p seg = .alone) :
    ∃ c : TCPConnection_hack, c.state = (synConnection inet tcp p).state ∧
      (tcp.processSegmentInListen inet p q seg srcAddr destAddr).1 = (c.acceptSyn inet seg).1 ∧
      (tcp.processSegmentInListen inet p q seg srcAddr destAddr).2.2 =
        (c.acceptSyn inet seg).2.2 := by
  unfold listenExit at h
  simp only [processSegmentInListen]
  by_cases hrst : seg.rstBit = true
  · simp [hrst] at h
  by_cases hack : seg.ackBit = true
  · simp [hrst, hack] at h
  by_cases hsyn : seg.synBit = true
  · by_cases hfork : (tcp.conn p).state.fork = true
    · have hroom : tcp.maxThreadCount > tcp.currentConnectionCount := by
        by_contra hfull
        simp [hrst, hack, hsyn, hfork, acceptAnotherConnection, hfull] at h
      simp only [hrst, hack, hsyn, hfork, acceptAnotherConnection, hroom, if_true,
        Bool.false_eq_true, if_false]
      refine ⟨_, (addForkedConnection_state ..).trans ?_, rfl, rfl⟩
      simp [synConnection, hfork, TCPConnection_hack.setWorkerThread]
    · simp only [hrst, hack, hsyn, hfork, if_true, Bool.false_eq_true, if_false]
      refine ⟨_, (inet.updateSockPair_state ..).trans ?_, rfl, rfl⟩
      simp [synConnection, hfork]
  · simp [hrst, hack, hsyn] at h

end Exits

/-- A segment that is ignored leaves no trace just when it is not a SYN that is taken
and then finds no room for its payload. -/
theorem noTrace_iff (inet : InetTcp) (sockets : SocketMap) (tcp : TCP_hack) (map : sockets.Map)
    (p q : ConnPtr) (seg : TCPSegment) (srcAddr destAddr : IPvXAddress) :
    ((tcp.processSegmentInListen inet p q seg srcAddr destAddr).1 = .ignore →
      NoTrace p tcp (tcp.processSegmentInListen inet p q seg srcAddr destAddr).2.1 map
        (sockets.listen inet tcp p q seg srcAddr destAddr map)
        (tcp.processSegmentInListen inet p q seg srcAddr destAddr).2.2) ↔
      ¬ DroppedLate inet tcp p seg := by
  by_cases htaken : listenExit tcp p seg = .forked ∨ listenExit tcp p seg = .alone
  · obtain ⟨c, hstate, hevent, hsent⟩ :=
      processSegmentInListen_taken inet tcp p q seg srcAddr destAddr htaken
    -- a SYN that is taken is ignored only for its payload, after it has been answered
    obtain ⟨hanswered, hignored⟩ := acceptSyn_ignore_iff inet seg c
    rw [hstate] at hignored
    constructor
    · rintro hno ⟨-, hlate⟩
      exact (hno (hevent.trans (hignored.mpr hlate))).silent (hsent ▸ hanswered)
    · intro hlate hignore
      exact absurd ⟨htaken, hignored.mp (hevent.symm.trans hignore)⟩ hlate
  · rw [not_or] at htaken
    obtain ⟨n, sent, heq, hsilent⟩ :=
      processSegmentInListen_dropped inet tcp p q seg srcAddr destAddr htaken
    -- dropped before anything is done
    have hmap : sockets.listen inet tcp p q seg srcAddr destAddr map = map := by
      unfold SocketMap.listen
      cases hexit : listenExit tcp p seg with
      | forked => exact absurd hexit htaken.1
      | alone => exact absurd hexit htaken.2
      | rst | ack | full | unexpected => rfl
    rw [heq, hmap]
    constructor
    · rintro - ⟨hlate, -⟩
      exact hlate.elim htaken.1 htaken.2
    · intro _ _
      exact ⟨rfl, rfl, rfl, rfl, rfl, rfl, rfl, hsilent⟩

/-! ### A SYN with too much data -/

/-- INET's map as the list of its entries, the latest first. -/
def plainSockets : SocketMap where
  Map := List (IPvXAddress × Nat × ConnPtr)
  updateSockPair map p _ _ remoteAddr _ remotePort := (remoteAddr, remotePort, p) :: map
  addSockPair map q c := (c.remoteAddr, c.remotePort, q) :: map

/-- A forking server socket with room for 7504 bytes, in LISTEN. -/
def listening : TCP_hack :=
  (TCP_hack.initializeModule 10).new 1 { serverSocket with
    fsm := .listen, state := { fork := true, freeRcvBuffer := 7504 } }

/-- A SYN with 8000 bytes. -/
def fullSyn : TCPSegment := { synBit := true, payloadLength := 8000, srcPort := 5, destPort := 80 }

/-- The segment is ignored, and the server socket has become a worker that was counted
and has sent a SYN+ACK. -/
theorem fullSyn_leaves_trace :
    (listening.conn 1).fsm = .listen ∧
      (listening.processSegmentInListen plainInet 1 2 fullSyn 7 8).1 = .ignore ∧
      ¬ NoTrace 1 listening (listening.processSegmentInListen plainInet 1 2 fullSyn 7 8).2.1 []
        (plainSockets.listen plainInet listening 1 2 fullSyn 7 8 [])
        (listening.processSegmentInListen plainInet 1 2 fullSyn 7 8).2.2 := by
  refine ⟨rfl, rfl, ?_⟩
  intro h
  have hcount : (1 : Int) = 0 := h.currentConnectionCount
  cases hcount

end ScadaSim.Tcp
