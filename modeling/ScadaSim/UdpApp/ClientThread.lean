import ScadaSim.UdpApp.Socket

/-!
# The client thread

`GenericUDPApplicationClientThread`. A request goes out in fragments numbered
downwards, so that the last one, number 1, is the one a server answers.
-/

namespace ScadaSim.UdpApp

open Lib Traffic

namespace ClientThread

inductive ThreadState
  | connected
  | disconnected
  | finish
  deriving DecidableEq

end ClientThread

/-- `transmission` tells the transmissions of a user apart; no function reads it. -/
structure ClientThread (U : UDPSocket) where
  transmission : Nat
  curProfile : TrafficProfile
  curTarget : TargetInfo
  socket : Socket U
  /-- `selfMsg` is scheduled. -/
  selfMsg : Bool
  threadState : ClientThread.ThreadState
  noRequestsToSend : Int
  noBytesSend : Int := 0
  noBytesReceived : Int := 0
  noPacketSend : Int := 0
  noPacketReceived : Int := 0
  packetsPerRequest : Int
  packetSize : Int
  curResponseTime : Rat

namespace ClientThread

variable {U : UDPSocket}

/-- The constructor and `init`; `draws k` is the `k`-th call of the generator. -/
def init (transmission : Nat) (p : TrafficProfile) (i : TargetInfo) (draws : Nat → Draw)
    (sock : Socket U) : Except Fault (ClientThread U) := do
  let packetSize := p.getRequestLength true (draws 2)
  let socket ← sock.connect i.address i.port
  let selfMsg ← scheduleAt false SELF_CALL_DELAY
  return {
    transmission := transmission
    curProfile := p
    curTarget := i
    socket := socket
    selfMsg := selfMsg
    threadState := .connected
    noRequestsToSend := p.getRequestsPerSession true (draws 0)
    curResponseTime := p.getTimeToRespond true (draws 1)
    packetsPerRequest := if packetSize > UDP_MAX_PAYLOAD then ceilPayload packetSize else 1
    packetSize := if packetSize > UDP_MAX_PAYLOAD then UDP_MAX_PAYLOAD else packetSize }

/-- The fragment number `i` of a request. -/
def fragment (c : ClientThread U) (replyLength replyPerRequest i : Int) :
    GenericApplicationMessage where
  byteLength := c.packetSize
  replyLength := replyLength
  replyPerRequest := replyPerRequest
  timeToRespond := c.curResponseTime
  last := false
  packetNumber := i

/-- The fragments in the order of the loop, from number `n` down to 1. -/
def fragments (c : ClientThread U) (replyLength replyPerRequest : Int) :
    Nat → List GenericApplicationMessage
  | 0 => []
  | n + 1 => c.fragment replyLength replyPerRequest (n + 1 : Nat) ::
      c.fragments replyLength replyPerRequest n

def sendRequest (c : ClientThread U) (draws : Nat → Draw) :
    Except Fault (Reaction (ClientThread U)) := do
  let noRequestsToSend := int32 (c.noRequestsToSend - 1)
  let currentReplyLength := c.curProfile.getReplyLength true (draws 0)
  let curReplysToReceive := c.curProfile.getReplyPerRequest true (draws 1)
  let sent := c.fragments currentReplyLength curReplysToReceive c.packetsPerRequest.toNat
  let socket ← c.socket.sendAll sent
  let selfMsg ← scheduleAt c.selfMsg (curReplysToReceive * c.curResponseTime * (3 / 2))
  return {
    thread := { c with
      socket := socket
      selfMsg := selfMsg
      threadState := if noRequestsToSend ≤ 0 then .disconnected else c.threadState
      noRequestsToSend := noRequestsToSend
      noBytesReceived := int32 (c.noBytesReceived + currentReplyLength)
      noPacketReceived := int32 (c.noPacketReceived + ceilPayload c.packetSize)
      noBytesSend := int32 (c.noBytesSend + sent.length * c.packetSize)
      noPacketSend := int32 (c.noPacketSend + sent.length) }
    sent := sent }

def timerExpired (c : ClientThread U) (draws : Nat → Draw) :
    Except Fault (Reaction (ClientThread U)) :=
  match c.threadState with
  | .connected => c.sendRequest draws
  | .disconnected => do
      let selfMsg ← scheduleAt c.selfMsg (c.curProfile.getTimeBetweenSessions true (draws 0))
      return { thread := { c with threadState := .finish, selfMsg := selfMsg } }
  | .finish =>
      .ok {
        thread := { c with socket := c.socket.close }
        removal := .removeThreadWith
          (.ofInts c.noBytesSend c.noBytesReceived c.noPacketSend c.noPacketReceived) }

/-- Called for a message with the last flag only. -/
def socketDatagramArrived (c : ClientThread U) (draws : Nat → Draw) :
    Except Fault (ClientThread U) :=
  if c.noRequestsToSend = 0 then do
    let selfMsg ← scheduleAt false (c.curProfile.getTimeBetweenSessions true (draws 0))
    return { c with threadState := .finish, selfMsg := selfMsg }
  else .ok c

/-- The thread as a transmission starts it. -/
def Started (c : ClientThread U) (transmission : Nat) (p : TrafficProfile) (i : TargetInfo) : Prop :=
  ∃ draws sock, init transmission p i draws sock = .ok c

theorem init_sockId (transmission : Nat) (p : TrafficProfile) (i : TargetInfo)
    (draws : Nat → Draw) (sock : Socket U) :
    Post (fun c => c.socket.sockId = sock.sockId) (init transmission p i draws sock) := by
  unfold init
  refine (sock.connect_sockId _ _).bind fun socket hsocket => ?_
  exact Post.bind_any fun _ => hsocket

/-- What the callbacks of a thread leave as it is. -/
structure Same (c c' : ClientThread U) : Prop where
  sockId : c'.socket.sockId = c.socket.sockId
  transmission : c'.transmission = c.transmission
  packetsPerRequest : c'.packetsPerRequest = c.packetsPerRequest

theorem timerExpired_same (c : ClientThread U) (draws : Nat → Draw) :
    Post (fun r => Same c r.thread) (c.timerExpired draws) := by
  unfold timerExpired
  split
  · unfold sendRequest
    refine (c.socket.sendAll_sockId _).bind fun socket hsocket => ?_
    exact Post.bind_any fun _ => ⟨hsocket, rfl, rfl⟩
  · exact Post.bind_any fun _ => ⟨rfl, rfl, rfl⟩
  · exact ⟨rfl, rfl, rfl⟩

theorem socketDatagramArrived_same (c : ClientThread U) (draws : Nat → Draw) :
    Post (Same c) (c.socketDatagramArrived draws) := by
  unfold socketDatagramArrived
  split
  · exact Post.bind_any fun _ => ⟨rfl, rfl, rfl⟩
  · exact ⟨rfl, rfl, rfl⟩

theorem Started.transmission_eq {c : ClientThread U} {transmission : Nat} {p : TrafficProfile}
    {i : TargetInfo} (h : c.Started transmission p i) : c.transmission = transmission := by
  obtain ⟨draws, sock, hc⟩ := h
  have hpost : Post (fun c : ClientThread U => c.transmission = transmission)
      (init transmission p i draws sock) := by
    unfold init
    refine Post.bind_any fun socket => ?_
    exact Post.bind_any fun _ => rfl
  exact hpost.of_ok hc

/-! ## The numbers of the fragments -/

/-- Of the fragments of a request one carries number 1. -/
theorem fragments_one (c : ClientThread U) (replyLength replyPerRequest : Int) (n : Nat)
    (hn : 1 ≤ n) :
    ((c.fragments replyLength replyPerRequest n).filter fun m => m.packetNumber = 1).length = 1 := by
  induction n with
  | zero => omega
  | succ n ih =>
      unfold fragments
      cases n with
      | zero => rfl
      | succ n =>
          have hnot :
              ¬ (c.fragment replyLength replyPerRequest (n + 1 + 1 : Nat)).packetNumber = 1 := by
            show ¬ ((n + 1 + 1 : Nat) : Int) = 1
            omega
          rw [List.filter_cons, if_neg (by simpa using hnot)]
          exact ih (by omega)

/-- A request has fragments, however small it is. -/
def Fragmenting (c : ClientThread U) : Prop := 1 ≤ c.packetsPerRequest

theorem Started.fragmenting {c : ClientThread U} {transmission : Nat} {p : TrafficProfile}
    {i : TargetInfo} (h : c.Started transmission p i) : c.Fragmenting := by
  obtain ⟨draws, sock, hc⟩ := h
  have hpost : Post (Fragmenting (U := U)) (init transmission p i draws sock) := by
    unfold init
    refine Post.bind_any fun socket => ?_
    refine Post.bind_any fun selfMsg => ?_
    show 1 ≤ if p.getRequestLength true (draws 2) > UDP_MAX_PAYLOAD then _ else (1 : Int)
    split
    · rename_i hlong
      unfold ceilPayload UDP_MAX_PAYLOAD at *
      omega
    · exact le_refl _
  exact hpost.of_ok hc

/-- What the thread sends while it is connected is a request with one fragment of
number 1. -/
theorem timerExpired_sent {c : ClientThread U} (h : c.Fragmenting)
    (hstate : c.threadState = .connected) (draws : Nat → Draw) :
    Post (fun r => (r.sent.filter fun m => m.packetNumber = 1).length = 1)
      (c.timerExpired draws) := by
  have hfrags : 1 ≤ c.packetsPerRequest.toNat := by
    unfold Fragmenting at h
    omega
  unfold timerExpired
  rw [hstate]
  show Post _ (c.sendRequest draws)
  unfold sendRequest
  refine Post.bind_any fun socket => ?_
  refine Post.bind_any fun selfMsg => ?_
  exact c.fragments_one _ _ _ hfrags

end ClientThread

end ScadaSim.UdpApp
