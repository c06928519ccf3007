import ScadaSim.UdpApp.Socket

/-!
# The server thread

`GenericUDPApplicationServerThread`: it answers one request, with as many replies
as the request asks for.
-/

namespace ScadaSim.UdpApp

open Lib Traffic

namespace ServerThread

inductive ThreadState
  | notSet
  | connected
  | disconnected
  | last
  deriving DecidableEq

end ServerThread

structure ServerThread (U : UDPSocket) where
  socket : Socket U
  /-- `selfMsg` is scheduled. -/
  selfMsg : Bool
  noReplysToSend : Int
  threadState : ServerThread.ThreadState
  packetSize : Int
  noPacketSend : Int
  packetPerReply : Int
  timeBetweenReplys : Rat

namespace ServerThread

variable {U : UDPSocket}

/-- The constructor and `init`; what they leave unset is zero. -/
def init (socket : Socket U) : ServerThread U where
  socket := socket
  selfMsg := false
  noReplysToSend := 0
  threadState := .connected
  packetSize := 0
  noPacketSend := 0
  packetPerReply := 0
  timeBetweenReplys := -1

/-- The fragments of a reply; all carry its number. -/
def replyFragments (v : ServerThread U) (noPacketSend : Int) : List GenericApplicationMessage :=
  List.replicate v.packetPerReply.toNat
    { byteLength := v.packetSize, packetNumber := noPacketSend }

def sendReply (v : ServerThread U) : Except Fault (Reaction (ServerThread U)) := do
  let noReplysToSend := int32 (v.noReplysToSend - 1)
  let noPacketSend := int32 (v.noPacketSend + 1)
  let sent := v.replyFragments noPacketSend
  let socket ← v.socket.sendAll sent
  let selfMsg ← scheduleAt v.selfMsg
    (if noReplysToSend ≤ 0 then SELF_CALL_DELAY else v.timeBetweenReplys)
  return {
    thread := { v with
      socket := socket
      selfMsg := selfMsg
      noReplysToSend := noReplysToSend
      noPacketSend := noPacketSend
      threadState := if noReplysToSend ≤ 0 then .disconnected else v.threadState }
    sent := sent }

def timerExpired (v : ServerThread U) : Except Fault (Reaction (ServerThread U)) :=
  match v.threadState with
  | .connected | .last => v.sendReply
  | .disconnected =>
      .ok { thread := { v with socket := v.socket.close }, removal := .removeThread }
  | .notSet => .ok { thread := v }

/-- The request that made the thread; its size decides on the fragments of each
reply. -/
def socketDatagramArrived (v : ServerThread U) (appmsg : GenericApplicationMessage) :
    Except Fault (ServerThread U) := do
  let selfMsg ← scheduleAt v.selfMsg appmsg.timeToRespond
  return { v with
    selfMsg := selfMsg
    packetPerReply :=
      if appmsg.replyLength > UDP_MAX_PAYLOAD then ceilPayload appmsg.replyLength else 1
    packetSize :=
      if appmsg.replyLength > UDP_MAX_PAYLOAD then UDP_MAX_PAYLOAD else appmsg.replyLength
    noReplysToSend := appmsg.replyPerRequest
    noPacketSend := appmsg.packetNumber
    timeBetweenReplys := appmsg.timeToRespond }

/-- The thread that a request has made. -/
def Accepted (v : ServerThread U) (appmsg : GenericApplicationMessage) : Prop :=
  ∃ socket, (init socket).socketDatagramArrived appmsg = .ok v

theorem timerExpired_sockId (v : ServerThread U) :
    Post (fun r => r.thread.socket.sockId = v.socket.sockId) v.timerExpired := by
  have hreply : Post (fun r => r.thread.socket.sockId = v.socket.sockId) v.sendReply := by
    unfold sendReply
    refine (v.socket.sendAll_sockId _).bind fun socket hsocket => ?_
    exact Post.bind_any fun _ => hsocket
  unfold timerExpired
  split
  · exact hreply
  · exact hreply
  · rfl
  · rfl

theorem socketDatagramArrived_sockId (v : ServerThread U) (appmsg : GenericApplicationMessage) :
    Post (fun v' => v'.socket.sockId = v.socket.sockId) (v.socketDatagramArrived appmsg) :=
  Post.bind_any fun _ => rfl

/-! ## The numbers of the replies -/

/-- After `k` replies the thread is at number `1 + k`, and what it has still to
send keeps it from counting up to number 1 again. -/
def Numbered (v : ServerThread U) : Prop :=
  v.threadState = .disconnected ∨
    ∃ k, 0 ≤ k ∧ v.noPacketSend = int32 (1 + k) ∧
      (k = 0 ∨ 0 < v.noReplysToSend ∧ v.noReplysToSend + k ≤ 2147483648)

theorem Accepted.numbered {v : ServerThread U} {appmsg : GenericApplicationMessage}
    (h : v.Accepted appmsg) (hone : appmsg.packetNumber = 1) : v.Numbered := by
  obtain ⟨socket, hv⟩ := h
  have hpost : Post (fun v' : ServerThread U => v'.noPacketSend = appmsg.packetNumber)
      ((init socket).socketDatagramArrived appmsg) :=
    Post.bind_any fun _ => rfl
  refine .inr ⟨0, le_refl _, ?_, .inl rfl⟩
  rw [hpost.of_ok hv, hone, int32_eq (by decide) (by decide)]
  rfl

theorem sendReply_numbered {v : ServerThread U} {k : Int} (hk : 0 ≤ k)
    (hnumber : v.noPacketSend = int32 (1 + k))
    (hleft : k = 0 ∨ 0 < v.noReplysToSend ∧ v.noReplysToSend + k ≤ 2147483648) :
    Post (fun r => r.thread.Numbered ∧ ∀ m ∈ r.sent, m.packetNumber ≠ 1) v.sendReply := by
  unfold sendReply
  refine Post.bind_any fun socket => ?_
  refine Post.bind_any fun selfMsg => ?_
  constructor
  · by_cases hdone : int32 (v.noReplysToSend - 1) ≤ 0
    · left
      show (if int32 (v.noReplysToSend - 1) ≤ 0 then ThreadState.disconnected else _) = _
      rw [if_pos hdone]
    · refine .inr ⟨k + 1, by omega, ?_, .inr ⟨by show 0 < int32 _; omega, ?_⟩⟩
      · show int32 (v.noPacketSend + 1) = _
        rw [hnumber]
        unfold int32
        omega
      · show int32 (v.noReplysToSend - 1) + (k + 1) ≤ _
        unfold int32 at hdone ⊢
        omega
  · intro m hm
    obtain ⟨-, rfl⟩ := List.mem_replicate.mp hm
    show int32 (v.noPacketSend + 1) ≠ 1
    rw [hnumber]
    unfold int32
    omega

/-- No reply carries number 1. -/
theorem timerExpired_numbered {v : ServerThread U} (h : v.Numbered) :
    Post (fun r => r.thread.Numbered ∧ ∀ m ∈ r.sent, m.packetNumber ≠ 1) v.timerExpired := by
  have hsend (hstate : v.threadState ≠ .disconnected) :
      Post (fun r => r.thread.Numbered ∧ ∀ m ∈ r.sent, m.packetNumber ≠ 1) v.sendReply := by
    rcases h with hdone | ⟨k, hk, hnumber, hleft⟩
    · exact absurd hdone hstate
    · exact sendReply_numbered hk hnumber hleft
  have hnone : ∀ m ∈ ([] : List GenericApplicationMessage), m.packetNumber ≠ 1 := by
    intro m hm
    cases hm
  unfold timerExpired
  cases hstate : v.threadState with
  | connected => exact hsend (by simp [hstate])
  | last => exact hsend (by simp [hstate])
  | disconnected => exact ⟨.inl rfl, hnone⟩
  | notSet => exact ⟨h, hnone⟩

end ServerThread

end ScadaSim.UdpApp
