import Mathlib.Data.Rat.Floor
import ScadaSim.UdpApp.Application
import ScadaSim.UdpApp.ReplyVolume

/-!
# Fragments

A request and a reply that are longer than `UDP_MAX_PAYLOAD` go out in fragments. Both
threads fix the number of fragments and one size for all of them when they learn the
length: there is no shorter fragment for the rest. `fragments_iff` says for which
lengths none is needed.
-/

namespace ScadaSim.UdpApp

open Lib Traffic ServerThread

variable {U : UDPSocket}

theorem ceilPayload_eq_ceil (size : Int) : ceilPayload size = ⌈(size : Rat) / UDP_MAX_PAYLOAD⌉ := by
  have hceil : ⌈(size : Rat) / (1022 : Nat)⌉ = -((-size) / (1022 : Nat)) :=
    Rat.ceil_intCast_div_natCast size 1022
  have hpayload : ((UDP_MAX_PAYLOAD : Int) : Rat) = (1022 : Nat) := by
    unfold UDP_MAX_PAYLOAD
    norm_num
  rw [hpayload, hceil]
  unfold ceilPayload UDP_MAX_PAYLOAD
  omega

/-- `length` bytes in packets that are no longer than the payload, and no more of them than
it takes. -/
structure Fragments (length : Int) (sent : List GenericApplicationMessage) : Prop where
  count : (sent.length : Int) = ⌈(length : Rat) / UDP_MAX_PAYLOAD⌉
  size : ∀ m ∈ sent, m.byteLength ≤ UDP_MAX_PAYLOAD
  total : byteTotal sent = length

/-- The number of the fragments and their size, as both threads compute them. -/
def cutOf (length : Int) : Int × Int :=
  (if length > UDP_MAX_PAYLOAD then ceilPayload length else 1,
    if length > UDP_MAX_PAYLOAD then UDP_MAX_PAYLOAD else length)

theorem byteTotal_of_size {sent : List GenericApplicationMessage} {size : Int}
    (h : ∀ m ∈ sent, m.byteLength = size) : byteTotal sent = sent.length * size := by
  have hmap : sent.map GenericApplicationMessage.byteLength = List.replicate sent.length size := by
    rw [List.eq_replicate_iff]
    refine ⟨List.length_map _, fun b hb => ?_⟩
    obtain ⟨m, hm, rfl⟩ := List.mem_map.mp hb
    exact h m hm
  unfold byteTotal
  rw [hmap, List.sum_replicate, nsmul_eq_mul]

/-- Packets of one size. -/
theorem fragments_iff_of_cut {length : Int} (hlength : 1 ≤ length)
    {sent : List GenericApplicationMessage} (hcount : sent.length = (cutOf length).1.toNat)
    (hsize : ∀ m ∈ sent, m.byteLength = (cutOf length).2) :
    Fragments length sent ↔ length ≤ UDP_MAX_PAYLOAD ∨ UDP_MAX_PAYLOAD ∣ length := by
  have htotal := byteTotal_of_size hsize
  rw [hcount] at htotal
  by_cases hshort : length ≤ UDP_MAX_PAYLOAD
  · -- one packet
    have hcut : cutOf length = (1, length) := by
      unfold cutOf
      rw [if_neg (by omega), if_neg (by omega)]
    rw [hcut] at hcount hsize htotal
    refine iff_of_true ⟨?_, fun m hm => (hsize m hm).trans_le hshort, ?_⟩ (.inl hshort)
    · rw [← ceilPayload_eq_ceil, hcount]
      unfold ceilPayload UDP_MAX_PAYLOAD at *
      omega
    · rw [htotal]
      simp
  · -- all packets are full, and the last one is where the length is a multiple
    have hcut : cutOf length = (ceilPayload length, UDP_MAX_PAYLOAD) := by
      unfold cutOf
      rw [if_pos (by omega), if_pos (by omega)]
    rw [hcut] at hcount hsize htotal
    have hpackets : ((ceilPayload length).toNat : Int) = ceilPayload length := by
      refine Int.toNat_of_nonneg ?_
      unfold ceilPayload UDP_MAX_PAYLOAD
      omega
    dsimp only at htotal hcount
    rw [hpackets] at htotal
    constructor
    · intro h
      right
      rw [← h.total, htotal]
      exact Dvd.intro_left _ rfl
    · rintro (hle | hdvd)
      · exact absurd hle hshort
      · refine ⟨?_, fun m hm => le_of_eq (hsize m hm), ?_⟩
        · rw [← ceilPayload_eq_ceil, hcount, hpackets]
        · rw [htotal]
          unfold ceilPayload UDP_MAX_PAYLOAD at *
          omega

/-! ## The threads -/

theorem ClientThread.fragments_length (c : ClientThread U) (replyLength replyPerRequest : Int)
    (n : Nat) : (c.fragments replyLength replyPerRequest n).length = n := by
  induction n with
  | zero => rfl
  | succ n ih => exact congrArg (· + 1) ih

theorem ClientThread.sendRequest_sent (c : ClientThread U) (draws : Nat → Draw) :
    Post (fun r => ∃ replyLength replyPerRequest,
      r.sent = c.fragments replyLength replyPerRequest c.packetsPerRequest.toNat)
      (c.sendRequest draws) := by
  unfold sendRequest
  refine Post.bind_any fun socket => ?_
  exact Post.bind_any fun _ => ⟨_, _, rfl⟩

theorem ServerThread.sendReply_sent (v : ServerThread U) :
    Post (fun r => ∃ number, r.sent = v.replyFragments number) v.sendReply := by
  unfold sendReply
  refine Post.bind_any fun socket => ?_
  exact Post.bind_any fun _ => ⟨_, rfl⟩

namespace Thread

/-- The number of the fragments, and their size, that a thread keeps. -/
def cut : Thread U → Int × Int
  | .server v => (v.packetPerReply, v.packetSize)
  | .client c => (c.packetsPerRequest, c.packetSize)

/-- The thread is made for requests, or a reply, of this length. -/
def MadeFor (length : Int) : Thread U → Prop
  | .server v => ∃ appmsg, v.Accepted appmsg ∧ appmsg.replyLength = length
  | .client c => ∃ transmission p i draws sock,
      ClientThread.init transmission p i draws sock = .ok c ∧
        p.getRequestLength true (draws 2) = length

/-- The thread sends these packets for one request, or as one reply. -/
def Sends (sent : List GenericApplicationMessage) : Thread U → Prop
  | .server v => ∃ r, ServerThread.sendReply { v with selfMsg := false } = .ok r ∧ r.sent = sent
  | .client c => ∃ draws r, ClientThread.sendRequest { c with selfMsg := false } draws = .ok r ∧
      r.sent = sent

theorem MadeFor.cut {length : Int} {t : Thread U} (h : t.MadeFor length) :
    t.cut = cutOf length := by
  cases t with
  | server v =>
      obtain ⟨appmsg, ⟨socket, hv⟩, rfl⟩ := h
      have hpost : Post (fun v : ServerThread U => (Thread.server v).cut = cutOf appmsg.replyLength)
          ((ServerThread.init socket).socketDatagramArrived appmsg) :=
        Post.bind_any fun _ => rfl
      exact hpost.of_ok hv
  | client c =>
      obtain ⟨transmission, p, i, draws, sock, hc, rfl⟩ := h
      have hpost : Post (fun c : ClientThread U =>
          (Thread.client c).cut = cutOf (p.getRequestLength true (draws 2)))
          (ClientThread.init transmission p i draws sock) := by
        unfold ClientThread.init
        refine Post.bind_any fun socket => ?_
        exact Post.bind_any fun selfMsg => rfl
      exact hpost.of_ok hc

/-- The timer of a server thread leaves the fragments as they are. -/
theorem timerExpired_cut (v : ServerThread U) :
    Post (fun r => (Thread.server r.thread).cut = (Thread.server v).cut) v.timerExpired := by
  have hreply : Post (fun r => (Thread.server r.thread).cut = (Thread.server v).cut)
      v.sendReply := by
    unfold sendReply
    refine Post.bind_any fun socket => ?_
    exact Post.bind_any fun _ => rfl
  unfold ServerThread.timerExpired
  split
  · exact hreply
  · exact hreply
  · rfl
  · rfl

theorem Callback.cut {t t' : Thread U} (h : Callback t t') : t'.cut = t.cut := by
  cases h with
  | @serverTimer v _ h => exact (timerExpired_cut { v with selfMsg := false }).of_ok h
  | @clientTimer c draws _ h =>
      have hsame := (ClientThread.timerExpired_same { c with selfMsg := false } draws).of_ok h
      have hsize := (ClientThread.timerExpired_packetSize { c with selfMsg := false } draws).of_ok h
      exact Prod.ext hsame.packetsPerRequest hsize
  | @clientLast c _ draws h =>
      have hsame := (c.socketDatagramArrived_same draws).of_ok h
      have hsize := (c.socketDatagramArrived_packetSize draws).of_ok h
      exact Prod.ext hsame.packetsPerRequest hsize

theorem cut_of_callbacks {t t' : Thread U} (h : Relation.ReflTransGen Callback t t') :
    t'.cut = t.cut := by
  induction h with
  | refl => rfl
  | tail _ hcall ih => exact hcall.cut.trans ih

/-- What is sent are as many packets as the thread keeps, of the size it keeps. -/
theorem Sends.cut {sent : List GenericApplicationMessage} {t : Thread U} (h : t.Sends sent) :
    sent.length = t.cut.1.toNat ∧ ∀ m ∈ sent, m.byteLength = t.cut.2 := by
  cases t with
  | server v =>
      obtain ⟨r, hr, rfl⟩ := h
      obtain ⟨number, hsent⟩ := (sendReply_sent _).of_ok hr
      rw [hsent]
      refine ⟨List.length_replicate, fun m hm => ?_⟩
      obtain ⟨-, rfl⟩ := List.mem_replicate.mp hm
      rfl
  | client c =>
      obtain ⟨draws, r, hr, rfl⟩ := h
      obtain ⟨replyLength, replyPerRequest, hsent⟩ :=
        (ClientThread.sendRequest_sent _ draws).of_ok hr
      rw [hsent]
      refine ⟨ClientThread.fragments_length _ _ _ _, fun m hm => ?_⟩
      obtain ⟨i, rfl⟩ := ClientThread.mem_fragments hm
      rfl

/-- Whatever has happened to the thread before: the fragments are right just for a length
that is a multiple of the payload, or fits in one packet. -/
theorem fragments_iff {length : Int} (hlength : 1 ≤ length) {t₀ t : Thread U}
    (hmade : t₀.MadeFor length) (hrun : Relation.ReflTransGen Callback t₀ t)
    {sent : List GenericApplicationMessage} (hsent : t.Sends sent) :
    Fragments length sent ↔ length ≤ UDP_MAX_PAYLOAD ∨ UDP_MAX_PAYLOAD ∣ length := by
  have hcut : t.cut = cutOf length := (cut_of_callbacks hrun).trans hmade.cut
  obtain ⟨hcount, hsize⟩ := hsent.cut
  rw [hcut] at hcount hsize
  exact fragments_iff_of_cut hlength hcount hsize

end Thread

/-! ### A request of two full packets, and one that is a byte longer than a packet -/

/-- A thread with requests of this size. -/
def requesterOf (size : Nat) : ClientThread inetSocket where
  transmission := 0
  curProfile := {}
  curTarget := ⟨7, 80⟩
  socket := ⟨1, ⟨true, true⟩⟩
  selfMsg := true
  threadState := .connected
  noRequestsToSend := 1
  packetsPerRequest := (cutOf size).1
  packetSize := (cutOf size).2
  curResponseTime := 1

theorem requesterOf_madeFor {size : Nat} (hsize : size < MAX_PACKET_SIZE) :
    (Thread.client (requesterOf size)).MadeFor size := by
  refine ⟨0, {}, ⟨7, 80⟩, fun _ => ⟨0, size, 1⟩, ⟨1, ⟨true, false⟩⟩, ?_, if_pos hsize⟩
  have hlength : ({} : TrafficProfile).getRequestLength true ⟨0, size, 1⟩ = size := if_pos hsize
  have hsession : ({} : TrafficProfile).getRequestsPerSession true ⟨0, size, 1⟩ = 1 := by
    show int32 (((0 : Int).natAbs : Int) + 1) = 1
    decide
  unfold ClientThread.init
  dsimp only
  rw [hlength, hsession, scheduleAt_of_nonneg selfCallDelay_nonneg]
  rfl

theorem requesterOf_sends (size : Nat) :
    ∃ sent, (Thread.client (requesterOf size)).Sends sent := by
  have hfrags : (requesterOf size).Fragmenting := by
    show 1 ≤ (cutOf size).1
    unfold cutOf
    dsimp only
    split
    · unfold ceilPayload UDP_MAX_PAYLOAD at *
      omega
    · exact le_refl _
  have hreplys : 1 ≤ ({} : TrafficProfile).getReplyPerRequest true (requestDraws 0 1) := by decide
  obtain ⟨r, hr, -⟩ := ClientThread.sendRequest_ok (c := { requesterOf size with selfMsg := false })
    inetSocket_sends rfl rfl hfrags zero_le_one hreplys
  exact ⟨r.sent, _, r, hr, rfl⟩

theorem two_full_packets :
    ∃ sent, (Thread.client (requesterOf 2044)).Sends sent ∧ Fragments 2044 sent := by
  obtain ⟨sent, hsent⟩ := requesterOf_sends 2044
  exact ⟨sent, hsent, (Thread.fragments_iff (by decide) (requesterOf_madeFor (by decide)) .refl
    hsent).mpr (by decide)⟩

/-- Two full packets are sent for 1023 bytes. -/
theorem no_rest_fragment :
    (Thread.client (requesterOf 1023)).MadeFor 1023 ∧
      ∃ sent, (Thread.client (requesterOf 1023)).Sends sent ∧ sent.length = 2 ∧
        byteTotal sent = 2044 ∧ ¬ Fragments 1023 sent := by
  refine ⟨requesterOf_madeFor (by decide), ?_⟩
  obtain ⟨sent, hsent⟩ := requesterOf_sends 1023
  obtain ⟨hcount, hsize⟩ := hsent.cut
  have htwo : sent.length = 2 := hcount.trans (by decide)
  have htotal : byteTotal sent = 2044 := by
    rw [byteTotal_of_size hsize, htwo]
    decide
  refine ⟨sent, hsent, htwo, htotal, fun h => ?_⟩
  have hwrong := h.total
  rw [htotal] at hwrong
  exact absurd hwrong (by decide)

end ScadaSim.UdpApp
