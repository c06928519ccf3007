import ScadaSim.UdpApp.ClientThread
import ScadaSim.UdpApp.ServerThread

/-!
# What a client counts of the replies

A client thread counts the replies to a request when it sends the request: the length of
one reply, and the packets of its own request fragments. The server thread sends as many
replies as it was asked for, each in fragments. `counted_iff` says when the two agree.
-/

namespace ScadaSim.UdpApp

open Lib Traffic

variable {U : UDPSocket}

/-! ## Where nothing fails -/

/-- A socket that is `Open` sends, and stays so. -/
def Sends (U : UDPSocket) (Open : U.State → Prop) : Prop :=
  ∀ s m, Open s → ∃ s', U.send s m = some s' ∧ Open s'

theorem inetSocket_sends : Sends inetSocket fun s => s.connected = true := by
  intro s m hs
  refine ⟨s, ?_, hs⟩
  show (if s.connected then some s else none) = some s
  rw [if_pos hs]

theorem sendAll_open {Open : U.State → Prop} (hopen : Sends U Open)
    (ms : List GenericApplicationMessage) {s : Socket U} (hs : Open s.state) :
    ∃ s', s.sendAll ms = .ok s' ∧ Open s'.state := by
  induction ms generalizing s with
  | nil => exact ⟨s, rfl, hs⟩
  | cons m rest ih =>
      obtain ⟨state, hsend, hstate⟩ := hopen s.state m hs
      unfold Socket.sendAll
      rw [hsend]
      exact ih hstate

theorem scheduleAt_of_nonneg {delay : Rat} (h : 0 ≤ delay) : scheduleAt false delay = .ok true := by
  unfold scheduleAt
  rw [if_neg Bool.false_ne_true, if_neg (not_lt.mpr h)]

theorem selfCallDelay_nonneg : 0 ≤ SELF_CALL_DELAY := by decide +kernel

/-! ## The client -/

namespace ClientThread

/-- A thread of an application: started, and then called back. -/
inductive Reached : ClientThread U → Prop
  | started {c : ClientThread U} {transmission : Nat} {p : TrafficProfile} {i : TargetInfo} :
      c.Started transmission p i → Reached c
  | timer {c : ClientThread U} {draws : Nat → Draw} {r : Reaction (ClientThread U)} :
      Reached c → timerExpired { c with selfMsg := false } draws = .ok r → Reached r.thread
  | last {c c' : ClientThread U} {draws : Nat → Draw} :
      Reached c → c.socketDatagramArrived draws = .ok c' → Reached c'

theorem sendRequest_packetSize (c : ClientThread U) (draws : Nat → Draw) :
    Post (fun r => r.thread.packetSize = c.packetSize) (c.sendRequest draws) :=
  Post.bind_any fun _ => Post.bind_any fun _ => rfl

theorem timerExpired_packetSize (c : ClientThread U) (draws : Nat → Draw) :
    Post (fun r => r.thread.packetSize = c.packetSize) (c.timerExpired draws) := by
  unfold timerExpired
  split
  · exact c.sendRequest_packetSize draws
  · exact Post.bind_any fun _ => rfl
  · rfl

theorem socketDatagramArrived_packetSize (c : ClientThread U) (draws : Nat → Draw) :
    Post (fun c' => c'.packetSize = c.packetSize) (c.socketDatagramArrived draws) := by
  unfold socketDatagramArrived
  split
  · exact Post.bind_any fun _ => rfl
  · rfl

theorem noisyLength_range (d : Draw) :
    0 ≤ TrafficProfile.noisyLength d ∧ TrafficProfile.noisyLength d ≤ MAX_PACKET_SIZE := by
  unfold TrafficProfile.noisyLength
  split <;> omega

/-- The constructor cuts the requests into fragments that fit. -/
theorem Reached.packetSize_range {c : ClientThread U} (h : c.Reached) :
    0 ≤ c.packetSize ∧ c.packetSize ≤ UDP_MAX_PAYLOAD := by
  induction h with
  | @started c transmission p i hstart =>
      obtain ⟨draws, sock, hc⟩ := hstart
      have hpost : Post (fun c : ClientThread U => 0 ≤ c.packetSize ∧
          c.packetSize ≤ UDP_MAX_PAYLOAD) (init transmission p i draws sock) := by
        unfold init
        refine Post.bind_any fun socket => ?_
        refine Post.bind_any fun selfMsg => ?_
        obtain ⟨hlow, -⟩ := noisyLength_range (draws 2)
        have hsize : p.getRequestLength true (draws 2) = TrafficProfile.noisyLength (draws 2) := rfl
        show 0 ≤ (if p.getRequestLength true (draws 2) > UDP_MAX_PAYLOAD then UDP_MAX_PAYLOAD
            else p.getRequestLength true (draws 2)) ∧ _ ≤ _
        rw [hsize]
        unfold UDP_MAX_PAYLOAD
        dsimp only
        split <;> omega
      exact hpost.of_ok hc
  | @timer c draws r _ htimer ih =>
      have hsame := (timerExpired_packetSize { c with selfMsg := false } draws).of_ok htimer
      rw [hsame]
      exact ih
  | @last c c' draws _ harrived ih =>
      rw [(c.socketDatagramArrived_packetSize draws).of_ok harrived]
      exact ih

theorem mem_fragments {c : ClientThread U} {replyLength replyPerRequest : Int} {n : Nat}
    {m : GenericApplicationMessage} (hm : m ∈ c.fragments replyLength replyPerRequest n) :
    ∃ i, m = c.fragment replyLength replyPerRequest i := by
  induction n with
  | zero => cases hm
  | succ n ih =>
      rcases List.mem_cons.mp hm with rfl | hm
      · exact ⟨_, rfl⟩
      · exact ih hm

/-- Every fragment carries what was drawn; the counters grow by the reply length and by the
packets of a fragment of the request. -/
theorem sendRequest_spec (c : ClientThread U) (draws : Nat → Draw) :
    Post (fun r =>
      r.thread.noBytesReceived =
        int32 (c.noBytesReceived + c.curProfile.getReplyLength true (draws 0)) ∧
      r.thread.noPacketReceived = int32 (c.noPacketReceived + ceilPayload c.packetSize) ∧
      ∀ m ∈ r.sent, m.replyLength = c.curProfile.getReplyLength true (draws 0) ∧
        m.replyPerRequest = c.curProfile.getReplyPerRequest true (draws 1) ∧
        m.timeToRespond = c.curResponseTime) (c.sendRequest draws) := by
  unfold sendRequest
  refine Post.bind_any fun socket => ?_
  refine Post.bind_any fun selfMsg => ?_
  refine ⟨rfl, rfl, fun m hm => ?_⟩
  obtain ⟨i, rfl⟩ := mem_fragments hm
  exact ⟨rfl, rfl, rfl⟩

theorem one_mem_fragments (c : ClientThread U) (replyLength replyPerRequest : Int) {n : Nat}
    (hn : 1 ≤ n) :
    ∃ m ∈ c.fragments replyLength replyPerRequest n, m.packetNumber = 1 := by
  have hone := c.fragments_one replyLength replyPerRequest n hn
  obtain ⟨m, hm⟩ := List.exists_mem_of_length_pos (Nat.lt_of_lt_of_eq Nat.one_pos hone.symm)
  obtain ⟨hmem, hnumber⟩ := List.mem_filter.mp hm
  exact ⟨m, hmem, of_decide_eq_true hnumber⟩

theorem sendRequest_ok {Open : U.State → Prop} (hopen : Sends U Open) {c : ClientThread U}
    (hsocket : Open c.socket.state) (hself : c.selfMsg = false) (hfrags : c.Fragmenting)
    (htime : 0 ≤ c.curResponseTime) {draws : Nat → Draw}
    (hreplys : 1 ≤ c.curProfile.getReplyPerRequest true (draws 1)) :
    ∃ r, c.sendRequest draws = .ok r ∧ ∃ m ∈ r.sent, m.packetNumber = 1 := by
  have hdelay : 0 ≤ (c.curProfile.getReplyPerRequest true (draws 1) : Rat) * c.curResponseTime *
      (3 / 2) := by
    have hpos : (0 : Rat) ≤ (c.curProfile.getReplyPerRequest true (draws 1) : Rat) := by
      exact_mod_cast le_trans zero_le_one hreplys
    exact mul_nonneg (mul_nonneg hpos htime) (by decide +kernel)
  obtain ⟨socket, hsent, -⟩ := sendAll_open hopen (c.fragments
    (c.curProfile.getReplyLength true (draws 0)) (c.curProfile.getReplyPerRequest true (draws 1))
    c.packetsPerRequest.toNat) hsocket
  unfold sendRequest
  dsimp only
  rw [hsent, hself, scheduleAt_of_nonneg hdelay]
  refine ⟨_, rfl, c.one_mem_fragments _ _ ?_⟩
  unfold Fragmenting at hfrags
  omega

end ClientThread

/-! ## The server -/

namespace ServerThread

/-- The life of a thread from `v` on: its timer expires until it asks to be removed. -/
inductive Life : ServerThread U → List GenericApplicationMessage → Prop
  | removed {v : ServerThread U} {r : Reaction (ServerThread U)} :
      timerExpired { v with selfMsg := false } = .ok r → r.removal = .removeThread →
        Life v r.sent
  | timer {v : ServerThread U} {r : Reaction (ServerThread U)}
      {sent : List GenericApplicationMessage} :
      timerExpired { v with selfMsg := false } = .ok r → r.removal = .none →
        Life r.thread sent → Life v (r.sent ++ sent)

/-- The thread has `n` replies still to send. -/
def ToSend (v : ServerThread U) : Nat → Prop
  | 0 => v.threadState = .disconnected
  | n + 1 => v.threadState = .connected ∧ v.noReplysToSend = (n + 1 : Nat) ∧ n + 1 < 2147483648

/-- The fields that say what a reply consists of. -/
structure SameReply (v v' : ServerThread U) : Prop where
  packetPerReply : v'.packetPerReply = v.packetPerReply
  packetSize : v'.packetSize = v.packetSize
  timeBetweenReplys : v'.timeBetweenReplys = v.timeBetweenReplys

/-- The timer sends a reply while there is one to send. -/
theorem timerExpired_toSend {v : ServerThread U} {n : Nat} (h : v.ToSend (n + 1)) :
    Post (fun r => r.removal = .none ∧ r.thread.ToSend n ∧ SameReply v r.thread ∧
      ∃ number, r.sent = v.replyFragments number) v.timerExpired := by
  obtain ⟨hstate, hleft, hbound⟩ := h
  have hnext : int32 (v.noReplysToSend - 1) = n := by
    rw [hleft, int32_eq (by omega) (by omega)]
    omega
  unfold timerExpired
  rw [hstate]
  show Post _ v.sendReply
  unfold sendReply
  refine Post.bind_any fun socket => ?_
  refine Post.bind_any fun selfMsg => ?_
  refine ⟨rfl, ?_, ⟨rfl, rfl, rfl⟩, _, rfl⟩
  cases n with
  | zero =>
      show (if int32 (v.noReplysToSend - 1) ≤ 0 then ThreadState.disconnected else _) = _
      rw [hnext, if_pos (by omega)]
  | succ n =>
      refine ⟨?_, hnext, by omega⟩
      show (if int32 (v.noReplysToSend - 1) ≤ 0 then _ else v.threadState) = _
      rw [hnext, if_neg (by omega), hstate]

/-- Then it closes the socket and asks to be removed. -/
theorem timerExpired_toSend_zero {v : ServerThread U} (h : v.ToSend 0) :
    Post (fun r => r.removal = .removeThread ∧ r.sent = []) v.timerExpired := by
  unfold timerExpired
  rw [show v.threadState = .disconnected from h]
  exact ⟨rfl, rfl⟩

/-- The payload of what is sent. -/
def byteTotal (sent : List GenericApplicationMessage) : Int :=
  (sent.map GenericApplicationMessage.byteLength).sum

theorem byteTotal_append (sent sent' : List GenericApplicationMessage) :
    byteTotal (sent ++ sent') = byteTotal sent + byteTotal sent' := by
  simp [byteTotal]

theorem replyFragments_volume (v : ServerThread U) (number : Int) :
    (v.replyFragments number).length = v.packetPerReply.toNat ∧
      byteTotal (v.replyFragments number) = v.packetPerReply.toNat * v.packetSize := by
  unfold replyFragments byteTotal
  simp

/-- What a thread sends that has `n` replies to send. -/
theorem Life.volume {v : ServerThread U} {sent : List GenericApplicationMessage} (h : v.Life sent)
    {n : Nat} (hn : v.ToSend n) :
    sent.length = n * v.packetPerReply.toNat ∧
      byteTotal sent = (n * v.packetPerReply.toNat : Nat) * v.packetSize := by
  induction h generalizing n with
  | @removed v r htimer hremoval =>
      have hready : ({ v with selfMsg := false } : ServerThread U).ToSend n := by
        cases n <;> exact hn
      cases n with
      | zero =>
          rw [((timerExpired_toSend_zero hready).of_ok htimer).2]
          simp [byteTotal]
      | succ n =>
          rw [((timerExpired_toSend hready).of_ok htimer).1] at hremoval
          cases hremoval
  | @timer v r sent htimer hremoval hrest ih =>
      have hready : ({ v with selfMsg := false } : ServerThread U).ToSend n := by
        cases n <;> exact hn
      cases n with
      | zero =>
          rw [((timerExpired_toSend_zero hready).of_ok htimer).1] at hremoval
          cases hremoval
      | succ n =>
          obtain ⟨-, hleft, hsame, number, hsent⟩ := (timerExpired_toSend hready).of_ok htimer
          obtain ⟨hlength, hbytes⟩ := ih hleft
          obtain ⟨hlength', hbytes'⟩ :=
            replyFragments_volume ({ v with selfMsg := false } : ServerThread U) number
          rw [hsame.packetPerReply] at hlength hbytes
          rw [hsame.packetSize] at hbytes
          rw [List.length_append, byteTotal_append, hsent, hlength, hlength', hbytes, hbytes']
          constructor
          · rw [Nat.add_mul, Nat.one_mul, Nat.add_comm]
          · rw [Nat.add_mul, Nat.one_mul, Nat.cast_add, add_mul, add_comm]

theorem timerExpired_ok {Open : U.State → Prop} (hopen : Sends U Open) {v : ServerThread U}
    {n : Nat} (hn : v.ToSend n) (hsocket : Open v.socket.state)
    (htime : 0 ≤ v.timeBetweenReplys) (hself : v.selfMsg = false) :
    ∃ r, v.timerExpired = .ok r ∧ (n ≠ 0 → Open r.thread.socket.state) := by
  unfold timerExpired
  cases n with
  | zero =>
      rw [show v.threadState = .disconnected from hn]
      exact ⟨_, rfl, fun hne => absurd rfl hne⟩
  | succ n =>
      rw [hn.1]
      show ∃ r, v.sendReply = .ok r ∧ _
      obtain ⟨socket, hsent, hstate⟩ :=
        sendAll_open hopen (v.replyFragments (int32 (v.noPacketSend + 1))) hsocket
      have hdelay : 0 ≤ (if int32 (v.noReplysToSend - 1) ≤ 0 then SELF_CALL_DELAY
          else v.timeBetweenReplys) := by
        split
        · exact selfCallDelay_nonneg
        · exact htime
      unfold sendReply
      dsimp only
      rw [hself, hsent, scheduleAt_of_nonneg hdelay]
      exact ⟨_, rfl, fun _ => hstate⟩

/-- Every life comes to its end, where the socket sends. -/
theorem exists_life {Open : U.State → Prop} (hopen : Sends U Open) {v : ServerThread U} {n : Nat}
    (hn : v.ToSend n) (hsocket : Open v.socket.state) (htime : 0 ≤ v.timeBetweenReplys) :
    ∃ sent, v.Life sent := by
  induction n generalizing v with
  | zero =>
      have hready : ({ v with selfMsg := false } : ServerThread U).ToSend 0 := hn
      obtain ⟨r, hr, -⟩ := timerExpired_ok hopen hready hsocket htime rfl
      exact ⟨_, .removed hr ((timerExpired_toSend_zero hready).of_ok hr).1⟩
  | succ n ih =>
      have hready : ({ v with selfMsg := false } : ServerThread U).ToSend (n + 1) := hn
      obtain ⟨r, hr, hstate⟩ := timerExpired_ok hopen hready hsocket htime rfl
      obtain ⟨hremoval, hleft, hsame, -⟩ := (timerExpired_toSend hready).of_ok hr
      obtain ⟨sent, hlife⟩ := ih hleft (hstate (Nat.succ_ne_zero n))
        (le_of_le_of_eq htime hsame.timeBetweenReplys.symm)
      exact ⟨_, .timer hr hremoval hlife⟩

theorem socketDatagramArrived_ok (socket : Socket U) {appmsg : GenericApplicationMessage}
    (htime : 0 ≤ appmsg.timeToRespond) :
    ∃ v, (init socket).socketDatagramArrived appmsg = .ok v ∧ v.socket = socket ∧
      0 ≤ v.timeBetweenReplys := by
  unfold socketDatagramArrived
  rw [show (init socket).selfMsg = false from rfl, scheduleAt_of_nonneg htime]
  exact ⟨_, rfl, rfl, htime⟩

/-- The thread that a request has made has all its replies to send. -/
theorem Accepted.toSend {v : ServerThread U} {appmsg : GenericApplicationMessage}
    (h : v.Accepted appmsg) {n : Nat} (hn : appmsg.replyPerRequest = (n + 1 : Nat))
    (hbound : n + 1 < 2147483648) :
    v.ToSend (n + 1) ∧
      v.packetPerReply =
        (if appmsg.replyLength > UDP_MAX_PAYLOAD then ceilPayload appmsg.replyLength else 1) ∧
      v.packetSize =
        (if appmsg.replyLength > UDP_MAX_PAYLOAD then UDP_MAX_PAYLOAD else appmsg.replyLength) := by
  obtain ⟨socket, hv⟩ := h
  have hpost : Post (fun v : ServerThread U => v.threadState = .connected ∧
      v.noReplysToSend = appmsg.replyPerRequest ∧
      v.packetPerReply =
        (if appmsg.replyLength > UDP_MAX_PAYLOAD then ceilPayload appmsg.replyLength else 1) ∧
      v.packetSize =
        (if appmsg.replyLength > UDP_MAX_PAYLOAD then UDP_MAX_PAYLOAD else appmsg.replyLength))
      ((init socket).socketDatagramArrived appmsg) :=
    Post.bind_any fun _ => ⟨rfl, rfl, rfl, rfl⟩
  obtain ⟨hstate, hreplys, hrest⟩ := hpost.of_ok hv
  exact ⟨⟨hstate, hreplys.trans hn, hbound⟩, hrest⟩

end ServerThread

/-! ## Both -/

/-- The counters of the client have grown by what the server has sent. -/
structure Counted (c c' : ClientThread U) (sent : List GenericApplicationMessage) : Prop where
  bytes : c'.noBytesReceived = int32 (c.noBytesReceived + ServerThread.byteTotal sent)
  packets : c'.noPacketReceived = int32 (c.noPacketReceived + sent.length)

/-- A drawn number of replies is an `int`. -/
theorem replyPerRequest_lt (p : TrafficProfile) (d : Draw) :
    p.getReplyPerRequest true d < 2147483648 := by
  show int32 _ < 2147483648
  unfold int32
  omega

/-- The packets of one fragment of a request: one, or none if it is empty. -/
theorem ceilPayload_fragment {size : Int} (hlow : 0 ≤ size) (hhigh : size ≤ UDP_MAX_PAYLOAD) :
    ceilPayload size = if 1 ≤ size then 1 else 0 := by
  unfold ceilPayload UDP_MAX_PAYLOAD at *
  split <;> omega

/-- What the client adds is what the server sends over its life just where one reply was
asked for that is no longer than a fragment, and the request is not empty. -/
theorem counted_iff {c : ClientThread U} {draws : Nat → Draw}
    {r : Reaction (ClientThread U)} (hc : c.Reached)
    (hsend : ClientThread.sendRequest { c with selfMsg := false } draws = .ok r)
    (hreplys : 1 ≤ c.curProfile.getReplyPerRequest true (draws 1))
    {m : GenericApplicationMessage} (hm : m ∈ r.sent) {v : ServerThread U}
    (hv : v.Accepted m) {sent : List GenericApplicationMessage} (hlife : v.Life sent) :
    Counted c r.thread sent ↔
      c.curProfile.getReplyPerRequest true (draws 1) = 1 ∧
        c.curProfile.getReplyLength true (draws 0) ≤ UDP_MAX_PAYLOAD ∧ 1 ≤ c.packetSize := by
  obtain ⟨hbytes, hpackets, hmsg⟩ :=
    (ClientThread.sendRequest_spec { c with selfMsg := false } draws).of_ok hsend
  obtain ⟨hlen, hper, -⟩ := hmsg m hm
  obtain ⟨hsize, hsize'⟩ := hc.packetSize_range
  have hlong : c.curProfile.getReplyLength true (draws 0) ≤ MAX_PACKET_SIZE :=
    (ClientThread.noisyLength_range (draws 0)).2
  have hint := replyPerRequest_lt c.curProfile (draws 1)
  dsimp only at hbytes hpackets hlen hper
  generalize c.curProfile.getReplyLength true (draws 0) = length at *
  generalize c.curProfile.getReplyPerRequest true (draws 1) = replys at *
  obtain ⟨n, rfl⟩ : ∃ n : Nat, replys = (n + 1 : Nat) := ⟨(replys - 1).toNat, by omega⟩
  obtain ⟨hleft, hpacket, hreply⟩ := hv.toSend hper (by omega)
  rw [hlen] at hpacket hreply
  obtain ⟨hcount, hvolume⟩ := hlife.volume hleft
  have hcounted : Counted c r.thread sent ↔
      (length - ServerThread.byteTotal sent) % 4294967296 = 0 ∧
        ((if 1 ≤ c.packetSize then 1 else 0) - (sent.length : Int)) % 4294967296 = 0 := by
    rw [← int32_add_eq_iff (x := c.noBytesReceived), ← int32_add_eq_iff (x := c.noPacketReceived),
      ← ceilPayload_fragment hsize hsize', ← hbytes, ← hpackets]
    exact ⟨fun h => ⟨h.bytes, h.packets⟩, fun h => ⟨h.1, h.2⟩⟩
  rw [hcounted, hvolume, hcount, hpacket, hreply]
  by_cases hshort : length ≤ UDP_MAX_PAYLOAD
  · -- a reply is one packet: the packets decide, and with one reply the bytes agree
    have hno : ¬ length > UDP_MAX_PAYLOAD := by omega
    rw [if_neg hno, if_neg hno]
    simp only [Int.toNat_one, Nat.mul_one]
    constructor
    · rintro ⟨-, hagree⟩
      split at hagree
      · exact ⟨by omega, hshort, by omega⟩
      · omega
    · rintro ⟨hone, -, hfull⟩
      obtain rfl : n = 0 := by omega
      simp [hfull]
  · -- all packets are full, so that packets and bytes cannot both agree
    have hyes : length > UDP_MAX_PAYLOAD := by omega
    rw [if_pos hyes, if_pos hyes]
    generalize (n + 1) * (ceilPayload length).toNat = packets
    refine iff_of_false ?_ fun h => hshort h.2.1
    rintro ⟨hagree, hagree'⟩
    unfold UDP_MAX_PAYLOAD at *
    have hmax : (MAX_PACKET_SIZE : Int) = 60000 := rfl
    split at hagree' <;> omega

/-- Where the sockets send, the request goes out, and the server thread that its fragment
number 1 starts lives to its end. -/
theorem exists_exchange {Open : U.State → Prop} (hopen : Sends U Open) {c : ClientThread U}
    (hsocket : Open c.socket.state) (hfrags : c.Fragmenting) (htime : 0 ≤ c.curResponseTime)
    {draws : Nat → Draw} (hreplys : 1 ≤ c.curProfile.getReplyPerRequest true (draws 1))
    (socket : Socket U) (hserver : Open socket.state) :
    ∃ r, ClientThread.sendRequest { c with selfMsg := false } draws = .ok r ∧
      ∃ m ∈ r.sent, m.packetNumber = 1 ∧ ∃ v : ServerThread U, v.Accepted m ∧
        ∃ sent, v.Life sent := by
  obtain ⟨r, hr, hone⟩ := ClientThread.sendRequest_ok (c := { c with selfMsg := false })
    hopen hsocket rfl hfrags htime hreplys
  obtain ⟨m, hm, hnumber⟩ := hone
  obtain ⟨-, -, hmsg⟩ := (ClientThread.sendRequest_spec { c with selfMsg := false } draws).of_ok hr
  obtain ⟨-, hper, hdelay⟩ := hmsg m hm
  have hresponse : 0 ≤ m.timeToRespond := le_of_le_of_eq htime hdelay.symm
  have hint := replyPerRequest_lt c.curProfile (draws 1)
  obtain ⟨n, hn⟩ : ∃ n : Nat, c.curProfile.getReplyPerRequest true (draws 1) = (n + 1 : Nat) :=
    ⟨(c.curProfile.getReplyPerRequest true (draws 1) - 1).toNat, by omega⟩
  obtain ⟨v, hv, hstate, hbetween⟩ := ServerThread.socketDatagramArrived_ok socket hresponse
  obtain ⟨hleft, -⟩ := ServerThread.Accepted.toSend ⟨socket, hv⟩ (hper.trans hn) (by omega)
  obtain ⟨sent, hlife⟩ := ServerThread.exists_life hopen hleft (hstate ▸ hserver) hbetween
  exact ⟨r, hr, m, hm, hnumber, v, ⟨socket, hv⟩, sent, hlife⟩

/-! ### One reply and two -/

/-- A thread whose requests are one fragment. -/
def requester : ClientThread inetSocket where
  transmission := 0
  curProfile := {}
  curTarget := ⟨7, 80⟩
  socket := ⟨1, ⟨true, true⟩⟩
  selfMsg := true
  threadState := .connected
  noRequestsToSend := 1
  packetsPerRequest := 1
  packetSize := 100
  curResponseTime := 1

/-- What is drawn for its requests: replies of 100 bytes, and one of them more than
`normal`. -/
def requestDraws (normal : Int) : Nat → Draw := fun _ => ⟨normal, 100, 1⟩

theorem requester_reached : requester.Reached := by
  have hstart : requester.Started 0 {} ⟨7, 80⟩ := by
    refine ⟨requestDraws 0, ⟨1, ⟨true, false⟩⟩, ?_⟩
    have hsession : ({} : TrafficProfile).getRequestsPerSession true (requestDraws 0 0) = 1 := by
      decide
    unfold ClientThread.init
    rw [scheduleAt_of_nonneg selfCallDelay_nonneg, hsession]
    rfl
  exact .started hstart

theorem requester_exchange (normal : Int)
    (h : 1 ≤ requester.curProfile.getReplyPerRequest true (requestDraws normal 1)) :
    ∃ r, ClientThread.sendRequest { requester with selfMsg := false } (requestDraws normal) =
        .ok r ∧
      ∃ m ∈ r.sent, m.packetNumber = 1 ∧ ∃ v : ServerThread inetSocket, v.Accepted m ∧
        ∃ sent, v.Life sent := by
  exact exists_exchange inetSocket_sends rfl (le_refl 1) zero_le_one h ⟨2, ⟨true, true⟩⟩ rfl

/-- One reply is counted as it is sent. -/
theorem one_reply_counted :
    ∃ r, ClientThread.sendRequest { requester with selfMsg := false } (requestDraws 0) = .ok r ∧
      ∃ m ∈ r.sent, ∃ v : ServerThread inetSocket, v.Accepted m ∧
        ∃ sent, v.Life sent ∧ Counted requester r.thread sent := by
  obtain ⟨r, hr, m, hm, -, v, hv, sent, hlife⟩ := requester_exchange 0 (by decide)
  exact ⟨r, hr, m, hm, v, hv, sent, hlife,
    (counted_iff requester_reached hr (by decide) hm hv hlife).mpr (by decide)⟩

/-- Two replies are sent, one is counted. -/
theorem two_replies_counted_once :
    requester.Reached ∧
    ∃ r, ClientThread.sendRequest { requester with selfMsg := false } (requestDraws 1) = .ok r ∧
      ∃ m ∈ r.sent, m.packetNumber = 1 ∧ ∃ v : ServerThread inetSocket, v.Accepted m ∧
        ∃ sent, v.Life sent ∧ sent.length = 2 ∧ r.thread.noPacketReceived = 1 ∧
          ¬ Counted requester r.thread sent := by
  obtain ⟨r, hr, m, hm, hone, v, hv, sent, hlife⟩ := requester_exchange 1 (by decide)
  refine ⟨requester_reached, r, hr, m, hm, hone, v, hv, sent, hlife, ?_⟩
  obtain ⟨-, hpackets, hmsg⟩ :=
    (ClientThread.sendRequest_spec { requester with selfMsg := false } _).of_ok hr
  obtain ⟨hlen, hper, -⟩ := hmsg m hm
  obtain ⟨hleft, hpacket, -⟩ := hv.toSend (n := 1) (hper.trans (by decide)) (by decide)
  have hcount := (hlife.volume hleft).1
  rw [hpacket, hlen] at hcount
  have hsent : sent.length = 2 := hcount.trans (by decide)
  have hcounted : r.thread.noPacketReceived = 1 := hpackets.trans (by decide)
  refine ⟨hsent, hcounted, fun h => ?_⟩
  have hwrong := h.packets
  rw [hcounted, hsent] at hwrong
  exact absurd hwrong (by decide)

end ScadaSim.UdpApp
