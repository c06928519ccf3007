import ScadaSim.Lib.Outcome
import ScadaSim.TcpApp.Books
import ScadaSim.TcpApp.Session

/-!
# The stages of a session

Client and server take turns: at any time there is one segment on its way, one
timer running, or neither. `Stage` lists the states this leaves, and
`Stage.advances` shows that every possible action succeeds and leads to another
of them.
-/

namespace ScadaSim.TcpApp

open Lib

variable {S : TCPSocket}

/-- A client with all its fields. -/
abbrev ClientThread.of (port : Port S) (st : ThreadState) (n : Nat) (t : TransmissionStatistics)
    (removed : Option TransmissionStatistics) : ClientThread S where
  port := port
  threadState := st
  noRequestsToSend := n
  noBytesSend := t.noBytesSend
  noBytesReceived := t.noBytesReceived
  noPacketSend := t.noPacketSend
  noPacketReceived := t.noPacketReceived
  removed := removed

/-- The indication that makes the server thread, until it has arrived. -/
def greeting (present : Bool) : List Segment := if present then [] else [.established]

def finUnless (arrived : Bool) : List Segment := if arrived then [] else [.fin]

/-- The state of the thread between two requests. -/
def stateWith (n : Nat) : ThreadState := if n = 0 then .disconnected else .connected

/-- What a stage leaves open: the states of the two sockets, the logs, the requests
left and the statistics of the client. -/
structure Particulars (S : TCPSocket) where
  cs : S.State
  vs : S.State
  cl : List Event
  vl : List Event
  n : Nat
  t : TransmissionStatistics

namespace Session

/-- The `syn` is on its way. -/
abbrev connecting (N : Nat) (cs : S.State) : Session S where
  client := .of { socket := cs, out := [.syn] } .waiting N ⟨0, 0, 0, 0⟩ none
  server := { port := { socket := S.accepted } }

/-- The client has still to learn that the connection is established. -/
abbrev opening (N : Nat) (cs vs : S.State) (present : Bool) : Session S where
  client := .of { socket := cs, out := greeting present } .waiting N ⟨0, 0, 0, 0⟩ none
  server := { port := { socket := vs, out := [.established] }, present := present }

/-- The request `m` is on its way. -/
abbrev requesting (k : Particulars S) (present : Bool) (m : GenericApplicationMessage) :
    Session S where
  client := .of { socket := k.cs, out := greeting present ++ [.data m], log := k.cl }
    (stateWith k.n) k.n k.t none
  server := { port := { socket := k.vs, log := k.vl }, present := present }

/-- The server waits before it replies to `m`. -/
abbrev replying (k : Particulars S) (m : GenericApplicationMessage) : Session S where
  client := .of { socket := k.cs, log := k.cl } (stateWith k.n) k.n k.t none
  server := { port := { socket := k.vs, selfMsg := true, log := k.vl }
              replies := [m.reply], doClose := decide (k.n = 0), present := true }

/-- The reply is on its way, and the `fin` after the last one. -/
abbrev answered (k : Particulars S) (m : GenericApplicationMessage) : Session S where
  client := .of { socket := k.cs, log := k.cl } (stateWith k.n) k.n k.t none
  server := { port := { socket := k.vs, finSent := decide (k.n = 0), log := k.vl
                        out := .data m.reply :: finUnless (decide (k.n ≠ 0)) }
              doClose := decide (k.n = 0), present := true }

/-- The client waits before its next request, or before it closes; it has seen the
`fin` of the server, or not. -/
abbrev pausing (k : Particulars S) (seen : Bool) : Session S where
  client := .of { socket := k.cs, selfMsg := true, log := k.cl } (stateWith k.n) k.n k.t none
  server := { port := { socket := k.vs, finSent := decide (k.n = 0), log := k.vl
                        out := finUnless (seen || decide (k.n ≠ 0)) }
              doClose := decide (k.n = 0), present := true }
  clientFin := seen

/-- Both sides have closed. -/
abbrev closing (k : Particulars S)
    (doClose clientFin serverFin clientClosed serverClosed : Bool)
    (removed : Option TransmissionStatistics) : Session S where
  client := .of { socket := k.cs, selfMsg := clientClosed && removed.isNone
                  out := finUnless serverFin, finSent := true, log := k.cl }
    (if clientClosed then .finish else .disconnected) 0 k.t removed
  server := { port := { socket := k.vs, out := finUnless clientFin, finSent := true, log := k.vl }
              doClose := doClose, present := !serverClosed }
  clientFin := clientFin
  serverFin := serverFin
  clientClosed := clientClosed
  serverClosed := serverClosed

/-- The server has taken a request that asks for no reply. -/
abbrev stuck (k : Particulars S) : Session S where
  client := .of { socket := k.cs, log := k.cl } (stateWith k.n) k.n k.t none
  server := { port := { socket := k.vs, log := k.vl }, doClose := decide (k.n = 0)
              present := true }

end Session

/-- The stages, with what is known in each about the sockets and the logs. -/
inductive Stage (Open : S.State → Prop) (N : Nat) : Session S → Prop
  | waiting : Stage Open N (.start S N)
  | connecting (cs : S.State) : Stage Open N (.connecting N cs)
  | opening (cs vs : S.State) (present : Bool) (hvs : present = true → Open vs) :
      Stage Open N (.opening N cs vs present)
  | requesting (k : Particulars S) (present : Bool) (m : GenericApplicationMessage)
      (hcs : Open k.cs) (hvs : present = true → Open k.vs)
      (hc : ClientBooks N k.cl k.n (some m)) (hv : ServerBooks k.vl [])
      (hm : m.last = decide (k.n = 0)) : Stage Open N (.requesting k present m)
  | replying (k : Particulars S) (m : GenericApplicationMessage)
      (hcs : Open k.cs) (hvs : Open k.vs)
      (hc : ClientBooks N k.cl k.n (some m)) (hv : ServerBooks k.vl [m.reply])
      (hne : m.replyLength ≠ 0) : Stage Open N (.replying k m)
  | answered (k : Particulars S) (m : GenericApplicationMessage)
      (hcs : Open k.cs) (hvs : k.n ≠ 0 → Open k.vs)
      (hc : ClientBooks N k.cl k.n (some m)) (hv : ServerBooks k.vl [])
      (hne : m.replyLength ≠ 0) : Stage Open N (.answered k m)
  | pausing (k : Particulars S) (seen : Bool)
      (hcs : Open k.cs) (hvs : k.n ≠ 0 → Open k.vs)
      (hc : ClientBooks N k.cl k.n none) (hv : ServerBooks k.vl [])
      (hseen : seen = true → k.n = 0) : Stage Open N (.pausing k seen)
  | closing (k : Particulars S)
      (doClose clientFin serverFin clientClosed serverClosed : Bool)
      (removed : Option TransmissionStatistics)
      (hc : ClientBooks N k.cl 0 none) (hv : ServerBooks k.vl [])
      (hcc : clientClosed = true → clientFin = true ∧ serverFin = true)
      (hvc : serverClosed = true → clientFin = true ∧ serverFin = true)
      (hrem : removed.isSome = true → clientClosed = true) :
      Stage Open N (.closing k doClose clientFin serverFin clientClosed serverClosed removed)
  | stuck (k : Particulars S) (m : GenericApplicationMessage)
      (hc : ClientBooks N k.cl k.n (some m)) (hv : ServerBooks k.vl [])
      (hzero : m.replyLength = 0) : Stage Open N (.stuck k)

/-- Every possible action succeeds, in a state of `P`. -/
def Advances (P : Session S → Prop) (s : Session S) : Prop :=
  ∀ a r, s.step a = some r → ∃ t, r = .ok t ∧ P t

variable {Open : S.State → Prop} {N : Nat}

/-! ## What the threads do in these stages -/

/-- `sendRequest` of a client that has `n + 1` requests left. -/
theorem sendRequest_spec (C : S.Contract Open) {c : ClientThread S} (hcs : Open c.port.socket)
    {n : Nat} (hn : c.noRequestsToSend = n + 1) (hst : c.threadState = .connected) (d : Draw) :
    ∃ cs t m, Open cs ∧ m.last = decide (n = 0) ∧ c.sendRequest d = .ok (.of
      { c.port with
        socket := cs
        out := c.port.out ++ [.data m]
        log := (c.port.log ++ [.decremented (n + 1)]) ++ [.sent m] } (stateWith n) n t c.removed) := by
  obtain ⟨cs, hsend, hopen⟩ := C.send _ hcs
  have hdec : decrement (n + 1) = n := rfl
  refine ⟨cs, ⟨c.noBytesSend + d.requestLength, c.noBytesReceived, c.noPacketSend + 1,
    c.noPacketReceived⟩, ⟨d.requestLength, d.replyLength, 1, d.timeToRespond, decide (n = 0),
    c.noPacketSend + 1⟩, hopen, rfl, ?_⟩
  have hport := Port.send_eq (p := c.port.record (.decremented (n + 1))) hsend
  have hnext : (if n ≤ 0 then .disconnected else c.threadState) = stateWith n := by
    unfold stateWith
    simp only [Nat.le_zero, hst]
  have hflag : decide (stateWith n = .disconnected) = decide (n = 0) := by
    by_cases hzero : n = 0 <;> simp [stateWith, hzero]
  unfold ClientThread.sendRequest
  simp only [hn, hdec, hnext, hflag, hport, ok_bind]
  rfl

/-- A server sends a reply, and closes after the last one. -/
theorem sendReply_spec (C : S.Contract Open) {v : ServerThread S} (hvs : Open v.port.socket)
    {n : Nat} (hdone : v.doClose = decide (n = 0)) (hfin : v.port.finSent = false)
    (hout : v.port.out = []) {m : GenericApplicationMessage} (hv : ServerBooks v.port.log [m])
    (rest : List GenericApplicationMessage) :
    ∃ vs vl, (n ≠ 0 → Open vs) ∧ ServerBooks vl [] ∧
      (do let port ← v.port.send m
          ServerThread.closeIfDone { v with port := port, replies := rest }) =
        .ok { v with
          port := { v.port with
            socket := vs, finSent := decide (n = 0), log := vl,
            out := .data m :: finUnless (decide (n ≠ 0)) }
          replies := rest } := by
  obtain ⟨vs, hsend, hopen⟩ := C.send _ hvs
  rw [Port.send_eq hsend, ok_bind]
  unfold ServerThread.closeIfDone
  by_cases hzero : n = 0
  · obtain ⟨vs', hclose⟩ := C.close _ hopen
    have hlocal := C.isLocallyClosed _ hopen
    refine ⟨vs', (v.port.log ++ [.sent m]) ++ [.closed], fun h => absurd hzero h,
      hv.send.close, ?_⟩
    simp only [hdone, hzero, hlocal, decide_true, Bool.not_false, Bool.and_self, if_true]
    rw [Port.close_eq hclose, ok_bind, hout]
    rfl
  · refine ⟨vs, v.port.log ++ [.sent m], fun _ => hopen, hv.send, ?_⟩
    simp only [hdone, hzero, decide_false, Bool.false_and, Bool.false_eq_true, if_false, hout, hfin]
    simp [finUnless, hzero]

/-- A client with all replies in closes its socket. -/
theorem client_closes (C : S.Contract Open) {cs : S.State} (hcs : Open cs) (cl : List Event)
    (t : TransmissionStatistics) (d : Draw) :
    ∃ cs', ClientThread.timerExpired (.of { socket := cs, log := cl } .disconnected 0 t none) d =
      .ok (.of { socket := cs', out := [.fin], finSent := true, log := cl ++ [.closed] }
        .disconnected 0 t none) := by
  obtain ⟨cs', hclose⟩ := C.close cs hcs
  have hlocal := C.isLocallyClosed cs hcs
  refine ⟨cs', ?_⟩
  unfold ClientThread.timerExpired
  simp only [hlocal, Bool.not_false, if_true]
  rw [Port.close_eq hclose, ok_bind]
  rfl

/-! ## The steps -/

theorem advances_waiting (C : S.Contract Open) : Advances (Stage Open N) (.start S N) := by
  intro a r h
  cases a with
  | clientTimer d =>
      obtain ⟨cs, hcs⟩ := C.connect
      cases h
      refine ⟨_, ?_, .connecting cs⟩
      simp only [Session.start, ClientThread.init, ClientThread.timerExpired]
      rw [Port.connect_eq hcs]
      rfl
  | _ => cases h

theorem advances_connecting (cs : S.State) :
    Advances (Stage Open N) (.connecting N cs) := by
  intro a r h
  cases a with
  | handshake =>
      cases h
      exact ⟨_, rfl, .opening cs S.accepted false nofun⟩
  | _ => cases h

theorem advances_opening (C : S.Contract Open) {cs vs : S.State} {present : Bool}
    (hvs : present = true → Open vs) : Advances (Stage Open N) (.opening N cs vs present) := by
  have hmax : (if N < 1 then 1 else N) = (max 1 N - 1) + 1 := by
    split <;> omega
  intro a r h
  cases a with
  | toClient d indicate =>
      -- the first request, of at least one
      obtain ⟨cs', t, m, hopen, hm, hsend⟩ := sendRequest_spec C
        (c := .of { socket := S.established cs, out := greeting present } .connected
          (if N < 1 then 1 else N) ⟨0, 0, 0, 0⟩ none) (C.established cs) hmax rfl d
      have hc := clientBooks_nil N
      rw [← Nat.sub_add_cancel (Nat.le_max_left 1 N)] at hc
      cases h
      exact ⟨_, bind_eq hsend rfl, .requesting ⟨cs', vs, _, [], _, t⟩ present m hopen hvs
        (hc.send hm) serverBooks_nil hm⟩
  | toServer indicate =>
      cases present with
      | true => cases h
      | false =>
          cases h
          exact ⟨_, rfl, .opening cs (S.established S.accepted) true fun _ => C.established _⟩
  | _ => cases present <;> cases h

/-- The request arrives: it is answered at once, after a delay, or not at all. -/
theorem request_arrives (C : S.Contract Open) {k : Particulars S} {m : GenericApplicationMessage}
    (hcs : Open k.cs) (hvs : Open k.vs) (hc : ClientBooks N k.cl k.n (some m))
    (hv : ServerBooks k.vl []) (hm : m.last = decide (k.n = 0)) :
    ∃ v, ServerThread.socketDataArrived
        { port := { socket := k.vs, log := k.vl }, present := true } m = .ok v ∧
      Stage Open N
        { client := .of { socket := k.cs, log := k.cl } (stateWith k.n) k.n k.t none
          server := v } := by
  have harrive := hv.arrive m
  unfold ServerThread.socketDataArrived
  rw [hm]
  dsimp only [Port.record]
  by_cases hzero : m.replyLength = 0
  · -- neither a reply nor a `close`, also for the last request
    rw [if_pos hzero]
    rw [if_pos hzero] at harrive
    exact ⟨_, rfl, .stuck { k with vl := k.vl ++ [.arrived m] } m hc harrive hzero⟩
  · rw [if_neg hzero]
    rw [if_neg hzero] at harrive
    by_cases hdelay : m.timeToRespond > 0
    · rw [if_pos hdelay]
      exact ⟨_, rfl,
        .replying { k with vl := k.vl ++ [.arrived m] } m hcs hvs hc harrive hzero⟩
    · rw [if_neg hdelay]
      obtain ⟨vs', vl', hopen, hbooks, hsend⟩ := sendReply_spec C
        (v := { port := { socket := k.vs, log := k.vl ++ [.arrived m] }
                doClose := decide (k.n = 0), present := true }) hvs rfl rfl rfl harrive []
      exact ⟨_, hsend, .answered { k with vs := vs', vl := vl' } m hcs hopen hc hbooks hzero⟩

theorem advances_requesting (C : S.Contract Open) {k : Particulars S} {present : Bool}
    {m : GenericApplicationMessage} (hcs : Open k.cs) (hvs : present = true → Open k.vs)
    (hc : ClientBooks N k.cl k.n (some m)) (hv : ServerBooks k.vl [])
    (hm : m.last = decide (k.n = 0)) : Advances (Stage Open N) (.requesting k present m) := by
  intro a r h
  cases a with
  | toServer indicate =>
      cases present with
      | false =>
          -- the greeting arrives first
          cases h
          exact ⟨_, rfl, .requesting { k with vs := S.established S.accepted } true m hcs
            (fun _ => C.established _) hc hv hm⟩
      | true =>
          obtain ⟨v, hdata, hstage⟩ := request_arrives C hcs (hvs rfl) hc hv hm
          cases h
          exact ⟨_, bind_eq hdata rfl, hstage⟩
  | _ => cases present <;> cases h

theorem advances_replying (C : S.Contract Open) {k : Particulars S}
    {m : GenericApplicationMessage} (hcs : Open k.cs) (hvs : Open k.vs)
    (hc : ClientBooks N k.cl k.n (some m)) (hv : ServerBooks k.vl [m.reply])
    (hne : m.replyLength ≠ 0) : Advances (Stage Open N) (.replying k m) := by
  intro a r h
  cases a with
  | serverTimer =>
      obtain ⟨vs', vl', hopen, hbooks, hsend⟩ := sendReply_spec C
        (v := { port := { socket := k.vs, log := k.vl }, doClose := decide (k.n = 0)
                replies := [m.reply], present := true }) hvs rfl rfl rfl hv []
      cases h
      exact ⟨_, bind_eq hsend rfl, .answered { k with vs := vs', vl := vl' } m hcs hopen hc
        hbooks hne⟩
  | _ => cases h

theorem advances_answered {k : Particulars S} {m : GenericApplicationMessage} (hcs : Open k.cs)
    (hvs : k.n ≠ 0 → Open k.vs) (hc : ClientBooks N k.cl k.n (some m))
    (hv : ServerBooks k.vl []) (hne : m.replyLength ≠ 0) :
    Advances (Stage Open N) (.answered k m) := by
  intro a r h
  cases a with
  | toClient d indicate =>
      cases h
      exact ⟨_, rfl, .pausing ⟨k.cs, k.vs, _, k.vl, k.n, k.t.noBytesSend,
        k.t.noBytesReceived + m.replyLength, k.t.noPacketSend, k.t.noPacketReceived + 1⟩ false
        hcs hvs (hc.arrive hne) hv nofun⟩
  | _ => cases h

theorem advances_pausing (C : S.Contract Open) {k : Particulars S} {seen : Bool}
    (hcs : Open k.cs) (hvs : k.n ≠ 0 → Open k.vs) (hc : ClientBooks N k.cl k.n none)
    (hv : ServerBooks k.vl []) (hseen : seen = true → k.n = 0) :
    Advances (Stage Open N) (.pausing k seen) := by
  obtain ⟨cs, vs, cl, vl, n, t⟩ := k
  intro a r h
  cases n with
  | zero =>
      cases a with
      | clientTimer d =>
          -- the last reply is in: the client closes
          obtain ⟨cs', hclose⟩ := client_closes C hcs cl t d
          cases h
          refine ⟨_, bind_eq hclose ?_, .closing ⟨cs', vs, cl ++ [.closed], vl, 0, t⟩ true seen
            false false false none hc.close hv nofun nofun nofun⟩
          cases seen <;> rfl
      | toClient d indicate =>
          cases seen with
          | true => cases h
          | false =>
              cases h
              exact ⟨_, rfl, .pausing ⟨S.peerClosed cs, vs, cl, vl, 0, t⟩ true
                (C.peerClosed cs hcs) hvs hc hv fun _ => rfl⟩
      | _ => cases seen <;> cases h
  | succ n =>
      have hnot : seen = false := Bool.eq_false_iff.mpr fun h => Nat.succ_ne_zero n (hseen h)
      subst hnot
      cases a with
      | clientTimer d =>
          -- the next request
          obtain ⟨cs', t', m, hopen, hm, hsend⟩ := sendRequest_spec C
            (c := .of { socket := cs, log := cl } .connected (n + 1) t none) hcs rfl rfl d
          cases h
          exact ⟨_, bind_eq hsend rfl, .requesting ⟨cs', vs, _, vl, n, t'⟩ true m hopen
            (fun _ => hvs (Nat.succ_ne_zero n)) (hc.send hm) hv hm⟩
      | _ => cases h

section

variable {k : Particulars S} {doClose clientFin serverFin clientClosed serverClosed : Bool}
  {removed : Option TransmissionStatistics}

/-- Until both `fin`s have arrived no side is told that the connection is closed,
and the client is there. -/
theorem closing_early (hcc : clientClosed = true → clientFin = true ∧ serverFin = true)
    (hvc : serverClosed = true → clientFin = true ∧ serverFin = true)
    (hrem : removed.isSome = true → clientClosed = true)
    (hfin : ¬ (clientFin = true ∧ serverFin = true)) :
    clientClosed = false ∧ serverClosed = false ∧ removed = none := by
  have hclient : clientClosed = false := Bool.eq_false_iff.mpr fun h => hfin (hcc h)
  refine ⟨hclient, Bool.eq_false_iff.mpr fun h => hfin (hvc h), ?_⟩
  refine Option.not_isSome_iff_eq_none.mp fun h => ?_
  rw [hrem h] at hclient
  cases hclient

theorem advances_closing (hc : ClientBooks N k.cl 0 none) (hv : ServerBooks k.vl [])
    (hcc : clientClosed = true → clientFin = true ∧ serverFin = true)
    (hvc : serverClosed = true → clientFin = true ∧ serverFin = true)
    (hrem : removed.isSome = true → clientClosed = true) :
    Advances (Stage Open N)
      (.closing k doClose clientFin serverFin clientClosed serverClosed removed) := by
  intro a r h
  cases a with
  | handshake => cases serverFin <;> cases h
  | clientTimer d =>
      -- the timer that `socketClosed` has set: the thread is removed
      cases clientClosed with
      | false => cases h
      | true =>
          cases removed with
          | some stat => cases h
          | none =>
              cases h
              exact ⟨_, rfl, .closing k doClose clientFin serverFin true serverClosed (some _) hc
                hv hcc hvc fun _ => rfl⟩
  | toClient d indicate =>
      cases clientFin with
      | true => cases h
      | false =>
          -- a `fin` still in flight: no socket is closed yet
          obtain ⟨rfl, rfl, rfl⟩ := closing_early hcc hvc hrem (by simp)
          cases indicate with
          | true =>
              cases h
              exact ⟨_, rfl, .closing { k with cs := S.peerClosed k.cs } doClose true serverFin
                false false none hc hv nofun nofun nofun⟩
          | false =>
              cases h
              exact ⟨_, rfl, .closing k doClose true serverFin false false none hc hv nofun nofun
                nofun⟩
  | toServer indicate =>
      cases serverFin with
      | true => cases h
      | false =>
          obtain ⟨rfl, rfl, rfl⟩ := closing_early hcc hvc hrem (by simp)
          cases indicate with
          | true =>
              cases h
              exact ⟨_, rfl, .closing { k with vs := S.peerClosed k.vs } true clientFin true false
                false none hc hv nofun nofun nofun⟩
          | false =>
              cases h
              exact ⟨_, rfl, .closing k doClose clientFin true false false none hc hv nofun nofun
                nofun⟩
  -- each socket closes once, and only after both `fin`s have arrived
  | closeClient =>
      cases clientFin with
      | false => cases h
      | true =>
          cases serverFin with
          | false => cases h
          | true =>
              cases clientClosed with
              | true => cases h
              | false =>
                  have hthere : removed = none := Option.not_isSome_iff_eq_none.mp fun h => by
                    cases hrem h
                  subst hthere
                  cases h
                  exact ⟨_, rfl, .closing { k with cs := S.closed k.cs } doClose true true true
                    serverClosed none hc hv (fun _ => ⟨rfl, rfl⟩) hvc nofun⟩
  | closeServer =>
      cases clientFin with
      | false => cases h
      | true =>
          cases serverFin with
          | false => cases h
          | true =>
              cases serverClosed with
              | true => cases h
              | false =>
                  cases h
                  exact ⟨_, rfl, .closing { k with vs := S.closed k.vs } doClose true true
                    clientClosed true removed hc hv hcc (fun _ => ⟨rfl, rfl⟩) hrem⟩
  | serverTimer => cases h

end

/-- No action is possible. -/
theorem advances_stuck (k : Particulars S) : Advances (Stage Open N) (.stuck k) := by
  intro a r h
  cases a with
  | _ => cases h

/-- Every possible action succeeds, and leads to a stage. -/
theorem Stage.advances (C : S.Contract Open) {s : Session S} (hs : Stage Open N s) :
    Advances (Stage Open N) s := by
  cases hs with
  | waiting => exact advances_waiting C
  | connecting cs => exact advances_connecting cs
  | opening _ _ _ hvs => exact advances_opening C hvs
  | requesting _ _ _ hcs hvs hc hv hm => exact advances_requesting C hcs hvs hc hv hm
  | replying _ _ hcs hvs hc hv hne => exact advances_replying C hcs hvs hc hv hne
  | answered _ _ hcs hvs hc hv hne => exact advances_answered hcs hvs hc hv hne
  | pausing _ _ hcs hvs hc hv hseen => exact advances_pausing C hcs hvs hc hv hseen
  | closing _ _ _ _ _ _ _ hc hv hcc hvc hrem => exact advances_closing hc hv hcc hvc hrem
  | stuck k => exact advances_stuck k

/-- Every state of a session is in a stage. -/
theorem stage_invariant (C : S.Contract Open) :
    (sessions S N).Invariant (Stage Open N) := by
  refine TSys.Inductive.invariant ⟨?_, ?_⟩
  · rintro _ rfl
    exact .waiting
  · intro s a t hs hstep
    obtain ⟨t', hok, ht'⟩ := hs.advances C a _ hstep
    cases hok
    exact ht'

end ScadaSim.TcpApp
