import ScadaSim.TcpApp.Safety

/-!
# Where a session comes to rest

The server neither answers nor closes on a request with the reply length zero,
and the client waits for an answer to each request. So a session comes to rest
with its client removed just when no request was drawn with the reply length
zero (`reported_iff_asksReply`).
-/

namespace ScadaSim.TcpApp

open Lib

variable {S : TCPSocket} {Open : S.State → Prop} {N : Nat}

/-- No segment or indication is on its way, and no `selfMsg` is scheduled. -/
structure Quiescent (s : Session S) : Prop where
  toServer : s.client.port.out = []
  toClient : s.server.port.out = []
  indications : s.bothFins = true → s.clientClosed = true ∧ s.serverClosed = true
  clientTimer : s.client.port.selfMsg = false
  serverTimer : s.server.port.selfMsg = false

/-- The client thread is removed, and its statistics are with the user. -/
def Session.Reported (s : Session S) : Prop := s.client.removed.isSome = true

/-- The reply length of the request that the action sends, if it sends one. -/
def Session.drawn (s : Session S) : Action → Option Nat
  | .clientTimer d => if s.client.threadState = .connected then some d.replyLength else none
  | .toClient d _ =>
      if s.server.port.out.head? = some .established then some d.replyLength else none
  | _ => none

/-- If the action sends a request, it asks for a reply. -/
def AsksReply (s : Session S) (a : Action) : Prop := s.drawn a ≠ some 0

/-- The reply lengths of the requests that have been sent. -/
def asked (p : Port S) : List Nat := (sentIn p.log).map (·.replyLength)

/-! ## What each action sends -/

/-- The result, if there is one, satisfies `P`. -/
abbrev Yields {α : Type} (P : α → Prop) (x : Except Fault α) : Prop :=
  Ensures (fun _ => False) P x

theorem asked_record (p : Port S) {e : Event} (he : e.sentMsg = none) :
    asked (p.record e) = asked p := by
  simp [asked, Port.record, he]

theorem asked_send (p : Port S) (m : GenericApplicationMessage) :
    Yields (fun p' => asked p' = asked p ++ [m.replyLength]) (p.send m) := by
  unfold Port.send
  split
  · exact fun h => h
  · simp [asked, Event.sentMsg]

theorem asked_connect (p : Port S) : Yields (fun p' => asked p' = asked p) p.connect := by
  unfold Port.connect
  split
  · exact fun h => h
  · exact rfl

theorem asked_close (p : Port S) : Yields (fun p' => asked p' = asked p) p.close := by
  unfold Port.close
  split
  · exact fun h => h
  · simp [asked, Event.sentMsg]

theorem asked_scheduleAt (p : Port S) : Yields (fun p' => asked p' = asked p) p.scheduleAt := by
  unfold Port.scheduleAt
  split
  · exact fun h => h
  · exact rfl

theorem asked_sendRequest (c : ClientThread S) (d : Draw) :
    Yields (fun c' => asked c'.port = asked c.port ++ [d.replyLength]) (c.sendRequest d) := by
  unfold ClientThread.sendRequest
  refine (asked_send _ _).bind ?_
  intro p hp
  rw [asked_record c.port rfl] at hp
  exact hp

theorem asked_timerExpired (c : ClientThread S) (d : Draw) :
    Yields (fun c' => asked c'.port = asked c.port ++
      (if c.threadState = .connected then some d.replyLength else none).toList)
      (c.timerExpired d) := by
  unfold ClientThread.timerExpired
  cases hst : c.threadState with
  | waiting =>
      refine (asked_connect c.port).bind fun p hp => ?_
      exact hp.trans (List.append_nil _).symm
  | connected => exact asked_sendRequest c d
  | disconnected =>
      show Yields (fun c' : ClientThread S => asked c'.port = asked c.port ++ []) _
      dsimp only
      split
      · refine (asked_close c.port).bind fun p hp => ?_
        exact hp.trans (List.append_nil _).symm
      · exact (List.append_nil _).symm
  | finish => exact (List.append_nil _).symm

theorem asked_processMessage (c : ClientThread S) (d : Draw) (indicate : Bool) (m : Segment) :
    Yields (fun c' => asked c'.port = asked c.port ++
      (if m = .established then some d.replyLength else none).toList)
      (c.processMessage d indicate m) := by
  cases m with
  | syn => exact (List.append_nil _).symm
  | established => exact asked_sendRequest _ d
  | data m =>
      refine (asked_scheduleAt (c.port.record (.arrived m))).bind fun p hp => ?_
      rw [asked_record c.port rfl] at hp
      exact hp.trans (List.append_nil _).symm
  | fin =>
      show Yields (fun c' : ClientThread S => asked c'.port = asked c.port ++ []) _
      unfold ClientThread.processMessage
      dsimp only
      split
      · exact (List.append_nil _).symm
      · exact (List.append_nil _).symm

theorem asked_socketClosed (c : ClientThread S) :
    Yields (fun c' => asked c'.port = asked c.port) c.socketClosed := by
  refine (asked_scheduleAt _).bind fun p hp => ?_
  refine Eq.trans hp ?_
  split
  · rfl
  · rfl

/-- A possible action appends what it draws. -/
theorem asked_step {s : Session S} {a : Action} {r : Except Fault (Session S)}
    (h : s.step a = some r) :
    Yields (fun t => asked t.client.port = asked s.client.port ++ (s.drawn a).toList) r := by
  cases a with
  | handshake =>
      have hstep : s.handshake = some r := h
      unfold Session.handshake at hstep
      split at hstep
      · cases hstep
        exact (List.append_nil _).symm
      · cases hstep
  | clientTimer d =>
      have hstep : s.clientTimer d = some r := h
      unfold Session.clientTimer at hstep
      split at hstep
      · cases hstep
        refine (asked_timerExpired _ d).bind ?_
        intro c hc
        exact hc
      · cases hstep
  | toClient d indicate =>
      have hstep : s.toClient d indicate = some r := h
      unfold Session.toClient at hstep
      split at hstep
      · cases hstep
      · rename_i m rest hout
        -- the length of a reply is drawn when the connection is established
        have hdrawn : s.drawn (.toClient d indicate) =
            if m = .established then some d.replyLength else none := by
          unfold Session.drawn
          rw [hout]
          simp
        dsimp only at hstep
        split at hstep
        · cases hstep
          exact fun h => h
        · cases hstep
          rw [hdrawn]
          refine (asked_processMessage _ d indicate m).bind ?_
          intro c hc
          exact hc
  | closeClient =>
      have hstep : s.closeClient = some r := h
      unfold Session.closeClient at hstep
      split at hstep
      · split at hstep
        · cases hstep
          exact fun h => h
        · cases hstep
          refine (asked_socketClosed _).bind ?_
          intro c hc
          exact hc.trans (List.append_nil _).symm
      · cases hstep
  | serverTimer =>
      have hstep : s.serverTimer = some r := h
      unfold Session.serverTimer at hstep
      split at hstep
      · cases hstep
        refine (Ensures.of_never (fun _ h => h) _).bind ?_
        intro v _
        exact (List.append_nil _).symm
      · cases hstep
  | toServer indicate =>
      have hstep : s.toServer indicate = some r := h
      unfold Session.toServer at hstep
      split at hstep
      · cases hstep
      · cases hstep
      · cases hstep
        refine (Ensures.of_never (fun _ h => h) _).bind ?_
        intro v _
        exact (List.append_nil _).symm
  | closeServer =>
      have hstep : s.closeServer = some r := h
      unfold Session.closeServer at hstep
      split at hstep
      · cases hstep
        exact (List.append_nil _).symm
      · cases hstep

/-- Along a run, all requests ask for a reply just when each step does. -/
theorem asked_run {s : Session S} {tr : List (Action × Session S)}
    (hrun : (sessions S N).Run s tr) :
    0 ∉ asked (TSys.finish s tr).client.port ↔
      0 ∉ asked s.client.port ∧ TSys.Guarded AsksReply s tr := by
  -- `asked` only grows, so the first step and the rest can be judged apart
  induction tr generalizing s with
  | nil => exact (and_iff_left trivial).symm
  | cons at' rest ih =>
      obtain ⟨a, t⟩ := at'
      obtain ⟨hstep, hrest⟩ := hrun
      have hasked : asked t.client.port = asked s.client.port ++ (s.drawn a).toList :=
        asked_step hstep
      have hthis : 0 ∉ asked t.client.port ↔ 0 ∉ asked s.client.port ∧ AsksReply s a := by
        rw [hasked, List.mem_append, not_or]
        refine and_congr_right fun _ => ?_
        rw [Option.mem_toList]
        exact Iff.rfl
      show 0 ∉ asked (TSys.finish t rest).client.port ↔ _ ∧ AsksReply s a ∧ _
      rw [ih hrest, hthis, and_assoc]

/-! ## At rest -/

theorem ClientBooks.zero_not_asked {p : Port S} {n : Nat} (h : ClientBooks N p.log n none) :
    0 ∉ asked p := by
  intro hzero
  obtain ⟨m, hm, hlen⟩ := List.mem_map.mp hzero
  cases h.replied m hm hlen

theorem Stage.reported_iff {s : Session S} (hs : Stage Open N s) (hq : Quiescent s) :
    s.Reported ↔ 0 ∉ asked s.client.port := by
  cases hs with
  | waiting => cases hq.clientTimer
  | connecting => cases hq.toServer
  | opening => cases hq.toClient
  | requesting _ present => cases present <;> cases hq.toServer
  | replying => cases hq.serverTimer
  | answered => cases hq.toClient
  | pausing => cases hq.clientTimer
  | closing _ _ clientFin serverFin clientClosed _ removed hc =>
      -- both `fin`s have arrived, both sides know, and the last timer has expired
      have hclientFin : clientFin = true := by
        cases clientFin with
        | true => rfl
        | false => cases hq.toClient
      have hserverFin : serverFin = true := by
        cases serverFin with
        | true => rfl
        | false => cases hq.toServer
      subst hclientFin hserverFin
      obtain ⟨hclosed, -⟩ := hq.indications rfl
      have htimer := hq.clientTimer
      have hclosed' : clientClosed = true := hclosed
      subst hclosed'
      refine iff_of_true ?_ (ClientBooks.zero_not_asked hc)
      cases removed with
      | none => cases htimer
      | some stat => rfl
  | stuck _ m hc _ hzero =>
      refine iff_of_false (fun h => by cases h) fun h => h ?_
      exact List.mem_map.mpr ⟨m, hc.sent m rfl, hzero⟩

/-- A run that comes to rest has its client removed, with the statistics reported,
just when each request it sent asks for a reply. -/
theorem reported_iff_asksReply (C : S.Contract Open) {tr : List (Action × Session S)}
    (hrun : (sessions S N).Run (.start S N) tr) (hq : Quiescent (TSys.finish (.start S N) tr)) :
    (TSys.finish (.start S N) tr).Reported ↔ TSys.Guarded AsksReply (.start S N) tr := by
  have hreach := (hrun.reachable (.init rfl)).last
  have hstart : 0 ∉ asked (Session.start S N).client.port := by
    intro h
    cases h
  rw [(stage_invariant C _ hreach).reported_iff hq, asked_run hrun]
  exact and_iff_right hstart

theorem reported_oneRequest :
    (TSys.finish (.start inetSocket 1)
        (TSys.trace Session.next (.start inetSocket 1) oneRequest)).Reported ∧
      TSys.Guarded AsksReply (.start inetSocket 1)
        (TSys.trace Session.next (.start inetSocket 1) oneRequest) := by
  have hq : Quiescent (TSys.finish (.start inetSocket 1)
      (TSys.trace Session.next (.start inetSocket 1) oneRequest)) := by
    refine ⟨?_, ?_, ?_, ?_, ?_⟩ <;> decide +kernel
  have hreported : (TSys.finish (.start inetSocket 1)
      (TSys.trace Session.next (.start inetSocket 1) oneRequest)).Reported := by
    unfold Session.Reported
    decide +kernel
  exact ⟨hreported,
    (reported_iff_asksReply inetSocket_contract (run_session 1 oneRequest) hq).mp hreported⟩

/-- The only request of a session is drawn with the reply length zero. -/
def noReply : List Action :=
  [.clientTimer ⟨10, 0, 0⟩, .handshake, .toClient ⟨10, 0, 0⟩ true, .toServer true, .toServer true]

/-- The session comes to rest with both threads there: the server has taken the
last request and does not close. -/
theorem session_stuck :
    let s := TSys.finish (.start inetSocket 1)
      (TSys.trace Session.next (.start inetSocket 1) noReply)
    (sessions inetSocket 1).Reachable s ∧ Quiescent s ∧ s.server.doClose = true ∧
      ¬ s.Reported := by
  refine ⟨((run_session 1 noReply).reachable (.init rfl)).last, ⟨?_, ?_, ?_, ?_, ?_⟩, ?_, ?_⟩
  · decide
  · decide
  · decide
  · decide
  · decide
  · decide
  · unfold Session.Reported
    decide

end ScadaSim.TcpApp
