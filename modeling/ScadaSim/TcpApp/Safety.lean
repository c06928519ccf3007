import ScadaSim.TcpApp.Stage

/-!
# Safety of a session

Every state a session can reach is `Safe`: the logs of both sides meet their
conditions, and no action that is possible fails.
-/

namespace ScadaSim.TcpApp

open Lib

variable {S : TCPSocket} {Open : S.State → Prop} {N : Nat}

/-- The two sides have kept to the protocol so far, and will with the next action:
in particular no `selfMsg` is scheduled twice. -/
structure Safe (N : Nat) (s : Session S) : Prop where
  client : Each (ClientCond N) s.client.port.log
  server : Each ServerCond s.server.port.log
  requests : (sentIn s.client.port.log).length ≤ max 1 N
  faultless : ∀ a f, s.step a ≠ some (.error f)

theorem Stage.clientBooks {s : Session S} (hs : Stage Open N s) :
    ∃ n outstanding, ClientBooks N s.client.port.log n outstanding := by
  cases hs with
  | waiting => exact ⟨_, _, clientBooks_nil N⟩
  | connecting => exact ⟨_, _, clientBooks_nil N⟩
  | opening => exact ⟨_, _, clientBooks_nil N⟩
  | requesting _ _ _ _ _ hc => exact ⟨_, _, hc⟩
  | replying _ _ _ _ hc => exact ⟨_, _, hc⟩
  | answered _ _ _ _ hc => exact ⟨_, _, hc⟩
  | pausing _ _ _ _ hc => exact ⟨_, _, hc⟩
  | closing _ _ _ _ _ _ _ hc => exact ⟨_, _, hc⟩
  | stuck _ _ hc => exact ⟨_, _, hc⟩

theorem Stage.serverBooks {s : Session S} (hs : Stage Open N s) :
    ∃ owing, ServerBooks s.server.port.log owing := by
  cases hs with
  | waiting => exact ⟨_, serverBooks_nil⟩
  | connecting => exact ⟨_, serverBooks_nil⟩
  | opening => exact ⟨_, serverBooks_nil⟩
  | requesting _ _ _ _ _ _ hv => exact ⟨_, hv⟩
  | replying _ _ _ _ _ hv => exact ⟨_, hv⟩
  | answered _ _ _ _ _ hv => exact ⟨_, hv⟩
  | pausing _ _ _ _ _ hv => exact ⟨_, hv⟩
  | closing _ _ _ _ _ _ _ _ hv => exact ⟨_, hv⟩
  | stuck _ _ _ hv => exact ⟨_, hv⟩

/-- Whatever is drawn, and in whatever order segments and timers come, the
session is safe. -/
theorem session_safe (C : S.Contract Open) (N : Nat) : (sessions S N).Invariant (Safe N) := by
  intro s hs
  have hstage := stage_invariant C s hs
  obtain ⟨n, outstanding, hc⟩ := hstage.clientBooks
  obtain ⟨owing, hv⟩ := hstage.serverBooks
  refine ⟨hc.safe, hv.safe, ?_, ?_⟩
  · have hrequests := hc.requests
    omega
  · intro a f hfault
    obtain ⟨t, hok, -⟩ := hstage.advances C a _ hfault
    cases hok

/-! ## The sockets of INET -/

inductive SocketState
  | notBound
  | bound
  | listening
  | connecting
  | connected
  | peerClosed
  | locallyClosed
  | closed
  | sockError
  deriving DecidableEq

/-- `TCPSocket`, as its documentation describes it. -/
abbrev inetSocket : TCPSocket where
  State := SocketState
  bound := .bound
  accepted := .connected
  connect := fun s => if s = .notBound ∨ s = .bound then some .connecting else none
  send := fun s => if s = .connected ∨ s = .connecting ∨ s = .peerClosed then some s else none
  close := fun s =>
    if s = .connected then some .locallyClosed
    else if s = .peerClosed ∨ s = .connecting ∨ s = .listening then some .closed else none
  established := fun _ => .connected
  peerClosed := fun s => if s = .locallyClosed then .closed else .peerClosed
  closed := fun _ => .closed
  isLocallyClosed := fun s => s = .locallyClosed
  isClosed := fun s => s = .closed

theorem inetSocket_contract :
    inetSocket.Contract fun s => s = SocketState.connected ∨ s = SocketState.peerClosed := by
  refine ⟨⟨.connecting, rfl⟩, fun _ => .inl rfl, ?_, ?_, ?_, ?_⟩
  · rintro s (rfl | rfl)
    · exact ⟨_, rfl, .inl rfl⟩
    · exact ⟨_, rfl, .inr rfl⟩
  · rintro s (rfl | rfl)
    · exact ⟨_, rfl⟩
    · exact ⟨_, rfl⟩
  · rintro s (rfl | rfl)
    · exact .inr rfl
    · exact .inr rfl
  · rintro s (rfl | rfl)
    · rfl
    · rfl

/-- One request and its reply, and both sides close. -/
def oneRequest : List Action :=
  [.clientTimer ⟨10, 20, 0⟩, .handshake, .toClient ⟨10, 20, 0⟩ true, .toServer true,
    .toServer true, .toClient ⟨10, 20, 0⟩ true, .clientTimer ⟨10, 20, 0⟩, .toServer true,
    .toClient ⟨10, 20, 0⟩ true, .closeServer, .closeClient, .clientTimer ⟨10, 20, 0⟩]

theorem run_session (N : Nat) (labels : List Action) :
    (sessions inetSocket N).Run (.start inetSocket N)
      (TSys.trace Session.next (.start inetSocket N) labels) :=
  TSys.run_trace next_step _ labels

theorem session_safe_oneRequest :
    Safe 1 (TSys.finish (.start inetSocket 1)
        (TSys.trace Session.next (.start inetSocket 1) oneRequest)) ∧
      (TSys.finish (.start inetSocket 1)
        (TSys.trace Session.next (.start inetSocket 1) oneRequest)).client.removed =
          some ⟨10, 20, 1, 1⟩ :=
  ⟨session_safe inetSocket_contract 1 _ ((run_session 1 oneRequest).reachable (.init rfl)).last,
    by decide +kernel⟩

end ScadaSim.TcpApp
