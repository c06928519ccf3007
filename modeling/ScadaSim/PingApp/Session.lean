import Mathlib.Data.List.Perm.Subperm
import ScadaSim.Lib.TSys
import ScadaSim.PingApp.Application

/-!
# Ping sessions

The ping application and a network that loses, delays and reorders the pings and their
echoes. The history stands beside the state, the latest entry first.

A pong carries the number of the application, not of the transmission. So a report counts
the pings of its transmission exactly, but every pong that has come in since the start,
be it the answer to an earlier transmission: `Reported`.
-/

namespace ScadaSim.PingApp

open Lib Traffic
open UdpApp (Fault scheduleAt SELF_CALL_DELAY)

deriving instance DecidableEq for PingPayload

inductive Entry
  | starts (transmission : Nat) (requests : Int)
  | sends (payload : PingPayload)
  | pong (payload : PingPayload)
  | reports (transmission : Nat) (stat : TransmissionStatistics)
  deriving DecidableEq

/-- The user starts a transmission, the timer expires, the echo of a ping comes back, a ping
or its echo is lost, or something arrives that is no answer. -/
inductive Event
  | start (p : TrafficProfile) (i : TargetInfo) (transmission : Nat) (draws : Nat → Draw)
  | timer (draws : Nat → Draw)
  | echo (payload : PingPayload)
  | loses (payload : PingPayload)
  | message (msg : Option PingPayload)

structure World where
  app : GenericICMPPingApplication
  flight : List PingPayload := []
  history : List Entry := []
  fault : Option Fault := none

namespace World

/-- What an expiry of the timer puts into the history. -/
def entries (e : Effect) : List Entry :=
  (e.ping.map fun ping => Entry.sends ping.payload).toList ++
    (e.report.map fun r => Entry.reports r.1 r.2).toList

/-- What one event does, where it can happen. An echo has the payload of its ping. -/
def handle (w : World) : Event → Option (Except Fault World)
  | .start p i transmission draws =>
      some ((w.app.transmissionStart p i transmission draws).map fun app => { w with
        app := app
        history := .starts transmission app.noRequestsToSend :: w.history })
  | .timer draws =>
      if w.app.selfMsg then
        some ((w.app.timerExpired draws).map fun e => { w with
          app := e.app
          flight := (e.ping.map Ping.payload).toList ++ w.flight
          history := entries e ++ w.history })
      else none
  | .echo payload =>
      if payload ∈ w.flight then
        some (.ok { w with
          app := w.app.receivePong (some payload)
          flight := w.flight.erase payload
          history := .pong payload :: w.history })
      else none
  | .loses payload =>
      if payload ∈ w.flight then some (.ok { w with flight := w.flight.erase payload }) else none
  | .message msg =>
      if ∀ payload ∈ msg, payload.originatorId ≠ w.app.id then
        some (.ok { w with app := w.app.receivePong msg })
      else none

/-- An error ends the simulation. -/
def settle (w : World) : Except Fault World → World
  | .ok w' => w'
  | .error e => { w with fault := some e }

def next (w : World) (e : Event) : Option World :=
  match w.fault with
  | none => (w.handle e).map w.settle
  | some _ => none

end World

/-- From the construction of the application on. -/
def system : TSys World Event where
  init w := ∃ id myAddr, w = { app := { id := id, myAddr := myAddr } }
  step w e w' := w.next e = some w'

/-! ## The session -/

/-- The transmission that was started last and has not been reported, with its requests. -/
def current : List Entry → Option (Nat × Int)
  | [] => none
  | .starts transmission requests :: _ => some (transmission, requests)
  | .reports _ _ :: _ => none
  | .sends _ :: past => current past
  | .pong _ :: past => current past

/-- The pings since the last start. -/
def pings : List Entry → List PingPayload
  | [] => []
  | .starts _ _ :: _ => []
  | .sends payload :: past => payload :: pings past
  | .pong _ :: past => pings past
  | .reports _ _ :: past => pings past

/-- The pongs since the last start. -/
def pongs : List Entry → List PingPayload
  | [] => []
  | .starts _ _ :: _ => []
  | .sends _ :: past => pongs past
  | .pong payload :: past => payload :: pongs past
  | .reports _ _ :: past => pongs past

def bytes (payloads : List PingPayload) : Int := (payloads.map PingPayload.byteLength).sum

/-- The pings that were ever sent, and the pongs that ever came. -/
def allPings (history : List Entry) : List PingPayload :=
  history.filterMap fun e => match e with | .sends payload => some payload | _ => none

def allPongs (history : List Entry) : List PingPayload :=
  history.filterMap fun e => match e with | .pong payload => some payload | _ => none

/-- What a report says. Where the requests are not negative there is one ping for each. -/
structure Reported (past : List Entry) (transmission : Nat) (stat : TransmissionStatistics) :
    Prop where
  requests : ∃ requests, current past = some (transmission, requests) ∧
    ((pings past).length : Int) = requests % 4294967296
  stat : stat = .ofInts (int32 (bytes (pings past))) (int32 (bytes (pongs past)))
    (int32 (pings past).length) (int32 (pongs past).length)

/-- So do all reports. -/
def Truthful : List Entry → Prop
  | [] => True
  | .reports transmission stat :: past => Reported past transmission stat ∧ Truthful past
  | .starts _ _ :: past => Truthful past
  | .sends _ :: past => Truthful past
  | .pong _ :: past => Truthful past

/-- The reports are right, the pings are numbered from 0 on, the timer is pending just while
a transmission is under way, and every pong answers a ping of its own. -/
structure Session (w : World) : Prop where
  truthful : Truthful w.history
  numbers : (pings w.history).map PingPayload.seqNo =
    (List.range (pings w.history).length).reverse.map fun k : Nat => int32 k
  timer : w.app.selfMsg = true ↔ (current w.history).isSome
  answered : (allPongs w.history ++ w.flight).Subperm (allPings w.history)

/-! ## The steps of the application -/

theorem scheduleAt_ok {selfMsg selfMsg' : Bool} {delay : Rat}
    (h : scheduleAt selfMsg delay = .ok selfMsg') : selfMsg = false ∧ selfMsg' = true := by
  unfold scheduleAt at h
  split at h
  · cases h
  · rename_i hnot
    split at h
    · cases h
    · cases h
      exact ⟨Bool.eq_false_iff.mpr hnot, rfl⟩

/-- The counters after a history. -/
structure Counted (app : GenericICMPPingApplication) (history : List Entry) : Prop where
  sent : app.noPacketSend = int32 (pings history).length
  bytesSent : app.noBytesSend = int32 (bytes (pings history))
  received : app.noPacketReceived = int32 (pongs history).length
  bytesReceived : app.noBytesReceived = int32 (bytes (pongs history))

/-- So many of the requests are left. -/
def Open (app : GenericICMPPingApplication) (history : List Entry) : Prop :=
  ∀ transmission requests, current history = some (transmission, requests) →
    app.transmission = transmission ∧
      app.noRequestsToSend = int32 (requests - (pings history).length) ∧
      ((pings history).length : Int) ≤ requests % 4294967296

/-- What holds of the application between two events. -/
structure Kept (w : World) : Prop where
  session : Session w
  counted : Counted w.app w.history
  isOpen : Open w.app w.history
  own : ∀ payload ∈ w.flight, payload.originatorId = w.app.id

open GenericICMPPingApplication

variable {w : World} {app : GenericICMPPingApplication}

/-- An expiry of the timer sends a ping, where requests are left, and reports otherwise. -/
theorem timerExpired_cases {draws : Nat → Draw} {e : Effect}
    (h : app.timerExpired draws = .ok e) :
    (app.noRequestsToSend ≠ 0 ∧ ∃ ping : Ping, e.ping = some ping ∧ e.report = none ∧
      ping.payload.originatorId = app.id ∧ ping.payload.seqNo = app.noPacketSend ∧
      e.app = { app with
        selfMsg := true
        noRequestsToSend := int32 (app.noRequestsToSend - 1)
        noPacketSend := int32 (app.noPacketSend + 1)
        noBytesSend := int32 (app.noBytesSend + ping.payload.byteLength) }) ∨
    (app.noRequestsToSend = 0 ∧ e.ping = none ∧
      e.report = some (app.transmission,
        .ofInts app.noBytesSend app.noBytesReceived app.noPacketSend app.noPacketReceived) ∧
      e.app = { app with
        selfMsg := false, noRequestsToSend := int32 (app.noRequestsToSend - 1) }) := by
  unfold timerExpired at h
  dsimp only at h
  split at h
  · rename_i hleft
    match hs : scheduleAt false (app.curProfile.getTimeBetweenRequests true (draws 1)) with
    | .error _ =>
        rw [hs] at h
        cases h
    | .ok selfMsg =>
        rw [hs] at h
        obtain ⟨-, rfl⟩ := scheduleAt_ok hs
        cases h
        exact .inl ⟨hleft, _, rfl, rfl, rfl, rfl, rfl⟩
  · rename_i hleft
    cases h
    exact .inr ⟨not_not.mp hleft, rfl, rfl, rfl⟩

theorem transmissionStart_ok {p : TrafficProfile} {i : TargetInfo} {transmission : Nat}
    {draws : Nat → Draw} {app' : GenericICMPPingApplication}
    (h : app.transmissionStart p i transmission draws = .ok app') :
    app.selfMsg = false ∧ app' = { app with
      transmission := transmission
      curProfile := p
      curTarget := i
      noRequestsToSend := p.getRequestsPerSession true (draws 0)
      noBytesSend := 0
      noBytesReceived := 0
      noPacketSend := 0
      noPacketReceived := 0
      selfMsg := true } := by
  unfold transmissionStart at h
  match hs : scheduleAt app.selfMsg SELF_CALL_DELAY with
  | .error _ =>
      rw [hs] at h
      cases h
  | .ok selfMsg =>
      rw [hs] at h
      obtain ⟨hidle, rfl⟩ := scheduleAt_ok hs
      cases h
      exact ⟨hidle, rfl⟩

/-! ## The events -/

theorem Kept.starts (h : Kept w) {p : TrafficProfile} {i : TargetInfo} {transmission : Nat}
    {draws : Nat → Draw} (hstart : w.app.transmissionStart p i transmission draws = .ok app) :
    Kept { w with
      app := app
      history := .starts transmission app.noRequestsToSend :: w.history } := by
  obtain ⟨-, rfl⟩ := transmissionStart_ok hstart
  refine ⟨⟨h.session.truthful, rfl, ⟨fun _ => rfl, fun _ => rfl⟩, h.session.answered⟩,
    ⟨int32_zero.symm, int32_zero.symm, int32_zero.symm, int32_zero.symm⟩, ?_, h.own⟩
  intro transmission' requests hcurrent
  cases hcurrent
  refine ⟨rfl, ?_, Int.emod_nonneg _ (by omega)⟩
  show int32 _ = int32 (int32 _ - 0)
  rw [int32_int32_sub, sub_zero]

theorem Kept.sends (h : Kept w) (hpending : w.app.selfMsg = true)
    (hleft : w.app.noRequestsToSend ≠ 0) {ping : Ping}
    (hid : ping.payload.originatorId = w.app.id) (hseq : ping.payload.seqNo = w.app.noPacketSend)
    (happ : app = { w.app with
      selfMsg := true
      noRequestsToSend := int32 (w.app.noRequestsToSend - 1)
      noPacketSend := int32 (w.app.noPacketSend + 1)
      noBytesSend := int32 (w.app.noBytesSend + ping.payload.byteLength) }) :
    Kept { w with
      app := app
      flight := ping.payload :: w.flight
      history := .sends ping.payload :: w.history } := by
  have hsession := h.session
  subst happ
  refine ⟨⟨hsession.truthful, ?_, ?_, ?_⟩, ⟨?_, ?_, h.counted.received, h.counted.bytesReceived⟩,
    ?_, ?_⟩
  · show ping.payload.seqNo :: (pings w.history).map PingPayload.seqNo =
      (List.range ((pings w.history).length + 1)).reverse.map _
    rw [hseq, hsession.numbers, h.counted.sent, List.range_succ, List.reverse_append]
    rfl
  · exact ⟨fun _ => hsession.timer.mp hpending, fun _ => rfl⟩
  · show (allPongs w.history ++ ping.payload :: w.flight).Subperm
      (ping.payload :: allPings w.history)
    exact List.perm_middle.subperm.trans ((List.subperm_cons _).mpr hsession.answered)
  · show int32 (w.app.noPacketSend + 1) = int32 ((pings w.history).length + 1 : Nat)
    rw [h.counted.sent, int32_succ]
  · show int32 (w.app.noBytesSend + ping.payload.byteLength) =
      int32 (ping.payload.byteLength + bytes (pings w.history))
    rw [h.counted.bytesSent, int32_int32_add, add_comm]
  · intro transmission requests hcurrent
    obtain ⟨htransmission, hrequests, hbound⟩ := h.isOpen transmission requests hcurrent
    rw [hrequests] at hleft
    -- a request is left, so that the count of the pings stays below
    have hnot : (requests - (pings w.history).length) % 4294967296 ≠ 0 := by
      intro hzero
      unfold int32 at hleft
      omega
    refine ⟨htransmission, ?_, ?_⟩
    · show int32 (w.app.noRequestsToSend - 1) =
        int32 (requests - ((pings w.history).length + 1 : Nat))
      rw [hrequests, int32_int32_sub]
      congr 1
      omega
    · show (((pings w.history).length + 1 : Nat) : Int) ≤ requests % 4294967296
      omega
  · exact List.forall_mem_cons.mpr ⟨hid, h.own⟩

theorem Kept.reports (h : Kept w) (hpending : w.app.selfMsg = true)
    (hleft : w.app.noRequestsToSend = 0) (happ : app = { w.app with
      selfMsg := false, noRequestsToSend := int32 (w.app.noRequestsToSend - 1) }) :
    Kept { w with
      app := app
      history := .reports w.app.transmission
        (.ofInts w.app.noBytesSend w.app.noBytesReceived w.app.noPacketSend
          w.app.noPacketReceived) :: w.history } := by
  have hsession := h.session
  subst happ
  refine ⟨⟨⟨⟨?_, ?_⟩, hsession.truthful⟩, hsession.numbers,
    ⟨Bool.noConfusion, fun hnone => absurd hnone Bool.false_ne_true⟩, hsession.answered⟩,
    ⟨h.counted.sent, h.counted.bytesSent, h.counted.received, h.counted.bytesReceived⟩,
    fun _ _ hnone => absurd hnone (by exact nofun), h.own⟩
  · obtain ⟨⟨transmission, requests⟩, hcurrent⟩ :=
      Option.isSome_iff_exists.mp (hsession.timer.mp hpending)
    obtain ⟨htransmission, hrequests, hbound⟩ := h.isOpen transmission requests hcurrent
    refine ⟨requests, htransmission ▸ hcurrent, ?_⟩
    rw [hrequests] at hleft
    unfold int32 at hleft
    omega
  · rw [h.counted.sent, h.counted.bytesSent, h.counted.received, h.counted.bytesReceived]

theorem Kept.echo (h : Kept w) {payload : PingPayload} (hmem : payload ∈ w.flight) :
    Kept { w with
      app := w.app.receivePong (some payload)
      flight := w.flight.erase payload
      history := .pong payload :: w.history } := by
  have hsession := h.session
  have happ : w.app.receivePong (some payload) = { w.app with
      noPacketReceived := int32 (w.app.noPacketReceived + 1)
      noBytesReceived := int32 (w.app.noBytesReceived + payload.byteLength) } :=
    if_pos (h.own payload hmem)
  rw [happ]
  refine ⟨⟨hsession.truthful, hsession.numbers, hsession.timer, ?_⟩,
    ⟨h.counted.sent, h.counted.bytesSent, ?_, ?_⟩, h.isOpen,
    fun other hother => h.own other (List.mem_of_mem_erase hother)⟩
  · show (payload :: (allPongs w.history ++ w.flight.erase payload)).Subperm (allPings w.history)
    have hperm : (payload :: (allPongs w.history ++ w.flight.erase payload)).Perm
        (allPongs w.history ++ w.flight) :=
      List.perm_middle.symm.trans ((List.perm_cons_erase hmem).symm.append_left _)
    exact hperm.subperm.trans hsession.answered
  · show int32 (w.app.noPacketReceived + 1) = int32 ((pongs w.history).length + 1 : Nat)
    rw [h.counted.received, int32_succ]
  · show int32 (w.app.noBytesReceived + payload.byteLength) =
      int32 (payload.byteLength + bytes (pongs w.history))
    rw [h.counted.bytesReceived, int32_int32_add, add_comm]

theorem Kept.loses (h : Kept w) (payload : PingPayload) :
    Kept { w with flight := w.flight.erase payload } :=
  ⟨⟨h.session.truthful, h.session.numbers, h.session.timer,
      ((List.erase_sublist.append_left _).subperm).trans h.session.answered⟩,
    ⟨h.counted.sent, h.counted.bytesSent, h.counted.received, h.counted.bytesReceived⟩, h.isOpen,
    fun other hother => h.own other (List.mem_of_mem_erase hother)⟩

theorem Kept.failed (h : Kept w) (e : Fault) : Kept { w with fault := some e } :=
  ⟨⟨h.session.truthful, h.session.numbers, h.session.timer, h.session.answered⟩,
    ⟨h.counted.sent, h.counted.bytesSent, h.counted.received, h.counted.bytesReceived⟩, h.isOpen,
    h.own⟩

theorem receivePong_foreign {msg : Option PingPayload}
    (h : ∀ payload ∈ msg, payload.originatorId ≠ app.id) : app.receivePong msg = app := by
  cases msg with
  | none => rfl
  | some payload => exact if_neg (h payload rfl)

/-! ## The runs -/

theorem Kept.step {e : Event} {w' : World} (h : Kept w) (hstep : w.next e = some w') :
    Kept w' := by
  have hr : ∃ r, w.handle e = some r ∧ w.settle r = w' := by
    unfold World.next at hstep
    split at hstep
    · exact Option.map_eq_some_iff.mp hstep
    · cases hstep
  obtain ⟨r, hr, rfl⟩ := hr
  cases e with
  | start p i transmission draws =>
      obtain rfl := Option.some.inj hr
      cases hstart : w.app.transmissionStart p i transmission draws with
      | error e => exact h.failed e
      | ok app => exact h.starts hstart
  | timer draws =>
      dsimp only [World.handle] at hr
      split at hr
      · rename_i hpending
        obtain rfl := Option.some.inj hr
        cases hexpired : w.app.timerExpired draws with
        | error e => exact h.failed e
        | ok e =>
            obtain ⟨app, ping, report⟩ := e
            obtain ⟨hleft, ping, rfl, rfl, hid, hseq, happ⟩ | ⟨hleft, rfl, rfl, happ⟩ :=
              timerExpired_cases hexpired
            · exact h.sends hpending hleft hid hseq happ
            · exact h.reports hpending hleft happ
      · cases hr
  | echo payload =>
      dsimp only [World.handle] at hr
      split at hr
      · rename_i hmem
        cases hr
        exact h.echo hmem
      · cases hr
  | loses payload =>
      dsimp only [World.handle] at hr
      split at hr
      · cases hr
        exact h.loses payload
      · cases hr
  | message msg =>
      dsimp only [World.handle] at hr
      split at hr
      · rename_i hforeign
        cases hr
        show Kept { w with app := w.app.receivePong msg }
        rw [receivePong_foreign hforeign]
        exact h
      · cases hr

theorem Kept.init (hinit : system.init w) : Kept w := by
  obtain ⟨id, myAddr, rfl⟩ := hinit
  exact ⟨⟨trivial, rfl, ⟨nofun, nofun⟩, List.nil_subperm⟩,
    ⟨int32_zero.symm, int32_zero.symm, int32_zero.symm, int32_zero.symm⟩, nofun, nofun⟩

/-- Whatever comes in, in whatever order, and whenever the timer expires. -/
theorem always_session {tr : List (Event × World)} (hinit : system.init w)
    (hrun : system.Run w tr) : TSys.Always Session w tr :=
  (hrun.always (fun _ _ _ h hstep => h.step hstep) (Kept.init hinit)).mono fun _ h => h.session

/-! The echo of a ping may come when the next transmission is under way. -/

def opened : World := { app := { id := 7, myAddr := 0x0A000001 } }

def server : TargetInfo := ⟨0x0A010001, 0⟩

def packetsOf64 : Nat → Draw := fun _ => ⟨0, 64, 1⟩

/-- Two transmissions of one ping each. -/
def lateEcho : List Event :=
  [.start {} server 0 packetsOf64, .timer packetsOf64, .timer packetsOf64,
    .start {} server 1 packetsOf64, .echo ⟨7, 0, 64⟩, .timer packetsOf64, .echo ⟨7, 0, 64⟩,
    .timer packetsOf64]

theorem always_session_lateEcho :
    TSys.Always Session opened (TSys.trace World.next opened lateEcho) :=
  always_session ⟨7, 0x0A000001, rfl⟩ (TSys.run_trace (fun _ _ _ => id) _ _)

/-- The second one reports two pongs to its ping. -/
example : (TSys.finish opened (TSys.trace World.next opened lateEcho)).history.head? =
    some (.reports 1 (.ofInts 64 128 1 2)) := by
  decide +kernel

end ScadaSim.PingApp
