import ScadaSim.UdpApp.ThreadTable

/-!
# What happens to a client thread

A client thread is driven by its timer, by last messages of its server and by ICMP
errors; the last two reach it through the application.

* the callbacks: where the thread stands after so many requests, `Stands`, and, if only
  its timer has driven it, after so many expiries, `Driven`;
* a step of the application does one of five things to the thread, `Touched`;
* whatever is done, no message is scheduled that is scheduled already.
-/

namespace ScadaSim.UdpApp

open Lib Traffic

variable {U : UDPSocket}

/-! ## The callbacks -/

theorem scheduleAt_set (selfMsg : Bool) (delay : Rat) :
    Post (· = true) (scheduleAt selfMsg delay) := by
  unfold scheduleAt
  split
  · exact Post.error _
  · split
    · exact Post.error _
    · rfl

namespace ClientThread

/-- Where a thread stands that has sent so many of the `N` requests of its session. -/
def Stands (N : Int) (requests : Nat) (c : ClientThread U) : Prop :=
  match c.threadState with
  | .connected => c.noRequestsToSend = N - requests ∧ (requests = 0 ∨ (requests : Int) < N)
  | .disconnected => (requests : Int) = max 1 N
  | .finish => (requests : Int) ≤ max 1 N

/-- The same for its timer, as long as nothing else has driven it. -/
def Driven (N : Int) (requests expiries : Nat) (c : ClientThread U) : Prop :=
  match c.threadState with
  | .connected | .disconnected => expiries = requests
  | .finish => (requests : Int) = max 1 N ∧ expiries = requests + 1

theorem Stands.le {N : Int} {requests : Nat} {c : ClientThread U} (h : c.Stands N requests) :
    (requests : Int) ≤ max 1 N := by
  unfold Stands at h
  split at h
  · omega
  · omega
  · exact h

theorem Driven.eq_min {N : Int} {requests expiries : Nat} {c : ClientThread U}
    (hstands : c.Stands N requests) (h : c.Driven N requests expiries) :
    (requests : Int) = min (expiries : Int) (max 1 N) ∧ (expiries : Int) < max 1 N + 2 := by
  have hle := hstands.le
  unfold Driven at h
  split at h
  · omega
  · omega
  · omega

/-- The timer sends a request, waits for the end of the session, or ends it. -/
theorem timerExpired_cases (c : ClientThread U) (draws : Nat → Draw) :
    Post (fun r =>
      (c.threadState = .connected ∧ r.removal = .none ∧ r.thread.selfMsg = true ∧
        r.thread.noRequestsToSend = int32 (c.noRequestsToSend - 1) ∧
        r.thread.threadState =
          if int32 (c.noRequestsToSend - 1) ≤ 0 then .disconnected else .connected) ∨
      (c.threadState = .disconnected ∧ r.removal = .none ∧ r.thread.selfMsg = true ∧
        r.thread.threadState = .finish) ∨
      (c.threadState = .finish ∧ ∃ stat, r.removal = .removeThreadWith stat))
      (c.timerExpired draws) := by
  unfold timerExpired
  cases hstate : c.threadState with
  | connected =>
      show Post _ (c.sendRequest draws)
      unfold sendRequest
      refine Post.bind_any fun socket => ?_
      refine (scheduleAt_set _ _).bind fun selfMsg hself => ?_
      refine .inl ⟨rfl, rfl, hself, rfl, ?_⟩
      show (if int32 (c.noRequestsToSend - 1) ≤ 0 then _ else c.threadState) = _
      rw [hstate]
  | disconnected =>
      refine (scheduleAt_set _ _).bind fun selfMsg hself => ?_
      exact .inr (.inl ⟨rfl, rfl, hself, rfl⟩)
  | finish => exact .inr (.inr ⟨rfl, _, rfl⟩)

/-- A last message pulls the thread to its end, or does nothing. -/
theorem socketDatagramArrived_cases (c : ClientThread U) (draws : Nat → Draw) :
    Post (fun c' => c' = c ∨ (c'.threadState = .finish ∧ c'.selfMsg = true))
      (c.socketDatagramArrived draws) := by
  unfold socketDatagramArrived
  split
  · refine (scheduleAt_set _ _).bind fun selfMsg hself => ?_
    exact .inr ⟨rfl, hself⟩
  · exact .inl rfl

/-- A request more; the counter has come down to zero just after the last one. -/
theorem Stands.request {N : Int} (hN : -2147483648 < N) (hN' : N < 2147483648) {requests : Nat}
    {c c' : ClientThread U} (h : c.Stands N requests) (hstate : c.threadState = .connected)
    (hleft : c'.noRequestsToSend = int32 (c.noRequestsToSend - 1))
    (hstate' : c'.threadState =
      if int32 (c.noRequestsToSend - 1) ≤ 0 then .disconnected else .connected) :
    c'.Stands N (requests + 1) ∧ c'.threadState ≠ .finish := by
  unfold Stands at h
  rw [hstate] at h
  obtain ⟨hcount, hopen⟩ := h
  have hnext : int32 (c.noRequestsToSend - 1) = N - (requests + 1) := by
    rw [hcount, int32_eq (by omega) (by omega)]
    omega
  rw [hnext] at hleft hstate'
  unfold Stands
  by_cases hdone : N - ((requests : Int) + 1) ≤ 0
  · rw [if_pos hdone] at hstate'
    rw [hstate']
    refine ⟨?_, by simp⟩
    show ((requests + 1 : Nat) : Int) = max 1 N
    push_cast
    omega
  · rw [if_neg hdone] at hstate'
    rw [hstate']
    refine ⟨⟨?_, .inr ?_⟩, by simp⟩
    · push_cast
      exact hleft
    · push_cast
      omega

end ClientThread

/-! ## What a step does to the thread -/

namespace Action

/-- The thread whose timer expires. -/
def timerOf : Action → Option ThreadPtr
  | .timer p _ => some p
  | _ => none

/-- The transmission that is started. -/
def starts : Action → Option Nat
  | .transmissionStart _ _ transmission .. => some transmission
  | _ => none

end Action

def Sent.isRequest : Sent → Bool
  | .request _ => true
  | _ => false

namespace GenericUDPApplication

/-- The thread that an ICMP error, a last message or a removal is about. -/
def addressee (app : GenericUDPApplication U) : Action → Option ThreadPtr
  | .error (some ctrl) => (app.threadMap.lookup ctrl.sockId).map ThreadInfo.thread
  | .message (some ctrl) (some appmsg) _ _ _ =>
      if appmsg.packetNumber ≠ 1 ∧ appmsg.last = true then
        (app.threadMap.lookup ctrl.sockId).map ThreadInfo.thread
      else none
  | .removeThread p => some p
  | _ => none

/-- What can happen to the client thread `c` at `p` in a step. -/
inductive Touched (app : GenericUDPApplication U) (p : ThreadPtr) (c : ClientThread U) :
    Action → Effect U → Prop
  | expired {draws : Nat → Draw} {r : Reaction (ClientThread U)} {e : Effect U} :
      ClientThread.timerExpired { c with selfMsg := false } draws = .ok r →
        r.removal = .none → e.app.threads.lookup p = some (.client r.thread) →
        e.sent.isRequest = decide (c.threadState = .connected) → Touched app p c (.timer p draws) e
  | ended {draws : Nat → Draw} {e : Effect U} :
      c.threadState = .finish → e.app.threads.lookup p = none → e.sent.isRequest = false →
        Touched app p c (.timer p draws) e
  | last {a : Action} {draws : Nat → Draw} {c' : ClientThread U} {e : Effect U} :
      a.timerOf ≠ some p → app.addressee a = some p → c.socketDatagramArrived draws = .ok c' →
        e.app.threads.lookup p = some (.client c') → Touched app p c a e
  | removed {a : Action} {e : Effect U} :
      a.timerOf ≠ some p → app.addressee a = some p → e.app.threads.lookup p = none →
        Touched app p c a e
  | untouched {a : Action} {e : Effect U} :
      a.timerOf ≠ some p → e.app.threads.lookup p = app.threads.lookup p → Touched app p c a e

section Touched

variable {app : GenericUDPApplication U} {p : ThreadPtr} {c : ClientThread U}

theorem removeThread_lookup (app : GenericUDPApplication U) (p q : ThreadPtr) :
    Post (fun app' => app'.threads.lookup p = if p = q then none else app.threads.lookup p)
      (app.removeThread q) := by
  refine (app.removeThread_spec q).mono ?_
  rintro _ ⟨t, mySocket, -, -, rfl, -⟩
  show (app.threads.erase q).lookup p = _
  by_cases hp : p = q
  · rw [if_pos hp, hp]
    exact AList.lookup_erase _ _
  · rw [if_neg hp]
    exact AList.lookup_erase_ne hp

/-- The timer of another thread. -/
theorem timerExpired_other {q : ThreadPtr} (hq : p ≠ q) (draws : Nat → Draw) :
    Post (fun e => e.app.threads.lookup p = app.threads.lookup p) (app.timerExpired q draws) := by
  have hset (t : Thread U) : (app.setThread q t).threads.lookup p = app.threads.lookup p :=
    AList.lookup_insert_ne hq
  have hremove (t : Thread U) :
      Post (fun app' => app'.threads.lookup p = app.threads.lookup p)
        ((app.setThread q t).removeThread q) :=
    (removeThread_lookup _ p q).mono fun app' h => by
      rw [h, if_neg hq]
      exact hset t
  unfold timerExpired
  split
  · exact Post.error _
  · refine Post.bind_any fun r => ?_
    split
    · exact hset _
    · exact silent (hremove _)
  · refine Post.bind_any fun r => ?_
    split
    · exact (hremove _).bind fun _ h => h
    · exact hset _

theorem timerExpired_touched (hp : app.threads.lookup p = some (.client c))
    (draws : Nat → Draw) :
    Post (app.Touched p c (.timer p draws)) (app.timerExpired p draws) := by
  unfold timerExpired
  rw [hp]
  refine Post.bind_ok fun r hr => ?_
  rcases (ClientThread.timerExpired_cases _ draws).of_ok hr with
    ⟨hstate, hnone, -⟩ | ⟨hstate, hnone, -⟩ | ⟨hstate, stat, hremoval⟩
  · rw [hnone]
    refine .expired hr hnone (AList.lookup_insert _) ?_
    have hconnected : c.threadState = .connected := hstate
    simp [hconnected, Sent.isRequest]
  · rw [hnone]
    refine .expired hr hnone (AList.lookup_insert _) ?_
    have hdisconnected : c.threadState = .disconnected := hstate
    simp [hdisconnected, Sent.isRequest]
  · rw [hremoval]
    refine (removeThread_lookup _ p p).bind fun app' h => ?_
    rw [if_pos rfl] at h
    exact .ended hstate h rfl

theorem handleError_touched (ctrl : Option UDPControlInfo) :
    Post (app.Touched p c (.error ctrl)) (app.handleError ctrl) := by
  have htimer : (Action.error ctrl).timerOf ≠ some p := nofun
  unfold handleError
  split
  · exact Post.error _
  · rename_i ctrl
    split
    · exact .untouched htimer rfl
    · split
      · exact Post.error _
      · rename_i info hinfo
        have hremove {app' : GenericUDPApplication U}
            (h : app'.threads.lookup p = if p = info.thread then none else app.threads.lookup p)
            (report : Option (Nat × TransmissionStatistics)) :
            app.Touched p c (.error (some ctrl)) { app := app', report := report } := by
          by_cases hthread : p = info.thread
          · rw [if_pos hthread] at h
            refine .removed htimer ?_ h
            simp [addressee, hinfo, hthread]
          · rw [if_neg hthread] at h
            exact .untouched htimer h
        split
        · exact (removeThread_lookup app p _).bind fun app' h => hremove h _
        · split
          · exact (removeThread_lookup app p _).bind fun app' h => hremove h _
          · exact Post.error _

theorem handleAppMessage_touched (hp : app.threads.lookup p = some (.client c))
    (ctrl : Option UDPControlInfo) (appmsg : Option GenericApplicationMessage)
    (draws : Nat → Draw) {sockId : Int} {q : ThreadPtr} (hfresh : app.Fresh sockId q) :
    Post (fun app' => app.Touched p c (.message ctrl appmsg draws sockId q) { app := app' })
      (app.handleAppMessage ctrl appmsg draws sockId q) := by
  have htimer : (Action.message ctrl appmsg draws sockId q).timerOf ≠ some p := nofun
  have hq : p ≠ q := by
    rintro rfl
    exact hfresh.2.1 (mem_of_lookup hp)
  unfold handleAppMessage
  split
  · exact .untouched htimer rfl
  · rename_i appmsg
    split
    · split
      · exact Post.error _
      · refine (app.accept_spec _ _ sockId q).mono ?_
        rintro _ ⟨v, -, -, rfl⟩
        refine .untouched htimer ?_
        show (app.closeWhenFull.threads.insert q _).lookup p = _
        rw [closeWhenFull_threads, AList.lookup_insert_ne hq]
    · rename_i hnumber
      split
      · rename_i hlast
        refine (app.handleLast_spec ctrl draws).mono ?_
        rintro _ ⟨ctrl', info, c₁, c', rfl, hinfo, hc₁, hc', rfl⟩
        by_cases hthread : p = info.thread
        · subst hthread
          rw [hp] at hc₁
          cases hc₁
          refine .last htimer ?_ hc' (AList.lookup_insert _)
          simp [addressee, hinfo, hnumber, hlast]
        · exact .untouched htimer (AList.lookup_insert_ne hthread)
      · exact .untouched htimer rfl

theorem apply_touched (hp : app.threads.lookup p = some (.client c)) {a : Action}
    (ha : app.Enabled a) : Post (app.Touched p c a) (app.apply a) := by
  cases a with
  | timer q draws =>
      by_cases hq : p = q
      · subst hq
        exact timerExpired_touched hp draws
      · exact (timerExpired_other hq draws).mono fun e h =>
          .untouched (by simpa [Action.timerOf] using Ne.symm hq) h
  | error ctrl => exact handleError_touched ctrl
  | message ctrl appmsg draws sockId q =>
      exact (handleAppMessage_touched hp ctrl appmsg draws ha).bind fun _ h => h
  | transmissionStart prof i transmission draws sockId q =>
      refine (app.transmissionStart_spec prof i transmission draws sockId q).bind ?_
      rintro _ ⟨-, c', -, -, rfl⟩
      have hq : p ≠ q := by
        rintro rfl
        exact ha.2.1 (mem_of_lookup hp)
      exact .untouched nofun (AList.lookup_insert_ne hq)
  | removeThread q =>
      refine (removeThread_lookup app p q).bind fun app' h => ?_
      by_cases hq : p = q
      · rw [if_pos hq] at h
        exact .removed nofun (congrArg some hq.symm) h
      · rw [if_neg hq] at h
        exact .untouched nofun h

end Touched

end GenericUDPApplication

/-! ## No message is scheduled twice -/

/-- The computation does not fail because a message is scheduled already. -/
abbrev NotTwice {α : Type} (x : Except Fault α) : Prop :=
  Ensures (· = .alreadyScheduled) (fun _ => True) x

theorem NotTwice.bind {α β : Type} {x : Except Fault α} {f : α → Except Fault β}
    (hx : NotTwice x) (hf : ∀ a, NotTwice (f a)) : NotTwice (x >>= f) :=
  Ensures.bind hx fun a _ => hf a

theorem scheduleAt_notTwice (delay : Rat) : NotTwice (scheduleAt false delay) := by
  unfold scheduleAt
  rw [if_neg Bool.false_ne_true]
  split
  · exact nofun
  · trivial

theorem Socket.bind_notTwice (s : Socket U) (port : Int) : NotTwice (s.bind port) := by
  unfold Socket.bind
  split
  · exact nofun
  · trivial

theorem Socket.connect_notTwice (s : Socket U) (addr : IPvXAddress) (port : Int) :
    NotTwice (s.connect addr port) := by
  unfold Socket.connect
  split
  · exact nofun
  · trivial

theorem Socket.sendAll_notTwice (s : Socket U) (ms : List GenericApplicationMessage) :
    NotTwice (s.sendAll ms) := by
  induction ms generalizing s with
  | nil => trivial
  | cons m rest ih =>
      unfold sendAll
      split
      · exact nofun
      · exact ih _

/-- A timer that expires is no longer scheduled. -/
theorem ClientThread.timerExpired_notTwice (c : ClientThread U) (draws : Nat → Draw) :
    NotTwice (ClientThread.timerExpired { c with selfMsg := false } draws) := by
  unfold ClientThread.timerExpired
  split
  · unfold sendRequest
    refine (Socket.sendAll_notTwice _ _).bind fun socket => ?_
    exact (scheduleAt_notTwice _).bind fun _ => trivial
  · exact (scheduleAt_notTwice _).bind fun _ => trivial
  · trivial

theorem ServerThread.timerExpired_notTwice (v : ServerThread U) :
    NotTwice (ServerThread.timerExpired { v with selfMsg := false }) := by
  have hreply : NotTwice (ServerThread.sendReply { v with selfMsg := false }) := by
    unfold sendReply
    refine (Socket.sendAll_notTwice _ _).bind fun socket => ?_
    exact (scheduleAt_notTwice _).bind fun _ => trivial
  unfold ServerThread.timerExpired
  split
  · exact hreply
  · exact hreply
  · trivial
  · trivial

namespace GenericUDPApplication

variable {app : GenericUDPApplication U}

theorem removeThread_notTwice (app : GenericUDPApplication U) (p : ThreadPtr) :
    NotTwice (app.removeThread p) := by
  unfold removeThread
  split
  · exact nofun
  · split
    · exact nofun
    · dsimp only
      split
      · exact (Socket.bind_notTwice _ _).bind fun _ => trivial
      · trivial

theorem timerExpired_notTwice (app : GenericUDPApplication U) (p : ThreadPtr)
    (draws : Nat → Draw) : NotTwice (app.timerExpired p draws) := by
  unfold timerExpired
  split
  · exact nofun
  · refine (ServerThread.timerExpired_notTwice _).bind fun r => ?_
    split
    · trivial
    · exact (removeThread_notTwice _ p).bind fun _ => trivial
  · refine (ClientThread.timerExpired_notTwice _ draws).bind fun r => ?_
    split
    · exact (removeThread_notTwice _ p).bind fun _ => trivial
    · trivial

theorem handleError_notTwice (app : GenericUDPApplication U) (ctrl : Option UDPControlInfo) :
    NotTwice (app.handleError ctrl) := by
  unfold handleError
  split
  · exact nofun
  · split
    · trivial
    · split
      · exact nofun
      · split
        · exact (app.removeThread_notTwice _).bind fun _ => trivial
        · split
          · exact (app.removeThread_notTwice _).bind fun _ => trivial
          · exact nofun

theorem handleAppMessage_notTwice (app : GenericUDPApplication U) (ctrl : Option UDPControlInfo)
    (appmsg : Option GenericApplicationMessage) (draws : Nat → Draw) (sockId : Int)
    (q : ThreadPtr) : NotTwice (app.handleAppMessage ctrl appmsg draws sockId q) := by
  unfold handleAppMessage
  split
  · trivial
  · split
    · split
      · exact nofun
      · -- a new server thread has not scheduled anything
        unfold accept
        refine (Socket.bind_notTwice _ _).bind fun bound => ?_
        refine (Socket.connect_notTwice _ _ _).bind fun socket => ?_
        split
        · exact nofun
        · refine NotTwice.bind ?_ fun _ => trivial
          exact (scheduleAt_notTwice _).bind fun _ => trivial
    · split
      · unfold handleLast
        split
        · exact nofun
        · split
          · exact nofun
          · split
            · exact nofun
            · split
              · -- the timer is cancelled first
                refine NotTwice.bind ?_ fun _ => trivial
                unfold ClientThread.socketDatagramArrived
                split
                · exact (scheduleAt_notTwice _).bind fun _ => trivial
                · trivial
              · exact nofun
      · trivial

theorem apply_notTwice (app : GenericUDPApplication U) (a : Action) : NotTwice (app.apply a) := by
  cases a with
  | timer p draws => exact app.timerExpired_notTwice p draws
  | error ctrl => exact app.handleError_notTwice ctrl
  | message ctrl appmsg draws sockId q =>
      exact (app.handleAppMessage_notTwice ctrl appmsg draws sockId q).bind fun _ => trivial
  | transmissionStart p i transmission draws sockId q =>
      refine NotTwice.bind ?_ fun _ => trivial
      unfold transmissionStart
      split
      · exact nofun
      · refine (Socket.bind_notTwice _ _).bind fun socket => ?_
        refine NotTwice.bind ?_ fun _ => trivial
        unfold ClientThread.init
        refine (Socket.connect_notTwice _ _ _).bind fun socket => ?_
        exact (scheduleAt_notTwice _).bind fun _ => trivial
  | removeThread p => exact (app.removeThread_notTwice p).bind fun _ => trivial

end GenericUDPApplication

end ScadaSim.UdpApp
