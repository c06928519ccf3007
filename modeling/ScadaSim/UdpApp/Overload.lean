import ScadaSim.UdpApp.ThreadTable

/-!
# The overload limit of a UDP server

The welcome socket is closed when the last thread that is allowed starts. A
request that arrives on the socket of a thread starts a thread all the same:
the limit holds along a run just when none does so at the limit.
-/

namespace ScadaSim.UdpApp

open Lib GenericUDPApplication

variable {U : UDPSocket}

namespace GenericUDPApplication

/-- The number of server threads that are alive. -/
def serverThreads (app : GenericUDPApplication U) : Nat :=
  (app.threads.entries.filter fun x => Thread.isServer x.2).length

/-- Messages arrive on sockets that are bound: the welcome socket, or one of a thread. -/
def AtOpenSocket (app : GenericUDPApplication U) : Action → Prop
  | .message (some ctrl) _ _ _ _ =>
      (ctrl.sockId = app.mySocket.sockId ∧ app.mySocket.isBound = true) ∨
        ∃ p t, app.threads.lookup p = some t ∧ t.sockId = ctrl.sockId ∧ t.getSocket.isBound = true
  | _ => True

/-- No request arrives on the socket of a thread while the limit is reached. -/
def KeepsLimit (app : GenericUDPApplication U) : Action → Prop
  | .message (some ctrl) (some appmsg) _ _ _ =>
      appmsg.packetNumber = 1 → ctrl.sockId ∈ app.threadMap → app.threadCount < app.maxThreadCount
  | _ => True

theorem Tracked.serverThreads {app : GenericUDPApplication U} (htracked : Tracked app)
    (hwelcome : Welcoming app) : (app.serverThreads : Int) = app.threadCount := by
  have hall : (app.threads.entries.filter fun x => Thread.isServer x.2) = app.threads.entries := by
    rw [List.filter_eq_self]
    intro x hx
    exact hwelcome.threads x.1 x.2 (AList.mem_lookup_iff.mpr hx)
  have hlen := htracked.indexed.length_eq fun _ _ _ _ heq => congrArg ThreadInfo.thread heq
  have hkeys : app.threads.keys.length = app.threads.entries.length := List.length_map ..
  unfold GenericUDPApplication.serverThreads
  rw [hall, htracked.count]
  omega

/-! ## One step -/

theorem count_kept (n m : Int) :
    Kept fun app : GenericUDPApplication U => app.threadCount ≤ n ∧ app.maxThreadCount = m where
  setThread := fun _ _ _ _ h _ _ => h
  removeThread := by
    intro app p h
    refine (app.removeThread_spec p).mono ?_
    rintro _ ⟨t, mySocket, -, -, rfl, -⟩
    refine ⟨?_, h.2⟩
    show app.threadCount - 1 ≤ n
    omega

/-- Only a request that is accepted raises the count. -/
theorem handleAppMessage_count (app : GenericUDPApplication U) (ctrl : Option UDPControlInfo)
    (appmsg : GenericApplicationMessage) (draws : Nat → Traffic.Draw) (sockId : Int)
    (q : ThreadPtr) :
    Post (fun app' => app'.maxThreadCount = app.maxThreadCount ∧
      (appmsg.packetNumber = 1 → ctrl.isSome ∧ app'.threadCount = app.threadCount + 1) ∧
      (appmsg.packetNumber ≠ 1 → app'.threadCount ≤ app.threadCount))
      (app.handleAppMessage ctrl (some appmsg) draws sockId q) := by
  unfold handleAppMessage
  show Post _ (ite _ _ _)
  by_cases hrequest : appmsg.packetNumber = 1
  · rw [if_pos hrequest]
    cases ctrl with
    | none => exact Post.error _
    | some ctrl =>
        refine (app.accept_spec ctrl appmsg sockId q).mono ?_
        rintro _ ⟨v, -, -, rfl⟩
        refine ⟨app.closeWhenFull_maxThreadCount, fun _ => ⟨rfl, ?_⟩, (absurd hrequest ·)⟩
        show app.closeWhenFull.threadCount + 1 = app.threadCount + 1
        rw [closeWhenFull_threadCount]
  · rw [if_neg hrequest]
    have hsame : app.threadCount ≤ app.threadCount ∧ app.maxThreadCount = app.maxThreadCount :=
      ⟨le_refl _, rfl⟩
    split
    · refine ((count_kept _ _).handleLast hsame ctrl draws).mono ?_
      intro app' h
      exact ⟨h.2, (absurd · hrequest), fun _ => h.1⟩
    · exact ⟨rfl, (absurd · hrequest), fun _ => hsame.1⟩

end GenericUDPApplication

/-- A server at whose open sockets messages arrive. -/
def openServer (U : UDPSocket) : TSys (GenericUDPApplication U) Action where
  init := (server U).init
  step := fun app a app' => app.AtOpenSocket a ∧ (server U).step app a app'

/-- What holds of a server all along, over and above its limit. -/
structure Serving (app : GenericUDPApplication U) : Prop where
  tracked : Tracked app
  welcoming : Welcoming app
  limited : 1 ≤ app.maxThreadCount

theorem limited_stable : Stable fun app : GenericUDPApplication U => 1 ≤ app.maxThreadCount where
  setThread := fun _ _ _ _ h _ _ => h
  removeThread := by
    intro app p h
    refine (app.removeThread_spec p).mono ?_
    rintro _ ⟨t, mySocket, -, -, rfl, -⟩
    exact h
  accept := by
    intro app _ q v h _ _ _
    show 1 ≤ app.closeWhenFull.maxThreadCount
    rw [closeWhenFull_maxThreadCount]
    exact h
  transmissionStart := fun _ _ _ _ _ _ h _ _ _ => h

theorem serving_step (C : U.Contract) {app app' : GenericUDPApplication U} {a : Action}
    (h : Serving app) (hstep : (openServer U).step app a app') : Serving app' where
  tracked := server_step tracked_stable h.tracked hstep.2
  welcoming := server_step (welcoming_stable C) h.welcoming hstep.2
  limited := server_step limited_stable h.limited hstep.2

theorem count_of_kept {app app' : GenericUDPApplication U} {x : Except Fault (Effect U)}
    (hkept : ∀ n m, app.threadCount ≤ n ∧ app.maxThreadCount = m →
      Post (fun e => e.app.threadCount ≤ n ∧ e.app.maxThreadCount = m) x)
    (hx : ∃ e, x = .ok e ∧ e.app = app') :
    app'.threadCount ≤ app.threadCount ∧ app'.maxThreadCount = app.maxThreadCount := by
  obtain ⟨e, hok, rfl⟩ := hx
  exact (hkept _ _ ⟨le_refl _, rfl⟩).of_ok hok

/-- One step keeps the limit just when its guard holds. -/
theorem limit_step {app app' : GenericUDPApplication U} {a : Action} (h : Serving app)
    (hlimit : app.threadCount ≤ app.maxThreadCount) (hstep : (openServer U).step app a app') :
    app'.threadCount ≤ app'.maxThreadCount ↔ app.KeepsLimit a := by
  obtain ⟨hopen, ha, hok⟩ := hstep
  cases a with
  | timer p draws =>
      have hcount := count_of_kept
        (fun n m hn => (count_kept n m).timerExpired hn p draws) hok
      refine iff_of_true ?_ trivial
      omega
  | error ctrl =>
      have hcount := count_of_kept
        (fun n m hn => (count_kept n m).handleError hn ctrl) hok
      refine iff_of_true ?_ trivial
      omega
  | message ctrl appmsg draws sockId q =>
      obtain ⟨e, hok, rfl⟩ := hok
      cases appmsg with
      | none =>
          cases hok
          exact iff_of_true hlimit (by cases ctrl <;> trivial)
      | some appmsg =>
          obtain ⟨hmax, hrequest, hother⟩ :=
            (silent (app.handleAppMessage_count ctrl appmsg draws sockId q)).of_ok hok
          rw [hmax]
          -- only the first packet of a transmission makes a thread
          by_cases hone : appmsg.packetNumber = 1
          · obtain ⟨hctrl, hcount⟩ := hrequest hone
            obtain ⟨ctrl, rfl⟩ := Option.isSome_iff_exists.mp hctrl
            constructor
            · intro hle _ _
              omega
            · intro hguard
              -- a packet on the welcome socket finds room, since that one is bound
              rcases hopen with ⟨-, hbound⟩ | ⟨p, t, ht, hsock, -⟩
              · have hroom := (h.welcoming.bound h.limited).mp hbound
                omega
              · have hmem : ctrl.sockId ∈ app.threadMap :=
                  hsock ▸ mem_of_lookup (h.tracked.indexed.entry p t ht)
                have hroom := hguard hone hmem
                omega
          · have hcount := hother hone
            refine iff_of_true (by omega) ?_
            cases ctrl with
            | none => trivial
            | some ctrl => exact (absurd · hone)
  | transmissionStart p i transmission draws sockId q =>
      obtain ⟨e, hok, rfl⟩ := hok
      -- a server that is asked to start a transmission throws
      obtain ⟨hclient, -⟩ :=
        (silent (app.transmissionStart_spec p i transmission draws sockId q)).of_ok hok
      rw [h.welcoming.isServer] at hclient
      cases hclient
  | removeThread p =>
      have hcount := count_of_kept
        (fun n m hn => silent ((count_kept n m).removeThread app p hn)) hok
      refine iff_of_true ?_ trivial
      omega

/-! ## Runs -/

/-- Along a run no more than `maxThreadCount` server threads are alive just when no
request arrives on the socket of a thread at the limit. -/
theorem limit_iff_keepsLimit (C : U.Contract) {app : GenericUDPApplication U}
    (hinit : (openServer U).init app) (hmax : 1 ≤ app.maxThreadCount)
    {tr : List (Action × GenericUDPApplication U)} (hrun : (openServer U).Run app tr) :
    TSys.Always (fun app => (app.serverThreads : Int) ≤ app.maxThreadCount) app tr ↔
      TSys.Guarded KeepsLimit app tr := by
  have hserving : Serving app :=
    ⟨server_tracked app (.init hinit), server_welcoming C app (.init hinit), hmax⟩
  refine hrun.always_iff_guarded (fun _ _ _ h hstep => serving_step C h hstep) ?_ hserving ?_
  · intro s a t h hlimit hstep
    have ht := serving_step C h hstep
    rw [h.tracked.serverThreads h.welcoming] at hlimit
    rw [ht.tracked.serverThreads ht.welcoming]
    exact limit_step h hlimit hstep
  · obtain ⟨port, noThreads, sockId, hok⟩ := hinit
    obtain ⟨-, hcount, -⟩ := (initializeModule_spec true port noThreads sockId).of_ok hok
    rw [hserving.tracked.serverThreads hserving.welcoming, hcount]
    omega

/-! ### A server with one thread -/

/-- The server after its initialization. -/
def oneThreadServer : GenericUDPApplication inetSocket where
  isServer := true
  port := 80
  maxThreadCount := 1
  threadCount := 0
  mySocket := ⟨0, ⟨true, false⟩⟩
  threadMap := ∅
  threads := ∅

/-- Two requests, the second one on the socket of the thread that the first one starts. -/
def twoRequests : List (Action × GenericUDPApplication inetSocket) :=
  TSys.trace GenericUDPApplication.next oneThreadServer [requestAt 0 1 0, requestAt 1 2 1]

theorem twoRequests_run : (openServer inetSocket).Run oneThreadServer twoRequests :=
  ⟨⟨.inl ⟨rfl, rfl⟩, next_spec rfl⟩, ⟨.inr ⟨0, _, rfl, rfl, rfl⟩, next_spec rfl⟩, trivial⟩

theorem oneThreadServer_init : (openServer inetSocket).init oneThreadServer :=
  ⟨80, 1, 0, rfl⟩

/-- One thread is allowed, two are alive. -/
theorem two_threads_one_allowed :
    (openServer inetSocket).init oneThreadServer ∧ 1 ≤ oneThreadServer.maxThreadCount ∧
      (openServer inetSocket).Run oneThreadServer twoRequests ∧
      ¬ TSys.Always (fun app => (app.serverThreads : Int) ≤ app.maxThreadCount)
        oneThreadServer twoRequests := by
  refine ⟨oneThreadServer_init, le_refl _, twoRequests_run, ?_⟩
  intro h
  exact absurd h.last (by decide)

theorem limit_twoRequests :
    TSys.Always (fun app => (app.serverThreads : Int) ≤ app.maxThreadCount)
        oneThreadServer twoRequests ↔
      TSys.Guarded KeepsLimit oneThreadServer twoRequests :=
  limit_iff_keepsLimit inetSocket_contract oneThreadServer_init (le_refl _) twoRequests_run

end ScadaSim.UdpApp
