import ScadaSim.Lib.TSys
import ScadaSim.UdpApp.Application

/-!
# The thread table of the UDP application

Whatever happens to an application, its threads change in four ways: one has run
a callback, one is removed, one is added for a request, one for a transmission.
`Stable.apply` says so once, and each invariant is checked against the four.
-/

namespace ScadaSim.UdpApp

open Lib Traffic

namespace GenericUDPApplication

variable {U : UDPSocket}

/-! ## Specifications of the operations -/

@[simp] theorem closeWhenFull_isServer (app : GenericUDPApplication U) :
    app.closeWhenFull.isServer = app.isServer := by
  unfold closeWhenFull
  split <;> rfl

@[simp] theorem closeWhenFull_maxThreadCount (app : GenericUDPApplication U) :
    app.closeWhenFull.maxThreadCount = app.maxThreadCount := by
  unfold closeWhenFull
  split <;> rfl

@[simp] theorem closeWhenFull_threadCount (app : GenericUDPApplication U) :
    app.closeWhenFull.threadCount = app.threadCount := by
  unfold closeWhenFull
  split <;> rfl

@[simp] theorem closeWhenFull_threadMap (app : GenericUDPApplication U) :
    app.closeWhenFull.threadMap = app.threadMap := by
  unfold closeWhenFull
  split <;> rfl

@[simp] theorem closeWhenFull_threads (app : GenericUDPApplication U) :
    app.closeWhenFull.threads = app.threads := by
  unfold closeWhenFull
  split <;> rfl

theorem Fresh.closeWhenFull {app : GenericUDPApplication U} {sockId : Int} {q : ThreadPtr}
    (h : app.Fresh sockId q) : app.closeWhenFull.Fresh sockId q := by
  have hsock : app.closeWhenFull.mySocket.sockId = app.mySocket.sockId := by
    unfold GenericUDPApplication.closeWhenFull
    split <;> rfl
  simpa [Fresh, hsock] using h

/-- The socket is bound anew when the count comes down from the maximum. -/
theorem removeThread_spec (app : GenericUDPApplication U) (p : ThreadPtr) :
    Post (fun app' => ∃ t mySocket, app.threads.lookup p = some t ∧ t.sockId ∈ app.threadMap ∧
      app' = { app with
        threadMap := app.threadMap.erase t.sockId
        threads := app.threads.erase p
        threadCount := app.threadCount - 1
        mySocket := mySocket } ∧
      (app.threadCount = app.maxThreadCount → app.mySocket.bind app.port = .ok mySocket) ∧
      (app.threadCount ≠ app.maxThreadCount → mySocket = app.mySocket))
      (app.removeThread p) := by
  unfold removeThread
  split
  · exact Post.error _
  · rename_i t ht
    split
    · exact Post.error _
    · rename_i info hinfo
      have hmem : t.sockId ∈ app.threadMap := mem_of_lookup hinfo
      by_cases hfull : app.threadCount = app.maxThreadCount
      · rw [if_pos (show app.threadCount - 1 = app.maxThreadCount - 1 by omega)]
        show Post _ (app.mySocket.bind app.port >>= _)
        cases hbind : app.mySocket.bind app.port with
        | error e => exact Post.error e
        | ok mySocket => exact ⟨t, mySocket, ht, hmem, rfl, fun _ => rfl, (absurd hfull ·)⟩
      · rw [if_neg (show ¬ app.threadCount - 1 = app.maxThreadCount - 1 by omega)]
        exact ⟨t, app.mySocket, ht, hmem, rfl, (absurd · hfull), fun _ => rfl⟩

theorem accept_spec (app : GenericUDPApplication U) (ctrl : UDPControlInfo)
    (appmsg : GenericApplicationMessage) (sockId : Int) (q : ThreadPtr) :
    Post (fun app' => ∃ v : ServerThread U, v.Accepted appmsg ∧ v.socket.sockId = sockId ∧
      app' = app.closeWhenFull.addThread q (.server v))
      (app.accept ctrl appmsg sockId q) := by
  unfold accept
  refine (Socket.bind_sockId _ _).bind fun bound hbound => ?_
  refine (Socket.connect_sockId bound _ _).bind fun socket hsocket => ?_
  split
  · exact Post.error _
  · refine Post.bind_ok fun v hv => ?_
    have hsock := ((ServerThread.init socket).socketDatagramArrived_sockId appmsg).of_ok hv
    exact ⟨v, ⟨socket, hv⟩, hsock.trans (hsocket.trans hbound), rfl⟩

theorem transmissionStart_spec (app : GenericUDPApplication U) (p : TrafficProfile)
    (i : TargetInfo) (transmission : Nat) (draws : Nat → Draw) (sockId : Int) (q : ThreadPtr) :
    Post (fun app' => app.isServer = false ∧ ∃ c : ClientThread U, c.Started transmission p i ∧
      c.socket.sockId = sockId ∧ app' = app.addThread q (.client c))
      (app.transmissionStart p i transmission draws sockId q) := by
  unfold transmissionStart
  split
  · exact Post.error _
  · rename_i hserver
    refine (Socket.bind_sockId _ _).bind fun bound hbound => ?_
    refine Post.bind_ok fun c hc => ?_
    have hsock := (ClientThread.init_sockId transmission p i draws bound).of_ok hc
    exact ⟨by simpa using hserver, c, ⟨draws, bound, hc⟩, hsock.trans hbound, rfl⟩

/-- A last message is for the client thread that the map knows for its socket. -/
theorem handleLast_spec (app : GenericUDPApplication U) (ctrl : Option UDPControlInfo)
    (draws : Nat → Draw) :
    Post (fun app' => ∃ ctrl' info c c', ctrl = some ctrl' ∧
      app.threadMap.lookup ctrl'.sockId = some info ∧
      app.threads.lookup info.thread = some (.client c) ∧
      c.socketDatagramArrived draws = .ok c' ∧ app' = app.setThread info.thread (.client c'))
      (app.handleLast ctrl draws) := by
  unfold handleLast
  split
  · exact Post.error _
  · rename_i ctrl'
    split
    · exact Post.error _
    · rename_i info hinfo
      split
      · exact Post.error _
      · split
        · rename_i c hc
          exact Post.bind_ok fun c' hc' => ⟨ctrl', info, c, c', rfl, hinfo, hc, hc', rfl⟩
        · exact Post.error _

/-! ## What an application can do to its threads -/

/-- An operation that sends and reports nothing, as a step. -/
theorem silent {P : GenericUDPApplication U → Prop} {x : Except Fault (GenericUDPApplication U)}
    (h : Post P x) :
    Post (fun e : Effect U => P e.app) (do let app ← x; return { app := app }) :=
  h.bind fun _ h' => h'

/-- `P` survives a callback and the removal of a thread. -/
structure Kept (P : GenericUDPApplication U → Prop) : Prop where
  setThread : ∀ app p t t', P app → app.threads.lookup p = some t → Thread.Callback t t' →
    P (app.setThread p t')
  removeThread : ∀ app p, P app → Post P (app.removeThread p)

/-- `P` survives all four ways in which the threads of an application change. -/
structure Stable (P : GenericUDPApplication U → Prop) : Prop extends Kept P where
  accept : ∀ app appmsg q v, P app → appmsg.packetNumber = 1 → v.Accepted appmsg →
    app.Fresh v.socket.sockId q → P (app.closeWhenFull.addThread q (.server v))
  transmissionStart : ∀ app p i transmission q c, P app → app.isServer = false →
    c.Started transmission p i → app.Fresh c.socket.sockId q → P (app.addThread q (.client c))

namespace Kept

variable {P : GenericUDPApplication U → Prop} {app : GenericUDPApplication U}

theorem removeThreadWith (h : Kept P) (happ : P app) (p : ThreadPtr) (transmission : Nat)
    (stat : TransmissionStatistics) :
    Post (fun e => P e.app) (app.removeThreadWith p transmission stat) :=
  (h.removeThread app p happ).bind fun _ h' => h'

theorem timerExpired (h : Kept P) (happ : P app) (p : ThreadPtr) (draws : Nat → Draw) :
    Post (fun e => P e.app) (app.timerExpired p draws) := by
  unfold GenericUDPApplication.timerExpired
  split
  · exact Post.error _
  · rename_i v hv
    refine Post.bind_ok fun r hr => ?_
    have hset : P (app.setThread p (.server r.thread)) :=
      h.setThread _ _ _ _ happ hv (.serverTimer hr)
    split
    · exact hset
    · exact silent (h.removeThread _ p hset)
  · rename_i c hc
    refine Post.bind_ok fun r hr => ?_
    have hset : P (app.setThread p (.client r.thread)) :=
      h.setThread _ _ _ _ happ hc (.clientTimer hr)
    split
    · exact h.removeThreadWith hset ..
    · exact hset

theorem handleError (h : Kept P) (happ : P app) (ctrl : Option UDPControlInfo) :
    Post (fun e => P e.app) (app.handleError ctrl) := by
  unfold GenericUDPApplication.handleError
  split
  · exact Post.error _
  · split
    · exact happ
    · split
      · exact Post.error _
      · split
        · exact silent (h.removeThread _ _ happ)
        · split
          · exact h.removeThreadWith happ ..
          · exact Post.error _

theorem handleLast (h : Kept P) (happ : P app) (ctrl : Option UDPControlInfo)
    (draws : Nat → Draw) : Post P (app.handleLast ctrl draws) := by
  refine (app.handleLast_spec ctrl draws).mono ?_
  rintro _ ⟨ctrl', info, c, c', -, -, hc, hc', rfl⟩
  exact h.setThread _ _ _ _ happ hc (.clientLast hc')

end Kept

namespace Stable

variable {P : GenericUDPApplication U → Prop} {app : GenericUDPApplication U}

theorem handleAppMessage (h : Stable P) (happ : P app) (ctrl : Option UDPControlInfo)
    (appmsg : Option GenericApplicationMessage) (draws : Nat → Draw) {sockId : Int}
    {q : ThreadPtr} (hfresh : app.Fresh sockId q) :
    Post P (app.handleAppMessage ctrl appmsg draws sockId q) := by
  unfold GenericUDPApplication.handleAppMessage
  split
  · exact happ
  · split
    · rename_i hrequest
      split
      · exact Post.error _
      · refine (app.accept_spec _ _ sockId q).mono ?_
        rintro _ ⟨v, hv, hsock, rfl⟩
        exact h.accept _ _ _ _ happ hrequest hv (hsock ▸ hfresh)
    · split
      · exact h.handleLast happ ctrl draws
      · exact happ

theorem apply (h : Stable P) (happ : P app) {a : Action} (ha : app.Enabled a) :
    Post (fun e => P e.app) (app.apply a) := by
  cases a with
  | timer p draws => exact h.timerExpired happ p draws
  | error ctrl => exact h.handleError happ ctrl
  | message ctrl appmsg draws sockId q =>
      exact silent (h.handleAppMessage happ ctrl appmsg draws ha)
  | transmissionStart p i transmission draws sockId q =>
      refine silent ((app.transmissionStart_spec p i transmission draws sockId q).mono ?_)
      rintro _ ⟨hserver, c, hc, hsock, rfl⟩
      exact h.transmissionStart _ _ _ _ _ _ happ hserver hc (hsock ▸ ha)
  | removeThread p => exact silent (h.removeThread _ p happ)

end Stable

/-! ## The table -/

/-- The threads that are alive and their entries, which are counted. -/
structure Tracked (app : GenericUDPApplication U) : Prop where
  indexed : Indexed Thread.sockId (fun p t => (⟨t.isServer, p⟩ : ThreadInfo)) app.threads
    app.threadMap
  count : app.threadCount = app.threadMap.keys.length

namespace Tracked

variable {app : GenericUDPApplication U}

theorem notMem_threadMap (h : Tracked app) {sockId : Int} {q : ThreadPtr}
    (hfresh : app.Fresh sockId q) : sockId ∉ app.threadMap := by
  intro hmem
  obtain ⟨info, hinfo⟩ := Option.isSome_iff_exists.mp (AList.lookup_isSome.mpr hmem)
  obtain ⟨p, t, ht, hkey, -⟩ := h.indexed.object _ _ hinfo
  exact hfresh.2.2 p t ht hkey

theorem addThread (h : Tracked app) {t : Thread U} {q : ThreadPtr}
    (hfresh : app.Fresh t.sockId q) : Tracked (app.addThread q t) := by
  have hnew := h.notMem_threadMap hfresh
  constructor
  · show Indexed _ _ (app.threads.insert q t) (ite _ _ _)
    rw [if_neg hnew]
    exact h.indexed.insert hfresh.2.1 hnew
  · show app.threadCount + 1 = ((ite _ _ _ : AList fun _ : Int => ThreadInfo).keys.length : Int)
    rw [if_neg hnew, length_keys_insert_of_notMem _ hnew, h.count]
    rfl

theorem closeWhenFull (h : Tracked app) : Tracked app.closeWhenFull where
  indexed := by simpa using h.indexed
  count := by simpa using h.count

end Tracked

theorem tracked_stable : Stable (Tracked (U := U)) where
  setThread := by
    intro app p t t' h ht hcall
    exact ⟨h.indexed.update ht hcall.sockId (by rw [hcall.isServer]), h.count⟩
  removeThread := by
    intro app p h
    refine (app.removeThread_spec p).mono ?_
    rintro _ ⟨t, mySocket, ht, hmem, rfl, -⟩
    constructor
    · exact h.indexed.erase (fun _ _ _ _ heq => congrArg ThreadInfo.thread heq) ht
    · have hlen := length_keys_erase hmem
      have hcount := h.count
      show app.threadCount - 1 = ((app.threadMap.erase t.sockId).keys.length : Int)
      omega
  accept := by
    intro app _ q v h _ _ hfresh
    exact h.closeWhenFull.addThread hfresh.closeWhenFull
  transmissionStart := by
    intro app _ _ _ q c h _ _ hfresh
    exact h.addThread hfresh

/-! ## The welcome socket -/

/-- All threads of a server serve, and its welcome socket is bound just while
it may have more of them. -/
structure Welcoming (app : GenericUDPApplication U) : Prop where
  isServer : app.isServer = true
  threads : ∀ p t, app.threads.lookup p = some t → t.isServer = true
  bound : 1 ≤ app.maxThreadCount →
    (app.mySocket.isBound = true ↔ app.threadCount < app.maxThreadCount)

theorem welcoming_stable (C : U.Contract) : Stable (Welcoming (U := U)) where
  setThread := by
    intro app p t t' h ht hcall
    have ht' : t'.isServer = true := hcall.isServer.trans (h.threads p t ht)
    exact ⟨h.isServer, forall_lookup_insert h.threads p ht', h.bound⟩
  removeThread := by
    intro app p h
    refine (app.removeThread_spec p).mono ?_
    rintro _ ⟨t, mySocket, ht, -, rfl, hfull, hroom⟩
    refine ⟨h.isServer, forall_lookup_erase h.threads p, ?_⟩
    intro hmax
    show mySocket.isBound = true ↔ app.threadCount - 1 < app.maxThreadCount
    -- the socket was closed only at the limit, and is bound again just there
    by_cases hcount : app.threadCount = app.maxThreadCount
    · have hbind := (app.mySocket.bind_spec C app.port).of_ok (hfull hcount)
      constructor
      · intro _
        omega
      · intro _
        exact hbind.2
    · rw [hroom hcount, h.bound hmax]
      omega
  accept := by
    intro app _ q v h _ _ _
    refine ⟨?_, ?_, ?_⟩
    · show app.closeWhenFull.isServer = true
      rw [closeWhenFull_isServer]
      exact h.isServer
    · refine forall_lookup_insert ?_ q rfl
      rw [closeWhenFull_threads]
      exact h.threads
    · intro hmax
      show app.closeWhenFull.mySocket.isBound = true ↔
        app.closeWhenFull.threadCount + 1 < app.closeWhenFull.maxThreadCount
      replace hmax : 1 ≤ app.maxThreadCount := by
        rwa [show (app.closeWhenFull.addThread q (.server v)).maxThreadCount = _ from
          closeWhenFull_maxThreadCount app] at hmax
      rw [closeWhenFull_threadCount, closeWhenFull_maxThreadCount]
      -- the last thread that fits closes the socket
      by_cases hlast : app.threadCount + 1 = app.maxThreadCount
      · have hclosed : app.closeWhenFull.mySocket.isBound = false := by
          unfold closeWhenFull
          rw [if_pos hlast]
          exact C.close _
        rw [hclosed]
        simp
        omega
      · have hsame : app.closeWhenFull.mySocket = app.mySocket := by
          unfold closeWhenFull
          rw [if_neg hlast]
        rw [hsame, h.bound hmax]
        omega
  transmissionStart := by
    intro app _ _ _ q c h hclient _ _
    rw [h.isServer] at hclient
    cases hclient

theorem initializeModule_spec (isServer : Bool) (port noThreads sockId : Int) :
    Post (fun app : GenericUDPApplication U => app.isServer = isServer ∧ app.threadCount = 0 ∧
      app.threadMap = ∅ ∧ app.threads = ∅ ∧
      (Socket.new sockId).bind port = .ok app.mySocket)
      (initializeModule isServer port noThreads sockId) := by
  unfold initializeModule
  refine Post.bind_ok fun mySocket hbind => ?_
  exact ⟨rfl, rfl, rfl, rfl, hbind⟩

theorem initializeModule_tracked (isServer : Bool) (port noThreads sockId : Int) :
    Post (Tracked (U := U)) (initializeModule isServer port noThreads sockId) := by
  refine (initializeModule_spec isServer port noThreads sockId).mono fun app happ => ?_
  obtain ⟨-, hcount, hmap, hthreads, -⟩ := happ
  constructor
  · rw [hmap, hthreads]
    exact .empty _ _
  · rw [hmap, hcount]
    rfl

theorem initializeModule_welcoming (C : U.Contract) (port noThreads sockId : Int) :
    Post (Welcoming (U := U)) (initializeModule true port noThreads sockId) := by
  refine (initializeModule_spec true port noThreads sockId).mono fun app happ => ?_
  obtain ⟨hserver, hcount, -, hthreads, hbind⟩ := happ
  refine ⟨hserver, ?_, ?_⟩
  · rw [hthreads]
    exact forall_lookup_empty
  · intro hmax
    have hbound := (Socket.bind_spec C _ port).of_ok hbind
    rw [hbound.2, hcount]
    constructor
    · intro _
      omega
    · intro _
      rfl

end GenericUDPApplication

/-! ## A server -/

open GenericUDPApplication

/-- A server, from its initialization on. A step that ends in an error is none:
the simulation is over. -/
def server (U : UDPSocket) : TSys (GenericUDPApplication U) Action where
  init := fun app => ∃ port noThreads sockId,
    initializeModule true port noThreads sockId = .ok app
  step := fun app a app' => app.Enabled a ∧ ∃ e, app.apply a = .ok e ∧ e.app = app'

section Server

variable {U : UDPSocket}

theorem server_step {app app' : GenericUDPApplication U} {a : Action}
    {P : GenericUDPApplication U → Prop} (h : Stable P) (happ : P app)
    (hstep : (server U).step app a app') : P app' := by
  obtain ⟨ha, e, hok, rfl⟩ := hstep
  exact (h.apply happ ha).of_ok hok

theorem server_tracked : (server U).Invariant Tracked :=
  TSys.Inductive.invariant
    { init := by
        rintro app ⟨port, noThreads, sockId, hok⟩
        exact (initializeModule_tracked true port noThreads sockId).of_ok hok
      step := fun _ _ _ h hstep => server_step tracked_stable h hstep }

theorem server_welcoming (C : U.Contract) : (server U).Invariant Welcoming :=
  TSys.Inductive.invariant
    { init := by
        rintro app ⟨port, noThreads, sockId, hok⟩
        exact (initializeModule_welcoming C port noThreads sockId).of_ok hok
      step := fun _ _ _ h hstep => server_step (welcoming_stable C) h hstep }

/-- One entry for each thread that is alive, under the id of its socket; all
entries are counted, and the welcome socket is bound below the limit. -/
structure ThreadTable (app : GenericUDPApplication U) : Prop where
  entry : ∀ p t, app.threads.lookup p = some t → ∀ k info,
    (app.threadMap.lookup k = some info ∧ info.thread = p) ↔
      (k = t.sockId ∧ info = ⟨t.isServer, p⟩)
  thread : ∀ k info, app.threadMap.lookup k = some info → info.thread ∈ app.threads
  count : app.threadCount = app.threadMap.keys.length
  welcome : 1 ≤ app.maxThreadCount →
    (app.mySocket.isBound = true ↔ app.threadCount < app.maxThreadCount)

theorem server_threadTable (C : U.Contract) : (server U).Invariant ThreadTable := by
  intro app hreach
  have htracked := server_tracked app hreach
  have hwelcome := server_welcoming C app hreach
  refine ⟨?_, ?_, htracked.count, hwelcome.bound⟩
  · intro p t ht k info
    constructor
    · rintro ⟨hinfo, rfl⟩
      obtain ⟨p', t', ht', rfl, rfl⟩ := htracked.indexed.object k info hinfo
      rw [ht'] at ht
      cases ht
      exact ⟨rfl, rfl⟩
    · rintro ⟨rfl, rfl⟩
      exact ⟨htracked.indexed.entry p t ht, rfl⟩
  · intro k info hinfo
    obtain ⟨p, t, ht, -, rfl⟩ := htracked.indexed.object k info hinfo
    exact mem_of_lookup ht

end Server

/-- A server with two threads after its initialization. -/
def twoThreadServer : GenericUDPApplication inetSocket :=
  ⟨true, 80, 2, 0, ⟨0, ⟨true, false⟩⟩, ∅, ∅⟩

/-- A request of the host 7 on the socket `sockId`; a new thread gets the socket
`newId` and the address `q`. -/
def requestAt (sockId newId : Int) (q : ThreadPtr) : Action :=
  .message (some ⟨sockId, 7, 5000, 80⟩)
    (some { byteLength := 100, replyLength := 100, replyPerRequest := 1, timeToRespond := 1,
            packetNumber := 1 })
    (fun _ => ⟨0, 0, 0⟩) newId q

/-- Two requests fill the server, a thread ends, and another request is served. -/
def fullAndFree : List (Action × GenericUDPApplication inetSocket) :=
  TSys.trace GenericUDPApplication.next twoThreadServer
    [requestAt 0 1 0, requestAt 0 2 1, .removeThread 0, requestAt 0 3 2]

theorem server_threadTable_fullAndFree :
    TSys.Always (ThreadTable (U := inetSocket)) twoThreadServer fullAndFree := by
  have hrun : (server inetSocket).Run twoThreadServer fullAndFree :=
    TSys.run_trace (fun _ _ _ => next_spec) _ _
  exact (hrun.reachable (.init ⟨80, 2, 0, rfl⟩)).mono (server_threadTable inetSocket_contract)

/-- The welcome socket closes, opens and closes again. -/
example : fullAndFree.map (fun step => (step.2.threadCount, step.2.mySocket.isBound)) =
    [(1, true), (2, false), (1, true), (2, false)] := by
  decide +kernel

end ScadaSim.UdpApp
