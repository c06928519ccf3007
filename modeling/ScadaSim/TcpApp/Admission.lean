import ScadaSim.Lib.History
import ScadaSim.Lib.TSys
import ScadaSim.TcpApp.Safety
import ScadaSim.TcpApp.ThreadTable

/-!
# The admission of connections

A server takes a connection it has no socket for to be a new one. What TCP still
indicates for a connection that was refused, or whose thread is gone, makes a thread
for it if there is room; along a run that does not happen just when every indication
that finds room and no socket is the first one of its connection.
-/

namespace ScadaSim.TcpApp

open Lib GenericTCPApplication

variable {S : TCPSocket}

/-- What a server is told, and what it does. -/
inductive Entry
  | indicated (connId : Int)
  | happened (h : Happening)
  deriving DecidableEq

/-- A server, with its history. -/
structure Served (S : TCPSocket) where
  app : GenericTCPApplication S
  history : List Entry

/-- What the action tells the server. -/
def AppAction.indicated : AppAction → List Entry
  | .indication connId _ _ _ => [.indicated connId]
  | _ => []

def Served.next (s : Served S) (a : AppAction) (e : Effect S) : Served S where
  app := e.app
  history := s.history ++ a.indicated ++ e.log.map .happened

theorem Served.happened_next {s : Served S} {a : AppAction} {e : Effect S} {h : Happening} :
    .happened h ∈ (s.next a e).history ↔ .happened h ∈ s.history ∨ h ∈ e.log := by
  have hnot : Entry.happened h ∉ a.indicated := by
    cases a <;> simp [AppAction.indicated]
  simp [Served.next, hnot]

theorem Served.indicated_next {s : Served S} {a : AppAction} {e : Effect S} {connId : Int}
    (h : .indicated connId ∈ s.history ∨ .indicated connId ∈ a.indicated) :
    .indicated connId ∈ (s.next a e).history := by
  refine List.mem_append_left _ (List.mem_append.mpr h)

/-- A server from its initialization on. -/
def tcpServer (S : TCPSocket) : TSys (Served S) AppAction where
  init := fun s => ∃ noThreads, s = ⟨initializeModule true noThreads, []⟩
  step := fun s a s' => s.app.Enabled a ∧ ∃ e, s.app.apply a = .ok e ∧ s' = s.next a e

/-- A thread is created by the first indication of a connection, which has not been
refused, and has had no thread before. -/
def CreatedByFirst (past : List Entry) : Entry → Prop
  | .happened (.created connId) =>
      past.count (.indicated connId) = 1 ∧ .happened (.refused connId) ∉ past ∧
        .happened (.removed connId) ∉ past ∧ .happened (.created connId) ∉ past
  | _ => True

/-- Server threads correspond to the connections that were accepted. -/
structure Corresponds (s : Served S) : Prop where
  created : Each CreatedByFirst s.history
  threads : Consistent s.app
  limit : 1 ≤ s.app.maxThreadCount → s.app.threadCount ≤ s.app.maxThreadCount

/-- An indication that finds no socket, but room, is the first of its connection. -/
def FindsFirst (s : Served S) : AppAction → Prop
  | .indication connId _ _ _ =>
      connId ∉ s.app.socketMap → s.app.threadCount < s.app.maxThreadCount →
        .indicated connId ∉ s.history
  | _ => True

instance (s : Served S) (a : AppAction) : Decidable (FindsFirst s a) :=
  match a with
  | .indication connId _ _ _ => inferInstanceAs (Decidable
      (connId ∉ s.app.socketMap → s.app.threadCount < s.app.maxThreadCount →
        .indicated connId ∉ s.history))
  | .timer .. | .transmissionStart .. => .isTrue trivial

/-! ## What a callback leaves -/

def Happening.connId : Happening → Option Int
  | .refused connId => some connId
  | .created connId => some connId
  | .removed connId => some connId
  | .reported _ _ => none

def Happening.isCreated : Happening → Bool
  | .created _ => true
  | _ => false

theorem createdByFirst_of_not {h : Happening} (hnot : h.isCreated = false) (past : List Entry) :
    CreatedByFirst past (.happened h) := by
  cases h with
  | created connId => cases hnot
  | refused | removed | reported => trivial

namespace GenericTCPApplication

variable {app : GenericTCPApplication S} {p : ThreadPtr} {t : Thread S} {e : Effect S}

theorem Finished.log (he : app.Finished p t e) :
    ∀ h ∈ e.log, h.isCreated = false ∧ ∀ connId, h.connId = some connId → connId = t.connId := by
  have hremoved : ∀ connId, (Happening.removed t.connId).connId = some connId →
      connId = t.connId := fun _ h => (Option.some.inj h).symm
  cases he with
  | kept => exact fun h hh => absurd hh List.not_mem_nil
  | removed =>
      intro h hh
      rw [List.mem_singleton.mp hh]
      exact ⟨rfl, hremoved⟩
  | reported t' transmission stat =>
      intro h hh
      rcases List.mem_cons.mp hh with rfl | hh
      · exact ⟨rfl, hremoved⟩
      · split at hh
        · rw [List.mem_singleton.mp hh]
          exact ⟨rfl, nofun⟩
        · cases hh

/-- What a callback and its end leave of the application. -/
structure Shrinks (app app' : GenericTCPApplication S) : Prop where
  isServer : app'.isServer = app.isServer
  maxThreadCount : app'.maxThreadCount = app.maxThreadCount
  threadCount : app'.threadCount ≤ app.threadCount
  socketMap : ∀ connId, connId ∈ app'.socketMap → connId ∈ app.socketMap

theorem Finished.shrinks (he : app.Finished p t e) : Shrinks app e.app := by
  have hdrop (t' : Thread S) : Shrinks app ((app.setThread p t').dropThread p t.connId) := by
    refine ⟨rfl, rfl, ?_, ?_⟩
    · show app.threadCount - 1 ≤ app.threadCount
      omega
    · intro connId h
      exact (AList.mem_erase.mp h).2
  cases he with
  | kept => exact ⟨rfl, rfl, le_refl _, fun _ h => h⟩
  | removed t' => exact hdrop t'
  | reported t' => exact hdrop t'

end GenericTCPApplication

/-! ## One step -/

/-- What holds of a server all along. -/
structure Admitting (s : Served S) : Prop where
  isServer : s.app.isServer = true
  threads : Consistent s.app
  limit : 1 ≤ s.app.maxThreadCount → s.app.threadCount ≤ s.app.maxThreadCount
  /-- The connections that the server knows have been indicated. -/
  socketMap : ∀ connId, connId ∈ s.app.socketMap → .indicated connId ∈ s.history
  history : ∀ h connId, .happened h ∈ s.history → h.connId = some connId →
    .indicated connId ∈ s.history

/-- After a callback of a thread of the server. -/
theorem Admitting.finished {s : Served S} (h : Admitting s) {a : AppAction} {p : ThreadPtr}
    {t : Thread S} {e : Effect S} (ht : s.app.threads.lookup p = some t)
    (he : s.app.Finished p t e) : Admitting (s.next a e) := by
  have hshrinks := he.shrinks
  have hconn : t.connId ∈ s.app.socketMap := mem_of_lookup (h.threads.indexed.entry p t ht)
  refine ⟨hshrinks.isServer.trans h.isServer, h.threads.finished ht he, ?_, ?_, ?_⟩
  · intro hmax
    rw [show (s.next a e).app.maxThreadCount = _ from hshrinks.maxThreadCount] at hmax
    have hlimit := h.limit hmax
    have hcount := hshrinks.threadCount
    show e.app.threadCount ≤ e.app.maxThreadCount
    rw [hshrinks.maxThreadCount]
    omega
  · intro connId hmem
    exact Served.indicated_next (.inl (h.socketMap connId (hshrinks.socketMap connId hmem)))
  · intro x connId hx hxconn
    refine Served.indicated_next (.inl ?_)
    rcases Served.happened_next.mp hx with hx | hx
    · exact h.history x connId hx hxconn
    · rw [(he.log x hx).2 connId hxconn]
      exact h.socketMap _ hconn

/-- What a callback does is no creation. -/
theorem each_finished {s : Served S} {a : AppAction} {p : ThreadPtr} {t : Thread S} {e : Effect S}
    (he : s.app.Finished p t e) :
    Each CreatedByFirst (s.next a e).history ↔ Each CreatedByFirst s.history := by
  show Each CreatedByFirst (s.history ++ a.indicated ++ e.log.map .happened) ↔ _
  rw [List.append_assoc]
  refine each_append_of_forall ?_
  intro x hx past
  rcases List.mem_append.mp hx with hx | hx
  · cases a with
    | indication connId ind d q =>
        rw [List.mem_singleton.mp hx]
        trivial
    | timer | transmissionStart => cases hx
  · obtain ⟨y, hy, rfl⟩ := List.mem_map.mp hx
    exact createdByFirst_of_not (he.log y hy).1 past

/-- After an indication that has made a thread. -/
theorem Admitting.created {s : Served S} (h : Admitting s) {connId : Int} {ind : Indication}
    {d : Draw} {q : ThreadPtr} (hq : q ∉ s.app.threads) {e : Effect S}
    (hnone : s.app.socketMap.lookup connId = none)
    (hroom : s.app.threadCount < s.app.maxThreadCount)
    (he : (s.app.addThread q ⟨connId, .server .init⟩).Finished q ⟨connId, .server .init⟩ e) :
    Admitting (s.next (.indication connId ind d q) ⟨e.app, .created connId :: e.log⟩) := by
  have hshrinks := he.shrinks
  have hhandled : s.app.Handled connId q ⟨e.app, .created connId :: e.log⟩ :=
    .created e hnone h.isServer hroom he
  have hthreads := h.threads.handled hq hhandled
  have hnow : ∀ x, x = connId ∨ .indicated x ∈ s.history → .indicated x ∈
      (s.next (.indication connId ind d q) ⟨e.app, .created connId :: e.log⟩).history := by
    rintro x (rfl | hx)
    · exact Served.indicated_next (.inr List.mem_cons_self)
    · exact Served.indicated_next (.inl hx)
  refine ⟨hshrinks.isServer.trans h.isServer, hthreads, ?_, ?_, ?_⟩
  · intro _
    have hcount : e.app.threadCount ≤ s.app.threadCount + 1 := hshrinks.threadCount
    have hmax : e.app.maxThreadCount = s.app.maxThreadCount := hshrinks.maxThreadCount
    show e.app.threadCount ≤ e.app.maxThreadCount
    omega
  · intro connId' hmem
    rcases (AList.mem_insert _).mp (hshrinks.socketMap connId' hmem) with heq | hold
    · exact hnow _ (.inl heq)
    · exact hnow _ (.inr (h.socketMap connId' hold))
  · intro x connId' hx hxconn
    rcases Served.happened_next.mp hx with hx | hx
    · exact hnow _ (.inr (h.history x connId' hx hxconn))
    · rcases List.mem_cons.mp hx with rfl | hx
      · exact hnow _ (.inl (Option.some.inj hxconn).symm)
      · exact hnow _ (.inl ((he.log x hx).2 connId' hxconn))

/-- The thread is created as it should be just when the connection is new. -/
theorem each_created {s : Served S} (h : Admitting s) (heach : Each CreatedByFirst s.history)
    {connId : Int} {ind : Indication} {d : Draw} {q : ThreadPtr} {e : Effect S}
    (he : (s.app.addThread q ⟨connId, .server .init⟩).Finished q ⟨connId, .server .init⟩ e) :
    Each CreatedByFirst
        (s.next (.indication connId ind d q) ⟨e.app, .created connId :: e.log⟩).history ↔
      .indicated connId ∉ s.history := by
  show Each CreatedByFirst (s.history ++ [.indicated connId] ++
    (.happened (.created connId) :: e.log.map .happened)) ↔ _
  rw [List.append_cons, each_append_of_forall, each_concat, each_concat]
  · constructor
    · rintro ⟨-, hcount, -⟩ hmem
      have hpos : 0 < s.history.count (.indicated connId) := List.count_pos_iff.mpr hmem
      rw [List.count_append, List.count_singleton_self] at hcount
      omega
    · intro hnew
      have hunknown : ∀ x : Happening, x.connId = some connId →
          .happened x ∉ s.history ++ [Entry.indicated connId] := by
        intro x hx hmem
        rcases List.mem_append.mp hmem with hmem | hmem
        · exact hnew (h.history x connId hmem hx)
        · cases List.mem_singleton.mp hmem
      refine ⟨⟨heach, trivial⟩, ?_, hunknown _ rfl, hunknown _ rfl, hunknown _ rfl⟩
      rw [List.count_append, List.count_singleton_self, List.count_eq_zero_of_not_mem hnew]
  · intro x hx past
    obtain ⟨y, hy, rfl⟩ := List.mem_map.mp hx
    exact createdByFirst_of_not (he.log y hy).1 past

/-- One step creates a thread as it should just when its guard holds. -/
theorem admission_step {s s' : Served S} {a : AppAction} (h : Admitting s)
    (hstep : (tcpServer S).step s a s') :
    Admitting s' ∧
      (Each CreatedByFirst s.history → (Each CreatedByFirst s'.history ↔ FindsFirst s a)) := by
  obtain ⟨ha, e, hok, rfl⟩ := hstep
  cases a with
  | timer p d =>
      obtain ⟨t, ht, he⟩ := (s.app.timerExpired_spec p d).of_ok hok
      exact ⟨h.finished ht he, fun heach => iff_of_true ((each_finished he).mpr heach) trivial⟩
  | indication connId ind d q =>
      have he := (s.app.handleMessage_spec connId ind d q).of_ok hok
      cases he with
      | thread p t e hp ht he =>
          refine ⟨h.finished ht he, fun heach => ?_⟩
          refine iff_of_true ((each_finished he).mpr heach) fun hnone _ => ?_
          exact absurd (mem_of_lookup hp) hnone
      | refused hnone _ hfull =>
          refine ⟨⟨h.isServer, h.threads, h.limit, ?_, ?_⟩, fun heach => ?_⟩
          · exact fun connId' hmem => Served.indicated_next (.inl (h.socketMap connId' hmem))
          · intro x connId' hx hxconn
            rcases Served.happened_next.mp hx with hx | hx
            · exact Served.indicated_next (.inl (h.history x connId' hx hxconn))
            · rw [List.mem_singleton.mp hx] at hxconn
              cases hxconn
              exact Served.indicated_next (.inr List.mem_cons_self)
          · refine iff_of_true ?_ fun _ hroom => absurd hroom (by omega)
            show Each CreatedByFirst
              (s.history ++ [.indicated connId] ++ [.happened (.refused connId)])
            exact each_concat.mpr ⟨each_concat.mpr ⟨heach, trivial⟩, trivial⟩
      | created e hnone _ hroom he =>
          refine ⟨h.created ha hnone hroom he, fun heach => ?_⟩
          rw [each_created h heach he]
          constructor
          · exact fun hnew _ _ => hnew
          · exact fun hguard => hguard (notMem_of_lookup_none hnone) hroom
  | transmissionStart p transmission d connId q =>
      have hclient := ((s.app.transmissionStart_spec p transmission d connId q).of_ok hok).1
      rw [h.isServer] at hclient
      cases hclient

/-! ## Runs -/

theorem admitting_init {s : Served S} (hinit : (tcpServer S).init s) : Admitting s := by
  obtain ⟨noThreads, rfl⟩ := hinit
  refine ⟨rfl, .initializeModule true noThreads, ?_, ?_, ?_⟩
  · intro hmax
    show (0 : Int) ≤ _
    exact le_trans (by decide) hmax
  · intro connId hmem
    exact absurd hmem (AList.notMem_empty _)
  · intro x connId hx
    cases hx

/-- Along a run the server threads correspond to the connections that were accepted
just when every indication that finds room and no socket is the first of its
connection. -/
theorem corresponds_iff_findsFirst {s : Served S} (hinit : (tcpServer S).init s)
    {tr : List (AppAction × Served S)} (hrun : (tcpServer S).Run s tr) :
    TSys.Always Corresponds s tr ↔ TSys.Guarded FindsFirst s tr := by
  refine hrun.always_iff_guarded (fun _ _ _ h hstep => (admission_step h hstep).1) ?_
    (admitting_init hinit) ?_
  · intro s a t h hs hstep
    obtain ⟨ht, hiff⟩ := admission_step h hstep
    rw [← hiff hs.created]
    constructor
    · exact fun hcorr => hcorr.created
    · exact fun heach => ⟨heach, ht.threads, ht.limit⟩
  · have hadmitting := admitting_init hinit
    obtain ⟨noThreads, rfl⟩ := hinit
    exact ⟨each_nil, hadmitting.threads, hadmitting.limit⟩

/-! ### A server with one thread -/

/-- The server after an action that is possible and succeeds. -/
def Served.step (s : Served S) (a : AppAction) : Option (Served S) :=
  if s.app.Enabled a then
    match s.app.apply a with
    | .ok e => some (s.next a e)
    | .error _ => none
  else none

theorem run_served (s : Served S) (actions : List AppAction) :
    (tcpServer S).Run s (TSys.trace Served.step s actions) := by
  refine TSys.run_trace ?_ s actions
  intro s a t h
  unfold Served.step at h
  split at h
  · rename_i ha
    split at h
    · rename_i e he
      exact ⟨ha, e, he, (Option.some.inj h).symm⟩
    · cases h
  · cases h

def oneThreadServer : Served inetSocket := ⟨initializeModule true 1, []⟩

def indicate (connId : Int) (ind : Indication) (q : ThreadPtr) : AppAction :=
  .indication connId ind ⟨0, 0, 0⟩ q

/-- The connection 1 is accepted, 2 is refused; 1 ends, and then the peer of 2 closes. -/
def lateClose : List (AppAction × Served inetSocket) :=
  TSys.trace Served.step oneThreadServer
    [indicate 1 .established 0, indicate 2 .established 1, indicate 1 .closed 1,
      indicate 2 .peerClosed 1]

/-- The connection that was refused gets a thread. -/
theorem refused_connection_gets_thread :
    (tcpServer inetSocket).init oneThreadServer ∧
      (tcpServer inetSocket).Run oneThreadServer lateClose ∧
      (TSys.finish oneThreadServer lateClose).history =
        [.indicated 1, .happened (.created 1), .indicated 2, .happened (.refused 2),
          .indicated 1, .happened (.removed 1), .indicated 2, .happened (.created 2)] ∧
      ¬ TSys.Always Corresponds oneThreadServer lateClose := by
  have hhistory : (TSys.finish oneThreadServer lateClose).history =
      [.indicated 1, .happened (.created 1), .indicated 2, .happened (.refused 2),
        .indicated 1, .happened (.removed 1), .indicated 2, .happened (.created 2)] := by decide
  refine ⟨⟨1, rfl⟩, run_served _ _, hhistory, fun h => ?_⟩
  have hlast := h.last.created
  rw [hhistory] at hlast
  have hcreated := hlast [.indicated 1, .happened (.created 1), .indicated 2,
    .happened (.refused 2), .indicated 1, .happened (.removed 1), .indicated 2]
    (.happened (.created 2)) (List.prefix_refl _)
  exact hcreated.2.1 (by decide)

/-- The connection 1 is accepted, 2 is refused and gone; 1 ends, and 3 is accepted. -/
def oneAfterTheOther : List (AppAction × Served inetSocket) :=
  TSys.trace Served.step oneThreadServer
    [indicate 1 .established 0, indicate 2 .established 1, indicate 2 .closed 1,
      indicate 1 .closed 1, indicate 3 .established 1]

theorem corresponds_oneAfterTheOther :
    TSys.Always Corresponds oneThreadServer oneAfterTheOther :=
  (corresponds_iff_findsFirst ⟨1, rfl⟩ (run_served _ _)).mpr (by decide)

/-- Both accepted connections get a thread, and no other. -/
example : (TSys.finish oneThreadServer oneAfterTheOther).history =
    [.indicated 1, .happened (.created 1), .indicated 2, .happened (.refused 2), .indicated 2,
      .happened (.refused 2), .indicated 1, .happened (.removed 1), .indicated 3,
      .happened (.created 3)] := by
  decide

end ScadaSim.TcpApp
