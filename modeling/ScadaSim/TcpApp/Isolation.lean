import ScadaSim.TcpApp.Admission

/-!
# Connections do not disturb each other

A server works for many connections, but what it does for one of them depends on this
one alone: its own actions, taken out of a run, are a run by themselves, which leaves
the same thread behind, and the same history of the connection.

Only the limit is shared. A connection that finds the server full is refused because of
the others; so it must find room whenever it has no thread, `FindsRoom`.
-/

namespace ScadaSim.TcpApp

open Lib GenericTCPApplication

variable {S : TCPSocket}

/-! ## One callback -/

namespace Thread

def timerExpired (t : Thread S) (d : Draw) : Except AppFault (Thread S) :=
  match t.role with
  | .server v => do
      let v ← ofThread (ServerThread.timerExpired { v with port := v.port.cancelEvent })
      return { t with role := .server v }
  | .client transmission c => do
      let c ← ofThread (ClientThread.timerExpired { c with port := c.port.cancelEvent } d)
      return { t with role := .client transmission c }

def indicate (t : Thread S) (ind : Indication) (d : Draw) : Except AppFault (Thread S) :=
  match t.role with
  | .server v => do
      let v ← v.indicate ind
      return { t with role := .server v }
  | .client transmission c => do
      let c ← c.indicate d ind
      return { t with role := .client transmission c }

/-- The thread has asked for its removal. -/
def isRemoved (t : Thread S) : Bool :=
  match t.role with
  | .server v => !v.present
  | .client _ c => c.removed.isSome

theorem timerExpired_connId (t : Thread S) (d : Draw) :
    Post (fun t' => t'.connId = t.connId) (t.timerExpired d) := by
  unfold timerExpired
  split
  · exact Post.bind_any fun _ => rfl
  · exact Post.bind_any fun _ => rfl

theorem indicate_connId (t : Thread S) (ind : Indication) (d : Draw) :
    Post (fun t' => t'.connId = t.connId) (t.indicate ind d) := by
  unfold indicate
  split
  · exact Post.bind_any fun _ => rfl
  · exact Post.bind_any fun _ => rfl

end Thread

namespace GenericTCPApplication

variable {app : GenericTCPApplication S} {p q : ThreadPtr} {t t' : Thread S} {connId : Int}

/-- What a server does after a callback that has left the thread `t`. -/
def settle (app : GenericTCPApplication S) (p : ThreadPtr) (t : Thread S) : Effect S :=
  if t.isRemoved then
    { app := (app.setThread p t).dropThread p t.connId, log := [.removed t.connId] }
  else { app := app.setThread p t }

theorem finishCallback_eq (hserver : app.isServer = true) (hp : p ∈ app.threadList) :
    app.finishCallback p t = .ok (app.settle p t) := by
  have hremove : (app.setThread p t).removeThread p = .ok
      { app := (app.setThread p t).dropThread p t.connId, log := [.removed t.connId] } := by
    unfold removeThread
    rw [if_pos (show p ∈ (app.setThread p t).threadList from hp),
      show (app.setThread p t).threads.lookup p = some t from AList.lookup_insert _]
  unfold finishCallback settle
  cases hrole : t.role with
  | server v =>
      have hremoved : t.isRemoved = !v.present := by rw [Thread.isRemoved, hrole]
      rw [hremoved]
      dsimp only
      cases hpresent : v.present
      · exact hremove
      · rfl
  | client transmission c =>
      have hremoved : t.isRemoved = c.removed.isSome := by rw [Thread.isRemoved, hrole]
      rw [hremoved]
      dsimp only
      cases c.removed with
      | none => rfl
      | some stat =>
          have hnot : (!(app.setThread p t).isServer) = false := by
            show (!app.isServer) = false
            rw [hserver, Bool.not_true]
          dsimp only
          unfold removeThreadWith
          rw [hremove, ok_bind]
          dsimp only
          rw [hnot]
          rfl

theorem timerExpired_eq (ht : app.threads.lookup p = some t) (d : Draw) :
    app.timerExpired p d = (t.timerExpired d >>= app.finishCallback p) := by
  obtain ⟨connId, role⟩ := t
  unfold GenericTCPApplication.timerExpired Thread.timerExpired
  rw [ht]
  cases role with
  | server v =>
      dsimp only
      cases ofThread (ServerThread.timerExpired { v with port := v.port.cancelEvent }) <;> rfl
  | client transmission c =>
      dsimp only
      cases ofThread (ClientThread.timerExpired { c with port := c.port.cancelEvent } d) <;> rfl

theorem processMessage_eq (ht : app.threads.lookup p = some t) (ind : Indication) (d : Draw) :
    app.processMessage p ind d = (t.indicate ind d >>= app.finishCallback p) := by
  obtain ⟨connId, role⟩ := t
  unfold processMessage Thread.indicate
  rw [ht]
  cases role with
  | server v =>
      dsimp only
      cases v.indicate ind <;> rfl
  | client transmission c =>
      dsimp only
      cases c.indicate d ind <;> rfl

/-! ## The thread of a connection -/

/-- The thread of the connection, with its address. -/
def threadOf (app : GenericTCPApplication S) (connId : Int) : Option (ThreadPtr × Thread S) :=
  (app.socketMap.lookup connId).bind fun p => (app.threads.lookup p).map fun t => (p, t)

theorem threadOf_eq_some (h : Consistent app) :
    app.threadOf connId = some (p, t) ↔ app.threads.lookup p = some t ∧ t.connId = connId := by
  unfold threadOf
  constructor
  · intro hsome
    obtain ⟨p', hp', hmap⟩ := Option.bind_eq_some_iff.mp hsome
    obtain ⟨t', ht', heq⟩ := Option.map_eq_some_iff.mp hmap
    cases heq
    obtain ⟨x, o, hx, hconn, rfl⟩ := h.indexed.object connId p hp'
    rw [ht'] at hx
    cases hx
    exact ⟨ht', hconn⟩
  · rintro ⟨ht, rfl⟩
    rw [show app.socketMap.lookup t.connId = some p from h.indexed.entry p t ht]
    show (app.threads.lookup p).map _ = _
    rw [ht]
    rfl

theorem threadOf_eq_none (h : Consistent app) :
    app.threadOf connId = none ↔ app.socketMap.lookup connId = none := by
  constructor
  · intro hnone
    cases hp : app.socketMap.lookup connId with
    | none => rfl
    | some p =>
        obtain ⟨x, t, ht, hconn, rfl⟩ := h.indexed.object connId p hp
        rw [(threadOf_eq_some h).mpr ⟨ht, hconn⟩] at hnone
        cases hnone
  · intro hnone
    unfold threadOf
    rw [hnone]
    rfl

theorem threadOf_setThread (h : Consistent app) (ht : app.threads.lookup p = some t)
    (hconn : t'.connId = t.connId) : (app.setThread p t').threadOf connId =
      if t.connId = connId then some (p, t') else app.threadOf connId := by
  have hset := h.setThread ht hconn
  split
  · rename_i heq
    exact (threadOf_eq_some hset).mpr ⟨AList.lookup_insert _, hconn.trans heq⟩
  · rename_i hne
    refine Option.ext fun ⟨q, x⟩ => ?_
    show _ = some (q, x) ↔ _ = some (q, x)
    rw [threadOf_eq_some hset, threadOf_eq_some h]
    by_cases hq : q = p
    · subst hq
      rw [show (app.setThread q t').threads.lookup q = some t' from AList.lookup_insert _, ht]
      constructor
      · rintro ⟨hx, hxconn⟩
        cases hx
        exact absurd (hconn.symm.trans hxconn) hne
      · rintro ⟨hx, hxconn⟩
        cases hx
        exact absurd hxconn hne
    · rw [show (app.setThread p t').threads.lookup q = app.threads.lookup q from
        AList.lookup_insert_ne hq]

theorem threadOf_dropThread (h : Consistent app) (ht : app.threads.lookup p = some t) :
    (app.dropThread p t.connId).threadOf connId =
      if t.connId = connId then none else app.threadOf connId := by
  have hdrop := h.dropThread ht
  split
  · rename_i heq
    rw [threadOf_eq_none hdrop, ← heq]
    exact AList.lookup_erase _ _
  · rename_i hne
    refine Option.ext fun ⟨q, x⟩ => ?_
    show _ = some (q, x) ↔ _ = some (q, x)
    rw [threadOf_eq_some hdrop, threadOf_eq_some h]
    by_cases hq : q = p
    · subst hq
      rw [show (app.dropThread q t.connId).threads.lookup q = none from AList.lookup_erase _ _, ht]
      constructor
      · rintro ⟨hx, -⟩
        cases hx
      · rintro ⟨hx, hxconn⟩
        cases hx
        exact absurd hxconn hne
    · rw [show (app.dropThread p t.connId).threads.lookup q = app.threads.lookup q from
        AList.lookup_erase_ne hq]

theorem threadOf_addThread (h : Consistent app) (hq : q ∉ app.threads)
    (hnone : app.socketMap.lookup t.connId = none) : (app.addThread q t).threadOf connId =
      if t.connId = connId then some (q, t) else app.threadOf connId := by
  have hadd := h.addThread hq (notMem_of_lookup_none hnone)
  split
  · rename_i heq
    exact (threadOf_eq_some hadd).mpr ⟨AList.lookup_insert _, heq⟩
  · rename_i hne
    refine Option.ext fun ⟨p, x⟩ => ?_
    show _ = some (p, x) ↔ _ = some (p, x)
    rw [threadOf_eq_some hadd, threadOf_eq_some h]
    by_cases hp : p = q
    · subst hp
      rw [show (app.addThread p t).threads.lookup p = some t from AList.lookup_insert _]
      constructor
      · rintro ⟨hx, hxconn⟩
        cases hx
        exact absurd hxconn hne
      · rintro ⟨hx, -⟩
        exact absurd (mem_of_lookup hx) hq
    · rw [show (app.addThread q t).threads.lookup p = app.threads.lookup p from
        AList.lookup_insert_ne hp]

theorem Consistent.settle (h : Consistent app) (ht : app.threads.lookup p = some t)
    (hconn : t'.connId = t.connId) : Consistent (app.settle p t').app := by
  have hset := h.setThread ht hconn
  unfold GenericTCPApplication.settle
  split
  · exact hset.dropThread (AList.lookup_insert _)
  · exact hset

/-- The thread of a connection after a callback of one. -/
theorem threadOf_settle (h : Consistent app) (ht : app.threads.lookup p = some t)
    (hconn : t'.connId = t.connId) : (app.settle p t').app.threadOf connId =
      if t.connId = connId then (if t'.isRemoved then none else some (p, t'))
      else app.threadOf connId := by
  have hset := h.setThread ht hconn
  unfold settle
  split
  · rw [threadOf_dropThread hset (AList.lookup_insert _), threadOf_setThread h ht hconn, hconn]
    split <;> rfl
  · exact threadOf_setThread h ht hconn

theorem settle_log (app : GenericTCPApplication S) (p : ThreadPtr) (t : Thread S) :
    (app.settle p t).log = if t.isRemoved then [.removed t.connId] else [] := by
  unfold settle
  split <;> rfl

theorem settle_same (app : GenericTCPApplication S) (p : ThreadPtr) (t : Thread S) :
    (app.settle p t).app.isServer = app.isServer ∧
      (app.settle p t).app.maxThreadCount = app.maxThreadCount := by
  unfold settle
  split <;> exact ⟨rfl, rfl⟩

end GenericTCPApplication

/-! ## The actions of a connection -/

/-- The action is about the connection. -/
def AppAction.isOf (connId : Int) (app : GenericTCPApplication S) : AppAction → Bool
  | .timer p _ => (app.threads.lookup p).any fun t => t.connId = connId
  | .indication connId' _ _ _ => connId' = connId
  | .transmissionStart _ _ _ connId' _ => connId' = connId

/-- The actions of the connection in a run. -/
def ownActions (connId : Int) : Served S → List (AppAction × Served S) → List AppAction
  | _, [] => []
  | s, (a, s') :: rest =>
      if a.isOf connId s.app then a :: ownActions connId s' rest else ownActions connId s' rest

/-- What the history says of the connection. -/
def Entry.isOf (connId : Int) : Entry → Bool
  | .indicated connId' => connId' = connId
  | .happened h => h.connId = some connId

/-- An indication of the connection finds a thread, or room for one. -/
def FindsRoom (connId : Int) (s : Served S) : AppAction → Prop
  | .indication connId' _ _ _ => connId' = connId → connId ∉ s.app.socketMap →
      s.app.threadCount < s.app.maxThreadCount
  | _ => True

instance (connId : Int) (s : Served S) : (a : AppAction) → Decidable (FindsRoom connId s a)
  | .indication connId' _ _ _ => inferInstanceAs (Decidable (connId' = connId →
      connId ∉ s.app.socketMap → s.app.threadCount < s.app.maxThreadCount))
  | .timer _ _ => .isTrue trivial
  | .transmissionStart _ _ _ _ _ => .isTrue trivial

/-- A server, and one that works for the connection alone. -/
structure Alike (connId : Int) (s s' : Served S) : Prop where
  isServer : s.app.isServer = true
  isServer' : s'.app.isServer = true
  threads : Consistent s.app
  threads' : Consistent s'.app
  maxThreadCount : s'.app.maxThreadCount = s.app.maxThreadCount
  threadOf : s'.app.threadOf connId = s.app.threadOf connId
  alone : ∀ p t, s'.app.threads.lookup p = some t → t.connId = connId
  history : s'.history = s.history.filter (Entry.isOf connId)

theorem history_next (s : Served S) (a : AppAction) (e : Effect S) :
    (s.next a e).history = s.history ++ (a.indicated ++ e.log.map .happened) :=
  List.append_assoc _ _ _

/-- What was not about the connection is not in its history. -/
theorem filter_next_of_foreign {connId : Int} {s : Served S} {a : AppAction} {e : Effect S}
    (ha : ∀ x ∈ a.indicated, x.isOf connId = false)
    (he : ∀ h ∈ e.log, h.connId ≠ some connId) :
    (s.next a e).history.filter (Entry.isOf connId) = s.history.filter (Entry.isOf connId) := by
  have hnone : (a.indicated ++ e.log.map Entry.happened).filter (Entry.isOf connId) = [] := by
    rw [List.filter_eq_nil_iff]
    intro x hx
    rw [Bool.not_eq_true]
    rcases List.mem_append.mp hx with hx | hx
    · exact ha x hx
    · obtain ⟨h, hh, rfl⟩ := List.mem_map.mp hx
      exact decide_eq_false (he h hh)
  rw [history_next, List.filter_append, hnone, List.append_nil]

theorem filter_next_of_own {connId : Int} {s : Served S} {a : AppAction} {e : Effect S}
    (ha : ∀ x ∈ a.indicated, x.isOf connId = true)
    (he : ∀ h ∈ e.log, h.connId = some connId) :
    (s.next a e).history.filter (Entry.isOf connId) =
      s.history.filter (Entry.isOf connId) ++ (a.indicated ++ e.log.map .happened) := by
  have hall : (a.indicated ++ e.log.map Entry.happened).filter (Entry.isOf connId) =
      a.indicated ++ e.log.map Entry.happened := by
    rw [List.filter_eq_self]
    intro x hx
    rcases List.mem_append.mp hx with hx | hx
    · exact ha x hx
    · obtain ⟨h, hh, rfl⟩ := List.mem_map.mp hx
      exact decide_eq_true (he h hh)
  rw [history_next, List.filter_append, hall]

section Steps

variable {connId : Int} {s s' : Served S} {a : AppAction} {p q : ThreadPtr} {t t' : Thread S}

theorem settle_connId {app : GenericTCPApplication S} {h : Happening}
    (hh : h ∈ (app.settle p t).log) : h.connId = some t.connId := by
  rw [settle_log] at hh
  split at hh
  · rw [List.mem_singleton.mp hh]
    rfl
  · cases hh

/-- A callback of another thread, after what is in `log`. -/
theorem Alike.foreign (h : Alike connId s s') (log : List Happening)
    (ht : s.app.threads.lookup p = some t) (hconn : t'.connId = t.connId) (hne : t.connId ≠ connId)
    (ha : ∀ x ∈ a.indicated, x.isOf connId = false) (hlog : ∀ x ∈ log, x.connId ≠ some connId) :
    Alike connId
      (s.next a { s.app.settle p t' with log := log ++ (s.app.settle p t').log }) s' where
  isServer := (settle_same s.app p t').1.trans h.isServer
  isServer' := h.isServer'
  threads := h.threads.settle ht hconn
  threads' := h.threads'
  maxThreadCount := h.maxThreadCount.trans (settle_same s.app p t').2.symm
  threadOf := by
    show _ = (s.app.settle p t').app.threadOf connId
    rw [threadOf_settle h.threads ht hconn, if_neg hne]
    exact h.threadOf
  alone := h.alone
  history := by
    rw [filter_next_of_foreign ha]
    · exact h.history
    · intro x hx heq
      rcases List.mem_append.mp hx with hx | hx
      · exact hlog x hx heq
      · rw [settle_connId hx, hconn] at heq
        exact hne (Option.some.inj heq)

/-- The server that works for the connection alone has its thread too. -/
theorem Alike.lookup (h : Alike connId s s') (ht : s.app.threads.lookup p = some t)
    (hown : t.connId = connId) : s'.app.threads.lookup p = some t := by
  have hthread : s'.app.threadOf connId = some (p, t) :=
    h.threadOf.trans ((threadOf_eq_some h.threads).mpr ⟨ht, hown⟩)
  exact ((threadOf_eq_some h.threads').mp hthread).1

/-- Its threads are threads of the other server. -/
theorem Alike.notMem (h : Alike connId s s') (hq : q ∉ s.app.threads) : q ∉ s'.app.threads := by
  intro hmem
  obtain ⟨t, ht⟩ := Option.isSome_iff_exists.mp (AList.lookup_isSome.mpr hmem)
  have hthread := h.threadOf.symm.trans
    ((threadOf_eq_some h.threads').mpr ⟨ht, h.alone q t ht⟩)
  exact hq (mem_of_lookup ((threadOf_eq_some h.threads).mp hthread).1)

/-- A callback of the thread of the connection, in both servers. -/
theorem Alike.own (h : Alike connId s s') (log : List Happening)
    (ht : s.app.threads.lookup p = some t) (hconn : t'.connId = t.connId) (hown : t.connId = connId)
    (ha : ∀ x ∈ a.indicated, x.isOf connId = true) (hlog : ∀ x ∈ log, x.connId = some connId) :
    Alike connId (s.next a { s.app.settle p t' with log := log ++ (s.app.settle p t').log })
      (s'.next a { s'.app.settle p t' with log := log ++ (s'.app.settle p t').log }) := by
  have ht' := h.lookup ht hown
  have hsettled := h.threads'.settle ht' hconn
  have hsame : (s'.app.settle p t').log = (s.app.settle p t').log := by
    rw [settle_log, settle_log]
  refine ⟨(settle_same s.app p t').1.trans h.isServer,
    (settle_same s'.app p t').1.trans h.isServer', h.threads.settle ht hconn, hsettled,
    (settle_same s'.app p t').2.trans (h.maxThreadCount.trans (settle_same s.app p t').2.symm),
    ?_, ?_, ?_⟩
  · show (s'.app.settle p t').app.threadOf connId = (s.app.settle p t').app.threadOf connId
    rw [threadOf_settle h.threads' ht' hconn, threadOf_settle h.threads ht hconn, h.threadOf]
  · -- a thread that is there afterwards is the one of the callback, or was there before
    intro q x hx
    have hx' := (threadOf_eq_some hsettled).mpr ⟨hx, rfl⟩
    rw [threadOf_settle h.threads' ht' hconn] at hx'
    split at hx'
    · rename_i heq
      exact heq.symm.trans hown
    · exact h.alone q x ((threadOf_eq_some h.threads').mp hx').1
  · have hall : ∀ x ∈ log ++ (s.app.settle p t').log, x.connId = some connId := by
      intro x hx
      rcases List.mem_append.mp hx with hx | hx
      · exact hlog x hx
      · rw [settle_connId hx, hconn, hown]
    rw [filter_next_of_own ha hall, history_next, hsame, h.history]

/-- The same thread gets into both tables. -/
theorem Alike.addThread (h : Alike connId s s') (hq : q ∉ s.app.threads) (hown : t.connId = connId)
    (hnone : s.app.socketMap.lookup connId = none) :
    Alike connId { s with app := s.app.addThread q t } { s' with app := s'.app.addThread q t } := by
  subst hown
  have hnone' : s'.app.socketMap.lookup t.connId = none :=
    (threadOf_eq_none h.threads').mp
      (h.threadOf.trans ((threadOf_eq_none h.threads).mpr hnone))
  refine ⟨h.isServer, h.isServer', h.threads.addThread hq (notMem_of_lookup_none hnone),
    h.threads'.addThread (h.notMem hq) (notMem_of_lookup_none hnone'), h.maxThreadCount, ?_, ?_,
    h.history⟩
  · show (s'.app.addThread q t).threadOf t.connId = (s.app.addThread q t).threadOf t.connId
    rw [threadOf_addThread h.threads' (h.notMem hq) hnone', threadOf_addThread h.threads hq hnone,
      h.threadOf]
  · exact forall_lookup_insert h.alone q rfl

theorem Alike.addForeign (h : Alike connId s s') (hq : q ∉ s.app.threads)
    (hne : t.connId ≠ connId) (hnone : s.app.socketMap.lookup t.connId = none) :
    Alike connId { s with app := s.app.addThread q t } s' where
  isServer := h.isServer
  isServer' := h.isServer'
  threads := h.threads.addThread hq (notMem_of_lookup_none hnone)
  threads' := h.threads'
  maxThreadCount := h.maxThreadCount
  threadOf := by
    show _ = (s.app.addThread q t).threadOf connId
    rw [threadOf_addThread h.threads hq hnone, if_neg hne]
    exact h.threadOf
  alone := h.alone
  history := h.history

/-- Without its thread there is none. -/
theorem Alike.empty (h : Alike connId s s') (hnone : s.app.socketMap.lookup connId = none) :
    s'.app.threadCount = 0 := by
  have hthread : s'.app.threadOf connId = none :=
    h.threadOf.trans ((threadOf_eq_none h.threads).mpr hnone)
  have hlist : s'.app.threadList = [] := by
    refine List.eq_nil_iff_forall_not_mem.mpr fun p hp => ?_
    obtain ⟨t, ht⟩ := Option.isSome_iff_exists.mp
      (AList.lookup_isSome.mpr ((h.threads'.list p).mp hp))
    rw [(threadOf_eq_some h.threads').mpr ⟨ht, h.alone p t ht⟩] at hthread
    cases hthread
  rw [h.threads'.count, hlist]
  rfl

/-! ## The steps -/

theorem callback_ok {app : GenericTCPApplication S} (h : Consistent app)
    (hserver : app.isServer = true) (ht : app.threads.lookup p = some t)
    {x : Except AppFault (Thread S)} {e : Effect S} (hok : (x >>= app.finishCallback p) = .ok e) :
    ∃ t', x = .ok t' ∧ e = app.settle p t' := by
  cases x with
  | error f => cases hok
  | ok t' =>
      rw [ok_bind, finishCallback_eq hserver ((h.list p).mpr (mem_of_lookup ht))] at hok
      exact ⟨t', rfl, (Except.ok.inj hok).symm⟩

theorem ok_callback {app : GenericTCPApplication S} (h : Consistent app)
    (hserver : app.isServer = true) (ht : app.threads.lookup p = some t)
    {x : Except AppFault (Thread S)} (hx : x = .ok t') :
    (x >>= app.finishCallback p) = .ok (app.settle p t') := by
  rw [hx, ok_bind, finishCallback_eq hserver ((h.list p).mpr (mem_of_lookup ht))]

theorem handleMessage_known {app : GenericTCPApplication S} {connId : Int}
    (hp : app.socketMap.lookup connId = some p) (ind : Indication) (d : Draw) (q : ThreadPtr) :
    app.handleMessage connId ind d q = app.processMessage p ind d := by
  unfold handleMessage
  rw [hp]

theorem handleMessage_new {app : GenericTCPApplication S} {connId : Int}
    (hserver : app.isServer = true) (hnone : app.socketMap.lookup connId = none)
    (hroom : app.threadCount < app.maxThreadCount) (ind : Indication) (d : Draw) (q : ThreadPtr) :
    app.handleMessage connId ind d q =
      ((app.addThread q ⟨connId, .server .init⟩).processMessage q ind d >>= fun e =>
        .ok { e with log := .created connId :: e.log }) := by
  have hnot : ¬ ((!app.isServer) = true) := by rw [hserver]; exact Bool.false_ne_true
  unfold handleMessage
  rw [hnone]
  dsimp only
  rw [if_neg hnot, if_neg (not_le.mpr hroom)]
  rfl

theorem handleMessage_full {app : GenericTCPApplication S} {connId : Int} {ind : Indication}
    {d : Draw} {e : Effect S} (hserver : app.isServer = true)
    (hnone : app.socketMap.lookup connId = none) (hfull : app.maxThreadCount ≤ app.threadCount)
    (hok : app.handleMessage connId ind d q = .ok e) :
    e = { app := app, log := [.refused connId] } := by
  have hnot : ¬ ((!app.isServer) = true) := by rw [hserver]; exact Bool.false_ne_true
  unfold handleMessage at hok
  rw [hnone] at hok
  dsimp only at hok
  rw [if_neg hnot, if_pos hfull] at hok
  split at hok
  · split at hok
    · cases hok
    · exact (Except.ok.inj hok).symm
  · exact (Except.ok.inj hok).symm

/-- An action of the connection is possible in both servers. -/
theorem Alike.step_own (h : Alike connId s s') {s₁ : Served S} (hstep : (tcpServer S).step s a s₁)
    (hown : a.isOf connId s.app = true) (hroom : FindsRoom connId s a) :
    ∃ s₁', (tcpServer S).step s' a s₁' ∧ Alike connId s₁ s₁' := by
  obtain ⟨henabled, e, hok, rfl⟩ := hstep
  cases a with
  | timer p d =>
      obtain ⟨t, ht, hmsg⟩ := henabled
      have hconn : t.connId = connId := by
        dsimp only [AppAction.isOf] at hown
        rw [ht] at hown
        exact of_decide_eq_true hown
      rw [show s.app.apply (.timer p d) = _ from timerExpired_eq ht d] at hok
      obtain ⟨t', hx, rfl⟩ := callback_ok h.threads h.isServer ht hok
      have ht' := h.lookup ht hconn
      have hok' : s'.app.apply (.timer p d) = .ok (s'.app.settle p t') :=
        (timerExpired_eq ht' d).trans (ok_callback h.threads' h.isServer' ht' hx)
      exact ⟨_, ⟨⟨t, ht', hmsg⟩, _, hok', rfl⟩,
        h.own [] ht ((t.timerExpired_connId d).of_ok hx) hconn nofun nofun⟩
  | indication x ind d q =>
      have hx : x = connId := of_decide_eq_true hown
      subst hx
      have hindicated : ∀ y ∈ (AppAction.indication x ind d q).indicated, y.isOf x = true := by
        intro y hy
        rw [List.mem_singleton.mp hy]
        exact decide_eq_true rfl
      cases hp : s.app.socketMap.lookup x with
      | some p =>
          obtain ⟨_, t, ht, hconn, rfl⟩ := h.threads.indexed.object x p hp
          rw [show s.app.apply (.indication x ind d q) = _ from
            (handleMessage_known hp ind d q).trans (processMessage_eq ht ind d)] at hok
          obtain ⟨t', hx', rfl⟩ := callback_ok h.threads h.isServer ht hok
          have ht' := h.lookup ht hconn
          have hp' : s'.app.socketMap.lookup x = some p :=
            hconn ▸ h.threads'.indexed.entry p t ht'
          have hok' : s'.app.apply (.indication x ind d q) = .ok (s'.app.settle p t') :=
            (handleMessage_known hp' ind d q).trans ((processMessage_eq ht' ind d).trans
              (ok_callback h.threads' h.isServer' ht' hx'))
          exact ⟨_, ⟨h.notMem henabled, _, hok', rfl⟩,
            h.own [] ht ((t.indicate_connId ind d).of_ok hx') hconn hindicated nofun⟩
      | none =>
          -- the new thread is the only one of the second server
          have hroom := hroom rfl (notMem_of_lookup_none hp)
          have hroom' : s'.app.threadCount < s'.app.maxThreadCount := by
            have hcount := h.threads.count
            rw [h.empty hp, h.maxThreadCount]
            omega
          have hp' : s'.app.socketMap.lookup x = none :=
            (threadOf_eq_none h.threads').mp
              (h.threadOf.trans ((threadOf_eq_none h.threads).mpr hp))
          have hadded := h.addThread (t := ⟨x, .server .init⟩) henabled rfl hp
          have ht : (s.app.addThread q ⟨x, .server .init⟩).threads.lookup q =
              some ⟨x, .server .init⟩ := AList.lookup_insert _
          have ht' : (s'.app.addThread q ⟨x, .server .init⟩).threads.lookup q =
              some ⟨x, .server .init⟩ := AList.lookup_insert _
          rw [show s.app.apply (.indication x ind d q) = _ from
            handleMessage_new h.isServer hp hroom ind d q, processMessage_eq ht] at hok
          obtain ⟨e', he', hok⟩ := ok_of_bind hok
          obtain ⟨t', hx', rfl⟩ := callback_ok hadded.threads hadded.isServer ht he'
          cases hok
          have hok' : s'.app.apply (.indication x ind d q) = .ok
              { (s'.app.addThread q ⟨x, .server .init⟩).settle q t' with
                log := .created x ::
                  ((s'.app.addThread q ⟨x, .server .init⟩).settle q t').log } := by
            refine (handleMessage_new h.isServer' hp' hroom' ind d q).trans ?_
            rw [processMessage_eq ht', ok_callback hadded.threads' hadded.isServer' ht' hx']
            rfl
          refine ⟨_, ⟨h.notMem henabled, _, hok', rfl⟩, ?_⟩
          refine hadded.own [.created x] ht
            ((Thread.indicate_connId _ ind d).of_ok hx') rfl hindicated ?_
          intro y hy
          rw [List.mem_singleton.mp hy]
          rfl
  | transmissionStart p transmission d x q =>
      have hclient := ((s.app.transmissionStart_spec p transmission d x q).of_ok hok).1
      rw [h.isServer] at hclient
      cases hclient

/-- An action of another connection leaves this one alone. -/
theorem Alike.step_foreign (h : Alike connId s s') {s₁ : Served S}
    (hstep : (tcpServer S).step s a s₁) (hforeign : a.isOf connId s.app = false) :
    Alike connId s₁ s' := by
  obtain ⟨henabled, e, hok, rfl⟩ := hstep
  cases a with
  | timer p d =>
      obtain ⟨t, ht, -⟩ := henabled
      have hconn : t.connId ≠ connId := by
        dsimp only [AppAction.isOf] at hforeign
        rw [ht] at hforeign
        exact of_decide_eq_false hforeign
      rw [show s.app.apply (.timer p d) = _ from timerExpired_eq ht d] at hok
      obtain ⟨t', hx, rfl⟩ := callback_ok h.threads h.isServer ht hok
      exact h.foreign [] ht ((t.timerExpired_connId d).of_ok hx) hconn nofun nofun
  | indication x ind d q =>
      have hx : x ≠ connId := of_decide_eq_false hforeign
      have hindicated : ∀ y ∈ (AppAction.indication x ind d q).indicated,
          y.isOf connId = false := by
        intro y hy
        rw [List.mem_singleton.mp hy]
        exact hforeign
      have hunlike : ∀ y : Happening, y.connId = some x → y.connId ≠ some connId :=
        fun y hy heq => hx (Option.some.inj (hy.symm.trans heq))
      cases hp : s.app.socketMap.lookup x with
      | some p =>
          obtain ⟨_, t, ht, hconn, rfl⟩ := h.threads.indexed.object x p hp
          rw [show s.app.apply (.indication x ind d q) = _ from
            (handleMessage_known hp ind d q).trans (processMessage_eq ht ind d)] at hok
          obtain ⟨t', hx', rfl⟩ := callback_ok h.threads h.isServer ht hok
          exact h.foreign [] ht ((t.indicate_connId ind d).of_ok hx') (hconn ▸ hx)
            hindicated nofun
      | none =>
          by_cases hroom : s.app.threadCount < s.app.maxThreadCount
          · have hadded := h.addForeign (t := ⟨x, .server .init⟩) henabled hx hp
            have ht : (s.app.addThread q ⟨x, .server .init⟩).threads.lookup q =
                some ⟨x, .server .init⟩ := AList.lookup_insert _
            rw [show s.app.apply (.indication x ind d q) = _ from
              handleMessage_new h.isServer hp hroom ind d q, processMessage_eq ht] at hok
            obtain ⟨e', he', hok⟩ := ok_of_bind hok
            obtain ⟨t', hx', rfl⟩ := callback_ok hadded.threads hadded.isServer ht he'
            cases hok
            refine hadded.foreign [.created x] ht
              ((Thread.indicate_connId _ ind d).of_ok hx') hx hindicated ?_
            intro y hy
            rw [List.mem_singleton.mp hy]
            exact hunlike _ rfl
          · -- refused, which is written down for the other connection
            obtain rfl := handleMessage_full h.isServer hp (not_lt.mp hroom) hok
            refine ⟨h.isServer, h.isServer', h.threads, h.threads', h.maxThreadCount, h.threadOf,
              h.alone, ?_⟩
            rw [filter_next_of_foreign hindicated]
            · exact h.history
            · intro y hy
              rw [List.mem_singleton.mp hy]
              exact hunlike _ rfl
  | transmissionStart p transmission d x q =>
      have hclient := ((s.app.transmissionStart_spec p transmission d x q).of_ok hok).1
      rw [h.isServer] at hclient
      cases hclient

end Steps

/-! ## The runs -/

theorem alike_init {s : Served S} (hinit : (tcpServer S).init s) (connId : Int) :
    Alike connId s s := by
  obtain ⟨noThreads, rfl⟩ := hinit
  exact ⟨rfl, rfl, .initializeModule true noThreads, .initializeModule true noThreads, rfl, rfl,
    forall_lookup_empty, rfl⟩

/-- The run of the second server. -/
theorem Alike.run {connId : Int} {s s' : Served S} (h : Alike connId s s')
    {tr : List (AppAction × Served S)} (hrun : (tcpServer S).Run s tr)
    (hroom : TSys.Guarded (FindsRoom connId) s tr) :
    ∃ tr', (tcpServer S).Run s' tr' ∧ tr'.map Prod.fst = ownActions connId s tr ∧
      Alike connId (TSys.finish s tr) (TSys.finish s' tr') := by
  induction tr generalizing s s' with
  | nil => exact ⟨[], trivial, rfl, h⟩
  | cons step rest ih =>
      obtain ⟨a, s₁⟩ := step
      obtain ⟨hstep, hrest⟩ := hrun
      cases hown : a.isOf connId s.app with
      | true =>
          obtain ⟨s₁', hstep', h₁⟩ := h.step_own hstep hown hroom.1
          obtain ⟨tr', hrun', hactions, hend⟩ := ih h₁ hrest hroom.2
          refine ⟨(a, s₁') :: tr', ⟨hstep', hrun'⟩, ?_, hend⟩
          rw [ownActions, if_pos hown, ← hactions]
          rfl
      | false =>
          obtain ⟨tr', hrun', hactions, hend⟩ := ih (h.step_foreign hstep hown) hrest hroom.2
          refine ⟨tr', hrun', ?_, hend⟩
          rw [ownActions, if_neg (Bool.eq_false_iff.mp hown)]
          exact hactions

/-- The actions of a connection that finds room are a run by themselves, which leaves the
connection with the same thread and the same history. -/
theorem connection_isolated {s : Served S} (hinit : (tcpServer S).init s)
    {tr : List (AppAction × Served S)} (hrun : (tcpServer S).Run s tr) (connId : Int)
    (hroom : TSys.Guarded (FindsRoom connId) s tr) :
    ∃ tr', (tcpServer S).Run s tr' ∧ tr'.map Prod.fst = ownActions connId s tr ∧
      (TSys.finish s tr').app.threadOf connId = (TSys.finish s tr).app.threadOf connId ∧
      (TSys.finish s tr').history =
        (TSys.finish s tr).history.filter (Entry.isOf connId) := by
  obtain ⟨tr', hrun', hactions, hend⟩ := (alike_init hinit connId).run hrun hroom
  exact ⟨tr', hrun', hactions, hend.threadOf, hend.history⟩

/-! ### Two connections on a server with two threads -/

def twoThreadServer : Served inetSocket := ⟨initializeModule true 2, []⟩

/-- A request for a reply of 20 bytes, after some time. -/
def slowRequest : GenericApplicationMessage where
  byteLength := 10
  replyLength := 20
  replyPerRequest := 1
  timeToRespond := 1
  last := true
  packetNumber := 1

/-- The requests of two connections cross, and a third connection is refused. -/
def crossing : List (AppAction × Served inetSocket) :=
  TSys.trace Served.step twoThreadServer
    [indicate 1 .established 0, indicate 2 .established 1, indicate 3 .established 2,
      indicate 2 (.data slowRequest) 2, indicate 1 (.data slowRequest) 2, .timer 1 ⟨0, 0, 0⟩,
      indicate 2 .closed 2, .timer 0 ⟨0, 0, 0⟩]

theorem connection_isolated_crossing :
    ∃ tr', (tcpServer inetSocket).Run twoThreadServer tr' ∧
      tr'.map Prod.fst = ownActions 1 twoThreadServer crossing ∧
      (TSys.finish twoThreadServer tr').app.threadOf 1 =
        (TSys.finish twoThreadServer crossing).app.threadOf 1 ∧
      (TSys.finish twoThreadServer tr').history =
        (TSys.finish twoThreadServer crossing).history.filter (Entry.isOf 1) :=
  connection_isolated ⟨2, rfl⟩ (run_served _ _) 1 (by decide +kernel)

/-- All of it happens, and the first connection has three of the eight actions. -/
example : crossing.length = 8 ∧ (ownActions 1 twoThreadServer crossing).length = 3 := by
  decide +kernel

end ScadaSim.TcpApp
