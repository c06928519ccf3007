import ScadaSim.TcpApp.Application

/-!
# The thread table of the TCP application

What each operation does to the threads and what it reports, said once; and the
list, the map and the count, which describe the same threads all along: `Consistent`.
-/

namespace ScadaSim.TcpApp

open Lib

namespace GenericTCPApplication

variable {S : TCPSocket}

/-! ## Specifications of the operations -/

theorem removeThread_spec (app : GenericTCPApplication S) (p : ThreadPtr) :
    Post (fun e => ∃ t, p ∈ app.threadList ∧ app.threads.lookup p = some t ∧
      e = ⟨app.dropThread p t.connId, [.removed t.connId]⟩) (app.removeThread p) := by
  unfold removeThread
  split
  · rename_i hmem
    split
    · exact Post.error _
    · rename_i t ht
      exact ⟨t, hmem, ht, rfl⟩
  · exact Post.error _

/-- The thread `t` at `p` has run a callback: it is kept, as the same thread of the
same connection, or it is removed, and a client thread reports its transmission. -/
inductive Finished (app : GenericTCPApplication S) (p : ThreadPtr) (t : Thread S) : Effect S → Prop
  | kept (t' : Thread S) : t'.connId = t.connId → t'.transmission = t.transmission →
      Finished app p t ⟨app.setThread p t', []⟩
  | removed (t' : Thread S) : t'.connId = t.connId → t'.transmission = t.transmission →
      p ∈ app.threadList → t.transmission = none →
      Finished app p t ⟨(app.setThread p t').dropThread p t.connId, [.removed t.connId]⟩
  | reported (t' : Thread S) (transmission : Nat) (stat : Traffic.TransmissionStatistics) :
      t'.connId = t.connId → t'.transmission = t.transmission → p ∈ app.threadList →
      t.transmission = some transmission →
      Finished app p t ⟨(app.setThread p t').dropThread p t.connId,
        .removed t.connId :: if !app.isServer then [.reported transmission stat] else []⟩

theorem finishCallback_spec (app : GenericTCPApplication S) (p : ThreadPtr) (t t' : Thread S)
    (hconn : t'.connId = t.connId) (htrans : t'.transmission = t.transmission) :
    Post (app.Finished p t) (app.finishCallback p t') := by
  have hremove : Post (fun e => p ∈ app.threadList ∧
      e = ⟨(app.setThread p t').dropThread p t.connId, [.removed t.connId]⟩)
      ((app.setThread p t').removeThread p) := by
    refine ((app.setThread p t').removeThread_spec p).mono ?_
    rintro _ ⟨x, hmem, hx, rfl⟩
    rw [show (app.setThread p t').threads.lookup p = some t' from AList.lookup_insert _] at hx
    cases hx
    exact ⟨hmem, by rw [hconn]⟩
  unfold finishCallback
  cases hrole : t'.role with
  | server v =>
      dsimp only
      split
      · exact .kept t' hconn htrans
      · refine hremove.mono ?_
        rintro _ ⟨hmem, rfl⟩
        exact .removed t' hconn htrans hmem (htrans ▸ by simp [Thread.transmission, hrole])
  | client transmission c =>
      dsimp only
      split
      · exact .kept t' hconn htrans
      · rename_i stat _
        refine hremove.bind ?_
        rintro _ ⟨hmem, rfl⟩
        exact .reported t' transmission stat.passed hconn htrans hmem
          (htrans ▸ by simp [Thread.transmission, hrole])

theorem timerExpired_spec (app : GenericTCPApplication S) (p : ThreadPtr) (d : Draw) :
    Post (fun e => ∃ t, app.threads.lookup p = some t ∧ app.Finished p t e)
      (app.timerExpired p d) := by
  unfold timerExpired
  split
  · exact Post.error _
  · rename_i connId v ht
    refine Post.bind_any fun v' => ?_
    have hfinish := app.finishCallback_spec p ⟨connId, .server v⟩ ⟨connId, .server v'⟩ rfl rfl
    exact hfinish.mono fun _ he => ⟨_, ht, he⟩
  · rename_i connId transmission c ht
    refine Post.bind_any fun c' => ?_
    exact (app.finishCallback_spec p ⟨connId, .client transmission c⟩
      ⟨connId, .client transmission c'⟩ rfl rfl).mono fun _ he => ⟨_, ht, he⟩

theorem processMessage_spec (app : GenericTCPApplication S) (p : ThreadPtr) (ind : Indication)
    (d : Draw) :
    Post (fun e => ∃ t, app.threads.lookup p = some t ∧ app.Finished p t e)
      (app.processMessage p ind d) := by
  unfold processMessage
  split
  · exact Post.error _
  · rename_i connId v ht
    refine Post.bind_any fun v' => ?_
    have hfinish := app.finishCallback_spec p ⟨connId, .server v⟩ ⟨connId, .server v'⟩ rfl rfl
    exact hfinish.mono fun _ he => ⟨_, ht, he⟩
  · rename_i connId transmission c ht
    refine Post.bind_any fun c' => ?_
    exact (app.finishCallback_spec p ⟨connId, .client transmission c⟩
      ⟨connId, .client transmission c'⟩ rfl rfl).mono fun _ he => ⟨_, ht, he⟩

/-! ## The table -/

/-- List, map and count describe the threads that are alive. -/
structure Consistent (app : GenericTCPApplication S) : Prop where
  indexed : Indexed Thread.connId (fun p _ => p) app.threads app.socketMap
  list : ∀ p, p ∈ app.threadList ↔ p ∈ app.threads
  nodup : app.threadList.Nodup
  count : app.threadCount = app.threadList.length

namespace Consistent

variable {app : GenericTCPApplication S}

theorem initializeModule (isServer : Bool) (noThreads : Int) :
    Consistent (S := S) (initializeModule isServer noThreads) where
  indexed := .empty _ _
  list := fun _ => by simp [GenericTCPApplication.initializeModule]
  nodup := List.nodup_nil
  count := rfl

theorem setThread (h : Consistent app) {p : ThreadPtr} {t t' : Thread S}
    (ht : app.threads.lookup p = some t) (hconn : t'.connId = t.connId) :
    Consistent (app.setThread p t') where
  indexed := h.indexed.update ht hconn rfl
  list := by
    intro q
    show q ∈ app.threadList ↔ q ∈ app.threads.insert p t'
    rw [h.list, AList.mem_insert]
    constructor
    · exact .inr
    · rintro (rfl | hq)
      · exact mem_of_lookup ht
      · exact hq
  nodup := h.nodup
  count := h.count

theorem dropThread (h : Consistent app) {p : ThreadPtr} {t : Thread S}
    (ht : app.threads.lookup p = some t) : Consistent (app.dropThread p t.connId) where
  indexed := h.indexed.erase (fun _ _ _ _ heq => heq) ht
  list := by
    intro q
    show q ∈ app.threadList.erase p ↔ q ∈ app.threads.erase p
    rw [h.nodup.mem_erase_iff, AList.mem_erase, h.list]
  nodup := h.nodup.erase p
  count := by
    have hmem : p ∈ app.threadList := (h.list p).mpr (mem_of_lookup ht)
    have hcount := h.count
    have hpos := List.length_pos_of_mem hmem
    show app.threadCount - 1 = ((app.threadList.erase p).length : Int)
    rw [List.length_erase_of_mem hmem]
    omega

theorem addThread (h : Consistent app) {q : ThreadPtr} {t : Thread S} (hq : q ∉ app.threads)
    (hconn : t.connId ∉ app.socketMap) : Consistent (app.addThread q t) where
  indexed := h.indexed.insert hq hconn
  list := by
    intro p
    show p ∈ app.threadList ++ [q] ↔ p ∈ app.threads.insert q t
    rw [AList.mem_insert, List.mem_append, List.mem_singleton, h.list, or_comm]
  nodup := by
    refine List.nodup_append.mpr ⟨h.nodup, List.nodup_singleton q, ?_⟩
    rintro p hp _ hmem rfl
    rw [List.mem_singleton] at hmem
    exact hq (hmem ▸ (h.list _).mp hp)
  count := by
    have hcount := h.count
    show app.threadCount + 1 = ((app.threadList ++ [q]).length : Int)
    rw [List.length_append, List.length_singleton]
    omega

theorem finished (h : Consistent app) {p : ThreadPtr} {t : Thread S} {e : Effect S}
    (ht : app.threads.lookup p = some t) (he : app.Finished p t e) : Consistent e.app := by
  have hdrop (t' : Thread S) (hconn : t'.connId = t.connId) :
      Consistent ((app.setThread p t').dropThread p t.connId) := by
    rw [← hconn]
    exact (h.setThread ht hconn).dropThread (AList.lookup_insert _)
  cases he with
  | kept t' hconn _ => exact h.setThread ht hconn
  | removed t' hconn _ _ _ => exact hdrop t' hconn
  | reported t' transmission stat hconn _ _ _ => exact hdrop t' hconn

end Consistent

/-! ## What an indication does -/

theorem notMem_of_lookup_none {app : GenericTCPApplication S} {connId : Int}
    (h : app.socketMap.lookup connId = none) : connId ∉ app.socketMap := by
  intro hmem
  rw [← AList.lookup_isSome, h] at hmem
  cases hmem

/-- An indication for a connection with a socket goes to its thread; else it is
refused, or makes a thread for itself. -/
inductive Handled (app : GenericTCPApplication S) (connId : Int) (q : ThreadPtr) : Effect S → Prop
  | thread (p : ThreadPtr) (t : Thread S) (e : Effect S) : app.socketMap.lookup connId = some p →
      app.threads.lookup p = some t → app.Finished p t e → Handled app connId q e
  | refused : app.socketMap.lookup connId = none → app.isServer = true →
      app.maxThreadCount ≤ app.threadCount → Handled app connId q ⟨app, [.refused connId]⟩
  | created (e : Effect S) : app.socketMap.lookup connId = none → app.isServer = true →
      app.threadCount < app.maxThreadCount →
      (app.addThread q ⟨connId, .server .init⟩).Finished q ⟨connId, .server .init⟩ e →
      Handled app connId q ⟨e.app, .created connId :: e.log⟩

theorem handleMessage_spec (app : GenericTCPApplication S) (connId : Int) (ind : Indication)
    (d : Draw) (q : ThreadPtr) :
    Post (app.Handled connId q) (app.handleMessage connId ind d q) := by
  unfold handleMessage
  split
  · rename_i p hp
    refine (app.processMessage_spec p ind d).mono ?_
    rintro e ⟨t, ht, he⟩
    exact .thread p t e hp ht he
  · rename_i hnone
    split
    · exact Post.error _
    · rename_i hserver
      have hserver : app.isServer = true := by simpa using hserver
      split
      · rename_i hfull
        split
        · split
          · exact Post.error _
          · exact .refused hnone hserver hfull
        · exact .refused hnone hserver hfull
      · rename_i hroom
        refine (GenericTCPApplication.processMessage_spec _ q ind d).bind ?_
        rintro e ⟨t, ht, he⟩
        rw [show (app.addThread q ⟨connId, .server .init⟩).threads.lookup q =
          some ⟨connId, .server .init⟩ from AList.lookup_insert _] at ht
        cases ht
        exact .created e hnone hserver (by omega) he

theorem Consistent.handled {app : GenericTCPApplication S} (h : Consistent app) {connId : Int}
    {q : ThreadPtr} {e : Effect S} (hq : q ∉ app.threads) (he : app.Handled connId q e) :
    Consistent e.app := by
  cases he with
  | thread p t _ _ ht he => exact h.finished ht he
  | refused => exact h
  | created e hnone _ _ he =>
      have hadd := h.addThread (t := ⟨connId, .server .init⟩) hq (notMem_of_lookup_none hnone)
      have happ : Consistent e.app := hadd.finished (AList.lookup_insert _) he
      exact happ

theorem transmissionStart_spec (app : GenericTCPApplication S) (p : Traffic.TrafficProfile)
    (transmission : Nat) (d : Traffic.Draw) (connId : Int) (q : ThreadPtr) :
    Post (fun e => app.isServer = false ∧ connId ∉ app.socketMap ∧
      ∃ c, e = ⟨app.addThread q ⟨connId, .client transmission c⟩, []⟩)
      (app.transmissionStart p transmission d connId q) := by
  unfold transmissionStart
  split
  · exact Post.error _
  · rename_i h
    rw [not_or] at h
    exact ⟨by simpa using h.1, h.2, _, rfl⟩

end GenericTCPApplication

end ScadaSim.TcpApp
