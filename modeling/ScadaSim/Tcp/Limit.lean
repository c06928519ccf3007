import Mathlib.Data.Finset.Filter
import ScadaSim.Lib.TSys
import ScadaSim.Tcp.Connection

/-!
# The connection limit

`Balanced` is what the counter is for: it is the number of live workers, and
these never exceed the limit. A SYN adds one to both. What breaks the balance
is the destructor: it takes one off for every connection, although only those
that became workers were counted.

`balanced_iff_keepsBalance` says which runs stay in balance: those in which
only workers are destroyed while the counter is positive, and no worker that is
still in LISTEN is forked from again.
-/

namespace ScadaSim.Tcp

open Lib

/-- What can happen to the module. `c` is the connection as INET's code leaves
it before the state transition, `q` the address of a new object. -/
inductive Action
  | appCommand (key : AppConnKey) (q : ConnPtr) (c : TCPConnection_hack)
      (outcome : Option TCPEventCode)
  | segmentInListen (p q : ConnPtr) (seg : TCPSegment) (srcAddr destAddr : IPvXAddress)
  | event (p : ConnPtr) (c : TCPConnection_hack) (event : TCPEventCode)
  | removeConnection (p : ConnPtr)

/-- INET's own code may change a connection, but not its role, its state or
its key. -/
structure InetChange (c c' : TCPConnection_hack) : Prop where
  worker : c'.worker = c.worker
  fsm : c'.fsm = c.fsm
  key : c'.key = c.key

namespace TCP_hack

def Enabled (tcp : TCP_hack) : Action → Prop
  | .appCommand key q c _ =>
      q ∉ tcp.live ∧
        InetChange ((tcp.findOrCreate key q).2.conn (tcp.findOrCreate key q).1) c
  | .segmentInListen p q _ _ _ => p ∈ tcp.live ∧ q ∉ tcp.live ∧ (tcp.conn p).fsm = .listen
  | .event p c event =>
      -- in LISTEN a SYN is the business of `processSegmentInListen`
      p ∈ tcp.live ∧ InetChange (tcp.conn p) c ∧ (c.fsm = .listen → event ≠ .rcvSyn)
  | .removeConnection p => p ∈ tcp.live

def apply (inet : InetTcp) (tcp : TCP_hack) : Action → TCP_hack
  | .appCommand key q c outcome => tcp.handleAppCommand inet key q c outcome
  | .segmentInListen p q seg srcAddr destAddr =>
      let (event, tcp, _) := tcp.processSegmentInListen inet p q seg srcAddr destAddr
      tcp.applyEvent inet p event
  | .event p c event => (tcp.set p c).applyEvent inet p event
  | .removeConnection p => tcp.removeConnection inet p

/-- The live connections that a SYN turned into workers. -/
def workers (tcp : TCP_hack) : Finset ConnPtr :=
  tcp.live.filter fun p => (tcp.conn p).isWorkerThread

end TCP_hack

/-- The module started with the given limit. -/
def connectionSystem (inet : InetTcp) (maxThreadCount : Int) : TSys TCP_hack Action where
  init := fun tcp => tcp = .initializeModule maxThreadCount
  step := fun tcp a tcp' => tcp.Enabled a ∧ tcp' = tcp.apply inet a

/-- The counter is the number of live workers, which is within the limit. -/
def Balanced (tcp : TCP_hack) : Prop :=
  tcp.currentConnectionCount = tcp.workers.card ∧
    (tcp.workers.card : Int) ≤ tcp.maxThreadCount

/-- The connection that the action destroys. -/
def closes (tcp : TCP_hack) : Action → Option ConnPtr
  | .appCommand key _ c (some event) =>
      match tcp.tcpAppConnMap key with
      | some p => if (c.performStateTransition event).2 then none else some p
      | none => none
  | .appCommand _ _ _ none => none
  | .segmentInListen _ _ _ _ _ => none
  | .event p c event => if (c.performStateTransition event).2 then none else some p
  | .removeConnection p => some p

/-- The connection that the action forks from, to be a worker. -/
def forks (tcp : TCP_hack) : Action → Option ConnPtr
  | .segmentInListen p _ seg _ _ =>
      if !seg.rstBit && !seg.ackBit && seg.synBit && (tcp.conn p).state.fork &&
          tcp.acceptAnotherConnection.1 then some p
      else none
  | _ => none

/-- The action destroys no counted connection but a worker, and makes a worker
only of a connection that is none. -/
structure KeepsBalance (tcp : TCP_hack) (a : Action) : Prop where
  closed : ∀ p, closes tcp a = some p →
    (tcp.conn p).isWorkerThread ∨ tcp.currentConnectionCount ≤ 0
  forked : ∀ p, forks tcp a = some p → ¬ (tcp.conn p).isWorkerThread

namespace TCP_hack

/-! ## The operations on the live connections -/

@[simp] theorem set_live (tcp : TCP_hack) (p : ConnPtr) (c : TCPConnection_hack) :
    (tcp.set p c).live = tcp.live := rfl

@[simp] theorem set_conn (tcp : TCP_hack) (p : ConnPtr) (c : TCPConnection_hack) :
    (tcp.set p c).conn p = c := Function.update_self ..

theorem mem_workers {tcp : TCP_hack} {p : ConnPtr} :
    p ∈ tcp.workers ↔ p ∈ tcp.live ∧ (tcp.conn p).worker = true := by
  unfold workers
  exact Finset.mem_filter

theorem workers_set (tcp : TCP_hack) {p : ConnPtr} {c : TCPConnection_hack}
    (hc : c.worker = (tcp.conn p).worker) : (tcp.set p c).workers = tcp.workers := by
  ext r
  rw [mem_workers, mem_workers]
  by_cases hr : r = p
  · subst hr
    simp [hc]
  · simp [set, Function.update_of_ne hr]

/-- Making the live connection at `p` a worker. -/
theorem workers_set_worker (tcp : TCP_hack) {p : ConnPtr} {c : TCPConnection_hack}
    (hp : p ∈ tcp.live) (hc : c.worker = true) :
    (tcp.set p c).workers = insert p tcp.workers := by
  ext r
  rw [mem_workers, Finset.mem_insert, mem_workers]
  by_cases hr : r = p
  · subst hr
    simp [hp, hc]
  · simp [set, hr]

theorem workers_new (tcp : TCP_hack) {q : ConnPtr} {c : TCPConnection_hack}
    (hq : q ∉ tcp.live) (hc : c.worker = false) : (tcp.new q c).workers = tcp.workers := by
  ext r
  rw [mem_workers, mem_workers]
  by_cases hr : r = q
  · subst hr
    simp [new, hq, hc]
  · simp [new, set, hr]

theorem workers_removeConnection (inet : InetTcp) (tcp : TCP_hack) (p : ConnPtr) :
    (tcp.removeConnection inet p).workers = tcp.workers.erase p := by
  have hconn : tcp.canceledHalfOpenConnection.2.conn = tcp.conn := by
    unfold canceledHalfOpenConnection
    split <;> rfl
  ext r
  rw [mem_workers, Finset.mem_erase, mem_workers]
  simp [removeConnection, destroy, hconn, and_assoc]

/-- The destructor's counting, with its floor at zero. -/
theorem removeConnection_count (inet : InetTcp) (tcp : TCP_hack) (p : ConnPtr) :
    (tcp.removeConnection inet p).currentConnectionCount =
      if tcp.currentConnectionCount ≤ 0 then tcp.currentConnectionCount
      else tcp.currentConnectionCount - 1 := by
  simp only [removeConnection, destroy, canceledHalfOpenConnection]
  split <;> rfl

@[simp] theorem removeConnection_maxThreadCount (inet : InetTcp) (tcp : TCP_hack) (p : ConnPtr) :
    (tcp.removeConnection inet p).maxThreadCount = tcp.maxThreadCount := by
  simp only [removeConnection, destroy, canceledHalfOpenConnection]
  split <;> rfl

/-! ## What a step does -/

/-- A step closes one connection, forks one worker, or leaves both the workers
and the counter alone. -/
inductive Effect (tcp tcp' : TCP_hack) (closed forked : Option ConnPtr) : Prop
  | close (p : ConnPtr) : closed = some p → forked = none → p ∈ tcp.live →
      tcp'.workers = tcp.workers.erase p →
      tcp'.currentConnectionCount =
        (if tcp.currentConnectionCount ≤ 0 then tcp.currentConnectionCount
        else tcp.currentConnectionCount - 1) → Effect tcp tcp' closed forked
  | fork (p : ConnPtr) : closed = none → forked = some p → p ∈ tcp.live →
      tcp.maxThreadCount > tcp.currentConnectionCount →
      tcp'.workers = insert p tcp.workers →
      tcp'.currentConnectionCount = tcp.currentConnectionCount + 1 →
      Effect tcp tcp' closed forked
  | same : closed = none → forked = none → tcp'.workers = tcp.workers →
      tcp'.currentConnectionCount = tcp.currentConnectionCount →
      Effect tcp tcp' closed forked

/-- The state transition of a live connection closes it or keeps its role. -/
theorem applyEvent_effect (inet : InetTcp) (tcp : TCP_hack) {p : ConnPtr}
    {c : TCPConnection_hack} (event : TCPEventCode) (hp : p ∈ tcp.live)
    (hc : c.worker = (tcp.conn p).worker) :
    Effect tcp ((tcp.set p c).applyEvent inet p event)
      (if (c.performStateTransition event).2 then none else some p) none := by
  simp only [applyEvent, set_conn]
  by_cases halive : (c.performStateTransition event).2 = true
  · rw [if_pos halive, if_pos halive]
    refine .same rfl rfl ?_ rfl
    rw [workers_set _ (by simp), workers_set _ hc]
  · rw [if_neg halive, if_neg halive]
    refine .close p rfl rfl hp ?_ ?_
    · rw [workers_removeConnection, workers_set _ hc]
    · rw [removeConnection_count]
      rfl

/-- The application map leads to live connections, each under its own key. -/
def MapLive (tcp : TCP_hack) : Prop :=
  ∀ key p, tcp.tcpAppConnMap key = some p → p ∈ tcp.live ∧ (tcp.conn p).key = key

theorem findOrCreate_of_some {tcp : TCP_hack} {key : AppConnKey} {p : ConnPtr}
    (hkey : tcp.tcpAppConnMap key = some p) (q : ConnPtr) :
    tcp.findOrCreate key q = (p, tcp) := by
  simp only [findOrCreate, hkey]

theorem findOrCreate_of_none {tcp : TCP_hack} {key : AppConnKey}
    (hkey : tcp.tcpAppConnMap key = none) (q : ConnPtr) :
    tcp.findOrCreate key q = (q, tcp.createConnection q key) := by
  simp only [findOrCreate, hkey]

theorem createConnection_conn (tcp : TCP_hack) (q : ConnPtr) (key : AppConnKey) :
    (tcp.createConnection q key).conn q =
      { appGateIndex := key.appGateIndex, connId := key.connId } := Function.update_self ..

/-- What `findOrCreate` returns is live; a connection it creates is no worker. -/
theorem findOrCreate_spec {tcp : TCP_hack} (hmap : tcp.MapLive) {q : ConnPtr}
    (hq : q ∉ tcp.live) (key : AppConnKey) :
    (∃ p, tcp.tcpAppConnMap key = some p ∧ p ∈ tcp.live ∧
      tcp.findOrCreate key q = (p, tcp)) ∨
    (tcp.tcpAppConnMap key = none ∧
      tcp.findOrCreate key q = (q, tcp.createConnection q key) ∧
      (tcp.createConnection q key).workers = tcp.workers) := by
  cases hkey : tcp.tcpAppConnMap key with
  | some p => exact .inl ⟨p, rfl, (hmap key p hkey).1, findOrCreate_of_some hkey q⟩
  | none => exact .inr ⟨rfl, findOrCreate_of_none hkey q, workers_new tcp hq rfl⟩

/-- From INIT no event leads to CLOSED. -/
theorem init_alive {c : TCPConnection_hack} (hc : c.fsm = .init) (event : TCPEventCode) :
    (c.performStateTransition event).2 = true := by
  unfold TCPConnection_hack.performStateTransition TCPConnection_hack.nextState
  rw [hc]
  cases event <;> rfl

theorem handleAppCommand_effect (inet : InetTcp) {tcp : TCP_hack} (hmap : tcp.MapLive)
    {key : AppConnKey} {q : ConnPtr} {c : TCPConnection_hack} (outcome : Option TCPEventCode)
    (hen : tcp.Enabled (.appCommand key q c outcome)) :
    Effect tcp (tcp.handleAppCommand inet key q c outcome)
      (closes tcp (.appCommand key q c outcome)) none := by
  obtain ⟨hq, hchange⟩ := hen
  rcases findOrCreate_spec hmap hq key with ⟨p, hkey, hp, hfind⟩ | ⟨hkey, hfind, hworkers⟩
  · rw [hfind] at hchange
    cases outcome with
    | some event =>
        simp only [handleAppCommand, hfind, closes, hkey]
        exact applyEvent_effect inet tcp event hp hchange.worker
    | none =>
        simp only [handleAppCommand, hfind, closes]
        exact .same rfl rfl (workers_set tcp hchange.worker) rfl
  · rw [hfind] at hchange
    have hset : ((tcp.createConnection q key).set q c).workers = tcp.workers := by
      rw [workers_set _ hchange.worker, hworkers]
    cases outcome with
    | some event =>
        have hinit : c.fsm = .init := by
          rw [hchange.fsm, createConnection_conn]
        simp only [handleAppCommand, hfind, closes, hkey, applyEvent, set_conn,
          init_alive hinit event, if_true]
        refine .same rfl rfl ?_ rfl
        rw [workers_set _ (by simp), hset]
    | none =>
        simp only [handleAppCommand, hfind, closes]
        exact .same rfl rfl hset rfl

/-- A SYN in LISTEN never closes the connection it reaches. -/
theorem listen_alive {c : TCPConnection_hack} (hc : c.fsm = .listen) {event : TCPEventCode}
    (he : event = .rcvSyn ∨ event = .ignore) : (c.performStateTransition event).2 = true := by
  unfold TCPConnection_hack.performStateTransition TCPConnection_hack.nextState
  rw [hc]
  rcases he with rfl | rfl <;> rfl

/-- The three ways `processSegmentInListen` ends: the connections are as before,
the connection was forked from, or the SYN was taken by the connection alone. -/
inductive ListenOutcome (inet : InetTcp) (tcp : TCP_hack) (p q : ConnPtr) (seg : TCPSegment)
    (srcAddr destAddr : IPvXAddress) (tcp' : TCP_hack) (forked : Option ConnPtr) : Prop
  | dropped (n : Int) : tcp' = { tcp with droppedConnections := n } → forked = none →
      ListenOutcome inet tcp p q seg srcAddr destAddr tcp' forked
  | forked (c : TCPConnection_hack) : forked = some p →
      tcp.maxThreadCount > tcp.currentConnectionCount →
      c.worker = true → c.fsm = (tcp.conn p).fsm →
      c.key = ⟨(tcp.conn p).appGateIndex, tcp.nextConnId⟩ →
      tcp' = (tcp.acceptAnotherConnection.2.addForkedConnection inet p
        ((tcp.conn p).cloneListeningConnection inet).2.setWorkerThread q
        ((tcp.conn p).cloneListeningConnection inet).1
        destAddr srcAddr seg.destPort seg.srcPort).1.set p c →
      ListenOutcome inet tcp p q seg srcAddr destAddr tcp' forked
  | alone (c : TCPConnection_hack) : forked = none → c.worker = (tcp.conn p).worker →
      c.fsm = (tcp.conn p).fsm → c.key = (tcp.conn p).key → tcp' = tcp.set p c →
      ListenOutcome inet tcp p q seg srcAddr destAddr tcp' forked

theorem processSegmentInListen_cases (inet : InetTcp) (tcp : TCP_hack) (p q : ConnPtr)
    (seg : TCPSegment) (srcAddr destAddr : IPvXAddress) :
    let r := tcp.processSegmentInListen inet p q seg srcAddr destAddr
    (r.1 = .rcvSyn ∨ r.1 = .ignore) ∧
      ListenOutcome inet tcp p q seg srcAddr destAddr r.2.1
        (forks tcp (.segmentInListen p q seg srcAddr destAddr)) := by
  have hsame : ListenOutcome inet tcp p q seg srcAddr destAddr tcp none :=
    .dropped tcp.droppedConnections rfl rfl
  simp only [processSegmentInListen, forks]
  by_cases hrst : seg.rstBit = true
  · simpa [hrst] using hsame
  by_cases hack : seg.ackBit = true
  · simpa [hrst, hack] using hsame
  by_cases hsyn : seg.synBit = true
  swap
  · -- what is neither reset nor acknowledgement nor SYN is dropped
    simpa [hrst, hack, hsyn] using hsame
  by_cases hfork : (tcp.conn p).state.fork = true
  · by_cases hroom : tcp.maxThreadCount > tcp.currentConnectionCount
    · have hacc : tcp.acceptAnotherConnection = (true, { tcp with
          currentConnectionCount := tcp.currentConnectionCount + 1
          droppedConnections := 0 }) := if_pos hroom
      simp only [hrst, hack, hsyn, hfork, hacc, if_true, Bool.false_eq_true, if_false]
      refine ⟨TCPConnection_hack.acceptSyn_event _ _ _,
        .forked _ (by simp) hroom ?_ ?_ ?_ (by rw [hacc])⟩
      · rw [TCPConnection_hack.acceptSyn_worker, addForkedConnection_worker]
        rfl
      · rw [TCPConnection_hack.acceptSyn_fsm, addForkedConnection_fsm]
        rfl
      · rw [TCPConnection_hack.acceptSyn_key, addForkedConnection_key]
        rfl
    · have hacc : tcp.acceptAnotherConnection = (false, { tcp with
          droppedConnections := tcp.droppedConnections + 1 }) := if_neg hroom
      simp only [hrst, hack, hsyn, hfork, hacc, if_true, Bool.false_eq_true, if_false]
      exact ⟨.inr trivial, .dropped _ rfl (by simp)⟩
  · simp only [hrst, hack, hsyn, hfork, if_true, Bool.false_eq_true, if_false]
    refine ⟨TCPConnection_hack.acceptSyn_event _ _ _, .alone _ (by simp) ?_ ?_ ?_ rfl⟩
    · rw [TCPConnection_hack.acceptSyn_worker, inet.updateSockPair_worker]
    · rw [TCPConnection_hack.acceptSyn_fsm, inet.updateSockPair_fsm]
    · rw [TCPConnection_hack.acceptSyn_key]
      simp [TCPConnection_hack.key]

/-- After `processSegmentInListen` the connection is still in LISTEN; a worker
was forked or nothing was counted. -/
theorem processSegmentInListen_effect (inet : InetTcp) {tcp : TCP_hack} {p q : ConnPtr}
    (seg : TCPSegment) (srcAddr destAddr : IPvXAddress) (hp : p ∈ tcp.live)
    (hq : q ∉ tcp.live) (hlisten : (tcp.conn p).fsm = .listen) :
    let tcp' := (tcp.processSegmentInListen inet p q seg srcAddr destAddr).2.1
    (tcp'.conn p).fsm = .listen ∧
      Effect tcp tcp' none (forks tcp (.segmentInListen p q seg srcAddr destAddr)) := by
  intro tcp'
  obtain ⟨-, hout⟩ := processSegmentInListen_cases inet tcp p q seg srcAddr destAddr
  rcases hout with ⟨n, htcp', hf⟩ | ⟨c, hf, hroom, hworker, hfsm, -, htcp'⟩ |
    ⟨c, hf, hworker, hfsm, -, htcp'⟩
  · have h : tcp' = { tcp with droppedConnections := n } := htcp'
    rw [h]
    exact ⟨hlisten, .same rfl hf rfl rfl⟩
  · have h : tcp' = _ := htcp'
    rw [h, set_conn, hfsm]
    refine ⟨hlisten, .fork p rfl hf hp hroom ?_ ?_⟩
    · -- the clone at `q` is new, the connection at `p` becomes a worker
      rw [acceptAnotherConnection, if_pos hroom,
        workers_set_worker _ (Finset.mem_insert_of_mem hp) hworker]
      congr 1
      exact workers_new tcp hq rfl
    · rw [acceptAnotherConnection, if_pos hroom]
      rfl
  · have h : tcp' = _ := htcp'
    rw [h, set_conn, hfsm]
    exact ⟨hlisten, .same rfl hf (workers_set tcp hworker) rfl⟩

/-- Every step is one of the three effects, as `closes` and `forks` announce. -/
theorem step_effect (inet : InetTcp) {tcp : TCP_hack} (hmap : tcp.MapLive) {a : Action}
    (hen : tcp.Enabled a) : Effect tcp (tcp.apply inet a) (closes tcp a) (forks tcp a) := by
  cases a with
  | appCommand key q c outcome => exact handleAppCommand_effect inet hmap outcome hen
  | segmentInListen p q seg srcAddr destAddr =>
      obtain ⟨hp, hq, hlisten⟩ := hen
      obtain ⟨hfsm, heffect⟩ :=
        processSegmentInListen_effect inet seg srcAddr destAddr hp hq hlisten
      have hev := (processSegmentInListen_cases inet tcp p q seg srcAddr destAddr).1
      have hstay : ∀ r : TCP_hack, (r.conn p).fsm = .listen → ∀ e : TCPEventCode,
          e = .rcvSyn ∨ e = .ignore → (r.applyEvent inet p e).workers = r.workers ∧
            (r.applyEvent inet p e).currentConnectionCount = r.currentConnectionCount := by
        intro r hr e he
        simp only [applyEvent, listen_alive hr he, if_true]
        exact ⟨workers_set r (by simp), rfl⟩
      obtain ⟨hw, hc⟩ := hstay _ hfsm _ hev
      cases heffect with
      | close r hnone _ _ _ _ => cases hnone
      | fork r _ hf hr hroom hworkers hcount =>
          exact .fork r rfl hf hr hroom (hw.trans hworkers) (hc.trans hcount)
      | same _ hf hworkers hcount =>
          exact .same rfl hf (hw.trans hworkers) (hc.trans hcount)
  | event p c event => exact applyEvent_effect inet tcp event hen.1 hen.2.1.worker
  | removeConnection p =>
      exact .close p rfl rfl hen (workers_removeConnection inet tcp p)
        (removeConnection_count inet tcp p)

/-! ## The invariant -/

theorem mapLive_set {tcp : TCP_hack} (hmap : tcp.MapLive) {p : ConnPtr}
    {c : TCPConnection_hack} (hc : c.key = (tcp.conn p).key) : (tcp.set p c).MapLive := by
  intro key r hr
  obtain ⟨hlive, hkey⟩ := hmap key r hr
  refine ⟨hlive, ?_⟩
  by_cases hrp : r = p
  · subst hrp
    rw [set_conn, hc, hkey]
  · simp [set, hrp, hkey]

theorem mapLive_createConnection {tcp : TCP_hack} (hmap : tcp.MapLive) {q : ConnPtr}
    (hq : q ∉ tcp.live) (key : AppConnKey) : (tcp.createConnection q key).MapLive := by
  intro key' r hr
  by_cases hk : key' = key
  · subst hk
    have : q = r := by simpa [createConnection] using hr
    subst this
    simp [createConnection, new, TCPConnection_hack.key]
  · have hr' : tcp.tcpAppConnMap key' = some r := by simpa [createConnection, hk] using hr
    obtain ⟨hlive, hkey⟩ := hmap key' r hr'
    have hrq : r ≠ q := by
      rintro rfl
      exact hq hlive
    exact ⟨Finset.mem_insert_of_mem hlive, by simp [createConnection, new, set, hrq, hkey]⟩

theorem mapLive_removeConnection (inet : InetTcp) {tcp : TCP_hack} (hmap : tcp.MapLive)
    (p : ConnPtr) :
    (tcp.removeConnection inet p).MapLive := by
  have hconn : tcp.canceledHalfOpenConnection.2.conn = tcp.conn := by
    unfold canceledHalfOpenConnection
    split <;> rfl
  intro key r hr
  by_cases hk : key = (tcp.conn p).key
  · subst hk
    simp [removeConnection, inet.removeConnection_self] at hr
  · have hr' : tcp.tcpAppConnMap key = some r := by
      simpa [removeConnection, inet.removeConnection_of_ne _ _ _ hk] using hr
    obtain ⟨hlive, hkey⟩ := hmap key r hr'
    -- an entry for `p` would stand under the key just erased
    have hrp : r ≠ p := by
      rintro rfl
      exact hk hkey.symm
    refine ⟨Finset.mem_erase.mpr ⟨hrp, hlive⟩, ?_⟩
    show (tcp.canceledHalfOpenConnection.2.conn r).key = key
    rw [hconn, hkey]

theorem mapLive_applyEvent (inet : InetTcp) {tcp : TCP_hack} (hmap : tcp.MapLive) (p : ConnPtr)
    (event : TCPEventCode) : (tcp.applyEvent inet p event).MapLive := by
  simp only [applyEvent]
  split
  · refine mapLive_set hmap ?_
    unfold TCPConnection_hack.performStateTransition
    split <;> rfl
  · exact mapLive_removeConnection inet hmap p

/-- The fork leaves the clone under the old key and the worker under its new
one, whatever stood there before. -/
theorem mapLive_addForkedConnection (inet : InetTcp) {tcp : TCP_hack} (hmap : tcp.MapLive)
    {p q : ConnPtr} (hp : p ∈ tcp.live) (hq : q ∉ tcp.live) {this clone c : TCPConnection_hack}
    (hthis : this.key = (tcp.conn p).key) (hclone : clone.key = this.key)
    (localAddr remoteAddr : IPvXAddress) (localPort remotePort : Nat)
    (hc : c.key = (tcp.addForkedConnection inet p this q clone localAddr remoteAddr
      localPort remotePort).2.key) :
    ((tcp.addForkedConnection inet p this q clone localAddr remoteAddr
      localPort remotePort).1.set p c).MapLive := by
  have hqp : q ≠ p := by
    rintro rfl
    exact hq hp
  intro key r hr
  simp only [addForkedConnection, set, new] at hc hr ⊢
  rw [← hc] at hr
  by_cases hold : key = this.key
  · rw [hold, inet.addForkedConnection_clone] at hr
    cases hr
    rw [Function.update_of_ne hqp, Function.update_self, hclone, hold]
    exact ⟨Finset.mem_insert_self _ _, rfl⟩
  by_cases hnew : key = c.key
  · -- the new key, which may have had another owner before
    rw [hnew, inet.addForkedConnection_forked _ _ _ _ _ (hnew ▸ hold)] at hr
    cases hr
    rw [Function.update_self, hnew]
    exact ⟨Finset.mem_insert_of_mem hp, rfl⟩
  · rw [inet.addForkedConnection_of_ne _ _ _ _ _ _ hold hnew] at hr
    -- an entry that stays is neither the one of `p` nor of the clone
    obtain ⟨hlive, hkey⟩ := hmap key r hr
    have hrp : r ≠ p := by
      rintro rfl
      exact hold (hkey.symm.trans hthis.symm)
    have hrq : r ≠ q := by
      rintro rfl
      exact hq hlive
    rw [Function.update_of_ne hrp, Function.update_of_ne hrq]
    exact ⟨Finset.mem_insert_of_mem hlive, hkey⟩

theorem mapLive_processSegmentInListen (inet : InetTcp) {tcp : TCP_hack}
    (hmap : tcp.MapLive) {p q : ConnPtr} (hp : p ∈ tcp.live) (hq : q ∉ tcp.live)
    (seg : TCPSegment) (srcAddr destAddr : IPvXAddress) :
    (tcp.processSegmentInListen inet p q seg srcAddr destAddr).2.1.MapLive := by
  obtain ⟨-, hout⟩ := processSegmentInListen_cases inet tcp p q seg srcAddr destAddr
  rcases hout with ⟨n, htcp', -⟩ | ⟨c, -, hroom, -, -, hkey, htcp'⟩ |
    ⟨c, -, -, -, hkey, htcp'⟩
  · rw [htcp']
    exact hmap
  · rw [htcp', acceptAnotherConnection, if_pos hroom]
    have hmap' : MapLive { tcp with
        currentConnectionCount := tcp.currentConnectionCount + 1
        droppedConnections := 0 } := hmap
    refine mapLive_addForkedConnection inet hmap' hp hq ?_ ?_ _ _ _ _ ?_
    · rfl
    · rfl
    · rw [hkey, addForkedConnection_key]
      rfl
  · rw [htcp']
    exact mapLive_set hmap hkey

/-- Map and counter are in order: what the counter can be off by is the number
of workers, not its range. -/
structure Sane (tcp : TCP_hack) : Prop where
  mapLive : tcp.MapLive
  nonneg : 0 ≤ tcp.currentConnectionCount
  limit : tcp.currentConnectionCount ≤ tcp.maxThreadCount

theorem mapLive_apply (inet : InetTcp) {tcp : TCP_hack} (hmap : tcp.MapLive) {a : Action}
    (hen : tcp.Enabled a) : (tcp.apply inet a).MapLive := by
  cases a with
  | appCommand key q c outcome =>
      obtain ⟨hq, hchange⟩ := hen
      have hfound : (tcp.findOrCreate key q).2.MapLive := by
        unfold findOrCreate
        cases tcp.tcpAppConnMap key with
        | some p => exact hmap
        | none => exact mapLive_createConnection hmap hq key
      cases outcome with
      | some event => exact mapLive_applyEvent inet (mapLive_set hfound hchange.key) _ event
      | none => exact mapLive_set hfound hchange.key
  | segmentInListen p q seg srcAddr destAddr =>
      exact mapLive_applyEvent inet
        (mapLive_processSegmentInListen inet hmap hen.1 hen.2.1 seg srcAddr destAddr) p _
  | event p c event => exact mapLive_applyEvent inet (mapLive_set hmap hen.2.1.key) p event
  | removeConnection p => exact mapLive_removeConnection inet hmap p

@[simp] theorem applyEvent_maxThreadCount (inet : InetTcp) (tcp : TCP_hack) (p : ConnPtr)
    (event : TCPEventCode) :
    (tcp.applyEvent inet p event).maxThreadCount = tcp.maxThreadCount := by
  simp only [applyEvent]
  split
  · rfl
  · exact removeConnection_maxThreadCount inet tcp p

theorem apply_maxThreadCount (inet : InetTcp) (tcp : TCP_hack) (a : Action) :
    (tcp.apply inet a).maxThreadCount = tcp.maxThreadCount := by
  cases a with
  | appCommand key q c outcome =>
      have hfound : (tcp.findOrCreate key q).2.maxThreadCount = tcp.maxThreadCount := by
        unfold findOrCreate
        split <;> rfl
      cases outcome with
      | some event => exact (applyEvent_maxThreadCount _ _ _ _).trans hfound
      | none => exact hfound
  | segmentInListen p q seg srcAddr destAddr =>
      refine (applyEvent_maxThreadCount _ _ _ _).trans ?_
      show (tcp.processSegmentInListen inet p q seg srcAddr destAddr).2.1.maxThreadCount = _
      obtain ⟨-, hout⟩ := processSegmentInListen_cases inet tcp p q seg srcAddr destAddr
      rcases hout with ⟨n, htcp', -⟩ | ⟨c, -, hroom, -, -, -, htcp'⟩ | ⟨c, -, -, -, -, htcp'⟩
      · rw [htcp']
      · rw [htcp', acceptAnotherConnection, if_pos hroom]
        rfl
      · rw [htcp']
        rfl
  | event p c event => exact applyEvent_maxThreadCount _ _ _ _
  | removeConnection p => exact removeConnection_maxThreadCount _ _ _

theorem sane_initializeModule (maxThreadCount : Int) :
    (initializeModule maxThreadCount).Sane := by
  refine ⟨?_, Int.le_refl 0, ?_⟩
  · intro key p h
    cases h
  · show (0 : Int) ≤ if maxThreadCount ≤ 0 then INT_MAX else maxThreadCount
    split
    · decide
    · omega

theorem sane_apply (inet : InetTcp) {tcp : TCP_hack} (hs : tcp.Sane) {a : Action}
    (hen : tcp.Enabled a) : (tcp.apply inet a).Sane := by
  obtain ⟨hmap, hnonneg, hlimit⟩ := hs
  have hmax := apply_maxThreadCount inet tcp a
  have hmap' := mapLive_apply inet hmap hen
  rcases step_effect inet hmap hen with
    ⟨p, -, -, -, -, hcount⟩ | ⟨p, -, -, -, hroom, -, hcount⟩ | ⟨-, -, -, hcount⟩
  · refine ⟨hmap', ?_, ?_⟩
    · rw [hcount]
      split <;> omega
    · rw [hcount, hmax]
      split <;> omega
  · exact ⟨hmap', by omega, by omega⟩
  · exact ⟨hmap', by omega, by omega⟩

end TCP_hack

/-! ## Which runs stay in balance -/

/-- A step that closes a connection: it has to be a worker, or the counter is at zero. -/
theorem keepsBalance_of_closes {tcp : TCP_hack} {a : Action} {p : ConnPtr}
    (hcl : closes tcp a = some p) (hfo : forks tcp a = none) (hp : p ∈ tcp.live) :
    KeepsBalance tcp a ↔ p ∈ tcp.workers ∨ tcp.currentConnectionCount ≤ 0 := by
  rw [TCP_hack.mem_workers]
  constructor
  · intro h
    rcases h.closed p hcl with hw | h0
    · exact .inl ⟨hp, hw⟩
    · exact .inr h0
  · intro h
    refine ⟨fun r hr => ?_, fun r hr => ?_⟩
    · rw [hcl] at hr
      cases hr
      exact h.imp (fun hw => hw.2) id
    · rw [hfo] at hr
      cases hr

/-- A step that forks from a connection: it has to be no worker. -/
theorem keepsBalance_of_forks {tcp : TCP_hack} {a : Action} {p : ConnPtr}
    (hcl : closes tcp a = none) (hfo : forks tcp a = some p) (hp : p ∈ tcp.live) :
    KeepsBalance tcp a ↔ p ∉ tcp.workers := by
  rw [TCP_hack.mem_workers]
  constructor
  · intro h hw
    exact h.forked p hfo hw.2
  · intro h
    refine ⟨fun r hr => ?_, fun r hr hw => ?_⟩
    · rw [hcl] at hr
      cases hr
    · rw [hfo] at hr
      cases hr
      exact h ⟨hp, hw⟩

theorem keepsBalance_of_neither {tcp : TCP_hack} {a : Action} (hcl : closes tcp a = none)
    (hfo : forks tcp a = none) : KeepsBalance tcp a := by
  refine ⟨fun r hr => ?_, fun r hr => ?_⟩
  · rw [hcl] at hr
    cases hr
  · rw [hfo] at hr
    cases hr

/-- From a balanced state, a step stays in balance just when it closes only
what was counted and counts only what was not. -/
theorem step_balanced (inet : InetTcp) {tcp : TCP_hack} (hs : tcp.Sane)
    (hbal : Balanced tcp) {a : Action} (hen : tcp.Enabled a) :
    Balanced (tcp.apply inet a) ↔ KeepsBalance tcp a := by
  have hlimit' := (TCP_hack.sane_apply inet hs hen).limit
  obtain ⟨hcount, -⟩ := hbal
  -- the limit holds whenever the counter is right
  have hiff : Balanced (tcp.apply inet a) ↔
      (tcp.apply inet a).currentConnectionCount = (tcp.apply inet a).workers.card := by
    unfold Balanced
    constructor
    · exact fun h => h.1
    · intro h
      exact ⟨h, by omega⟩
  rw [hiff]
  rcases TCP_hack.step_effect inet hs.mapLive hen with
    ⟨p, hcl, hfo, hp, hworkers, hcount'⟩ | ⟨p, hcl, hfo, hp, hroom, hworkers, hcount'⟩ |
    ⟨hcl, hfo, hworkers, hcount'⟩
  · -- a close: the counter goes down, the workers only if it was one
    rw [keepsBalance_of_closes hcl hfo hp, hworkers, hcount']
    by_cases hw : p ∈ tcp.workers
    · have hpos : 0 < tcp.workers.card := Finset.card_pos.mpr ⟨p, hw⟩
      rw [Finset.card_erase_of_mem hw, if_neg (by omega)]
      simp only [hw, true_or, iff_true]
      omega
    · rw [Finset.erase_eq_of_notMem hw]
      simp only [hw, false_or]
      split <;> omega
  · -- a fork: the counter goes up, the workers only if it was none
    rw [keepsBalance_of_forks hcl hfo hp, hworkers, hcount']
    by_cases hw : p ∈ tcp.workers
    · rw [Finset.insert_eq_of_mem hw]
      simp only [hw, not_true, iff_false]
      omega
    · rw [Finset.card_insert_of_notMem hw]
      simp only [hw, not_false_iff, iff_true]
      push_cast
      omega
  · rw [hworkers, hcount']
    simp only [keepsBalance_of_neither hcl hfo, iff_true]
    exact hcount

theorem balanced_initializeModule (maxThreadCount : Int) :
    Balanced (.initializeModule maxThreadCount) := by
  have hworkers : (TCP_hack.initializeModule maxThreadCount).workers = ∅ := rfl
  refine ⟨by rw [hworkers]; rfl, ?_⟩
  rw [hworkers]
  exact (TCP_hack.sane_initializeModule maxThreadCount).limit

/-- In a run of the module the counter is the number of live workers, and these
are within the limit, just when every step keeps the balance. -/
theorem balanced_iff_keepsBalance (inet : InetTcp) (maxThreadCount : Int)
    (tr : List (Action × TCP_hack))
    (hrun : (connectionSystem inet maxThreadCount).Run
      (.initializeModule maxThreadCount) tr) :
    TSys.Always Balanced (.initializeModule maxThreadCount) tr ↔
      TSys.Guarded KeepsBalance (.initializeModule maxThreadCount) tr := by
  refine TSys.Run.always_iff_guarded (I := TCP_hack.Sane) ?_ ?_ hrun
    (TCP_hack.sane_initializeModule maxThreadCount)
    (balanced_initializeModule maxThreadCount)
  · rintro tcp a _ hs ⟨hen, rfl⟩
    exact TCP_hack.sane_apply inet hs hen
  · rintro tcp a _ hs hbal ⟨hen, rfl⟩
    exact step_balanced inet hs hbal hen

/-! ## A worker too many -/

instance (c c' : TCPConnection_hack) : Decidable (InetChange c c') :=
  decidable_of_iff (c'.worker = c.worker ∧ c'.fsm = c.fsm ∧ c'.key = c.key)
    ⟨fun h => ⟨h.1, h.2.1, h.2.2⟩, fun h => ⟨h.worker, h.fsm, h.key⟩⟩

instance (tcp : TCP_hack) : (a : Action) → Decidable (tcp.Enabled a)
  | .appCommand _ _ _ _ => inferInstanceAs (Decidable (_ ∧ _))
  | .segmentInListen _ _ _ _ _ => inferInstanceAs (Decidable (_ ∧ _ ∧ _))
  | .event _ _ _ => inferInstanceAs (Decidable (_ ∧ _ ∧ (_ → _)))
  | .removeConnection _ => inferInstanceAs (Decidable (_ ∈ _))

def TCP_hack.step (inet : InetTcp) (tcp : TCP_hack) (a : Action) : Option TCP_hack :=
  if tcp.Enabled a then some (tcp.apply inet a) else none

theorem run_step (inet : InetTcp) (maxThreadCount : Int) (tcp : TCP_hack)
    (actions : List Action) :
    (connectionSystem inet maxThreadCount).Run tcp
      (TSys.trace (TCP_hack.step inet) tcp actions) := by
  refine TSys.run_trace (fun tcp a tcp' h => ?_) tcp actions
  unfold TCP_hack.step at h
  split at h
  · rename_i hen
    cases h
    exact ⟨hen, rfl⟩
  · cases h

/-- An INET that leaves the state variables alone, with its application map as a function. -/
def plainInet : InetTcp where
  getStateVariables := {}
  configureStateVariables := id
  receiveQueueInit := fun _ s => s
  selectInitialSeqNum := id
  updateWndInfo := fun _ s => s
  readHeaderOptions := fun _ s => s
  updateRcvQueueVars := id
  insertBytesFromSegment := fun _ s => s
  updateSockPair := fun c localAddr remoteAddr localPort remotePort =>
    { c with
      localAddr := localAddr
      remoteAddr := remoteAddr
      localPort := localPort
      remotePort := remotePort }
  removeConnection := fun map key => Function.update map key none
  addForkedConnection := fun map key newKey p q =>
    Function.update (Function.update map newKey (some p)) key (some q)
  updateSockPair_change := fun _ _ _ _ _ => ⟨rfl, rfl, rfl, rfl, rfl, rfl, rfl⟩
  removeConnection_self := fun _ _ => Function.update_self ..
  removeConnection_of_ne := fun _ _ _ hne => Function.update_of_ne hne ..
  addForkedConnection_clone := fun _ _ _ _ _ => Function.update_self ..
  addForkedConnection_forked := fun _ _ _ _ _ hne => by
    rw [Function.update_of_ne hne, Function.update_self]
  addForkedConnection_of_ne := fun _ _ _ _ _ _ hne hne' => by
    rw [Function.update_of_ne hne, Function.update_of_ne hne']

/-- A server socket of the host, and a client socket. -/
def serverSocket : TCPConnection_hack :=
  { appGateIndex := 0, connId := 1, localPort := 80, state := { fork := true } }

def clientSocket : TCPConnection_hack :=
  { appGateIndex := 1, connId := 7, state := { active := true } }

/-- A server socket listens; one client connects to it. -/
def oneClient : List Action :=
  [.appCommand ⟨0, 1⟩ 1 serverSocket (some .openPassive),
    .segmentInListen 1 2 { synBit := true, srcPort := 1025, destPort := 80 } 10 20]

/-- Then an application of the server's host opens a connection of its own and
closes it again, and a second client connects. -/
def twoClients : List Action :=
  oneClient ++
    [.appCommand ⟨1, 7⟩ 3 clientSocket (some .openActive),
      .appCommand ⟨1, 7⟩ 4 { clientSocket with fsm := .synSent } (some .close),
      .segmentInListen 2 4 { synBit := true, srcPort := 1026, destPort := 80 } 11 20]

theorem balanced_oneClient :
    (TSys.trace (TCP_hack.step plainInet) (.initializeModule 1) oneClient).length = 2 ∧
      (TSys.Always Balanced (.initializeModule 1)
          (TSys.trace (TCP_hack.step plainInet) (.initializeModule 1) oneClient) ↔
        TSys.Guarded KeepsBalance (.initializeModule 1)
          (TSys.trace (TCP_hack.step plainInet) (.initializeModule 1) oneClient)) :=
  ⟨by decide, balanced_iff_keepsBalance plainInet 1 _ (run_step plainInet 1 _ _)⟩

/-- With a limit of one, two workers are alive and one of them is counted. -/
theorem two_workers_one_counted :
    let start : TCP_hack := .initializeModule 1
    let run := TSys.trace (TCP_hack.step plainInet) start twoClients
    (connectionSystem plainInet 1).Run start run ∧
      (TSys.finish start run).workers = {1, 2} ∧
      (TSys.finish start run).currentConnectionCount = 1 ∧
      (TSys.finish start run).maxThreadCount = 1 ∧
      ¬ (connectionSystem plainInet 1).Invariant Balanced := by
  intro start run
  have hrun : (connectionSystem plainInet 1).Run start run := run_step plainInet 1 _ _
  have hworkers : (TSys.finish start run).workers = {1, 2} := by decide
  have hcount : (TSys.finish start run).currentConnectionCount = 1 := by decide
  refine ⟨hrun, hworkers, hcount, by decide, fun hinv => ?_⟩
  have hbal := (hinv _ (hrun.reachable (.init rfl)).last).1
  rw [hworkers, hcount] at hbal
  exact absurd hbal (by decide)

end ScadaSim.Tcp
