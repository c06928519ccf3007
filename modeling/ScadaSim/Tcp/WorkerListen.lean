import Mathlib.Data.Finset.Insert
import ScadaSim.Tcp.Limit

/-!
# Workers and LISTEN

A listening socket that forks leaves a clone in LISTEN and becomes a worker, on its
way to SYN_RCVD. The flag is set before the payload of the SYN is looked at, and a
payload that does not fit makes the segment an ignored one: the worker stays in
LISTEN, beside its clone. `proper_iff_synFits` says that nothing else brings a worker
into LISTEN.

All connections that a socket gives rise to are of one family, which is counted
beside the module.
-/

namespace ScadaSim.Tcp

open Lib

/-- The objects that an action is about. -/
inductive Kind
  | touches (p : ConnPtr)
  | creates (q : ConnPtr)
  | forks (p q : ConnPtr)
  deriving DecidableEq

def kind (tcp : TCP_hack) : Action → Kind
  | .appCommand key q _ _ =>
      match tcp.tcpAppConnMap key with
      | some p => .touches p
      | none => .creates q
  | .segmentInListen p q seg srcAddr destAddr =>
      if (forks tcp (.segmentInListen p q seg srcAddr destAddr)).isSome then .forks p q
      else .touches p
  | .event p _ _ => .touches p
  | .removeConnection p => .touches p

/-- The module, the family of each connection, and the families of the forking
listening sockets. No function reads the latter. -/
structure Traced where
  tcp : TCP_hack
  family : ConnPtr → Nat
  nextFamily : Nat
  sockets : Finset Nat

/-- The connection at `p` is alive and in LISTEN. -/
def TCP_hack.Listens (tcp : TCP_hack) (p : ConnPtr) : Prop :=
  p ∈ tcp.live ∧ (tcp.conn p).fsm = .listen

instance (tcp : TCP_hack) (p : ConnPtr) : Decidable (tcp.Listens p) :=
  inferInstanceAs (Decidable (_ ∧ _))

namespace Traced

/-- A clone is of the family of its original, a new connection of a new one. -/
def familyAfter (s : Traced) : Kind → ConnPtr → Nat
  | .touches _ => s.family
  | .creates q => Function.update s.family q s.nextFamily
  | .forks p q => Function.update s.family q (s.family p)

def nextFamilyAfter (s : Traced) : Kind → Nat
  | .creates _ => s.nextFamily + 1
  | _ => s.nextFamily

/-- A passive open in INIT makes a forking listening socket. It ceases to be one when
its connection leaves LISTEN by another way than a fork. -/
def socketsAfter (s : Traced) (tcp' : TCP_hack) : Kind → Finset Nat
  | .touches p =>
      if (s.tcp.conn p).fsm = .init ∧ tcp'.Listens p ∧ (tcp'.conn p).state.fork then
        insert (s.family p) s.sockets
      else if s.tcp.Listens p ∧ ¬ tcp'.Listens p then s.sockets.erase (s.family p)
      else s.sockets
  | .creates q =>
      if tcp'.Listens q ∧ (tcp'.conn q).state.fork then insert s.nextFamily s.sockets else s.sockets
  | .forks _ _ => s.sockets

def after (s : Traced) (tcp' : TCP_hack) (k : Kind) : Traced where
  tcp := tcp'
  family := s.familyAfter k
  nextFamily := s.nextFamilyAfter k
  sockets := s.socketsAfter tcp' k

def next (inet : InetTcp) (s : Traced) (a : Action) : Traced :=
  s.after (s.tcp.apply inet a) (kind s.tcp a)

def start (maxThreadCount : Int) : Traced where
  tcp := .initializeModule maxThreadCount
  family := fun _ => 0
  nextFamily := 0
  sockets := ∅

end Traced

/-- The module of `connectionSystem`, with families. -/
def familySystem (inet : InetTcp) (maxThreadCount : Int) : TSys Traced Action where
  init := fun s => s = .start maxThreadCount
  step := fun s a s' => s.tcp.Enabled a ∧ s' = s.next inet a

/-- No worker is in LISTEN, and each forking listening socket has one connection that
is. -/
structure Proper (s : Traced) : Prop where
  worker : ∀ p ∈ s.tcp.live, (s.tcp.conn p).isWorkerThread = true → (s.tcp.conn p).fsm ≠ .listen
  listener : ∀ f ∈ s.sockets, ∃! p, s.family p = f ∧ s.tcp.Listens p

/-- A SYN that is forked for fits with its payload into the receive buffer. -/
def SynFits (inet : InetTcp) (s : Traced) : Action → Prop
  | .segmentInListen p q seg srcAddr destAddr =>
      forks s.tcp (.segmentInListen p q seg srcAddr destAddr) = some p →
        seg.payloadLength ≤ (inet.updateRcvQueueVars (TCPConnection_hack.synState inet seg
          (inet.configureStateVariables (s.tcp.conn p).state))).freeRcvBuffer
  | _ => True

/-! ## What an action does -/

/-- The connection has left INIT and LISTEN behind. -/
def Past (c : TCPConnection_hack) : Prop := c.fsm ≠ .init ∧ c.fsm ≠ .listen

/-- What an action does to the connections; `fits` says that a forked SYN does. -/
inductive Change (tcp tcp' : TCP_hack) (fits : Prop) : Kind → Prop
  | kept (p : ConnPtr) : p ∈ tcp.live → tcp'.live = tcp.live →
      (∀ r, r ≠ p → tcp'.conn r = tcp.conn r) → (tcp'.conn p).worker = (tcp.conn p).worker →
      ((tcp.conn p).worker = true → Past (tcp.conn p) → Past (tcp'.conn p)) →
      Change tcp tcp' fits (.touches p)
  | removed (p : ConnPtr) : p ∈ tcp.live → tcp'.live = tcp.live.erase p →
      (∀ r, r ≠ p → tcp'.conn r = tcp.conn r) → Change tcp tcp' fits (.touches p)
  | created (q : ConnPtr) : q ∉ tcp.live → tcp'.live = insert q tcp.live →
      (∀ r, r ≠ q → tcp'.conn r = tcp.conn r) → (tcp'.conn q).worker = false →
      Change tcp tcp' fits (.creates q)
  | forked (p q : ConnPtr) : tcp.Listens p → q ∉ tcp.live → tcp'.live = insert q tcp.live →
      (∀ r, r ≠ p → r ≠ q → tcp'.conn r = tcp.conn r) → (tcp'.conn p).worker = true →
      (fits → (tcp'.conn p).fsm = .synRcvd) → (¬ fits → (tcp'.conn p).fsm = .listen) →
      (tcp'.conn q).worker = false → (tcp'.conn q).fsm = .listen →
      Change tcp tcp' fits (.forks p q)

namespace TCP_hack

/-- No event takes a worker back. -/
theorem performStateTransition_past {c : TCPConnection_hack} (hworker : c.worker = true)
    (hpast : Past c) (event : TCPEventCode) : Past (c.performStateTransition event).1 := by
  obtain ⟨hinit, hlisten⟩ := hpast
  unfold TCPConnection_hack.performStateTransition
  split
  · exact ⟨hinit, hlisten⟩
  · show c.nextState event ≠ .init ∧ c.nextState event ≠ .listen
    unfold TCPConnection_hack.nextState TCPConnection_hack.isWorkerThread
    rw [hworker]
    cases hfsm : c.fsm with
    | init => exact absurd hfsm hinit
    | listen => exact absurd hfsm hlisten
    | _ => cases event <;> exact ⟨nofun, nofun⟩

theorem removeConnection_conn (inet : InetTcp) (tcp : TCP_hack) (p : ConnPtr) :
    (tcp.removeConnection inet p).conn = tcp.conn := by
  show tcp.canceledHalfOpenConnection.2.conn = tcp.conn
  unfold canceledHalfOpenConnection
  split <;> rfl

theorem set_conn_of_ne (tcp : TCP_hack) {p r : ConnPtr} (hr : r ≠ p) (c : TCPConnection_hack) :
    (tcp.set p c).conn r = tcp.conn r := Function.update_of_ne hr ..

theorem applyEvent_change (inet : InetTcp) {tcp : TCP_hack} {p : ConnPtr} {c : TCPConnection_hack}
    (event : TCPEventCode) (fits : Prop) (hp : p ∈ tcp.live) (hc : InetChange (tcp.conn p) c) :
    Change tcp ((tcp.set p c).applyEvent inet p event) fits (.touches p) := by
  have hpast : (tcp.conn p).worker = true → Past (tcp.conn p) →
      Past (c.performStateTransition event).1 := by
    intro hworker hpast
    refine performStateTransition_past (hc.worker.trans hworker) ?_ event
    unfold Past
    rw [hc.fsm]
    exact hpast
  simp only [applyEvent, set_conn]
  split
  · refine .kept p hp rfl ?_ ?_ ?_
    · intro r hr
      rw [set_conn_of_ne _ hr, set_conn_of_ne _ hr]
    · rw [set_conn, TCPConnection_hack.performStateTransition_worker]
      exact hc.worker
    · rw [set_conn]
      exact hpast
  · refine .removed p hp rfl ?_
    intro r hr
    rw [removeConnection_conn, set_conn_of_ne _ hr]

/-- A command to a connection that is there. -/
theorem handleAppCommand_touches (inet : InetTcp) {tcp : TCP_hack} (hmap : tcp.MapLive)
    {key : AppConnKey} {p : ConnPtr} (hkey : tcp.tcpAppConnMap key = some p) (q : ConnPtr)
    {c : TCPConnection_hack} (outcome : Option TCPEventCode) (fits : Prop)
    (hchange : InetChange (tcp.conn p) c) :
    Change tcp (tcp.handleAppCommand inet key q c outcome) fits (.touches p) := by
  have hp := (hmap key p hkey).1
  simp only [handleAppCommand, findOrCreate_of_some hkey]
  cases outcome with
  | some event => exact applyEvent_change inet event fits hp hchange
  | none =>
      refine .kept p hp rfl ?_ ?_ ?_
      · intro r hr
        exact set_conn_of_ne tcp hr c
      · rw [set_conn]
        exact hchange.worker
      · intro _ hpast
        rw [set_conn]
        unfold Past
        rw [hchange.fsm]
        exact hpast

/-- A command that creates its connection. -/
theorem handleAppCommand_creates (inet : InetTcp) {tcp : TCP_hack} {key : AppConnKey}
    (hkey : tcp.tcpAppConnMap key = none) {q : ConnPtr} (hq : q ∉ tcp.live)
    {c : TCPConnection_hack} (outcome : Option TCPEventCode) (fits : Prop)
    (hchange : InetChange ((tcp.createConnection q key).conn q) c) :
    Change tcp (tcp.handleAppCommand inet key q c outcome) fits (.creates q) := by
  have hother (r : ConnPtr) (hr : r ≠ q) : (tcp.createConnection q key).conn r = tcp.conn r :=
    Function.update_of_ne hr ..
  have hworker : c.worker = false := by
    rw [hchange.worker, createConnection_conn]
  simp only [handleAppCommand, findOrCreate_of_none hkey]
  cases outcome with
  | some event =>
      have hinit : c.fsm = .init := by
        rw [hchange.fsm, createConnection_conn]
      simp only [applyEvent, set_conn, init_alive hinit event, if_true]
      refine .created q hq rfl ?_ ?_
      · intro r hr
        rw [set_conn_of_ne _ hr, set_conn_of_ne _ hr, hother r hr]
      · rw [set_conn, TCPConnection_hack.performStateTransition_worker, hworker]
  | none =>
      refine .created q hq rfl ?_ ?_
      · intro r hr
        exact (set_conn_of_ne _ hr c).trans (hother r hr)
      · rw [set_conn]
        exact hworker

theorem handleAppCommand_change (inet : InetTcp) {tcp : TCP_hack} (hmap : tcp.MapLive)
    {key : AppConnKey} {q : ConnPtr} {c : TCPConnection_hack} {outcome : Option TCPEventCode}
    (fits : Prop) (hen : tcp.Enabled (.appCommand key q c outcome)) :
    Change tcp (tcp.handleAppCommand inet key q c outcome) fits
      (kind tcp (.appCommand key q c outcome)) := by
  obtain ⟨hq, hchange⟩ := hen
  cases hkey : tcp.tcpAppConnMap key with
  | some p =>
      have hkind : kind tcp (.appCommand key q c outcome) = .touches p := by
        simp only [kind, hkey]
      rw [findOrCreate_of_some hkey] at hchange
      rw [hkind]
      exact handleAppCommand_touches inet hmap hkey q outcome fits hchange
  | none =>
      have hkind : kind tcp (.appCommand key q c outcome) = .creates q := by
        simp only [kind, hkey]
      rw [findOrCreate_of_none hkey] at hchange
      rw [hkind]
      exact handleAppCommand_creates inet hkey hq outcome fits hchange

/-- The SYN is accepted or ignored, as its payload fits or not. -/
theorem acceptSyn_event_eq (inet : InetTcp) (c : TCPConnection_hack) (seg : TCPSegment) :
    (c.acceptSyn inet seg).1 =
      if seg.payloadLength ≤ (inet.updateRcvQueueVars
        (TCPConnection_hack.synState inet seg c.state)).freeRcvBuffer then .rcvSyn else .ignore := by
  unfold TCPConnection_hack.acceptSyn
  dsimp only
  by_cases hpayload : seg.payloadLength > 0
  · rw [if_pos hpayload]
    split <;> rfl
  · have hzero : seg.payloadLength = 0 := by omega
    rw [if_neg hpayload, if_pos (hzero ▸ Nat.zero_le _)]

theorem applyEvent_of_alive {inet : InetTcp} {tcp : TCP_hack} {p : ConnPtr} {event : TCPEventCode}
    (h : ((tcp.conn p).performStateTransition event).2 = true) :
    tcp.applyEvent inet p event = tcp.set p ((tcp.conn p).performStateTransition event).1 := by
  simp only [applyEvent, h, if_true]

/-- The connection that a SYN is forked for, before the state transition. -/
def forkedConnection (inet : InetTcp) (tcp : TCP_hack) (p : ConnPtr) (seg : TCPSegment)
    (srcAddr destAddr : IPvXAddress) : TCPConnection_hack :=
  { inet.updateSockPair ((tcp.conn p).cloneListeningConnection inet).2.setWorkerThread destAddr
      srcAddr seg.destPort seg.srcPort with connId := tcp.nextConnId }

/-- A SYN that is forked for. -/
theorem processSegmentInListen_forked (inet : InetTcp) {tcp : TCP_hack} {p q : ConnPtr}
    {seg : TCPSegment} {srcAddr destAddr : IPvXAddress}
    (hforks : forks tcp (.segmentInListen p q seg srcAddr destAddr) = some p) :
    let c := tcp.forkedConnection inet p seg srcAddr destAddr
    ∃ (tcp₁ : TCP_hack) (sent : List Output),
      tcp.processSegmentInListen inet p q seg srcAddr destAddr =
        ((c.acceptSyn inet seg).1, tcp₁.set p (c.acceptSyn inet seg).2.1, sent) ∧
      tcp₁.live = insert q tcp.live ∧
      tcp₁.conn = Function.update tcp.conn q ((tcp.conn p).cloneListeningConnection inet).1 := by
  intro c
  simp only [forks] at hforks
  split at hforks
  swap
  · cases hforks
  rename_i hsyn
  simp only [Bool.and_eq_true, Bool.not_eq_true'] at hsyn
  obtain ⟨⟨⟨⟨hrst, hack⟩, hsyn⟩, hfork⟩, hroom⟩ := hsyn
  have hacc : tcp.acceptAnotherConnection = (true, { tcp with
      currentConnectionCount := tcp.currentConnectionCount + 1
      droppedConnections := 0 }) := by
    unfold acceptAnotherConnection at hroom ⊢
    split at hroom
    · rename_i hlimit
      exact if_pos hlimit
    · cases hroom
  simp only [processSegmentInListen, hrst, hack, hsyn, hfork, hacc, if_true, Bool.false_eq_true,
    if_false]
  exact ⟨_, _, rfl, rfl, rfl⟩

/-- The segment of a SYN that is forked for: the clone listens on, and the worker has
left LISTEN if the SYN fits. -/
theorem segmentInListen_forks (inet : InetTcp) {tcp : TCP_hack} {p q : ConnPtr}
    (seg : TCPSegment) (srcAddr destAddr : IPvXAddress) (hp : p ∈ tcp.live) (hq : q ∉ tcp.live)
    (hlisten : (tcp.conn p).fsm = .listen)
    (hforks : forks tcp (.segmentInListen p q seg srcAddr destAddr) = some p) :
    Change tcp (tcp.apply inet (.segmentInListen p q seg srcAddr destAddr))
      (seg.payloadLength ≤ (inet.updateRcvQueueVars (TCPConnection_hack.synState inet seg
          (inet.configureStateVariables (tcp.conn p).state))).freeRcvBuffer)
      (.forks p q) := by
  obtain ⟨tcp₁, sent, hseg, hlive, hconn⟩ := processSegmentInListen_forked inet hforks
  have hqp : q ≠ p := by
    rintro rfl
    exact hq hp
  have hstate : (tcp.forkedConnection inet p seg srcAddr destAddr).state =
      inet.configureStateVariables (tcp.conn p).state := inet.updateSockPair_state ..
  have hfsm : ((tcp.forkedConnection inet p seg srcAddr destAddr).acceptSyn inet seg).2.1.fsm =
      .listen := by
    rw [TCPConnection_hack.acceptSyn_fsm]
    exact (inet.updateSockPair_fsm ..).trans hlisten
  show Change tcp ((tcp.processSegmentInListen inet p q seg srcAddr destAddr).2.1.applyEvent inet p
    (tcp.processSegmentInListen inet p q seg srcAddr destAddr).1) _ _
  rw [hseg]
  dsimp only
  -- neither event closes a connection in LISTEN
  rw [applyEvent_of_alive (by
    rw [set_conn]
    exact listen_alive hfsm (TCPConnection_hack.acceptSyn_event ..)), set_conn]
  refine .forked p q ⟨hp, hlisten⟩ hq hlive ?_ ?_ ?_ ?_ ?_ ?_
  · intro r hr hrq
    rw [set_conn_of_ne _ hr, set_conn_of_ne _ hr, hconn, Function.update_of_ne hrq]
  · rw [set_conn, TCPConnection_hack.performStateTransition_worker,
      TCPConnection_hack.acceptSyn_worker]
    exact inet.updateSockPair_worker ..
  · intro hfits
    rw [set_conn, acceptSyn_event_eq, hstate, if_pos hfits]
    unfold TCPConnection_hack.performStateTransition TCPConnection_hack.nextState
    rw [hfsm]
    rfl
  · intro hfits
    rw [set_conn, acceptSyn_event_eq, hstate, if_neg hfits]
    exact hfsm
  · rw [set_conn_of_ne _ hqp, set_conn_of_ne _ hqp, hconn, Function.update_self]
    rfl
  · rw [set_conn_of_ne _ hqp, set_conn_of_ne _ hqp, hconn, Function.update_self]
    rfl

/-- An event that finds the connection still in LISTEN. -/
theorem applyEvent_inListen (inet : InetTcp) {tcp tcp₁ : TCP_hack} {p : ConnPtr} (hp : p ∈ tcp.live)
    (hlisten : (tcp.conn p).fsm = .listen) (hlive : tcp₁.live = tcp.live)
    (hother : ∀ r, r ≠ p → tcp₁.conn r = tcp.conn r)
    (hworker : (tcp₁.conn p).worker = (tcp.conn p).worker) (hfsm : (tcp₁.conn p).fsm = .listen)
    {event : TCPEventCode} (hevent : event = .rcvSyn ∨ event = .ignore) (fits : Prop) :
    Change tcp (tcp₁.applyEvent inet p event) fits (.touches p) := by
  rw [applyEvent_of_alive (listen_alive hfsm hevent)]
  refine .kept p hp hlive ?_ ?_ ?_
  · intro r hr
    rw [set_conn_of_ne _ hr, hother r hr]
  · rw [set_conn, TCPConnection_hack.performStateTransition_worker, hworker]
  · intro _ hpast
    exact absurd hlisten hpast.2

theorem segmentInListen_change (inet : InetTcp) {tcp : TCP_hack} {p q : ConnPtr}
    (seg : TCPSegment) (srcAddr destAddr : IPvXAddress) (hp : p ∈ tcp.live) (hq : q ∉ tcp.live)
    (hlisten : (tcp.conn p).fsm = .listen) :
    Change tcp (tcp.apply inet (.segmentInListen p q seg srcAddr destAddr))
      (seg.payloadLength ≤ (inet.updateRcvQueueVars (TCPConnection_hack.synState inet seg
          (inet.configureStateVariables (tcp.conn p).state))).freeRcvBuffer)
      (kind tcp (.segmentInListen p q seg srcAddr destAddr)) := by
  by_cases hforks : (forks tcp (.segmentInListen p q seg srcAddr destAddr)).isSome = true
  · have hkind : kind tcp (.segmentInListen p q seg srcAddr destAddr) = .forks p q := if_pos hforks
    have hsome : forks tcp (.segmentInListen p q seg srcAddr destAddr) = some p := by
      simp only [forks] at hforks ⊢
      split at hforks
      · rename_i h
        exact if_pos h
      · cases hforks
    rw [hkind]
    exact segmentInListen_forks inet seg srcAddr destAddr hp hq hlisten hsome
  · have hkind : kind tcp (.segmentInListen p q seg srcAddr destAddr) = .touches p := if_neg hforks
    have hnone : forks tcp (.segmentInListen p q seg srcAddr destAddr) = none := by
      simpa using hforks
    obtain ⟨hevent, hout⟩ := processSegmentInListen_cases inet tcp p q seg srcAddr destAddr
    rw [hnone] at hout
    rw [hkind]
    show Change tcp ((tcp.processSegmentInListen inet p q seg srcAddr destAddr).2.1.applyEvent inet
      p (tcp.processSegmentInListen inet p q seg srcAddr destAddr).1) _ _
    cases hout with
    | dropped n htcp' _ =>
        refine applyEvent_inListen inet hp hlisten ?_ ?_ ?_ ?_ hevent _ <;> rw [htcp']
        · intro r _
          rfl
        · exact hlisten
    | forked c hsome => cases hsome
    | alone c _ hworker hfsm _ htcp' =>
        refine applyEvent_inListen inet hp hlisten ?_ ?_ ?_ ?_ hevent _ <;> rw [htcp']
        · rfl
        · intro r hr
          exact set_conn_of_ne tcp hr c
        · rw [set_conn]
          exact hworker
        · rw [set_conn, hfsm]
          exact hlisten

end TCP_hack

theorem forks_eq_some_iff (tcp : TCP_hack) (p q : ConnPtr) (seg : TCPSegment)
    (srcAddr destAddr : IPvXAddress) :
    (forks tcp (.segmentInListen p q seg srcAddr destAddr)).isSome = true ↔
      forks tcp (.segmentInListen p q seg srcAddr destAddr) = some p := by
  simp only [forks]
  split <;> simp

theorem apply_change (inet : InetTcp) {s : Traced} (hmap : s.tcp.MapLive) {a : Action}
    (hen : s.tcp.Enabled a) :
    Change s.tcp (s.tcp.apply inet a) (SynFits inet s a) (kind s.tcp a) := by
  cases a with
  | appCommand key q c outcome => exact TCP_hack.handleAppCommand_change inet hmap _ hen
  | segmentInListen p q seg srcAddr destAddr =>
      have hchange := TCP_hack.segmentInListen_change inet (q := q) seg srcAddr destAddr hen.1
        hen.2.1 hen.2.2
      -- `SynFits` speaks only of a segment that is forked for
      by_cases hforks : (forks s.tcp (.segmentInListen p q seg srcAddr destAddr)).isSome = true
      · have hsome := (forks_eq_some_iff ..).mp hforks
        have hfits : SynFits inet s (.segmentInListen p q seg srcAddr destAddr) ↔
            seg.payloadLength ≤ (inet.updateRcvQueueVars (TCPConnection_hack.synState inet seg
              (inet.configureStateVariables (s.tcp.conn p).state))).freeRcvBuffer := by
          constructor
          · intro h
            exact h hsome
          · intro h _
            exact h
        rw [hfits]
        exact hchange
      · have hkind : kind s.tcp (.segmentInListen p q seg srcAddr destAddr) = .touches p :=
          if_neg hforks
        rw [hkind] at hchange ⊢
        cases hchange with
        | kept _ hp hlive hother hworker hpast => exact .kept p hp hlive hother hworker hpast
        | removed _ hp hlive hother => exact .removed p hp hlive hother
  | event p c event => exact TCP_hack.applyEvent_change inet event _ hen.1 hen.2.1
  | removeConnection p =>
      refine .removed p hen rfl ?_
      intro r _
      exact congrFun (TCP_hack.removeConnection_conn inet s.tcp p) r

/-! ## The invariant -/

/-- Workers have left LISTEN behind, and a family has one connection that is no worker;
for a forking listening socket this is the one in LISTEN. -/
structure Ordered (s : Traced) : Prop where
  mapLive : s.tcp.MapLive
  worker : ∀ p ∈ s.tcp.live, (s.tcp.conn p).worker = true → Past (s.tcp.conn p)
  family : ∀ p ∈ s.tcp.live, s.family p < s.nextFamily
  head : ∀ p ∈ s.tcp.live, ∀ q ∈ s.tcp.live, (s.tcp.conn p).worker = false →
    (s.tcp.conn q).worker = false → s.family p = s.family q → p = q
  socket : ∀ f ∈ s.sockets, f < s.nextFamily ∧ ∃ p, s.family p = f ∧ s.tcp.Listens p

namespace Ordered

variable {s : Traced}

/-- What is in LISTEN is no worker. -/
theorem worker_of_listens (h : Ordered s) {p : ConnPtr} (hp : s.tcp.Listens p) :
    (s.tcp.conn p).worker = false := by
  rw [Bool.eq_false_iff]
  intro hworker
  exact (h.worker p hp.1 hworker).2 hp.2

theorem proper (h : Ordered s) : Proper s where
  worker := fun p hp hworker => (h.worker p hp hworker).2
  listener := by
    intro f hf
    obtain ⟨-, p, hfamily, hp⟩ := h.socket f hf
    refine ⟨p, ⟨hfamily, hp⟩, ?_⟩
    rintro q ⟨hq, hlisten⟩
    exact h.head q hlisten.1 p hp.1 (h.worker_of_listens hlisten) (h.worker_of_listens hp)
      (hq.trans hfamily.symm)

theorem start (maxThreadCount : Int) : Ordered (.start maxThreadCount) where
  mapLive := (TCP_hack.sane_initializeModule maxThreadCount).mapLive
  worker := fun p hp => absurd hp (Finset.notMem_empty p)
  family := fun p hp => absurd hp (Finset.notMem_empty p)
  head := fun p hp => absurd hp (Finset.notMem_empty p)
  socket := fun f hf => absurd hf (Finset.notMem_empty f)

theorem listens_congr {tcp tcp' : TCP_hack} {r : ConnPtr}
    (hlive : r ∈ tcp'.live ↔ r ∈ tcp.live) (hconn : tcp'.conn r = tcp.conn r) :
    tcp'.Listens r ↔ tcp.Listens r := by
  unfold TCP_hack.Listens
  rw [hlive, hconn]

/-- Sockets when one connection has changed or is gone. -/
theorem socket_touches (h : Ordered s) {tcp' : TCP_hack} {p : ConnPtr} (hp : p ∈ s.tcp.live)
    (hother : ∀ r, r ≠ p → (tcp'.Listens r ↔ s.tcp.Listens r)) :
    ∀ f ∈ s.socketsAfter tcp' (.touches p),
      f < s.nextFamily ∧ ∃ r, s.family r = f ∧ tcp'.Listens r := by
  have hold : ∀ f ∈ s.sockets, (s.family p = f → s.tcp.Listens p → tcp'.Listens p) →
      f < s.nextFamily ∧ ∃ r, s.family r = f ∧ tcp'.Listens r := by
    intro f hf hself
    obtain ⟨hlt, r, hr, hlisten⟩ := h.socket f hf
    refine ⟨hlt, r, hr, ?_⟩
    by_cases hrp : r = p
    · subst hrp
      exact hself hr hlisten
    · exact (hother r hrp).mpr hlisten
  intro f hf
  unfold Traced.socketsAfter at hf
  dsimp only at hf
  split at hf
  · rename_i hopened
    rcases Finset.mem_insert.mp hf with rfl | hf
    · exact ⟨h.family p hp, p, rfl, hopened.2.1⟩
    · exact hold f hf fun _ _ => hopened.2.1
  · split at hf
    · obtain ⟨hne, hf⟩ := Finset.mem_erase.mp hf
      exact hold f hf fun heq _ => absurd heq.symm hne
    · rename_i hstay
      refine hold f hf fun _ hlisten => ?_
      by_contra hgone
      exact hstay ⟨hlisten, hgone⟩

theorem kept (h : Ordered s) {tcp' : TCP_hack} (hmap : tcp'.MapLive) {p : ConnPtr}
    (hp : p ∈ s.tcp.live) (hlive : tcp'.live = s.tcp.live)
    (hother : ∀ r, r ≠ p → tcp'.conn r = s.tcp.conn r)
    (hworker : (tcp'.conn p).worker = (s.tcp.conn p).worker)
    (hpast : (s.tcp.conn p).worker = true → Past (s.tcp.conn p) → Past (tcp'.conn p)) :
    Ordered (s.after tcp' (.touches p)) := by
  -- no flag changes, so families and heads are the same ones
  have hflag : ∀ r, (tcp'.conn r).worker = (s.tcp.conn r).worker := by
    intro r
    by_cases hr : r = p
    · rw [hr, hworker]
    · rw [hother r hr]
  refine ⟨hmap, ?_, ?_, ?_, ?_⟩
  · intro r hr hw
    replace hr : r ∈ s.tcp.live := hlive ▸ hr
    replace hw : (s.tcp.conn r).worker = true := (hflag r).symm.trans hw
    show Past (tcp'.conn r)
    by_cases hrp : r = p
    · subst hrp
      exact hpast hw (h.worker r hr hw)
    · rw [hother r hrp]
      exact h.worker r hr hw
  · intro r hr
    exact h.family r (hlive ▸ hr)
  · intro r hr q hq hrw hqw hfamily
    exact h.head r (hlive ▸ hr) q (hlive ▸ hq) ((hflag r).symm.trans hrw)
      ((hflag q).symm.trans hqw) hfamily
  · refine h.socket_touches hp fun r hr => listens_congr ?_ (hother r hr)
    rw [hlive]

theorem removed (h : Ordered s) {tcp' : TCP_hack} (hmap : tcp'.MapLive) {p : ConnPtr}
    (hp : p ∈ s.tcp.live) (hlive : tcp'.live = s.tcp.live.erase p)
    (hother : ∀ r, r ≠ p → tcp'.conn r = s.tcp.conn r) : Ordered (s.after tcp' (.touches p)) := by
  have hmem : ∀ r ∈ tcp'.live, r ∈ s.tcp.live ∧ tcp'.conn r = s.tcp.conn r := by
    intro r hr
    rw [hlive, Finset.mem_erase] at hr
    exact ⟨hr.2, hother r hr.1⟩
  refine ⟨hmap, ?_, ?_, ?_, ?_⟩
  · intro r hr hw
    obtain ⟨hr, hconn⟩ := hmem r hr
    show Past (tcp'.conn r)
    rw [hconn]
    exact h.worker r hr (hconn ▸ hw)
  · intro r hr
    exact h.family r (hmem r hr).1
  · intro r hr q hq hrw hqw hfamily
    obtain ⟨hr, hrconn⟩ := hmem r hr
    obtain ⟨hq, hqconn⟩ := hmem q hq
    exact h.head r hr q hq (hrconn ▸ hrw) (hqconn ▸ hqw) hfamily
  · refine h.socket_touches hp fun r hr => listens_congr ?_ (hother r hr)
    rw [hlive, Finset.mem_erase]
    exact and_iff_right hr

/-! ### A new connection -/

section Added

variable {tcp' : TCP_hack} {q : ConnPtr}

theorem eq_or_mem_of_added (hlive : tcp'.live = insert q s.tcp.live) {r : ConnPtr}
    (hr : r ∈ tcp'.live) : r = q ∨ r ∈ s.tcp.live := by
  rw [hlive] at hr
  exact Finset.mem_insert.mp hr

theorem listens_added (hlive : tcp'.live = insert q s.tcp.live) {r : ConnPtr} (hne : r ≠ q)
    (hconn : tcp'.conn r = s.tcp.conn r) : tcp'.Listens r ↔ s.tcp.Listens r := by
  refine listens_congr ?_ hconn
  rw [hlive, Finset.mem_insert]
  exact or_iff_right hne

/-- A family keeps one head when a connection comes in that shares its family with
workers only. -/
theorem head_added (h : Ordered s) (hlive : tcp'.live = insert q s.tcp.live)
    {family : ConnPtr → Nat} (hold : ∀ r ∈ s.tcp.live, family r = s.family r)
    (hfree : ∀ r ∈ s.tcp.live, (tcp'.conn r).worker = false →
      (s.tcp.conn r).worker = false ∧ s.family r ≠ family q) :
    ∀ r ∈ tcp'.live, ∀ t ∈ tcp'.live, (tcp'.conn r).worker = false →
      (tcp'.conn t).worker = false → family r = family t → r = t := by
  intro r hr t ht hrw htw heq
  rcases eq_or_mem_of_added hlive hr with rfl | hrl <;>
    rcases eq_or_mem_of_added hlive ht with rfl | htl
  · rfl
  · rw [hold t htl] at heq
    exact absurd heq.symm (hfree t htl htw).2
  · rw [hold r hrl] at heq
    exact absurd heq (hfree r hrl hrw).2
  · rw [hold r hrl, hold t htl] at heq
    exact h.head r hrl t htl (hfree r hrl hrw).1 (hfree t htl htw).1 heq

end Added

theorem created (h : Ordered s) {tcp' : TCP_hack} (hmap : tcp'.MapLive) {q : ConnPtr}
    (hq : q ∉ s.tcp.live) (hlive : tcp'.live = insert q s.tcp.live)
    (hother : ∀ r, r ≠ q → tcp'.conn r = s.tcp.conn r) (hworker : (tcp'.conn q).worker = false) :
    Ordered (s.after tcp' (.creates q)) := by
  -- the connection is the head of a family of its own
  have hself : s.familyAfter (.creates q) q = s.nextFamily := Function.update_self ..
  have hne : ∀ r ∈ s.tcp.live, r ≠ q := fun r hr heq => hq (heq ▸ hr)
  have hfamily : ∀ r ∈ s.tcp.live, s.familyAfter (.creates q) r = s.family r :=
    fun r hr => Function.update_of_ne (hne r hr) ..
  refine ⟨hmap, ?_, ?_, ?_, ?_⟩
  · intro r hr hw
    replace hw : (tcp'.conn r).worker = true := hw
    show Past (tcp'.conn r)
    rcases eq_or_mem_of_added hlive hr with rfl | hr
    · rw [hworker] at hw
      cases hw
    · rw [hother r (hne r hr)] at hw ⊢
      exact h.worker r hr hw
  · intro r hr
    show s.familyAfter (.creates q) r < s.nextFamily + 1
    rcases eq_or_mem_of_added hlive hr with rfl | hr
    · rw [hself]
      omega
    · have hlt := h.family r hr
      rw [hfamily r hr]
      omega
  · refine h.head_added hlive hfamily fun r hr hrw => ?_
    have hlt := h.family r hr
    rw [hother r (hne r hr)] at hrw
    refine ⟨hrw, ?_⟩
    show s.family r ≠ s.familyAfter (.creates q) q
    rw [hself]
    omega
  · intro f hf
    show f < s.nextFamily + 1 ∧ ∃ r, s.familyAfter (.creates q) r = f ∧ tcp'.Listens r
    have hold : f ∈ s.sockets →
        f < s.nextFamily + 1 ∧ ∃ r, s.familyAfter (.creates q) r = f ∧ tcp'.Listens r := by
      intro hf
      obtain ⟨hlt, r, hr, hlisten⟩ := h.socket f hf
      have hrq := hne r hlisten.1
      exact ⟨by omega, r, (hfamily r hlisten.1).trans hr,
        (listens_added hlive hrq (hother r hrq)).mpr hlisten⟩
    replace hf : f ∈ if tcp'.Listens q ∧ (tcp'.conn q).state.fork then
      insert s.nextFamily s.sockets else s.sockets := hf
    split at hf
    · rename_i hopened
      rcases Finset.mem_insert.mp hf with rfl | hf
      · exact ⟨by omega, q, hself, hopened.1⟩
      · exact hold hf
    · exact hold hf

theorem forked (h : Ordered s) {tcp' : TCP_hack} (hmap : tcp'.MapLive) {p q : ConnPtr}
    (hp : s.tcp.Listens p) (hq : q ∉ s.tcp.live) (hlive : tcp'.live = insert q s.tcp.live)
    (hother : ∀ r, r ≠ p → r ≠ q → tcp'.conn r = s.tcp.conn r)
    (hpworker : (tcp'.conn p).worker = true) (hpfsm : (tcp'.conn p).fsm = .synRcvd)
    (hqworker : (tcp'.conn q).worker = false) (hqfsm : (tcp'.conn q).fsm = .listen) :
    Ordered (s.after tcp' (.forks p q)) := by
  have hself : s.familyAfter (.forks p q) q = s.family p := Function.update_self ..
  have hne : ∀ r ∈ s.tcp.live, r ≠ q := fun r hr heq => hq (heq ▸ hr)
  have hfamily : ∀ r ∈ s.tcp.live, s.familyAfter (.forks p q) r = s.family r :=
    fun r hr => Function.update_of_ne (hne r hr) ..
  refine ⟨hmap, ?_, ?_, ?_, ?_⟩
  · intro r hr hw
    replace hw : (tcp'.conn r).worker = true := hw
    show Past (tcp'.conn r)
    rcases eq_or_mem_of_added hlive hr with rfl | hr
    · rw [hqworker] at hw
      cases hw
    · by_cases hrp : r = p
      · subst hrp
        unfold Past
        rw [hpfsm]
        exact ⟨nofun, nofun⟩
      · rw [hother r hrp (hne r hr)] at hw ⊢
        exact h.worker r hr hw
  · intro r hr
    show s.familyAfter (.forks p q) r < s.nextFamily
    rcases eq_or_mem_of_added hlive hr with rfl | hr
    · rw [hself]
      exact h.family p hp.1
    · rw [hfamily r hr]
      exact h.family r hr
  · -- who is no worker after the fork and not the clone is another one than `p`
    refine h.head_added hlive hfamily fun r hr hrw => ?_
    have hrp : r ≠ p := by
      rintro rfl
      rw [hpworker] at hrw
      cases hrw
    rw [hother r hrp (hne r hr)] at hrw
    refine ⟨hrw, fun heq => ?_⟩
    replace heq : s.family r = s.familyAfter (.forks p q) q := heq
    rw [hself] at heq
    exact hrp (h.head r hr p hp.1 hrw (h.worker_of_listens hp) heq)
  · intro f hf
    obtain ⟨hlt, r, hr, hlisten⟩ := h.socket f hf
    refine ⟨hlt, ?_⟩
    show ∃ r, s.familyAfter (.forks p q) r = f ∧ tcp'.Listens r
    by_cases hrp : r = p
    · subst hrp
      -- the clone listens on in the place of `p`
      refine ⟨q, hself.trans hr, ?_, hqfsm⟩
      rw [hlive]
      exact Finset.mem_insert_self q _
    · have hrq := hne r hlisten.1
      exact ⟨r, (hfamily r hlisten.1).trans hr,
        (listens_added hlive hrq (hother r hrp hrq)).mpr hlisten⟩

theorem change (h : Ordered s) {tcp' : TCP_hack} (hmap : tcp'.MapLive) {fits : Prop} (hfits : fits)
    {k : Kind} (hchange : Change s.tcp tcp' fits k) : Ordered (s.after tcp' k) := by
  cases hchange with
  | kept p hp hlive hother hworker hpast => exact h.kept hmap hp hlive hother hworker hpast
  | removed p hp hlive hother => exact h.removed hmap hp hlive hother
  | created q hq hlive hother hworker => exact h.created hmap hq hlive hother hworker
  | forked p q hp hq hlive hother hpworker hpfsm _ hqworker hqfsm =>
      exact h.forked hmap hp hq hlive hother hpworker (hpfsm hfits) hqworker hqfsm

end Ordered

/-! ## Which runs keep workers out of LISTEN -/

/-- Only a SYN that is forked for can fail to fit. -/
theorem kind_of_not_synFits {inet : InetTcp} {s : Traced} {a : Action}
    (hfits : ¬ SynFits inet s a) :
    ∃ p q, kind s.tcp a = .forks p q := by
  cases a with
  | segmentInListen p q seg srcAddr destAddr =>
      refine ⟨p, q, if_pos ?_⟩
      by_contra hforks
      refine hfits fun hsome => ?_
      rw [hsome] at hforks
      exact absurd rfl hforks
  | appCommand => exact absurd trivial hfits
  | event => exact absurd trivial hfits
  | removeConnection => exact absurd trivial hfits

/-- A SYN that does not fit leaves its worker in LISTEN. -/
theorem not_proper_of_not_synFits (inet : InetTcp) {s : Traced} (hmap : s.tcp.MapLive) {a : Action}
    (hen : s.tcp.Enabled a) (hfits : ¬ SynFits inet s a) : ¬ Proper (s.next inet a) := by
  intro hproper
  have hchange := apply_change inet hmap hen
  obtain ⟨p, q, hkind⟩ := kind_of_not_synFits hfits
  rw [hkind] at hchange
  cases hchange with
  | forked _ _ hp hq hlive _ hpworker _ hlisten _ _ =>
      have hmem : p ∈ (s.tcp.apply inet a).live := by
        rw [hlive]
        exact Finset.mem_insert_of_mem hp.1
      exact hproper.worker p hmem hpworker (hlisten hfits)

/-- In a run of the module no worker is in LISTEN, and each forking listening socket has
one connection that is, just when every SYN that is forked for fits into the receive
buffer. -/
theorem proper_iff_synFits (inet : InetTcp) (maxThreadCount : Int) (tr : List (Action × Traced))
    (hrun : (familySystem inet maxThreadCount).Run (.start maxThreadCount) tr) :
    TSys.Always Proper (.start maxThreadCount) tr ↔
      TSys.Guarded (SynFits inet) (.start maxThreadCount) tr := by
  refine TSys.Run.always_iff_guarded_of (J := Ordered) (fun s h => h.proper) ?_ ?_ hrun
    (.start maxThreadCount)
  · rintro s a _ h hfits ⟨hen, rfl⟩
    exact h.change (TCP_hack.mapLive_apply inet h.mapLive hen) hfits
      (apply_change inet h.mapLive hen)
  · rintro s a _ h hfits ⟨hen, rfl⟩
    exact not_proper_of_not_synFits inet h.mapLive hen hfits

/-! ### A SYN with data -/

def Traced.step (inet : InetTcp) (s : Traced) (a : Action) : Option Traced :=
  if s.tcp.Enabled a then some (s.next inet a) else none

theorem run_traced (inet : InetTcp) (maxThreadCount : Int) (s : Traced) (actions : List Action) :
    (familySystem inet maxThreadCount).Run s (TSys.trace (Traced.step inet) s actions) := by
  refine TSys.run_trace ?_ s actions
  intro s a s' h
  unfold Traced.step at h
  split at h
  · rename_i hen
    exact ⟨hen, (Option.some.inj h).symm⟩
  · cases h

/-- A server socket with a receive buffer. -/
def bufferedSocket : TCPConnection_hack :=
  { serverSocket with
    state := { fork := true, maxRcvBuffer := 14336, freeRcvBuffer := 14336 } }

def syn (payloadLength : Nat) : TCPSegment where
  synBit := true
  srcPort := 1025
  destPort := 80
  payloadLength := payloadLength

/-- The socket listens, and a client connects to it with data in its SYN. -/
def synWithData (payloadLength : Nat) : List Action :=
  [.appCommand ⟨0, 1⟩ 1 bufferedSocket (some .openPassive),
    .segmentInListen 1 2 (syn payloadLength) 10 20]

/-- The worker is in LISTEN, and so is the clone of the one socket. -/
theorem worker_stays_in_listen :
    let run := TSys.trace (Traced.step plainInet) (.start 5) (synWithData 20000)
    (familySystem plainInet 5).Run (.start 5) run ∧
      (TSys.finish (.start 5) run).tcp.workers = {1} ∧
      ((TSys.finish (.start 5) run).tcp.conn 1).fsm = .listen ∧
      (TSys.finish (.start 5) run).sockets = {0} ∧
      (∀ p ∈ [1, 2], (TSys.finish (.start 5) run).family p = 0 ∧
        (TSys.finish (.start 5) run).tcp.Listens p) ∧
      ¬ (familySystem plainInet 5).Invariant Proper := by
  intro run
  have hrun : (familySystem plainInet 5).Run (.start 5) run := run_traced plainInet 5 _ _
  have hworkers : (TSys.finish (.start 5) run).tcp.workers = {1} := by decide
  have hlisten : ((TSys.finish (.start 5) run).tcp.conn 1).fsm = .listen := by decide
  refine ⟨hrun, hworkers, hlisten, by decide, by decide, fun hinv => ?_⟩
  have hproper := hinv _ (hrun.reachable (.init rfl)).last
  obtain ⟨hlive, hworker⟩ := TCP_hack.mem_workers.mp (hworkers ▸ Finset.mem_singleton_self 1)
  exact hproper.worker 1 hlive hworker hlisten

theorem proper_synWithData :
    (TSys.trace (Traced.step plainInet) (.start 5) (synWithData 100)).length = 2 ∧
      (TSys.Always Proper (.start 5)
          (TSys.trace (Traced.step plainInet) (.start 5) (synWithData 100)) ↔
        TSys.Guarded (SynFits plainInet) (.start 5)
          (TSys.trace (Traced.step plainInet) (.start 5) (synWithData 100))) :=
  ⟨by decide, proper_iff_synFits plainInet 5 _ (run_traced plainInet 5 _ _)⟩

end ScadaSim.Tcp
