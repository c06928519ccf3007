import ScadaSim.External.Time
import ScadaSim.Lib.TSys
import Mathlib.Logic.Function.Basic
import Mathlib.Data.List.Perm.Basic

/-!
# The gate monitor and its two threads

The gate thread feeds external messages into the simulation
(`SSGate::processMessage`), the simulation thread waits for them and for the
wall clock (`SSScheduler::getNextEvent`, `receiveUntil`,
`SSGate::nextMessage`) and delivers the head of the event queue. Both threads
are step functions over one `World`; a step is a critical section between
`lock` and `unlock`, a piece of one between two waits, or a stretch of
unlocked code with at most one clock reading. `Action` names the steps, and
any interleaving of enabled actions is a run. The unlocked parts of the
simulation thread can also run inside of `handOver`, and the gate thread between
the two assignments of `executionResumed`: `NotInPast` takes these two steps apart.

POSIX semantics: `pthread_cond_signal` on a condition nobody waits for is
lost; a blocked wait returns 0 when signalled, may return 0 spuriously, and
may return `ETIMEDOUT` from its deadline on; an unnormalised deadline is
answered `EINVAL` at once. There is one gate, the one `startRun` creates.
-/

namespace ScadaSim.External

/-! ## Messages, proxies, the event queue -/

/-- A `cMessage` object, by identity: the one notification every proxy owns
and reuses, and all other events. -/
inductive Msg
  | notificationMsg (proxy : Nat)
  | event (id : Nat)
  deriving DecidableEq

/-- A bound proxy: its module and the external address it stands for. -/
structure SSProxy where
  id : Nat
  extAddress : String
  deriving DecidableEq

def SSProxy.getNotificationMsg (p : SSProxy) : Msg := .notificationMsg p.id

/-- `SSGate::getProxyDestination`: the first proxy bound to the address. -/
def getProxyDestination (proxies : List SSProxy) (extAddress : String) :
    Option SSProxy :=
  proxies.find? fun p => p.extAddress == extAddress

/-- Insertion into the event queue, ordered by arrival time and first come
first served among equals. The queue holds pointers: nothing keeps an object
from being inserted twice. -/
def msgQueueInsert (arrivalTime : Msg → SimTime) (m : Msg) : List Msg → List Msg
  | [] => [m]
  | x :: q =>
      if arrivalTime x ≤ arrivalTime m then x :: msgQueueInsert arrivalTime m q
      else m :: x :: q

theorem msgQueueInsert_perm (arrivalTime : Msg → SimTime) (m : Msg) (q : List Msg) :
    (msgQueueInsert arrivalTime m q).Perm (m :: q) := by
  induction q with
  | nil => exact .refl _
  | cons x q ih =>
      unfold msgQueueInsert
      split
      · exact (ih.cons x).trans (.swap m x q)
      · exact .refl _

/-- An inserted message is at the head, or behind one that is not later. -/
theorem msgQueueInsert_head (arrivalTime : Msg → SimTime) (m : Msg) (q : List Msg) :
    (msgQueueInsert arrivalTime m q).head? = some m ∨
      ∃ x, q.head? = some x ∧ arrivalTime x ≤ arrivalTime m ∧
        (msgQueueInsert arrivalTime m q).head? = some x := by
  cases q with
  | nil => exact .inl rfl
  | cons x q =>
      unfold msgQueueInsert
      split
      · exact .inr ⟨x, rfl, by assumption, rfl⟩
      · exact .inl rfl

/-! ## Threads -/

/-- Return codes of `pthread_cond_timedwait`. -/
def ETIMEDOUT : Int := 110

def EINVAL : Int := 22

/-- The gate thread: outside `processMessage`, or in the wait inside it. -/
inductive GateThread
  | idle
  | waiting (extAddress : String) (signalled : Bool)
  deriving DecidableEq

/-- What `getNextEvent` aims at: the event it peeked at and its due time. -/
structure Aim where
  msg : Option Msg
  targetTime : Timeval
  deriving DecidableEq

/-- The two calls of `nextMessage` in `receiveUntil`: a 100 ms chunk of the
loop, or the final wait, which passes microseconds. -/
inductive Call
  | chunk
  | last (usec : Int)
  deriving DecidableEq

/-- The argument `nextMessage` receives and takes for milliseconds. -/
def Call.ms : Call → Int
  | .chunk => 100
  | .last usec => usec

/-- How `nextMessage` came back. `unwaited`: without a notification and before
the deadline, that is with `nextMsg` found set, with `EINVAL`, or by a
spurious wake-up. -/
inductive Origin
  | signalled
  | timedOut
  | unwaited
  deriving DecidableEq

/-- Where the simulation thread stands. -/
inductive SimThread
  /-- in module code, between two calls of `getNextEvent` -/
  | running
  /-- in `getNextEvent`, target time computed -/
  | peeked (aim : Aim)
  /-- at the start of `receiveUntil` -/
  | entered (aim : Aim)
  /-- at the loop test of `receiveUntil`, `curTime` read -/
  | polling (aim : Aim) (curTime : Timeval)
  /-- about to lock the gate in `nextMessage` -/
  | calling (aim : Aim) (call : Call)
  /-- in the timed wait of `nextMessage` -/
  | waiting (aim : Aim) (call : Call) (deadline : Timespec) (signalled : Bool)
  /-- back from `nextMessage` -/
  | after (aim : Aim) (call : Call) (retcode : Int) (origin : Origin)
  /-- back from `getNextEvent` -/
  | returned (e : Option Msg)
  deriving DecidableEq

def GateThread.notify : GateThread → GateThread
  | .waiting extAddress _ => .waiting extAddress true
  | g => g

def SimThread.notify : SimThread → SimThread
  | .waiting aim call deadline _ => .waiting aim call deadline true
  | s => s

/-! ## The shared world -/

structure World where
  clock : Timeval
  baseTime : Timeval
  simTime : SimTime
  proxies : List SSProxy
  nextMsg : Bool
  msgQueue : List Msg
  arrivalTime : Msg → SimTime
  sim : SimThread
  gate : GateThread
  /-- history: completed `processMessage` calls, by the proxy they matched -/
  completed : Nat → Nat
  /-- history: notifications delivered to `SSProxy::handleMessage` -/
  delivered : Nat → Nat

namespace World

/-- The wall clock has reached the arrival time of `m`. -/
def Due (w : World) (m : Msg) : Prop :=
  w.baseTime.usec + w.arrivalTime m ≤ w.clock.usec

/-- `setArrival` followed by an insertion into the event queue. -/
def insert (w : World) (m : Msg) (t : SimTime) : World :=
  let arrivalTime := Function.update w.arrivalTime m t
  { w with
    arrivalTime := arrivalTime
    msgQueue := msgQueueInsert arrivalTime m w.msgQueue }

/-- `setArrival`, also of a message that is in the queue. -/
def setArrival (w : World) (m : Msg) (t : SimTime) : World :=
  { w with arrivalTime := Function.update w.arrivalTime m t }

/-- The rest of `processMessage`, from the insertion on. -/
def enqueue (w : World) (dest : SSProxy) : World :=
  { w with
    msgQueue := msgQueueInsert w.arrivalTime dest.getNotificationMsg w.msgQueue
    nextMsg := true
    sim := w.sim.notify
    gate := .idle
    completed := Function.update w.completed dest.id (w.completed dest.id + 1) }

/-- The critical section of `SSGate::processMessage` behind its wait: stamp
the notification of the matching proxy with the time since `baseTime`, insert
it, raise `nextMsg` and signal. The gate thread leaves the monitor. -/
def handOver (w : World) (extAddress : String) : World :=
  match getProxyDestination w.proxies extAddress with
  | none => { w with gate := .idle }
  | some dest =>
      let t := (timeval_substract w.clock w.baseTime.usec).usec
      { w.insert dest.getNotificationMsg t with
        nextMsg := true
        sim := w.sim.notify
        gate := .idle
        completed := Function.update w.completed dest.id (w.completed dest.id + 1) }

section

variable {w : World} {extAddress : String} {dest : SSProxy}

theorem handOver_of_none (h : getProxyDestination w.proxies extAddress = none) :
    w.handOver extAddress = { w with gate := .idle } := by
  unfold handOver
  rw [h]

/-- The notification of the proxy that is found is stamped and inserted. -/
theorem handOver_of_some (h : getProxyDestination w.proxies extAddress = some dest) :
    w.handOver extAddress =
      { w.insert dest.getNotificationMsg (w.clock.usec - w.baseTime.usec) with
        nextMsg := true
        sim := w.sim.notify
        gate := .idle
        completed := Function.update w.completed dest.id (w.completed dest.id + 1) } := by
  unfold handOver
  rw [h]
  simp only [timeval_substract_usec]

theorem handOver_eq_enqueue (h : getProxyDestination w.proxies extAddress = some dest) :
    w.handOver extAddress =
      (w.setArrival dest.getNotificationMsg (w.clock.usec - w.baseTime.usec)).enqueue dest :=
  handOver_of_some h

@[simp] theorem handOver_gate : (w.handOver extAddress).gate = .idle := by
  unfold handOver
  split <;> rfl

@[simp] theorem handOver_delivered : (w.handOver extAddress).delivered = w.delivered := by
  unfold handOver
  split <;> rfl

theorem handOver_sim : (w.handOver extAddress).sim = w.sim ∨
    (w.handOver extAddress).sim = w.sim.notify := by
  unfold handOver
  split
  · exact .inl rfl
  · exact .inr rfl

end

/-- The end of `SSGate::nextMessage`: clear the flag, signal, unlock. -/
def consume (w : World) (s : SimThread) : World :=
  { w with nextMsg := false, gate := w.gate.notify, sim := s }

/-! ## Steps of the gate thread -/

/-- `processMessage` up to its end or into its wait. -/
def processMessage (w : World) (extAddress : String) : Option World :=
  match w.gate with
  | .idle =>
      if w.nextMsg then some { w with gate := .waiting extAddress false }
      else some (w.handOver extAddress)
  | .waiting _ _ => none

/-- The wait of `processMessage` returns: when signalled, or spuriously. The
flag is not tested again. -/
def gateWake (w : World) (spurious : Bool) : Option World :=
  match w.gate with
  | .waiting extAddress signalled =>
      if signalled || spurious then some (w.handOver extAddress) else none
  | .idle => none

/-! ## Steps of the simulation thread -/

/-- `SSProxy::initialize` binds itself to the gate. -/
def proxyBinding (w : World) (p : SSProxy) : Option World :=
  match w.sim with
  | .running => some { w with proxies := w.proxies ++ [p] }
  | _ => none

/-- Module code schedules an event of its own. -/
def scheduleAt (w : World) (id : Nat) (t : SimTime) : Option World :=
  match w.sim with
  | .running => some (w.insert (.event id) t)
  | _ => none

/-- `SSScheduler::executionResumed` recalculates the base time. -/
def executionResumed (w : World) : Option World :=
  match w.sim with
  | .running => some { w with baseTime := timeval_substract w.clock w.simTime }
  | _ => none

/-- `getNextEvent` up to the target time. -/
def getNextEvent (w : World) : Option World :=
  match w.sim with
  | .running =>
      let targetTime :=
        match w.msgQueue.head? with
        | none => longMaxTarget
        | some m => timeval_add w.baseTime (w.arrivalTime m)
      some { w with sim := .peeked ⟨w.msgQueue.head?, targetTime⟩ }
  | _ => none

/-- The clock comparison of `getNextEvent`: wait, or return at once. -/
def compare (w : World) : Option World :=
  match w.sim with
  | .peeked aim =>
      -- a target time that has passed is not waited for
      if timeval_greater aim.targetTime w.clock then some { w with sim := .entered aim }
      else some { w with sim := .returned aim.msg }
  | _ => none

/-- The first clock reading of `receiveUntil`. -/
def gettimeofday (w : World) : Option World :=
  match w.sim with
  | .entered aim => some { w with sim := .polling aim w.clock }
  | _ => none

/-- The loop test of `receiveUntil` and, past the loop, the final branch. -/
def receiveUntil (w : World) : Option World :=
  match w.sim with
  | .polling aim curTime =>
      let usec := timeval_diff_usec aim.targetTime curTime
      -- far from the target time it waits in chunks
      if aim.targetTime.tv_sec - curTime.tv_sec ≥ 2 ∨ usec ≥ 200000 then
        some { w with sim := .calling aim .chunk }
      else if usec > 0 then some { w with sim := .calling aim (.last usec) }
      else some { w with sim := .returned aim.msg }
  | _ => none

/-- `SSGate::nextMessage` up to its end or into its wait. With `nextMsg` set
nothing assigns `retcode`; `garbage` is what it then holds. -/
def nextMessage (w : World) (garbage : Int) : Option World :=
  match w.sim with
  | .calling aim call =>
      if w.nextMsg then some (w.consume (.after aim call garbage .unwaited))
      else
        let deadline := SSThread.waitTimeout w.clock call.ms
        if deadline.Normalised then
          some { w with sim := .waiting aim call deadline false }
        else some (w.consume (.after aim call EINVAL .unwaited))
  | _ => none

/-- The timed wait returns 0: signalled, or spuriously. -/
def wake (w : World) (spurious : Bool) : Option World :=
  match w.sim with
  | .waiting aim call _ signalled =>
      if signalled then some (w.consume (.after aim call 0 .signalled))
      else if spurious then some (w.consume (.after aim call 0 .unwaited))
      else none
  | _ => none

/-- The timed wait returns `ETIMEDOUT`, at the deadline or later. -/
def timeOut (w : World) : Option World :=
  match w.sim with
  | .waiting aim call deadline _ =>
      if deadline.nsec ≤ w.clock.usec * 1000 then
        some (w.consume (.after aim call ETIMEDOUT .timedOut))
      else none
  | _ => none

/-- `receiveUntil` behind `nextMessage`, and `getNextEvent` behind
`receiveUntil`. In the loop only `retcode == 0` ends the wait, else the
environment is asked (`interrupt`) and the clock read again; the final wait
returns 1 whatever its code, the `if` having an empty body. -/
def finishCall (w : World) (interrupt : Bool) : Option World :=
  match w.sim with
  | .after aim .chunk retcode _ =>
      if retcode = 0 then some { w with sim := .returned w.msgQueue.head? }
      else if interrupt then some { w with sim := .returned none }
      else some { w with sim := .polling aim w.clock }
  | .after _ (.last _) _ _ => some { w with sim := .returned w.msgQueue.head? }
  | _ => none

/-- `SSProxy::handleMessage` of the addressee: a notification is counted as
delivered (the proxy answers it by an event of its own), any other message is
none of the gate's business. -/
def handleMessage (w : World) (m : Msg) : World :=
  match m with
  | .notificationMsg p =>
      { w with delivered := Function.update w.delivered p (w.delivered p + 1) }
  | .event _ => w

/-- The event loop moves the simulation time to the event that was returned,
takes the head of the queue and delivers it; after a NULL event it merely goes
round. -/
def deliver (w : World) : Option World :=
  match w.sim, w.msgQueue with
  | .returned none, _ => some { w with sim := .running }
  | .returned (some e), m :: q =>
      some { w.handleMessage m with
        sim := .running
        msgQueue := q
        simTime := w.arrivalTime e }
  | _, _ => none

/-- Time passes. -/
def tick (w : World) (t : Timeval) : Option World :=
  if w.clock.usec ≤ t.usec then some { w with clock := t } else none

end World

/-! ## Runs -/

inductive Action
  | tick (t : Timeval)
  | proxyBinding (p : SSProxy)
  | scheduleAt (id : Nat) (t : SimTime)
  | executionResumed
  | getNextEvent
  | compare
  | gettimeofday
  | receiveUntil
  | nextMessage (garbage : Int)
  | wake (spurious : Bool)
  | timeOut
  | finishCall (interrupt : Bool)
  | deliver
  | processMessage (extAddress : String)
  | gateWake (spurious : Bool)

/-- One step of either thread, or of the clock. -/
def World.step (w : World) : Action → Option World
  | .tick t => w.tick t
  | .proxyBinding p => w.proxyBinding p
  | .scheduleAt id t => w.scheduleAt id t
  | .executionResumed => w.executionResumed
  | .getNextEvent => w.getNextEvent
  | .compare => w.compare
  | .gettimeofday => w.gettimeofday
  | .receiveUntil => w.receiveUntil
  | .nextMessage garbage => w.nextMessage garbage
  | .wake spurious => w.wake spurious
  | .timeOut => w.timeOut
  | .finishCall interrupt => w.finishCall interrupt
  | .deliver => w.deliver
  | .processMessage extAddress => w.processMessage extAddress
  | .gateWake spurious => w.gateWake spurious

/-- What a step can do: one case a branch, with what it found and tested. -/
inductive Stepped (w : World) : Action → World → Prop
  | tick {t} (hle : w.clock.usec ≤ t.usec) : Stepped w (.tick t) { w with clock := t }
  | proxyBinding {p} (hpc : w.sim = .running) :
      Stepped w (.proxyBinding p) { w with proxies := w.proxies ++ [p] }
  | scheduleAt {id t} (hpc : w.sim = .running) :
      Stepped w (.scheduleAt id t) (w.insert (.event id) t)
  | executionResumed (hpc : w.sim = .running) :
      Stepped w .executionResumed { w with baseTime := timeval_substract w.clock w.simTime }
  | peeked {targetTime} (hpc : w.sim = .running)
      (htarget : targetTime = (w.msgQueue.head?.elim longMaxTarget fun m =>
        timeval_add w.baseTime (w.arrivalTime m))) :
      Stepped w .getNextEvent { w with sim := .peeked ⟨w.msgQueue.head?, targetTime⟩ }
  | entered {aim} (hpc : w.sim = .peeked aim)
      (hahead : timeval_greater aim.targetTime w.clock) :
      Stepped w .compare { w with sim := .entered aim }
  | reached {aim} (hpc : w.sim = .peeked aim)
      (hbehind : ¬ timeval_greater aim.targetTime w.clock) :
      Stepped w .compare { w with sim := .returned aim.msg }
  | polled {aim} (hpc : w.sim = .entered aim) :
      Stepped w .gettimeofday { w with sim := .polling aim w.clock }
  | chunk {aim curTime} (hpc : w.sim = .polling aim curTime) :
      Stepped w .receiveUntil { w with sim := .calling aim .chunk }
  | last {aim curTime} (hpc : w.sim = .polling aim curTime)
      (hpos : timeval_diff_usec aim.targetTime curTime > 0) :
      Stepped w .receiveUntil
        { w with sim := .calling aim (.last (timeval_diff_usec aim.targetTime curTime)) }
  | passed {aim curTime} (hpc : w.sim = .polling aim curTime)
      (hpast : ¬ timeval_diff_usec aim.targetTime curTime > 0) :
      Stepped w .receiveUntil { w with sim := .returned aim.msg }
  | notWaited {aim call garbage retcode} (hpc : w.sim = .calling aim call)
      (hwhy : w.nextMsg = true ∨ w.nextMsg = false ∧ retcode = EINVAL ∧
        ¬ (SSThread.waitTimeout w.clock call.ms).Normalised) :
      Stepped w (.nextMessage garbage) (w.consume (.after aim call retcode .unwaited))
  | waited {aim call garbage} (hpc : w.sim = .calling aim call) :
      Stepped w (.nextMessage garbage)
        { w with sim := .waiting aim call (SSThread.waitTimeout w.clock call.ms) false }
  | signalled {aim call deadline spurious} (hpc : w.sim = .waiting aim call deadline true) :
      Stepped w (.wake spurious) (w.consume (.after aim call 0 .signalled))
  | spurious {aim call deadline spurious}
      (hpc : w.sim = .waiting aim call deadline false) :
      Stepped w (.wake spurious) (w.consume (.after aim call 0 .unwaited))
  | timedOut {aim call deadline signalled}
      (hpc : w.sim = .waiting aim call deadline signalled)
      (hdeadline : deadline.nsec ≤ w.clock.usec * 1000) :
      Stepped w .timeOut (w.consume (.after aim call ETIMEDOUT .timedOut))
  | received {aim call retcode origin interrupt} (hpc : w.sim = .after aim call retcode origin)
      (hcode : call = .chunk → retcode = 0) :
      Stepped w (.finishCall interrupt) { w with sim := .returned w.msgQueue.head? }
  | interrupted {aim retcode origin interrupt}
      (hpc : w.sim = .after aim .chunk retcode origin) (hcode : retcode ≠ 0) :
      Stepped w (.finishCall interrupt) { w with sim := .returned none }
  | again {aim retcode origin interrupt} (hpc : w.sim = .after aim .chunk retcode origin)
      (hcode : retcode ≠ 0) :
      Stepped w (.finishCall interrupt) { w with sim := .polling aim w.clock }
  | wentRound (hpc : w.sim = .returned none) : Stepped w .deliver { w with sim := .running }
  | delivered {e m q} (hpc : w.sim = .returned (some e)) (hq : w.msgQueue = m :: q) :
      Stepped w .deliver
        { w.handleMessage m with sim := .running, msgQueue := q, simTime := w.arrivalTime e }
  | blocked {extAddress} (hgate : w.gate = .idle) (hflag : w.nextMsg = true) :
      Stepped w (.processMessage extAddress) { w with gate := .waiting extAddress false }
  | handedOver {extAddress} (hgate : w.gate = .idle) (hflag : w.nextMsg = false) :
      Stepped w (.processMessage extAddress) (w.handOver extAddress)
  | woken {extAddress signalled spurious} (hgate : w.gate = .waiting extAddress signalled) :
      Stepped w (.gateWake spurious) (w.handOver extAddress)

theorem World.step_cases {w w' : World} {a : Action} (h : w.step a = some w') :
    Stepped w a w' := by
  cases a with
  | tick t =>
      simp only [World.step, World.tick] at h
      split at h <;> cases h
      exact .tick ‹_›
  | proxyBinding p =>
      simp only [World.step, World.proxyBinding] at h
      split at h <;> cases h
      exact .proxyBinding ‹_›
  | scheduleAt id t =>
      simp only [World.step, World.scheduleAt] at h
      split at h <;> cases h
      exact .scheduleAt ‹_›
  | executionResumed =>
      simp only [World.step, World.executionResumed] at h
      split at h <;> cases h
      exact .executionResumed ‹_›
  | getNextEvent =>
      simp only [World.step, World.getNextEvent] at h
      split at h <;> cases h
      refine .peeked ‹_› ?_
      cases w.msgQueue.head? <;> rfl
  | compare =>
      simp only [World.step, World.compare] at h
      repeat' split at h
      all_goals cases h
      · exact .entered ‹_› ‹_›
      · exact .reached ‹_› ‹_›
  | gettimeofday =>
      simp only [World.step, World.gettimeofday] at h
      split at h <;> cases h
      exact .polled ‹_›
  | receiveUntil =>
      simp only [World.step, World.receiveUntil] at h
      repeat' split at h
      all_goals cases h
      · exact .chunk ‹_›
      · exact .last ‹_› ‹_›
      · exact .passed ‹_› ‹_›
  | nextMessage garbage =>
      simp only [World.step, World.nextMessage] at h
      repeat' split at h
      all_goals cases h
      · exact .notWaited ‹_› (.inl ‹_›)
      · exact .waited ‹_›
      · next hflag hdeadline =>
          exact .notWaited ‹_› (.inr ⟨Bool.eq_false_iff.mpr hflag, rfl, hdeadline⟩)
  | wake spurious =>
      simp only [World.step, World.wake] at h
      repeat' split at h
      all_goals cases h
      · next hpc hsignalled => exact .signalled (hsignalled ▸ hpc)
      · next hpc hsignalled _ => exact .spurious (Bool.eq_false_iff.mpr hsignalled ▸ hpc)
  | timeOut =>
      simp only [World.step, World.timeOut] at h
      repeat' split at h
      all_goals cases h
      exact .timedOut ‹_› ‹_›
  | finishCall interrupt =>
      simp only [World.step, World.finishCall] at h
      repeat' split at h
      all_goals cases h
      · next hcode => exact .received ‹_› fun _ => hcode
      · exact .interrupted ‹_› ‹_›
      · exact .again ‹_› ‹_›
      · exact .received ‹_› fun hcall => by cases hcall
  | deliver =>
      simp only [World.step, World.deliver] at h
      split at h <;> cases h
      · exact .wentRound ‹_›
      · exact .delivered ‹_› ‹_›
  | processMessage extAddress =>
      simp only [World.step, World.processMessage] at h
      repeat' split at h
      all_goals cases h
      · exact .blocked ‹_› ‹_›
      · next hflag => exact .handedOver ‹_› (Bool.eq_false_iff.mpr hflag)
  | gateWake spurious =>
      simp only [World.step, World.gateWake] at h
      repeat' split at h
      all_goals cases h
      exact .woken ‹_›

/-- The run a list of actions causes, up to the first one that is not
enabled. -/
def World.trace (w : World) (actions : List Action) : List (Action × World) :=
  Lib.TSys.trace World.step w actions

/-- A run has just started: the gate is set up, no external message has come
and no notification is queued. -/
structure World.Started (w : World) : Prop where
  sim : w.sim = .running
  gate : w.gate = .idle
  nextMsg : w.nextMsg = false
  queue : ∀ p, Msg.notificationMsg p ∉ w.msgQueue
  completed : ∀ p, w.completed p = 0
  delivered : ∀ p, w.delivered p = 0

/-- The simulator with its gate, from the start of a run. -/
def simulator : Lib.TSys World Action where
  init := World.Started
  step w a w' := w.step a = some w'

theorem run_trace (w : World) (actions : List Action) :
    simulator.Run w (w.trace actions) :=
  Lib.TSys.run_trace (fun _ _ _ h => h) w actions

end ScadaSim.External
