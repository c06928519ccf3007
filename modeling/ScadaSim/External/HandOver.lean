import ScadaSim.External.Monitor

/-!
# Exactly-once hand-over of external messages

`ExactlyOnce` is what the gate is for: every completed `processMessage` call
for a bound proxy is one notification of that proxy, queued or delivered, and
a notification object is in the event queue at most once.

The books always balance. What can fail is the single occurrence: `nextMsg`
keeps a second message out only until `nextMessage` clears it, which is before
the notification is delivered. `exactlyOnce_iff_insertsFresh` says which runs
are good: those in which each hand-over finds the notification of its proxy
out of the queue.
-/

namespace ScadaSim.External

open Lib

/-- The external address whose message the action inserts, if it comes to the
critical section of `processMessage`. -/
def handsOver (w : World) : Action → Option String
  | .processMessage extAddress =>
      match w.gate with
      | .idle => if w.nextMsg then none else some extAddress
      | .waiting _ _ => none
  | .gateWake _ =>
      match w.gate with
      | .idle => none
      | .waiting extAddress _ => some extAddress
  | _ => none

/-- Each matching `processMessage` call so far is queued or delivered, and no
notification is queued twice. -/
def ExactlyOnce (w : World) : Prop :=
  ∀ p : Nat, w.msgQueue.count (.notificationMsg p) ≤ 1 ∧
    w.delivered p + w.msgQueue.count (.notificationMsg p) = w.completed p

/-- If the action hands a message over, the notification it is about to insert
is not scheduled. -/
def InsertsFresh (w : World) (a : Action) : Prop :=
  ∀ extAddress dest, handsOver w a = some extAddress →
    getProxyDestination w.proxies extAddress = some dest →
    dest.getNotificationMsg ∉ w.msgQueue

/-! ## What a step does to the books -/

/-- Queue and counters are untouched. -/
structure SameBooks (w w' : World) : Prop where
  msgQueue : w'.msgQueue = w.msgQueue
  completed : w'.completed = w.completed
  delivered : w'.delivered = w.delivered

/-- The four things a step can do to queue and counters: hand a message over,
schedule an event of a module, deliver the head, or nothing. -/
theorem step_books {w w' : World} {a : Action} (h : w.step a = some w') :
    (∃ extAddress, handsOver w a = some extAddress ∧ w' = w.handOver extAddress) ∨
    (handsOver w a = none ∧
      ((∃ id t, w' = w.insert (.event id) t) ∨
        (∃ m q, w.msgQueue = m :: q ∧ w'.msgQueue = q ∧
          w'.completed = w.completed ∧ w'.delivered = (w.handleMessage m).delivered) ∨
        SameBooks w w')) := by
  cases World.step_cases h with
  | handedOver hgate hflag => exact .inl ⟨_, by simp [handsOver, hgate, hflag], rfl⟩
  | woken hgate => exact .inl ⟨_, by simp [handsOver, hgate], rfl⟩
  | blocked hgate hflag =>
      exact .inr ⟨by simp [handsOver, hgate, hflag], .inr (.inr ⟨rfl, rfl, rfl⟩)⟩
  | scheduleAt hpc => exact .inr ⟨rfl, .inl ⟨_, _, rfl⟩⟩
  | @delivered e m q hpc hq =>
      refine .inr ⟨rfl, .inr (.inl ⟨m, q, hq, rfl, ?_, rfl⟩)⟩
      cases m <;> rfl
  | tick | proxyBinding | executionResumed | peeked | entered | reached | polled | chunk | last
  | passed | notWaited | waited | signalled | spurious | timedOut | received | interrupted
  | again | wentRound => exact .inr ⟨rfl, .inr (.inr ⟨rfl, rfl, rfl⟩)⟩

theorem count_insert (w : World) (m n : Msg) (t : SimTime) :
    (w.insert m t).msgQueue.count n = w.msgQueue.count n + if m = n then 1 else 0 := by
  have hperm := msgQueueInsert_perm (Function.update w.arrivalTime m t) m w.msgQueue
  show (msgQueueInsert _ m w.msgQueue).count n = _
  rw [hperm.count_eq, List.count_cons]
  simp

/-- A hand-over that finds its proxy adds one occurrence of the notification
and one completed call. -/
theorem handOver_books {w : World} {extAddress : String} {dest : SSProxy}
    (hdest : getProxyDestination w.proxies extAddress = some dest) (p : Nat) :
    (w.handOver extAddress).msgQueue.count (.notificationMsg p) =
        w.msgQueue.count (.notificationMsg p) + (if dest.id = p then 1 else 0) ∧
      (w.handOver extAddress).completed p =
        w.completed p + (if dest.id = p then 1 else 0) ∧
      (w.handOver extAddress).delivered = w.delivered := by
  refine ⟨?_, ?_, World.handOver_delivered⟩ <;> rw [World.handOver_of_some hdest]
  · have hcount := count_insert w dest.getNotificationMsg (.notificationMsg p)
      (w.clock.usec - w.baseTime.usec)
    simpa [SSProxy.getNotificationMsg] using hcount
  · by_cases hp : dest.id = p
    · subst hp
      simp
    · simp [Function.update_of_ne (Ne.symm hp), hp]

/-- Delivering the head moves one occurrence from the queue to the delivered
ones. -/
theorem deliver_books {w w' : World} {m : Msg} {q : List Msg}
    (hq : w.msgQueue = m :: q) (hq' : w'.msgQueue = q)
    (hd : w'.delivered = (w.handleMessage m).delivered) (p : Nat) :
    w'.msgQueue.count (.notificationMsg p) ≤ w.msgQueue.count (.notificationMsg p) ∧
      w'.delivered p + w'.msgQueue.count (.notificationMsg p) =
        w.delivered p + w.msgQueue.count (.notificationMsg p) := by
  rw [hd, hq', hq, List.count_cons]
  refine ⟨Nat.le_add_right _ _, ?_⟩
  cases m with
  | event id => simp [World.handleMessage]
  | notificationMsg r =>
      by_cases hr : r = p
      · subst hr
        simp [World.handleMessage]
        omega
      · simp [World.handleMessage, hr, Function.update_of_ne (Ne.symm hr)]

/-- From a good state, a step keeps `ExactlyOnce` just when it inserts no
notification that is still queued. -/
theorem step_exactlyOnce {w w' : World} {a : Action} (hw : ExactlyOnce w)
    (h : w.step a = some w') : ExactlyOnce w' ↔ InsertsFresh w a := by
  rcases step_books h with ⟨extAddress, hover, rfl⟩ | ⟨hover, hrest⟩
  · cases hdest : getProxyDestination w.proxies extAddress with
    | none =>
        -- no proxy matches: nothing is inserted
        have hsame : w.handOver extAddress = { w with gate := .idle } := by
          exact World.handOver_of_none hdest
        refine ⟨fun _ e d he hd => ?_, fun _ => hsame ▸ hw⟩
        rw [hover] at he
        cases he
        rw [hdest] at hd
        cases hd
    | some dest =>
        -- one occurrence more: at most one just when there was none
        have hfresh : InsertsFresh w a ↔ dest.getNotificationMsg ∉ w.msgQueue := by
          refine ⟨fun hC => hC _ _ hover hdest, fun hnot e d he hd => ?_⟩
          rw [hover] at he
          cases he
          rw [hdest] at hd
          cases hd
          exact hnot
        rw [hfresh, ← List.count_eq_zero]
        constructor
        · intro hw'
          have h1 := (hw' dest.id).1
          rw [(handOver_books hdest dest.id).1, if_pos rfl] at h1
          exact Nat.le_zero.mp (Nat.le_of_succ_le_succ h1)
        · intro hzero p
          obtain ⟨hcount, hcompleted, hdelivered⟩ := handOver_books hdest p
          obtain ⟨hle, hbal⟩ := hw p
          rw [hcount, hcompleted, hdelivered]
          refine ⟨?_, by omega⟩
          by_cases hp : dest.id = p
          · subst hp
            have : w.msgQueue.count (.notificationMsg dest.id) = 0 := hzero
            simp [this]
          · simpa [hp] using hle
  · -- every other step only takes notifications out
    have hC : InsertsFresh w a := by
      intro e d he
      rw [hover] at he
      cases he
    refine ⟨fun _ => hC, fun _ p => ?_⟩
    obtain ⟨hle, hbal⟩ := hw p
    rcases hrest with ⟨id, t, rfl⟩ | ⟨m, q, hq, hq', hc, hd⟩ | hsame
    · have hcount := count_insert w (.event id) (.notificationMsg p) t
      simp only [reduceCtorEq, if_false, Nat.add_zero] at hcount
      rw [hcount]
      exact ⟨hle, hbal⟩
    · have hbooks := deliver_books hq hq' hd p
      rw [hc]
      exact ⟨hbooks.1.trans hle, hbooks.2.trans hbal⟩
    · rw [hsame.msgQueue, hsame.completed, hsame.delivered]
      exact ⟨hle, hbal⟩

theorem World.Started.exactlyOnce {w : World} (h : w.Started) : ExactlyOnce w := by
  intro p
  have hzero : w.msgQueue.count (.notificationMsg p) = 0 :=
    List.count_eq_zero.mpr (h.queue p)
  rw [hzero, h.completed p, h.delivered p]
  exact ⟨Nat.zero_le 1, rfl⟩

/-! ## Whole runs -/

/-- **Exactly-once hand-over.** In a run from the start every visited state
satisfies `ExactlyOnce` if and only if every hand-over of the run finds the
notification it inserts out of the event queue. -/
theorem exactlyOnce_iff_insertsFresh {w : World} {run : List (Action × World)}
    (hw : w.Started) (hrun : simulator.Run w run) :
    TSys.Always ExactlyOnce w run ↔ TSys.Guarded InsertsFresh w run :=
  hrun.always_iff_guarded (I := fun _ => True) (fun _ _ _ _ _ => trivial)
    (fun _ _ _ _ hP hstep => step_exactlyOnce hP hstep) trivial hw.exactlyOnce

/-! ## One proxy, two messages -/

/-- Start of a run with one proxy and an empty event queue. -/
def oneProxy : World where
  clock := .ofUsec 1300000000250000
  baseTime := .ofUsec 1300000000000000
  simTime := 0
  proxies := [⟨0, "10.0.0.1"⟩]
  nextMsg := false
  msgQueue := []
  arrivalTime := fun _ => 0
  sim := .running
  gate := .idle
  completed := fun _ => 0
  delivered := fun _ => 0

theorem oneProxy_started : oneProxy.Started where
  sim := rfl
  gate := rfl
  nextMsg := rfl
  queue := fun _ => List.not_mem_nil
  completed := fun _ => rfl
  delivered := fun _ => rfl

/-- The simulation thread waits, is woken by a first message and clears the
flag; before it delivers, a second message of the same client comes in. -/
def twoMessages : List Action :=
  [.getNextEvent, .compare, .gettimeofday, .receiveUntil, .nextMessage 0,
    .processMessage "10.0.0.1", .wake false, .processMessage "10.0.0.1"]

/-- Both hand-overs insert the one notification object: it is queued twice. -/
theorem notification_queued_twice :
    simulator.Run oneProxy (oneProxy.trace twoMessages) ∧
      (TSys.finish oneProxy (oneProxy.trace twoMessages)).msgQueue =
        [.notificationMsg 0, .notificationMsg 0] ∧
      ¬ simulator.Invariant ExactlyOnce := by
  have hrun := run_trace oneProxy twoMessages
  have htwice : (TSys.finish oneProxy (oneProxy.trace twoMessages)).msgQueue =
      [.notificationMsg 0, .notificationMsg 0] := by decide
  refine ⟨hrun, htwice, fun hinv => ?_⟩
  have hreach := (hrun.reachable (.init oneProxy_started)).last
  have honce := (hinv _ hreach 0).1
  rw [htwice] at honce
  exact absurd honce (by decide)

/-- The same with the first notification delivered in between. -/
def messageDelivered : List Action :=
  [.getNextEvent, .compare, .gettimeofday, .receiveUntil, .nextMessage 0,
    .processMessage "10.0.0.1", .wake false, .finishCall false, .deliver,
    .processMessage "10.0.0.1"]

theorem exactlyOnce_messageDelivered :
    (oneProxy.trace messageDelivered).length = 10 ∧
      (TSys.Always ExactlyOnce oneProxy (oneProxy.trace messageDelivered) ↔
        TSys.Guarded InsertsFresh oneProxy (oneProxy.trace messageDelivered)) :=
  ⟨by decide, exactlyOnce_iff_insertsFresh oneProxy_started (run_trace _ _)⟩

end ScadaSim.External
