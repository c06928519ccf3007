import ScadaSim.External.HandOver
import ScadaSim.External.Pacing

/-!
# Notifications and the simulated past

`SSGate::processMessage` stamps a notification with the wall clock and leaves it
open whether that is behind the event returned last. The scheduler takes no lock in
`getNextEvent` and `executionResumed`; so both threads are run statement by statement
here: between the clock reading and the insertion an event may be returned, or the base
time moved.

`not_in_past_of_undivided`: where this does not happen, and no event is returned ahead
of real time, the moment of the last event is in the past of the clock, and stays there
when `executionResumed` moves the base time.
-/

namespace ScadaSim.External

open Lib

/-! ## Statements -/

/-- Where `processMessage` is behind its wait, once it has found the proxy. -/
inductive Handing
  | outside
  | matched (dest : SSProxy)
  /-- `curTime` read -/
  | clocked (dest : SSProxy) (curTime : Timeval)
  /-- base time subtracted -/
  | stamped (dest : SSProxy) (t : SimTime)
  /-- arrival time set -/
  | arrived (dest : SSProxy)
  deriving DecidableEq

/-- Behind the clock reading. -/
def Handing.Timed : Handing → Prop
  | .outside => False
  | .matched _ => False
  | _ => True

/-- The arrival time given to a notification, and that of the event returned last
before its insertion. -/
structure Stamp where
  time : SimTime
  floor : Option SimTime

/-- The world between two statements, with the arrival time of the event that
`getNextEvent` returned last and the stamps of the notifications. `resuming` is between
the two assignments of `executionResumed`. -/
structure Stamped where
  world : World
  handing : Handing := .outside
  resuming : Bool := false
  lastReturned : Option SimTime := none
  stamps : List Stamp := []

/-- The statements of `processMessage` behind the search for the proxy, the two of
`executionResumed`, and all other steps. -/
inductive Statement
  | step (a : Action)
  | gettimeofday
  | getBaseTime
  | setArrival
  | insert
  | resume
  | rebase

/-- The arrival time of the event with which the step leaves `getNextEvent`. -/
def returns (w w' : World) : Option SimTime :=
  match w.sim, w'.sim with
  | .returned _, _ => none
  | _, .returned (some e) => some (w'.arrivalTime e)
  | _, _ => none

/-- The proxy whose notification the action is about to insert. -/
def addressee (w : World) (a : Action) : Option SSProxy :=
  (handsOver w a).bind (getProxyDestination w.proxies)

namespace Stamped

/-- A thread is at one place; what takes the lock of the gate has to wait for the gate
thread. -/
def enabled (p : Stamped) : Action → Bool
  | .tick _ => true
  | .processMessage _ | .gateWake _ => decide (p.handing = .outside)
  | .nextMessage _ | .wake _ | .timeOut => decide (p.handing = .outside) && !p.resuming
  | .executionResumed => false
  | _ => !p.resuming

def observe (p : Stamped) (w' : World) : Stamped :=
  { p with
    world := w'
    lastReturned :=
      match returns p.world w' with
      | none => p.lastReturned
      | some t => some t }

def step (p : Stamped) : Statement → Option Stamped
  | .step a =>
      if p.enabled a then
        match p.world.step a, addressee p.world a with
        | none, _ => none
        | some _, some dest => some { p with handing := .matched dest }
        | some w', none => some (p.observe w')
      else none
  | .gettimeofday =>
      match p.handing with
      | .matched dest => some { p with handing := .clocked dest p.world.clock }
      | _ => none
  | .getBaseTime =>
      match p.handing with
      | .clocked dest curTime =>
          some { p with
            handing := .stamped dest (timeval_substract curTime p.world.baseTime.usec).usec }
      | _ => none
  | .setArrival =>
      match p.handing with
      | .stamped dest t =>
          some { p with
            world := p.world.setArrival dest.getNotificationMsg t
            handing := .arrived dest }
      | _ => none
  | .insert =>
      match p.handing with
      | .arrived dest =>
          some { p with
            world := p.world.enqueue dest
            handing := .outside
            stamps := p.stamps ++
              [⟨p.world.arrivalTime dest.getNotificationMsg, p.lastReturned⟩] }
      | _ => none
  | .resume =>
      match p.world.sim with
      | .running =>
          if p.resuming then none
          else some { p with world := { p.world with baseTime := p.world.clock }, resuming := true }
      | _ => none
  | .rebase =>
      if p.resuming then
        some { p with
          world := { p.world with
            baseTime := timeval_substract p.world.baseTime p.world.simTime }
          resuming := false }
      else none

/-- The run a list of statements causes. -/
def trace (p : Stamped) (statements : List Statement) : List (Statement × Stamped) :=
  TSys.trace step p statements

/-- Nothing has been observed. -/
structure Started (p : Stamped) : Prop where
  world : p.world.Started
  handing : p.handing = .outside
  resuming : p.resuming = false
  lastReturned : p.lastReturned = none
  stamps : p.stamps = []

end Stamped

/-- The simulator with its gate, observed from the start of a run. -/
def stampedSimulator : TSys Stamped Statement where
  init := Stamped.Started
  step := fun p a p' => p.step a = some p'

/-- No notification was inserted behind the event returned last. -/
def NotInPast (p : Stamped) : Prop :=
  ∀ s ∈ p.stamps, ∀ t, s.floor = some t → t ≤ s.time

/-- Between the clock reading and the insertion of a notification no event is returned and
`executionResumed` does not start, and the clock is not read between its two assignments. The
calls of `getNextEvent` are not disturbed. -/
def Undivided (p : Stamped) : Statement → Prop
  | .step a => Undisturbed p.world a ∧
      (p.handing.Timed → ∀ w', p.world.step a = some w' → returns p.world w' = none)
  | .gettimeofday => p.resuming = false
  | .resume => ¬ p.handing.Timed
  | _ => True

/-! ## Steps that nothing divides -/

/-- The statements of a hand-over, one after the other, are the step `handOver`. -/
theorem handOver_statements {p : Stamped} {extAddress : String} {dest : SSProxy}
    (hdest : getProxyDestination p.world.proxies extAddress = some dest)
    (hmatched : p.handing = .matched dest) :
    (TSys.finish p (p.trace [.gettimeofday, .getBaseTime, .setArrival, .insert])).world =
      p.world.handOver extAddress := by
  obtain ⟨world, handing, resuming, lastReturned, stamps⟩ := p
  obtain rfl : handing = .matched dest := hmatched
  rw [World.handOver_eq_enqueue hdest, ← timeval_substract_usec]
  rfl

/-- So are those of `executionResumed`. -/
theorem executionResumed_statements {p : Stamped} (hpc : p.world.sim = .running)
    (hresuming : p.resuming = false) :
    p.world.executionResumed =
      some (TSys.finish p (p.trace [.resume, .rebase])).world := by
  obtain ⟨world, handing, resuming, lastReturned, stamps⟩ := p
  obtain rfl : resuming = false := hresuming
  have hpc : world.sim = .running := hpc
  simp [World.executionResumed, Stamped.trace, TSys.trace, Stamped.step, hpc, TSys.finish]

/-! ## The last event and the clock -/

/-- What the gate thread has computed is not behind the event returned last, and it is due. -/
def Handing.Behind (p : Stamped) : Handing → Prop
  | .outside => True
  | .matched _ => True
  | .clocked _ curTime => curTime.usec ≤ p.world.clock.usec ∧
      ∀ t, p.lastReturned = some t → p.world.baseTime.usec + t ≤ curTime.usec
  | .stamped _ s => p.world.baseTime.usec + s ≤ p.world.clock.usec ∧
      ∀ t, p.lastReturned = some t → t ≤ s
  | .arrived dest => p.world.Due dest.getNotificationMsg ∧
      ∀ t, p.lastReturned = some t → t ≤ p.world.arrivalTime dest.getNotificationMsg

/-- The event returned last lies in the past of the clock, and neither the time of
the simulation nor, before it is delivered, its own arrival time is behind it. -/
structure LastPast (p : Stamped) : Prop where
  clock : p.resuming = false → ∀ t, p.lastReturned = some t →
    p.world.baseTime.usec + t ≤ p.world.clock.usec
  resumed : p.resuming = true → p.world.sim = .running ∧
    p.world.baseTime.usec ≤ p.world.clock.usec ∧ ¬ p.handing.Timed
  simTime : ∀ t, p.lastReturned = some t → (∀ e, p.world.sim ≠ .returned (some e)) →
    t ≤ p.world.simTime
  event : ∀ t e, p.lastReturned = some t → p.world.sim = .returned (some e) →
    t ≤ p.world.arrivalTime e
  handing : p.handing.Behind p
  stamps : NotInPast p

/-- The invariant. -/
structure Paced (p : Stamped) : Prop where
  tracking : Tracking p.world p.world.sim
  fresh : Fresh p.world p.world.sim
  punctual : Punctual p.world
  past : LastPast p

theorem Handing.behind_of_not_timed {p : Stamped} {g : Handing} (h : ¬ g.Timed) : g.Behind p := by
  cases g with
  | outside | matched dest => trivial
  | clocked dest curTime | stamped dest t | arrived dest => exact absurd trivial h

/-- Time passes, and arrival times of notifications stay. -/
theorem Handing.Behind.later {p : Stamped} {g : Handing} (h : g.Behind p) {w' : World}
    (hclock : p.world.clock.usec ≤ w'.clock.usec) (hbase : w'.baseTime = p.world.baseTime)
    (harrival : ∀ i, w'.arrivalTime (.notificationMsg i) =
      p.world.arrivalTime (.notificationMsg i)) : g.Behind { p with world := w' } := by
  cases g with
  | outside | matched dest => trivial
  | clocked dest curTime => exact ⟨h.1.trans hclock, fun t ht => hbase ▸ h.2 t ht⟩
  | stamped dest s => exact ⟨hbase ▸ h.1.trans hclock, h.2⟩
  | arrived dest =>
      refine ⟨?_, fun t ht => (h.2 t ht).trans (harrival dest.id).ge⟩
      show w'.baseTime.usec + w'.arrivalTime (.notificationMsg dest.id) ≤ w'.clock.usec
      rw [harrival, hbase]
      exact h.1.trans hclock

/-- The step does not leave `getNextEvent` with an event. -/
theorem returns_of_old {w w' : World}
    (h : ∀ e, w'.sim = .returned (some e) → w.sim = .returned (some e)) :
    returns w w' = none := by
  unfold returns
  split
  · rfl
  · rename_i e he hne
    exact absurd (h e he) (hne _)
  · rfl

theorem observe_of_quiet {p : Stamped} {w' : World} (h : returns p.world w' = none) :
    p.observe w' = { p with world := w' } := by
  unfold Stamped.observe
  rw [h]

namespace LastPast

variable {p : Stamped} {w' : World}

/-- A step that returns no event, and moves neither the base time nor the arrival time of a
notification. -/
theorem otherStep (h : LastPast p)
    (hold : ∀ e, w'.sim = .returned (some e) → p.world.sim = .returned (some e))
    (hclock : p.world.clock.usec ≤ w'.clock.usec) (hbase : w'.baseTime = p.world.baseTime)
    (harrival : ∀ i, w'.arrivalTime (.notificationMsg i) =
      p.world.arrivalTime (.notificationMsg i))
    (hrunning : p.resuming = true → w'.sim = .running)
    (hsimTime : ∀ t, p.lastReturned = some t → (∀ e, w'.sim ≠ .returned (some e)) →
      t ≤ w'.simTime)
    (hevent : ∀ t e, p.lastReturned = some t → w'.sim = .returned (some e) →
      t ≤ w'.arrivalTime e) : LastPast (p.observe w') := by
  rw [observe_of_quiet (returns_of_old hold)]
  refine ⟨fun hr t ht => ?_, fun hr => ?_, hsimTime, hevent,
    h.handing.later hclock hbase harrival, h.stamps⟩
  · exact hbase ▸ (h.clock hr t ht).trans hclock
  · obtain ⟨-, hle, htimed⟩ := h.resumed hr
    exact ⟨hrunning hr, hbase ▸ hle.trans hclock, htimed⟩

/-- A step inside `getNextEvent`, or out of it with an event that is due. -/
theorem simStep (h : LastPast p) (hclock : w'.clock = p.world.clock)
    (hbase : w'.baseTime = p.world.baseTime) (hsimTime : w'.simTime = p.world.simTime)
    (harrival : w'.arrivalTime = p.world.arrivalTime) (hsim : ∀ e, p.world.sim ≠ .returned e)
    (hgoing : p.resuming = false) (hquiet : p.handing.Timed → returns p.world w' = none)
    (hdue : Punctual w') : LastPast (p.observe w') := by
  by_cases hret : ∃ e, w'.sim = .returned (some e)
  · obtain ⟨e, hret⟩ := hret
    have hreturns : returns p.world w' = some (w'.arrivalTime e) := by
      unfold returns
      rw [hret]
      cases hpc : p.world.sim <;> first | rfl | exact absurd hpc (hsim _)
    have hlast : p.observe w' =
        { p with world := w', lastReturned := some (w'.arrivalTime e) } := by
      unfold Stamped.observe
      rw [hreturns]
    -- what the gate thread has computed would be behind this event
    have htimed : ¬ p.handing.Timed := fun ht => by
      cases (hquiet ht).symm.trans hreturns
    rw [hlast]
    refine ⟨fun _ t ht => ?_, fun hr => absurd (hgoing.symm.trans hr) Bool.false_ne_true,
      fun t _ hne => absurd hret (hne e), fun t e' ht he' => ?_,
      Handing.behind_of_not_timed htimed, h.stamps⟩
    · cases ht
      exact hdue e hret
    · cases ht
      cases hret.symm.trans he'
      exact le_refl _
  · refine h.otherStep (fun e he => absurd ⟨e, he⟩ hret) (hclock ▸ le_refl _) hbase
      (fun i => congrFun harrival _) (fun hr => absurd (hgoing.symm.trans hr) Bool.false_ne_true)
      (fun t ht _ => ?_) fun t e _ he => absurd ⟨e, he⟩ hret
    rw [hsimTime]
    exact h.simTime t ht fun e => hsim (some e)

end LastPast

/-! ## One statement -/

theorem insert_notification (w : World) (id : Nat) (t : SimTime) (i : Nat) :
    (w.insert (.event id) t).arrivalTime (.notificationMsg i) =
      w.arrivalTime (.notificationMsg i) := by
  have hne : Msg.notificationMsg i ≠ .event id := by simp
  exact Function.update_of_ne hne t w.arrivalTime

/-- A hand-over without an addressee ends at once. -/
theorem handOver_of_no_addressee {w : World} {a : Action} {extAddress : String}
    (haddressee : addressee w a = none) (hover : handsOver w a = some extAddress) :
    w.handOver extAddress = { w with gate := .idle } := by
  unfold addressee at haddressee
  rw [hover] at haddressee
  exact World.handOver_of_none haddressee

theorem LastPast.idle {p : Stamped} (h : LastPast p) (g : GateThread) :
    LastPast (p.observe { p.world with gate := g }) :=
  h.otherStep (fun _ he => he) (le_refl _) rfl (fun _ => rfl) (fun hr => (h.resumed hr).1)
    h.simTime h.event

theorem lastPast_step {p : Stamped} {a : Action} {w' : World} (h : LastPast p)
    (henabled : p.enabled a = true) (haddressee : addressee p.world a = none)
    (hquiet : p.handing.Timed → returns p.world w' = none) (hdue : Punctual w')
    (hstep : p.world.step a = some w') : LastPast (p.observe w') := by
  cases World.step_cases hstep with
  | tick hle =>
      exact h.otherStep (fun _ he => he) hle rfl (fun _ => rfl) (fun hr => (h.resumed hr).1)
        h.simTime h.event
  | blocked hgate hflag => exact h.idle _
  | handedOver hgate hflag =>
      rw [handOver_of_no_addressee haddressee (by simp [handsOver, hgate, hflag])]
      exact h.idle _
  | woken hgate =>
      rw [handOver_of_no_addressee haddressee (by simp [handsOver, hgate])]
      exact h.idle _
  | executionResumed hpc => cases henabled
  | proxyBinding hpc =>
      exact h.otherStep (fun _ he => he) (le_refl _) rfl (fun _ => rfl) (fun _ => hpc)
        h.simTime h.event
  | @scheduleAt id t hpc =>
      refine h.otherStep (fun _ he => he) (le_refl _) rfl (insert_notification _ id t)
        (fun _ => hpc) h.simTime fun _ e _ he => ?_
      cases hpc.symm.trans he
  | wentRound hpc =>
      refine h.otherStep (fun _ he => by cases he) (le_refl _) rfl (fun _ => rfl)
        (fun _ => rfl) (fun t ht _ => ?_) fun _ _ _ he => by cases he
      exact h.simTime t ht fun e he => by cases hpc.symm.trans he
  | @delivered e m q hpc hq =>
      have hframe : (p.world.handleMessage m).clock = p.world.clock ∧
          (p.world.handleMessage m).baseTime = p.world.baseTime ∧
          (p.world.handleMessage m).arrivalTime = p.world.arrivalTime := by
        cases m <;> exact ⟨rfl, rfl, rfl⟩
      refine h.otherStep (fun _ he => by cases he) (le_of_eq ?_) hframe.2.1
        (fun i => congrFun hframe.2.2 _) (fun _ => rfl) (fun t ht _ => h.event t e ht hpc)
        fun _ _ _ he => by cases he
      exact congrArg Timeval.usec hframe.1.symm
  | peeked hpc | entered hpc | reached hpc | polled hpc | chunk hpc | last hpc | passed hpc
  | received hpc | interrupted hpc | again hpc =>
      have hgoing : p.resuming = false := by simpa [Stamped.enabled] using henabled
      exact h.simStep rfl rfl rfl rfl (by simp [hpc]) hgoing hquiet hdue
  | notWaited hpc | waited hpc | signalled hpc | spurious hpc | timedOut hpc =>
      have hgoing : p.resuming = false := by
        simpa [Stamped.enabled] using (Bool.and_eq_true_iff.mp henabled).2
      exact h.simStep rfl rfl rfl rfl (by simp [hpc]) hgoing hquiet hdue

namespace Paced

variable {p : Stamped}

/-- Outside of `getNextEvent` there is no call that anything is to be known of. -/
theorem of_running (hpc : p.world.sim = .running) (h : LastPast p) : Paced p := by
  refine ⟨?_, ?_, punctual_of_ne (by simp [hpc]), h⟩
  · rw [hpc]
    trivial
  · rw [hpc]
    trivial

/-- Another place of the gate thread. -/
theorem moved (h : Paced p) {g : Handing} (hgoing : g.Timed → p.resuming = false)
    (hbehind : g.Behind p) : Paced { p with handing := g } :=
  ⟨h.tracking, h.fresh, h.punctual, h.past.clock,
    fun hr => ⟨(h.past.resumed hr).1, (h.past.resumed hr).2.1,
      fun ht => absurd ((hgoing ht).symm.trans hr) Bool.false_ne_true⟩,
    h.past.simTime, h.past.event, hbehind, h.past.stamps⟩

theorem going (h : Paced p) (htimed : p.handing.Timed) : p.resuming = false :=
  Bool.eq_false_iff.mpr fun hr => (h.past.resumed hr).2.2 htimed

theorem step (h : Paced p) {a : Action} (hguard : Undivided p (.step a)) {p' : Stamped}
    (hstep : p.step (.step a) = some p') : Paced p' := by
  obtain ⟨hu, hquiet⟩ := hguard
  unfold Stamped.step at hstep
  dsimp only at hstep
  split at hstep
  · rename_i henabled
    split at hstep
    · cases hstep
    · cases hstep
      exact h.moved nofun trivial
    · rename_i w' hw haddressee
      cases hstep
      have hfresh := step_fresh h.fresh hu hw
      have hdue := (step_punctual h.tracking h.punctual hw).mpr (h.fresh.reportsDue a)
      exact ⟨step_tracking h.tracking hw, hfresh, hdue,
        lastPast_step h.past henabled haddressee (fun ht => hquiet ht w' hw) hdue hw⟩
  · cases hstep

theorem gettimeofday (h : Paced p) (hgoing : p.resuming = false) {dest : SSProxy} :
    Paced { p with handing := .clocked dest p.world.clock } :=
  h.moved (fun _ => hgoing) ⟨le_refl _, h.past.clock hgoing⟩

theorem getBaseTime (h : Paced p) {dest : SSProxy} {curTime : Timeval}
    (hplace : p.handing = .clocked dest curTime) :
    Paced { p with
      handing := .stamped dest (timeval_substract curTime p.world.baseTime.usec).usec } := by
  have hbehind := h.past.handing
  rw [hplace] at hbehind
  obtain ⟨hclock, hlast⟩ := hbehind
  refine h.moved (fun _ => h.going (by rw [hplace]; trivial)) ?_
  rw [timeval_substract_usec]
  refine ⟨by linarith, fun t ht => ?_⟩
  have hle := hlast t ht
  linarith

theorem setArrival (h : Paced p) {dest : SSProxy} {t : SimTime}
    (hplace : p.handing = .stamped dest t) :
    Paced { p with
      world := p.world.setArrival dest.getNotificationMsg t
      handing := .arrived dest } := by
  have hbehind := h.past.handing
  rw [hplace] at hbehind
  obtain ⟨hdue, hlast⟩ := hbehind
  have hlater : Later p.world (p.world.setArrival dest.getNotificationMsg t) :=
    later_setArrival hdue
  have hself : (p.world.setArrival dest.getNotificationMsg t).arrivalTime
      dest.getNotificationMsg = t := Function.update_self ..
  have hgoing := h.going (by rw [hplace]; trivial)
  refine ⟨hlater.tracking h.tracking, hlater.fresh .inl h.fresh,
    hlater.punctual h.punctual fun _ he => he, h.past.clock,
    fun hr => absurd (hgoing.symm.trans hr) Bool.false_ne_true, h.past.simTime,
    fun l e hl he => ?_, ⟨?_, fun l hl => ?_⟩, h.past.stamps⟩
  · by_cases heq : e = dest.getNotificationMsg
    · show l ≤ (p.world.setArrival dest.getNotificationMsg t).arrivalTime e
      rw [heq, hself]
      exact hlast l hl
    · exact (h.past.event l e hl he).trans_eq (Function.update_of_ne heq _ _).symm
  · show p.world.baseTime.usec +
      (p.world.setArrival dest.getNotificationMsg t).arrivalTime dest.getNotificationMsg ≤ _
    rw [hself]
    exact hdue
  · show l ≤ (p.world.setArrival dest.getNotificationMsg t).arrivalTime dest.getNotificationMsg
    rw [hself]
    exact hlast l hl

/-- The notification is inserted with the stamp that was computed before. -/
theorem insert (h : Paced p) {dest : SSProxy} (hplace : p.handing = .arrived dest) :
    Paced { p with
      world := p.world.enqueue dest
      handing := .outside
      stamps := p.stamps ++
        [⟨p.world.arrivalTime dest.getNotificationMsg, p.lastReturned⟩] } := by
  have hbehind := h.past.handing
  rw [hplace] at hbehind
  obtain ⟨hdue, hlast⟩ := hbehind
  have hgoing := h.going (by rw [hplace]; trivial)
  -- the signal wakes a wait; it does not make an event be returned
  have hsame : ∀ e, p.world.sim.notify = .returned e ↔ p.world.sim = .returned e := by
    intro e
    cases p.world.sim <;> simp [SimThread.notify]
  refine ⟨tracking_enqueue hdue h.tracking, fresh_enqueue hdue h.fresh,
    punctual_enqueue hdue h.punctual, h.past.clock,
    fun hr => absurd (hgoing.symm.trans hr) Bool.false_ne_true,
    fun t ht hne => h.past.simTime t ht fun e he => hne e ((hsame _).mpr he),
    fun t e ht he => h.past.event t e ht ((hsame _).mp he), trivial, ?_⟩
  intro s hs t ht
  rcases List.mem_append.mp hs with hs | hs
  · exact h.past.stamps s hs t ht
  · rw [List.mem_singleton.mp hs] at ht ⊢
    exact hlast t ht

/-- Between the assignments the base time is the clock. -/
theorem resume (h : Paced p) (hpc : p.world.sim = .running) (htimed : ¬ p.handing.Timed) :
    Paced { p with world := { p.world with baseTime := p.world.clock }, resuming := true } := by
  refine .of_running hpc ⟨nofun, fun _ => ⟨hpc, le_refl _, htimed⟩, h.past.simTime,
    fun _ e _ he => ?_, Handing.behind_of_not_timed htimed, h.past.stamps⟩
  cases hpc.symm.trans he

/-- Then it is behind the clock by the time of the simulation, which the event returned last
is not ahead of. -/
theorem rebase (h : Paced p) (hresuming : p.resuming = true) :
    Paced { p with
      world := { p.world with
        baseTime := timeval_substract p.world.baseTime p.world.simTime }
      resuming := false } := by
  obtain ⟨hpc, hle, htimed⟩ := h.past.resumed hresuming
  refine .of_running hpc ⟨fun _ t ht => ?_, nofun, h.past.simTime, fun _ e _ he => ?_,
    Handing.behind_of_not_timed htimed, h.past.stamps⟩
  · have hbehind := h.past.simTime t ht fun e he => by cases hpc.symm.trans he
    show (timeval_substract p.world.baseTime p.world.simTime).usec + t ≤ p.world.clock.usec
    rw [timeval_substract_usec]
    linarith
  · cases hpc.symm.trans he

theorem statement (h : Paced p) {a : Statement} (hguard : Undivided p a) {p' : Stamped}
    (hstep : p.step a = some p') : Paced p' := by
  cases a with
  | step a => exact h.step hguard hstep
  | gettimeofday =>
      simp only [Stamped.step] at hstep
      split at hstep <;> cases hstep
      exact h.gettimeofday hguard
  | getBaseTime =>
      simp only [Stamped.step] at hstep
      split at hstep <;> cases hstep
      exact h.getBaseTime ‹_›
  | setArrival =>
      simp only [Stamped.step] at hstep
      split at hstep <;> cases hstep
      exact h.setArrival ‹_›
  | insert =>
      simp only [Stamped.step] at hstep
      split at hstep <;> cases hstep
      exact h.insert ‹_›
  | resume =>
      simp only [Stamped.step] at hstep
      split at hstep
      · split at hstep <;> cases hstep
        exact h.resume ‹_› hguard
      · cases hstep
  | rebase =>
      simp only [Stamped.step] at hstep
      split at hstep <;> cases hstep
      exact h.rebase ‹_›

end Paced

/-! ## Runs -/

section Runs

variable {p : Stamped} {tr : List (Statement × Stamped)}

theorem always_paced (hinit : stampedSimulator.init p) (hrun : stampedSimulator.Run p tr)
    (hguard : TSys.Guarded Undivided p tr) : TSys.Always Paced p tr := by
  obtain ⟨hworld, hhanding, hresuming, hlast, hstamps⟩ := hinit
  refine hrun.always_of_guarded (I := Paced)
    (fun _ _ _ h hguard hstep => h.statement hguard hstep) hguard ?_
  have hnone : ∀ t, p.lastReturned ≠ some t := by simp [hlast]
  refine .of_running hworld.sim ⟨fun _ t ht => absurd ht (hnone t),
    fun hr => absurd (hresuming.symm.trans hr) Bool.false_ne_true,
    fun t ht => absurd ht (hnone t), fun t _ ht => absurd ht (hnone t), ?_, ?_⟩
  · rw [hhanding]
    trivial
  · intro s hs
    rw [hstamps] at hs
    cases hs

/-- Nor is an event returned ahead of real time. -/
theorem punctual_of_undivided (hinit : stampedSimulator.init p)
    (hrun : stampedSimulator.Run p tr) (hguard : TSys.Guarded Undivided p tr) :
    TSys.Always (fun p => Punctual p.world) p tr :=
  (always_paced hinit hrun hguard).mono fun _ h => h.punctual

end Runs

/-! ### Messages behind the event returned last -/

/-- The event at 1 s and a proxy, at the given moment after the base time. -/
def oneEventAt (usec : Int) : Stamped where
  world := { oneEvent with
    clock := .ofUsec (1300000000000000 + usec)
    proxies := [⟨0, "10.0.0.1"⟩] }

theorem oneEventAt_init (usec : Int) : stampedSimulator.init (oneEventAt usec) :=
  ⟨⟨rfl, rfl, rfl, by simp [oneEventAt, oneEvent], fun _ => rfl, fun _ => rfl⟩, rfl, rfl, rfl, rfl⟩

theorem run_stampedTrace (p : Stamped) (statements : List Statement) :
    stampedSimulator.Run p (p.trace statements) :=
  TSys.run_trace (fun _ _ _ h => h) p statements

/-- A message that is handed over without a wait. -/
def oneMessage : List Statement :=
  [.step (.processMessage "10.0.0.1"), .gettimeofday, .getBaseTime, .setArrival, .insert]

/-- The event is on time, but a message that has been stamped before is inserted behind it. -/
def dividedMessage : List Statement :=
  [.step (.processMessage "10.0.0.1"), .gettimeofday, .getBaseTime,
    .step (.tick (.ofUsec 1300000001000000)), .step .getNextEvent, .step .compare, .setArrival,
    .insert]

example : ((TSys.finish (oneEventAt 999999) ((oneEventAt 999999).trace dividedMessage)).stamps.map
    fun s => (s.time, s.floor)) = [(999999, some 1000000)] := by decide

end ScadaSim.External
