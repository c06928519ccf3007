import ScadaSim.External.Monitor

/-!
# What `nextMessage` reports

`SSGate::nextMessage` clears `nextMsg` and returns 0 when it has consumed a message.
The code it returns is that of the wait, or of nothing where it does not wait, and
the flag is cleared in any case. `always_truthful_iff` says in which runs the two
agree.
-/

namespace ScadaSim.External

open Lib

/-- An answer of `nextMessage`: its result, and `nextMsg` when it was reset. -/
structure Answer where
  retcode : Int
  wasSet : Bool

/-- The world, with the answers of `nextMessage` so far. -/
structure Answered where
  world : World
  answers : List Answer

/-- The answer with which the step leaves `nextMessage`. A step is a critical
section: `nextMsg` is still as the step finds it when it is reset. -/
def answers (w w' : World) : List Answer :=
  match w.sim, w'.sim with
  | .after .., _ => []
  | _, .after _ _ retcode _ => [⟨retcode, w.nextMsg⟩]
  | _, _ => []

namespace Answered

def step (p : Answered) (a : Action) : Option Answered :=
  (p.world.step a).map fun w' => ⟨w', p.answers ++ External.answers p.world w'⟩

/-- The run a list of actions causes. -/
def trace (p : Answered) (actions : List Action) : List (Action × Answered) :=
  TSys.trace step p actions

end Answered

/-- The simulator with its gate, observed from the start of a run. -/
def answeringSimulator : TSys Answered Action where
  init := fun p => p.world.Started ∧ p.answers = []
  step := fun p a p' => p.step a = some p'

/-- Every answer is 0 just when a message was consumed. -/
def Truthful (p : Answered) : Prop :=
  ∀ x ∈ p.answers, x.retcode = 0 ↔ x.wasSet = true

/-- If the action ends a call of `nextMessage` that found the flag set, the local it
returns happens to hold 0; if it ends a wait with 0, the wait was notified, and if it
ends it with a time-out, it was not. -/
def EndsRight (w : World) : Action → Prop
  | .nextMessage garbage => w.nextMsg = true → garbage = 0
  | .wake _ => ∃ aim call deadline, w.sim = .waiting aim call deadline true
  | .timeOut => ∃ aim call deadline, w.sim = .waiting aim call deadline false
  | _ => True

/-! ## The flag and the notification -/

/-- A wait has been notified just when the flag is set. -/
def FlagNotified (w : World) : Prop :=
  ∀ aim call deadline signalled, w.sim = .waiting aim call deadline signalled →
    (signalled = true ↔ w.nextMsg = true)

theorem FlagNotified.of_not_waiting {w : World}
    (h : ∀ aim call deadline signalled, w.sim ≠ .waiting aim call deadline signalled) :
    FlagNotified w :=
  fun _ _ _ _ hpc => absurd hpc (h _ _ _ _)

theorem FlagNotified.handOver {w : World} (h : FlagNotified w) (extAddress : String) :
    FlagNotified (w.handOver extAddress) := by
  unfold World.handOver
  split
  · exact h
  · intro aim call deadline signalled hpc
    cases hsim : w.sim with
    | waiting aim' call' deadline' signalled' =>
        simp only [hsim, SimThread.notify] at hpc
        cases hpc
        simp
    | _ => simp [hsim, SimThread.notify] at hpc

/-- What a call of `nextMessage` does up to its end or into its wait. -/
theorem nextMessage_cases {w w' : World} {garbage : Int} (h : w.nextMessage garbage = some w') :
    ∃ aim call, w.sim = .calling aim call ∧
      ((w.nextMsg = true ∧ w' = w.consume (.after aim call garbage .unwaited)) ∨
        (w.nextMsg = false ∧ w' = w.consume (.after aim call EINVAL .unwaited)) ∨
        (w.nextMsg = false ∧ w' = { w with
          sim := .waiting aim call (SSThread.waitTimeout w.clock call.ms) false })) := by
  unfold World.nextMessage at h
  cases hpc : w.sim with
  | calling aim call =>
      refine ⟨aim, call, rfl, ?_⟩
      simp only [hpc] at h
      by_cases hflag : w.nextMsg = true
      · rw [if_pos hflag] at h
        exact .inl ⟨hflag, (Option.some.inj h).symm⟩
      · have hclear : w.nextMsg = false := Bool.eq_false_iff.mpr hflag
        rw [if_neg hflag] at h
        by_cases hnorm : (SSThread.waitTimeout w.clock call.ms).Normalised
        · rw [if_pos hnorm] at h
          exact .inr (.inr ⟨hclear, (Option.some.inj h).symm⟩)
        · rw [if_neg hnorm] at h
          exact .inr (.inl ⟨hclear, (Option.some.inj h).symm⟩)
  | _ => simp [hpc] at h

theorem flagNotified_step {w w' : World} {a : Action} (h : FlagNotified w)
    (hstep : w.step a = some w') : FlagNotified w' := by
  cases World.step_cases hstep with
  | tick _ | proxyBinding _ | scheduleAt _ | executionResumed _ | blocked _ _ => exact h
  | handedOver _ _ => exact h.handOver _
  | woken _ => exact h.handOver _
  | waited hpc =>
      obtain ⟨aim, call, -, hcases⟩ := nextMessage_cases hstep
      rcases hcases with ⟨-, hw⟩ | ⟨-, hw⟩ | ⟨hclear, hw⟩
      · rw [hw]
        exact .of_not_waiting (by simp [World.consume])
      · rw [hw]
        exact .of_not_waiting (by simp [World.consume])
      · -- the wait begins with the flag clear, and unsignalled
        rw [hw]
        intro aim call deadline signalled hpc'
        cases hpc'
        simp [hclear]
  | peeked | entered | reached | polled | chunk | last | passed | notWaited | signalled
  | spurious | timedOut | received | interrupted | again | wentRound | delivered =>
      exact .of_not_waiting (by simp [World.consume])

/-! ## The answer of a step -/

theorem answers_eq_nil {w w' : World} (h : ∀ aim call retcode origin,
    w'.sim = .after aim call retcode origin → w.sim = .after aim call retcode origin) :
    answers w w' = [] := by
  unfold answers
  split
  · rfl
  · next hpc' hne => exact absurd (h _ _ _ _ hpc') (hne _ _ _ _)
  · rfl

/-- Unchanged where the simulation thread stands. -/
theorem answers_of_sim_eq {w w' : World} (h : w'.sim = w.sim) : answers w w' = [] :=
  answers_eq_nil fun _ _ _ _ hpc => h ▸ hpc

theorem answers_of_after {w w' : World} {aim : Aim} {call : Call} {retcode : Int}
    {origin : Origin} (h : w.sim = .after aim call retcode origin) : answers w w' = [] := by
  simp [answers, h]

theorem answers_consume {w : World} {aim : Aim} {call : Call} {retcode : Int} {origin : Origin}
    (h : ∀ aim call retcode origin, w.sim ≠ .after aim call retcode origin) :
    answers w (w.consume (.after aim call retcode origin)) = [⟨retcode, w.nextMsg⟩] := by
  unfold answers
  split
  · next hpc => exact absurd hpc (h _ _ _ _)
  · next hpc' _ =>
      cases hpc'
      rfl
  · next hne => exact absurd rfl (hne _ _ _ _)

theorem answers_handOver (w : World) (extAddress : String) :
    answers w (w.handOver extAddress) = [] := by
  refine answers_eq_nil fun aim call retcode origin hpc => ?_
  rcases w.handOver_sim with hsim | hsim
  · exact hsim ▸ hpc
  · rw [hsim] at hpc
    cases hold : w.sim <;> simp_all [SimThread.notify]

def Answer.Truthful (x : Answer) : Prop := x.retcode = 0 ↔ x.wasSet = true

/-- The action can end a call of `nextMessage`. -/
def Ends : Action → Prop
  | .nextMessage _ | .wake _ | .timeOut => True
  | _ => False

/-- No other action is an answer. -/
theorem answers_of_not_ends {w w' : World} {a : Action} (hstep : w.step a = some w')
    (h : ¬ Ends a) : answers w w' = [] := by
  cases World.step_cases hstep with
  | tick _ => exact answers_of_sim_eq rfl
  | proxyBinding _ => exact answers_of_sim_eq rfl
  | scheduleAt _ => exact answers_of_sim_eq rfl
  | executionResumed _ => exact answers_of_sim_eq rfl
  | peeked _ _ => exact answers_eq_nil (by simp)
  | entered _ _ => exact answers_eq_nil (by simp)
  | reached _ _ => exact answers_eq_nil (by simp)
  | polled _ => exact answers_eq_nil (by simp)
  | chunk _ => exact answers_eq_nil (by simp)
  | last _ _ => exact answers_eq_nil (by simp)
  | passed _ _ => exact answers_eq_nil (by simp)
  | received hpc _ => exact answers_of_after hpc
  | interrupted hpc _ => exact answers_of_after hpc
  | again hpc _ => exact answers_of_after hpc
  | wentRound _ => exact answers_eq_nil (by simp)
  | delivered _ _ => exact answers_eq_nil (by simp)
  | blocked _ _ => exact answers_of_sim_eq rfl
  | handedOver _ _ => exact answers_handOver w _
  | woken _ => exact answers_handOver w _
  | _ => exact absurd trivial h

/-- The answer of a step, if there is one, is right just when the call ends right. -/
theorem answers_truthful_iff {w w' : World} {a : Action} (h : FlagNotified w)
    (hstep : w.step a = some w') : (∀ x ∈ answers w w', x.Truthful) ↔ EndsRight w a := by
  cases a with
  | nextMessage garbage =>
      obtain ⟨aim, call, hpc, hcases⟩ := nextMessage_cases hstep
      rcases hcases with ⟨hset, rfl⟩ | ⟨hclear, rfl⟩ | ⟨hclear, rfl⟩
      · rw [answers_consume (by simp [hpc])]
        simp [Answer.Truthful, EndsRight, hset]
      · rw [answers_consume (by simp [hpc])]
        simp [Answer.Truthful, EndsRight, hclear, EINVAL]
      · rw [answers_eq_nil (by simp)]
        simp [EndsRight, hclear]
  | wake spurious =>
      cases World.step_cases hstep with
      | signalled hpc =>
          have hset : w.nextMsg = true := (h _ _ _ _ hpc).mp rfl
          rw [answers_consume (by simp [hpc])]
          simp [Answer.Truthful, EndsRight, hset, hpc]
      | spurious hpc =>
          have hflag := h _ _ _ _ hpc
          rw [answers_consume (by simp [hpc])]
          simp [Answer.Truthful, EndsRight, hpc, ← hflag]
  | timeOut =>
      cases World.step_cases hstep with
      | @timedOut aim call deadline signalled hpc hdeadline =>
          have hflag := h _ _ _ _ hpc
          rw [answers_consume (by simp [hpc])]
          cases signalled <;> simp_all [Answer.Truthful, EndsRight, ETIMEDOUT]
  | _ =>
      rw [answers_of_not_ends hstep id]
      simp [EndsRight]

/-! ## Runs -/

/-- The answers of a run are all right just when every call of `nextMessage` ends
right. -/
theorem always_truthful_iff {p : Answered} (hinit : answeringSimulator.init p)
    {tr : List (Action × Answered)} (hrun : answeringSimulator.Run p tr) :
    TSys.Always Truthful p tr ↔ TSys.Guarded (fun p a => EndsRight p.world a) p tr := by
  obtain ⟨hstarted, hanswers⟩ := hinit
  refine hrun.always_iff_guarded (I := fun p => FlagNotified p.world) ?_ ?_ ?_ ?_
  · intro p a p' hflag hstep
    obtain ⟨w', hw, rfl⟩ := Option.map_eq_some_iff.mp hstep
    exact flagNotified_step hflag hw
  · intro p a p' hflag hp hstep
    obtain ⟨w', hw, rfl⟩ := Option.map_eq_some_iff.mp hstep
    rw [← answers_truthful_iff hflag hw]
    constructor
    · intro hp' x hx
      exact hp' x (List.mem_append_right _ hx)
    · intro hnew x hx
      exact (List.mem_append.mp hx).elim (hp x) (hnew x)
  · exact .of_not_waiting (by simp [hstarted.sim])
  · intro x hx
    rw [hanswers] at hx
    cases hx

/-! ### A message that is not reported -/

/-- A proxy, and one event at 1 s after the base time. -/
def bound : Answered where
  world :=
    { clock := .ofUsec 0
      baseTime := .ofUsec 0
      simTime := 0
      proxies := [⟨0, "10.0.0.1"⟩]
      nextMsg := false
      msgQueue := [.event 0]
      arrivalTime := fun _ => 1000000
      sim := .running
      gate := .idle
      completed := fun _ => 0
      delivered := fun _ => 0 }
  answers := []

theorem bound_init : answeringSimulator.init bound :=
  ⟨⟨rfl, rfl, rfl, by simp [bound], fun _ => rfl, fun _ => rfl⟩, rfl⟩

theorem run_answeredTrace (p : Answered) (actions : List Action) :
    answeringSimulator.Run p (p.trace actions) :=
  TSys.run_trace (fun _ _ _ h => h) p actions

/-- The simulation thread gets as far as the call of `nextMessage`. -/
def toCall : List Action := [.getNextEvent, .compare, .gettimeofday, .receiveUntil]

/-- The message comes in before the call: the flag is found set, and nothing assigns
the result, which happens to be 1. -/
theorem message_not_reported :
    answeringSimulator.init bound ∧
      answeringSimulator.Run bound
        (bound.trace (toCall ++ [.processMessage "10.0.0.1", .nextMessage 1])) ∧
      ¬ TSys.Always Truthful bound
        (bound.trace (toCall ++ [.processMessage "10.0.0.1", .nextMessage 1])) := by
  refine ⟨bound_init, run_answeredTrace _ _, ?_⟩
  intro h
  have hanswer : (⟨1, true⟩ : Answer) ∈ (TSys.finish bound
      (bound.trace (toCall ++ [.processMessage "10.0.0.1", .nextMessage 1]))).answers :=
    List.mem_singleton_self _
  exact absurd ((h.last _ hanswer).mpr rfl) (by decide)

/-- A message that comes in during the wait and is signalled is reported. -/
theorem message_reported :
    TSys.Always Truthful bound (bound.trace
        (toCall ++ [.nextMessage 1, .processMessage "10.0.0.1", .wake false])) ∧
      (TSys.finish bound (bound.trace
        (toCall ++ [.nextMessage 1, .processMessage "10.0.0.1", .wake false]))).answers =
          [⟨0, true⟩] := by
  refine ⟨(always_truthful_iff bound_init (run_answeredTrace _ _)).mpr ?_, rfl⟩
  refine ⟨trivial, trivial, trivial, trivial, ?_, trivial, ⟨_, _, _, rfl⟩, trivial⟩
  intro hset
  cases hset

end ScadaSim.External
