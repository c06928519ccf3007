import ScadaSim.Lib.TSys
import Mathlib.Data.List.Basic

/-!
# The start of a gate

`SSScheduler::startRun` opens the gate, which creates its thread (`SSThread::start`), and
the thread initialises the monitor (`SSThread::setup`) before it executes. `start` does
not wait for that, and neither does `nextMessage`: the simulation thread may be in the
monitor first.

Both threads go from one statement to the next, in any order; every access to the
monitor is kept in a history. `ordered_iff` says which runs are in order.
-/

namespace ScadaSim.External.StartUp

open Lib

inductive Thread
  | simulation
  | gate
  deriving DecidableEq

/-- What a thread does with the monitor of the gate. -/
inductive Operation
  | lock
  | unlock
  | wait
  | notify
  | readNextMsg
  | writeNextMsg (nextMsg : Bool)
  | mutexInit
  | condInit
  deriving DecidableEq

/-- The statement the simulation thread comes to next. -/
inductive SimPoint
  | startRun
  /-- in `SSThread::start`, called by `setupConnector` -/
  | create
  /-- in module code or elsewhere in the scheduler -/
  | running
  -- in `nextMessage`
  | lock
  | test
  | wait
  | waiting
  | clear
  | notify
  | unlock
  deriving DecidableEq

/-- The statement the gate thread comes to next. -/
inductive GatePoint
  | uncreated
  -- in `setup`
  | clear
  | mutexInit
  | condInit
  /-- in `execute`, outside of the monitor -/
  | listen
  -- in `processMessage`
  | lock
  | test
  | wait
  | waiting
  | getProxyDestination
  | notify
  | unlock
  deriving DecidableEq

/-- The two threads, the flag and the mutex, with its holder, and the history of the
accesses, the latest first. -/
structure State where
  sim : SimPoint
  gate : GatePoint
  nextMsg : Bool
  holder : Option Thread
  history : List (Thread × Operation)
  deriving DecidableEq

namespace State

def access (s : State) (t : Thread) (op : Operation) : State :=
  { s with history := (t, op) :: s.history }

/-- `startRun` makes the gate and opens it. -/
def startRun (s : State) : Option State :=
  match s.sim with
  | .startRun => some { s with sim := .create }
  | _ => none

/-- `pthread_create` in `SSThread::start`; `Open` does not look at its code. -/
def start (s : State) (created : Bool) : Option State :=
  match s.sim with
  | .create => some { s with sim := .running, gate := if created then .clear else .uncreated }
  | _ => none

/-- `SSGate::nextMessage`, one statement at a time. A wait gives the mutex back, and may
end by a signal, at its deadline, or spuriously. -/
def nextMessage (s : State) : Option State :=
  match s.sim with
  | .running => some { s with sim := .lock }
  | .lock =>
      if s.holder = none then
        some { s.access .simulation .lock with sim := .test, holder := some .simulation }
      else none
  | .test =>
      some { s.access .simulation .readNextMsg with sim := if s.nextMsg then .clear else .wait }
  | .wait => some { s.access .simulation .wait with sim := .waiting, holder := none }
  | .waiting =>
      if s.holder = none then some { s with sim := .clear, holder := some .simulation } else none
  | .clear =>
      some { s.access .simulation (.writeNextMsg false) with sim := .notify, nextMsg := false }
  | .notify => some { s.access .simulation .notify with sim := .unlock }
  | .unlock => some { s.access .simulation .unlock with sim := .running, holder := none }
  | _ => none

/-- `SSThread::setup`. An initialisation that fails is reported on standard out, and
`setup` goes on. -/
def setup (s : State) (initialised : Bool) : Option State :=
  match s.gate with
  | .clear =>
      some { s.access .gate (.writeNextMsg false) with gate := .mutexInit, nextMsg := false }
  | .mutexInit =>
      if initialised then
        some { s.access .gate .mutexInit with gate := .condInit, holder := none }
      else some { s with gate := .condInit }
  | .condInit =>
      if initialised then some { s.access .gate .condInit with gate := .listen }
      else some { s with gate := .listen }
  | _ => none

/-- `SSGate::processMessage`, for a message of a known address or another. -/
def processMessage (s : State) (found : Bool) : Option State :=
  match s.gate with
  | .listen => some { s with gate := .lock }
  | .lock =>
      if s.holder = none then
        some { s.access .gate .lock with gate := .test, holder := some .gate }
      else none
  | .test =>
      some { s.access .gate .readNextMsg with
        gate := if s.nextMsg then .wait else .getProxyDestination }
  | .wait => some { s.access .gate .wait with gate := .waiting, holder := none }
  | .waiting =>
      if s.holder = none then some { s with gate := .getProxyDestination, holder := some .gate }
      else none
  | .getProxyDestination =>
      if found then
        some { s.access .gate (.writeNextMsg true) with gate := .notify, nextMsg := true }
      else some { s with gate := .unlock }
  | .notify => some { s.access .gate .notify with gate := .unlock }
  | .unlock => some { s.access .gate .unlock with gate := .listen, holder := none }
  | _ => none

end State

inductive Action
  | startRun
  | start (created : Bool)
  | nextMessage
  | setup (initialised : Bool)
  | processMessage (found : Bool)

def State.step (s : State) : Action → Option State
  | .startRun => s.startRun
  | .start created => s.start created
  | .nextMessage => s.nextMessage
  | .setup initialised => s.setup initialised
  | .processMessage found => s.processMessage found

/-- From `startRun` on. The flag is arbitrary before `setup`, and a mutex that has not been
initialised is taken for a free one. -/
def system : TSys State Action where
  init s := s.sim = .startRun ∧ s.gate = .uncreated ∧ s.holder = none ∧ s.history = []
  step s a s' := s.step a = some s'

/-! ## Order -/

/-- `setup` has initialised flag, mutex and condition. -/
def Ready (history : List (Thread × Operation)) : Prop :=
  (.gate, .writeNextMsg false) ∈ history ∧ (.gate, .mutexInit) ∈ history ∧
    (.gate, .condInit) ∈ history

instance : DecidablePred Ready := fun _ => inferInstanceAs (Decidable (_ ∧ _ ∧ _))

/-- The accesses of `setup`. -/
def Operation.ofSetup : Operation → Bool
  | .writeNextMsg nextMsg => !nextMsg
  | .mutexInit => true
  | .condInit => true
  | _ => false

/-- An access of the simulation thread comes when the monitor is ready, and one of `setup`
when the simulation thread has not been there. -/
def InOrder (past : List (Thread × Operation)) : Thread × Operation → Prop
  | (.simulation, _) => Ready past
  | (.gate, op) => op.ofSetup = true → ∀ op', (.simulation, op') ∉ past

/-- Every access is in order. -/
def Ordered : List (Thread × Operation) → Prop
  | [] => True
  | access :: past => InOrder past access ∧ Ordered past

/-- Where `nextMessage` locks for the first time, the monitor is ready. -/
def LocksReady (s : State) : Action → Prop
  | .nextMessage => s.sim = .lock → (∀ op, (.simulation, op) ∉ s.history) → Ready s.history
  | _ => True

/-- The simulation thread is in the monitor, or has been told to wait. -/
def SimPoint.Entered : SimPoint → Prop
  | .startRun => False
  | .create => False
  | .running => False
  | .lock => False
  | _ => True

/-- The gate thread has not come to the end of `setup`. -/
def GatePoint.BeforeListen : GatePoint → Prop
  | .uncreated => True
  | .clear => True
  | .mutexInit => True
  | .condInit => True
  | _ => False

/-- The history says where the threads are. -/
structure Placed (s : State) : Prop where
  entered : s.sim.Entered → ∃ op, (.simulation, op) ∈ s.history
  beforeListen : s.gate.BeforeListen → (.gate, .condInit) ∉ s.history
  notStarted : s.sim = .startRun ∨ s.sim = .create → s.gate = .uncreated

section Steps

variable {s s' : State} {history : List (Thread × Operation)} {t : Thread} {op : Operation}

theorem Ready.cons (h : Ready history) (access : Thread × Operation) :
    Ready (access :: history) :=
  ⟨.tail _ h.1, .tail _ h.2.1, .tail _ h.2.2⟩

/-- After an ordered access of the simulation thread the monitor is ready. -/
theorem Ordered.ready (h : Ordered history) (hmem : (.simulation, op) ∈ history) :
    Ready history := by
  induction history with
  | nil => cases hmem
  | cons access past ih =>
      obtain ⟨hin, hpast⟩ := h
      cases hmem with
      | head => exact Ready.cons hin _
      | tail _ hmem => exact (ih hpast hmem).cons access

theorem startRun_cases (h : s.startRun = some s') :
    s.sim = .startRun ∧ s' = { s with sim := .create } := by
  unfold State.startRun at h
  split at h
  · rename_i hsim
    exact ⟨hsim, (Option.some.inj h).symm⟩
  · cases h

theorem start_cases {created : Bool} (h : s.start created = some s') : s.sim = .create ∧
    s' = { s with sim := .running, gate := if created then .clear else .uncreated } := by
  unfold State.start at h
  split at h
  · rename_i hsim
    exact ⟨hsim, (Option.some.inj h).symm⟩
  · cases h

/-- What `nextMessage` does with the monitor. -/
theorem nextMessage_cases (h : s.nextMessage = some s') :
    s'.gate = s.gate ∧ s'.sim ≠ .startRun ∧ s'.sim ≠ .create ∧
      ((s'.history = s.history ∧ s.sim ≠ .lock ∧ (s'.sim.Entered → s.sim.Entered)) ∨
        ∃ op, s'.history = (.simulation, op) :: s.history ∧ (s.sim = .lock ∨ s.sim.Entered)) := by
  unfold State.nextMessage at h
  cases hsim : s.sim <;> rw [hsim] at h <;> dsimp only at h
  case startRun => cases h
  case create => cases h
  case running =>
    cases h
    exact ⟨rfl, nofun, nofun, .inl ⟨rfl, nofun, id⟩⟩
  case lock =>
    split at h
    · cases h
      exact ⟨rfl, nofun, nofun, .inr ⟨_, rfl, .inl rfl⟩⟩
    · cases h
  case test =>
    cases h
    refine ⟨rfl, ?_, ?_, .inr ⟨_, rfl, .inr trivial⟩⟩
    · dsimp only
      split <;> nofun
    · dsimp only
      split <;> nofun
  case waiting =>
    split at h
    · cases h
      exact ⟨rfl, nofun, nofun, .inl ⟨rfl, nofun, fun _ => trivial⟩⟩
    · cases h
  all_goals
    cases h
    exact ⟨rfl, nofun, nofun, .inr ⟨_, rfl, .inr trivial⟩⟩

/-- `setup` is run by a thread that is not at the end of it. -/
theorem setup_cases {initialised : Bool} (h : s.setup initialised = some s') :
    s'.sim = s.sim ∧ s.gate.BeforeListen ∧ s.gate ≠ .uncreated ∧
      (s'.history = s.history ∨ ∃ op, s'.history = (.gate, op) :: s.history ∧
        op.ofSetup = true ∧ (op = .condInit → ¬ s'.gate.BeforeListen)) := by
  unfold State.setup at h
  cases hgate : s.gate <;> rw [hgate] at h <;> dsimp only at h
  case clear =>
    cases h
    exact ⟨rfl, trivial, nofun, .inr ⟨_, rfl, rfl, nofun⟩⟩
  case mutexInit =>
    split at h
    · cases h
      exact ⟨rfl, trivial, nofun, .inr ⟨_, rfl, rfl, nofun⟩⟩
    · cases h
      exact ⟨rfl, trivial, nofun, .inl rfl⟩
  case condInit =>
    split at h
    · cases h
      exact ⟨rfl, trivial, nofun, .inr ⟨_, rfl, rfl, fun _ => id⟩⟩
    · cases h
      exact ⟨rfl, trivial, nofun, .inl rfl⟩
  all_goals cases h

/-- `processMessage` is run behind `setup`, and never lowers the flag. -/
theorem processMessage_cases {found : Bool} (h : s.processMessage found = some s') :
    s'.sim = s.sim ∧ ¬ s.gate.BeforeListen ∧ ¬ s'.gate.BeforeListen ∧
      (s'.history = s.history ∨
        ∃ op, s'.history = (.gate, op) :: s.history ∧ op.ofSetup = false) := by
  unfold State.processMessage at h
  cases hgate : s.gate <;> rw [hgate] at h <;> dsimp only at h
  case listen =>
    cases h
    exact ⟨rfl, id, id, .inl rfl⟩
  case lock =>
    split at h
    · cases h
      exact ⟨rfl, id, id, .inr ⟨_, rfl, rfl⟩⟩
    · cases h
  case test =>
    cases h
    refine ⟨rfl, id, ?_, .inr ⟨_, rfl, rfl⟩⟩
    dsimp only
    split <;> exact id
  case waiting =>
    split at h
    · cases h
      exact ⟨rfl, id, id, .inl rfl⟩
    · cases h
  case getProxyDestination =>
    split at h
    · cases h
      exact ⟨rfl, id, id, .inr ⟨_, rfl, rfl⟩⟩
    · cases h
      exact ⟨rfl, id, id, .inl rfl⟩
  case wait | notify | unlock =>
    cases h
    exact ⟨rfl, id, id, .inr ⟨_, rfl, rfl⟩⟩
  all_goals cases h

theorem Placed.init (h : system.init s) : Placed s := by
  obtain ⟨hsim, hgate, -, hhistory⟩ := h
  refine ⟨fun hentered => ?_, fun _ => by rw [hhistory]; exact List.not_mem_nil, fun _ => hgate⟩
  rw [hsim] at hentered
  exact hentered.elim

theorem Placed.step {a : Action} (h : Placed s) (hstep : system.step s a s') : Placed s' := by
  cases a with
  | startRun =>
      obtain ⟨hsim, rfl⟩ := startRun_cases hstep
      exact ⟨fun hentered => hentered.elim, h.beforeListen, fun _ => h.notStarted (.inl hsim)⟩
  | start created =>
      obtain ⟨hsim, rfl⟩ := start_cases hstep
      have hgate := h.notStarted (.inr hsim)
      refine ⟨fun hentered => hentered.elim, fun _ => h.beforeListen ?_, by simp⟩
      rw [hgate]
      trivial
  | nextMessage =>
      obtain ⟨hgate, hstart, hcreate, hcases⟩ := nextMessage_cases hstep
      have hnot : ¬ (s'.sim = .startRun ∨ s'.sim = .create) := not_or.mpr ⟨hstart, hcreate⟩
      rcases hcases with ⟨hhistory, -, hentered⟩ | ⟨op, hhistory, -⟩
      · refine ⟨fun h' => ?_, fun h' => ?_, fun h' => absurd h' hnot⟩
        · rw [hhistory]
          exact h.entered (hentered h')
        · rw [hhistory]
          exact h.beforeListen (hgate ▸ h')
      · refine ⟨fun _ => ⟨op, hhistory ▸ List.mem_cons_self⟩, fun h' => ?_, fun h' => absurd h' hnot⟩
        rw [hhistory]
        simpa using h.beforeListen (hgate ▸ h')
  | setup initialised =>
      obtain ⟨hsim, hbefore, hcreated, hcases⟩ := setup_cases hstep
      have hnot : ¬ (s.sim = .startRun ∨ s.sim = .create) :=
        fun hstart => hcreated (h.notStarted hstart)
      have hinit := h.beforeListen hbefore
      rcases hcases with hhistory | ⟨op, hhistory, -, hop⟩
      · refine ⟨fun h' => ?_, fun _ => hhistory ▸ hinit, fun h' => absurd (hsim ▸ h') hnot⟩
        rw [hhistory]
        exact h.entered (hsim ▸ h')
      · refine ⟨fun h' => ?_, fun h' => ?_, fun h' => absurd (hsim ▸ h') hnot⟩
        · obtain ⟨op', hmem⟩ := h.entered (hsim ▸ h')
          exact ⟨op', hhistory ▸ .tail _ hmem⟩
        · rw [hhistory]
          rintro (_ | ⟨_, hmem⟩)
          · exact hop rfl h'
          · exact hinit hmem
  | processMessage found =>
      obtain ⟨hsim, hbefore, hbefore', hcases⟩ := processMessage_cases hstep
      have hnot : ¬ (s.sim = .startRun ∨ s.sim = .create) := by
        intro hstart
        rw [h.notStarted hstart] at hbefore
        exact hbefore trivial
      have hmem : ∀ access ∈ s.history, access ∈ s'.history := by
        intro access hmem
        rcases hcases with hhistory | ⟨op, hhistory, -⟩
        · exact hhistory ▸ hmem
        · exact hhistory ▸ .tail _ hmem
      refine ⟨fun h' => ?_, fun h' => absurd h' hbefore', fun h' => absurd (hsim ▸ h') hnot⟩
      obtain ⟨op, hop⟩ := h.entered (hsim ▸ h')
      exact ⟨op, hmem _ hop⟩

/-- Only the first lock of `nextMessage` can come too early. -/
theorem ordered_step_iff {a : Action} (hplaced : Placed s) (h : Ordered s.history)
    (hstep : system.step s a s') : Ordered s'.history ↔ LocksReady s a := by
  cases a with
  | startRun =>
      obtain ⟨-, rfl⟩ := startRun_cases hstep
      exact iff_of_true h trivial
  | start created =>
      obtain ⟨-, rfl⟩ := start_cases hstep
      exact iff_of_true h trivial
  | nextMessage =>
      obtain ⟨-, -, -, hcases⟩ := nextMessage_cases hstep
      rcases hcases with ⟨hhistory, hlock, -⟩ | ⟨op, hhistory, hsim⟩
      · rw [hhistory]
        exact iff_of_true h fun hsim => absurd hsim hlock
      · rw [hhistory]
        have hready : (∃ op', (Thread.simulation, op') ∈ s.history) → Ready s.history := by
          rintro ⟨op', hmem⟩
          exact h.ready hmem
        constructor
        · rintro ⟨hin, -⟩ - -
          exact hin
        · intro hguard
          refine ⟨?_, h⟩
          by_cases hfirst : ∃ op', (Thread.simulation, op') ∈ s.history
          · exact hready hfirst
          · rcases hsim with hlock | hentered
            · exact hguard hlock (not_exists.mp hfirst)
            · exact absurd (hplaced.entered hentered) hfirst
  | setup initialised =>
      obtain ⟨-, hbefore, -, hcases⟩ := setup_cases hstep
      refine iff_of_true ?_ trivial
      rcases hcases with hhistory | ⟨op, hhistory, -, -⟩
      · rw [hhistory]
        exact h
      · rw [hhistory]
        refine ⟨fun _ op' hmem => ?_, h⟩
        exact hplaced.beforeListen hbefore (h.ready hmem).2.2
  | processMessage found =>
      obtain ⟨-, -, -, hcases⟩ := processMessage_cases hstep
      refine iff_of_true ?_ trivial
      rcases hcases with hhistory | ⟨op, hhistory, hop⟩
      · rw [hhistory]
        exact h
      · rw [hhistory]
        refine ⟨fun hsetup => ?_, h⟩
        rw [hop] at hsetup
        cases hsetup

/-- In every interleaving all accesses are in order just where the first lock of
`nextMessage` finds the monitor ready. -/
theorem ordered_iff {run : List (Action × State)} (hinit : system.init s)
    (hrun : system.Run s run) :
    TSys.Always (fun s => Ordered s.history) s run ↔ TSys.Guarded LocksReady s run := by
  refine hrun.always_iff_guarded (I := Placed) (fun _ _ _ hplaced hstep => hplaced.step hstep)
    (fun _ _ _ hplaced h hstep => ordered_step_iff hplaced h hstep) (Placed.init hinit) ?_
  rw [hinit.2.2.2]
  trivial

end Steps

/-- Before `startRun`. -/
def beforeRun : State where
  sim := .startRun
  gate := .uncreated
  nextMsg := true
  holder := none
  history := []

/-- The gate thread is through with `setup` before `nextMessage` is called. -/
theorem ordered_setupFirst :
    TSys.Always (fun s => Ordered s.history) beforeRun (TSys.trace State.step beforeRun
      [.startRun, .start true, .setup true, .setup true, .setup true, .nextMessage,
        .nextMessage]) := by
  refine (ordered_iff ⟨rfl, rfl, rfl, rfl⟩ (TSys.run_trace (fun _ _ _ h => h) _ _)).mpr ?_
  exact ⟨trivial, trivial, trivial, trivial, trivial, nofun, fun _ _ => by decide, trivial⟩

/-- The simulation thread is in the monitor before `setup` has begun; `setup` then clears
the flag, and initialises the mutex that is held. -/
theorem not_ordered_lockFirst :
    system.Run beforeRun (TSys.trace State.step beforeRun
      [.startRun, .start true, .nextMessage, .nextMessage, .setup true, .setup true]) ∧
    (TSys.finish beforeRun (TSys.trace State.step beforeRun
      [.startRun, .start true, .nextMessage, .nextMessage, .setup true, .setup true])).history =
      [(.gate, .mutexInit), (.gate, .writeNextMsg false), (.simulation, .lock)] ∧
    ¬ Ordered [(.gate, .mutexInit), (.gate, .writeNextMsg false), (.simulation, .lock)] := by
  refine ⟨TSys.run_trace (fun _ _ _ h => h) _ _, by decide, fun h => ?_⟩
  have hready : Ready [] := h.2.2.1
  exact absurd hready (by decide)

end ScadaSim.External.StartUp
