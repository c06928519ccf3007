import ScadaSim.External.Time
import ScadaSim.Lib.TSys

/-!
# The gates of the scheduler

`SSScheduler` keeps pointers to its gates: `startRun` makes one and opens all, `endRun`
closes and deletes all. The pointers stay in `gates`; the next run opens the deleted
gates too, and `getGateway(0)` returns the oldest.

A pointer to a deleted gate stays invalid when the memory is used again, so a gate is
known by the number of the `new` it comes from. `usesLiveGates_iff` says which sequences of
runs use live gates only.
-/

namespace ScadaSim.External.LiveGates

open Lib

/-- A gate is used, with the gates that are alive then, or `getGateway(0)` has returned
one in a run with a gate of its own. A pointer read behind the end of the vector is not
one of a gate. -/
inductive Access
  | gate (pointer : Option Nat) (live : List Nat)
  | answer (pointer : Option Nat) (own : Nat)
  deriving DecidableEq

/-- Between two runs, in a run, or where no call follows: one does not come back, or an
error has ended the simulation. -/
inductive Phase
  | stopped
  | running
  | ended
  deriving DecidableEq

/-- The members of the object, the gates that have been created and not deleted, and the
history of their use, the latest first. The gate of the run is the latest created. -/
structure SSScheduler where
  gates : List Nat := []
  baseTime : Timeval
  live : List Nat := []
  created : Nat := 0
  phase : Phase := .stopped
  history : List Access := []

/-- One round of the loop of `receiveUntil`: what `nextMessage` returns for each gate,
the answer of the environment, and the time that is read then. -/
structure Round where
  retcode : Nat → Int
  idle : Bool
  curTime : Timeval

/-- What `getNextEvent` reads: the first event of the queue, and the clock. -/
structure Readings where
  arrivalTime : Option SimTime
  curTime : Timeval
  entryTime : Timeval
  rounds : List Round

/-- The gates are asked one after the other, until one has a message. -/
def askGates (retcode : Nat → Int) : List Nat → List Nat × Bool
  | [] => ([], false)
  | gate :: rest =>
      if retcode gate = 0 then ([gate], true)
      else ((gate :: (askGates retcode rest).1), (askGates retcode rest).2)

/-- The gates `receiveUntil` uses, and what it returns, unless the wait goes on when the
rounds are over. The final branch returns at the first gate, the `if` having an empty
body. -/
def receiveUntil (gates : List Nat) (targetTime : Timeval) :
    Timeval → List Round → List Nat × Option Int
  | curTime, rounds =>
      if targetTime.tv_sec - curTime.tv_sec ≥ 2 ∨ timeval_diff_usec targetTime curTime ≥ 200000 then
        match rounds with
        | [] => ([], none)
        | round :: rest =>
            let asked := askGates round.retcode gates
            if asked.2 then (asked.1, some 1)
            else if round.idle then (asked.1, some (-1))
            else
              let later := receiveUntil gates targetTime round.curTime rest
              (asked.1 ++ later.1, later.2)
      else if timeval_diff_usec targetTime curTime > 0 then
        match gates with
        | [] => ([], some 0)
        | gate :: _ => ([gate], some 1)
      else ([], some 0)

namespace SSScheduler

def use (s : SSScheduler) (pointer : Option Nat) : SSScheduler :=
  { s with history := .gate pointer s.live :: s.history }

/-- The gates are used in this order. -/
def useAll (s : SSScheduler) (gates : List Nat) : SSScheduler :=
  { s with history := (gates.map fun gate => .gate (some gate) s.live).reverse ++ s.history }

/-- `Open` for each gate. -/
def setupConnector (s : SSScheduler) : SSScheduler := s.useAll s.gates

def startRun (s : SSScheduler) (now : Timeval) : Option SSScheduler :=
  match s.phase with
  | .stopped =>
      let gate := s.created
      some { s with
        gates := s.gates ++ [gate]
        baseTime := now
        live := gate :: s.live
        created := s.created + 1
        phase := .running }.setupConnector
  | _ => none

def executionResumed (s : SSScheduler) (now : Timeval) (simTime : SimTime) : Option SSScheduler :=
  match s.phase with
  | .running => some { s with baseTime := timeval_substract now simTime }
  | _ => none

/-- The time of the next event, or the latest one. -/
def targetTime (s : SSScheduler) : Option SimTime → Timeval
  | none => longMaxTarget
  | some t => timeval_add s.baseTime t

/-- Without gates it throws. -/
def getNextEvent (s : SSScheduler) (r : Readings) : Option SSScheduler :=
  match s.phase with
  | .running =>
      if s.gates.length = 0 then some { s with phase := .ended }
      else if timeval_greater (s.targetTime r.arrivalTime) r.curTime then
        let received := receiveUntil s.gates (s.targetTime r.arrivalTime) r.entryTime r.rounds
        some { s.useAll received.1 with
          phase := if received.2 = none then .ended else .running }
      else some s
  | _ => none

/-- `gates[gateType]`. -/
def gateway (s : SSScheduler) (gateType : Int) : Option Nat :=
  if gateType < 0 then none else s.gates[gateType.toNat]?

def getGateway (s : SSScheduler) (gateType : Int) : Option SSScheduler :=
  match s.phase with
  | .running =>
      let answered :=
        if gateType = 0 then
          { s with history := .answer (s.gateway 0) (s.created - 1) :: s.history }
        else s
      some (answered.use (s.gateway gateType))
  | _ => none

/-- `SSProxy::initialize` binds itself to gate 0. -/
def initializeProxy (s : SSScheduler) : Option SSScheduler :=
  (s.getGateway 0).map fun s' => s'.use (s.gateway 0)

/-- The loop of `endRun`: `Close` comes back for the first `closed` of these gates. -/
def closeGates : List Nat → Nat → SSScheduler → SSScheduler
  | [], _, s => { s with phase := .stopped }
  | gate :: _, 0, s => { s.use (some gate) with phase := .ended }
  | gate :: rest, closed + 1, s =>
      let s := (s.use (some gate)).use (some gate)
      closeGates rest closed { s with live := s.live.erase gate }

/-- `Close` waits for the thread of the gate, and comes back when that has ended. -/
def endRun (s : SSScheduler) (closed : Nat) : Option SSScheduler :=
  match s.phase with
  | .running => some (closeGates s.gates closed s)
  | _ => none

end SSScheduler

inductive Action
  | startRun (now : Timeval)
  | executionResumed (now : Timeval) (simTime : SimTime)
  | getNextEvent (r : Readings)
  | getGateway (gateType : Int)
  | initializeProxy
  | endRun (closed : Nat)

def SSScheduler.step (s : SSScheduler) : Action → Option SSScheduler
  | .startRun now => s.startRun now
  | .executionResumed now simTime => s.executionResumed now simTime
  | .getNextEvent r => s.getNextEvent r
  | .getGateway gateType => s.getGateway gateType
  | .initializeProxy => s.initializeProxy
  | .endRun closed => s.endRun closed

/-- Any number of runs with one scheduler object. -/
def system : TSys SSScheduler Action where
  init s := ∃ baseTime, s = { baseTime := baseTime }
  step s a s' := s.step a = some s'

/-- A gate is alive when it is used, and `getGateway(0)` returns the gate of the run. -/
def Access.Right : Access → Prop
  | .gate pointer live => ∃ gate, pointer = some gate ∧ gate ∈ live
  | .answer pointer own => pointer = some own

def UsesLiveGates (s : SSScheduler) : Prop := ∀ access ∈ s.history, access.Right

/-- A run is the first one, and a gateway is asked for that is there. -/
def OneRun (s : SSScheduler) : Action → Prop
  | .startRun _ => s.gates = []
  | .getGateway gateType => 0 ≤ gateType ∧ gateType < s.gates.length
  | _ => True

/-- The object before, in and after its only run. -/
inductive Placed (s : SSScheduler) : Prop
  | before : s.phase = .stopped → s.gates = [] → s.live = [] → Placed s
  | during (gate : Nat) : s.phase = .running → s.gates = [gate] → s.live = [gate] →
      s.created = gate + 1 → Placed s
  | after (gate : Nat) : s.phase = .stopped → s.gates = [gate] → s.live = [] →
      gate < s.created → Placed s
  | ended : s.phase = .ended → Placed s

section Steps

variable {s s' : SSScheduler} {gate : Nat}

theorem usesLiveGates_use (pointer : Option Nat) : UsesLiveGates (s.use pointer) ↔
    (∃ gate, pointer = some gate ∧ gate ∈ s.live) ∧ UsesLiveGates s := by
  unfold UsesLiveGates SSScheduler.use
  rw [List.forall_mem_cons]
  rfl

theorem usesLiveGates_useAll (h : UsesLiveGates s) {gates : List Nat}
    (hgates : ∀ gate ∈ gates, gate ∈ s.live) : UsesLiveGates (s.useAll gates) := by
  intro access hmem
  rcases List.mem_append.mp hmem with hmem | hmem
  · obtain ⟨gate, hgate, rfl⟩ := List.mem_map.mp (List.mem_reverse.mp hmem)
    exact ⟨gate, rfl, hgates gate hgate⟩
  · exact h access hmem

theorem askGates_subset (retcode : Nat → Int) (gates : List Nat) :
    ∀ gate ∈ (askGates retcode gates).1, gate ∈ gates := by
  induction gates with
  | nil => exact fun _ h => h
  | cons first rest ih =>
      unfold askGates
      split
      · intro gate hgate
        exact List.mem_cons.mpr (.inl (List.mem_singleton.mp hgate))
      · intro gate hgate
        rcases List.mem_cons.mp hgate with rfl | hgate
        · exact List.mem_cons_self
        · exact .tail _ (ih gate hgate)

/-- `receiveUntil` uses no others than the gates of the vector. -/
theorem receiveUntil_subset (gates : List Nat) (targetTime curTime : Timeval)
    (rounds : List Round) :
    ∀ gate ∈ (receiveUntil gates targetTime curTime rounds).1, gate ∈ gates := by
  induction rounds generalizing curTime with
  | nil =>
      intro gate hgate
      unfold receiveUntil at hgate
      split at hgate
      · cases hgate
      · split at hgate
        · cases gates with
          | nil => cases hgate
          | cons first rest => exact List.mem_cons.mpr (.inl (List.mem_singleton.mp hgate))
        · cases hgate
  | cons round rest ih =>
      intro gate hgate
      unfold receiveUntil at hgate
      split at hgate
      · have hasked := askGates_subset round.retcode gates gate
        dsimp only at hgate
        split at hgate
        · exact hasked hgate
        · split at hgate
          · exact hasked hgate
          · rcases List.mem_append.mp hgate with hgate | hgate
            · exact hasked hgate
            · exact ih round.curTime gate hgate
      · split at hgate
        · cases gates with
          | nil => cases hgate
          | cons first rest => exact List.mem_cons.mpr (.inl (List.mem_singleton.mp hgate))
        · cases hgate

/-- Where a call is made, the gate of the run is the only one, and alive. -/
theorem Placed.during_of_running (hplaced : Placed s) (hphase : s.phase = .running) :
    ∃ gate, s.gates = [gate] ∧ s.live = [gate] ∧ s.created = gate + 1 := by
  cases hplaced with
  | during gate _ hgates hlive hcreated => exact ⟨gate, hgates, hlive, hcreated⟩
  | before hphase' => rw [hphase] at hphase'; cases hphase'
  | after gate hphase' => rw [hphase] at hphase'; cases hphase'
  | ended hphase' => rw [hphase] at hphase'; cases hphase'

/-- Between two runs there is no gate, or a pointer to one that was. -/
theorem Placed.stopped_cases (hplaced : Placed s) (hphase : s.phase = .stopped) :
    s.live = [] ∧ (s.gates = [] ∨ ∃ gate, s.gates = [gate] ∧ gate < s.created) := by
  cases hplaced with
  | before _ hgates hlive => exact ⟨hlive, .inl hgates⟩
  | after gate _ hgates hlive hlt => exact ⟨hlive, .inr ⟨gate, hgates, hlt⟩⟩
  | during gate hphase' => rw [hphase] at hphase'; cases hphase'
  | ended hphase' => rw [hphase] at hphase'; cases hphase'

/-- The first run makes the gate that the object keeps. -/
theorem startRun_keep {now : Timeval} (h : UsesLiveGates s) (hplaced : Placed s)
    (hgates : s.gates = []) (hstep : s.startRun now = some s') :
    UsesLiveGates s' ∧ Placed s' := by
  unfold SSScheduler.startRun at hstep
  split at hstep
  · rename_i hphase
    obtain ⟨hlive, -⟩ := hplaced.stopped_cases hphase
    cases hstep
    refine ⟨?_, .during s.created rfl ?_ ?_ rfl⟩
    · unfold SSScheduler.setupConnector
      refine usesLiveGates_useAll ?_ fun gate hgate => ?_
      · exact h
      simp only [hgates, List.nil_append, List.mem_singleton] at hgate
      rw [hgate]
      exact List.mem_cons_self
    · show s.gates ++ [s.created] = [s.created]
      rw [hgates, List.nil_append]
    · show s.created :: s.live = [s.created]
      rw [hlive]
  · cases hstep

/-- The second opens a deleted gate. -/
theorem startRun_break {now : Timeval} (hplaced : Placed s) (hgates : s.gates ≠ [])
    (hstep : s.startRun now = some s') : ¬ UsesLiveGates s' := by
  unfold SSScheduler.startRun at hstep
  split at hstep
  · rename_i hphase
    obtain ⟨hlive, hcases⟩ := hplaced.stopped_cases hphase
    obtain ⟨gate, hgates', hlt⟩ := hcases.resolve_left hgates
    cases hstep
    intro h
    have hopen : Access.gate (some gate) (s.created :: s.live) ∈
        ((s.gates ++ [s.created]).map fun gate =>
          Access.gate (some gate) (s.created :: s.live)).reverse ++ s.history := by
      simp [hgates']
    obtain ⟨gate', heq, hmem⟩ := h _ hopen
    cases heq
    rw [hlive] at hmem
    have heq := List.mem_singleton.mp hmem
    omega
  · cases hstep

/-- In the run `getGateway(0)` is its gate; what no gate is cannot be used. -/
theorem getGateway_iff {gateType : Int} (h : UsesLiveGates s) (hplaced : Placed s)
    (hstep : s.getGateway gateType = some s') :
    Placed s' ∧ (UsesLiveGates s' ↔ 0 ≤ gateType ∧ gateType < s.gates.length) := by
  unfold SSScheduler.getGateway at hstep
  split at hstep
  · rename_i hphase
    obtain ⟨gate, hgates, hlive, hcreated⟩ := hplaced.during_of_running hphase
    have heq := Option.some.inj hstep
    by_cases hzero : gateType = 0
    · have hgateway : s.gateway 0 = some gate := by simp [SSScheduler.gateway, hgates]
      rw [if_pos hzero, hzero, hgateway] at heq
      subst heq
      refine ⟨.during gate hphase hgates hlive hcreated, ?_⟩
      rw [usesLiveGates_use]
      refine iff_of_true ⟨⟨gate, rfl, ?_⟩, ?_⟩ (by simp [hzero, hgates])
      · show gate ∈ s.live
        rw [hlive]
        exact List.mem_singleton_self gate
      · intro access hmem
        rcases List.mem_cons.mp hmem with rfl | hmem
        · show some gate = some (s.created - 1)
          rw [hcreated]
          rfl
        · exact h access hmem
    · have hnone : s.gateway gateType = none := by
        unfold SSScheduler.gateway
        split
        · rfl
        · rw [hgates]
          exact List.getElem?_eq_none (by simp only [List.length_singleton]; omega)
      rw [if_neg hzero, hnone] at heq
      subst heq
      refine ⟨.during gate hphase hgates hlive hcreated, ?_⟩
      rw [usesLiveGates_use]
      refine iff_of_false (fun h' => ?_) fun h' => ?_
      · obtain ⟨⟨_, hsome, _⟩, _⟩ := h'
        cases hsome
      · rw [hgates, List.length_singleton] at h'
        omega
  · cases hstep

theorem initializeProxy_keep (h : UsesLiveGates s) (hplaced : Placed s)
    (hstep : s.initializeProxy = some s') : UsesLiveGates s' ∧ Placed s' := by
  obtain ⟨answered, hanswered, rfl⟩ := Option.map_eq_some_iff.mp hstep
  have hphase : s.phase = .running := by
    unfold SSScheduler.getGateway at hanswered
    split at hanswered
    · assumption
    · cases hanswered
  obtain ⟨gate, hgates, hlive, hcreated⟩ := hplaced.during_of_running hphase
  obtain ⟨hplaced', hiff⟩ := getGateway_iff h hplaced hanswered
  have hanswered' : UsesLiveGates answered := hiff.mpr (by simp [hgates])
  have hsame : answered.gates = s.gates ∧ answered.live = s.live ∧ answered.phase = s.phase ∧
      answered.created = s.created := by
    unfold SSScheduler.getGateway at hanswered
    rw [hphase] at hanswered
    cases hanswered
    exact ⟨rfl, rfl, hphase.symm, rfl⟩
  obtain ⟨hgates', hlive', hphase', hcreated'⟩ := hsame
  refine ⟨(usesLiveGates_use _).mpr ⟨⟨gate, by simp [SSScheduler.gateway, hgates], ?_⟩,
    hanswered'⟩, .during gate (hphase'.trans hphase) (hgates'.trans hgates)
      (hlive'.trans hlive) (hcreated'.trans hcreated)⟩
  rw [hlive', hlive]
  exact List.mem_singleton_self gate

theorem executionResumed_keep {now : Timeval} {simTime : SimTime} (h : UsesLiveGates s)
    (hplaced : Placed s) (hstep : s.executionResumed now simTime = some s') :
    UsesLiveGates s' ∧ Placed s' := by
  unfold SSScheduler.executionResumed at hstep
  split at hstep
  · rename_i hphase
    obtain ⟨gate, hgates, hlive, hcreated⟩ := hplaced.during_of_running hphase
    cases hstep
    exact ⟨h, .during gate hphase hgates hlive hcreated⟩
  · cases hstep

theorem getNextEvent_keep {r : Readings} (h : UsesLiveGates s) (hplaced : Placed s)
    (hstep : s.getNextEvent r = some s') : UsesLiveGates s' ∧ Placed s' := by
  unfold SSScheduler.getNextEvent at hstep
  split at hstep
  · rename_i hphase
    obtain ⟨gate, hgates, hlive, hcreated⟩ := hplaced.during_of_running hphase
    split at hstep
    · cases hstep
      exact ⟨h, .ended rfl⟩
    · split at hstep
      · cases hstep
        constructor
        · refine usesLiveGates_useAll (s := s) h fun gate' hgate' => ?_
          have hmem := receiveUntil_subset _ _ _ _ gate' hgate'
          rw [hlive, ← hgates]
          exact hmem
        · dsimp only
          split
          · exact .ended rfl
          · exact .during gate rfl hgates hlive hcreated
      · cases hstep
        exact ⟨h, hplaced⟩
  · cases hstep

/-- `endRun` uses the gate before it is deleted. -/
theorem endRun_keep {closed : Nat} (h : UsesLiveGates s) (hplaced : Placed s)
    (hstep : s.endRun closed = some s') : UsesLiveGates s' ∧ Placed s' := by
  unfold SSScheduler.endRun at hstep
  split at hstep
  · rename_i hphase
    obtain ⟨gate, hgates, hlive, hcreated⟩ := hplaced.during_of_running hphase
    cases hstep
    have hlive' : gate ∈ s.live := by
      rw [hlive]
      exact List.mem_singleton_self gate
    have hused : UsesLiveGates (s.use (some gate)) :=
      (usesLiveGates_use _).mpr ⟨⟨gate, rfl, hlive'⟩, h⟩
    rw [hgates]
    cases closed with
    | zero => exact ⟨hused, .ended rfl⟩
    | succ closed =>
        refine ⟨(usesLiveGates_use _).mpr ⟨⟨gate, rfl, hlive'⟩, hused⟩, .after gate rfl hgates ?_ ?_⟩
        · show s.live.erase gate = []
          rw [hlive, List.erase_cons_head]
        · show gate < s.created
          omega
  · cases hstep

/-- Every gate that is used is alive, and `getGateway(0)` returns the gate of the run, as
long as there is one run only, and another gateway than 0 is not asked for. -/
theorem usesLiveGates_iff {run : List (Action × SSScheduler)} (hinit : system.init s)
    (hrun : system.Run s run) :
    TSys.Always UsesLiveGates s run ↔ TSys.Guarded OneRun s run := by
  refine hrun.always_iff_guarded_of (J := fun s => UsesLiveGates s ∧ Placed s)
    (fun _ h => h.1) ?_ ?_ ?_
  · rintro s a s' ⟨h, hplaced⟩ hguard hstep
    cases a with
    | startRun now => exact startRun_keep h hplaced hguard hstep
    | executionResumed now simTime => exact executionResumed_keep h hplaced hstep
    | getNextEvent r => exact getNextEvent_keep h hplaced hstep
    | getGateway gateType =>
        obtain ⟨hplaced', hiff⟩ := getGateway_iff h hplaced hstep
        exact ⟨hiff.mpr hguard, hplaced'⟩
    | initializeProxy => exact initializeProxy_keep h hplaced hstep
    | endRun closed => exact endRun_keep h hplaced hstep
  · rintro s a s' ⟨h, hplaced⟩ hguard hstep
    cases a with
    | startRun now => exact startRun_break hplaced hguard hstep
    | getGateway gateType => exact fun h' => hguard ((getGateway_iff h hplaced hstep).2.mp h')
    | executionResumed now simTime => exact absurd trivial hguard
    | getNextEvent r => exact absurd trivial hguard
    | initializeProxy => exact absurd trivial hguard
    | endRun closed => exact absurd trivial hguard
  · obtain ⟨baseTime, rfl⟩ := hinit
    exact ⟨nofun, .before rfl rfl rfl⟩

end Steps

/-- A new scheduler, at the time 0. -/
def newScheduler : SSScheduler where
  baseTime := .ofUsec 0

/-- A run in which a proxy is bound. -/
def oneRun : List Action :=
  [.startRun newScheduler.baseTime, .initializeProxy, .getGateway 0, .endRun 1]

theorem usesLiveGates_oneRun :
    TSys.Always UsesLiveGates newScheduler (TSys.trace SSScheduler.step newScheduler oneRun) := by
  refine (usesLiveGates_iff ⟨_, rfl⟩ (TSys.run_trace (fun _ _ _ h => h) _ _)).mpr ?_
  have hgateway : (0 : Int) ≤ 0 ∧ (0 : Int) < 1 := by decide
  exact ⟨rfl, trivial, hgateway, trivial, trivial⟩

/-- A second run opens gate 0, which the first has deleted; only gate 1 is alive. -/
theorem not_usesLiveGates_secondRun :
    system.init newScheduler ∧
      system.Run newScheduler (TSys.trace SSScheduler.step newScheduler
        (oneRun ++ [.startRun newScheduler.baseTime])) ∧
      ¬ TSys.Always UsesLiveGates newScheduler (TSys.trace SSScheduler.step newScheduler
        (oneRun ++ [.startRun newScheduler.baseTime])) := by
  refine ⟨⟨_, rfl⟩, TSys.run_trace (fun _ _ _ h => h) _ _, fun h => ?_⟩
  obtain ⟨gate, heq, hlive⟩ := h.last (.gate (some 0) [1]) (by decide)
  cases heq
  exact absurd hlive (by decide)

end ScadaSim.External.LiveGates
