import ScadaSim.Lib.Outcome
import ScadaSim.Lib.TSys
import ScadaSim.Traffic.TransmissionConfig

/-!
# The traced drop-tail queue

`DropTailTraceQueue`: a queue that drops what comes when it is full, and writes out at
the end of every interval how many frames it has accepted and dropped. The base class is
not modelled: it hands over frames and asks for them at any time.

Once its timer is running the queue keeps order, capacity and counts over every run
(`always_right`). But `initialize` schedules the timer message before it makes it
(`not_rightRuns`), so that only a queue that is not traced is right (`rightRuns_iff`).
-/

namespace ScadaSim.Queue

open Lib Traffic

/-- What `scheduleAt` refuses. -/
inductive Fault
  | nullMessage
  | past
  | alreadyScheduled
  | notOwned
  deriving DecidableEq

/-- The parameters of the module. -/
structure Parameters where
  frameCapacity : Int
  intervalSize : Rat
  traceOn : Bool

/-- The members, the messages that exist and are owned by the module, and its messages
that are scheduled, with their times. A message is known by its address. -/
structure DropTailTraceQueue (F : Type) where
  frameCapacity : Int
  intervalSize : Rat
  tracingOn : Bool
  queue : List F
  dropsInInterval : Int
  framesInInterval : Int
  traceMessage : Option Nat
  owned : List Nat
  scheduled : List (Rat × Nat)

/-- What is observed: the fate of a frame, or the values that are written at a timer. -/
inductive Observed (F : Type)
  | accepted (frame : F)
  | dropped (frame : F)
  | dequeued (frame : F)
  | recorded (frames drops : Int)

namespace DropTailTraceQueue

variable {F : Type}

/-- An address that is no message of the module is refused, or worse. -/
def scheduleAt (s : DropTailTraceQueue F) (simTime t : Rat) (msg : Option Nat) :
    Except Fault (DropTailTraceQueue F) :=
  match msg with
  | none => .error .nullMessage
  | some msg =>
      if t < simTime then .error .past
      else if msg ∈ s.scheduled.map Prod.snd then .error .alreadyScheduled
      else if msg ∈ s.owned then
        .ok { s with owned := s.owned.erase msg, scheduled := (t, msg) :: s.scheduled }
      else .error .notOwned

/-- For a new module: its members are arbitrary, its queue is empty, and no message belongs
to it. `fresh` is the address of the message that is made. -/
def initializeModule (par : Parameters) (simTime : Rat) (raw : DropTailTraceQueue F)
    (fresh : Nat) : Except Fault (DropTailTraceQueue F) := do
  let s : DropTailTraceQueue F :=
    { raw with
      frameCapacity := par.frameCapacity
      intervalSize := par.intervalSize
      tracingOn := par.traceOn
      queue := []
      owned := []
      scheduled := [] }
  let s ←
    if s.tracingOn then s.scheduleAt simTime (simTime + s.intervalSize) s.traceMessage
    else .ok s
  -- only now the message is made
  return { s with
    traceMessage := some fresh
    owned := fresh :: s.owned
    dropsInInterval := 0
    framesInInterval := 0 }

/-- Capacity 0 is no limit. A frame that does not fit is deleted, and the result is then
true. -/
def enqueue (s : DropTailTraceQueue F) (msg : F) : DropTailTraceQueue F × Bool :=
  if s.frameCapacity ≠ 0 ∧ (s.queue.length : Int) ≥ s.frameCapacity then
    ({ s with dropsInInterval := int32 (s.dropsInInterval + 1) }, true)
  else
    ({ s with
        framesInInterval := int32 (s.framesInInterval + 1)
        queue := s.queue ++ [msg] }, false)

/-- From an empty queue NULL is returned. -/
def dequeue (s : DropTailTraceQueue F) : DropTailTraceQueue F × Option F :=
  match s.queue with
  | [] => (s, none)
  | pk :: rest => ({ s with queue := rest }, some pk)

/-- The result tells that the frame is not in the queue, though the comment in the source has
it the other way round. -/
theorem enqueue_result (s : DropTailTraceQueue F) (msg : F) :
    (s.enqueue msg).2 = true ↔ (s.enqueue msg).1.queue = s.queue := by
  unfold enqueue
  split
  · exact iff_of_true rfl rfl
  · exact iff_of_false Bool.false_ne_true (by simp)

/-- What is no timer is handled by the base class, and everything when tracing is off:
`none`. With the state come the values that are written to `frameVec` and `dropVec`. -/
def handleMessage (s : DropTailTraceQueue F) (simTime : Rat) (msg : Nat) (isSelfMessage : Bool) :
    Option (Except Fault (DropTailTraceQueue F × Int × Int)) :=
  if s.tracingOn then
    if isSelfMessage then
      some (do
        let recorded := (s.framesInInterval, s.dropsInInterval)
        let s ← { s with framesInInterval := 0, dropsInInterval := 0 }.scheduleAt simTime
          (simTime + s.intervalSize) (some msg)
        return (s, recorded))
    else none
  else none

end DropTailTraceQueue

inductive Event (F : Type)
  | enqueue (msg : F)
  | dequeue
  | timer (simTime : Rat) (msg : Nat)

/-- The module, the history, the latest observation first, and an error, which ends the
simulation. -/
structure World (F : Type) where
  module : DropTailTraceQueue F
  history : List (Observed F) := []
  fault : Option Fault := none

namespace World

variable {F : Type}

/-- A message that is delivered is no longer scheduled, and belongs to the module again. -/
def deliver (s : DropTailTraceQueue F) (simTime : Rat) (msg : Nat) : DropTailTraceQueue F :=
  { s with owned := msg :: s.owned, scheduled := s.scheduled.erase (simTime, msg) }

/-- The base class has no timer of its own. -/
def handle (w : World F) : Event F → Option (World F)
  | .enqueue msg =>
      let r := w.module.enqueue msg
      let seen := if r.2 then .dropped msg else .accepted msg
      some { w with module := r.1, history := seen :: w.history }
  | .dequeue =>
      let r := w.module.dequeue
      some { w with module := r.1, history := (r.2.map .dequeued).toList ++ w.history }
  | .timer simTime msg =>
      if (simTime, msg) ∈ w.module.scheduled then
        match (deliver w.module simTime msg).handleMessage simTime msg true with
        | none => none
        | some (.ok r) =>
            some { w with module := r.1, history := .recorded r.2.1 r.2.2 :: w.history }
        | some (.error e) => some { w with fault := some e }
      else none

end World

/-- From `initialize` on. Frames come and are asked for at any time, and the timer comes
when it is scheduled. -/
def system (F : Type) : TSys (World F) (Event F) where
  init w := ∃ par simTime raw fresh s,
    DropTailTraceQueue.initializeModule par simTime raw fresh = .ok s ∧ w = { module := s }
  step w e w' := w.fault = none ∧ w.handle e = some w'

/-! ## What is right -/

section Histories

variable {F : Type}

/-- The frames that were accepted, in this order. -/
def accepted : List (Observed F) → List F
  | [] => []
  | .accepted frame :: past => accepted past ++ [frame]
  | _ :: past => accepted past

/-- The frames that were dequeued, in this order. -/
def dequeued : List (Observed F) → List F
  | [] => []
  | .dequeued frame :: past => dequeued past ++ [frame]
  | _ :: past => dequeued past

/-- The number of frames accepted since the values were last written. -/
def framesSince : List (Observed F) → Nat
  | [] => 0
  | .recorded _ _ :: _ => 0
  | .accepted _ :: past => framesSince past + 1
  | _ :: past => framesSince past

/-- The number of frames dropped since then. -/
def dropsSince : List (Observed F) → Nat
  | [] => 0
  | .recorded _ _ :: _ => 0
  | .dropped _ :: past => dropsSince past + 1
  | _ :: past => dropsSince past

/-- All values that are written are the numbers of the interval. -/
def Counted : List (Observed F) → Prop
  | [] => True
  | .recorded frames drops :: past =>
      frames = framesSince past ∧ drops = dropsSince past ∧ Counted past
  | _ :: past => Counted past

end Histories

/-- The frames that were accepted are those that were dequeued and those still there, the
queue is not longer than its capacity, one timer is scheduled, and the values are right. -/
structure Right {F : Type} (w : World F) : Prop where
  noFault : w.fault = none
  fifo : accepted w.history = dequeued w.history ++ w.module.queue
  capacity : w.module.frameCapacity ≠ 0 → (w.module.queue.length : Int) ≤ w.module.frameCapacity
  timer : w.module.tracingOn = true → w.module.scheduled.length = 1
  counted : Counted w.history

/-- `initialize` succeeds, and everything is right in all runs from there. -/
def RightRuns (F : Type) (par : Parameters) (simTime : Rat) (raw : DropTailTraceQueue F)
    (fresh : Nat) : Prop :=
  ∃ s, DropTailTraceQueue.initializeModule par simTime raw fresh = .ok s ∧
    ∀ run, (system F).Run { module := s } run → TSys.Always Right { module := s } run

/-! ## Once the timer is running -/

/-- A queue that is empty, with its timer scheduled if tracing is on. -/
structure Started {F : Type} (w : World F) : Prop where
  noFault : w.fault = none
  noHistory : w.history = []
  queue : w.module.queue = []
  frames : w.module.framesInInterval = 0
  drops : w.module.dropsInInterval = 0
  timer : w.module.tracingOn = true → ∃ timer, w.module.scheduled = [timer]
  frameCapacity : 0 ≤ w.module.frameCapacity
  intervalSize : w.module.tracingOn = true → 0 ≤ w.module.intervalSize

/-- The invariant. The counters are those of C, and what they count is exact as long as
there have not been more frames than an `int` has values. The interval matters to a queue
that is traced only. -/
structure Kept {F : Type} (w : World F) : Prop where
  noFault : w.fault = none
  fifo : accepted w.history = dequeued w.history ++ w.module.queue
  capacity : w.module.frameCapacity ≠ 0 → (w.module.queue.length : Int) ≤ w.module.frameCapacity
  timer : w.module.tracingOn = true → ∃ timer, w.module.scheduled = [timer]
  frames : w.module.framesInInterval = int32 (framesSince w.history)
  drops : w.module.dropsInInterval = int32 (dropsSince w.history)
  counted : w.history.length < 2147483648 → Counted w.history
  frameCapacity : 0 ≤ w.module.frameCapacity
  intervalSize : w.module.tracingOn = true → 0 ≤ w.module.intervalSize

section Runs

variable {F : Type} {w w' : World F}

theorem framesSince_le (history : List (Observed F)) : framesSince history ≤ history.length := by
  induction history with
  | nil => exact Nat.le_refl 0
  | cons e past ih => cases e <;> simp only [framesSince, List.length_cons] <;> omega

theorem dropsSince_le (history : List (Observed F)) : dropsSince history ≤ history.length := by
  induction history with
  | nil => exact Nat.le_refl 0
  | cons e past ih => cases e <;> simp only [dropsSince, List.length_cons] <;> omega

theorem Kept.right (h : Kept w) (hlength : w.history.length < 2147483648) : Right w where
  noFault := h.noFault
  fifo := h.fifo
  capacity := h.capacity
  timer := by
    intro htrace
    obtain ⟨timer, htimer⟩ := h.timer htrace
    rw [htimer]
    rfl
  counted := h.counted hlength

theorem Kept.start (h : Started w) : Kept w where
  noFault := h.noFault
  fifo := by rw [h.noHistory, h.queue]; rfl
  capacity := by
    intro hcapacity
    have hnonneg := h.frameCapacity
    rw [h.queue, List.length_nil]
    omega
  timer := h.timer
  frames := by rw [h.frames, h.noHistory]; exact int32_zero.symm
  drops := by rw [h.drops, h.noHistory]; exact int32_zero.symm
  counted := by
    intro _
    rw [h.noHistory]
    trivial
  frameCapacity := h.frameCapacity
  intervalSize := h.intervalSize

theorem Kept.enqueue (h : Kept w) (msg : F) : Kept { w with
    module := (w.module.enqueue msg).1
    history := (if (w.module.enqueue msg).2 then .dropped msg else .accepted msg) ::
      w.history } := by
  unfold DropTailTraceQueue.enqueue
  split
  · -- full: the frame is counted and deleted
    exact
      { noFault := h.noFault
        fifo := h.fifo
        capacity := h.capacity
        timer := h.timer
        frames := h.frames
        drops := by
          show int32 (w.module.dropsInInterval + 1) = int32 ((dropsSince w.history + 1 : Nat) : Int)
          rw [h.drops, int32_succ]
        counted := fun hlt => h.counted (Nat.lt_of_succ_lt hlt)
        frameCapacity := h.frameCapacity
        intervalSize := h.intervalSize }
  · rename_i hroom
    exact
      { noFault := h.noFault
        fifo := by
          show accepted w.history ++ [msg] = dequeued w.history ++ (w.module.queue ++ [msg])
          rw [h.fifo, List.append_assoc]
        capacity := by
          intro hcapacity
          have hlt : ¬ (w.module.queue.length : Int) ≥ w.module.frameCapacity :=
            fun hge => hroom ⟨hcapacity, hge⟩
          dsimp only
          rw [List.length_append, List.length_singleton]
          omega
        timer := h.timer
        frames := by
          show int32 (w.module.framesInInterval + 1) =
            int32 ((framesSince w.history + 1 : Nat) : Int)
          rw [h.frames, int32_succ]
        drops := h.drops
        counted := fun hlt => h.counted (Nat.lt_of_succ_lt hlt)
        frameCapacity := h.frameCapacity
        intervalSize := h.intervalSize }

theorem Kept.dequeue (h : Kept w) : Kept { w with
    module := w.module.dequeue.1
    history := (w.module.dequeue.2.map .dequeued).toList ++ w.history } := by
  unfold DropTailTraceQueue.dequeue
  split
  · exact ⟨h.noFault, h.fifo, h.capacity, h.timer, h.frames, h.drops, h.counted, h.frameCapacity,
      h.intervalSize⟩
  · rename_i pk rest hqueue
    exact
      { noFault := h.noFault
        fifo := by
          have hfifo := h.fifo
          rw [hqueue] at hfifo
          show accepted w.history = (dequeued w.history ++ [pk]) ++ rest
          rw [hfifo, List.append_assoc]
          rfl
        capacity := by
          intro hcapacity
          have hle := h.capacity hcapacity
          rw [hqueue, List.length_cons] at hle
          dsimp only
          omega
        timer := h.timer
        frames := h.frames
        drops := h.drops
        counted := fun hlt => h.counted (Nat.lt_of_succ_lt hlt)
        frameCapacity := h.frameCapacity
        intervalSize := h.intervalSize }

/-- The timer is the only message that is scheduled, and is scheduled again. -/
theorem Kept.handleMessage (h : Kept w) {simTime : Rat} {msg : Nat}
    (hmem : (simTime, msg) ∈ w.module.scheduled) (htrace : w.module.tracingOn = true) :
    ∃ r, (World.deliver w.module simTime msg).handleMessage simTime msg true = some (.ok r) ∧
      Kept { w with module := r.1, history := .recorded r.2.1 r.2.2 :: w.history } := by
  obtain ⟨timer, htimer⟩ := h.timer htrace
  rw [htimer] at hmem
  obtain rfl := List.mem_singleton.mp hmem
  have hgone : w.module.scheduled.erase (simTime, msg) = [] := by
    rw [htimer, List.erase_cons_head]
  have hpast : ¬ simTime + w.module.intervalSize < simTime := by
    have hinterval := h.intervalSize htrace
    rw [not_lt]
    exact le_add_of_nonneg_right hinterval
  refine ⟨({ World.deliver w.module simTime msg with
    framesInInterval := 0
    dropsInInterval := 0
    owned := w.module.owned
    scheduled := [(simTime + w.module.intervalSize, msg)] },
    w.module.framesInInterval, w.module.dropsInInterval), ?_, ?_⟩
  · simp [DropTailTraceQueue.handleMessage, DropTailTraceQueue.scheduleAt, World.deliver, hgone,
      hpast, htrace, Bind.bind, Except.bind, Pure.pure, Except.pure]
  · exact
      { noFault := h.noFault
        fifo := h.fifo
        capacity := h.capacity
        timer := fun _ => ⟨_, rfl⟩
        frames := int32_zero.symm
        drops := int32_zero.symm
        counted := by
          intro hlt
          have hlt' : w.history.length < 2147483648 := Nat.lt_of_succ_lt hlt
          have hframes := framesSince_le w.history
          have hdrops := dropsSince_le w.history
          refine ⟨?_, ?_, h.counted hlt'⟩
          · rw [h.frames, int32_eq (by omega) (by omega)]
          · rw [h.drops, int32_eq (by omega) (by omega)]
        frameCapacity := h.frameCapacity
        intervalSize := h.intervalSize }

theorem Kept.step {e : Event F} (h : Kept w) (hstep : (system F).step w e w') : Kept w' := by
  obtain ⟨-, hstep⟩ := hstep
  cases e with
  | enqueue msg =>
      cases hstep
      exact h.enqueue msg
  | dequeue =>
      cases hstep
      exact h.dequeue
  | timer simTime msg =>
      unfold World.handle at hstep
      dsimp only at hstep
      split at hstep
      · rename_i hdue
        by_cases htrace : w.module.tracingOn = true
        · obtain ⟨r, hr, hkept⟩ := h.handleMessage hdue htrace
          rw [hr] at hstep
          cases hstep
          exact hkept
        · have hbase : (World.deliver w.module simTime msg).handleMessage simTime msg true = none :=
            if_neg htrace
          rw [hbase] at hstep
          cases hstep
      · cases hstep

/-- With its timer running the queue is right in every run. -/
theorem always_right {run : List (Event F × World F)} (hstart : Started w)
    (hrun : (system F).Run w run) :
    TSys.Always (fun w => w.history.length < 2147483648 → Right w) w run :=
  (hrun.always (fun _ _ _ h hstep => h.step hstep) (Kept.start hstart)).mono fun _ h => h.right

end Runs

/-! ## From `initialize` -/

/-- Without tracing `initialize` leaves such a queue. -/
theorem initializeModule_untraced {F : Type} {par : Parameters} (htrace : par.traceOn = false)
    (hcapacity : 0 ≤ par.frameCapacity) (simTime : Rat) (raw : DropTailTraceQueue F)
    (fresh : Nat) :
    ∃ s, DropTailTraceQueue.initializeModule par simTime raw fresh = .ok s ∧
      Started { module := s } := by
  unfold DropTailTraceQueue.initializeModule
  dsimp only
  rw [htrace, if_neg Bool.false_ne_true, ok_bind]
  exact ⟨_, rfl, rfl, rfl, rfl, rfl, rfl, nofun, hcapacity, nofun⟩

/-- With tracing on it is refused, whatever the pointer holds. -/
theorem initializeModule_traced {F : Type} {par : Parameters} (htrace : par.traceOn = true)
    (simTime : Rat) (raw : DropTailTraceQueue F) (fresh : Nat) :
    ∃ e, DropTailTraceQueue.initializeModule par simTime raw fresh = .error e := by
  unfold DropTailTraceQueue.initializeModule DropTailTraceQueue.scheduleAt
  dsimp only
  rw [if_pos htrace]
  cases raw.traceMessage with
  | none => exact ⟨_, rfl⟩
  | some msg =>
      dsimp only
      split
      · exact ⟨_, rfl⟩
      · exact ⟨_, rfl⟩

/-- There is no run of the queue with tracing on. -/
theorem not_rightRuns (F : Type) (frameCapacity : Int) (intervalSize simTime : Rat)
    (raw : DropTailTraceQueue F) (fresh : Nat) :
    ¬ RightRuns F ⟨frameCapacity, intervalSize, true⟩ simTime raw fresh := by
  rintro ⟨s, hs, -⟩
  have htrace : (Parameters.mk frameCapacity intervalSize true).traceOn = true := rfl
  obtain ⟨e, he⟩ := initializeModule_traced htrace simTime raw fresh
  rw [he] at hs
  cases hs

/-! ## Without tracing -/

section Untraced

variable {F : Type} {w w' : World F}

theorem counted_of_unrecorded {history : List (Observed F)}
    (h : ∀ frames drops, Observed.recorded frames drops ∉ history) : Counted history := by
  induction history with
  | nil => trivial
  | cons e past ih =>
      have hpast : Counted past := ih fun frames drops hmem => h frames drops (.tail e hmem)
      cases e with
      | recorded frames drops => exact absurd List.mem_cons_self (h frames drops)
      | accepted _ => exact hpast
      | dropped _ => exact hpast
      | dequeued _ => exact hpast

/-- A queue that is not traced, which writes nothing. -/
structure Untraced (w : World F) : Prop where
  kept : Kept w
  tracingOn : w.module.tracingOn = false
  unrecorded : ∀ frames drops, Observed.recorded frames drops ∉ w.history

/-- The counters may wrap, but nothing is made of them. -/
theorem Untraced.right (h : Untraced w) : Right w where
  noFault := h.kept.noFault
  fifo := h.kept.fifo
  capacity := h.kept.capacity
  timer := by
    rw [h.tracingOn]
    exact nofun
  counted := counted_of_unrecorded h.unrecorded

theorem Untraced.step {e : Event F} (h : Untraced w) (hstep : (system F).step w e w') :
    Untraced w' := by
  have hkept : Kept w' := h.kept.step hstep
  obtain ⟨-, hstep⟩ := hstep
  cases e with
  | enqueue msg =>
      cases hstep
      refine ⟨hkept, ?_, fun frames drops hmem => ?_⟩
      · dsimp only
        unfold DropTailTraceQueue.enqueue
        split
        · exact h.tracingOn
        · exact h.tracingOn
      · rcases List.mem_cons.mp hmem with hnew | hold
        · split at hnew
          · cases hnew
          · cases hnew
        · exact h.unrecorded frames drops hold
  | dequeue =>
      cases hstep
      refine ⟨hkept, ?_, fun frames drops hmem => ?_⟩
      · dsimp only
        unfold DropTailTraceQueue.dequeue
        split
        · exact h.tracingOn
        · exact h.tracingOn
      · rcases List.mem_append.mp hmem with hnew | hold
        · obtain ⟨frame, -, hframe⟩ := Option.map_eq_some_iff.mp (Option.mem_toList.mp hnew)
          cases hframe
        · exact h.unrecorded frames drops hold
  | timer simTime msg =>
      unfold World.handle at hstep
      dsimp only at hstep
      have hbase : (World.deliver w.module simTime msg).handleMessage simTime msg true = none :=
        if_neg (by rw [World.deliver, h.tracingOn]; exact Bool.false_ne_true)
      rw [hbase] at hstep
      split at hstep
      · cases hstep
      · cases hstep

/-- A queue is right in every run from `initialize` just when it is not traced and its
capacity is not negative. -/
theorem rightRuns_iff (par : Parameters) (simTime : Rat) (raw : DropTailTraceQueue F)
    (fresh : Nat) : RightRuns F par simTime raw fresh ↔
      par.traceOn = false ∧ 0 ≤ par.frameCapacity := by
  constructor
  · rintro ⟨s, hs, hright⟩
    have htrace : par.traceOn = false := by
      by_contra hon
      obtain ⟨e, he⟩ := initializeModule_traced (Bool.eq_true_of_not_eq_false hon) simTime raw fresh
      rw [he] at hs
      cases hs
    refine ⟨htrace, ?_⟩
    unfold DropTailTraceQueue.initializeModule at hs
    dsimp only at hs
    rw [htrace, if_neg Bool.false_ne_true, ok_bind] at hs
    cases hs
    by_contra hneg
    have hcapacity := (hright [] trivial).head.capacity
    dsimp only [List.length_nil] at hcapacity
    omega
  · rintro ⟨htrace, hcapacity⟩
    obtain ⟨s, hs, hstarted⟩ := initializeModule_untraced htrace hcapacity simTime raw fresh
    have htracing : s.tracingOn = false := by
      unfold DropTailTraceQueue.initializeModule at hs
      dsimp only at hs
      rw [htrace, if_neg Bool.false_ne_true, ok_bind] at hs
      cases hs
      rfl
    have huntraced : Untraced { module := s } :=
      ⟨Kept.start hstarted, htracing, fun _ _ hmem => by cases hmem⟩
    exact ⟨s, hs, fun run hrun =>
      (hrun.always (fun _ _ _ h hstep => h.step hstep) huntraced).mono fun _ h => h.right⟩

end Untraced

/-- A module in memory that was zero. -/
def zeroed : DropTailTraceQueue Nat where
  frameCapacity := 0
  intervalSize := 0
  tracingOn := false
  queue := []
  dropsInInterval := 0
  framesInInterval := 0
  traceMessage := none
  owned := []
  scheduled := []

/-- Room for 100 frames, and an interval of a second. -/
theorem initializeModule_zeroed :
    (DropTailTraceQueue.initializeModule ⟨100, 1, true⟩ 0 zeroed 1).toBool = false ∧
      ¬ RightRuns Nat ⟨100, 1, true⟩ 0 zeroed 1 := by
  refine ⟨by decide +kernel, ?_⟩
  rintro ⟨s, hs, -⟩
  cases hs

end ScadaSim.Queue
