import ScadaSim.External.Monitor

/-!
# Real-time pacing of the scheduler

`Punctual` is the purpose of `SSScheduler`: an event it returns is due, the
wall clock has reached the base time plus its arrival time.

The argument follows one call of `getNextEvent` through its waits. While the
call lasts only time passes and the gate thread inserts notifications, which
are due when they are inserted (`Later`); so the event the call aims at is
either still at the head of the queue with the target time computed for it, or
something due is (`Tracks`). A wait that ends by a notification finds the head
due, a final wait that ends by its deadline has reached the target time. What
remains is `nextMessage` coming back without either of the two. `Undisturbed` excludes
the ways in which it can: a flag left over from before the call, a deadline that is
not normalised, a spurious wake-up. `punctual_of_undisturbed` shows that nothing else
goes wrong.
-/

namespace ScadaSim.External

open Lib

/-- Every event `getNextEvent` returns is due at its return. -/
def Punctual (w : World) : Prop :=
  ∀ e, w.sim = .returned (some e) → w.Due e

/-- Some event is at the head of the queue, and it is due. -/
def HeadDue (w : World) : Prop :=
  ∃ m, w.msgQueue.head? = some m ∧ w.Due m

/-- `getNextEvent` begins with `nextMsg` clear, or with a due event; a final wait that has
to wait has a normalised deadline; no wait ends spuriously. -/
def Undisturbed (w : World) : Action → Prop
  | .getNextEvent => w.nextMsg = true → HeadDue w
  | .nextMessage _ =>
      match w.sim with
      | .calling _ (.last usec) =>
          w.nextMsg = false → (SSThread.waitTimeout w.clock usec).Normalised
      | _ => True
  | .wake _ =>
      match w.sim with
      | .waiting _ _ _ signalled => signalled = true
      | _ => True
  | _ => True

/-- If the action makes `receiveUntil` report a reception on a `nextMessage`
that neither waited for its deadline nor was signalled (`nextMsg` found set,
`EINVAL`, spurious wake-up), the head of the queue is due. -/
def ReportsDue (w : World) : Action → Prop
  | .finishCall _ =>
      match w.sim with
      | .after _ call retcode .unwaited =>
          (call = .chunk ∧ retcode ≠ 0) ∨ ∀ e, w.msgQueue.head? = some e → w.Due e
      | _ => True
  | _ => True

/-! ## What may happen during a call -/

/-- `w'` follows `w` within one call of `getNextEvent`: the clock did not go
back, arrival times changed only to due ones, and a new head is due. -/
structure Later (w w' : World) : Prop where
  clock : w.clock.usec ≤ w'.clock.usec
  baseTime : w'.baseTime = w.baseTime
  arrivalTime : ∀ m, w'.arrivalTime m = w.arrivalTime m ∨ w'.Due m
  head : w'.msgQueue.head? = w.msgQueue.head? ∨ HeadDue w'

theorem Later.due {w w' : World} (h : Later w w') {m : Msg} (hm : w.Due m) : w'.Due m := by
  rcases h.arrivalTime m with hsame | hdue
  · unfold World.Due at hm ⊢
    rw [h.baseTime, hsame]
    exact hm.trans h.clock
  · exact hdue

theorem Later.headDue {w w' : World} (h : Later w w') (hw : HeadDue w) : HeadDue w' := by
  rcases h.head with hsame | hdue
  · obtain ⟨m, hm, hdue⟩ := hw
    exact ⟨m, hsame.trans hm, h.due hdue⟩
  · exact hdue

/-- The aim of the call still describes the queue, or something due overtook
it. -/
structure Tracks (w : World) (aim : Aim) : Prop where
  msg : ∀ m, aim.msg = some m →
    aim.targetTime.usec = w.baseTime.usec + w.arrivalTime m ∨ w.Due m
  head : w.msgQueue.head? = aim.msg ∨ HeadDue w

theorem Later.tracks {w w' : World} (h : Later w w') {aim : Aim} (ht : Tracks w aim) :
    Tracks w' aim where
  msg := by
    intro m hm
    rcases ht.msg m hm with htarget | hdue
    · rcases h.arrivalTime m with hsame | hdue
      · exact .inl (by rw [htarget, h.baseTime, hsame])
      · exact .inr hdue
    · exact .inr (h.due hdue)
  head := by
    rcases ht.head with hhead | hdue
    · exact h.head.imp_left (fun hsame => hsame.trans hhead)
    · exact .inr (h.headDue hdue)

/-- Once the target time is reached, whatever is at the head is due. -/
theorem Tracks.head_due {w : World} {aim : Aim} (ht : Tracks w aim)
    (hreached : aim.targetTime.usec ≤ w.clock.usec) {e : Msg}
    (he : w.msgQueue.head? = some e) : w.Due e := by
  rcases ht.head with hhead | ⟨m, hm, hdue⟩
  · rcases ht.msg e (hhead ▸ he) with htarget | hdue
    · unfold World.Due
      rw [← htarget]
      exact hreached
    · exact hdue
  · rw [he] at hm
    cases hm
    exact hdue

/-- So is the event the call aimed at. -/
theorem Tracks.msg_due {w : World} {aim : Aim} (ht : Tracks w aim)
    (hreached : aim.targetTime.usec ≤ w.clock.usec) {e : Msg} (he : aim.msg = some e) :
    w.Due e := by
  rcases ht.msg e he with htarget | hdue
  · unfold World.Due
    rw [← htarget]
    exact hreached
  · exact hdue

theorem later_tick {w : World} {t : Timeval} (h : w.clock.usec ≤ t.usec) :
    Later w { w with clock := t } :=
  ⟨h, rfl, fun _ => .inl rfl, .inl rfl⟩

theorem later_setArrival {w : World} {m : Msg} {t : SimTime}
    (h : w.baseTime.usec + t ≤ w.clock.usec) : Later w (w.setArrival m t) := by
  refine ⟨le_refl _, rfl, fun n => ?_, .inl rfl⟩
  by_cases hn : n = m
  · right
    subst hn
    unfold World.Due World.setArrival
    dsimp only
    rw [Function.update_self]
    exact h
  · exact .inl (Function.update_of_ne hn _ _)

/-- When a due notification is inserted, so is whatever stays in front of it. -/
theorem enqueue_later {w : World} {dest : SSProxy} (h : w.Due dest.getNotificationMsg) :
    Later w (w.enqueue dest) ∧ HeadDue (w.enqueue dest) := by
  have hhead : HeadDue (w.enqueue dest) := by
    rcases msgQueueInsert_head w.arrivalTime dest.getNotificationMsg w.msgQueue with
      hnew | ⟨x, -, hle, hold⟩
    · exact ⟨_, hnew, h⟩
    · exact ⟨x, hold, (Int.add_le_add_left hle _).trans h⟩
  exact ⟨⟨le_refl _, rfl, fun _ => .inl rfl, .inr hhead⟩, hhead⟩

/-- The notification that is stamped with the time since the base time is due. -/
theorem stamped_due (w : World) (m : Msg) :
    (w.setArrival m (w.clock.usec - w.baseTime.usec)).Due m := by
  unfold World.Due World.setArrival
  dsimp only
  rw [Function.update_self]
  linarith

/-! ## The invariant of the simulation thread -/

/-- The final wait is long enough to reach the target time. -/
def Call.Reaches (call : Call) (aim : Aim) (clock : Timeval) : Prop :=
  match call with
  | .chunk => True
  | .last usec => 0 < usec ∧ aim.targetTime.usec ≤ clock.usec + usec

/-- What the simulation thread knows at each point of a call. -/
def Tracking (w : World) : SimThread → Prop
  | .running => True
  | .peeked aim => Tracks w aim
  | .entered aim => Tracks w aim
  | .polling aim curTime => Tracks w aim ∧ curTime.usec ≤ w.clock.usec
  | .calling aim call => Tracks w aim ∧ call.Reaches aim w.clock
  | .waiting aim call deadline signalled =>
      Tracks w aim ∧ (signalled = true → HeadDue w) ∧
        (call ≠ .chunk → aim.targetTime.usec * 1000 ≤ deadline.nsec)
  | .after aim _ _ .signalled => Tracks w aim ∧ HeadDue w
  | .after aim call retcode .timedOut =>
      Tracks w aim ∧ retcode ≠ 0 ∧ (call ≠ .chunk → aim.targetTime.usec ≤ w.clock.usec)
  | .after aim _ _ .unwaited => Tracks w aim
  | .returned _ => True

theorem Later.tracking {w w' : World} (h : Later w w') {s : SimThread}
    (hs : Tracking w s) : Tracking w' s := by
  cases s with
  | running => trivial
  | returned e => trivial
  | peeked aim => exact h.tracks hs
  | entered aim => exact h.tracks hs
  | polling aim curTime => exact ⟨h.tracks hs.1, hs.2.trans h.clock⟩
  | calling aim call =>
      refine ⟨h.tracks hs.1, ?_⟩
      cases call with
      | chunk => trivial
      | last usec =>
          obtain ⟨hpos, hreach⟩ := hs.2
          have := h.clock
          exact ⟨hpos, by omega⟩
  | waiting aim call deadline signalled =>
      exact ⟨h.tracks hs.1, fun hsig => h.headDue (hs.2.1 hsig), hs.2.2⟩
  | after aim call retcode origin =>
      cases origin with
      | signalled => exact ⟨h.tracks hs.1, h.headDue hs.2⟩
      | timedOut => exact ⟨h.tracks hs.1, hs.2.1, fun hcall => (hs.2.2 hcall).trans h.clock⟩
      | unwaited => exact h.tracks hs

/-- A step of the simulation thread itself changes its place and nothing the
aim depends on. -/
theorem tracking_goto {w : World} {s : SimThread} (hs : Tracking w s) :
    Tracking { w with sim := s } s := by
  have hlater : Later w { w with sim := s } :=
    ⟨le_refl _, rfl, fun _ => .inl rfl, .inl rfl⟩
  exact hlater.tracking hs

theorem tracking_consume {w : World} {s : SimThread} (hs : Tracking w s) :
    Tracking (w.consume s) s := by
  have hlater : Later w (w.consume s) := ⟨le_refl _, rfl, fun _ => .inl rfl, .inl rfl⟩
  exact hlater.tracking hs

theorem tracking_gate {w : World} {g : GateThread} (hw : Tracking w w.sim) :
    Tracking { w with gate := g } w.sim := by
  have hlater : Later w { w with gate := g } :=
    ⟨le_refl _, rfl, fun _ => .inl rfl, .inl rfl⟩
  exact hlater.tracking hw

/-- The gate thread may signal: then the head is due. -/
theorem tracking_enqueue {w : World} {dest : SSProxy} (h : w.Due dest.getNotificationMsg)
    (hw : Tracking w w.sim) : Tracking (w.enqueue dest) (w.enqueue dest).sim := by
  obtain ⟨hlater, hhead⟩ := enqueue_later h
  have hkept := hlater.tracking hw
  show Tracking (w.enqueue dest) w.sim.notify
  -- only a thread in its wait takes the signal; the notification it is woken for is due
  cases hpc : w.sim with
  | waiting aim call deadline signalled =>
      rw [hpc] at hkept
      exact ⟨hkept.1, fun _ => hhead, hkept.2.2⟩
  | running | returned e => trivial
  | peeked aim | entered aim | polling aim curTime | calling aim call
  | after aim call retcode origin =>
      rw [hpc] at hkept
      exact hkept

/-- What setting a due arrival time and inserting keep is kept by a hand-over. -/
theorem handOver_keeps {P : World → Prop} {w : World} (extAddress : String) (hw : P w)
    (hidle : P w → P { w with gate := .idle })
    (hset : ∀ m, P w → P (w.setArrival m (w.clock.usec - w.baseTime.usec)))
    (henqueue : ∀ {v : World} {dest : SSProxy}, v.Due dest.getNotificationMsg → P v →
      P (v.enqueue dest)) : P (w.handOver extAddress) := by
  cases hdest : getProxyDestination w.proxies extAddress with
  | none =>
      rw [World.handOver_of_none hdest]
      exact hidle hw
  | some dest =>
      rw [World.handOver_eq_enqueue hdest]
      exact henqueue (stamped_due w _) (hset _ hw)

theorem setArrival_now_later (w : World) (m : Msg) :
    Later w (w.setArrival m (w.clock.usec - w.baseTime.usec)) :=
  later_setArrival (by linarith)

theorem tracking_handOver {w : World} (extAddress : String) (hw : Tracking w w.sim) :
    Tracking (w.handOver extAddress) (w.handOver extAddress).sim :=
  handOver_keeps (P := fun w => Tracking w w.sim) extAddress hw tracking_gate
    (fun m h => (setArrival_now_later w m).tracking h) tracking_enqueue

/-- The wait of `nextMessage` aims at least at the target time. -/
theorem tracking_waited {w : World} {aim : Aim} {call : Call}
    (hw : Tracking w (.calling aim call)) :
    Tracking { w with sim := .waiting aim call (SSThread.waitTimeout w.clock call.ms) false }
      (.waiting aim call (SSThread.waitTimeout w.clock call.ms) false) := by
  obtain ⟨ht, hreach⟩ := hw
  refine tracking_goto ⟨ht, by simp, fun hcall => ?_⟩
  cases call with
  | chunk => exact absurd rfl hcall
  | last usec =>
      obtain ⟨hpos, hle⟩ := hreach
      rw [SSThread.waitTimeout_nsec]
      simp only [Call.ms]
      omega

/-- The target time is that of the head of the queue. -/
theorem tracks_peeked {w : World} {targetTime : Timeval}
    (htarget : targetTime = w.msgQueue.head?.elim longMaxTarget fun m =>
      timeval_add w.baseTime (w.arrivalTime m)) :
    Tracks w ⟨w.msgQueue.head?, targetTime⟩ where
  msg := by
    intro m hm
    have hhead : w.msgQueue.head? = some m := hm
    left
    rw [htarget, hhead]
    simp
  head := .inl rfl

theorem Tracks.of_after {w : World} {aim : Aim} {call : Call} {retcode : Int} {origin : Origin}
    (h : Tracking w (.after aim call retcode origin)) : Tracks w aim := by
  cases origin with
  | signalled => exact h.1
  | timedOut => exact h.1
  | unwaited => exact h

/-- Every step keeps track of the aim. -/
theorem step_tracking {w w' : World} {a : Action} (hw : Tracking w w.sim)
    (h : w.step a = some w') : Tracking w' w'.sim := by
  cases World.step_cases h with
  | tick hle => exact (later_tick hle).tracking hw
  | proxyBinding hpc | scheduleAt hpc | executionResumed hpc =>
      show Tracking _ w.sim
      rw [hpc]
      trivial
  | peeked hpc htarget => exact tracking_goto (s := .peeked _) (tracks_peeked htarget)
  | entered hpc hahead =>
      rw [hpc] at hw
      exact tracking_goto (s := .entered _) hw
  | polled hpc =>
      rw [hpc] at hw
      exact tracking_goto (s := .polling _ w.clock) ⟨hw, le_refl _⟩
  | chunk hpc =>
      rw [hpc] at hw
      exact tracking_goto (s := .calling _ .chunk) ⟨hw.1, trivial⟩
  | last hpc hpos =>
      rw [hpc] at hw
      have hcur := hw.2
      refine tracking_goto (s := .calling _ (.last _)) ⟨hw.1, hpos, ?_⟩
      rw [timeval_diff_usec_eq]
      omega
  | notWaited hpc =>
      rw [hpc] at hw
      exact tracking_consume (s := .after _ _ _ .unwaited) hw.1
  | waited hpc =>
      rw [hpc] at hw
      exact tracking_waited hw
  | signalled hpc =>
      rw [hpc] at hw
      exact tracking_consume (s := .after _ _ 0 .signalled) ⟨hw.1, hw.2.1 rfl⟩
  | spurious hpc =>
      rw [hpc] at hw
      exact tracking_consume (s := .after _ _ 0 .unwaited) hw.1
  | timedOut hpc hdeadline =>
      rw [hpc] at hw
      refine tracking_consume (s := .after _ _ ETIMEDOUT .timedOut)
        ⟨hw.1, by decide, fun hcall => ?_⟩
      -- the last wait is over: the target time is reached
      have hnsec := hw.2.2 hcall
      omega
  | again hpc hcode =>
      rw [hpc] at hw
      exact tracking_goto (s := .polling _ w.clock) ⟨Tracks.of_after hw, le_refl _⟩
  | blocked hgate hflag => exact tracking_gate hw
  | handedOver hgate hflag => exact tracking_handOver _ hw
  | woken hgate => exact tracking_handOver _ hw
  | reached | passed | received | interrupted | wentRound | delivered => trivial

/-! ## Returns of `getNextEvent` -/

theorem punctual_of_ne {w : World} (h : ∀ e, w.sim ≠ .returned (some e)) : Punctual w :=
  fun e he => absurd he (h e)

/-- A returned event stays due while only time passes or the gate thread
works. -/
theorem Later.punctual {w w' : World} (h : Later w w') (hp : Punctual w)
    (hsim : ∀ e, w'.sim = .returned (some e) → w.sim = .returned (some e)) :
    Punctual w' :=
  fun e he => h.due (hp e (hsim e he))

theorem punctual_enqueue {w : World} {dest : SSProxy} (h : w.Due dest.getNotificationMsg)
    (hp : Punctual w) : Punctual (w.enqueue dest) := by
  refine (enqueue_later h).1.punctual hp fun e he => ?_
  -- the signal does not make an event be returned
  have he : w.sim.notify = .returned (some e) := he
  cases hpc : w.sim with
  | returned r =>
      rw [hpc] at he
      exact he
  | running | peeked aim | entered aim | polling aim curTime | calling aim call
  | waiting aim call deadline signalled | after aim call retcode origin =>
      rw [hpc] at he
      cases he

theorem punctual_handOver {w : World} (extAddress : String) (hp : Punctual w) :
    Punctual (w.handOver extAddress) :=
  handOver_keeps extAddress hp id
    (fun m h => (setArrival_now_later w m).punctual h fun _ he => he) punctual_enqueue

/-- A reception that `receiveUntil` reports is the head of the queue: it is due, unless
`nextMessage` came back without a wait. -/
theorem punctual_received {w : World} {aim : Aim} {call : Call} {retcode : Int} {origin : Origin}
    {interrupt : Bool} (hpc : w.sim = .after aim call retcode origin)
    (ht : Tracking w (.after aim call retcode origin)) (hcode : call = .chunk → retcode = 0) :
    Punctual { w with sim := .returned w.msgQueue.head? } ↔
      ReportsDue w (.finishCall interrupt) := by
  have hreport : Punctual { w with sim := .returned w.msgQueue.head? } ↔
      ∀ e, w.msgQueue.head? = some e → w.Due e :=
    ⟨fun hp e he => hp e (congrArg _ he), fun hdue e he => hdue e (by injection he)⟩
  rw [hreport]
  cases origin with
  | signalled =>
      obtain ⟨_, m, hm, hdue⟩ := ht
      refine iff_of_true (fun e he => ?_) (by simp [ReportsDue, hpc])
      rw [hm] at he
      cases he
      exact hdue
  | timedOut =>
      obtain ⟨htracks, hnonzero, hreached⟩ := ht
      have hlast : call ≠ .chunk := fun hcall => hnonzero (hcode hcall)
      exact iff_of_true (fun e he => htracks.head_due (hreached hlast) he)
        (by simp [ReportsDue, hpc])
  | unwaited =>
      have hreports : ¬ (call = .chunk ∧ retcode ≠ 0) := fun h => h.2 (hcode h.1)
      simp [ReportsDue, hpc, hreports]

/-- A step keeps `Punctual` just when it satisfies `ReportsDue`. -/
theorem step_punctual {w w' : World} {a : Action} (ht : Tracking w w.sim)
    (hp : Punctual w) (h : w.step a = some w') : Punctual w' ↔ ReportsDue w a := by
  cases World.step_cases h with
  | received hpc hcode => exact punctual_received hpc (hpc ▸ ht) hcode
  | @interrupted aim retcode origin interrupt hpc hcode =>
      refine iff_of_true (punctual_of_ne (by simp)) ?_
      cases origin <;> simp [ReportsDue, hpc, hcode]
  | @again aim retcode origin interrupt hpc hcode =>
      refine iff_of_true (punctual_of_ne (by simp)) ?_
      cases origin <;> simp [ReportsDue, hpc, hcode]
  | tick hle => exact iff_of_true ((later_tick hle).punctual hp fun _ he => he) trivial
  | blocked hgate hflag => exact iff_of_true hp trivial
  | handedOver hgate hflag => exact iff_of_true (punctual_handOver _ hp) trivial
  | woken hgate => exact iff_of_true (punctual_handOver _ hp) trivial
  | reached hpc hbehind =>
      rw [hpc] at ht
      refine iff_of_true (fun e he => ?_) trivial
      simp only [timeval_greater_iff, not_lt] at hbehind
      exact Tracks.msg_due (w := w) ht hbehind (by injection he)
  | passed hpc hpast =>
      rw [hpc] at ht
      refine iff_of_true (fun e he => ?_) trivial
      have hcur := ht.2
      rw [timeval_diff_usec_eq] at hpast
      exact ht.1.msg_due (by omega) (by injection he)
  | proxyBinding hpc | scheduleAt hpc | executionResumed hpc =>
      refine iff_of_true (punctual_of_ne fun e he => ?_) trivial
      cases hpc.symm.trans he
  | peeked | entered | polled | chunk | last | notWaited | waited | signalled | spurious
  | timedOut | wentRound | delivered =>
      exact iff_of_true (punctual_of_ne fun _ he => by cases he) trivial

/-! ## Calls that are not disturbed -/

/-- In a call the flag belongs to something due, and so does a reception that
`nextMessage` reports without a wait. -/
def Fresh (w : World) : SimThread → Prop
  | .running => True
  | .returned _ => True
  | .after _ call retcode origin =>
      (w.nextMsg = true → HeadDue w) ∧
        (origin = .unwaited → (call = .chunk → retcode = 0) → HeadDue w)
  | _ => w.nextMsg = true → HeadDue w

/-- The flag is raised only together with something due. -/
theorem Later.fresh {w w' : World} (h : Later w w')
    (hflag : w'.nextMsg = true → w.nextMsg = true ∨ HeadDue w') {s : SimThread}
    (hs : Fresh w s) : Fresh w' s := by
  have hkeep : (w.nextMsg = true → HeadDue w) → w'.nextMsg = true → HeadDue w' :=
    fun hw hw' => (hflag hw').elim (fun hold => h.headDue (hw hold)) id
  cases s with
  | running | returned e => trivial
  | after aim call retcode origin =>
      exact ⟨hkeep hs.1, fun horigin hcode => h.headDue (hs.2 horigin hcode)⟩
  | peeked aim | entered aim | polling aim curTime | calling aim call
  | waiting aim call deadline signalled => exact hkeep hs

theorem fresh_goto {w : World} {s : SimThread} (hs : Fresh w s) :
    Fresh { w with sim := s } s := by
  have hlater : Later w { w with sim := s } :=
    ⟨le_refl _, rfl, fun _ => .inl rfl, .inl rfl⟩
  exact hlater.fresh .inl hs

/-- `nextMessage` clears the flag; what is left is what it reports. -/
theorem fresh_consume {w : World} {aim : Aim} {call : Call} {retcode : Int} {origin : Origin}
    (h : origin = .unwaited → (call = .chunk → retcode = 0) → HeadDue w) :
    Fresh (w.consume (.after aim call retcode origin)) (.after aim call retcode origin) := by
  have hlater : Later w (w.consume (.after aim call retcode origin)) :=
    ⟨le_refl _, rfl, fun _ => .inl rfl, .inl rfl⟩
  exact ⟨nofun, fun horigin hcode => hlater.headDue (h horigin hcode)⟩

theorem Fresh.notify {w : World} {s : SimThread} (hs : Fresh w s) : Fresh w s.notify := by
  cases s <;> exact hs

theorem fresh_enqueue {w : World} {dest : SSProxy} (h : w.Due dest.getNotificationMsg)
    (hw : Fresh w w.sim) : Fresh (w.enqueue dest) (w.enqueue dest).sim := by
  obtain ⟨hlater, hhead⟩ := enqueue_later h
  exact (hlater.fresh (fun _ => .inr hhead) hw).notify

theorem fresh_handOver {w : World} (extAddress : String) (hw : Fresh w w.sim) :
    Fresh (w.handOver extAddress) (w.handOver extAddress).sim :=
  handOver_keeps (P := fun w => Fresh w w.sim) extAddress hw
    (fun h => Later.fresh ⟨le_refl _, rfl, fun _ => .inl rfl, .inl rfl⟩ .inl h)
    (fun m h => (setArrival_now_later w m).fresh .inl h) fresh_enqueue

/-- An undisturbed step keeps this up. -/
theorem step_fresh {w w' : World} {a : Action} (hw : Fresh w w.sim) (hu : Undisturbed w a)
    (h : w.step a = some w') : Fresh w' w'.sim := by
  cases World.step_cases h with
  | tick hle => exact (later_tick hle).fresh .inl hw
  | proxyBinding hpc | scheduleAt hpc | executionResumed hpc =>
      show Fresh _ w.sim
      rw [hpc]
      trivial
  | peeked hpc htarget => exact fresh_goto (s := .peeked _) hu
  | entered hpc hahead =>
      rw [hpc] at hw
      exact fresh_goto (s := .entered _) hw
  | polled hpc =>
      rw [hpc] at hw
      exact fresh_goto (s := .polling _ w.clock) hw
  | chunk hpc =>
      rw [hpc] at hw
      exact fresh_goto (s := .calling _ .chunk) hw
  | last hpc hpos =>
      rw [hpc] at hw
      exact fresh_goto (s := .calling _ (.last _)) hw
  | @notWaited aim call garbage retcode hpc hwhy =>
      rw [hpc] at hw
      refine fresh_consume fun _ hcode => ?_
      rcases hwhy with hset | ⟨hclear, rfl, hdeadline⟩
      · exact hw hset
      · -- the loop takes `EINVAL` for no reception; the final wait has a normalised deadline
        cases call with
        | chunk => exact absurd (hcode rfl) (by decide)
        | last usec =>
            simp only [Undisturbed, hpc] at hu
            exact absurd (hu hclear) hdeadline
  | waited hpc =>
      rw [hpc] at hw
      exact fresh_goto (s := .waiting _ _ _ false) hw
  | signalled hpc => exact fresh_consume nofun
  | spurious hpc =>
      simp only [Undisturbed, hpc] at hu
      cases hu
  | timedOut hpc hdeadline => exact fresh_consume nofun
  | again hpc hcode =>
      rw [hpc] at hw
      exact fresh_goto (s := .polling _ w.clock) hw.1
  | blocked hgate hflag => exact Later.fresh ⟨le_refl _, rfl, fun _ => .inl rfl, .inl rfl⟩ .inl hw
  | handedOver hgate hflag => exact fresh_handOver _ hw
  | woken hgate => exact fresh_handOver _ hw
  | reached | passed | received | interrupted | wentRound | delivered => trivial

/-- So every reception is reported with a due head. -/
theorem Fresh.reportsDue {w : World} (hw : Fresh w w.sim) (a : Action) : ReportsDue w a := by
  cases a with
  | finishCall interrupt =>
      unfold ReportsDue
      cases hpc : w.sim with
      | after aim call retcode origin =>
          rw [hpc] at hw
          cases origin with
          | signalled | timedOut => trivial
          | unwaited =>
              by_cases hcode : call = .chunk → retcode = 0
              · obtain ⟨m, hm, hdue⟩ := hw.2 rfl hcode
                refine .inr fun e he => ?_
                rw [hm] at he
                cases he
                exact hdue
              · exact .inl (Classical.not_imp.mp hcode)
      | running | returned e | peeked aim | entered aim | polling aim curTime
      | calling aim call | waiting aim call deadline signalled => trivial
  | tick | proxyBinding | scheduleAt | executionResumed | getNextEvent | compare | gettimeofday
  | receiveUntil | nextMessage | wake | timeOut | deliver | processMessage | gateWake => trivial

/-- **Real-time pacing.** From any state outside `getNextEvent`, with any event
queue, base time and clock: along a run that is not disturbed no event is returned
ahead of real time. -/
theorem punctual_of_undisturbed {w : World} {run : List (Action × World)}
    (hw : w.sim = .running) (hrun : simulator.Run w run)
    (hguard : TSys.Guarded Undisturbed w run) : TSys.Always Punctual w run := by
  refine (hrun.always_of_guarded
    (I := fun w => Tracking w w.sim ∧ Fresh w w.sim ∧ Punctual w) ?_ hguard ?_).mono
    fun _ h => h.2.2
  · rintro w a w' ⟨ht, hf, hp⟩ hu hstep
    exact ⟨step_tracking ht hstep, step_fresh hf hu hstep,
      (step_punctual ht hp hstep).mpr (hf.reportsDue a)⟩
  · exact ⟨by rw [hw]; trivial, by rw [hw]; trivial, punctual_of_ne (by simp [hw])⟩

/-! ## A deadline that is not normalised -/

/-- One event, due at 1 s; the clock stands 99 999 µs before it, late in its
second. -/
def oneEvent : World where
  clock := .ofUsec 1300000000900001
  baseTime := .ofUsec 1300000000000000
  simTime := 0
  proxies := []
  nextMsg := false
  msgQueue := [.event 0]
  arrivalTime := fun _ => 1000000
  sim := .running
  gate := .idle
  completed := fun _ => 0
  delivered := fun _ => 0

/-- One call of `getNextEvent`. The final wait asks for 99 999 ms from a clock
reading of 900 001 µs: 1 899 001 000 ns do not fit below a second. -/
def oneCall : List Action :=
  [.getNextEvent, .compare, .gettimeofday, .receiveUntil, .nextMessage 0,
    .finishCall false]

/-- The event is returned 99 999 µs ahead of real time. -/
theorem event_returned_early :
    simulator.Run oneEvent (oneEvent.trace oneCall) ∧
      (TSys.finish oneEvent (oneEvent.trace oneCall)).sim = .returned (some (.event 0)) ∧
      ¬ Punctual (TSys.finish oneEvent (oneEvent.trace oneCall)) := by
  have hreturned : (TSys.finish oneEvent (oneEvent.trace oneCall)).sim =
      .returned (some (.event 0)) := by decide
  have hahead : (TSys.finish oneEvent (oneEvent.trace oneCall)).clock.usec <
      (TSys.finish oneEvent (oneEvent.trace oneCall)).baseTime.usec +
        (TSys.finish oneEvent (oneEvent.trace oneCall)).arrivalTime (.event 0) := by decide
  exact ⟨run_trace _ _, hreturned, fun hp => absurd (hp _ hreturned) (not_le.mpr hahead)⟩

/-- An event half a millisecond past the full second, and a call a tenth of a millisecond
before it: the deadline is normalised, and the wait lasts until then. -/
def lateEvent : World := { oneEvent with arrivalTime := fun _ => 1000500 }

def oneWait : List Action :=
  [.tick (.ofUsec 1300000001000400), .getNextEvent, .compare, .gettimeofday, .receiveUntil,
    .nextMessage 0, .tick (.ofUsec 1300000001100400), .timeOut, .finishCall false]

theorem punctual_oneWait :
    TSys.Always Punctual lateEvent (lateEvent.trace oneWait) ∧
      (TSys.finish lateEvent (lateEvent.trace oneWait)).sim = .returned (some (.event 0)) :=
  ⟨punctual_of_undisturbed rfl (run_trace _ _)
    ⟨trivial, nofun, trivial, trivial, trivial, fun _ => by decide, trivial, trivial, trivial,
      trivial⟩, by decide⟩

end ScadaSim.External
