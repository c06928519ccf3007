import ScadaSim.External.Monitor

/-!
# Waiting until a target time

One call of `SSScheduler::receiveUntil`, alone with its clock readings: one before
the loop, one in `SSThread::wait` for every wait, and one at the end of every turn of
the loop. The readings are arbitrary; nothing is assumed about the clock.

`NeverLate` says that no wait that is asked for ends behind the target time, and
`always_neverLate_iff` says for which readings that is so.
-/

namespace ScadaSim.External

open Lib

/-- What `receiveUntil` asks of the gate at a reading: a chunk, the rest, or nothing. -/
def asks (targetTime curTime : Timeval) : Option Call :=
  let usec := timeval_diff_usec targetTime curTime
  if targetTime.tv_sec - curTime.tv_sec ≥ 2 ∨ usec ≥ 200000 then some .chunk
  else if usec > 0 then some (.last usec)
  else none

/-- That is the loop test and the final branch of the simulation thread. -/
theorem receiveUntil_eq_asks {w : World} {aim : Aim} {curTime : Timeval}
    (h : w.sim = .polling aim curTime) :
    w.receiveUntil = some { w with
      sim := (asks aim.targetTime curTime).elim (.returned aim.msg) (.calling aim) } := by
  unfold World.receiveUntil asks
  simp only [h]
  split
  · rfl
  · split <;> rfl

/-- A wait that was asked for: the reading of `receiveUntil` before it, the one in
`SSThread::wait`, and what was passed as milliseconds. -/
structure Wait where
  curTime : Timeval
  now : Timeval
  ms : Int

def Wait.deadline (r : Wait) : Timespec := SSThread.waitTimeout r.now r.ms

/-- The environment of one `nextMessage`: the flag, the reading in the wait, the result,
the answer of `ev.idle()`, and the reading that follows. -/
structure Turn where
  nextMsg : Bool
  now : Timeval
  retcode : Int
  idle : Bool
  reading : Timeval

/-- A call under way, at the reading `curTime`; its result when it is over. -/
structure Reception where
  curTime : Timeval
  waits : List Wait := []
  result : Option Int := none

/-- The waits that `nextMessage` asks for: none when it finds the flag set. -/
def Turn.waits (t : Turn) (curTime : Timeval) (call : Call) : List Wait :=
  if t.nextMsg then [] else [⟨curTime, t.now, call.ms⟩]

/-- One turn of the loop, or the final branch. -/
def Reception.turn (targetTime : Timeval) (r : Reception) (t : Turn) : Option Reception :=
  match r.result with
  | some _ => none
  | none =>
      match asks targetTime r.curTime with
      | none => some { r with result := some 0 }
      | some call =>
          let waits := r.waits ++ t.waits r.curTime call
          match call with
          | .chunk =>
              if t.retcode = 0 then some { r with waits := waits, result := some 1 }
              else if t.idle then some { r with waits := waits, result := some (-1) }
              else some { r with waits := waits, curTime := t.reading }
          | .last _ => some { r with waits := waits, result := some 1 }

/-- A call of `receiveUntil`, from any first reading. -/
def reception (targetTime : Timeval) : TSys Reception Turn where
  init r := r.waits = [] ∧ r.result = none
  step r t r' := r.turn targetTime t = some r'

/-- No wait has a deadline behind the target time. -/
def NeverLate (targetTime : Timeval) (r : Reception) : Prop :=
  ∀ x ∈ r.waits, x.deadline.nsec ≤ targetTime.usec * 1000

/-- If the turn asks for a wait: a chunk is asked for, and between its two readings the
clock has advanced by 100 ms less than what was left, at most; or the rest is asked for
and the clock was set back by 999 times the rest, at least. -/
def Timely (targetTime : Timeval) (r : Reception) (t : Turn) : Prop :=
  t.nextMsg = false →
    match asks targetTime r.curTime with
    | none => True
    | some .chunk => t.now.usec - r.curTime.usec ≤ targetTime.usec - r.curTime.usec - 100000
    | some (.last usec) => 999 * usec ≤ r.curTime.usec - t.now.usec

/-! ## One wait -/

/-- A chunk is asked for while 200 ms are left at least. -/
theorem le_of_asks_chunk {targetTime curTime : Timeval}
    (h : asks targetTime curTime = some .chunk) :
    curTime.usec + 200000 ≤ targetTime.usec := by
  have h1 := targetTime.usec_nonneg
  have h2 := curTime.usec_lt
  unfold asks at h
  rw [timeval_diff_usec_eq] at h
  dsimp only at h
  split at h
  · rename_i hleft
    rcases hleft with hsec | husec
    · simp only [Timeval.usec]
      omega
    · omega
  · split at h <;> cases h

/-- The rest that is asked for is what is left, in microseconds. -/
theorem eq_of_asks_last {targetTime curTime : Timeval} {usec : Int}
    (h : asks targetTime curTime = some (.last usec)) :
    usec = targetTime.usec - curTime.usec ∧ 0 < usec := by
  unfold asks at h
  rw [timeval_diff_usec_eq] at h
  dsimp only at h
  split at h
  · cases h
  · split at h
    · cases h
      exact ⟨rfl, by assumption⟩
    · cases h

/-- The deadline counts what is passed as milliseconds: a chunk takes 100 of them, the
rest a thousand times what is left. -/
theorem deadline_le_iff {targetTime : Timeval} (now : Timeval) {curTime : Timeval} {call : Call}
    (h : asks targetTime curTime = some call) :
    (Wait.deadline ⟨curTime, now, call.ms⟩).nsec ≤ targetTime.usec * 1000 ↔
      match call with
      | .chunk => now.usec - curTime.usec ≤ targetTime.usec - curTime.usec - 100000
      | .last usec => 999 * usec ≤ curTime.usec - now.usec := by
  unfold Wait.deadline
  rw [SSThread.waitTimeout_nsec]
  cases call with
  | chunk =>
      simp only [Call.ms]
      omega
  | last usec =>
      obtain ⟨husec, -⟩ := eq_of_asks_last h
      simp only [Call.ms]
      omega

/-- A chunk is in time when its wait begins within 100 ms after the reading. -/
theorem chunk_in_time {targetTime now curTime : Timeval}
    (h : asks targetTime curTime = some .chunk) (hnow : now.usec ≤ curTime.usec + 100000) :
    (Wait.deadline ⟨curTime, now, Call.chunk.ms⟩).nsec ≤ targetTime.usec * 1000 := by
  have hleft := le_of_asks_chunk h
  refine (deadline_le_iff now h).mpr ?_
  dsimp only
  omega

/-- The rest is never in time on a clock that is not set back. -/
theorem rest_late {targetTime now curTime : Timeval} {usec : Int}
    (h : asks targetTime curTime = some (.last usec)) (hnow : curTime.usec ≤ now.usec) :
    targetTime.usec * 1000 < (Wait.deadline ⟨curTime, now, (Call.last usec).ms⟩).nsec := by
  have hpos := (eq_of_asks_last h).2
  refine Int.not_le.mp fun hle => ?_
  have hback := (deadline_le_iff now h).mp hle
  dsimp only at hback
  omega

/-! ## Whole calls -/

theorem timely_iff {targetTime : Timeval} {r : Reception} {t : Turn} :
    Timely targetTime r t ↔ ∀ call, asks targetTime r.curTime = some call →
      ∀ x ∈ t.waits r.curTime call, x.deadline.nsec ≤ targetTime.usec * 1000 := by
  unfold Timely Turn.waits
  cases hasks : asks targetTime r.curTime with
  | none => simp
  | some call =>
      have hiff := deadline_le_iff t.now hasks
      cases t.nextMsg with
      | true => simp
      | false =>
          cases call with
          | chunk => simpa using hiff.symm
          | last usec => simpa using hiff.symm

/-- The waits of a turn are those of what is asked for. -/
theorem waits_of_turn {targetTime : Timeval} {r r' : Reception} {t : Turn}
    (h : r.turn targetTime t = some r') :
    (asks targetTime r.curTime = none ∧ r'.waits = r.waits) ∨
      ∃ call, asks targetTime r.curTime = some call ∧
        r'.waits = r.waits ++ t.waits r.curTime call := by
  unfold Reception.turn at h
  cases hresult : r.result with
  | some code => simp [hresult] at h
  | none =>
      simp only [hresult] at h
      cases hasks : asks targetTime r.curTime with
      | none =>
          simp only [hasks] at h
          cases h
          exact .inl ⟨rfl, rfl⟩
      | some call =>
          -- the waits are recorded however the turn goes on
          right
          refine ⟨call, rfl, ?_⟩
          simp only [hasks] at h
          cases call with
          | chunk =>
              dsimp only at h
              split at h
              · cases h
                rfl
              · split at h
                · cases h
                  rfl
                · cases h
                  rfl
          | last usec =>
              cases h
              rfl

/-- No wait of a call ends behind the target time just when every turn that waits is
timely. -/
theorem always_neverLate_iff {targetTime : Timeval} {r : Reception}
    (hinit : (reception targetTime).init r) {tr : List (Turn × Reception)}
    (hrun : (reception targetTime).Run r tr) :
    TSys.Always (NeverLate targetTime) r tr ↔ TSys.Guarded (Timely targetTime) r tr := by
  refine hrun.always_iff_guarded (I := fun _ => True) (fun _ _ _ _ _ => trivial) ?_ trivial ?_
  · intro r t r' _ hr hstep
    rw [timely_iff]
    rcases waits_of_turn hstep with ⟨hnone, hwaits⟩ | ⟨call, hcall, hwaits⟩
    · simp [hnone, NeverLate, hwaits]
      exact hr
    · unfold NeverLate
      rw [hwaits]
      constructor
      · intro h call' hcall' x hx
        rw [hcall] at hcall'
        cases hcall'
        exact h x (List.mem_append_right _ hx)
      · intro h x hx
        exact (List.mem_append.mp hx).elim (hr x) (h call hcall x)
  · intro x hx
    rw [hinit.1] at hx
    cases hx

/-- At the beginning of time, with no message pending. -/
def firstTurn : Turn where
  nextMsg := false
  now := .ofUsec 0
  retcode := ETIMEDOUT
  idle := false
  reading := .ofUsec 100000

/-- One second is left: 100 ms of it are asked for. -/
theorem neverLate_chunk :
    TSys.Always (NeverLate (.ofUsec 1000000)) { curTime := .ofUsec 0 }
      [(firstTurn, { curTime := .ofUsec 100000, waits := [⟨.ofUsec 0, .ofUsec 0, 100⟩] })] := by
  have hrun : (reception (.ofUsec 1000000)).Run { curTime := .ofUsec 0 }
      [(firstTurn, { curTime := .ofUsec 100000, waits := [⟨.ofUsec 0, .ofUsec 0, 100⟩] })] :=
    ⟨rfl, trivial⟩
  have hinit : (reception (.ofUsec 1000000)).init { curTime := .ofUsec 0 } := ⟨rfl, rfl⟩
  refine (always_neverLate_iff hinit hrun).mpr ⟨?_, trivial⟩
  intro _
  change (0 : Int) ≤ 900000
  decide

/-- 100 ms are left: 100000 µs are asked for, and taken for 100 s. -/
theorem late_rest :
    (reception (.ofUsec 100000)).init { curTime := .ofUsec 0 } ∧
      (reception (.ofUsec 100000)).Run { curTime := .ofUsec 0 }
        [(firstTurn, { curTime := .ofUsec 0, waits := [⟨.ofUsec 0, .ofUsec 0, 100000⟩],
                       result := some 1 })] ∧
      ¬ TSys.Always (NeverLate (.ofUsec 100000)) { curTime := .ofUsec 0 }
        [(firstTurn, { curTime := .ofUsec 0, waits := [⟨.ofUsec 0, .ofUsec 0, 100000⟩],
                       result := some 1 })] := by
  refine ⟨⟨rfl, rfl⟩, ⟨rfl, trivial⟩, ?_⟩
  intro h
  exact absurd (h.last _ (List.mem_singleton_self _)) (by decide)

end ScadaSim.External
