import Mathlib.Tactic.Linarith

/-!
# Wall-clock time

`timeval` and `timespec` as the scheduler and the gate threads use them. A
`Timeval` is normalised by construction, as `gettimeofday` delivers it; a
`Timespec` is not, because `SSThread::wait` computes its own and hands it to
`pthread_cond_timedwait` unchecked.

The OMNeT++ helpers (`timeval_add` and its kin) compute exactly, in
microseconds; simulation time is counted in microseconds too.
-/

namespace ScadaSim.External

/-- Simulation time and durations, in microseconds. -/
abbrev SimTime := Int

/-- A clock reading, microseconds within the second. -/
@[ext]
structure Timeval where
  tv_sec : Int
  tv_usec : Int
  usec_nonneg : 0 ≤ tv_usec
  usec_lt : tv_usec < 1000000
  deriving DecidableEq

/-- What `SSThread::wait` passes to `pthread_cond_timedwait`. -/
structure Timespec where
  tv_sec : Int
  tv_nsec : Int
  deriving DecidableEq

/-- POSIX wants the nanoseconds within the second and answers `EINVAL`
otherwise. -/
def Timespec.Normalised (t : Timespec) : Prop :=
  0 ≤ t.tv_nsec ∧ t.tv_nsec < 1000000000

instance (t : Timespec) : Decidable t.Normalised :=
  inferInstanceAs (Decidable (_ ∧ _))

/-- The moment a `timespec` denotes, in nanoseconds. -/
def Timespec.nsec (t : Timespec) : Int := t.tv_sec * 1000000000 + t.tv_nsec

namespace Timeval

/-- The moment a `timeval` denotes, in microseconds. -/
def usec (t : Timeval) : Int := t.tv_sec * 1000000 + t.tv_usec

/-- The normalised `timeval` of a moment. -/
def ofUsec (u : Int) : Timeval where
  tv_sec := u / 1000000
  tv_usec := u % 1000000
  usec_nonneg := Int.emod_nonneg u (by decide)
  usec_lt := Int.emod_lt_of_pos u (by decide)

@[simp] theorem usec_ofUsec (u : Int) : (ofUsec u).usec = u := by
  simp only [usec, ofUsec]
  omega

end Timeval

/-! ## The OMNeT++ helpers -/

def timeval_add (t : Timeval) (d : SimTime) : Timeval := .ofUsec (t.usec + d)

def timeval_substract (t : Timeval) (d : Int) : Timeval := .ofUsec (t.usec - d)

def timeval_greater (a b : Timeval) : Bool := decide (b.usec < a.usec)

def timeval_diff_usec (t1 t2 : Timeval) : Int :=
  (t1.tv_sec - t2.tv_sec) * 1000000 + (t1.tv_usec - t2.tv_usec)

@[simp] theorem timeval_add_usec (t : Timeval) (d : SimTime) :
    (timeval_add t d).usec = t.usec + d := by
  simp [timeval_add]

@[simp] theorem timeval_substract_usec (t : Timeval) (d : Int) :
    (timeval_substract t d).usec = t.usec - d := by
  simp [timeval_substract]

@[simp] theorem timeval_greater_iff (a b : Timeval) :
    timeval_greater a b = true ↔ b.usec < a.usec := by
  simp [timeval_greater]

theorem timeval_diff_usec_eq (t1 t2 : Timeval) :
    timeval_diff_usec t1 t2 = t1.usec - t2.usec := by
  simp only [timeval_diff_usec, Timeval.usec]
  omega

/-- The target of `getNextEvent` on an empty event queue: `tv_sec` is
`LONG_MAX`. -/
def longMaxTarget : Timeval where
  tv_sec := 9223372036854775807
  tv_usec := 0
  usec_nonneg := by decide
  usec_lt := by decide

/-! ## The deadline of `SSThread::wait` -/

namespace SSThread

/-- The deadline `SSThread::wait(ms)` computes from the current time: whole
seconds are split off only above 1000 ms, and no carry reaches `tv_sec`. -/
def waitTimeout (now : Timeval) (ms : Int) : Timespec :=
  let timeout : Timespec := ⟨now.tv_sec, now.tv_usec * 1000⟩
  if ms > 1000 then
    ⟨timeout.tv_sec + ms.tdiv 1000, timeout.tv_nsec + ms.tmod 1000 * 1000000⟩
  else
    ⟨timeout.tv_sec, timeout.tv_nsec + ms * 1000000⟩

/-- Normalised or not, the deadline denotes the current time plus `ms`
milliseconds. -/
theorem waitTimeout_nsec (now : Timeval) (ms : Int) :
    (waitTimeout now ms).nsec = now.usec * 1000 + ms * 1000000 := by
  have hsplit : ms.tdiv 1000 * 1000 + ms.tmod 1000 = ms := by
    have := Int.mul_tdiv_add_tmod ms 1000
    omega
  unfold waitTimeout
  split <;> simp only [Timespec.nsec, Timeval.usec] <;> omega

/-- The deadline that `pthread_cond_timedwait` can wait for: normalised, and `ms`
milliseconds from now. -/
structure Deadline (now : Timeval) (ms : Int) (timeout : Timespec) : Prop where
  normalised : timeout.Normalised
  nsec : timeout.nsec = now.usec * 1000 + ms * 1000000

/-- The milliseconds that stay when whole seconds are split off. -/
def leftOver (ms : Int) : Int := if ms > 1000 then ms % 1000 else ms

theorem waitTimeout_nsec_part (now : Timeval) {ms : Int} (hms : 0 ≤ ms) :
    (waitTimeout now ms).tv_nsec = now.tv_usec * 1000 + leftOver ms * 1000000 := by
  unfold waitTimeout leftOver
  split
  · rw [Int.tmod_eq_emod_of_nonneg hms]
  · rfl

theorem leftOver_nonneg {ms : Int} (hms : 0 ≤ ms) : 0 ≤ leftOver ms := by
  unfold leftOver
  split <;> omega

/-- The deadline is right just where the milliseconds do not carry into the next second. -/
theorem waitTimeout_deadline_iff (now : Timeval) {ms : Int} (hms : 0 ≤ ms) :
    Deadline now ms (waitTimeout now ms) ↔ now.tv_usec + leftOver ms * 1000 < 1000000 := by
  have hpart := waitTimeout_nsec_part now hms
  have hleft := leftOver_nonneg hms
  have husec := now.usec_nonneg
  constructor
  · intro h
    have hlt := h.normalised.2
    rw [hpart] at hlt
    omega
  · intro h
    refine ⟨⟨?_, ?_⟩, waitTimeout_nsec now ms⟩
    · rw [hpart]
      omega
    · rw [hpart]
      omega

/-- A tenth of a second past the full second: a wait of 100 ms has its deadline. -/
theorem waitTimeout_deadline_early :
    Deadline (.ofUsec 1300000000100000) 100 (waitTimeout (.ofUsec 1300000000100000) 100) :=
  (waitTimeout_deadline_iff _ (by decide)).mpr (by decide)

/-- A tenth of a second before it: the nanoseconds are those of a full second. -/
theorem waitTimeout_no_carry :
    (waitTimeout (.ofUsec 1300000000900000) 100).tv_nsec = 1000000000 ∧
      ¬ Deadline (.ofUsec 1300000000900000) 100 (waitTimeout (.ofUsec 1300000000900000) 100) := by
  have hpart : (waitTimeout (.ofUsec 1300000000900000) 100).tv_nsec = 1000000000 := by decide
  refine ⟨hpart, fun h => ?_⟩
  have hlt := h.normalised.2
  rw [hpart] at hlt
  exact lt_irrefl _ hlt

end SSThread

end ScadaSim.External
