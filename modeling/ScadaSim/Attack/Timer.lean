import ScadaSim.Traffic.Profile

/-!
# Self messages of the attack generators

A self message is known by the time it is scheduled for, if it is. Simulation time
and the delays are rational numbers.
-/

namespace ScadaSim.Attack

/-- Runtime errors: `opp_error`, an index past the end of a vector, an address that is
not resolved, and `scheduleAt` for a message that is scheduled or a time in the past. -/
inductive Fault
  | oppError (text : String)
  | indexOutOfRange
  | unresolved
  | alreadyScheduled
  | past
  deriving DecidableEq

abbrev Timer := Option Rat

/-- `scheduleAt(simTime() + delay, msg)`. -/
def scheduleAt (msg : Timer) (simTime delay : Rat) : Except Fault Timer :=
  match msg with
  | some _ => .error .alreadyScheduled
  | none => if delay < 0 then .error .past else .ok (some (simTime + delay))

theorem scheduleAt_none_cases (simTime delay : Rat) :
    scheduleAt none simTime delay = .error .past ∨
      scheduleAt none simTime delay = .ok (some (simTime + delay)) := by
  by_cases h : delay < 0
  · exact .inl (by simp [scheduleAt, h])
  · exact .inr (by simp [scheduleAt, h])

end ScadaSim.Attack
