import Mathlib.Algebra.Order.Field.Rat

/-!
# Traffic profiles

`TrafficProfile`, `TargetInfo` and the two ways the traffic profile manager
selects a profile. Doubles are rational numbers, and where `getTrafficProfile` adds
them up, the sum is whatever `Doubles.plus` rounds it to.
-/

namespace ScadaSim.Traffic

/-- An address; the unspecified one is zero. -/
abbrev IPvXAddress := Nat

structure TrafficProfile where
  requestLength : Int := 1
  requestsPerSession : Int := 1
  replyLength : Int := 1
  replyPerRequest : Int := 1
  timeBetweenRequests : Rat := 1
  timeToRespond : Rat := 1
  timeBetweenSessions : Rat := 1
  probability : Rat := 0
  WANprob : Rat := 0
  profileID : Int := -1
  label : String := "unspec"
  ownPort : Int := 0
  hopLimit : Int := 255
  deriving DecidableEq

structure TargetInfo where
  address : IPvXAddress
  port : Int
  deriving DecidableEq

/-- The value for "no server found". -/
def TargetInfo.unspecified : TargetInfo := ⟨0, -1⟩

/-- How a call can fail: `opp_error`, an index past the end of a vector of
servers or networks, the profile list being empty, or a loop that does not
end. -/
inductive Failure
  | oppError (text : String)
  | indexOutOfRange
  | noProfiles
  | nonTermination
  deriving DecidableEq

/-- Doubles, as far as the selection of a profile goes by them: the numbers that
`uniform(0, 1)` can return, and a sum as it is rounded. -/
structure Doubles where
  drawn : Rat → Prop
  plus : Rat → Rat → Rat
  drawn_range : ∀ p, drawn p → 0 ≤ p ∧ p < 1
  drawn_zero : drawn 0

/-- Every number from [0, 1), and sums that are not rounded. -/
def Doubles.exact : Doubles where
  drawn := fun p => 0 ≤ p ∧ p < 1
  plus := fun x y => x + y
  drawn_range := fun _ h => h
  drawn_zero := ⟨le_rfl, zero_lt_one⟩

instance (p : Rat) : Decidable (Doubles.exact.drawn p) :=
  inferInstanceAs (Decidable (0 ≤ p ∧ p < 1))

/-- The loop of `getTrafficProfile`: the first profile at which the sum of the
probabilities reaches `profileProb`, at the latest the last one. -/
def scanProfiles (fp : Doubles) (profileProb : Rat) :
    Rat → List TrafficProfile → Option TrafficProfile
  | _, [] => none
  | _, [t] => some t
  | cum_prob, t :: rest =>
      let cum_prob := fp.plus cum_prob t.probability
      if cum_prob ≥ profileProb then some t else scanProfiles fp profileProb cum_prob rest

/-- The loop of `getFixTrafficProfile`: the first profile with the id, or the
last one. -/
def scanFixProfile (profileID : Int) : List TrafficProfile → Option TrafficProfile
  | [] => none
  | [t] => some t
  | t :: rest => if t.profileID = profileID then some t else scanFixProfile profileID rest

/-- `isForeign` is set for a profile that leaves the AS, and else kept. -/
def decideForeign (t : TrafficProfile) (foreignServerProb : Rat) (isForeign : Bool) : Bool :=
  if t.WANprob ≥ foreignServerProb then true else isForeign

def getTrafficProfile (fp : Doubles) (profiles : List TrafficProfile)
    (profileProb foreignServerProb : Rat) (isForeign : Bool) :
    Except Failure (TrafficProfile × Bool) :=
  match scanProfiles fp profileProb 0 profiles with
  | none => .error .noProfiles
  | some t => .ok (t, decideForeign t foreignServerProb isForeign)

def getFixTrafficProfile (profiles : List TrafficProfile) (t : TrafficProfile)
    (foreignServerProb : Rat) (isForeign : Bool) : Except Failure (TrafficProfile × Bool) :=
  match scanFixProfile t.profileID profiles with
  | none => .error .noProfiles
  | some t => .ok (t, decideForeign t foreignServerProb isForeign)

end ScadaSim.Traffic
